import ConceptModel.Proofs.Number
import ConceptModel.Proofs.Text.Projection

/-!
# Texts of one identifier

Normalizing transcribes a text and puts an underscore in front where it is needed.  So two texts
have one identifier if they have one transcription, or if that of one is that of the other behind
an underscore: `normalizeIdentifier_eq_iff`.  Texts of normal characters transcribe to
themselves, while integers lose their sign: `normalizeIdentifier_int_eq_iff`.
-/

namespace ConceptModel.Text

/-! ### Underscores in front -/

theorem guardStart_eq_iff
    {cs ds : List Char} :
  guardStart cs = guardStart ds ↔
    cs = ds ∨ (guardStart ds ≠ ds ∧ cs = '_' :: ds) ∨ (guardStart cs ≠ cs ∧ ds = '_' :: cs)
  := by
  constructor
  · intro same
    by_cases left : guardStart cs = cs <;> by_cases right : guardStart ds = ds
    · exact .inl (left.symm.trans (same.trans right))
    · rw [left, guardStart_of_ne right] at same
      exact .inr (.inl ⟨right, same⟩)
    · rw [right, guardStart_of_ne left] at same
      exact .inr (.inr ⟨left, same.symm⟩)
    · rw [guardStart_of_ne left, guardStart_of_ne right] at same
      exact .inl (List.cons.inj same).2
  · rintro (rfl | ⟨guarded, rfl⟩ | ⟨guarded, rfl⟩)
    · rfl
    · rw [guardStart_of_ne guarded, guardStart_underscore]
    · rw [guardStart_of_ne guarded, guardStart_underscore]

/-! ### Transcriptions -/

/-- The text of normal characters that stands for a text inside an identifier. -/
def transcribed (s : String) : String :=
  String.ofList ((items (s.toList.map underscored)).flatMap Item.normalize)

/-- Whether a text is another one behind the underscore that makes it an identifier. -/
def Guards (s t : String) : Prop := ¬ IsIdentifier t ∧ s = "_" ++ t

/-- Whether two texts have one transcription, but for an underscore that makes one of them an
identifier. -/
def Collide (s t : String) : Prop :=
  transcribed s = transcribed t ∨ Guards (transcribed s) (transcribed t) ∨
    Guards (transcribed t) (transcribed s)

theorem Normal.guardStart_eq_self_iff
    {cs : List Char} (h : Normal cs) :
  Text.guardStart cs = cs ↔ IsIdentifier (String.ofList cs)
  := by
  constructor
  · intro kept
    rw [← kept]
    exact h.isIdentifier
  · intro isIdentifier
    have kept := congrArg String.toList isIdentifier.normalizeIdentifier
    simpa [normalizeIdentifier, h.normalizeChars] using kept

theorem Normal.transcribed
    {s : String} (h : Normal s.toList) :
  transcribed s = s
  := by rw [Text.transcribed, h.map_underscored, h.flatMap_normalize, String.ofList_toList]

theorem Normal.collide_iff
    {s t : String} (hs : Normal s.toList) (ht : Normal t.toList) :
  Collide s t ↔ s = t ∨ Guards s t ∨ Guards t s
  := by
  rw [Collide, hs.transcribed, ht.transcribed]

/-- Texts have one identifier just in case they collide. -/
theorem normalizeIdentifier_eq_iff
    {s t : String} :
  normalizeIdentifier s = normalizeIdentifier t ↔ Collide s t
  := by
  have prefixed {cs ds : List Char} :
      String.ofList ds = "_" ++ String.ofList cs ↔ ds = '_' :: cs := by
    rw [← String.toList_inj]
    simp
  rw [normalizeIdentifier, normalizeIdentifier, String.ofList_inj, normalizeChars, normalizeChars,
    guardStart_eq_iff, Ne, Ne, (normal_flatMap_normalize _).guardStart_eq_self_iff,
    (normal_flatMap_normalize _).guardStart_eq_self_iff]
  simp only [Collide, Guards, transcribed, prefixed, String.ofList_inj]

/-! ### Integers -/

theorem normal_toDigits
    (n : Nat) :
  Normal (Nat.toDigits 10 n)
  := by
  apply normal_of_forall
  intro c mem
  have digit : c.isDigit = true := Nat.isDigit_of_mem_toDigits (by decide) (by decide) mem
  apply isIdentifierPart_of_isHexDigit
  simp only [Char.isDigit, Bool.and_eq_true, decide_eq_true_eq, UInt32.le_iff_toNat_le] at digit
  simp only [isHexDigit, Bool.or_eq_true, Bool.and_eq_true, decide_eq_true_eq]
  exact .inl (.inl digit)

/-- Digits need an underscore in front. -/
theorem guardStart_toDigits
    (n : Nat) :
  guardStart (Nat.toDigits 10 n) = '_' :: Nat.toDigits 10 n
  := by
  have digits : (integerChars.all fun c => !isIdentifierStart c) = true := by decide +kernel
  cases held : Nat.toDigits 10 n with
  | nil => exact absurd held Nat.toDigits_ne_nil
  | cons c cs =>
    have mem : c ∈ Nat.toDigits 10 n := held ▸ List.mem_cons_self
    have char : items (c :: cs) = .char c :: items cs := by
      apply items_char
      rintro rfl
      exact absurd (mem_integerChars_of_mem_toDigits mem) (by decide)
    have foreign := List.all_eq_true.mp digits c (mem_integerChars_of_mem_toDigits mem)
    simp only [Bool.not_eq_true'] at foreign
    simp [guardStart, char, Item.isStart, foreign]

/-- The identifier of an integer is its amount behind an underscore, which stands for the sign if
there is one. -/
theorem normalizeIdentifier_int
    (n : Int) :
  normalizeIdentifier (toString n) = String.ofList ('_' :: Nat.toDigits 10 n.natAbs)
  := by
  rw [normalizeIdentifier, toList_toString_int]
  congr 1
  split
  next positive =>
    obtain ⟨k, rfl⟩ := Int.eq_ofNat_of_zero_le positive
    rw [(normal_toDigits _).normalizeChars]
    exact guardStart_toDigits k
  next negative =>
    have amount : (-n).toNat = n.natAbs := by omega
    have sign : ('-' :: Nat.toDigits 10 n.natAbs).map underscored
        = ('_' :: Nat.toDigits 10 n.natAbs).map underscored := by
      have minus : underscored '-' = underscored '_' := by decide +kernel
      rw [List.map_cons, minus, List.map_cons]
    have normal : Normal ('_' :: Nat.toDigits 10 n.natAbs) :=
      .char (by decide +kernel) (normal_toDigits _)
    rw [amount, normalizeChars, sign, ← normalizeChars, normal.normalizeChars]
    apply guardStart_underscore

theorem normalizeIdentifier_int_eq_iff
    {m n : Int} :
  normalizeIdentifier (toString m) = normalizeIdentifier (toString n) ↔ m.natAbs = n.natAbs
  := by
  rw [normalizeIdentifier_int, normalizeIdentifier_int, String.ofList_inj, List.cons_inj_right]
  constructor
  · exact toDigits_ten_injective
  · exact congrArg _

end ConceptModel.Text
