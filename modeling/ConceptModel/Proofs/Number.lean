import ConceptModel.Number.Basic
import ConceptModel.Proofs.Text.Delimited

/-!
# Texts of numbers

The text of a number consists of `numeralChars`, and of an integer it says which one it is.
-/

namespace ConceptModel

open Text

/-- The characters that texts of integers consist of. -/
def integerChars : List Char := "0123456789-".toList

/-- The characters that texts of numbers consist of. -/
def numeralChars : List Char := integerChars ++ "+.aefin".toList

/-! ### Integers -/

theorem mem_integerChars_of_isDigit
    {c : Char} (h : c.isDigit = true) :
  c ∈ integerChars
  := by
  have digits : ∀ n ∈ List.range' 48 10, Char.ofNat n ∈ integerChars := by decide
  have range : 48 ≤ c.toNat ∧ c.toNat ≤ 57 := by
    simpa [Char.isDigit, UInt32.le_iff_toNat_le] using h
  have := digits c.toNat (List.mem_range'_1.mpr (by omega))
  rwa [Char.ofNat_toNat] at this

theorem mem_integerChars_of_mem_toDigits
    {n : Nat} {c : Char} (h : c ∈ Nat.toDigits 10 n) :
  c ∈ integerChars
  := mem_integerChars_of_isDigit (Nat.isDigit_of_mem_toDigits (by decide) (by decide) h)

/-- An integer is spelled by its digits, after a sign if it is negative. -/
theorem toList_toString_int (n : Int) :
  (toString n).toList
    = if 0 ≤ n then Nat.toDigits 10 n.toNat else '-' :: Nat.toDigits 10 (-n).toNat
  := by
  rw [Int.toString_eq_repr, Int.repr_eq_if]
  simp only [Nat.repr_eq_ofList_toDigits]
  split <;> simp

theorem mem_integerChars_of_mem_toString
    {n : Int} {c : Char} (h : c ∈ (toString n).toList) :
  c ∈ integerChars
  := by
  rw [toList_toString_int] at h
  split at h
  · exact mem_integerChars_of_mem_toDigits h
  · obtain rfl | digit := List.mem_cons.mp h
    · decide
    · exact mem_integerChars_of_mem_toDigits digit

/-- The text of an integer begins with one of its characters. -/
theorem exists_head_toString (n : Int) :
  ∃ c cs, (toString n).toList = c :: cs ∧ c ∈ integerChars
  := by
  have filled : (toString n).toList ≠ [] := by
    rw [toList_toString_int]
    split
    · exact Nat.toDigits_ne_nil
    · exact List.cons_ne_nil _ _
  obtain ⟨c, cs, held⟩ := List.exists_cons_of_ne_nil filled
  exact ⟨c, cs, held, mem_integerChars_of_mem_toString (held ▸ List.mem_cons_self)⟩

/-- Decimal numerals tell numbers apart. -/
theorem toDigits_ten_injective
    {m n : Nat} (h : Nat.toDigits 10 m = Nat.toDigits 10 n) :
  m = n
  := by
  rw [← Nat.ofDigitChars_ten_toDigits (n := m), h, Nat.ofDigitChars_ten_toDigits]

theorem toDigits_ten_ne_minus (n : Nat) (rest : List Char) :
  Nat.toDigits 10 n ≠ '-' :: rest
  := by
  intro h
  have minus : '-' ∈ Nat.toDigits 10 n := by simp [h]
  exact absurd (Nat.isDigit_of_mem_toDigits (by decide) (by decide) minus) (by decide)

/-- The text of an integer says which one it is. -/
theorem toString_int_injective
    {m n : Int} (h : (toString m).toList = (toString n).toList) :
  m = n
  := by
  rw [toList_toString_int, toList_toString_int] at h
  split_ifs at h
  · have := toDigits_ten_injective h
    omega
  · exact absurd h (toDigits_ten_ne_minus _ _)
  · exact absurd h.symm (toDigits_ten_ne_minus _ _)
  · have := toDigits_ten_injective (List.cons.inj h).2
    omega

/-- An integer is told apart from what does not go on with one of its characters. -/
theorem delimited_int :
  Delimited (fun n : Int => (toString n).toList) (fun _ => True) (Stops (· ∈ integerChars))
  := by
  constructor
  intro m n r s _ _ hr hs same
  obtain ⟨digits, rest⟩ := (delimited_run (· ∈ integerChars)).split
    (fun _ => mem_integerChars_of_mem_toString) (fun _ => mem_integerChars_of_mem_toString)
    hr hs same
  exact ⟨toString_int_injective digits, rest⟩

/-! ### Doubles -/

/-- Whether all characters of a text are those of numbers. -/
def Numeral (cs : List Char) : Prop := ∀ c ∈ cs, c ∈ numeralChars

instance : DecidablePred Numeral := fun cs => List.decidableBAll (· ∈ numeralChars) cs

/-- A numeral is made of numerals. -/
@[simp]
theorem numeral_append
    {cs ds : List Char} :
  Numeral (cs ++ ds) ↔ Numeral cs ∧ Numeral ds
  := List.forall_mem_append

@[simp]
theorem numeral_cons
    {c : Char} {cs : List Char} :
  Numeral (c :: cs) ↔ c ∈ numeralChars ∧ Numeral cs
  := List.forall_mem_cons

theorem numeral_of_subset
    {cs ds : List Char} (h : Numeral ds) (subset : cs ⊆ ds) :
  Numeral cs
  := fun c mem => h c (subset mem)

theorem numeral_toDigits_ten (n : Nat) :
  Numeral (Nat.toDigits 10 n)
  := fun _ mem => List.mem_append_left _ (mem_integerChars_of_mem_toDigits mem)

/-- Integers are spelled by numerals. -/
theorem numeral_toString_int (n : Int) :
  Numeral (toString n).toList
  := fun _ mem => List.mem_append_left _ (mem_integerChars_of_mem_toString mem)

theorem numeral_zeros_of_double (count : Nat) :
  Numeral (Double.zeros count)
  := by
  intro c mem
  obtain ⟨-, rfl⟩ := List.mem_replicate.mp mem
  decide

/-- Digits with a point are a numeral. -/
theorem numeral_positional
    {digits : List Char} (h : Numeral digits) (point : Int) :
  Numeral (Double.positional digits point)
  := by
  have zero : '0' ∈ numeralChars := by decide
  have dot : '.' ∈ numeralChars := by decide
  unfold Double.positional
  split_ifs
  · simp [zero, dot, numeral_zeros_of_double, h]
  · have tail : Numeral ['.', '0'] := by decide
    simp [numeral_zeros_of_double, h, tail]
  · simp [dot, numeral_of_subset h (List.take_subset _ _),
      numeral_of_subset h (List.drop_subset _ _)]

/-- Digits with an exponent are a numeral. -/
theorem numeral_scientific
    {digits : List Char} (h : Numeral digits) (exponent : Int) :
  Numeral (Double.scientific digits exponent)
  := by
  have dot : '.' ∈ numeralChars := by decide
  have mark : 'e' ∈ numeralChars := by decide
  have sign : (if exponent < 0 then '-' else '+') ∈ numeralChars := by split <;> decide
  unfold Double.scientific
  rw [List.append_assoc, numeral_append]
  constructor
  · split
    · simp_all
    · exact h
  · simp [mark, sign, numeral_zeros_of_double, numeral_toDigits_ten]

theorem numeral_magnitude
    (layout : Double.Layout) (x : Double.Scientific) :
  Numeral (layout.magnitude x)
  := by
  unfold Double.Layout.magnitude
  dsimp only
  split
  · exact numeral_positional (numeral_toDigits_ten _) _
  · exact numeral_scientific (numeral_toDigits_ten _) _

/-- Doubles are spelled by numerals. -/
theorem numeral_text_double (value : Double) :
  Numeral (value.text .plain).toList
  := by
  cases value with
  | nan => decide
  | infinite negative => cases negative <;> decide
  | finite negative significand exponent =>
    have unsigned : Numeral (if significand = 0 then Double.positional ['0'] 1
        else Double.Layout.plain.magnitude (Double.shortest significand exponent)) := by
      split
      · decide
      · apply numeral_magnitude
    have sign : '-' ∈ numeralChars := by decide
    rw [Double.text, String.toList_ofList]
    split
    · exact numeral_cons.mpr ⟨sign, unsigned⟩
    · exact unsigned

/-- The text of a number consists of characters of numbers. -/
theorem Number.numeral_compact (x : Number) :
  Numeral x.compact.toList
  := by
  cases x with
  | int value => apply numeral_toString_int
  | double value =>
    unfold Number.compact
    dsimp only
    split
    · apply numeral_toString_int
    · apply numeral_text_double

end ConceptModel
