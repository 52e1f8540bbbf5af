/-!
# Widths

The lengths of the texts that a part of a regular expression matches.  A `Width` is the
least and the greatest of them, and both are counted up to a limit: a part without a
greatest length has the `limit` itself.
-/

namespace ConceptModel.Regex

/-- The least number that stands for no bound. -/
def limit : Nat := 4294967295

/-- The least and the greatest length of the matches of a part. -/
structure Width where
  least : Nat
  most : Nat
deriving DecidableEq, Repr

namespace Width

/-- The width with both lengths counted up to the limit, which the least one never
reaches. -/
def bounded (least most : Nat) : Width := ⟨min least (limit - 1), min most limit⟩

/-- The width of what matches the empty text only. -/
def zero : Width := ⟨0, 0⟩

/-- The width of what matches one character. -/
def single : Width := ⟨1, 1⟩

/-- The width of a part after another. -/
def add (v w : Width) : Width := bounded (v.least + w.least) (v.most + w.most)

/-- The width of either of two parts. -/
def either (v w : Width) : Width := ⟨min v.least w.least, max v.most w.most⟩

/-- The width of a part repeated from `low` to `high` times. -/
def times (w : Width) (low high : Nat) : Width := bounded (w.least * low) (w.most * high)

/-- Whether all matches have one length. -/
def isFixed (w : Width) : Bool := w.most = w.least

/-! ### Examples -/

example : (single.times 0 limit).isFixed = false := by decide +kernel

example : ((single.times 0 limit).times 0 0).isFixed = true := by decide +kernel

end Width

end ConceptModel.Regex
