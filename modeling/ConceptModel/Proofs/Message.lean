import ConceptModel.Inference.Body
import ConceptModel.Report
import Mathlib.Data.List.Basic

/-!
# What messages tell

The name that a warning is about can be told from its message: `name_eq_of_message_eq`.
How a message ends tells what kind of warning it is, and what stands around the name is then
known, but for the format that is left out; so a name after a format must not hold the quote
that closes the format.
-/

namespace ConceptModel.Warning

/-- The name of the schema that a warning is about. -/
def name : Warning → String
  | firstAlternative _ name | tupleAsConcept name | tupleAsText name | unionAsText name
  | formatIgnored _ name => name

/-- Whether nothing in a warning can be taken for the text around it. -/
def IsPlain : Warning → Prop
  | firstAlternative keyword _ => keyword ∈ Inference.Body.alternationKeywords
  | formatIgnored _ name => '\'' ∉ name.toList
  | _ => True

/-! ### Endings -/

/-- The last characters of the message of a warning. -/
def ending : Warning → String
  | firstAlternative .. => "ve."
  | tupleAsConcept _ => "ds."
  | tupleAsText _ => "ng."
  | unionAsText _ => "pe."
  | formatIgnored .. => "ed."

theorem exists_start_of_append
    {before text front last : String} (h : text = front ++ last) :
  ∃ start, before ++ text = start ++ last
  := ⟨before ++ front, by rw [h, String.append_assoc]⟩

theorem exists_start
    (w : Warning) :
  ∃ start, w.message = start ++ w.ending
  := by
  cases w with
  | firstAlternative =>
    have text : "' is not fully supported. Defaulting to first alternative." =
        "' is not fully supported. Defaulting to first alternati" ++ "ve." := rfl
    exact exists_start_of_append text
  | tupleAsConcept =>
    have text :
        "Converting to a Concerto concept containing the fixed array elements as fields." =
          "Converting to a Concerto concept containing the fixed array elements as fiel" ++
            "ds." := rfl
    exact exists_start_of_append text
  | tupleAsText =>
    have text : "Converting to a stringified JSON string." =
        "Converting to a stringified JSON stri" ++ "ng." := rfl
    exact exists_start_of_append text
  | unionAsText =>
    have text : "Defaulting to a \"string\" type." = "Defaulting to a \"string\" ty" ++ "pe." :=
      rfl
    exact exists_start_of_append text
  | formatIgnored =>
    have text : "' is not supported. It has been ignored." =
        "' is not supported. It has been ignor" ++ "ed." := rfl
    exact exists_start_of_append text

/-- Warnings with the same message are of one kind. -/
theorem ending_eq_of_message_eq
    {w w' : Warning} (h : w.message = w'.message) :
  w.ending = w'.ending
  := by
  obtain ⟨start, text⟩ := w.exists_start
  obtain ⟨start', text'⟩ := w'.exists_start
  have length (w : Warning) : w.ending.toList.length = 3 := by
    cases w <;> simp [ending]
  have same : start.toList ++ w.ending.toList = start'.toList ++ w'.ending.toList := by
    rw [← String.toList_append, ← String.toList_append, ← text, ← text', h]
  exact String.toList_inj.mp (List.append_inj_right' same ((length w).trans (length w').symm))

/-! ### Names -/

/-- What follows the last occurrence of a mark is determined. -/
theorem eq_of_append_cons_eq
    {α : Type} {mark : α} {before before' name name' : List α} (h : mark ∉ name)
    (h' : mark ∉ name') (same : before ++ mark :: name = before' ++ mark :: name') :
  name = name'
  := by
  obtain ⟨between, -, same⟩ | ⟨between, -, same⟩ := List.append_eq_append_iff.mp same
  · cases between with
    | nil => exact (List.cons.inj same).2
    | cons c cs => exact absurd (by simp [(List.cons.inj same).2]) h
  · cases between with
    | nil => exact (List.cons.inj same).2.symm
    | cons c cs => exact absurd (by simp [(List.cons.inj same).2]) h'

theorem name_eq_of_firstAlternative
    {keyword keyword' name name' : String} (h : keyword ∈ Inference.Body.alternationKeywords)
    (h' : keyword' ∈ Inference.Body.alternationKeywords)
    (same : (firstAlternative keyword name).message = (firstAlternative keyword' name').message) :
  name = name'
  := by
  have length {k : String} (h : k ∈ Inference.Body.alternationKeywords) : k.toList.length = 5 := by
    obtain rfl | rfl : k = "anyOf" ∨ k = "oneOf" := by
      simpa [Inference.Body.alternationKeywords] using h
    · rfl
    · rfl
  have same := congrArg String.toList same
  simp only [message, String.toList_append, List.append_assoc, List.append_cancel_left_eq] at same
  have same := List.append_inj_right same ((length h).trans (length h').symm)
  rw [List.append_cancel_left_eq, List.append_cancel_right_eq] at same
  exact String.toList_inj.mp same

theorem name_eq_of_formatIgnored
    {format format' : Json} {name name' : String} (h : '\'' ∉ name.toList)
    (h' : '\'' ∉ name'.toList)
    (same : (formatIgnored format name).message = (formatIgnored format' name').message) :
  name = name'
  := by
  have quote : "' in '".toList = "' in ".toList ++ ['\''] := rfl
  have same := congrArg String.toList same
  simp only [message, String.toList_append, List.append_cancel_right_eq] at same
  rw [quote, ← List.append_assoc, ← List.append_assoc, List.append_assoc,
    List.append_assoc _ ['\''], List.singleton_append, List.singleton_append] at same
  exact String.toList_inj.mp (eq_of_append_cons_eq h h' same)

/-- Plain warnings with the same message are about the same name. -/
theorem name_eq_of_message_eq
    {w w' : Warning} (plain : w.IsPlain) (plain' : w'.IsPlain) (h : w.message = w'.message) :
  w.name = w'.name
  := by
  have kind := ending_eq_of_message_eq h
  cases w with
  | firstAlternative keyword name =>
    cases w' with
    | firstAlternative keyword' name' => exact name_eq_of_firstAlternative plain plain' h
    | _ => simp [ending] at kind
  | tupleAsConcept name =>
    cases w' with
    | tupleAsConcept name' => simpa [message, doubleQuoted, Warning.name] using h
    | _ => simp [ending] at kind
  | tupleAsText name =>
    cases w' with
    | tupleAsText name' => simpa [message, doubleQuoted, Warning.name] using h
    | _ => simp [ending] at kind
  | unionAsText name =>
    cases w' with
    | unionAsText name' => simpa [message, doubleQuoted, Warning.name] using h
    | _ => simp [ending] at kind
  | formatIgnored format name =>
    cases w' with
    | formatIgnored format' name' => exact name_eq_of_formatIgnored plain plain' h
    | _ => simp [ending] at kind

end ConceptModel.Warning
