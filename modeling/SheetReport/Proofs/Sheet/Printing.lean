import SheetReport.Proofs.Tag.Reading
import SheetReport.Sheet.Value

/-!
# Printed values and the shape of tags

Numbers, truth values, dates and moments are printed without angle brackets, so only a text or
a formula can have the shape of a tag, and then by its own characters.
-/

namespace SheetReport

/-- A printed form without an opening bracket does not look like a tag. -/
theorem Tag.looksLikeTag_ofList_of_notMem {chars : List Char} (h : '<' ∉ chars) :
    looksLikeTag (String.ofList chars) = false := by
  cases hlooks : looksLikeTag (String.ofList chars) with
  | false => rfl
  | true =>
    have hhead : (String.ofList chars).toList.head? ≠ some '<' := by
      rw [String.toList_ofList]
      intro hsome
      exact h (List.mem_of_mem_head? hsome)
    exact absurd (isMarkup_of_looksLikeTag hlooks) (by simp [not_isMarkup_of_head hhead])

namespace Number

/-- No digit of a number is an opening bracket. -/
theorem open_notMem_natDigits (n : Nat) : '<' ∉ natDigits n := by
  intro h
  exact absurd (isDigitAscii_of_mem_natDigits h) (by decide)

/-- A decimal in positional notation has no opening bracket. -/
theorem open_notMem_positional (d : Decimal) : '<' ∉ d.positional := by
  have hdigits := open_notMem_natDigits d.digits
  have htake (n : Nat) : '<' ∉ (natDigits d.digits).take n := fun h =>
    hdigits (List.mem_of_mem_take h)
  have hdrop (n : Nat) : '<' ∉ (natDigits d.digits).drop n := fun h =>
    hdigits (List.mem_of_mem_drop h)
  unfold Decimal.positional
  dsimp only
  split
  · simp [hdigits]
  · split
    · simp [htake, hdrop]
    · simp [hdigits]

/-- A printed number does not look like a tag. -/
theorem not_looksLikeTag_plain (x : Double) : Tag.looksLikeTag (plain x) = false := by
  have hsign (negative : Bool) : '<' ∉ sign negative := by cases negative <;> decide
  unfold plain
  split
  · rfl
  · split <;> rfl
  · apply Tag.looksLikeTag_ofList_of_notMem
    simp [hsign]
  · apply Tag.looksLikeTag_ofList_of_notMem
    simp [hsign, open_notMem_positional]

end Number

namespace Calendar

/-- No digit of a padded number is an opening bracket. -/
theorem open_notMem_padded (width n : Nat) : '<' ∉ padded width n := by
  have hdigits := Number.open_notMem_natDigits n
  unfold Number.natDigits at hdigits
  simp [padded, hdigits]

/-- A printed date has no opening bracket. -/
theorem Date.open_notMem_chars (d : Date) : '<' ∉ d.chars := by
  have hyear (year : Int) : '<' ∉ yearText year := by
    unfold yearText
    split
    · exact open_notMem_padded _ _
    · split <;> simp [open_notMem_padded]
  simp [Date.chars, hyear, open_notMem_padded]

/-- A printed time has no opening bracket. -/
theorem DateTime.open_notMem_timeChars (t : DateTime) : '<' ∉ t.timeChars := by
  simp [DateTime.timeChars, open_notMem_padded]

end Calendar

namespace Value

/-- Whether a value is a text or a formula that is a tag or rejected as one. -/
def isMarkup : Value → Bool
  | .text s | .formula s => Tag.isMarkup s
  | _ => false

/-- A value that is no markup does not print like a tag. -/
theorem not_looksLikeTag_print {v : Value} (h : v.isMarkup = false) :
    Tag.looksLikeTag v.print = false := by
  have htext {s : String} (hs : Tag.isMarkup s = false) : Tag.looksLikeTag s = false := by
    cases hlooks : Tag.looksLikeTag s with
    | false => rfl
    | true => exact absurd (Tag.isMarkup_of_looksLikeTag hlooks) (by simp [hs])
  cases v with
  | empty => rfl
  | text s => exact htext h
  | number x => exact Number.not_looksLikeTag_plain x
  | bool b => cases b <;> rfl
  | date d => exact Tag.looksLikeTag_ofList_of_notMem (Calendar.Date.open_notMem_chars d)
  | dateTime t =>
    apply Tag.looksLikeTag_ofList_of_notMem
    simp [Calendar.Date.open_notMem_chars, Calendar.DateTime.open_notMem_timeChars]
  | formula s => exact htext h

end Value

end SheetReport
