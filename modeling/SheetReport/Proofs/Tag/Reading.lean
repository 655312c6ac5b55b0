import SheetReport.Error
import SheetReport.Proofs.Number.Digits
import SheetReport.Proofs.Sequence
import SheetReport.Tag

/-!
# Reading the texts of tags

A tag that the layout writes is read back as itself: the size of a subtotal ends at the first
character that is no digit, and the only total text that reads as something else is the mark of
the closing row. Texts made of words and blanks are never taken for tags, and whatever has the
shape that all tags share is either a tag or rejected as one.

Main statements: `read_text_subtotal`, `read_text_total`, and `isMarkup_of_looksLikeTag`.
-/

namespace SheetReport

namespace Text

/-- ASCII digits are digits among all scripts. -/
theorem isDigit_of_isDigitAscii {c : Char} (h : isDigitAscii c = true) : isDigit c = true := by
  have hlt : c.toNat < 128 := by
    simp only [isDigitAscii, Bool.and_eq_true, decide_eq_true_eq, Char.le_def] at h
    have hle : c.val.toNat ≤ '9'.val.toNat := h.2
    exact Nat.lt_of_le_of_lt hle (by decide)
  simp [isDigit, hlt, h]

/-- ASCII word characters are word characters. -/
theorem isWordOrSpace_of_isWordAscii {c : Char} (h : isWordAscii c = true) :
    isWordOrSpace c = true := by
  have hlt : c.toNat < 128 := by
    simp only [isWordAscii, isLetterAscii, isDigitAscii, Bool.or_eq_true, Bool.and_eq_true,
      decide_eq_true_eq, beq_iff_eq, Char.le_def] at h
    change c.val.toNat < 128
    rcases h with ((h | h) | h) | h
    · exact Nat.lt_of_le_of_lt h.2 (by decide)
    · exact Nat.lt_of_le_of_lt h.2 (by decide)
    · exact Nat.lt_of_le_of_lt h.2 (by decide)
    · subst h; decide
  simp [isWordOrSpace, isWord, hlt, h]

end Text

/-- Removing a beginning leaves exactly what was put behind it. -/
theorem isPrefixOf?_eq_some_iff {l text rest : List Char} :
    l.isPrefixOf? text = some rest ↔ text = l ++ rest := by
  induction l generalizing text with
  | nil =>
    change some text = some rest ↔ text = rest
    rw [Option.some.injEq]
  | cons a l ih =>
    cases text with
    | nil =>
      change none = some rest ↔ [] = a :: (l ++ rest)
      simp only [reduceCtorEq]
    | cons b text =>
      have hstep : (a :: l).isPrefixOf? (b :: text) =
          if a == b then l.isPrefixOf? text else none := rfl
      rw [hstep, List.cons_append]
      by_cases hab : a = b
      · subst hab
        simp [ih]
      · simp [hab, Ne.symm hab]

namespace Tag

open Text (isDigit isWordAscii isWordOrSpace)

/-- Whether a text is a tag or is rejected as one. -/
def isMarkup (text : String) : Bool :=
  match read text with
  | .ok none => false
  | _ => true

/-- Whether a tag is a subtotal or a total. -/
def isAggregate : Tag → Bool
  | .subtotal _ _ | .total _ => true
  | .anchor _ | .decorative _ => false

/-- Whether a text is read as a subtotal or a total. -/
def readsAsAggregate (text : String) : Bool :=
  match read text with
  | .ok (some tag) => tag.isAggregate
  | _ => false

/-- Whether a text is rejected as a subtotal or a total. -/
def isRejected (text : String) : Bool :=
  match read text with
  | .ok _ => false
  | .error _ => true

/-- A text is no markup exactly when it is read as no tag. -/
theorem isMarkup_eq_false_iff {text : String} : isMarkup text = false ↔ read text = .ok none := by
  unfold isMarkup
  split <;> simp_all

/-- A text is not rejected exactly when it can be read. -/
theorem isRejected_eq_false_iff {text : String} :
    isRejected text = false ↔ ∃ tag?, read text = .ok tag? := by
  unfold isRejected
  split <;> simp_all

/-- What is no markup is no aggregate. -/
theorem readsAsAggregate_of_not_isMarkup {text : String} (h : isMarkup text = false) :
    readsAsAggregate text = false := by
  rw [isMarkup_eq_false_iff] at h
  simp [readsAsAggregate, h]

/-- What is no markup is not rejected. -/
theorem isRejected_of_not_isMarkup {text : String} (h : isMarkup text = false) :
    isRejected text = false := by
  rw [isMarkup_eq_false_iff] at h
  simp [isRejected, h]

/-- A text is bracketed exactly when it is something between angle brackets. -/
theorem inner?_eq_some_iff {text inner : List Char} :
    inner? text = some inner ↔ text = bracketed inner ∧ inner ≠ [] := by
  constructor
  · intro h
    unfold inner? at h
    split at h
    · rename_i rest
      split at h
      · rename_i hrest
        obtain rfl := Option.some.inj h
        obtain ⟨hlast, hne⟩ := hrest
        have hsplit : rest = rest.dropLast ++ ['>'] := by
          obtain ⟨init, rfl⟩ := List.getLast?_eq_some_iff.mp hlast
          simp
        exact ⟨by rw [bracketed, List.cons_append, ← hsplit], hne⟩
      · contradiction
    · contradiction
  · intro hboth
    obtain ⟨rfl, hne⟩ := hboth
    simp [inner?, bracketed, hne]

/-- Between the brackets of a tag's text stands the tag's own inner text. -/
theorem readChars_bracketed {inner : List Char} (h : inner ≠ []) :
    readChars (bracketed inner) = readInner inner := by
  rw [readChars, inner?_eq_some_iff.mpr ⟨rfl, h⟩]

/-- A text that does not begin with a bracket is no markup. -/
theorem not_isMarkup_of_head {text : String} (h : text.toList.head? ≠ some '<') :
    isMarkup text = false := by
  rw [isMarkup_eq_false_iff, read]
  have hinner : inner? text.toList = none := by
    cases htext : inner? text.toList with
    | none => rfl
    | some inner =>
      rw [(inner?_eq_some_iff.mp htext).1] at h
      exact absurd rfl h
  rw [readChars, hinner]
  rfl

/-- Words and blanks are no markup. -/
theorem not_isMarkup_of_isWords {text : String} (h : isWords text.toList = true) :
    isMarkup text = false := by
  apply not_isMarkup_of_head
  intro hhead
  obtain ⟨rest, hrest⟩ := List.head?_eq_some_iff.mp hhead
  simp [isWords, hrest, Text.isWordOrSpace_open] at h

/-- The size digits of a subtotal end where its column begins. -/
theorem subtotalParts?_digits {digits column : List Char} (hne : digits ≠ [])
    (hdigits : ∀ c ∈ digits, isDigit c = true) (hcolumn : isWords column = true) :
    subtotalParts? (digits ++ '_' :: column) = some (digits, column) := by
  have htake : (digits ++ '_' :: column).takeWhile isDigit = digits := by
    rw [List.takeWhile_append_of_pos hdigits]
    simp [Text.isDigit_underscore]
  have hdrop : (digits ++ '_' :: column).dropWhile isDigit = '_' :: column := by
    rw [List.dropWhile_append_of_pos hdigits]
    simp [Text.isDigit_underscore]
  simp [subtotalParts?, htake, hdrop, hne, hcolumn]

/-- What follows the mark of a subtotal is split at its digits. -/
theorem eq_append_of_subtotalParts? {text digits column : List Char}
    (h : subtotalParts? text = some (digits, column)) :
    text = digits ++ '_' :: column ∧ isWords column = true := by
  unfold subtotalParts? at h
  dsimp only at h
  split at h
  · rename_i column' hrest
    split at h
    · rename_i hboth
      simp only [Option.some.injEq, Prod.mk.injEq] at h
      obtain ⟨rfl, rfl⟩ := h
      refine ⟨?_, hboth.2⟩
      rw [← hrest, List.takeWhile_append_dropWhile]
    · contradiction
  · contradiction

/-- What follows the mark of a subtotal is read exactly when it is a size in ASCII digits that is
positive and fits, and then a column. -/
theorem readSubtotal_eq_ok_iff {text : List Char} {t : Tag} : readSubtotal text = .ok t ↔
    ∃ digits column, Number.IsNumeral digits ∧ 0 < Nat.ofDigitChars 10 digits 0 ∧
      Nat.ofDigitChars 10 digits 0 < sizeLimit ∧ isWords column = true ∧
      text = digits ++ '_' :: column ∧
      t = .subtotal (Nat.ofDigitChars 10 digits 0) (String.ofList column) := by
  constructor
  · intro h
    unfold readSubtotal at h
    split at h
    · contradiction
    · rename_i digits column hparts
      obtain ⟨htext, hcolumn⟩ := eq_append_of_subtotalParts? hparts
      split at h
      · contradiction
      · contradiction
      · rename_i size hsize
        obtain ⟨hnumeral, hvalue, hlt⟩ := Number.digits?_eq_some_iff.mp hsize
        refine ⟨digits, column, hnumeral, ?_, ?_, hcolumn, htext, ?_⟩
        · rw [hvalue]
          exact Nat.succ_pos size
        · rwa [hvalue]
        · rw [hvalue]
          exact (Except.ok.inj h).symm
  · rintro ⟨digits, column, hnumeral, hpos, hlt, hcolumn, rfl, rfl⟩
    have hparts : subtotalParts? (digits ++ '_' :: column) = some (digits, column) :=
      subtotalParts?_digits hnumeral.1
        (fun c hc => Text.isDigit_of_isDigitAscii (hnumeral.2 c hc)) hcolumn
    obtain ⟨size, hsize⟩ := Nat.exists_eq_add_one_of_ne_zero (Nat.ne_of_gt hpos)
    have hdigits : Number.digits? sizeLimit digits = some (size + 1) :=
      Number.digits?_eq_some_iff.mpr ⟨hnumeral, hsize, hsize ▸ hlt⟩
    simp only [readSubtotal, hparts, hdigits, hsize]

/-- What follows the mark of a total is read exactly when it is words and blanks. -/
theorem readTotal_eq_ok_iff {text : List Char} {t : Tag} : readTotal text = .ok t ↔
    isWords text = true ∧ t = .total (String.ofList text) := by
  unfold readTotal
  split
  · rename_i hwords
    simp [hwords, eq_comm]
  · rename_i hwords
    simp [hwords]

/-- What a subtotal begins with, character by character. -/
theorem subtotalMark_eq : subtotalMark = ['s', 'u', 'b', 't', 'o', 't', 'a', 'l', '_'] := by
  decide

/-- What a total begins with, character by character. -/
theorem totalMark_eq : totalMark = ['t', 'o', 't', 'a', 'l', '_'] := by decide

/-- The mark of the closing row begins like a total. -/
theorem totalBar_eq : totalBar.toList = totalMark ++ "bar".toList := by decide

/-- The text of a subtotal over at least one row is read back as that subtotal. -/
theorem read_text_subtotal {size : Nat} {column : String} (hpos : 0 < size)
    (hlt : size < sizeLimit) (hcolumn : isWords column.toList = true) :
    read (subtotal size column).text = .ok (some (.subtotal size column)) := by
  let rest := Number.natDigits size ++ '_' :: column.toList
  have hinner : (subtotal size column).innerChars = subtotalMark ++ rest := by
    simp [innerChars, rest]
  have hbar : subtotalMark ++ rest ≠ totalBar.toList := by
    rw [subtotalMark_eq, totalBar_eq, totalMark_eq]
    simp
  have hvalue : Nat.ofDigitChars 10 (Number.natDigits size) 0 = size :=
    Nat.ofDigitChars_ten_toDigits
  have hsubtotal : readSubtotal rest = .ok (.subtotal size column) :=
    readSubtotal_eq_ok_iff.mpr ⟨Number.natDigits size, column.toList,
      Number.isNumeral_natDigits size, by rwa [hvalue], by rwa [hvalue], hcolumn, rfl,
      by rw [hvalue, String.ofList_toList]⟩
  have hread : readInner (subtotalMark ++ rest) = .ok (some (.subtotal size column)) := by
    rw [readInner, if_neg hbar, isPrefixOf?_eq_some_iff.mpr rfl]
    simp only [hsubtotal, Except.map]
  rw [read, text, String.toList_ofList, hinner,
    readChars_bracketed (by rw [subtotalMark_eq]; simp), hread]
  rfl

/-- The text of a total of an encodable column is read back as that total. -/
theorem read_text_total {column : String} (h : isEncodable column = true) :
    read (total column).text = .ok (some (.total column)) := by
  simp only [isEncodable, Bool.and_eq_true, bne_iff_ne, ne_eq] at h
  obtain ⟨hwords, hbar⟩ := h
  have hnot : totalMark ++ column.toList ≠ totalBar.toList := by
    intro heq
    rw [totalBar_eq, List.append_cancel_left_eq] at heq
    exact hbar (String.toList_inj.mp heq)
  have hsubtotal : subtotalMark.isPrefixOf? (totalMark ++ column.toList) = none := by
    rw [subtotalMark_eq, totalMark_eq]
    rfl
  have hread : readInner (totalMark ++ column.toList) = .ok (some (.total column)) := by
    rw [readInner, if_neg hnot, hsubtotal, isPrefixOf?_eq_some_iff.mpr rfl]
    simp [readTotal, hwords, Except.map]
  rw [read, text, String.toList_ofList, innerChars,
    readChars_bracketed (by rw [totalMark_eq]; simp), hread]
  rfl

/-- The text of the closing row is read as a decorative mark. -/
theorem read_text_totalBar :
    read (decorative totalBar).text = .ok (some (.decorative totalBar)) := by
  have hread : readInner totalBar.toList = .ok (some (.decorative totalBar)) := by
    rw [readInner, if_pos rfl]
  rw [read, text, String.toList_ofList, innerChars,
    readChars_bracketed (by rw [totalBar_eq, totalMark_eq]; simp), hread]
  rfl

/-- Words and blanks between brackets are a tag or rejected as one. -/
theorem readInner_ne_none {inner : List Char} (h : isWords inner = true) :
    readInner inner ≠ .ok none := by
  unfold readInner
  split
  · simp
  · split
    · rename_i rest _
      cases readSubtotal rest <;> simp [Except.map]
    · split
      · rename_i rest _
        cases readTotal rest <;> simp [Except.map]
      · split <;> simp

/-- Whatever has the shape that all tags share is a tag or rejected as one. -/
theorem isMarkup_of_looksLikeTag {text : String} (h : looksLikeTag text = true) :
    isMarkup text = true := by
  cases hmarkup : isMarkup text with
  | true => rfl
  | false =>
    rw [isMarkup_eq_false_iff, read, mapError_eq_ok_iff, readChars] at hmarkup
    unfold looksLikeTag at h
    cases hinner : inner? text.toList with
    | none => simp [hinner] at h
    | some inner =>
      simp only [hinner, Option.any_some] at h hmarkup
      exact absurd hmarkup (readInner_ne_none h)

/-- Whether a name is made of ASCII letters, ASCII digits and underscores, at least one. -/
def isAnchorName (name : String) : Bool :=
  name.toList != [] && name.toList.all isWordAscii

/-- The text of an anchor has the shape of a tag. -/
theorem looksLikeTag_text_anchor {name : String} (h : isAnchorName name = true) :
    looksLikeTag (anchor name).text = true := by
  simp only [isAnchorName, Bool.and_eq_true, bne_iff_ne, ne_eq, List.all_eq_true] at h
  obtain ⟨hne, hall⟩ := h
  have hinner : inner? (anchor name).text.toList = some name.toList := by
    rw [text, String.toList_ofList, inner?_eq_some_iff]
    exact ⟨rfl, hne⟩
  have hwords : isWords name.toList = true := by
    rw [isWords, Bool.and_eq_true, List.all_eq_true]
    exact ⟨by simpa using hne, fun c hc => Text.isWordOrSpace_of_isWordAscii (hall c hc)⟩
  simp [looksLikeTag, hinner, hwords]

/-- Two tags of one text have one inner text. -/
theorem innerChars_eq_of_text_eq {a b : Tag} (h : a.text = b.text) :
    a.innerChars = b.innerChars := by
  have hlist : bracketed a.innerChars = bracketed b.innerChars := by
    simpa [text] using congrArg String.toList h
  simpa [bracketed] using hlist

end Tag

end SheetReport
