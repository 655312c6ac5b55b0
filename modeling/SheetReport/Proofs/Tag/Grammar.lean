import Mathlib.Data.List.Basic
import SheetReport.Proofs.Report.Resolving
import SheetReport.Proofs.Sheet.Printing
import SheetReport.Proofs.Tag.Reading

/-!
# The grammar of tags

Reading a tag tries the mark of the closing row, subtotals, totals, names and decorative marks one
after another. What comes out is a grammar. A text between brackets that begins like a subtotal or
a total is rejected unless it is one, where the size of a subtotal is written in ASCII digits and
fits 32 bits. Any other text is a tag if it has the shape that all tags share, which is what
clearing looks for. So on a grid that can be resolved, resolving and clearing see the same cells.

Main statement: `reads_exactly_the_grammar`.
-/

namespace SheetReport

namespace Tag

open Text (isWordAscii isWordOrSpace)

/-- Whether a text is made of word characters and white space of any script, at least one. -/
def IsWordText (text : String) : Prop :=
  text ≠ "" ∧ ∀ c ∈ text.toList, Text.isWord c = true ∨ Text.isSpace c = true

/-- Whether a text has the shape that all tags share. -/
def HasShape (text : String) : Prop :=
  ∃ words, IsWordText words ∧ text = "<" ++ words ++ ">"

/-- Whether a text is a total of a column. -/
def IsTotalText (text : String) : Prop :=
  ∃ column, IsWordText column ∧ text = "<total_" ++ column ++ ">"

/-- Whether a text is a subtotal of a column over a number of rows, from one row on up to what 32
bits hold. -/
def IsSubtotalText (text : String) : Prop :=
  ∃ digits column, digits ≠ "" ∧ (∀ c ∈ digits.toList, Text.isDigitAscii c = true) ∧
    1 ≤ Nat.ofDigitChars 10 digits.toList 0 ∧
    Nat.ofDigitChars 10 digits.toList 0 ≤ 4294967295 ∧
    IsWordText column ∧ text = "<subtotal_" ++ digits ++ "_" ++ column ++ ">"

variable {text : String} {inner rest : List Char}

/-- Word texts are what is read as the words of a tag. -/
theorem isWordText_iff : IsWordText text ↔ isWords text.toList = true := by
  simp [IsWordText, isWords, Text.isWordOrSpace]

/-- Words are at least one character. -/
theorem ne_nil_of_isWords (h : isWords inner = true) : inner ≠ [] := by
  rintro rfl
  contradiction

/-- What stands between the brackets of a text is determined by the text. -/
theorem bracketed_inj {other : List Char} : bracketed inner = bracketed other ↔ inner = other := by
  simp [bracketed]

/-- Clearing looks for the shape that all tags share. -/
theorem looksLikeTag_iff_hasShape : looksLikeTag text = true ↔ HasShape text := by
  rw [looksLikeTag]
  constructor
  · intro h
    cases hinner : inner? text.toList with
    | none => simp [hinner] at h
    | some words =>
      rw [hinner, Option.any_some] at h
      refine ⟨String.ofList words, isWordText_iff.mpr (by rwa [String.toList_ofList]), ?_⟩
      rw [← String.toList_inj, (inner?_eq_some_iff.mp hinner).1]
      simp [bracketed]
  · rintro ⟨words, hwords, rfl⟩
    rw [isWordText_iff] at hwords
    have hinner : inner? ("<" ++ words ++ ">").toList = some words.toList :=
      inner?_eq_some_iff.mpr ⟨by simp [bracketed], ne_nil_of_isWords hwords⟩
    rw [hinner]
    exact hwords

/-- A subtotal begins with a bracket and its mark. -/
theorem subtotalStart_eq : "<subtotal_".toList = '<' :: subtotalMark := by decide

/-- A total begins with a bracket and its mark. -/
theorem totalStart_eq : "<total_".toList = '<' :: totalMark := by decide

/-- A text that begins with a bracket and a mark and ends with a bracket has a rest between the
two, as the mark has no closing bracket. -/
theorem begins_and_ends_iff {mark l : List Char} (hmark : '>' ∉ '<' :: mark) :
    '<' :: mark <+: l ∧ ['>'] <:+ l ↔ ∃ rest, l = bracketed (mark ++ rest) := by
  constructor
  · rintro ⟨⟨after, rfl⟩, hends⟩
    rcases List.eq_nil_or_concat after with rfl | ⟨rest, last, rfl⟩
    · rw [List.append_nil] at hends
      exact absurd (hends.subset List.mem_cons_self) hmark
    · obtain rfl : last = '>' := by
        obtain ⟨front, hfront⟩ := hends
        rw [List.concat_eq_append, ← List.append_assoc] at hfront
        simpa [eq_comm] using (List.append_inj' hfront rfl).2
      exact ⟨rest, by simp [bracketed]⟩
  · rintro ⟨rest, rfl⟩
    exact ⟨⟨rest ++ ['>'], by simp [bracketed]⟩, '<' :: (mark ++ rest), rfl⟩

/-- A text with the mark of a total is a total exactly when it is read as one. -/
theorem isTotalText_iff (htext : text.toList = bracketed (totalMark ++ rest)) :
    IsTotalText text ↔ ∃ t, readTotal rest = .ok t := by
  simp only [readTotal_eq_ok_iff, exists_and_left, exists_eq, and_true]
  have hinj {column : String} : text = "<total_" ++ column ++ ">" ↔ rest = column.toList := by
    have hlist : ("<total_" ++ column ++ ">").toList =
        bracketed (totalMark ++ column.toList) := by
      simp [bracketed, totalStart_eq]
    rw [← String.toList_inj, htext, hlist, bracketed_inj, List.append_cancel_left_eq]
  simp only [IsTotalText, hinj]
  constructor
  · rintro ⟨column, hcolumn, rfl⟩
    exact isWordText_iff.mp hcolumn
  · intro hwords
    exact ⟨String.ofList rest, isWordText_iff.mpr (by simpa using hwords), by simp⟩

/-- A text with the mark of a subtotal is a subtotal exactly when it is read as one. -/
theorem isSubtotalText_iff (htext : text.toList = bracketed (subtotalMark ++ rest)) :
    IsSubtotalText text ↔ ∃ t, readSubtotal rest = .ok t := by
  have hinj {digits column : String} : text = "<subtotal_" ++ digits ++ "_" ++ column ++ ">" ↔
      rest = digits.toList ++ '_' :: column.toList := by
    have hlist : ("<subtotal_" ++ digits ++ "_" ++ column ++ ">").toList =
        bracketed (subtotalMark ++ (digits.toList ++ '_' :: column.toList)) := by
      simp [bracketed, subtotalStart_eq]
    rw [← String.toList_inj, htext, hlist, bracketed_inj, List.append_cancel_left_eq]
  simp only [IsSubtotalText, hinj, readSubtotal_eq_ok_iff]
  constructor
  · rintro ⟨digits, column, hne, hdigits, hpos, hle, hcolumn, rfl⟩
    have hlt : Nat.ofDigitChars 10 digits.toList 0 < sizeLimit := by
      unfold sizeLimit
      omega
    exact ⟨_, digits.toList, column.toList, ⟨by simpa using hne, hdigits⟩, hpos, hlt,
      isWordText_iff.mp hcolumn, rfl, rfl⟩
  · rintro ⟨-, digits, column, ⟨hne, hdigits⟩, hpos, hlt, hcolumn, rfl, -⟩
    refine ⟨String.ofList digits, String.ofList column, by simpa using hne, ?_⟩
    simp only [String.toList_ofList, isWordText_iff]
    exact ⟨hdigits, hpos, Nat.le_of_lt_succ hlt, hcolumn, trivial⟩

/-- What stands between brackets is rejected exactly when it begins like a subtotal or a total and
is none, the mark of the closing row apart. -/
theorem exists_readInner_eq_error_iff : (∃ e, readInner inner = .error e) ↔
    inner ≠ totalBar.toList ∧
      ((∃ rest, inner = subtotalMark ++ rest ∧ ¬ ∃ t, readSubtotal rest = .ok t) ∨
        ∃ rest, inner = totalMark ++ rest ∧ ¬ ∃ t, readTotal rest = .ok t) := by
  have hmarks (rest other : List Char) : subtotalMark ++ rest ≠ totalMark ++ other := by
    simp [subtotalMark_eq, totalMark_eq]
  have hnone {mark : List Char} (h : mark.isPrefixOf? inner = none) (rest : List Char) :
      inner ≠ mark ++ rest := by
    intro heq
    rw [isPrefixOf?_eq_some_iff.mpr heq] at h
    contradiction
  unfold readInner
  split
  · rename_i hbar
    simp [hbar]
  · rename_i hbar
    split
    · rename_i rest hrest
      obtain rfl := isPrefixOf?_eq_some_iff.mp hrest
      simp only [map_eq_error_iff, exists_eq_error_iff, hmarks, List.append_cancel_left_eq,
        exists_eq_left', ne_eq, hbar, not_false_eq_true, true_and, false_and, exists_false,
        or_false]
    · rename_i hsubtotal
      split
      · rename_i rest hrest
        obtain rfl := isPrefixOf?_eq_some_iff.mp hrest
        simp only [map_eq_error_iff, exists_eq_error_iff, hnone hsubtotal,
          List.append_cancel_left_eq, exists_eq_left', ne_eq, hbar, not_false_eq_true, true_and,
          false_and, exists_false, false_or]
      · rename_i htotal
        simp only [hnone hsubtotal, hnone htotal, false_and, exists_false, or_self, and_false]
        split
        · simp
        · split <;> simp

/-- A text is rejected exactly when it is something between brackets that is rejected. -/
theorem exists_read_eq_error_iff : (∃ e, read text = .error e) ↔
    ∃ inner, text.toList = bracketed inner ∧ ∃ e, readInner inner = .error e := by
  have hread : (∃ e, read text = .error e) ↔ ∃ e, readChars text.toList = .error e := by
    rw [read]
    cases readChars text.toList <;> simp [Except.mapError]
  rw [hread, readChars]
  cases hinner : inner? text.toList with
  | none =>
    have hnot : ¬ ∃ inner, text.toList = bracketed inner ∧ ∃ e, readInner inner = .error e := by
      rintro ⟨inner, htext, e, he⟩
      have hne : inner ≠ [] := by
        rintro rfl
        contradiction
      rw [inner?_eq_some_iff.mpr ⟨htext, hne⟩] at hinner
      contradiction
    simp [hnot]
  | some inner =>
    obtain ⟨htext, -⟩ := inner?_eq_some_iff.mp hinner
    simp only [htext, bracketed_inj, exists_eq_left']

/-- Words and blanks behind words and blanks. -/
theorem isWords_append (hinner : inner.all isWordOrSpace = true) (hrest : isWords rest = true) :
    isWords (inner ++ rest) = true := by
  simp only [isWords, Bool.and_eq_true, Bool.not_eq_true', List.isEmpty_eq_false_iff] at hrest ⊢
  exact ⟨by simp [hrest.1], by rw [List.all_append, hinner, hrest.2, Bool.and_true]⟩

/-- What is read as a tag are words and blanks between brackets. -/
theorem isWords_of_readInner {t : Tag} (hne : inner ≠ [])
    (h : readInner inner = .ok (some t)) : isWords inner = true := by
  have hsubtotal : subtotalMark.all isWordOrSpace = true := by decide
  have htotal : totalMark.all isWordOrSpace = true := by decide
  unfold readInner at h
  split at h
  · rename_i hbar
    rw [hbar]
    decide
  · split at h
    · rename_i rest hrest
      obtain rfl := isPrefixOf?_eq_some_iff.mp hrest
      obtain ⟨t, ht, -⟩ := map_eq_ok_iff.mp h
      obtain ⟨digits, column, hnumeral, -, -, hcolumn, rfl, -⟩ := readSubtotal_eq_ok_iff.mp ht
      have hdigits : digits.all isWordOrSpace = true := List.all_eq_true.mpr fun c hc =>
        Text.isWordOrSpace_of_isWordAscii (by simp [isWordAscii, hnumeral.2 c hc])
      have hbehind : isWords (['_'] ++ column) = true := isWords_append (by decide) hcolumn
      exact isWords_append hsubtotal (isWords_append hdigits hbehind)
    · split at h
      · rename_i rest hrest
        obtain rfl := isPrefixOf?_eq_some_iff.mp hrest
        obtain ⟨t, ht, -⟩ := map_eq_ok_iff.mp h
        exact isWords_append htotal (readTotal_eq_ok_iff.mp ht).1
      · split at h
        · rename_i hname
          rw [isWords, Bool.and_eq_true, List.all_eq_true]
          exact ⟨by simpa using hne, fun c hc =>
            Text.isWordOrSpace_of_isWordAscii (List.all_eq_true.mp hname c hc)⟩
        · split at h
          · assumption
          · simp at h

/-- A text that is not rejected is a tag exactly when it has the shape of tags. -/
theorem isSome_iff_looksLikeTag {tag? : Option Tag} (h : read text = .ok tag?) :
    tag?.isSome = true ↔ looksLikeTag text = true := by
  rw [read, mapError_eq_ok_iff, readChars] at h
  rw [looksLikeTag]
  cases hinner : inner? text.toList with
  | none =>
    rw [hinner] at h
    obtain rfl := Except.ok.inj h
    simp
  | some inner =>
    obtain ⟨-, hne⟩ := inner?_eq_some_iff.mp hinner
    simp only [hinner] at h
    rw [Option.any_some]
    constructor
    · intro hsome
      obtain ⟨t, rfl⟩ := Option.isSome_iff_exists.mp hsome
      exact isWords_of_readInner hne h
    · intro hwords
      rw [Option.isSome_iff_ne_none]
      rintro rfl
      exact readInner_ne_none hwords h

end Tag

namespace Grid

variable {g : Grid} {tags : List (Cell × Tag)}

/-- A single cell whose text is not rejected has a tag exactly when it looks like one, where a
formula is no markup. -/
theorem map_fst_tagAt? {c : Cell} {v : Value}
    (hread : ∀ s, v = .text s → Tag.isRejected s = false)
    (hformula : ∀ s, v = .formula s → Tag.isMarkup s = false) :
    (tagAt? (c, v)).map Prod.fst = if Tag.looksLikeTag v.print then some c else none := by
  have hnot (hmarkup : v.isMarkup = false) (htext : v.text? = none) :
      (tagAt? (c, v)).map Prod.fst = if Tag.looksLikeTag v.print then some c else none := by
    rw [Value.not_looksLikeTag_print hmarkup, tagAt?, htext]
    rfl
  cases v with
  | text s =>
    obtain ⟨tag?, hs⟩ := Tag.isRejected_eq_false_iff.mp (hread s rfl)
    have hlooks := Tag.isSome_iff_looksLikeTag hs
    simp only [tagAt?, Value.text?, Option.map_some, hs, Value.print]
    cases tag? with
    | none =>
      have hfalse : Tag.looksLikeTag s = false := by simpa using hlooks
      simp [hfalse]
    | some tag =>
      have htrue : Tag.looksLikeTag s = true := hlooks.mp rfl
      simp [htrue]
  | formula s => exact hnot (hformula s rfl) rfl
  | _ => exact hnot rfl rfl

/-- Where no formula is markup and no text is rejected, the tags are in the cells that look like
a tag. -/
theorem map_fst_tags (hformula : ∀ c s, g.get c = .formula s → Tag.isMarkup s = false)
    (h : g.tags = .ok tags) : tags.map Prod.fst = g.tagCells := by
  obtain ⟨hread, rfl⟩ := tagsOf_eq_ok_iff.mp h
  have hcell : ∀ e ∈ g.entries,
      (tagAt? e).map Prod.fst = if Tag.looksLikeTag e.2.print then some e.1 else none :=
    fun e he => map_fst_tagAt? (hread e he) fun s hs =>
      hformula e.1 s ((mem_entries.mp he).1.trans hs)
  calc
    (g.entries.filterMap tagAt?).map Prod.fst =
        g.entries.filterMap fun e => (tagAt? e).map Prod.fst := List.map_filterMap
    _ = g.entries.filterMap fun e =>
        if Tag.looksLikeTag e.2.print then some e.1 else none := List.filterMap_congr hcell
    _ = g.tagCells := by
      rw [tagCells, findAll, ← List.filterMap_eq_map, List.filterMap_filter]
      rfl

end Grid

namespace Tag

/-- A text is rejected exactly when it ends with a bracket, is not the mark of the closing row, and
begins like a subtotal or a total without being one. Otherwise it is a tag exactly when it has the
shape that all tags share. So on a grid whose formulas begin with an equals sign and whose tags can
be read, these are in the cells that look like a tag, in the same order. -/
theorem reads_exactly_the_grammar :
    (∀ text, (∃ e, read text = .error e) ↔
      ">".toList <:+ text.toList ∧ text ≠ "<total_bar>" ∧
        ("<subtotal_".toList <+: text.toList ∧ ¬ IsSubtotalText text ∨
          "<total_".toList <+: text.toList ∧ ¬ IsTotalText text)) ∧
    (∀ text tag?, read text = .ok tag? → (tag?.isSome = true ↔ HasShape text)) ∧
    (∀ (g : Grid) tags, (∀ c s, g.get c = .formula s → "=".toList <+: s.toList) →
      g.tags = .ok tags → tags.map Prod.fst = g.tagCells) := by
  refine ⟨fun text => ?_, fun text tag? h => ?_, fun g tags hformula h => ?_⟩
  · rw [exists_read_eq_error_iff, subtotalStart_eq, totalStart_eq]
    constructor
    · rintro ⟨inner, htext, herror⟩
      obtain ⟨hbar, hform⟩ := exists_readInner_eq_error_iff.mp herror
      have hnot : text ≠ "<total_bar>" := by
        rintro rfl
        exact hbar (bracketed_inj.mp (htext.symm.trans (by decide)))
      rcases hform with ⟨rest, rfl, hrest⟩ | ⟨rest, rfl, hrest⟩
      · obtain ⟨hbegins, hends⟩ := (begins_and_ends_iff (by decide)).mpr ⟨rest, htext⟩
        exact ⟨hends, hnot, .inl ⟨hbegins, mt (isSubtotalText_iff htext).mp hrest⟩⟩
      · obtain ⟨hbegins, hends⟩ := (begins_and_ends_iff (by decide)).mpr ⟨rest, htext⟩
        exact ⟨hends, hnot, .inr ⟨hbegins, mt (isTotalText_iff htext).mp hrest⟩⟩
    · rintro ⟨hends, hnot, hform⟩
      have hbar {inner : List Char} (htext : text.toList = bracketed inner) :
          inner ≠ totalBar.toList := by
        rintro rfl
        exact hnot (String.toList_inj.mp (htext.trans (by decide)))
      rcases hform with ⟨hbegins, hrest⟩ | ⟨hbegins, hrest⟩
      · obtain ⟨rest, htext⟩ := (begins_and_ends_iff (by decide)).mp ⟨hbegins, hends⟩
        exact ⟨_, htext, exists_readInner_eq_error_iff.mpr
          ⟨hbar htext, .inl ⟨rest, rfl, mt (isSubtotalText_iff htext).mpr hrest⟩⟩⟩
      · obtain ⟨rest, htext⟩ := (begins_and_ends_iff (by decide)).mp ⟨hbegins, hends⟩
        exact ⟨_, htext, exists_readInner_eq_error_iff.mpr
          ⟨hbar htext, .inr ⟨rest, rfl, mt (isTotalText_iff htext).mpr hrest⟩⟩⟩
  · rw [isSome_iff_looksLikeTag h, looksLikeTag_iff_hasShape]
  · refine Grid.map_fst_tags (fun c s hs => not_isMarkup_of_head ?_) h
    obtain ⟨rest, hrest⟩ := hformula c s hs
    rw [← hrest]
    simp

/-- A size in digits of another script is rejected. Beside a name, a text and a formula that begins
with an equals sign, a subtotal with zeros before its size is resolved and cleared. -/
theorem reads_exactly_the_grammar_beside_formula :
    let cell (row col : Fin 4) : Cell := ⟨row, col, by omega, by omega⟩
    let g : Grid := .ofList [(cell 0 0, .text "<data_start>"), (cell 1 0, .text "Clicks"),
      (cell 1 1, .formula "=A1"), (cell 2 1, .text "<subtotal_007_Ad server clicks>")]
    (∃ e, read "<subtotal_٣_Clicks>" = .error e) ∧
      read "<subtotal_007_Ad server clicks>" = .ok (some (.subtotal 7 "Ad server clicks")) ∧
      HasShape "<subtotal_007_Ad server clicks>" ∧
      (∀ c s, g.get c = .formula s → "=".toList <+: s.toList) ∧
      g.tags = .ok [(cell 0 0, .anchor "data_start"),
        (cell 2 1, .subtotal 7 "Ad server clicks")] ∧
      g.tagCells = [cell 0 0, cell 2 1] := by
  intro cell g
  obtain ⟨hrejected, hshape, hcells⟩ := reads_exactly_the_grammar
  have hforeign : ¬ IsSubtotalText "<subtotal_٣_Clicks>" := by
    have htext : "<subtotal_٣_Clicks>".toList =
        bracketed (subtotalMark ++ '٣' :: "_Clicks".toList) := by decide
    rw [isSubtotalText_iff htext]
    rintro ⟨t, ht⟩
    obtain ⟨digits, column, ⟨hne, hdigits⟩, -, -, -, heq, -⟩ := readSubtotal_eq_ok_iff.mp ht
    obtain ⟨digit, others, rfl⟩ := List.exists_cons_of_ne_nil hne
    obtain ⟨rfl, -⟩ := List.cons.inj heq
    exact absurd (hdigits _ List.mem_cons_self) (by decide)
  have hread : read "<subtotal_007_Ad server clicks>" =
      .ok (some (.subtotal 7 "Ad server clicks")) := rfl
  have hformula : ∀ c s, g.get c = .formula s → "=".toList <+: s.toList := by
    intro c s hs
    have hentries : g.entries = [(cell 0 0, .text "<data_start>"), (cell 1 0, .text "Clicks"),
      (cell 1 1, .formula "=A1"), (cell 2 1, .text "<subtotal_007_Ad server clicks>")] := by
      decide +kernel
    have hmem : (c, .formula s) ∈ g.entries := Grid.mem_entries.mpr ⟨hs, by simp⟩
    obtain ⟨-, rfl⟩ : c = cell 1 1 ∧ s = "=A1" := by simpa [hentries] using hmem
    decide
  have htags : g.tags = .ok [(cell 0 0, .anchor "data_start"),
      (cell 2 1, .subtotal 7 "Ad server clicks")] := eq_ok_of_toOption (by decide +kernel)
  refine ⟨(hrejected _).mpr ⟨by decide, by decide, .inl ⟨by decide, hforeign⟩⟩, hread,
    (hshape _ _ hread).mp rfl, hformula, htags, (hcells g _ hformula htags).symm⟩

end Tag

end SheetReport
