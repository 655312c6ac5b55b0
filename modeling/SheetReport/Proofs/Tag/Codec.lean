import SheetReport.Proofs.Tag.Reading

/-!
# Tags and their texts

Building a tag and reading its text undo each other. A subtotal or total of an encodable column
is read back with its own size and column, whatever digits and underscores the column has, so no
two of them have one text. Conversely a text that is read as a tag is the text of that tag, up to
zeros before the size of a subtotal, which reading drops.

Main statement: `tags_and_texts_correspond`.
-/

namespace SheetReport

namespace Tag

/-- The text of a tag with zeros before the size of a subtotal. -/
def paddedText (zeros : Nat) : Tag → String
  | .subtotal size column =>
    String.ofList (bracketed (subtotalMark ++
      (List.replicate zeros '0' ++ Number.natDigits size) ++ '_' :: column.toList))
  | t => t.text

/-- Without zeros it is the text of the tag. -/
theorem paddedText_zero (t : Tag) : t.paddedText 0 = t.text := by
  cases t <;> rfl

/-- What is read as a subtotal has a positive size that fits, and the text of its size may begin
with zeros. -/
theorem exists_of_readSubtotal {text : List Char} {t : Tag} (h : readSubtotal text = .ok t) :
    ∃ zeros size column, 0 < size ∧ size < sizeLimit ∧ isWords column.toList = true ∧
      t = .subtotal size column ∧
      text = List.replicate zeros '0' ++ Number.natDigits size ++ '_' :: column.toList := by
  obtain ⟨digits, column, hnumeral, hpos, hlt, hcolumn, rfl, rfl⟩ := readSubtotal_eq_ok_iff.mp h
  obtain ⟨zeros, hzeros⟩ := Number.exists_zeros_of_ofDigitChars_pos hnumeral.2 hpos
  exact ⟨zeros, Nat.ofDigitChars 10 digits 0, String.ofList column, hpos, hlt,
    by rwa [String.toList_ofList], rfl, by rw [← hzeros, String.toList_ofList]⟩

/-- What is read between brackets is the inner text of a tag, up to zeros before the size of a
subtotal. -/
theorem inner_of_readInner {inner : List Char} {t : Tag} (h : readInner inner = .ok (some t)) :
    inner = t.innerChars ∨
      ∃ zeros size column, 0 < size ∧ size < sizeLimit ∧ isWords column.toList = true ∧
        t = .subtotal size column ∧
        inner = subtotalMark ++ (List.replicate zeros '0' ++ Number.natDigits size) ++
          '_' :: column.toList := by
  unfold readInner at h
  split at h
  · rename_i hbar
    obtain rfl := Option.some.inj (Except.ok.inj h)
    exact .inl hbar
  · split at h
    · rename_i rest hrest
      obtain rfl := isPrefixOf?_eq_some_iff.mp hrest
      obtain ⟨found, hfound, heq⟩ := map_eq_ok_iff.mp h
      obtain rfl := Option.some.inj heq
      obtain ⟨zeros, size, column, hpos, hlt, hcolumn, rfl, rfl⟩ := exists_of_readSubtotal hfound
      exact .inr ⟨zeros, size, column, hpos, hlt, hcolumn, rfl, by simp⟩
    · split at h
      · rename_i rest hrest
        obtain rfl := isPrefixOf?_eq_some_iff.mp hrest
        obtain ⟨found, hfound, heq⟩ := map_eq_ok_iff.mp h
        obtain rfl := Option.some.inj heq
        obtain ⟨-, rfl⟩ := readTotal_eq_ok_iff.mp hfound
        exact .inl (by rw [innerChars, String.toList_ofList])
      · -- anchors and decorative marks are their own inner text
        split at h
        · obtain rfl := Option.some.inj (Except.ok.inj h)
          exact .inl (String.toList_ofList).symm
        · split at h
          · obtain rfl := Option.some.inj (Except.ok.inj h)
            exact .inl (String.toList_ofList).symm
          · simp at h

/-- A text that is read as a tag is the text of the tag, up to zeros before the size of a
subtotal. -/
theorem text_of_read {text : String} {t : Tag} (h : read text = .ok (some t)) :
    text = t.text ∨
      ∃ zeros size column, 0 < size ∧ size < sizeLimit ∧ isWords column.toList = true ∧
        t = .subtotal size column ∧ text = t.paddedText zeros := by
  rw [read, mapError_eq_ok_iff] at h
  unfold readChars at h
  split at h
  · simp at h
  · rename_i inner hinner
    obtain ⟨hbracketed, -⟩ := inner?_eq_some_iff.mp hinner
    have htext : text = String.ofList (bracketed inner) := by
      rw [← hbracketed, String.ofList_toList]
    rcases inner_of_readInner h with rfl | ⟨zeros, size, column, hpos, hlt, hcolumn, rfl, rfl⟩
    · exact .inl htext
    · exact .inr ⟨zeros, size, column, hpos, hlt, hcolumn, rfl, htext⟩

/-- Whether a tag is a subtotal of a size that fits or a total, of an encodable column. -/
def IsBuilt (t : Tag) : Prop :=
  (∃ size column, size < sizeLimit ∧ subtotal? size column = .ok t) ∨
    ∃ column, total? column = .ok t

/-- A positive size and an encodable column make a subtotal. -/
theorem subtotal?_eq_ok_iff {size : Nat} {column : String} {t : Tag} :
    subtotal? size column = .ok t ↔
      0 < size ∧ isEncodable column = true ∧ t = .subtotal size column := by
  unfold subtotal?
  split
  · rename_i hzero
    simp [hzero]
  · rename_i hsize
    split
    · rename_i hcolumn
      simp [hcolumn, Nat.pos_of_ne_zero hsize, eq_comm]
    · rename_i hcolumn
      simp [hcolumn]

/-- An encodable column makes a total. -/
theorem total?_eq_ok_iff {column : String} {t : Tag} :
    total? column = .ok t ↔ isEncodable column = true ∧ t = .total column := by
  unfold total?
  split
  · rename_i hcolumn
    simp [hcolumn, eq_comm]
  · rename_i hcolumn
    simp [hcolumn]

/-- A tag that was built is read back from its text. -/
theorem IsBuilt.read_text {t : Tag} (h : IsBuilt t) : read t.text = .ok (some t) := by
  rcases h with ⟨size, column, hlt, hbuilt⟩ | ⟨column, hbuilt⟩
  · obtain ⟨hpos, hcolumn, rfl⟩ := subtotal?_eq_ok_iff.mp hbuilt
    simp only [isEncodable, Bool.and_eq_true] at hcolumn
    exact read_text_subtotal hpos hlt hcolumn.1
  · obtain ⟨hcolumn, rfl⟩ := total?_eq_ok_iff.mp hbuilt
    exact read_text_total hcolumn

/-- Subtotals and totals of encodable columns are built and read back from their texts, which are
all different; a text that is read as a tag differs from the tag's own text in zeros before the
size of a subtotal only, and that text is read as the same tag. -/
theorem tags_and_texts_correspond :
    (∀ size column, 0 < size → size < sizeLimit → isEncodable column = true →
      subtotal? size column = .ok (.subtotal size column) ∧
        read (subtotal size column).text = .ok (some (.subtotal size column))) ∧
    (∀ column, isEncodable column = true →
      total? column = .ok (.total column) ∧
        read (total column).text = .ok (some (.total column))) ∧
    (∀ t t', IsBuilt t → IsBuilt t' → t.text = t'.text → t = t') ∧
    (∀ text t, read text = .ok (some t) →
      read t.text = .ok (some t) ∧ ∃ zeros, text = t.paddedText zeros) := by
  refine ⟨fun size column hpos hlt hcolumn => ?_, fun column hcolumn => ?_,
    fun t t' ht ht' heq => ?_, fun text t h => ?_⟩
  · have hbuilt := subtotal?_eq_ok_iff.mpr ⟨hpos, hcolumn, rfl⟩
    exact ⟨hbuilt, IsBuilt.read_text (.inl ⟨size, column, hlt, hbuilt⟩)⟩
  · have hbuilt := total?_eq_ok_iff.mpr ⟨hcolumn, rfl⟩
    exact ⟨hbuilt, IsBuilt.read_text (.inr ⟨column, hbuilt⟩)⟩
  · have hread := ht.read_text
    rw [heq, ht'.read_text] at hread
    simpa [eq_comm] using hread
  · rcases text_of_read h with rfl | ⟨zeros, size, column, hpos, hlt, hcolumn, rfl, hpadded⟩
    · exact ⟨h, 0, (paddedText_zero t).symm⟩
    · exact ⟨read_text_subtotal hpos hlt hcolumn, zeros, hpadded⟩

/-- A column that itself looks like a subtotal is told apart, and leading zeros are dropped. -/
theorem tags_and_texts_correspond_subtotal_like :
    (0 < 12 ∧ 12 < sizeLimit ∧ isEncodable "2_subtotal_3" = true) ∧
      read "<subtotal_12_2_subtotal_3>" = .ok (some (.subtotal 12 "2_subtotal_3")) ∧
      read "<subtotal_0012_2_subtotal_3>" = .ok (some (.subtotal 12 "2_subtotal_3")) ∧
      read (subtotal 12 "2_subtotal_3").text = .ok (some (.subtotal 12 "2_subtotal_3")) := by
  have hcolumn : isEncodable "2_subtotal_3" = true := by decide
  have hpadded : read "<subtotal_0012_2_subtotal_3>" =
      .ok (some (.subtotal 12 "2_subtotal_3")) := rfl
  have hsize : 12 < sizeLimit := by decide
  refine ⟨⟨by decide, hsize, hcolumn⟩, ?_, hpadded, ?_⟩
  · exact (tags_and_texts_correspond.1 12 "2_subtotal_3" (by decide) hsize hcolumn).2
  · exact (tags_and_texts_correspond.2.2.2 _ _ hpadded).1

end Tag

end SheetReport
