import SheetReport.Proofs.Report.Contents

/-!
# What the operands of a total hold

A counted total adds one cell for each group: the subtotal of a larger group, which is a formula,
and the field of a record that stands alone in its group. A field without a value is shown as a
text. A sum over a range passes over texts, but a total adds its cells one by one, so such a field
is an operand that cannot be added.

Main statement: `total_is_summable_iff`, for numbers and missing values in the counted columns.
-/

namespace SheetReport

open Resolution

namespace Value

/-- Whether a value can be added to another: a number or a formula. -/
def isSummable : Value → Bool
  | .number _ | .formula _ => true
  | _ => false

/-- What stands for a missing value is not a tag. -/
theorem notAvailable_ne_text (tag : Tag) : text notAvailable ≠ .text tag.text := by
  intro heq
  have hchars : notAvailable.toList = Tag.bracketed tag.innerChars := by
    rw [Value.text.inj heq, Tag.text, String.toList_ofList]
  simp [notAvailable, Tag.bracketed] at hchars

end Value

/-- Whether every field of a counted column is a number or missing. -/
def Records.CountsNumbers (s : Records) (kinds : ColumnKinds) : Prop :=
  ∀ r ∈ s.records, ∀ col name, s.columns[col]? = some name → kinds.classify name = .count →
    r.get col = .empty ∨ ∃ x, r.get col = .number x

/-- Whatever its note, the lone record has no number of clicks. -/
theorem LoneReport.countsNumbers (note : String) :
    (records note).CountsNumbers SmallReport.assembler.kinds := by
  intro r hr col name hname hkind
  obtain rfl := List.mem_singleton.mp hr
  match col with
  | 0 =>
    obtain rfl := Option.some.inj hname
    exact absurd hkind (by rw [SmallReport.kinds_eq]; decide)
  | 1 =>
    obtain rfl := Option.some.inj hname
    exact absurd hkind (by rw [SmallReport.kinds_eq]; decide)
  | _ + 2 => exact .inl rfl

/-- What a total adds in a column for a group: a formula for a larger group, and for another one
the field of its only record as it is shown. -/
def Grid.ShowsOperand (g : Grid) (col : Nat) (c : Cell) (b : Group) : Prop :=
  (1 < b.size ∧ ∃ s, g.get c = .formula s) ∨
    ∃ m, b.members = [m] ∧
      g.get c = if (m.record.get col).isEmpty then .text notAvailable else m.record.get col

/-- Where a property of cells is a property of what they stand for, all cells of a list have it
exactly when all of the others do. -/
theorem forall_mem_iff_of_forall₂ {α β : Type} {p : α → Prop} {q : β → Prop} {l : List α}
    {l' : List β} (h : List.Forall₂ (fun a b => p a ↔ q b) l l') :
    (∀ a ∈ l, p a) ↔ ∀ b ∈ l', q b := by
  induction h with
  | nil => simp only [List.not_mem_nil, false_implies, implies_true]
  | cons hhead _ ih => rw [List.forall_mem_cons, List.forall_mem_cons, hhead, ih]

namespace Assembler.Assembled

variable {a : Assembler} {template laid resolved final : Grid} {records : Records}
  {placeholders : Placeholders} {groups : List Group} {anchors : Anchors} {outcome : Outcome}
  {c : Cell} {col : Nat} {name : String}

/-- The record of a placed member is a record of the input. -/
theorem record_mem (h : Assembled a template records placeholders groups anchors laid resolved
    final outcome) {b : Group} (hb : b ∈ groups) {m : Member} (hm : m ∈ b.members) :
    m.record ∈ records.records := by
  have hmem : m ∈ groups.flatMap Group.members := List.mem_flatMap.mpr ⟨b, hb, hm⟩
  exact List.mem_of_getElem?
    (Grouper.mem_members_iff.mp ((Grouper.build_eq_ok h.build_eq).1.mem_iff.mp hmem))

/-- A number or a missing value is in the final grid, whatever the placeholders are called. -/
theorem get_final_of_field (h : Assembled a template records placeholders groups anchors laid
    resolved final outcome) {index : Nat} {r : Record}
    (hrow : (PlannedRow.plan (groups.map Group.records))[index]? = some (.data r))
    (hname : records.columns[col]? = some name) (hat : c.IsAt outcome.extent.first index col)
    (hfield : r.get col = .empty ∨ ∃ x, r.get col = .number x) :
    final.get c = if (r.get col).isEmpty then .text notAvailable else r.get col := by
  have hlaid : laid.get c = if (r.get col).isEmpty then .text notAvailable else r.get col :=
    h.rendered.planned hrow hname hat
  have hshown : (laid.get c).isMarkup = false ∧
      ∀ tag : Tag, laid.get c ≠ .text tag.text := by
    rw [hlaid]
    rcases hfield with hempty | ⟨x, hx⟩
    · rw [hempty]
      exact ⟨Value.not_isMarkup_notAvailable, Value.notAvailable_ne_text⟩
    · rw [hx]
      exact ⟨rfl, fun tag heq => by contradiction⟩
  have hresolved : resolved.get c = laid.get c := h.resolves.get_of_not_isMarkup hshown.1
  have hfinal : final.get c = resolved.get c :=
    h.get_final (hresolved ▸ hshown.1) fun e _ => hresolved ▸ hshown.2 (Tag.anchor e.1)
  rw [hfinal, hresolved, hlaid]

/-- The operand for a larger group is the formula of its subtotal. -/
theorem exists_operand_subtotal (h : Assembled a template records placeholders groups anchors laid
    resolved final outcome)
    (hm : Layout.Marked template anchors records.columns groups laid outcome.extent)
    {b : Nat × Group} (hb : b ∈ Group.placed groups) (hlarge : 1 < b.2.size)
    (hname : records.columns[col]? = some name) (hkind : a.kinds.classify name = .count) :
    ∃ c : Cell, c.IsAt outcome.extent.first (b.1 + b.2.size) col ∧
      final.ShowsOperand col c b.2 := by
  obtain ⟨c, hat⟩ := hm.exists_subtotal_cell hb hlarge hname
  obtain ⟨range, -, -, hsum⟩ := hm.get_subtotal_count h.resolves hb hlarge hname hat hkind
  exact ⟨c, hat, .inl ⟨hlarge, _, h.showsSum_final hsum⟩⟩

/-- The operand for another group is the field of its only record. -/
theorem exists_operand_single (h : Assembled a template records placeholders groups anchors laid
    resolved final outcome) (hcounts : records.CountsNumbers a.kinds) {b : Nat × Group}
    (hb : b ∈ Group.placed groups) (hsmall : ¬ 1 < b.2.size)
    (hname : records.columns[col]? = some name) (hkind : a.kinds.classify name = .count) :
    ∃ c : Cell, c.IsAt outcome.extent.first b.1 col ∧ final.ShowsOperand col c b.2 := by
  have hmem := Group.mem_of_mem_placed hb
  obtain ⟨m, hmembers, hplan⟩ :=
    Group.exists_members_eq_singleton hb hsmall (h.members_ne_nil b.2 hmem)
  obtain ⟨c, hat⟩ := h.rendered.exists_isAt_of_planned hplan hname
  have hrecord : m.record ∈ records.records :=
    h.record_mem hmem (hmembers ▸ List.mem_singleton_self m)
  have hfield := hcounts m.record hrecord col name hname hkind
  exact ⟨c, hat, .inr ⟨m, hmembers, h.get_final_of_field hplan hname hat hfield⟩⟩

/-- A counted total adds one operand for each group, those of the larger groups first. -/
theorem forall₂_showsOperand (h : Assembled a template records placeholders groups anchors laid
    resolved final outcome)
    (hm : Layout.Marked template anchors records.columns groups laid outcome.extent)
    (hcounts : records.CountsNumbers a.kinds) (hname : records.columns[col]? = some name)
    (hkind : a.kinds.classify name = .count) :
    List.Forall₂ (fun c b => final.ShowsOperand col c b.2)
      (outcome.extent.columnCells col (Group.subtotalRows groups ++ Group.singleRows groups))
      (Group.largerFirst groups) := by
  exact Group.forall₂_largerFirst
    (fun b hb hlarge => h.exists_operand_subtotal hm hb hlarge hname hkind)
    fun b hb hsmall => h.exists_operand_single hcounts hb hsmall hname hkind

end Assembler.Assembled

/-- An operand can be added unless it stands for a record alone in its group without a value. -/
theorem Grid.ShowsOperand.isSummable_iff {g : Grid} {col : Nat} {c : Cell} {b : Group}
    (h : g.ShowsOperand col c b)
    (hfields : ∀ m ∈ b.members, m.record.get col = .empty ∨ ∃ x, m.record.get col = .number x) :
    (g.get c).isSummable = true ↔ ∀ m, b.members = [m] → m.record.get col ≠ .empty := by
  rcases h with ⟨hlarge, s, hformula⟩ | ⟨m, hmembers, hget⟩
  · refine iff_of_true (by rw [hformula]; rfl) fun m hmembers => ?_
    simp [Group.size, hmembers] at hlarge
  · have honly : (∀ m', b.members = [m'] → m'.record.get col ≠ .empty) ↔
        m.record.get col ≠ .empty := by
      simp only [hmembers, List.cons.injEq, and_true, forall_eq']
    rw [honly, hget]
    rcases hfields m (hmembers ▸ List.mem_singleton_self m) with hempty | ⟨x, hx⟩
    · simp [hempty, Value.isEmpty, Value.isSummable]
    · simp [hx, Value.isEmpty, Value.isSummable]

namespace Assembler

/-- With numbers and missing values in the counted columns, a counted total adds a formula for
each larger group and the field of the only record for each other one. All operands can be added
exactly when no record that stands alone in its group lacks its value. -/
theorem total_is_summable_iff {a : Assembler} {template final : Grid} {records : Records}
    {placeholders : Placeholders} {outcome : Outcome}
    (hrun : a.run template records placeholders = .ok (final, outcome))
    (htemplate : template.Lacks Value.isAggregate) (hrecords : records.Lacks Value.isMarkup)
    (hcounts : records.CountsNumbers a.kinds) :
    ∃ groups, a.grouper.build records = .ok groups ∧
      ∀ col name, records.columns[col]? = some name → a.kinds.classify name = .count →
        ∃ (total : Cell) (terms : List Cell),
          total.row + 1 = outcome.extent.last.row ∧
          total.col = outcome.extent.first.col + col ∧
          final.ShowsAddition total terms ∧
          List.Forall₂ (fun c b => final.ShowsOperand col c b.2) terms
            (Group.largerFirst groups) ∧
          ((∀ c ∈ terms, (final.get c).isSummable = true) ↔
            ∀ b ∈ groups, ∀ m, b.members = [m] → m.record.get col ≠ .empty) := by
  obtain ⟨groups, anchors, laid, resolved, h⟩ := run_eq_ok hrun
  have hm := h.marked htemplate (hrecords.mono fun _ => Value.not_isAggregate_of_not_isMarkup)
  refine ⟨groups, h.build_eq, fun col name hname hkind => ?_⟩
  obtain ⟨total, hrow, hcol⟩ := hm.exists_total_cell hname
  have hadds := h.showsAddition_final
    (hm.get_total_count h.resolves h.members_ne_nil hname hrow hcol hkind)
  have hoperands := h.forall₂_showsOperand hm hcounts hname hkind
  refine ⟨total, _, hrow, hcol, hadds, hoperands, ?_⟩
  have hplaced : ∀ b ∈ Group.largerFirst groups, b.2 ∈ groups := fun b hb =>
    Group.mem_of_mem_placed ((Group.largerFirst_perm groups).mem_iff.mp hb)
  have hboth := (List.forall₂_and_left _ _).mpr ⟨hplaced, hoperands.flip⟩
  have hsummable : (∀ b ∈ Group.largerFirst groups, ∀ m, b.2.members = [m] →
      m.record.get col ≠ .empty) ↔
        ∀ c ∈ outcome.extent.columnCells col
          (Group.subtotalRows groups ++ Group.singleRows groups), (final.get c).isSummable = true :=
    forall_mem_iff_of_forall₂ (hboth.imp fun {b c} hoperand =>
      (Grid.ShowsOperand.isSummable_iff hoperand.2 fun m hmember =>
        hcounts m.record (h.record_mem hoperand.1 hmember) col name hname hkind).symm)
  rw [← hsummable]
  constructor
  · intro hall b hb
    rw [← Group.map_snd_placed groups] at hb
    obtain ⟨place, hplace, rfl⟩ := List.mem_map.mp hb
    exact hall place ((Group.largerFirst_perm groups).mem_iff.mpr hplace)
  · intro hall b hb
    exact hall b.2 (hplaced b hb)

/-- In the report of one record without a number of clicks, not every operand of the total can be
added. -/
theorem loneReport_total_is_not_summable :
    SmallReport.template.Lacks Value.isAggregate ∧
      (LoneReport.records "plain").Lacks Value.isMarkup ∧
      (LoneReport.records "plain").CountsNumbers SmallReport.assembler.kinds ∧
      ∃ final outcome,
        SmallReport.assembler.run SmallReport.template (LoneReport.records "plain") .empty =
          .ok (final, outcome) ∧
        ∃ (total : Cell) (terms : List Cell), final.ShowsAddition total terms ∧
          ¬ ∀ c ∈ terms, (final.get c).isSummable = true := by
  have htemplate : SmallReport.template.Lacks Value.isAggregate := by decide
  have hrecords : (LoneReport.records "plain").Lacks Value.isMarkup := by decide
  have hcounts := LoneReport.countsNumbers "plain"
  obtain ⟨final, outcome, hrun⟩ := LoneReport.exists_run_plain
  obtain ⟨groups, hgroups, htotals⟩ :=
    total_is_summable_iff hrun htemplate hrecords hcounts
  obtain ⟨total, terms, -, -, hadds, -, hiff⟩ :=
    htotals 2 "Ad server clicks" rfl (by rw [SmallReport.kinds_eq]; decide)
  obtain rfl := Except.ok.inj ((LoneReport.build_eq "plain").symm.trans hgroups)
  refine ⟨htemplate, hrecords, hcounts, final, outcome, hrun, total, terms, hadds, ?_⟩
  rw [hiff]
  exact fun hall => hall _ List.mem_cons_self _ rfl rfl

/-- The total of the clicks is that of the only record, which is a text. -/
theorem loneReport_total_adds_a_text :
    SmallReport.template.Lacks Value.isAggregate ∧
      (LoneReport.records "plain").Lacks Value.isMarkup ∧
      (LoneReport.records "plain").CountsNumbers SmallReport.assembler.kinds ∧
      SmallReport.assembler.kinds.classify "Ad server clicks" = .count ∧
      ∃ final outcome,
        SmallReport.assembler.run SmallReport.template (LoneReport.records "plain") .empty =
          .ok (final, outcome) ∧
        (SmallReport.cell 3 2).row + 1 = outcome.extent.last.row ∧
        final.get (SmallReport.cell 3 2) = .formula "=C2" ∧
        (SmallReport.cell 1 2).name = "C2" ∧ final.get (SmallReport.cell 1 2) = .text "n/a" := by
  have htemplate : SmallReport.template.Lacks Value.isAggregate := by decide
  have hrecords : (LoneReport.records "plain").Lacks Value.isMarkup := by decide
  have hkind : SmallReport.assembler.kinds.classify "Ad server clicks" = .count := by
    rw [SmallReport.kinds_eq]
    decide
  obtain ⟨final, outcome, hrun⟩ := LoneReport.exists_run_plain
  obtain ⟨groups, anchors, laid, resolved, h⟩ := run_eq_ok hrun
  obtain rfl := Except.ok.inj ((LoneReport.build_eq "plain").symm.trans h.build_eq)
  obtain rfl := Except.ok.inj (SmallReport.anchors_eq.symm.trans h.anchors_eq)
  have hm := h.marked htemplate (hrecords.mono fun _ => Value.not_isAggregate_of_not_isMarkup)
  have hlast : outcome.extent.last.row + 1 = 1 + 4 := h.rendered.last_row
  have hfirst : outcome.extent.first = SmallReport.cell 1 0 := h.rendered.first
  have hat : (SmallReport.cell 1 2).IsAt outcome.extent.first 0 2 := hfirst ▸ ⟨rfl, rfl⟩
  have hname : (LoneReport.records "plain").columns[2]? = some "Ad server clicks" := rfl
  have htotal := h.showsAddition_final (hm.get_total_count (c := SmallReport.cell 3 2) h.resolves
    h.members_ne_nil hname (Nat.succ.inj hlast.symm) (hfirst ▸ rfl) hkind)
  have hrows : Group.subtotalRows (LoneReport.groups "plain") ++
      Group.singleRows (LoneReport.groups "plain") = [0] := rfl
  have hterm : outcome.extent.columnCells 2 [0] = [SmallReport.cell 1 2] :=
    Extent.columnCells_cons hat []
  rw [hrows, hterm] at htotal
  have hplan : (PlannedRow.plan ((LoneReport.groups "plain").map Group.records))[0]? =
      some (.data ⟨[.text "ORD-1", .text "plain"]⟩) := rfl
  exact ⟨htemplate, hrecords, LoneReport.countsNumbers "plain", hkind, final, outcome, hrun,
    Nat.succ.inj hlast.symm, (htotal.sum (by simp)).trans (by decide), by decide,
    h.get_final_of_field hplan hname hat (.inl rfl)⟩

end Assembler

end SheetReport
