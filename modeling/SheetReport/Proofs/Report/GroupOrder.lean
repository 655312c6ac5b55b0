import SheetReport.Proofs.Report.Success
import SheetReport.Proofs.Sheet.ValueOrder
import SheetReport.Proofs.Sorting

/-!
# Grouping partitions the records in order

Records are put into one order first: by start date, line item and creative size, and by their
places in the input where these do not tell them apart. This order is strict, so it leaves no
choice. Gathering then runs through it once. Members of one group need not stand next to each
other, as the end date and the identifier are no part of the order.

Main statement: `Grouper.build_partitions_in_order`.
-/

namespace SheetReport

open Std

namespace Grouper

/-- The order of records: by start date, then by line item, then by creative size. -/
def recordOrder (g : Grouper) (s : Records) : Record → Record → Ordering :=
  compareLex (compareOn fun r => s.value r g.rules.startDate)
    (compareLex (compareOn fun r => s.value r g.rules.lineItem)
      (compareOn fun r => s.value r g.rules.creativeSize))

/-- The order of members: that of their records, and that of their places among ties. -/
def memberOrder (g : Grouper) (s : Records) : Member → Member → Ordering :=
  compareLex (fun a b => g.recordOrder s a.record b.record) (compareOn Member.index)

instance (g : Grouper) (s : Records) : TransCmp (g.recordOrder s) := by
  unfold recordOrder
  infer_instance

instance (g : Grouper) (s : Records) :
    TransCmp fun a b : Member => g.recordOrder s a.record b.record where
  eq_swap {a b} :=
    show g.recordOrder s a.record b.record = (g.recordOrder s b.record a.record).swap from
      OrientedCmp.eq_swap
  isLE_trans {a _ c} hab hbc :=
    show (g.recordOrder s a.record c.record).isLE = true from TransCmp.isLE_trans hab hbc

variable {g : Grouper} {s : Records} {lineItem : Nat}

/-- Records are sorted by their order. -/
theorem sorted_eq (hrequire : s.require g.rules.lineItem = .ok lineItem) :
    g.sorted s lineItem =
      (members s).mergeSort fun a b => (g.recordOrder s a.record b.record).isLE := by
  have hcompare : g.compare s lineItem = g.recordOrder s := by
    funext a b
    simp only [compare, recordOrder, compareLex, compareOn, Records.value_eq_get hrequire]
    rfl
  rw [sorted, hcompare]

/-- The places of members go up, those of ties among them. -/
theorem pairwise_members (g : Grouper) (s : Records) : (members s).Pairwise fun a b =>
    g.recordOrder s a.record b.record = .eq → a.index < b.index := by
  have hindex : (members s).Pairwise fun a b => a.index < b.index := by
    rw [members, List.pairwise_map, ← List.pairwise_map (f := Prod.snd) (R := (· < ·)),
      List.zipIdx_map_snd]
    exact List.pairwise_lt_range'
  refine hindex.imp ?_
  intro a b hlt _
  exact hlt

/-- The members go up in the order of grouping. -/
theorem pairwise_sorted (hrequire : s.require g.rules.lineItem = .ok lineItem) :
    (g.sorted s lineItem).Pairwise fun a b => g.memberOrder s a b = .lt := by
  rw [sorted_eq hrequire]
  exact pairwise_mergeSort_lex (pairwise_members g s)

/-- Groups that split a list of members: each member is in the group of its key, groups come in
the order of their first members, and members keep their order. -/
structure Splits (g : Grouper) (s : Records) (order : List Member) (groups : List Group) :
    Prop where
  nodup_keys : (groups.map Group.key).Nodup
  members_perm : (groups.flatMap Group.members).Perm order
  members_ne_nil : ∀ b ∈ groups, b.members ≠ []
  members_eq : ∀ b ∈ groups, b.members = order.filter fun m => g.key? s m.record = some b.key
  firsts_sublist : (groups.filterMap (·.members.head?)).Sublist order

/-- The members of one key are those whose record has it. -/
theorem map_snd_filter_keyed (key : GroupKey) :
    ((g.keyed s lineItem).filter (·.1 = key)).map Prod.snd =
      (g.sorted s lineItem).filter fun m => g.key? s m.record = some key := by
  rw [keyed]
  induction g.sorted s lineItem with
  | nil => rfl
  | cons m rest ih =>
    cases hkey : g.key? s m.record with
    | none => simp [hkey, ih]
    | some key' =>
      by_cases heq : key' = key
      · simp [hkey, heq, ih]
      · simp [hkey, heq, ih]

/-- Groups that are gathered split the members. -/
theorem splits_gather (h : ∀ r ∈ s.records, g.Identifies (g.lineItemText s r)) :
    Splits g s (g.sorted s lineItem) (Group.gather (g.keyed s lineItem)) where
  nodup_keys := Group.nodup_key_gather _
  members_perm := (Group.gather_perm _).trans (by rw [map_snd_keyed h])
  members_ne_nil _ := Group.members_ne_nil_of_mem_gather
  members_eq _ hb := (Group.members_of_mem_gather hb).trans (map_snd_filter_keyed _)
  firsts_sublist := by
    have hfirsts := Group.firsts_gather_sublist (g.keyed s lineItem)
    rwa [map_snd_keyed h] at hfirsts

/-- No identifier is found exactly when none of the two patterns matches. -/
theorem identifier?_eq_none_iff {text : String} :
    g.identifier? text = none ↔ ¬ g.Identifies text := by
  rw [← exists_identifier?_iff, Option.eq_none_iff_forall_ne_some, not_exists]

/-- With the line item column there, grouping runs through the records in one strict order. If
every record has an identifier, the groups split the records in this order. If not, the first
record in this order that has none is reported by its place in the input and its text. -/
theorem build_partitions_in_order (h : g.rules.lineItem ∈ s.columns) :
    ∃ order : List Member, order.Perm (members s) ∧
      (order.Pairwise fun a b => g.memberOrder s a b = .lt) ∧
      ((∀ r ∈ s.records, ∃ id, g.identifier? (g.lineItemText s r) = some id) →
        ∃ groups, g.build s = .ok groups ∧ Splits g s order groups) ∧
      ((∃ r ∈ s.records, g.identifier? (g.lineItemText s r) = none) →
        ∃ before m after, order = before ++ m :: after ∧
          (∀ m' ∈ before, ∃ id, g.identifier? (g.lineItemText s m'.record) = some id) ∧
          g.identifier? (g.lineItemText s m.record) = none ∧
          g.build s = .error (.unidentified m.index (g.lineItemText s m.record))) := by
  obtain ⟨lineItem, hrequire⟩ := Records.exists_require_eq_ok_iff.mpr h
  simp only [exists_identifier?_iff, identifier?_eq_none_iff]
  refine ⟨g.sorted s lineItem, g.sorted_perm s lineItem, pairwise_sorted hrequire, ?_, ?_⟩
  · intro hidentifies
    exact ⟨_, (build_eq_ok_iff hrequire).mpr ⟨hidentifies, rfl⟩, splits_gather hidentifies⟩
  · rintro ⟨r, hr, hnone⟩
    cases hbuild : g.build s with
    | ok groups => exact absurd (((build_eq_ok_iff hrequire).mp hbuild).1 r hr) hnone
    | error error =>
      obtain ⟨before, m, after, hsorted, hbefore, hm, rfl⟩ :=
        (build_eq_error_iff hrequire).mp hbuild
      exact ⟨before, m, after, hsorted, hbefore, hm, rfl⟩

/-- Two records of one group with a record of another group between them are split, and of two
records the one without an identifier is reported. -/
theorem build_partitions_interleaved_in_order :
    let g := SmallReport.assembler.grouper
    let split : Records :=
      ⟨["Line Item"], [⟨[.text "1 ORD-7"]⟩, ⟨[.text "2 ORD-8"]⟩, ⟨[.text "3 ORD-7"]⟩]⟩
    let failing : Records := ⟨["Line Item"], [⟨[.text "ORD-7"]⟩, ⟨[.text "none"]⟩]⟩
    (g.rules.lineItem ∈ split.columns ∧
      ∃ order groups, g.build split = .ok groups ∧ Splits g split order groups) ∧
    (g.rules.lineItem ∈ failing.columns ∧
      g.build failing = .error (.unidentified 1 "none")) := by
  intro g split failing
  have hsplit : g.rules.lineItem ∈ split.columns := by decide +kernel
  have hfailing : g.rules.lineItem ∈ failing.columns := by decide +kernel
  have hfound : ∀ r ∈ split.records, (g.identifier? (g.lineItemText split r)).isSome = true := by
    decide +kernel
  have hfirst : (g.identifier? "ORD-7").isSome = true := by decide +kernel
  have hlast : g.identifier? "none" = none := by decide +kernel
  refine ⟨⟨hsplit, ?_⟩, hfailing, ?_⟩
  · obtain ⟨order, -, -, hok, -⟩ := build_partitions_in_order hsplit
    exact ⟨order, hok fun r hr => Option.isSome_iff_exists.mp (hfound r hr)⟩
  · obtain ⟨order, hperm, -, -, herror⟩ := build_partitions_in_order hfailing
    obtain ⟨before, m, after, horder, -, hnone, hbuild⟩ :=
      herror ⟨⟨[.text "none"]⟩, by decide, hlast⟩
    have hm : m ∈ members failing := hperm.mem_iff.mp (by simp [horder])
    have hcases : m = ⟨0, ⟨[.text "ORD-7"]⟩⟩ ∨ m = ⟨1, ⟨[.text "none"]⟩⟩ := by
      simpa [members, failing] using hm
    rcases hcases with rfl | rfl
    · exact absurd hnone (Option.isSome_iff_ne_none.mp hfirst)
    · exact hbuild

end Grouper

end SheetReport
