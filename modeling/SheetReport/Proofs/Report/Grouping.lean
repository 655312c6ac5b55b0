import Mathlib.Logic.Basic
import SheetReport.Proofs.Report.RowBlocks
import SheetReport.Proofs.Sequence

/-!
# Grouping keeps every record

Gathering moves members into groups and changes nothing else: together the groups hold the
records of the input, each once, and no group is empty. The first member opens the first group,
which takes all members of its key, and the others are gathered behind it; what holds of groups
is proved along this recursion. Grouping fails only when the line item column is missing or some
record has no identifier.

The rows of a group's members follow from the row of its first record.

Main statements: `Group.gather_cons` for what gathering does, and `Grouper.build_eq_ok_iff` and
`Grouper.build_eq_error_iff` for when records are grouped.
-/

namespace SheetReport

namespace Group

/-- While further members are added, the first group takes those of its key, and the other groups
take the rest. -/
theorem foldl_addMember_cons (b : Group) (groups : List Group)
    (keyed : List (GroupKey × Member)) :
    keyed.foldl (fun groups m => addMember m.1 m.2 groups) (b :: groups) =
      { b with members := b.members ++ (keyed.filter (·.1 = b.key)).map Prod.snd } ::
        (keyed.filter (·.1 ≠ b.key)).foldl (fun groups m => addMember m.1 m.2 groups) groups := by
  induction keyed generalizing b groups with
  | nil => simp
  | cons e rest ih =>
    rw [List.foldl_cons, addMember]
    by_cases hkey : b.key = e.1
    · rw [if_pos hkey, ih]
      simp [hkey]
    · rw [if_neg hkey, ih]
      simp [Ne.symm hkey]

/-- The first member opens the first group, which takes all members of its key; the members of
other keys are gathered behind it. -/
theorem gather_cons (e : GroupKey × Member) (rest : List (GroupKey × Member)) :
    gather (e :: rest) =
      ⟨e.1, e.2 :: (rest.filter (·.1 = e.1)).map Prod.snd⟩ ::
        gather (rest.filter (·.1 ≠ e.1)) :=
  foldl_addMember_cons ⟨e.1, [e.2]⟩ [] rest

/-- What holds without members, and with a first one if it holds of the members of other keys,
holds of all lists of members. -/
theorem gather_induction {motive : List (GroupKey × Member) → Prop} (nil : motive [])
    (cons : ∀ e rest, motive (rest.filter (·.1 ≠ e.1)) → motive (e :: rest)) :
    ∀ keyed, motive keyed
  | [] => nil
  | e :: rest => cons e rest (gather_induction nil cons _)
termination_by keyed => keyed.length
decreasing_by
  rw [List.length_cons]
  exact Nat.lt_succ_of_le (List.length_filter_le _ _)

/-- Gathering keeps every member once. -/
theorem gather_perm (keyed : List (GroupKey × Member)) :
    ((gather keyed).flatMap members).Perm (keyed.map Prod.snd) := by
  induction keyed using gather_induction with
  | nil => exact .nil
  | cons e rest ih =>
    have hsplit := (List.filter_append_perm (fun m => decide (m.1 = e.1)) rest).map Prod.snd
    simp only [← decide_not, List.map_append] at hsplit
    rw [gather_cons, List.flatMap_cons, List.map_cons]
    exact ((ih.append_left _).trans hsplit).cons e.2

/-- Every key that a member has, and no other, is the key of a group. -/
theorem mem_key_gather_iff {keyed : List (GroupKey × Member)} {key : GroupKey} :
    key ∈ (gather keyed).map Group.key ↔ key ∈ keyed.map Prod.fst := by
  induction keyed using gather_induction with
  | nil => exact Iff.rfl
  | cons e rest ih =>
    rw [gather_cons, List.map_cons, List.map_cons, List.mem_cons, List.mem_cons, ih]
    by_cases hkey : key = e.1
    · simp [hkey]
    · simp [hkey]

/-- Groups have distinct keys. -/
theorem nodup_key_gather (keyed : List (GroupKey × Member)) :
    ((gather keyed).map Group.key).Nodup := by
  induction keyed using gather_induction with
  | nil => exact .nil
  | cons e rest ih =>
    rw [gather_cons, List.map_cons, List.nodup_cons, mem_key_gather_iff]
    exact ⟨by simp, ih⟩

/-- The members of a group are those of its key, in the order in which they were gathered. -/
theorem members_of_mem_gather {keyed : List (GroupKey × Member)} {b : Group}
    (h : b ∈ gather keyed) :
    b.members = (keyed.filter (·.1 = b.key)).map Prod.snd := by
  induction keyed using gather_induction with
  | nil => contradiction
  | cons e rest ih =>
    rw [gather_cons] at h
    rcases List.mem_cons.mp h with rfl | h
    · simp
    · have hkey : b.key ≠ e.1 := by
        have hmem := mem_key_gather_iff.mp (List.mem_map_of_mem h)
        simp only [List.mem_map, List.mem_filter, decide_eq_true_eq] at hmem
        obtain ⟨e', ⟨-, hne⟩, heq⟩ := hmem
        exact heq ▸ hne
      have hboth : ∀ e' : GroupKey × Member, e'.1 = b.key → e'.1 ≠ e.1 := by
        rintro e' heq
        exact heq ▸ hkey
      rw [ih h, List.filter_filter, List.filter_cons_of_neg (by simpa using Ne.symm hkey)]
      congr 1
      refine List.filter_congr fun e' _ => ?_
      simpa using hboth e'

/-- No gathered group is empty. -/
theorem members_ne_nil_of_mem_gather {keyed : List (GroupKey × Member)} {b : Group}
    (h : b ∈ gather keyed) : b.members ≠ [] := by
  obtain ⟨e, he, hkey⟩ := List.mem_map.mp (mem_key_gather_iff.mp (List.mem_map_of_mem h))
  have hmem : e.2 ∈ (keyed.filter (·.1 = b.key)).map Prod.snd :=
    List.mem_map_of_mem (List.mem_filter.mpr ⟨he, by simpa using hkey⟩)
  rw [members_of_mem_gather h]
  exact List.ne_nil_of_mem hmem

/-- Groups come in the order of their first members. -/
theorem firsts_gather_sublist (keyed : List (GroupKey × Member)) :
    ((gather keyed).filterMap (·.members.head?)).Sublist (keyed.map Prod.snd) := by
  induction keyed using gather_induction with
  | nil => exact .slnil
  | cons e rest ih =>
    rw [gather_cons, List.filterMap_cons, List.map_cons]
    exact (ih.trans (List.filter_sublist.map Prod.snd)).cons_cons e.2

/-- Members that are changed gather to the same groups with changed members. -/
theorem gather_map (f : Member → Member) (keyed : List (GroupKey × Member)) :
    gather (keyed.map (Prod.map id f)) =
      (gather keyed).map fun b => { b with members := b.members.map f } := by
  induction keyed using gather_induction with
  | nil => rfl
  | cons e rest ih =>
    rw [List.map_cons, gather_cons, gather_cons, List.map_cons, ← ih]
    simp [List.filter_map, Function.comp_def]

/-- The groups of a report with the rows of their first members. -/
def placed (groups : List Group) : List (Nat × Group) :=
  (PlannedRow.starts (groups.map records)).zip groups

/-- The rows of groups are the rows of their lists of records. -/
theorem blocks_records (groups : List Group) :
    PlannedRow.blocks (groups.map records) = (placed groups).map (Prod.map id records) := by
  rw [PlannedRow.blocks, placed, List.zip_map_right]

/-- Every group has a first row. -/
theorem map_snd_placed (groups : List Group) : (placed groups).map Prod.snd = groups := by
  rw [placed, List.map_snd_zip]
  simp [PlannedRow.starts, PlannedRow.length_startsFrom]

/-- A placed group is one of the groups. -/
theorem mem_of_mem_placed {groups : List Group} {b : Nat × Group} (h : b ∈ placed groups) :
    b.2 ∈ groups := by
  rw [← map_snd_placed groups]
  exact List.mem_map_of_mem h

/-- A data row of a report is the row of one member. -/
theorem data_mem_plan_iff {groups : List Group} {i : Nat} {r : Record} :
    (PlannedRow.plan (groups.map records))[i]? = some (.data r) ↔
      ∃ b ∈ placed groups, ∃ k m, b.2.members[k]? = some m ∧ m.record = r ∧ i = b.1 + k := by
  rw [PlannedRow.data_mem_plan_iff, blocks_records]
  simp only [List.mem_map, exists_exists_and_eq_and, Prod.map_fst, Prod.map_snd, id_eq, records,
    List.getElem?_map, Option.map_eq_some_iff]
  constructor
  · intro hex
    obtain ⟨b, hb, k, ⟨m, hm, hr⟩, hi⟩ := hex
    exact ⟨b, hb, k, m, hm, hr, hi⟩
  · intro hex
    obtain ⟨b, hb, k, m, hm, hr, hi⟩ := hex
    exact ⟨b, hb, k, ⟨m, hm, hr⟩, hi⟩

/-- A subtotal row of a report stands right below the members of one larger group. -/
theorem subtotal_mem_plan_iff {groups : List Group} {i size : Nat} :
    (PlannedRow.plan (groups.map records))[i]? = some (.subtotal size) ↔
      ∃ b ∈ placed groups, 1 < b.2.size ∧ size = b.2.size ∧ i = b.1 + b.2.size := by
  rw [PlannedRow.subtotal_mem_plan_iff, blocks_records]
  simp only [List.mem_map, exists_exists_and_eq_and, Prod.map_fst, Prod.map_snd, id_eq, records,
    List.length_map, Group.size]

/-- Groups stand one below the other, with two more rows below a larger group. -/
theorem pairwise_placed (groups : List Group) :
    (placed groups).Pairwise fun a b =>
      a.1 + a.2.size + (if 1 < a.2.size then 2 else 0) ≤ b.1 := by
  have h := PlannedRow.pairwise_blocks (groups.map records)
  rw [blocks_records, List.pairwise_map] at h
  refine h.imp fun {a b} hab => ?_
  simp only [Prod.map_fst, Prod.map_snd, id_eq, records, List.length_map,
    PlannedRow.closing] at hab
  simp only [size]
  split at hab
  · rename_i hlt
    simpa [hlt] using hab
  · rename_i hnot
    simpa [hnot] using hab

/-- Of two groups of a report, one stands below the other, or they are the same. -/
theorem placed_cases {groups : List Group} {a b : Nat × Group} (ha : a ∈ placed groups)
    (hb : b ∈ placed groups) :
    a = b ∨ a.1 + a.2.size + (if 1 < a.2.size then 2 else 0) ≤ b.1 ∨
      b.1 + b.2.size + (if 1 < b.2.size then 2 else 0) ≤ a.1 :=
  List.Pairwise.forall_of_forall_of_flip
    (R := fun a b => a = b ∨ a.1 + a.2.size + (if 1 < a.2.size then 2 else 0) ≤ b.1 ∨
      b.1 + b.2.size + (if 1 < b.2.size then 2 else 0) ≤ a.1)
    (fun _ _ => .inl rfl) ((pairwise_placed groups).imp fun h => .inr (.inl h))
    ((pairwise_placed groups).imp fun h => .inr (.inr h)) ha hb

/-- The rows of subtotals, from top to bottom. -/
def subtotalRows (groups : List Group) : List Nat :=
  ((placed groups).filter (·.2.isSubtotalled)).map fun b => b.1 + b.2.size

/-- The rows of records without a subtotal, from top to bottom. -/
def singleRows (groups : List Group) : List Nat :=
  ((placed groups).filter (!·.2.isSubtotalled)).map Prod.fst

/-- A subtotal stands below the members of each larger group. -/
theorem mem_subtotalRows_iff {groups : List Group} {row : Nat} :
    row ∈ subtotalRows groups ↔
      ∃ b ∈ placed groups, 1 < b.2.size ∧ row = b.1 + b.2.size := by
  simp only [subtotalRows, List.mem_map, List.mem_filter, isSubtotalled, decide_eq_true_eq,
    and_assoc, eq_comm (a := row)]

/-- The other groups stand on their own row. -/
theorem mem_singleRows_iff {groups : List Group} {row : Nat} :
    row ∈ singleRows groups ↔ ∃ b ∈ placed groups, b.2.size ≤ 1 ∧ row = b.1 := by
  simp only [singleRows, List.mem_map, List.mem_filter, isSubtotalled, Bool.not_eq_true',
    decide_eq_false_iff_not, Nat.not_lt, and_assoc, eq_comm (a := row)]

/-- The rows of subtotals go down the report. -/
theorem pairwise_subtotalRows (groups : List Group) :
    (subtotalRows groups).Pairwise (· < ·) := by
  rw [subtotalRows, List.pairwise_map]
  refine ((pairwise_placed groups).filter _).imp_of_mem fun {a b} _ hb hab => ?_
  have hlarge : 1 < b.2.size := of_decide_eq_true (List.mem_filter.mp hb).2
  omega

/-- The rows of the other groups go down the report. -/
theorem pairwise_singleRows {groups : List Group} (h : ∀ g ∈ groups, g.members ≠ []) :
    (singleRows groups).Pairwise (· < ·) := by
  rw [singleRows, List.pairwise_map]
  refine ((pairwise_placed groups).filter _).imp_of_mem fun {a b} ha _ hab => ?_
  have hpos : 0 < a.2.size :=
    List.length_pos_iff.mpr (h a.2 (mem_of_mem_placed (List.mem_filter.mp ha).1))
  omega

end Group

namespace Records

/-- A required column is found exactly when it exists. -/
theorem exists_require_eq_ok_iff {s : Records} {column : String} :
    (∃ i, s.require column = .ok i) ↔ column ∈ s.columns := by
  unfold require
  cases h : s.index? column with
  | none =>
    simp only [index?, List.findIdx?_eq_none_iff, beq_eq_false_iff_ne] at h
    simp only [reduceCtorEq, exists_false, false_iff]
    exact fun hmem => h column hmem rfl
  | some i =>
    simp only [Except.ok.injEq, exists_eq', true_iff]
    obtain ⟨hlt, hi, -⟩ := List.findIdx?_eq_some_iff_getElem.mp h
    exact (beq_iff_eq.mp hi) ▸ List.getElem_mem hlt

/-- A missing column is reported by its name. -/
theorem require_of_notMem {s : Records} {column : String} (h : column ∉ s.columns) :
    s.require column = .error (.missingColumn column) := by
  unfold require
  cases hi : s.index? column with
  | none => rfl
  | some i =>
    exact absurd (exists_require_eq_ok_iff.mp ⟨i, by simp [require, hi]⟩) h

/-- The value under a required column stands at its position. -/
theorem value_eq_get {s : Records} {column : String} {i : Nat} (h : s.require column = .ok i)
    (r : Record) : s.value r column = r.get i := by
  unfold require at h
  unfold value
  cases hi : s.index? column with
  | none => simp [hi] at h
  | some j =>
    simp only [hi, Except.ok.injEq] at h
    simp [h]

end Records

namespace Grouper

/-- The text that a record's identifier is looked for in. -/
def lineItemText (g : Grouper) (s : Records) (r : Record) : String :=
  (s.value r g.rules.lineItem).print

/-- Whether a text holds the identifier of a line item or of an order. -/
def Identifies (g : Grouper) (text : String) : Prop :=
  (g.lineItem.find? text).isSome = true ∨ (g.order.find? text).isSome = true

/-- An identifier is found exactly when one of the two patterns matches. -/
theorem exists_identifier?_iff {g : Grouper} {text : String} :
    (∃ id, g.identifier? text = some id) ↔ g.Identifies text := by
  unfold identifier? Identifies orderId?
  cases g.lineItem.find? text <;> cases g.order.find? text <;> simp

/-- The members in the order of grouping are the records of the input. -/
theorem sorted_perm (g : Grouper) (s : Records) (lineItem : Nat) :
    (g.sorted s lineItem).Perm (members s) := List.mergeSort_perm _ _

/-- Every record of the input is a member, with its place. -/
theorem mem_members_iff {s : Records} {m : Member} :
    m ∈ members s ↔ s.records[m.index]? = some m.record := by
  rw [members, List.mem_map]
  constructor
  · intro hex
    obtain ⟨e, he, rfl⟩ := hex
    exact List.mem_zipIdx_iff_getElem?.mp he
  · intro h
    exact ⟨(m.record, m.index), List.mem_zipIdx_iff_getElem?.mpr h, rfl⟩

/-- What holds of the records of all members holds of all records. -/
theorem forall_mem_members_iff {s : Records} {p : Record → Prop} :
    (∀ m ∈ members s, p m.record) ↔ ∀ r ∈ s.records, p r := by
  constructor
  · intro hall r hr
    obtain ⟨i, hi⟩ := List.mem_iff_getElem?.mp hr
    exact hall ⟨i, r⟩ (mem_members_iff.mpr hi)
  · intro hall m hm
    exact hall m.record (List.mem_of_getElem? (mem_members_iff.mp hm))

/-- The key of a record, if its line item has an identifier. -/
def key? (g : Grouper) (s : Records) (r : Record) : Option GroupKey :=
  (g.identifier? (g.lineItemText s r)).map fun identifier =>
    ⟨(s.value r g.rules.startDate).print, (s.value r g.rules.endDate).print, identifier⟩

/-- A record has a key exactly when its line item has an identifier. -/
theorem isSome_key?_iff {g : Grouper} {s : Records} {r : Record} :
    (g.key? s r).isSome = true ↔ g.Identifies (g.lineItemText s r) := by
  rw [key?, Option.isSome_map, Option.isSome_iff_exists, exists_identifier?_iff]

/-- Grouping takes the key of a record, and reports its place and its text if there is none. -/
theorem keyOf_eq {g : Grouper} {s : Records} {lineItem : Nat}
    (hrequire : s.require g.rules.lineItem = .ok lineItem) (m : Member) :
    g.keyOf s lineItem m =
      (g.key? s m.record).elim (.error (.unidentified m.index (g.lineItemText s m.record)))
        .ok := by
  rw [keyOf, key?, lineItemText, Records.value_eq_get hrequire]
  cases g.identifier? (m.record.get lineItem).print <;> rfl

/-- The members with a key, in the order of grouping. -/
def keyed (g : Grouper) (s : Records) (lineItem : Nat) : List (GroupKey × Member) :=
  (g.sorted s lineItem).filterMap fun m => (g.key? s m.record).map (·, m)

/-- If every record has an identifier, no member is left without a key. -/
theorem map_snd_keyed {g : Grouper} {s : Records} {lineItem : Nat}
    (h : ∀ r ∈ s.records, g.Identifies (g.lineItemText s r)) :
    (g.keyed s lineItem).map Prod.snd = g.sorted s lineItem := by
  have hkey : ∀ m ∈ g.sorted s lineItem, (g.key? s m.record).isSome = true := fun m hm =>
    isSome_key?_iff.mpr
      (forall_mem_members_iff.mpr h m ((g.sorted_perm s lineItem).mem_iff.mp hm))
  rw [keyed]
  generalize g.sorted s lineItem = sorted at hkey
  induction sorted with
  | nil => rfl
  | cons m rest ih =>
    obtain ⟨hfirst, hrest⟩ := List.forall_mem_cons.mp hkey
    obtain ⟨key, hfirst⟩ := Option.isSome_iff_exists.mp hfirst
    rw [List.filterMap_cons_some (b := (key, m)) (by rw [hfirst]; rfl), List.map_cons, ih hrest]

/-- Records are grouped if each of them has an identifier: the members are gathered by their
keys, in order. -/
theorem build_eq_ok_iff {g : Grouper} {s : Records} {lineItem : Nat} {groups : List Group}
    (hrequire : s.require g.rules.lineItem = .ok lineItem) :
    g.build s = .ok groups ↔
      (∀ r ∈ s.records, g.Identifies (g.lineItemText s r)) ∧
        groups = Group.gather (g.keyed s lineItem) := by
  have hstep (m : Member) : ((g.keyOf s lineItem m).map (·, m)).toOption =
      (g.key? s m.record).map (·, m) := by
    rw [keyOf_eq hrequire]
    cases g.key? s m.record <;> rfl
  have hall : (∃ out, ((g.sorted s lineItem).mapM fun m => (g.keyOf s lineItem m).map (·, m)) =
      .ok out) ↔ ∀ r ∈ s.records, g.Identifies (g.lineItemText s r) := by
    rw [exists_mapM_eq_ok_iff, ← forall_mem_members_iff]
    simp only [(g.sorted_perm s lineItem).mem_iff, ← isSome_key?_iff, keyOf_eq hrequire]
    refine forall₂_congr fun m _ => ?_
    cases g.key? s m.record <;> simp [Except.map]
  rw [build, hrequire]
  simp only [bind_eq_ok_iff, Except.ok.injEq, exists_eq_left']
  constructor
  · rintro ⟨out, hout, rfl⟩
    have heq := eq_filterMap_of_mapM_eq_ok hout
    simp only [hstep] at heq
    exact ⟨hall.mp ⟨out, hout⟩, congrArg Group.gather heq⟩
  · rintro ⟨hidentifies, rfl⟩
    obtain ⟨out, hout⟩ := hall.mpr hidentifies
    have heq := eq_filterMap_of_mapM_eq_ok hout
    simp only [hstep] at heq
    exact ⟨out, hout, congrArg Group.gather heq⟩

/-- Grouping fails at the first record in its order that has no identifier. -/
theorem build_eq_error_iff {g : Grouper} {s : Records} {lineItem : Nat} {error : ReportError}
    (hrequire : s.require g.rules.lineItem = .ok lineItem) :
    g.build s = .error error ↔
      ∃ before m after, g.sorted s lineItem = before ++ m :: after ∧
        (∀ m' ∈ before, g.Identifies (g.lineItemText s m'.record)) ∧
        ¬ g.Identifies (g.lineItemText s m.record) ∧
        error = .unidentified m.index (g.lineItemText s m.record) := by
  have hok (m : Member) : (∃ e, (g.keyOf s lineItem m).map (·, m) = .ok e) ↔
      g.Identifies (g.lineItemText s m.record) := by
    rw [← isSome_key?_iff, keyOf_eq hrequire]
    cases g.key? s m.record <;> simp [Except.map]
  have herror (m : Member) : (g.keyOf s lineItem m).map (·, m) = .error error ↔
      ¬ g.Identifies (g.lineItemText s m.record) ∧
        error = .unidentified m.index (g.lineItemText s m.record) := by
    rw [← isSome_key?_iff, keyOf_eq hrequire]
    cases g.key? s m.record <;> simp [Except.map, eq_comm]
  rw [build, hrequire]
  simp only [bind_eq_error_iff, reduceCtorEq, and_false, exists_false, or_false, false_or,
    Except.ok.injEq, exists_eq_left', mapM_eq_error_iff, hok, herror]

/-- A grouping that succeeds keeps every record once and makes no empty group. -/
theorem build_eq_ok {g : Grouper} {s : Records} {groups : List Group}
    (h : g.build s = .ok groups) :
    (groups.flatMap Group.members).Perm (members s) ∧ ∀ b ∈ groups, b.members ≠ [] := by
  obtain ⟨lineItem, hrequire, -⟩ := bind_eq_ok_iff.mp h
  obtain ⟨hidentifies, rfl⟩ := (build_eq_ok_iff hrequire).mp h
  refine ⟨?_, fun b => Group.members_ne_nil_of_mem_gather⟩
  refine (Group.gather_perm _).trans ?_
  rw [map_snd_keyed hidentifies]
  exact g.sorted_perm s lineItem

/-- Without the line item column there are no groups. -/
theorem build_of_notMem {g : Grouper} {s : Records} (h : g.rules.lineItem ∉ s.columns) :
    g.build s = .error (.missingColumn g.rules.lineItem) := by
  rw [build, Records.require_of_notMem h]
  rfl

/-- Records are grouped exactly when each of them has an identifier. -/
theorem exists_build_eq_ok_iff {g : Grouper} {s : Records} (h : g.rules.lineItem ∈ s.columns) :
    (∃ groups, g.build s = .ok groups) ↔
      ∀ r ∈ s.records, g.Identifies (g.lineItemText s r) := by
  obtain ⟨lineItem, hrequire⟩ := Records.exists_require_eq_ok_iff.mpr h
  simp only [build_eq_ok_iff hrequire, exists_and_left, exists_eq, and_true]

/-- A record without an identifier is reported by its place and its text. -/
theorem build_of_not_identifies {g : Grouper} {s : Records}
    (h : g.rules.lineItem ∈ s.columns)
    (hnot : ¬ ∀ r ∈ s.records, g.Identifies (g.lineItemText s r)) :
    ∃ i r, s.records[i]? = some r ∧ ¬ g.Identifies (g.lineItemText s r) ∧
      g.build s = .error (.unidentified i (g.lineItemText s r)) := by
  obtain ⟨lineItem, hrequire⟩ := Records.exists_require_eq_ok_iff.mpr h
  cases hbuild : g.build s with
  | ok groups => exact absurd ((exists_build_eq_ok_iff h).mp ⟨groups, hbuild⟩) hnot
  | error error =>
    obtain ⟨before, m, after, hsorted, -, hnone, rfl⟩ := (build_eq_error_iff hrequire).mp hbuild
    have hm : m ∈ g.sorted s lineItem := by simp [hsorted]
    exact ⟨m.index, m.record, mem_members_iff.mp ((g.sorted_perm s lineItem).mem_iff.mp hm),
      hnone, rfl⟩

end Grouper

end SheetReport
