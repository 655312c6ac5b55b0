/-!
# Finite maps read in key order

A finite map is a list of entries with strictly increasing keys. Everything this library
reads in a fixed order (the cells of a sheet row by row, the totals of a report by name) is
kept in one, so the order of a listing is part of the type and never depends on the order
of insertion.

Main statements: `get?_insert` and `get?_erase` describe the operations through `get?`, and
`ext` says that a map is determined by its lookups.
-/

namespace SheetReport

open Std

/-- A finite map: entries with strictly increasing keys. -/
structure OrderedMap (κ ν : Type) [Ord κ] where
  entries : List (κ × ν)
  sorted : entries.Pairwise fun a b => compare a.1 b.1 = .lt

namespace OrderedMap

variable {κ ν : Type} [Ord κ]

/-- The value under the first entry whose key compares equal. -/
def lookup (k : κ) : List (κ × ν) → Option ν
  | [] => none
  | e :: rest => if compare k e.1 = .eq then some e.2 else lookup k rest

/-- Put an entry at its place, replacing one of an equal key. -/
def insertEntry (k : κ) (v : ν) : List (κ × ν) → List (κ × ν)
  | [] => [(k, v)]
  | e :: rest =>
    match compare k e.1 with
    | .lt => (k, v) :: e :: rest
    | .eq => (k, v) :: rest
    | .gt => e :: insertEntry k v rest

/-- Entries whose key differs from `k`. -/
def eraseEntry (k : κ) (entries : List (κ × ν)) : List (κ × ν) :=
  entries.filter fun e => compare k e.1 != .eq

/-- The map without entries. -/
def empty : OrderedMap κ ν := ⟨[], List.Pairwise.nil⟩

instance : Inhabited (OrderedMap κ ν) := ⟨empty⟩
instance : EmptyCollection (OrderedMap κ ν) := ⟨empty⟩

instance [DecidableEq κ] [DecidableEq ν] : DecidableEq (OrderedMap κ ν) := fun a b =>
  decidable_of_iff (a.entries = b.entries)
    ⟨fun h => by cases a; cases b; simp_all, fun h => by rw [h]⟩

/-- The value under a key. -/
def get? (m : OrderedMap κ ν) (k : κ) : Option ν := lookup k m.entries

/-- The keys in order. -/
def keys (m : OrderedMap κ ν) : List κ := m.entries.map Prod.fst

/-- The number of entries. -/
def size (m : OrderedMap κ ν) : Nat := m.entries.length

/-- Whether there is no entry. -/
def isEmpty (m : OrderedMap κ ν) : Bool := m.entries.isEmpty

variable [TransOrd κ]

omit [TransOrd κ] in
/-- Inserting brings in no other entry than the new one. -/
theorem mem_insertEntry {k : κ} {v : ν} {l : List (κ × ν)} {e : κ × ν}
    (h : e ∈ insertEntry k v l) : e = (k, v) ∨ e ∈ l := by
  induction l with
  | nil => simpa [insertEntry] using h
  | cons a rest ih =>
    rw [insertEntry] at h
    split at h <;> simp only [List.mem_cons] at h ⊢
    · exact h
    · rcases h with h | h
      · exact .inl h
      · exact .inr (.inr h)
    · rcases h with h | h
      · exact .inr (.inl h)
      · rcases ih h with h | h
        · exact .inl h
        · exact .inr (.inr h)

/-- Inserting keeps the entries in order. -/
theorem sorted_insertEntry (k : κ) (v : ν) {l : List (κ × ν)}
    (h : l.Pairwise fun a b => compare a.1 b.1 = .lt) :
    (insertEntry k v l).Pairwise fun a b => compare a.1 b.1 = .lt := by
  induction l with
  | nil => simp [insertEntry]
  | cons a rest ih =>
    obtain ⟨ha, hrest⟩ := List.pairwise_cons.1 h
    rw [insertEntry]
    split <;> rename_i hc
    · refine List.pairwise_cons.2 ⟨fun b hb => ?_, h⟩
      rcases List.mem_cons.1 hb with rfl | hb
      · exact hc
      · exact TransCmp.lt_trans hc (ha b hb)
    · exact List.pairwise_cons.2 ⟨fun b hb => TransCmp.lt_of_eq_of_lt hc (ha b hb), hrest⟩
    · refine List.pairwise_cons.2 ⟨fun b hb => ?_, ih hrest⟩
      rcases mem_insertEntry hb with rfl | hb
      · exact OrientedCmp.gt_iff_lt.1 hc
      · exact ha b hb

/-- Put a value under a key, replacing what was there. -/
def insert (m : OrderedMap κ ν) (k : κ) (v : ν) : OrderedMap κ ν :=
  ⟨insertEntry k v m.entries, sorted_insertEntry k v m.sorted⟩

omit [TransOrd κ] in
/-- Removing keeps the entries in order. -/
theorem sorted_eraseEntry (k : κ) {l : List (κ × ν)}
    (h : l.Pairwise fun a b => compare a.1 b.1 = .lt) :
    (eraseEntry k l).Pairwise fun a b => compare a.1 b.1 = .lt :=
  h.sublist List.filter_sublist

/-- Remove a key and its value. -/
def erase (m : OrderedMap κ ν) (k : κ) : OrderedMap κ ν :=
  ⟨eraseEntry k m.entries, sorted_eraseEntry k m.sorted⟩

/-- The map of a list of entries; a later entry replaces an earlier one of the same key. -/
def ofList (l : List (κ × ν)) : OrderedMap κ ν :=
  l.foldl (fun m e => m.insert e.1 e.2) empty

/-- Whether the key has a value. -/
def contains (m : OrderedMap κ ν) (k : κ) : Bool := (m.get? k).isSome

omit [TransOrd κ] in
/-- Nothing is found in the empty map. -/
@[simp] theorem get?_empty (k : κ) : (empty : OrderedMap κ ν).get? k = none := rfl

/-- A key is looked up past an inserted entry, unless it is the key of that. -/
theorem lookup_insertEntry (k k' : κ) (v : ν) (l : List (κ × ν)) :
    lookup k' (insertEntry k v l) = if compare k' k = .eq then some v else lookup k' l := by
  induction l with
  | nil => simp [insertEntry, lookup]
  | cons a rest ih =>
    rw [insertEntry]
    split <;> rename_i hc
    · simp [lookup]
    · simp only [lookup]
      by_cases h : compare k' k = .eq
      · simp [h]
      · have : compare k' a.1 ≠ .eq := fun h' => h (TransCmp.eq_trans h' (OrientedCmp.eq_symm hc))
        simp [h, this]
    · simp only [lookup, ih]
      by_cases h : compare k' a.1 = .eq
      · have : compare k' k ≠ .eq := fun h' => by
          have := TransCmp.eq_trans (OrientedCmp.eq_symm h') h
          simp [this] at hc
        simp [h, this]
      · simp [h]

/-- A lookup after an insertion finds the new value at its key and is unchanged elsewhere. -/
theorem get?_insert (m : OrderedMap κ ν) (k k' : κ) (v : ν) :
    (m.insert k v).get? k' = if compare k' k = .eq then some v else m.get? k' :=
  lookup_insertEntry k k' v m.entries

/-- A removed key is not found, and any other one as before. -/
theorem lookup_eraseEntry (k k' : κ) (l : List (κ × ν)) :
    lookup k' (eraseEntry k l) = if compare k' k = .eq then none else lookup k' l := by
  induction l with
  | nil => simp [eraseEntry, lookup]
  | cons a rest ih =>
    simp only [eraseEntry] at ih
    simp only [eraseEntry, List.filter_cons]
    by_cases hka : compare k a.1 = .eq
    · simp only [hka, bne_self_eq_false, Bool.false_eq_true, if_false, ih]
      by_cases h : compare k' k = .eq
      · simp [h]
      · have : compare k' a.1 ≠ .eq := fun h' => h (TransCmp.eq_trans h' (OrientedCmp.eq_symm hka))
        simp [h, lookup, this]
    · have hb : (compare k a.1 != .eq) = true := by simpa using hka
      simp only [hb, if_true, lookup, ih]
      by_cases h : compare k' a.1 = .eq
      · have : compare k' k ≠ .eq := fun h' => hka (TransCmp.eq_trans (OrientedCmp.eq_symm h') h)
        simp [h, this]
      · simp [h]

/-- A lookup after a removal finds nothing at its key and is unchanged elsewhere. -/
theorem get?_erase (m : OrderedMap κ ν) (k k' : κ) :
    (m.erase k).get? k' = if compare k' k = .eq then none else m.get? k' :=
  lookup_eraseEntry k k' m.entries

section Lawful

variable [LawfulEqOrd κ]

omit [TransOrd κ] in
/-- Among entries in order each one is found under its key. -/
theorem lookup_eq_some_iff {l : List (κ × ν)}
    (h : l.Pairwise fun a b => compare a.1 b.1 = .lt) {k : κ} {v : ν} :
    lookup k l = some v ↔ (k, v) ∈ l := by
  induction l with
  | nil => simp [lookup]
  | cons a rest ih =>
    obtain ⟨ha, hrest⟩ := List.pairwise_cons.1 h
    simp only [lookup, List.mem_cons]
    by_cases hk : compare k a.1 = .eq
    · obtain rfl := LawfulEqOrd.eq_of_compare hk
      simp only [hk, if_true, Option.some.injEq]
      constructor
      · rintro rfl
        exact .inl rfl
      · rintro (heq | hmem)
        · exact (congrArg Prod.snd heq).symm
        · exact absurd (ha _ hmem) (by simp)
    · simp only [hk, if_false, ih hrest]
      constructor
      · exact .inr
      · rintro (rfl | hmem)
        · simp at hk
        · exact hmem

omit [TransOrd κ] in
/-- A lookup finds exactly the listed entries. -/
theorem get?_eq_some_iff {m : OrderedMap κ ν} {k : κ} {v : ν} :
    m.get? k = some v ↔ (k, v) ∈ m.entries :=
  lookup_eq_some_iff m.sorted

/-- A value is found under the key that it was put. -/
@[simp] theorem get?_insert_self (m : OrderedMap κ ν) (k : κ) (v : ν) :
    (m.insert k v).get? k = some v := by simp [get?_insert]

/-- Putting a value does not change what is under other keys. -/
theorem get?_insert_of_ne (m : OrderedMap κ ν) {k k' : κ} (v : ν) (h : k' ≠ k) :
    (m.insert k v).get? k' = m.get? k' := by
  rw [get?_insert, if_neg fun hc => h (LawfulEqOrd.eq_of_compare hc)]

/-- Nothing is found under a removed key. -/
@[simp] theorem get?_erase_self (m : OrderedMap κ ν) (k : κ) :
    (m.erase k).get? k = none := by simp [get?_erase]

/-- Removing a key does not change what is under other keys. -/
theorem get?_erase_of_ne (m : OrderedMap κ ν) {k k' : κ} (h : k' ≠ k) :
    (m.erase k).get? k' = m.get? k' := by
  rw [get?_erase, if_neg fun hc => h (LawfulEqOrd.eq_of_compare hc)]

/-- Entries in order are determined by what is found among them. -/
theorem entries_eq_of_lookup {l l' : List (κ × ν)}
    (h : l.Pairwise fun a b => compare a.1 b.1 = .lt)
    (h' : l'.Pairwise fun a b => compare a.1 b.1 = .lt)
    (hl : ∀ k, lookup k l = lookup k l') : l = l' := by
  induction l generalizing l' with
  | nil =>
    cases l' with
    | nil => rfl
    | cons b rest' =>
      have hb : lookup b.1 (b :: rest') = some b.2 := (lookup_eq_some_iff h').2 List.mem_cons_self
      rw [← hl b.1] at hb
      exact absurd hb (by simp [lookup])
  | cons a rest ih =>
    have hmem : a ∈ l' :=
      (lookup_eq_some_iff h').1 (hl a.1 ▸ (lookup_eq_some_iff h).2 List.mem_cons_self)
    cases l' with
    | nil => simp at hmem
    | cons b rest' =>
      have hmem' : b ∈ a :: rest :=
        (lookup_eq_some_iff h).1 (hl b.1 ▸ (lookup_eq_some_iff h').2 List.mem_cons_self)
      obtain ⟨ha, hrest⟩ := List.pairwise_cons.1 h
      obtain ⟨hb, hrest'⟩ := List.pairwise_cons.1 h'
      have hab : a = b := by
        rcases List.mem_cons.1 hmem with hab | hmem
        · exact hab
        · rcases List.mem_cons.1 hmem' with hab | hmem'
          · exact hab.symm
          · have h1 := ha b hmem'
            have h2 := hb a hmem
            exact absurd (OrientedCmp.gt_of_lt h1) (by simp [h2])
      subst hab
      congr 1
      apply ih hrest hrest'
      intro k
      have := hl k
      simp only [lookup] at this
      by_cases hk : compare k a.1 = .eq
      · obtain rfl := LawfulEqOrd.eq_of_compare hk
        have none_of (t : List (κ × ν)) (ht : ∀ e ∈ t, compare a.1 e.1 = .lt) :
            lookup a.1 t = none := by
          induction t with
          | nil => rfl
          | cons c t iht =>
            have hc := ht c List.mem_cons_self
            rw [lookup, if_neg (by simp [hc]), iht fun e he => ht e (List.mem_cons_of_mem _ he)]
        rw [none_of rest ha, none_of rest' hb]
      · simpa [hk] using this

/-- A map is determined by its lookups. -/
theorem ext {m m' : OrderedMap κ ν} (h : ∀ k, m.get? k = m'.get? k) : m = m' := by
  obtain ⟨l, hs⟩ := m
  obtain ⟨l', hs'⟩ := m'
  obtain rfl := entries_eq_of_lookup hs hs' h
  rfl

end Lawful

end OrderedMap

end SheetReport
