/-!
# Sorting keeps the order of ties

Elements of a list that an order does not tell apart come out of sorting in the order in which
they stand in the list. Where a strict order decides all ties, sorting is therefore determined:
two lists with the same elements, each in that order, are equal.
-/

open Std

namespace SheetReport

variable {α : Type} {le : α → α → Bool}

/-- Elements of a class that the order does not tell apart stay in the order of the list. -/
theorem filter_mergeSort (htrans : ∀ a b c, le a b = true → le b c = true → le a c = true)
    (htotal : ∀ a b, (le a b || le b a) = true) {p : α → Bool}
    (hclass : ∀ a b, p a = true → p b = true → le a b = true) (l : List α) :
    (l.mergeSort le).filter p = l.filter p := by
  have hsorted : (l.filter p).Pairwise fun a b => le a b = true :=
    List.pairwise_of_forall_mem_list fun a ha b hb =>
      hclass a b (List.mem_filter.mp ha).2 (List.mem_filter.mp hb).2
  have hsublist : (l.filter p).Sublist (l.mergeSort le) :=
    List.sublist_mergeSort htrans htotal hsorted List.filter_sublist
  have hfilter := hsublist.filter p
  rw [List.filter_filter] at hfilter
  simp only [Bool.and_self] at hfilter
  exact (hfilter.eq_of_length ((List.mergeSort_perm l le).filter p).length_eq.symm).symm

/-- What the order of a list says of ties, the order of the sorted list says of them too. -/
theorem pairwise_mergeSort_of_ties
    (htrans : ∀ a b c, le a b = true → le b c = true → le a c = true)
    (htotal : ∀ a b, (le a b || le b a) = true) {R : α → α → Prop} {l : List α}
    (h : l.Pairwise fun a b => le a b = true → le b a = true → R a b) :
    (l.mergeSort le).Pairwise fun a b => le a b = true ∧ (le b a = true → R a b) := by
  refine (List.pairwise_mergeSort htrans htotal l).and ?_
  rw [List.pairwise_iff_forall_sublist]
  intro a b hab hba
  have hle : le a b = true :=
    List.pairwise_iff_forall_sublist.mp (List.pairwise_mergeSort htrans htotal l) hab
  -- both survive the filter for the ties of `b`, and there the old order stands
  have hfilter := hab.filter fun c => le c b && le b c
  have hself : le b b = true := by simpa using htotal b b
  rw [filter_mergeSort htrans htotal, List.filter_cons_of_pos (by simp [hle, hba]),
    List.filter_cons_of_pos (by simp [hself]), List.filter_nil] at hfilter
  · exact List.pairwise_iff_forall_sublist.mp h (hfilter.trans List.filter_sublist) hle hba
  · intro c d hc hd
    simp only [Bool.and_eq_true] at hc hd
    exact htrans c b d hc.1 hd.2

section Ordering

variable {cmp : α → α → Ordering} [TransCmp cmp]

/-- If the ranks of ties go up in a list, the sorted list goes up in the order, and in rank among
ties. -/
theorem pairwise_mergeSort_lex {rank : α → Nat} {l : List α}
    (h : l.Pairwise fun a b => cmp a b = .eq → rank a < rank b) :
    (l.mergeSort fun a b => (cmp a b).isLE).Pairwise fun a b =>
      compareLex cmp (compareOn rank) a b = .lt := by
  have htrans : ∀ a b c, (cmp a b).isLE = true → (cmp b c).isLE = true →
      (cmp a c).isLE = true := fun _ _ _ => TransCmp.isLE_trans
  have htotal : ∀ a b, ((cmp a b).isLE || (cmp b a).isLE) = true := by
    intro a b
    have hswap : cmp b a = (cmp a b).swap := OrientedCmp.eq_swap
    rw [hswap]
    cases cmp a b <;> rfl
  have hties : l.Pairwise fun a b => (cmp a b).isLE = true → (cmp b a).isLE = true →
      rank a < rank b :=
    h.imp fun {a b} hrank hab hba => hrank (OrientedCmp.isLE_antisymm hab hba)
  refine (pairwise_mergeSort_of_ties htrans htotal hties).imp fun {a b} hab => ?_
  obtain ⟨hle, hrank⟩ := hab
  have hswap : cmp b a = (cmp a b).swap := OrientedCmp.eq_swap
  rw [compareLex, compareOn]
  cases hcmp : cmp a b with
  | lt => rfl
  | eq => exact Nat.compare_eq_lt.mpr (hrank (by rw [hswap, hcmp]; rfl))
  | gt => simp [hcmp] at hle

/-- Two arrangements of a list in which the ranks of ties go up are sorted to the same list. -/
theorem mergeSort_eq_of_perm {rank : α → Nat} {l l' : List α} (hperm : l.Perm l')
    (h : l.Pairwise fun a b => cmp a b = .eq → rank a < rank b)
    (h' : l'.Pairwise fun a b => cmp a b = .eq → rank a < rank b) :
    (l.mergeSort fun a b => (cmp a b).isLE) = l'.mergeSort fun a b => (cmp a b).isLE := by
  have hsorted (k : List α) : (k.mergeSort fun a b => (cmp a b).isLE).Perm k :=
    List.mergeSort_perm _ _
  have hsame := ((hsorted l).trans hperm).trans (hsorted l').symm
  refine hsame.eq_of_pairwise (fun a b _ _ hab hba => ?_) (pairwise_mergeSort_lex h)
    (pairwise_mergeSort_lex h')
  have hswap : compareLex cmp (compareOn rank) b a =
      (compareLex cmp (compareOn rank) a b).swap := OrientedCmp.eq_swap
  rw [hab, hba] at hswap
  contradiction

end Ordering

end SheetReport
