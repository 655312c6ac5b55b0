import Mathlib.Tactic.SplitIfs
import SheetReport.Proofs.Sheet.ValueOrder

/-!
# What the order of values tells apart

The order of values is total and transitive, and so is its equality. It goes by kind first. Within
a kind it tells apart whatever is different, with one exception: a date and the moment of its
midnight are one instant. Numbers are compared by the sign and magnitude of their bit patterns, not
by what they count, so the two zeros and all patterns that are no number have places of their own:
those with a sign before negative infinity, and the others behind positive infinity.

Main statement: `compare_is_total_preorder`.
-/

namespace SheetReport

open Std

namespace Number

/-- Whether a bit pattern comes before another: those with a sign first and from the largest
magnitude down, then the others from the smallest magnitude up. -/
def Precedes (a b : Nat) : Prop :=
  if signBit ≤ a then b < signBit ∨ b % signBit < a % signBit
  else b < signBit ∧ a < b

instance (a b : Nat) : Decidable (Precedes a b) :=
  inferInstanceAs (Decidable (ite _ _ _))

/-- The places of bit patterns are in their order. -/
theorem rankOfBits_lt_iff {a b : Nat} (ha : a < 2 * signBit) (hb : b < 2 * signBit) :
    rankOfBits a < rankOfBits b ↔ Precedes a b := by
  have hmod (n : Nat) (h : n < 2 * signBit) (h' : signBit ≤ n) : n % signBit = n - signBit := by
    rw [Nat.mod_eq_sub_mod h', Nat.mod_eq_of_lt (by omega)]
  unfold rankOfBits Precedes
  rcases Nat.lt_or_ge a signBit with hsign | hsign <;>
    rcases Nat.lt_or_ge b signBit with hsign' | hsign'
  · rw [if_pos hsign, if_pos hsign', if_neg (Nat.not_le.mpr hsign)]
    omega
  · rw [if_pos hsign, if_neg (Nat.not_lt.mpr hsign'), if_neg (Nat.not_le.mpr hsign)]
    omega
  · rw [if_neg (Nat.not_lt.mpr hsign), if_pos hsign', if_pos hsign]
    omega
  · rw [if_neg (Nat.not_lt.mpr hsign), if_neg (Nat.not_lt.mpr hsign'), if_pos hsign,
      hmod a ha hsign, hmod b hb hsign']
    omega

/-- A number comes before another exactly if its bit pattern does. -/
theorem rank_lt_iff {x y : Double} : rank x < rank y ↔ Precedes x.bits.toNat y.bits.toNat :=
  rankOfBits_lt_iff x.bits.toNat_lt y.bits.toNat_lt

/-- Numbers of one place are the same number. -/
theorem rank_inj {x y : Double} : rank x = rank y ↔ x = y := by
  refine ⟨fun h => ?_, congrArg rank⟩
  exact Double.ext (UInt64.toNat_inj.mp
    (rankOfBits_injective x.bits.toNat_lt y.bits.toNat_lt h))

/-- The classes of numbers in their order: what is no number and has a sign, negative infinity,
finite numbers, positive infinity, and what is no number and has no sign. -/
def classesInOrder : List (Double → Prop) :=
  [fun x => signBit ≤ x.bits.toNat ∧ kind x = .nan, fun x => kind x = .infinite true,
    fun x => ∃ negative mantissa exponent, kind x = .finite negative mantissa exponent,
    fun x => kind x = .infinite false, fun x => x.bits.toNat < signBit ∧ kind x = .nan]

/-- The place of the class of a number. -/
def classRank (x : Double) : Nat :=
  match kind x with
  | .nan => if signBit ≤ x.bits.toNat then 0 else 4
  | .infinite negative => if negative then 1 else 3
  | .finite _ _ _ => 2

/-- The listed classes are those of the five places, one after another. -/
theorem classesInOrder_eq :
    classesInOrder = (List.range 5).map fun place x => classRank x = place := by
  change classesInOrder = [fun x => classRank x = 0, fun x => classRank x = 1,
    fun x => classRank x = 2, fun x => classRank x = 3, fun x => classRank x = 4]
  unfold classesInOrder classRank
  congr <;> funext x <;> cases kind x <;> grind

/-- The class of a number is told by the sign, the exponent and the fraction of its bit pattern. -/
theorem classRank_eq (x : Double) : classRank x =
    if x.bits.toNat / leadingBit % 2048 = 2047 then
      if x.bits.toNat % leadingBit = 0 then if signBit ≤ x.bits.toNat then 1 else 3
      else if signBit ≤ x.bits.toNat then 0 else 4
    else 2 := by
  unfold classRank kind kindOfBits
  dsimp only
  by_cases hexponent : x.bits.toNat / leadingBit % 2048 = 2047
  · by_cases hfraction : x.bits.toNat % leadingBit = 0
    · simp only [if_pos hexponent, if_pos hfraction, decide_eq_true_eq]
    · simp only [if_pos hexponent, if_neg hfraction]
  · rw [if_neg hexponent, if_neg hexponent]
    by_cases hzero : x.bits.toNat / leadingBit % 2048 = 0
    · rw [if_pos hzero]
    · rw [if_neg hzero]

/-- Each class has its own stretch of places. -/
theorem rank_of_class (x : Double) :
    (classRank x = 0 ∧ rank x < leadingBit - 1) ∨ (classRank x = 1 ∧ rank x = leadingBit - 1) ∨
    (classRank x = 2 ∧ leadingBit ≤ rank x ∧ rank x < signBit + 2047 * leadingBit) ∨
    (classRank x = 3 ∧ rank x = signBit + 2047 * leadingBit) ∨
    (classRank x = 4 ∧ signBit + 2047 * leadingBit < rank x) := by
  have hlt := x.bits.toNat_lt
  rw [classRank_eq, rank, rankOfBits]
  generalize x.bits.toNat = bits at hlt ⊢
  unfold leadingBit signBit
  rcases Nat.lt_or_ge bits 0x8000000000000000 with hsign | hsign
  · rw [if_pos hsign, if_neg (Nat.not_le.mpr hsign), if_neg (Nat.not_le.mpr hsign)]
    split_ifs <;> omega
  · rw [if_neg (Nat.not_lt.mpr hsign), if_pos hsign, if_pos hsign]
    split_ifs <;> omega

/-- Numbers of different classes are in the order of their classes. -/
theorem rank_lt_of_classRank_lt {x y : Double} (h : classRank x < classRank y) :
    rank x < rank y := by
  have hx := rank_of_class x
  have hy := rank_of_class y
  unfold leadingBit signBit at hx hy
  omega

end Number

namespace Calendar

/-- Whether a moment is earlier than another: on an earlier day, or on the same day in an earlier
second, or in the same second by nanoseconds. -/
def DateTime.IsBefore (t t' : DateTime) : Prop :=
  t.date.day < t'.date.day ∨ t.date.day = t'.date.day ∧
    (t.second < t'.second ∨ t.second = t'.second ∧ t.nano < t'.nano)

/-- The order of moments is that of their instants. -/
theorem DateTime.compare_eq_lt_iff {t t' : DateTime} : t.compare t' = .lt ↔ t.IsBefore t' := by
  simp only [DateTime.compare, IsBefore, Ordering.then_eq_lt, Int.compare_eq_lt, Int.compare_eq_eq,
    Nat.compare_eq_lt, Nat.compare_eq_eq]

/-- Moments that compare equal are the same moment. -/
theorem DateTime.compare_eq_eq_iff {t t' : DateTime} : t.compare t' = .eq ↔ t = t' := by
  obtain ⟨⟨day⟩, second, nano⟩ := t
  obtain ⟨⟨day'⟩, second', nano'⟩ := t'
  simp [DateTime.compare, Ordering.then_eq_eq]

/-- Dates of one midnight are the same date. -/
theorem Date.midnight_inj {d d' : Date} : d.midnight = d'.midnight ↔ d = d' :=
  ⟨congrArg DateTime.date, congrArg midnight⟩

end Calendar

/-- Whether a comparison is total, and transitive in order and in equality. -/
structure IsTotalPreorder {α : Type} (cmp : α → α → Ordering) : Prop where
  swap : ∀ a b, cmp b a = (cmp a b).swap
  le_trans : ∀ a b c, cmp a b ≠ .gt → cmp b c ≠ .gt → cmp a c ≠ .gt
  eq_trans : ∀ a b c, cmp a b = .eq → cmp b c = .eq → cmp a c = .eq

namespace Value

open Calendar (Date DateTime)

/-- The kinds of values in the order of sorting. -/
def kindsInOrder : List (Value → Prop) :=
  [fun v => ∃ x, v = .number x, fun v => ∃ b, v = .bool b,
    fun v => (∃ d, v = .date d) ∨ ∃ t, v = .dateTime t, fun v => ∃ s, v = .text s,
    fun v => ∃ s, v = .formula s, fun v => v = .empty]

/-- The instant of a date or a moment. -/
def instant? : Value → Option DateTime
  | .date d => some d.midnight
  | .dateTime t => some t
  | _ => none

/-- Whether the first value is a date and the second the moment of its midnight. -/
def IsMidnight (a b : Value) : Prop := ∃ d : Date, a = .date d ∧ b = .dateTime d.midnight

/-- Comparing values is total and transitive. -/
theorem isTotalPreorder_compare : IsTotalPreorder Value.compare where
  swap a b := OrientedOrd.eq_swap (a := b) (b := a)
  le_trans a b c hab hbc := by
    have hle : (Value.compare a c).isLE = true :=
      TransOrd.isLE_trans (a := a) (b := b) (c := c) (Ordering.isLE_iff_ne_gt.mpr hab)
        (Ordering.isLE_iff_ne_gt.mpr hbc)
    exact Ordering.isLE_iff_ne_gt.mp hle
  eq_trans a b c hab hbc := @TransCmp.eq_trans Value Ord.compare _ a b c hab hbc

/-- Values of different kinds are compared by their kinds alone. -/
theorem compare_eq_lt_of_kindRank_lt {a b : Value} (h : a.kindRank < b.kindRank) :
    compare a b = .lt := by
  rw [compare_eq_lex, compareLex, compareOn, Nat.compare_eq_lt.mpr h]
  rfl

/-- The listed kinds are those of the six places, one after another. -/
theorem kindsInOrder_eq :
    kindsInOrder = (List.range 6).map fun place v => v.kindRank = place := by
  change kindsInOrder = [fun v => v.kindRank = 0, fun v => v.kindRank = 1, fun v => v.kindRank = 2,
    fun v => v.kindRank = 3, fun v => v.kindRank = 4, fun v => v.kindRank = 5]
  unfold kindsInOrder
  congr <;> funext v <;> cases v <;> simp [kindRank]

/-- Dates and moments are in the order of their instants. -/
theorem compare_eq_lt_iff_of_instant {a b : Value} {t t' : DateTime} (ha : a.instant? = some t)
    (hb : b.instant? = some t') : compare a b = .lt ↔ t.IsBefore t' := by
  rw [← DateTime.compare_eq_lt_iff]
  cases a <;> cases b <;> simp_all [compare, instant?]

/-- Values compare equal exactly if they are the same, or a date and its midnight. -/
theorem compare_eq_eq_iff (a b : Value) :
    compare a b = .eq ↔ a = b ∨ IsMidnight a b ∨ IsMidnight b a := by
  cases a <;> cases b <;>
    simp [compare, IsMidnight, kindRank, DateTime.compare_eq_eq_iff, Date.midnight_inj,
      Number.rank_inj]
  -- a moment against a date: the pair of a date and its midnight, the other way round
  exact eq_comm

/-- Numbers are in the order of their bit patterns. -/
theorem compare_number_eq_lt_iff {x y : Double} :
    compare (.number x) (.number y) = .lt ↔ Number.Precedes x.bits.toNat y.bits.toNat := by
  rw [← Number.rank_lt_iff]
  exact Nat.compare_eq_lt

/-- The order of values is total and transitive, also in its equality. Numbers come first, then
truth values, dates and moments together in the order of their instants, texts, formulas, and empty
values last. Numbers are in the order of their bit patterns, and so in that of their classes, where
what is no number comes before or after all others by its sign. Only the same value compares equal,
numbers bit for bit, and a date and its midnight. -/
theorem compare_is_total_preorder :
    IsTotalPreorder Value.compare ∧
      (kindsInOrder.Pairwise fun p q => ∀ a b, p a → q b → compare a b = .lt) ∧
      (∀ v, ∃ p ∈ kindsInOrder, p v) ∧
      (∀ a b t t', a.instant? = some t → b.instant? = some t' →
        (compare a b = .lt ↔ t.IsBefore t')) ∧
      (∀ x y : Double,
        (compare (.number x) (.number y) = .lt ↔
          Number.Precedes x.bits.toNat y.bits.toNat) ∧
        (compare (.number x) (.number y) = .eq ↔ x.bits = y.bits)) ∧
      (Number.classesInOrder.Pairwise fun p q =>
        ∀ x y, p x → q y → compare (.number x) (.number y) = .lt) ∧
      (∀ x, ∃ p ∈ Number.classesInOrder, p x) ∧
      ∀ a b, compare a b = .eq ↔ a = b ∨ IsMidnight a b ∨ IsMidnight b a := by
  refine ⟨isTotalPreorder_compare, ?_, fun v => ?_, ?_,
    fun x y => ⟨compare_number_eq_lt_iff, ?_⟩, ?_, fun x => ?_, compare_eq_eq_iff⟩
  · rw [kindsInOrder_eq]
    refine List.pairwise_lt_range.map _ fun place place' hlt a b ha hb => ?_
    exact compare_eq_lt_of_kindRank_lt (by rwa [ha, hb])
  · cases v <;> simp [kindsInOrder]
  · intro a b t t' ha hb
    exact compare_eq_lt_iff_of_instant ha hb
  · rw [← Double.ext_iff, ← Number.rank_inj]
    exact Nat.compare_eq_eq
  · rw [Number.classesInOrder_eq]
    refine List.pairwise_lt_range.map _ fun place place' hlt x y hx hy => ?_
    rw [compare_number_eq_lt_iff, ← Number.rank_lt_iff]
    exact Number.rank_lt_of_classRank_lt (by rwa [hx, hy])
  · have hrank := Number.rank_of_class x
    rw [Number.classesInOrder_eq]
    refine ⟨fun x => Number.classRank x = _, List.mem_map_of_mem (List.mem_range.mpr ?_), rfl⟩
    omega

/-- What is no number and has a sign comes before negative infinity, and the two zeros come in this
order before what is no number and has no sign, which another payload tells apart. A date comes at
its midnight and before the second after it. -/
theorem zeros_and_midnight_have_places :
    (compare (.number ⟨0xfff8000000000000⟩) (.number Number.negativeInfinity) = .lt ∧
        compare (.number Number.negativeZero) (.number ⟨0⟩) ≠ .gt ∧
        compare (.number ⟨0⟩) (.number Number.nan) ≠ .gt ∧
        compare (.number Number.negativeZero) (.number Number.nan) ≠ .gt ∧
        compare (.number Number.negativeZero) (.number ⟨0⟩) ≠ .eq ∧
        Number.kind Number.nan = Number.kind ⟨0x7ff8000000000001⟩ ∧
        compare (.number Number.nan) (.number ⟨0x7ff8000000000001⟩) ≠ .eq) ∧
      compare (.date ⟨17226⟩) (.dateTime ⟨⟨17226⟩, 0, 0⟩) = .eq ∧
      instant? (.date ⟨17226⟩) = some ⟨⟨17226⟩, 0, 0⟩ ∧
      instant? (.dateTime ⟨⟨17226⟩, 1, 0⟩) = some ⟨⟨17226⟩, 1, 0⟩ ∧
      compare (.date ⟨17226⟩) (.dateTime ⟨⟨17226⟩, 1, 0⟩) = .lt := by
  obtain ⟨⟨-, htrans, -⟩, -, -, hinstant, hnumber, -, -, heq⟩ := compare_is_total_preorder
  have hzeros : compare (.number Number.negativeZero) (.number ⟨0⟩) ≠ .gt := by decide
  have hnan : compare (.number ⟨0⟩) (.number Number.nan) ≠ .gt := by decide
  have hsecond := hinstant (.date ⟨17226⟩) (.dateTime ⟨⟨17226⟩, 1, 0⟩) _ _ rfl rfl
  refine ⟨⟨(hnumber _ _).1.mpr (by decide), hzeros, hnan, htrans _ _ _ hzeros hnan, ?_, by decide,
    ?_⟩, ?_, rfl, rfl, ?_⟩
  · rw [ne_eq, (hnumber _ _).2]
    decide
  · rw [ne_eq, (hnumber _ _).2]
    decide
  · exact (heq _ _).mpr (.inr (.inl ⟨⟨17226⟩, rfl, rfl⟩))
  · exact hsecond.mpr (.inr ⟨rfl, .inl (by decide)⟩)

end Value

end SheetReport
