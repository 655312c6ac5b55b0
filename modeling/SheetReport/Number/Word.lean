/-!
# Machine words

Unsigned numbers of a fixed width. The operators on bit vectors wrap around where a result does
not fit. Here this is noticed: a checked operation has no result then, and any other one stops the
computation.
-/

namespace SheetReport

/-- What has stopped a computation: a sum or a difference that does not fit its word. -/
inductive Overflow where
  | sum
  | difference
deriving DecidableEq, Repr

namespace Word

variable {w : Nat}

/-- The sum of two words. -/
def add (a b : BitVec w) : Except Overflow (BitVec w) :=
  if a.uaddOverflow b then .error .sum else .ok (a + b)

/-- The difference of two words. -/
def sub (a b : BitVec w) : Except Overflow (BitVec w) :=
  if a.usubOverflow b then .error .difference else .ok (a - b)

/-- The sum of two words, if it fits. -/
def add? (a b : BitVec w) : Option (BitVec w) :=
  if a.uaddOverflow b then none else some (a + b)

/-- The product of two words, if it fits. -/
def mul? (a b : BitVec w) : Option (BitVec w) :=
  if a.umulOverflow b then none else some (a * b)

/-- A word in another width, if it fits. -/
def narrow? (v : Nat) (a : BitVec w) : Option (BitVec v) :=
  if (a.setWidth v).toNat = a.toNat then some (a.setWidth v) else none

/-- The code of a character. -/
def ofChar (c : Char) : BitVec 32 := c.val.toBitVec

/-- The number of some digits that stand behind the digits of a number, if it fits. -/
def numeral? (base : BitVec w) (digit : Char → Except Overflow (BitVec w)) :
    BitVec w → List Char → Except Overflow (Option (BitVec w))
  | n, [] => .ok (some n)
  | n, c :: rest =>
    match mul? n base with
    | none => .ok none
    | some scaled => do
      let d ← digit c
      match add? scaled d with
      | none => .ok none
      | some n => numeral? base digit n rest

variable {a b : BitVec w}

/-- A sum that does not stop is the sum of the numbers. -/
theorem toNat_of_add_eq_ok {c : BitVec w} (h : add a b = .ok c) : c.toNat = a.toNat + b.toNat := by
  unfold add BitVec.uaddOverflow at h
  split at h
  · contradiction
  · rename_i hfits
    obtain rfl := Except.ok.inj h
    exact BitVec.toNat_add_of_lt (by simpa using hfits)

/-- A difference that does not stop is the difference of the numbers. -/
theorem toNat_of_sub_eq_ok {d : BitVec w} (h : sub a b = .ok d) : d.toNat + b.toNat = a.toNat := by
  unfold sub BitVec.usubOverflow at h
  split at h
  · contradiction
  · rename_i hle
    obtain rfl := Except.ok.inj h
    rw [BitVec.toNat_sub_of_le (by simpa [BitVec.le_def] using hle)]
    have hle' : b.toNat ≤ a.toNat := by simpa using hle
    omega

end Word

end SheetReport
