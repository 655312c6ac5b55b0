import SheetReport.Number.Read
import SheetReport.Number.Text

/-!
# Digits and their values

A numeral is a list of ASCII digits, at least one. Printing a number gives a numeral that begins
with no zero unless the number is zero, and reading a numeral of a positive number forgets nothing
but the zeros before it.

Main statements: `digits?_eq_some_iff` and `dropWhile_zeros_eq_natDigits`.
-/

namespace SheetReport

namespace Number

/-- Whether characters are ASCII digits, at least one. -/
def IsNumeral (digits : List Char) : Prop :=
  digits ≠ [] ∧ ∀ c ∈ digits, Text.isDigitAscii c = true

/-- Digits are read as their value where it is below the limit. -/
theorem digits?_eq_some_iff {limit n : Nat} {digits : List Char} :
    digits? limit digits = some n ↔
      IsNumeral digits ∧ Nat.ofDigitChars 10 digits 0 = n ∧ n < limit := by
  have hvalue : Nat.ofDigitChars 10 digits 0 = digitsValue digits := Nat.ofDigitChars_eq_foldl
  rw [hvalue, digits?, IsNumeral, ← List.all_eq_true]
  constructor
  · intro h
    split at h
    · rename_i hdigits
      obtain rfl := Option.some.inj h
      exact ⟨⟨hdigits.1, hdigits.2.1⟩, rfl, hdigits.2.2⟩
    · contradiction
  · intro h
    obtain ⟨⟨hne, hall⟩, rfl, hlt⟩ := h
    rw [if_pos ⟨hne, hall, hlt⟩]

/-- A number below a limit is read from a numeral, with or without a plus sign before it. -/
theorem nat?_eq_some_iff {limit n : Nat} {text : List Char} :
    nat? limit text = some n ↔
      ∃ digits, (text = digits ∨ text = '+' :: digits) ∧ IsNumeral digits ∧
        Nat.ofDigitChars 10 digits 0 = n ∧ n < limit := by
  have hsign (digits : List Char) : ¬ IsNumeral ('+' :: digits) := fun h =>
    absurd (h.2 '+' List.mem_cons_self) (by decide)
  unfold nat?
  split
  · rename_i digits
    rw [digits?_eq_some_iff]
    constructor
    · exact fun h => ⟨digits, .inr rfl, h⟩
    · rintro ⟨digits', rfl | heq, h⟩
      · exact absurd h.1 (hsign digits)
      · rwa [(List.cons.inj heq).2]
  · rename_i hplain
    rw [digits?_eq_some_iff]
    constructor
    · exact fun h => ⟨text, .inl rfl, h⟩
    · rintro ⟨digits', rfl | heq, h⟩
      · exact h
      · exact absurd heq (hplain digits')

/-- The digits of a natural number are ASCII digits. -/
theorem isDigitAscii_of_mem_natDigits {n : Nat} {c : Char} (h : c ∈ natDigits n) :
    Text.isDigitAscii c = true := by
  have hdigit : c.isDigit = true := Nat.isDigit_of_mem_toDigits (by decide) (by decide) h
  simpa [Text.isDigitAscii, Char.isDigit, Char.le_def] using hdigit

/-- Digits are printed for every number, also for zero. -/
theorem natDigits_ne_nil (n : Nat) : natDigits n ≠ [] := Nat.toDigits_ne_nil

/-- A printed number is a numeral. -/
theorem isNumeral_natDigits (n : Nat) : IsNumeral (natDigits n) :=
  ⟨natDigits_ne_nil n, fun _ hc => isDigitAscii_of_mem_natDigits hc⟩

/-- An ASCII digit is the digit of its own value. -/
theorem digitChar_sub_of_isDigitAscii {c : Char} (h : Text.isDigitAscii c = true) :
    Nat.digitChar (c.toNat - 48) = c ∧ c.toNat - 48 < 10 ∧ 48 ≤ c.toNat := by
  simp only [Text.isDigitAscii, Bool.and_eq_true, decide_eq_true_eq, Char.le_def] at h
  have hlow : 48 ≤ c.toNat := h.1
  have hhigh : c.toNat ≤ 57 := h.2
  refine ⟨Char.toNat_inj.mp ?_, by omega, hlow⟩
  rw [Nat.toNat_digitChar_of_lt_ten (by omega)]
  omega

/-- Digits behind the digits of a positive number are read on from that number. -/
theorem natDigits_append {digits : List Char} {n : Nat} (hn : 0 < n)
    (h : ∀ c ∈ digits, Text.isDigitAscii c = true) :
    natDigits n ++ digits = natDigits (Nat.ofDigitChars 10 digits n) := by
  induction digits generalizing n with
  | nil => rw [List.append_nil, Nat.ofDigitChars_nil]
  | cons c rest ih =>
    obtain ⟨hc, hrest⟩ := List.forall_mem_cons.mp h
    obtain ⟨hchar, hlt, -⟩ := digitChar_sub_of_isDigitAscii hc
    have hstep : natDigits n ++ [c] = natDigits (10 * n + (c.toNat - 48)) := by
      have happend := Nat.toDigits_append_toDigits (b := 10) (by decide) hn hlt
      rwa [Nat.toDigits_of_lt_base hlt, hchar] at happend
    calc
      natDigits n ++ c :: rest = (natDigits n ++ [c]) ++ rest := by simp
      _ = natDigits (10 * n + (c.toNat - 48)) ++ rest := by rw [hstep]
      _ = natDigits (Nat.ofDigitChars 10 rest (10 * n + (c.toNat - 48))) := ih (by omega) hrest
      _ = natDigits (Nat.ofDigitChars 10 (c :: rest) n) := by rw [Nat.ofDigitChars_cons]; rfl

/-- Without the zeros before it, a numeral of a positive number is that number printed. -/
theorem dropWhile_zeros_eq_natDigits {digits : List Char}
    (h : ∀ c ∈ digits, Text.isDigitAscii c = true) (hpos : 0 < Nat.ofDigitChars 10 digits 0) :
    digits.dropWhile (· == '0') = natDigits (Nat.ofDigitChars 10 digits 0) := by
  induction digits with
  | nil => simp at hpos
  | cons c rest ih =>
    obtain ⟨hc, hrest⟩ := List.forall_mem_cons.mp h
    obtain ⟨hchar, hlt, hle⟩ := digitChar_sub_of_isDigitAscii hc
    by_cases hzero : c = '0'
    · subst hzero
      have hvalue : Nat.ofDigitChars 10 ('0' :: rest) 0 = Nat.ofDigitChars 10 rest 0 := by
        rw [Nat.ofDigitChars_cons]
        rfl
      rw [hvalue] at hpos ⊢
      exact ih hrest hpos
    · have hfirst : 0 < c.toNat - 48 := by
        have hne : c.toNat ≠ '0'.toNat := fun heq => hzero (Char.toNat_inj.mp heq)
        have hcode : '0'.toNat = 48 := rfl
        omega
      have hdigit : natDigits (c.toNat - 48) = [c] := by
        rw [natDigits, Nat.toDigits_of_lt_base hlt, hchar]
      have happend := natDigits_append hfirst hrest
      rw [hdigit] at happend
      rw [List.dropWhile_cons_of_neg (by simpa using hzero), Nat.ofDigitChars_cons]
      simpa using happend

/-- Digits of a positive value are the digits of that value behind zeros. -/
theorem exists_zeros_of_ofDigitChars_pos {digits : List Char}
    (h : ∀ c ∈ digits, Text.isDigitAscii c = true) (hpos : 0 < Nat.ofDigitChars 10 digits 0) :
    ∃ zeros, digits =
      List.replicate zeros '0' ++ natDigits (Nat.ofDigitChars 10 digits 0) := by
  have hzeros : digits.takeWhile (· == '0') =
      List.replicate (digits.takeWhile (· == '0')).length '0' :=
    List.eq_replicate_iff.mpr
      ⟨rfl, fun c hc => eq_of_beq (List.all_eq_true.mp List.all_takeWhile c hc)⟩
  refine ⟨(digits.takeWhile (· == '0')).length, ?_⟩
  rw [← dropWhile_zeros_eq_natDigits h hpos, ← hzeros, List.takeWhile_append_dropWhile]

end Number

end SheetReport
