import Mathlib.Tactic.Ring
import SheetReport.Proofs.Number.Digits
import SheetReport.Sheet.Cell

/-!
# Names of cells

The letters of a column are a numeral without a zero: they count from 1 to 26, and each counts 26
times as much as the one behind it. Printing takes letters off the end of the number. Taking one
less before it goes on is what leaves no zero, so each number has one numeral only, and reading the
letters of a column gives the column again. Rows are decimal numbers counted from one.

Main statements: `lettersValue_letters`, `letters_lettersValue`, and `ofName?_eq_some_iff`.
-/

namespace SheetReport

namespace Cell

/-- The number that letters stand for: the first of them counts most. -/
def columnNumber : List Char → Nat
  | [] => 0
  | c :: rest => (c.toNat - 'A'.toNat + 1) * 26 ^ rest.length + columnNumber rest

variable {c : Char} {cell : Cell} {text : String} {letters digits reversed : List Char}
  {col fuel n : Nat}

/-- A capital letter is the letter of its own number. -/
theorem letter_sub_of_isLetter (h : isLetter c = true) :
    letter (c.toNat - 65) = c ∧ c.toNat - 65 < 26 ∧ 65 ≤ c.toNat := by
  simp only [isLetter, Bool.and_eq_true, decide_eq_true_eq, Char.le_def] at h
  have hlow : 65 ≤ c.toNat := h.1
  have hhigh : c.toNat ≤ 90 := h.2
  refine ⟨?_, by omega, hlow⟩
  rw [letter, Nat.add_sub_cancel' hlow, Char.ofNat_toNat]

/-- The letter of a number is a capital letter, and one more is what it counts. -/
theorem isLetter_letter (h : n < 26) :
    isLetter (letter n) = true ∧ (letter n).toNat - 64 = n + 1 := by
  have hall : ∀ n : Fin 26, isLetter (letter n) = true ∧ (letter n).toNat - 64 = n + 1 := by decide
  exact hall ⟨n, h⟩

/-- Only capital letters are taken off a number. -/
theorem isLetter_of_mem_lettersReversed (h : c ∈ lettersReversed fuel col) :
    isLetter c = true := by
  induction fuel generalizing col with
  | zero => simp [lettersReversed] at h
  | succ fuel ih =>
    rw [lettersReversed] at h
    rcases List.mem_cons.mp h with rfl | h
    · exact (isLetter_letter (Nat.mod_lt _ (by decide))).1
    · split at h
      · contradiction
      · exact ih h

/-- Columns are named by capital letters only. -/
theorem isLetter_of_mem_letters (h : c ∈ Cell.letters col) : isLetter c = true :=
  isLetter_of_mem_lettersReversed (List.mem_reverse.mp h)

/-- Every column has a letter. -/
theorem letters_ne_nil (col : Nat) : Cell.letters col ≠ [] := by
  simp [Cell.letters, lettersReversed]

/-- One more letter. -/
theorem lettersValue_concat (letters : List Char) (c : Char) :
    lettersValue (letters ++ [c]) = 26 * lettersValue letters + (c.toNat - 64) := by
  simp [lettersValue]

/-- Capital letters, at least one, count at least one. -/
theorem lettersValue_pos (hne : letters ≠ []) (h : ∀ c ∈ letters, isLetter c = true) :
    0 < lettersValue letters := by
  rcases List.eq_nil_or_concat letters with rfl | ⟨front, last, rfl⟩
  · contradiction
  · obtain ⟨-, -, hle⟩ := letter_sub_of_isLetter (h last (by simp))
    rw [List.concat_eq_append, lettersValue_concat]
    omega

/-- The letters of a column, first letter first, count the column from one. -/
theorem lettersValue_lettersReversed (h : col < fuel) :
    lettersValue (lettersReversed fuel col).reverse = col + 1 := by
  induction fuel generalizing col with
  | zero => contradiction
  | succ fuel ih =>
    have hlast := (isLetter_letter (Nat.mod_lt col (by decide : 0 < 26))).2
    rw [lettersReversed, List.reverse_cons, lettersValue_concat, hlast]
    split
    · simp [lettersValue]
      omega
    · rw [ih (by omega)]
      omega

/-- Reading the letters of a column gives the column, counted from one. -/
theorem lettersValue_letters (col : Nat) : lettersValue (Cell.letters col) = col + 1 :=
  lettersValue_lettersReversed (Nat.lt_succ_self col)

/-- Letters are printed for the number they stand for, counted from zero. -/
theorem lettersReversed_lettersValue (hne : reversed ≠ [])
    (h : ∀ c ∈ reversed, isLetter c = true) (hfuel : lettersValue reversed.reverse ≤ fuel) :
    lettersReversed fuel (lettersValue reversed.reverse - 1) = reversed := by
  induction reversed generalizing fuel with
  | nil => contradiction
  | cons c rest ih =>
    obtain ⟨hc, hrest⟩ := List.forall_mem_cons.mp h
    obtain ⟨hletter, hlt, hle⟩ := letter_sub_of_isLetter hc
    rw [List.reverse_cons, lettersValue_concat] at hfuel ⊢
    obtain ⟨fuel, rfl⟩ := Nat.exists_eq_add_one_of_ne_zero (by omega : fuel ≠ 0)
    have hmod : (26 * lettersValue rest.reverse + (c.toNat - 64) - 1) % 26 = c.toNat - 65 := by
      omega
    rw [lettersReversed, hmod, hletter]
    by_cases hnil : rest = []
    · subst hnil
      rw [if_pos (by simp [lettersValue]; omega)]
    · have hpos : 0 < lettersValue rest.reverse :=
        lettersValue_pos (by simpa using hnil) (by simpa using hrest)
      rw [if_neg (by omega)]
      have hdiv : (26 * lettersValue rest.reverse + (c.toNat - 64) - 1) / 26 - 1 =
          lettersValue rest.reverse - 1 := by
        omega
      rw [hdiv, ih hnil hrest (by omega)]

/-- Capital letters are the letters of the column they stand for. -/
theorem letters_lettersValue (hne : letters ≠ []) (h : ∀ c ∈ letters, isLetter c = true) :
    Cell.letters (lettersValue letters - 1) = letters := by
  have hpos := lettersValue_pos hne h
  have hreversed : lettersReversed (lettersValue letters - 1 + 1)
      (lettersValue letters.reverse.reverse - 1) = letters.reverse :=
    lettersReversed_lettersValue (by simpa using hne) (by simpa using h)
      (by rw [List.reverse_reverse]; omega)
  rw [List.reverse_reverse] at hreversed
  rw [Cell.letters, hreversed, List.reverse_reverse]

/-- Reading letters one after another behind a number gives what they stand for behind it. -/
theorem foldl_letters (h : ∀ c ∈ letters, isLetter c = true) :
    letters.foldl (fun n c => 26 * n + (c.toNat - 64)) n =
      n * 26 ^ letters.length + columnNumber letters := by
  induction letters generalizing n with
  | nil => simp [columnNumber]
  | cons c rest ih =>
    obtain ⟨hc, hrest⟩ := List.forall_mem_cons.mp h
    obtain ⟨-, -, hle⟩ := letter_sub_of_isLetter hc
    have hdigit : c.toNat - 64 = c.toNat - 'A'.toNat + 1 := by
      have hcode : 'A'.toNat = 65 := rfl
      omega
    rw [List.foldl_cons, ih hrest, columnNumber, List.length_cons, hdigit]
    ring

/-- Reading the letters of a column gives what they stand for. -/
theorem lettersValue_eq_columnNumber (h : ∀ c ∈ letters, isLetter c = true) :
    lettersValue letters = columnNumber letters := by
  rw [lettersValue, foldl_letters h, Nat.zero_mul, Nat.zero_add]

/-- A capital letter is no digit. -/
theorem not_isDigitAscii_of_isLetter (h : isLetter c = true) : Text.isDigitAscii c = false := by
  cases hdigit : Text.isDigitAscii c with
  | false => rfl
  | true =>
    obtain ⟨-, hlt, -⟩ := Number.digitChar_sub_of_isDigitAscii hdigit
    obtain ⟨-, -, hle⟩ := letter_sub_of_isLetter h
    omega

/-- A name is split where its digits begin. -/
theorem split_of_isNumeral (hletters : ∀ c ∈ letters, isLetter c = true)
    (hdigits : Number.IsNumeral digits) :
    (letters ++ digits).takeWhile (fun c => !Text.isDigitAscii c) = letters ∧
      (letters ++ digits).dropWhile (fun c => !Text.isDigitAscii c) = digits := by
  obtain ⟨hne, hall⟩ := hdigits
  obtain ⟨digit, others, rfl⟩ := List.exists_cons_of_ne_nil hne
  have hdigit : Text.isDigitAscii digit = true := hall digit List.mem_cons_self
  have hpass : ∀ c ∈ letters, (!Text.isDigitAscii c) = true := fun c hc => by
    rw [not_isDigitAscii_of_isLetter (hletters c hc), Bool.not_false]
  rw [List.takeWhile_append_of_pos hpass, List.dropWhile_append_of_pos hpass]
  simp [hdigit]

/-- The cell at a row and a column, both counted from one, if the sheet has it. -/
theorem ofNat?_sub_one_eq_some_iff {row col : Nat} (hrow : row ≠ 0) (hcol : 0 < col) :
    ofNat? (row - 1) (col - 1) = some cell ↔ col = cell.col + 1 ∧ row = cell.row + 1 := by
  unfold ofNat?
  split
  · simp only [Option.some.injEq, Cell.ext_iff]
    omega
  · have hcellrow := cell.row_lt
    have hcellcol := cell.col_lt
    simp only [reduceCtorEq, false_iff]
    omega

/-- A name stands for a cell exactly when it has the letters of its column and the digits of its
row, counted from one, where zeros may stand before the row. -/
theorem ofName?_eq_some_iff : ofName? text = some cell ↔
    ∃ letters digits, text.toList = letters ++ digits ∧ letters ≠ [] ∧
      (∀ c ∈ letters, isLetter c = true) ∧ Number.IsNumeral digits ∧
      lettersValue letters = cell.col + 1 ∧ Nat.ofDigitChars 10 digits 0 = cell.row + 1 ∧
      cell.row + 1 < 4294967296 := by
  unfold ofName? ofChars?
  constructor
  · intro h
    dsimp only at h
    split at h
    · rename_i hletters
      obtain ⟨hne, hall⟩ := hletters
      rw [List.all_eq_true] at hall
      obtain ⟨row, hrow, h⟩ := Option.bind_eq_some_iff.mp h
      obtain ⟨hnumeral, rfl, hlt⟩ := Number.digits?_eq_some_iff.mp hrow
      split at h
      · contradiction
      · rename_i hzero
        obtain ⟨hcol, hrow⟩ :=
          (ofNat?_sub_one_eq_some_iff hzero (lettersValue_pos hne hall)).mp h
        exact ⟨_, _, List.takeWhile_append_dropWhile.symm, hne, hall, hnumeral, hcol, hrow,
          hrow ▸ hlt⟩
    · contradiction
  · rintro ⟨letters, digits, htext, hne, hall, hnumeral, hcol, hrow, hlt⟩
    obtain ⟨htake, hdrop⟩ := split_of_isNumeral hall hnumeral
    have hread : Number.digits? 4294967296 digits = some (cell.row + 1) :=
      Number.digits?_eq_some_iff.mpr ⟨hnumeral, hrow, hlt⟩
    dsimp only
    rw [htext, htake, hdrop, if_pos ⟨hne, List.all_eq_true.mpr hall⟩, hread, Option.bind_some,
      if_neg (Nat.succ_ne_zero _)]
    exact (ofNat?_sub_one_eq_some_iff (Nat.succ_ne_zero _) (lettersValue_pos hne hall)).mpr
      ⟨hcol, rfl⟩

/-- The name of a cell is the letters of its column and the digits of its row, counted from one. -/
theorem toList_name (c : Cell) :
    c.name.toList = Cell.letters c.col ++ Number.natDigits (c.row + 1) := by
  rw [name, String.toList_ofList, chars]

/-- The name of a cell begins with a letter. -/
theorem exists_toList_name (c : Cell) :
    ∃ ch rest, c.name.toList = ch :: rest ∧ isLetter ch = true := by
  obtain ⟨ch, rest, hcons⟩ := List.exists_cons_of_ne_nil (letters_ne_nil c.col)
  refine ⟨ch, rest ++ Number.natDigits (c.row + 1), ?_, ?_⟩
  · rw [toList_name, hcons, List.cons_append]
  · exact isLetter_of_mem_letters (hcons ▸ List.mem_cons_self)

/-- The name of a cell above the last row of the sheet stands for it. -/
theorem ofName?_name (h : cell.row < 4294967295) : ofName? cell.name = some cell :=
  ofName?_eq_some_iff.mpr ⟨_, _, toList_name cell, letters_ne_nil _,
    fun _ hc => isLetter_of_mem_letters hc, Number.isNumeral_natDigits _,
    lettersValue_letters _, Nat.ofDigitChars_ten_toDigits, by omega⟩

end Cell

end SheetReport
