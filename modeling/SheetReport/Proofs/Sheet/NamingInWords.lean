import SheetReport.Proofs.Sheet.Naming
import SheetReport.Sheet.NameInWords

/-!
# Names of cells fit their words

In machine words, names are printed and read as they are without any limit on numbers, and the
computation never stops. A number that is read only grows with its characters, so where it stops
to fit at any of them it has no place on the sheet. The letter of a column is at most 25 away from
the first one, the number of letters that are left is not zero where one is subtracted, and only
the last row of the sheet has no number in 32 bits when rows are counted from one.

Main statement: `names_and_cells_correspond`.
-/

namespace SheetReport

namespace Word

variable {w : Nat} {a b n base : BitVec w} {digit : Char → Except Overflow (BitVec w)}
  {value : Char → Nat} {text : List Char}

/-- A sum that fits is the sum of the numbers. -/
theorem exists_add_eq_ok (h : a.toNat + b.toNat < 2 ^ w) :
    ∃ c, add a b = .ok c ∧ c.toNat = a.toNat + b.toNat :=
  ⟨a + b, by simp [add, BitVec.uaddOverflow, h], BitVec.toNat_add_of_lt h⟩

/-- A difference that is not negative is the difference of the numbers. -/
theorem exists_sub_eq_ok (h : b.toNat ≤ a.toNat) :
    ∃ c, sub a b = .ok c ∧ c.toNat = a.toNat - b.toNat :=
  ⟨a - b, by simp [sub, BitVec.usubOverflow, h], BitVec.toNat_sub_of_le h⟩

/-- A sum is there exactly when it fits. -/
theorem add?_eq : add? a b =
    if a.toNat + b.toNat < 2 ^ w then some (BitVec.ofNat w (a.toNat + b.toNat)) else none := by
  by_cases h : a.toNat + b.toNat < 2 ^ w
  · simp [add?, BitVec.uaddOverflow, h, BitVec.ofNat_add]
  · simp [add?, BitVec.uaddOverflow, Nat.le_of_not_lt h, h]

/-- A product is there exactly when it fits. -/
theorem mul?_eq : mul? a b =
    if a.toNat * b.toNat < 2 ^ w then some (BitVec.ofNat w (a.toNat * b.toNat)) else none := by
  by_cases h : a.toNat * b.toNat < 2 ^ w
  · simp [mul?, BitVec.umulOverflow, h, BitVec.ofNat_mul]
  · simp [mul?, BitVec.umulOverflow, Nat.le_of_not_lt h, h]

/-- A number only grows with the digits behind it. -/
theorem le_foldl_digits {base n : Nat} (hbase : 0 < base) :
    n ≤ text.foldl (fun n c => base * n + value c) n := by
  induction text generalizing n with
  | nil => exact Nat.le_refl n
  | cons c rest ih =>
    calc
      n ≤ base * n := Nat.le_mul_of_pos_left n hbase
      _ ≤ base * n + value c := Nat.le_add_right _ _
      _ ≤ rest.foldl (fun n c => base * n + value c) (base * n + value c) := ih

/-- Reading digit by digit gives the number if it fits, and none if it stops to fit at any digit.
The computation stops at a digit only. -/
theorem numeral?_eq (hbase : 0 < base.toNat)
    (hdigit : ∀ c ∈ text, ∃ d, digit c = .ok d ∧ d.toNat = value c) :
    numeral? base digit n text = .ok
      (if text.foldl (fun n c => base.toNat * n + value c) n.toNat < 2 ^ w then
        some (BitVec.ofNat w (text.foldl (fun n c => base.toNat * n + value c) n.toNat))
      else none) := by
  induction text generalizing n with
  | nil => simp [numeral?, n.isLt]
  | cons c rest ih =>
    obtain ⟨⟨d, hd, hvalue⟩, hrest⟩ := List.forall_mem_cons.mp hdigit
    have hgrows : base.toNat * n.toNat + value c ≤
        rest.foldl (fun n c => base.toNat * n + value c) (base.toNat * n.toNat + value c) :=
      le_foldl_digits hbase
    rw [numeral?, mul?_eq, List.foldl_cons]
    by_cases hproduct : n.toNat * base.toNat < 2 ^ w
    · have hscaled : (BitVec.ofNat w (n.toNat * base.toNat)).toNat = base.toNat * n.toNat := by
        rw [BitVec.toNat_ofNat, Nat.mod_eq_of_lt hproduct, Nat.mul_comm]
      rw [if_pos hproduct]
      simp only [hd, bind, Except.bind, add?_eq, hscaled, hvalue]
      by_cases hsum : base.toNat * n.toNat + value c < 2 ^ w
      · rw [if_pos hsum]
        simp only
        rw [ih hrest, BitVec.toNat_ofNat, Nat.mod_eq_of_lt hsum]
      · rw [if_neg hsum, if_neg (by omega)]
    · have hlarge : ¬ base.toNat * n.toNat < 2 ^ w := by rwa [Nat.mul_comm]
      rw [if_neg hproduct, if_neg (by omega)]

end Word

namespace Cell

variable {c : Char} {letters digits : List Char}

/-- The code of a letter fits 8 bits. -/
theorem add_letter_eq (n : BitVec 32) : ∃ code, Word.add 65#8 ((n % 26#32).setWidth 8) = .ok code ∧
    Char.ofNat code.toNat = letter (n.toNat % 26) := by
  have hbase : (26#32).toNat = 26 := rfl
  have hdistance : ((n % 26#32).setWidth 8).toNat = n.toNat % 26 := by
    rw [BitVec.toNat_setWidth, BitVec.toNat_umod, hbase]
    omega
  have hfits : (65#8).toNat + ((n % 26#32).setWidth 8).toNat < 2 ^ 8 := by
    rw [hdistance, BitVec.toNat_ofNat]
    omega
  obtain ⟨code, hcode, hvalue⟩ := Word.exists_add_eq_ok hfits
  refine ⟨code, hcode, ?_⟩
  rw [hvalue, hdistance]
  rfl

/-- Letters are printed in words as they are without a limit. -/
theorem lettersInWords_eq {fuel : Nat} {n : BitVec 32} {after : List Char} (h : n.toNat < fuel) :
    lettersInWords n after = .ok ((lettersReversed fuel n.toNat).reverse ++ after) := by
  induction fuel generalizing n after with
  | zero => contradiction
  | succ fuel ih =>
    obtain ⟨code, hcode, hletter⟩ := add_letter_eq n
    have hbase : (26#32).toNat = 26 := rfl
    rw [lettersInWords, hcode, lettersReversed, List.reverse_cons, List.append_assoc]
    simp only [bind, Except.bind, hletter, BitVec.lt_def, hbase]
    by_cases hlast : n.toNat < 26
    · rw [if_pos hlast, if_pos hlast]
      rfl
    · have hle : (1#32).toNat ≤ (n / 26#32).toNat := by
        rw [BitVec.toNat_udiv, hbase, BitVec.toNat_ofNat]
        omega
      obtain ⟨next, hnext, hvalue⟩ := Word.exists_sub_eq_ok hle
      rw [BitVec.toNat_udiv, hbase, BitVec.toNat_ofNat] at hvalue
      rw [if_neg hlast, if_neg hlast]
      split
      · simp_all
      · rename_i next' heq
        obtain rfl : next = next' := Except.ok.inj (hnext.symm.trans heq)
        rw [ih (by omega), hvalue]
        rfl

/-- The name of a cell above the last row is printed in words as it is without a limit. -/
theorem nameInWords_eq {cell : Cell} (h : cell.row < 4294967295) :
    nameInWords cell = .ok cell.name := by
  have hcellcol := cell.col_lt
  have hcol : ((BitVec.ofNat 16 cell.col).setWidth 32).toNat = cell.col := by
    rw [BitVec.toNat_setWidth, BitVec.toNat_ofNat]
    omega
  have hrow : (BitVec.ofNat 32 cell.row).toNat = cell.row := by
    rw [BitVec.toNat_ofNat]
    omega
  have hfits : (BitVec.ofNat 32 cell.row).toNat + (1#32).toNat < 2 ^ 32 := by
    rw [hrow, BitVec.toNat_ofNat]
    omega
  obtain ⟨row, hadd, hvalue⟩ := Word.exists_add_eq_ok hfits
  rw [nameInWords, lettersInWords_eq (Nat.lt_succ_self _), hadd, hcol, List.append_nil]
  simp only [bind, Except.bind, hvalue, hrow]
  rfl

/-- A capital letter counts from 1 to 26 in words. -/
theorem letterInWords_eq (h : isLetter c = true) :
    ∃ d, letterInWords c = .ok d ∧ d.toNat = c.toNat - 64 := by
  obtain ⟨-, hlt, hle⟩ := letter_sub_of_isLetter h
  have hsub : (Word.ofChar 'A').toNat ≤ (Word.ofChar c).toNat := hle
  obtain ⟨distance, hdistance, hvalue⟩ := Word.exists_sub_eq_ok hsub
  have hcode : distance.toNat = c.toNat - 65 := hvalue
  have hfits : distance.toNat + (1#32).toNat < 2 ^ 32 := by
    rw [hcode, BitVec.toNat_ofNat]
    omega
  obtain ⟨d, hd, hsum⟩ := Word.exists_add_eq_ok hfits
  refine ⟨d, by rw [letterInWords, hdistance]; exact hd, ?_⟩
  rw [hsum, hcode, BitVec.toNat_ofNat]
  omega

/-- A digit counts from 0 to 9 in words. -/
theorem digitInWords_eq (h : Text.isDigitAscii c = true) :
    ∃ d, digitInWords c = .ok d ∧ d.toNat = c.toNat - '0'.toNat := by
  obtain ⟨-, -, hle⟩ := Number.digitChar_sub_of_isDigitAscii h
  exact Word.exists_sub_eq_ok hle

/-- The letters of a column are read in words as they are without a limit, if they fit. -/
theorem columnInWords_eq (h : ∀ c ∈ letters, isLetter c = true) :
    columnInWords letters = .ok
      (if lettersValue letters < 2 ^ 32 then some (BitVec.ofNat 32 (lettersValue letters))
      else none) :=
  Word.numeral?_eq (by decide) fun c hc => letterInWords_eq (h c hc)

/-- The digits of a row are read in words as they are under the limit of 32 bits. -/
theorem rowInWords_eq (hne : digits ≠ []) : rowInWords digits =
    .ok ((Number.digits? 4294967296 digits).map (BitVec.ofNat 32)) := by
  unfold rowInWords Number.digits?
  by_cases hall : digits.all Text.isDigitAscii = true
  · have hdigits : Word.numeral? 10#32 digitInWords 0#32 digits = .ok
        (if Number.digitsValue digits < 2 ^ 32 then
          some (BitVec.ofNat 32 (Number.digitsValue digits))
        else none) :=
      Word.numeral?_eq (by decide) fun c hc => digitInWords_eq (List.all_eq_true.mp hall c hc)
    rw [if_pos hall, hdigits]
    by_cases hfits : Number.digitsValue digits < 4294967296
    · simp [hne, hall, hfits]
    · simp [hfits]
  · simp [hall]

/-- The cell at a row and a column that are counted from one and fit 32 bits. -/
theorem fromOneInWords_eq {row col : Nat} (hrow : 0 < row) (hcol : 0 < col)
    (hrowFits : row < 2 ^ 32) (hcolFits : col < 2 ^ 32) :
    fromOneInWords (BitVec.ofNat 32 row) (BitVec.ofNat 32 col) =
      .ok (ofNat? (row - 1) (col - 1)) := by
  have hdown {n : Nat} (hpos : 0 < n) (hfits : n < 2 ^ 32) :
      ∃ m, Word.sub (BitVec.ofNat 32 n) 1#32 = .ok m ∧ m.toNat = n - 1 := by
    have hvalue : (BitVec.ofNat 32 n).toNat = n := by
      rw [BitVec.toNat_ofNat, Nat.mod_eq_of_lt hfits]
    have hle : (1#32).toNat ≤ (BitVec.ofNat 32 n).toNat := by rwa [hvalue]
    obtain ⟨m, hm, hdifference⟩ := Word.exists_sub_eq_ok hle
    exact ⟨m, hm, by rw [hdifference, hvalue]; rfl⟩
  obtain ⟨row', hrow', hrowValue⟩ := hdown hrow hrowFits
  obtain ⟨col', hcol', hcolValue⟩ := hdown hcol hcolFits
  rw [fromOneInWords, hrow', hcol', ← hrowValue, ← hcolValue]
  simp only [bind, Except.bind, pure, Except.pure, Except.ok.injEq]
  have hrowLt : row'.toNat < 4294967296 := row'.isLt
  unfold Word.narrow? ofNat?
  by_cases hnarrow : col'.toNat < 65536
  · simp [hrowLt, hnarrow, ofWords]
  · simp [hnarrow]

/-- Names are read in words as they are without a limit. -/
theorem ofNameInWords_eq (text : String) : ofNameInWords text = .ok (ofName? text) := by
  rw [ofNameInWords, ofName?, ofChars?]
  generalize text.toList.takeWhile _ = letters
  generalize text.toList.dropWhile _ = digits
  by_cases hletters : letters ≠ [] ∧ letters.all isLetter = true
  · obtain ⟨hne, hall⟩ := hletters
    rw [List.all_eq_true] at hall
    by_cases hdigits : digits = []
    · subst hdigits
      simp [Number.digits?, pure, Except.pure]
    · have hparts : ¬ (digits = [] ∨ letters = [] ∨ letters.all isLetter = false) := by
        simp [hdigits, hne, List.all_eq_true.mpr hall]
      rw [if_neg hparts, if_pos ⟨hne, List.all_eq_true.mpr hall⟩, columnInWords_eq hall,
        rowInWords_eq hdigits]
      simp only [bind, Except.bind, pure, Except.pure]
      by_cases hcol : lettersValue letters < 2 ^ 32
      · rw [if_pos hcol]
        cases hrow : Number.digits? 4294967296 digits with
        | none => rfl
        | some row =>
          obtain ⟨-, -, hfits⟩ := Number.digits?_eq_some_iff.mp hrow
          simp only [Option.map_some, Option.bind_some]
          by_cases hzero : row = 0
          · subst hzero
            rfl
          · have hword : BitVec.ofNat 32 row ≠ 0#32 := by
              intro heq
              have hvalue : row % 2 ^ 32 = 0 := by simpa using congrArg BitVec.toNat heq
              omega
            rw [if_neg hword, if_neg hzero, fromOneInWords_eq (Nat.pos_of_ne_zero hzero)
              (lettersValue_pos hne hall) hfits hcol]
      · -- the sheet has no such column, whatever the row is
        have hnone (row : Nat) : ofNat? row (lettersValue letters - 1) = none :=
          dif_neg (by omega)
        rw [if_neg hcol]
        simp [hnone]
  · have hparts : digits = [] ∨ letters = [] ∨ letters.all isLetter = false := by
      by_cases hnil : letters = []
      · exact .inr (.inl hnil)
      · exact .inr (.inr (Bool.eq_false_iff.mpr fun hall => hletters ⟨hnil, hall⟩))
    rw [if_neg hletters, if_pos hparts]
    rfl

/-- Whether a text is letters and digits that name a column from 1 to 65536 and a row from 1 to
4294967295. -/
structure IsName (text : String) (letters digits : List Char) : Prop where
  text_eq : text.toList = letters ++ digits
  letters_ne : letters ≠ []
  letter : ∀ c ∈ letters, 'A' ≤ c ∧ c ≤ 'Z'
  column_pos : 1 ≤ columnNumber letters
  column_le : columnNumber letters ≤ 65536
  digits_ne : digits ≠ []
  digit : ∀ c ∈ digits, '0' ≤ c ∧ c ≤ '9'
  row_pos : 1 ≤ Nat.ofDigitChars 10 digits 0
  row_le : Nat.ofDigitChars 10 digits 0 ≤ 4294967295

namespace IsName

variable {text : String}

/-- The letters of a name are capital letters. -/
theorem isLetter_of_mem (h : IsName text letters digits) (hc : c ∈ letters) :
    isLetter c = true := by
  simpa [isLetter] using h.letter c hc

/-- The digits of a name are a numeral. -/
theorem isNumeral (h : IsName text letters digits) : Number.IsNumeral digits :=
  ⟨h.digits_ne, fun c hc => by simpa [Text.isDigitAscii] using h.digit c hc⟩

/-- A name stands for the cell whose column and row it counts from one. -/
theorem exists_ofName?_eq (h : IsName text letters digits) :
    ∃ cell, ofName? text = some cell ∧ lettersValue letters = cell.col + 1 ∧
      Nat.ofDigitChars 10 digits 0 = cell.row + 1 := by
  have hvalue := lettersValue_eq_columnNumber fun c hc => h.isLetter_of_mem hc
  have hcolPos := h.column_pos
  have hcolLe := h.column_le
  have hrowPos := h.row_pos
  have hrowLe := h.row_le
  let cell : Cell :=
    ⟨Nat.ofDigitChars 10 digits 0 - 1, lettersValue letters - 1, by omega, by omega⟩
  have hcol : lettersValue letters = cell.col + 1 := by
    change lettersValue letters = lettersValue letters - 1 + 1
    omega
  have hrow : Nat.ofDigitChars 10 digits 0 = cell.row + 1 := by
    change Nat.ofDigitChars 10 digits 0 = Nat.ofDigitChars 10 digits 0 - 1 + 1
    omega
  exact ⟨cell, ofName?_eq_some_iff.mpr ⟨letters, digits, h.text_eq, h.letters_ne,
    fun c hc => h.isLetter_of_mem hc, h.isNumeral, hcol, hrow, by omega⟩, hcol, hrow⟩

end IsName

/-- A text that stands for a cell is a name. -/
theorem exists_isName_of_ofName? {text : String} {cell : Cell} (h : ofName? text = some cell) :
    ∃ letters digits, IsName text letters digits := by
  obtain ⟨letters, digits, htext, hne, hall, hnumeral, hcol, hrow, hlt⟩ :=
    ofName?_eq_some_iff.mp h
  have hcellcol := cell.col_lt
  rw [lettersValue_eq_columnNumber hall] at hcol
  exact ⟨letters, digits, {
    text_eq := htext
    letters_ne := hne
    letter := fun c hc => by simpa [isLetter] using hall c hc
    column_pos := by omega
    column_le := by omega
    digits_ne := hnumeral.1
    digit := fun c hc => by simpa [Text.isDigitAscii] using hnumeral.2 c hc
    row_pos := by omega
    row_le := by omega }⟩

/-- Whether a text names a cell by its column and its row, both counted from one. -/
def Names (text : String) (cell : Cell) : Prop :=
  ∃ letters digits, IsName text letters digits ∧ columnNumber letters = cell.col + 1 ∧
    Nat.ofDigitChars 10 digits 0 = cell.row + 1

/-- A text is read as the cell it names. -/
theorem ofName?_eq_some_iff_names {text : String} {cell : Cell} :
    ofName? text = some cell ↔ Names text cell := by
  constructor
  · intro h
    obtain ⟨letters, digits, hname⟩ := exists_isName_of_ofName? h
    obtain ⟨cell', hcell', hcol, hrow⟩ := hname.exists_ofName?_eq
    obtain rfl : cell' = cell := Option.some.inj (hcell'.symm.trans h)
    rw [lettersValue_eq_columnNumber fun c hc => hname.isLetter_of_mem hc] at hcol
    exact ⟨letters, digits, hname, hcol, hrow⟩
  · rintro ⟨letters, digits, hname, hcol, hrow⟩
    obtain ⟨cell', hcell', hcol', hrow'⟩ := hname.exists_ofName?_eq
    rw [lettersValue_eq_columnNumber fun c hc => hname.isLetter_of_mem hc] at hcol'
    obtain rfl : cell' = cell := Cell.ext (by omega) (by omega)
    exact hcell'

/-- A cell above the last row of the sheet is read from its name, and a text is read as a cell
exactly when it is letters and digits that name a column and a row. The cell's name then is the
text without the zeros before its row. In words, names are read and printed alike, and no sum and
no difference leaves its word. -/
theorem names_and_cells_correspond :
    (∀ cell : Cell, cell.row < 4294967295 → ofName? cell.name = some cell) ∧
    (∀ text, (∃ cell, ofName? text = some cell) ↔ ∃ letters digits, IsName text letters digits) ∧
    (∀ text cell letters digits, ofName? text = some cell → IsName text letters digits →
      cell.name.toList = letters ++ digits.dropWhile (· == '0')) ∧
    (∀ text, ofNameInWords text = .ok (ofName? text)) ∧
    (∀ cell : Cell, cell.row < 4294967295 → nameInWords cell = .ok cell.name) := by
  refine ⟨fun cell => ofName?_name, fun text => ⟨?_, ?_⟩,
    fun text cell letters digits hcell h => ?_, ofNameInWords_eq, fun cell => nameInWords_eq⟩
  · rintro ⟨cell, hcell⟩
    exact exists_isName_of_ofName? hcell
  · rintro ⟨letters, digits, h⟩
    obtain ⟨cell, hcell, -⟩ := h.exists_ofName?_eq
    exact ⟨cell, hcell⟩
  · obtain ⟨cell', hcell', hcol, hrow⟩ := h.exists_ofName?_eq
    obtain rfl : cell' = cell := Option.some.inj (hcell'.symm.trans hcell)
    have hletters : Cell.letters cell'.col = letters := by
      have hback := letters_lettersValue h.letters_ne fun c hc => h.isLetter_of_mem hc
      rwa [hcol, Nat.add_sub_cancel] at hback
    rw [toList_name, hletters, ← hrow,
      Number.dropWhile_zeros_eq_natDigits h.isNumeral.2 h.row_pos]

/-- The last cell that has a name in 32 bits is in the last column. Zeros before its row are read
and not printed. -/
theorem names_and_cells_correspond_in_last_column :
    let cell : Cell := ⟨4294967294, 65535, by decide, by decide⟩
    let letters := ['C', 'R', 'X', 'P']
    let digits := "004294967295".toList
    (cell.row < 4294967295 ∧ cell.name = "CRXP4294967295") ∧
      ofName? "CRXP4294967295" = some cell ∧
      nameInWords cell = .ok "CRXP4294967295" ∧
      IsName "CRXP004294967295" letters digits ∧
      ofName? "CRXP004294967295" = some cell ∧
      cell.name.toList = letters ++ digits.dropWhile (· == '0') := by
  intro cell letters digits
  obtain ⟨hread, -, hprint, -, hwords⟩ := names_and_cells_correspond
  have hrow : cell.row < 4294967295 := by decide
  have hname : cell.name = "CRXP4294967295" := by decide
  have hpadded : ofName? "CRXP004294967295" = some cell := by decide
  have hisName : IsName "CRXP004294967295" letters digits := {
    text_eq := by decide
    letters_ne := by decide
    letter := fun c hc => by
      simpa [isLetter] using List.all_eq_true.mp (by decide : letters.all isLetter = true) c hc
    column_pos := by decide
    column_le := by decide
    digits_ne := by decide
    digit := fun c hc => by
      simpa [Text.isDigitAscii] using
        List.all_eq_true.mp (by decide : digits.all Text.isDigitAscii = true) c hc
    row_pos := by decide
    row_le := by decide }
  exact ⟨⟨hrow, hname⟩, hname ▸ hread cell hrow, hname ▸ hwords cell hrow, hisName, hpadded,
    hprint _ cell letters digits hpadded hisName⟩

end Cell

end SheetReport
