import SheetReport.Text.Category

/-!
# Classes of characters

Word characters, decimal digits and white space, over all of Unicode. The first 128 code points
are decided by comparison, so statements about the marks of a tag (`<`, `>`, `_`, ASCII digits
and letters) never meet the category table.
-/

namespace SheetReport.Text

/-- An ASCII letter. -/
def isLetterAscii (c : Char) : Bool :=
  ('a' ≤ c && c ≤ 'z') || ('A' ≤ c && c ≤ 'Z')

/-- An ASCII digit. -/
def isDigitAscii (c : Char) : Bool := '0' ≤ c && c ≤ '9'

/-- An ASCII letter, an ASCII digit or an underscore. -/
def isWordAscii (c : Char) : Bool := isLetterAscii c || isDigitAscii c || c == '_'

/-- Letters beyond the letter categories and letter numbers: circled and squared letters. -/
def isCircledLetter (c : Char) : Bool :=
  let n := c.toNat
  (0x24b6 ≤ n && n ≤ 0x24e9) || (0x1f130 ≤ n && n ≤ 0x1f149) ||
    (0x1f150 ≤ n && n ≤ 0x1f169) || (0x1f170 ≤ n && n ≤ 0x1f189)

/-- Characters that join their neighbours without a shape of their own. -/
def isJoinControl (c : Char) : Bool := c.toNat == 0x200c || c.toNat == 0x200d

/-- A word character: letters, marks, decimal digits, letter numbers, connectors and joiners. -/
def isWord (c : Char) : Bool :=
  if c.toNat < 128 then isWordAscii c
  else
    let category := Category.ofChar c
    category.isLetter || category.isMark || category == .decimal || category == .letterNumber ||
      category == .connector || isCircledLetter c || isJoinControl c

/-- A decimal digit of any script. -/
def isDigit (c : Char) : Bool :=
  if c.toNat < 128 then isDigitAscii c else Category.ofChar c == .decimal

/-- White space. -/
def isSpace (c : Char) : Bool :=
  let n := c.toNat
  (9 ≤ n && n ≤ 13) || n == 0x20 || n == 0x85 || n == 0xa0 || n == 0x1680 ||
    (0x2000 ≤ n && n ≤ 0x200a) || n == 0x2028 || n == 0x2029 || n == 0x202f || n == 0x205f ||
    n == 0x3000

/-- Text without the white space at its ends. -/
def trim (cs : List Char) : List Char :=
  ((cs.dropWhile isSpace).reverse.dropWhile isSpace).reverse

/-- A tag's name and a column name are made of these. -/
def isWordOrSpace (c : Char) : Bool := isWord c || isSpace c

/-- The bracket that opens a tag is no part of a name. -/
theorem isWordOrSpace_open : isWordOrSpace '<' = false := by decide

/-- An underscore is no digit. -/
theorem isDigit_underscore : isDigit '_' = false := by decide

end SheetReport.Text
