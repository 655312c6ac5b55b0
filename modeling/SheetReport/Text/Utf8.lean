import SheetReport.Text.Ranges

/-!
# Characters as bytes

In UTF-8 a character is one byte or a leading byte with up to three continuation bytes of six
bits each. A range of characters is cut into pieces so small that the bytes of a piece vary
independently of each other; such a piece is a sequence of ranges of bytes.
-/

namespace SheetReport.Text.Utf8

/-- The number of bytes of a code point. -/
def length (n : Nat) : Nat :=
  if n < 0x80 then 1 else if n < 0x800 then 2 else if n < 0x10000 then 3 else 4

/-- The leading byte and `count` continuation bytes of a code point; `lead` marks how many
follow. -/
def withTail (lead : Nat) : Nat → Nat → List Nat
  | 0, n => [lead + n]
  | count + 1, n => withTail lead count (n / 64) ++ [0x80 + n % 64]

/-- The bytes of a code point. -/
def encode (n : Nat) : List Nat :=
  match length n with
  | 1 => withTail 0 0 n
  | 2 => withTail 0xc0 1 n
  | 3 => withTail 0xe0 2 n
  | _ => withTail 0xf0 3 n

/-- The bytes of a text. -/
def ofText (text : List Char) : List Nat := text.flatMap fun c => encode c.toNat

/-- A range of bytes. -/
abbrev ByteRange := Nat × Nat

/-- Where a range has to be cut for its continuation bytes from the last one on: the last code
point of the first piece. A cut is needed where leading bits differ and the bits below them do
not run from all zeros to all ones. -/
def cutTail? (low high : Nat) : List Nat → Option Nat
  | [] => none
  | unit :: rest =>
    if low / unit = high / unit then cutTail? low high rest
    else if low % unit ≠ 0 then some (low / unit * unit + (unit - 1))
    else if high % unit ≠ unit - 1 then some (high / unit * unit - 1)
    else cutTail? low high rest

/-- Where a range has to be cut: at the surrogates, at the ends of the code points of one
length, and where its continuation bytes do not vary freely. -/
def cut? (low high : Nat) : Option Nat :=
  let limits := [0x7f, 0x7ff, 0xd7ff, 0xdfff, 0xffff]
  match limits.find? fun limit => low ≤ limit && limit < high with
  | some limit => some limit
  | none => cutTail? low high [64, 4096, 262144]

/-- The pieces of a range, as sequences of ranges of bytes. -/
def piecesOf : Nat → Nat → Nat → List (List ByteRange)
  | 0, _, _ => []
  | fuel + 1, low, high =>
    match cut? low high with
    | some last => piecesOf fuel low last ++ piecesOf fuel (last + 1) high
    | none => if 0xd800 ≤ low ∧ high < 0xe000 then [] else [(encode low).zip (encode high)]

/-- The pieces of a set of characters; no range needs more than forty cuts. -/
def pieces (r : Ranges) : List (List ByteRange) := r.flatMap fun x => piecesOf 40 x.1 x.2

end SheetReport.Text.Utf8
