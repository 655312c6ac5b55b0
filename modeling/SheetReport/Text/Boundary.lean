import SheetReport.Text.Property
import SheetReport.Text.Script

/-!
# Classes of characters at boundaries

The classes that tell where a user-perceived character, a word or a sentence ends, as the
annex on text segmentation defines them from other properties.
-/

namespace SheetReport.Text.Boundary

open Property (graphemeExtend)

/-- The characters of a script with a four-letter name. -/
def script (code : String) : Ranges := Script.ranges code.toList

/-- The characters of several scripts. -/
def scripts (codes : List String) : Ranges := .unionOf (codes.map script)

/-- Spacing marks that end a user-perceived character. -/
def lateSpacing : Ranges := .ofText
  "102b-102c 1038 1062-1064 1067-106d 1083 1087-108c 108f 109a-109c 1a61 1a63-1a64 aa7b aa7d
   11720-11721"

/-- Letters and marks that belong to the character after them. -/
def prepended : Ranges :=
  Property.prependedMark.union
    (.ofText "d4e 111c2-111c3 113d1 1193f 11941 11a3a 11a84-11a89 11d46 11f02")

/-- The first of the syllables with the same consonant and vowel, every twenty-eighth one. -/
def openSyllables : Ranges := (List.range 399).map fun i => (0xac00 + 28 * i, 0xac00 + 28 * i)

/-- Characters that never join their neighbours. -/
def controls : Ranges :=
  ((Category.rangesOf [.line, .paragraph, .control, .format]).union
    ((Category.rangesOf [.unassigned]).inter Property.defaultIgnorable)).diff
    (.unionOf [.ofText "a d 200d", graphemeExtend, prepended])

/-- Characters that continue a user-perceived character. -/
def extending : Ranges := (graphemeExtend.union Property.emojiModifier).diff [(0x200d, 0x200d)]

/-- The characters of a class for user-perceived characters. -/
def grapheme? : String → Option Ranges
  | "cr" => some [(13, 13)]
  | "lf" => some [(10, 10)]
  | "cn" | "control" => some controls
  | "ex" | "extend" => some extending
  | "zwj" => some [(0x200d, 0x200d)]
  | "ri" | "regionalindicator" => some Property.regionalIndicator
  | "pp" | "prepend" => some prepended
  | "sm" | "spacingmark" =>
    some
      (((Category.rangesOf [.spacing]).union (.ofText "e33 eb3")).diff
        (.unionOf [lateSpacing, extending, prepended]))
  | "l" => some (.ofText "1100-115f a960-a97c")
  | "v" => some (.ofText "1160-11a7 d7b0-d7c6 16d63 16d67-16d6a")
  | "t" => some (.ofText "11a8-11ff d7cb-d7fb")
  | "lv" => some openSyllables
  | "lvt" => some (Ranges.diff [(0xac00, 0xd7a3)] openSyllables)
  | _ => none

/-- Characters that continue a word or a sentence whatever stands before them. -/
def wordExtend : Ranges :=
  (Ranges.unionOf
    [graphemeExtend, Category.rangesOf [.spacing], Property.emojiModifier]).diff
    [(0x200d, 0x200d)]

/-- Katakana and the marks that are used among them. -/
def katakana : Ranges :=
  ((script "Kana").union (.ofText "3031-3035 309b-309c 30a0 30fc ff70")).diff wordExtend

/-- Letters of the Hebrew script. -/
def hebrewLetters : Ranges := (script "Hebr").inter (Category.rangesOf [.otherLetter])

/-- Letters of scripts that part their words by blanks. -/
def wordLetters : Ranges :=
  (Property.alphabetic.union
    (.ofText
      "2c2-2c5 2d2-2d7 2de-2df 2e5-2eb 2ed 2ef-2ff 55a-55c 55e 58a 5f3 a708-a716 a720-a721
       a789-a78a ab5b")).diff
    (.unionOf
      [Property.ideographic, katakana, wordExtend, hebrewLetters,
        scripts ["Thai", "Laoo", "Khmr", "Talu", "Lana", "Tavt", "Ahom", "Tale", "Mymr", "Hira"]])

/-- The characters of a class for words. -/
def word? : String → Option Ranges
  | "cr" => some [(13, 13)]
  | "lf" => some [(10, 10)]
  | "nl" | "newline" => some (.ofText "b-c 85 2028-2029")
  | "extend" => some wordExtend
  | "zwj" => some [(0x200d, 0x200d)]
  | "ri" | "regionalindicator" => some Property.regionalIndicator
  | "fo" | "format" =>
    some ((Category.rangesOf [.format]).diff (wordExtend.union (.ofText "200b 200d")))
  | "ka" | "katakana" => some katakana
  | "hl" | "hebrewletter" => some hebrewLetters
  | "le" | "aletter" => some wordLetters
  | "sq" | "singlequote" => some [(0x27, 0x27)]
  | "dq" | "doublequote" => some [(0x22, 0x22)]
  | "mb" | "midnumlet" => some (.ofText "2e 2018-2019 2024 fe52 ff07 ff0e")
  | "ml" | "midletter" => some (.ofText "3a b7 387 55f 5f4 2027 fe13 fe55 ff1a")
  | "mn" | "midnum" =>
    some (.ofText "2c 3b 37e 589 60c-60d 66c 7f8 2044 fe10 fe14 fe50 fe54 ff0c ff1b")
  | "nu" | "numeric" => some ((Category.rangesOf [.decimal]).union [(0x66b, 0x66b)])
  | "ex" | "extendnumlet" => some ((Category.rangesOf [.connector]).union [(0x202f, 0x202f)])
  | "wsegspace" => some (.ofText "20 1680 2000-2006 2008-200a 205f 3000")
  | _ => none

/-- Characters that continue a sentence whatever stands before them. -/
def sentenceExtend : Ranges :=
  .unionOf [graphemeExtend, Category.rangesOf [.spacing], [(0x200d, 0x200d)]]

/-- Small letters, those of the Georgian script apart, which has no capitals in its texts. -/
def smallLetters : Ranges :=
  Property.lowercase.diff (sentenceExtend.union (.ofText "10d0-10fa 10fd-10ff"))

/-- Capital letters, those of the Georgian script apart. -/
def capitals : Ranges :=
  ((Category.rangesOf [.title]).union Property.uppercase).diff (.ofText "1c90-1cba 1cbd-1cbf")

/-- Full stops that may stand inside a sentence. -/
def fullStops : Ranges := .ofText "2e 2024 fe52 ff0e"

/-- Marks that end a sentence. -/
def sentenceEnds : Ranges := Property.sentenceTerminal.diff fullStops

/-- The characters of a class for sentences. -/
def sentence? : String → Option Ranges
  | "cr" => some [(13, 13)]
  | "lf" => some [(10, 10)]
  | "ex" | "extend" => some sentenceExtend
  | "se" | "sep" => some (.ofText "85 2028-2029")
  | "fo" | "format" =>
    some ((Category.rangesOf [.format]).diff (sentenceExtend.union (.ofText "200c-200d")))
  | "sp" => some (Property.whiteSpace.diff (.ofText "a d 85 2028-2029"))
  | "lo" | "lower" => some smallLetters
  | "up" | "upper" => some capitals
  | "le" | "oletter" =>
    some
      ((Property.alphabetic.union [(0x5f3, 0x5f3)]).diff
        (.unionOf [smallLetters, capitals, sentenceExtend]))
  | "nu" | "numeric" => some ((Category.rangesOf [.decimal]).union (.ofText "66b-66c"))
  | "at" | "aterm" => some fullStops
  | "st" | "sterm" => some sentenceEnds
  | "cl" | "close" =>
    some
      ((Ranges.unionOf
        [Category.rangesOf [.opening, .closing, .initialQuote, .finalQuote],
          Property.quotationMark,
          .ofText "275b-2760 2e00-2e01 2e06-2e08 2e0b 1f676-1f678"]).diff
        (.unionOf [fullStops, sentenceEnds, .ofText "5f3 ff02 ff07"]))
  | "sc" | "scontinue" =>
    some
      (.ofText
        "2c-2d 3a 55d 60c-60d 7f8 1802 1808 2013-2014 3001 fe10-fe11 fe13 fe31-fe32 fe50-fe51
         fe55 fe58 fe63 ff0c-ff0d ff1a ff64")
  | _ => none

end SheetReport.Text.Boundary
