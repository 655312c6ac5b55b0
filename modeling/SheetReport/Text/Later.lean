import SheetReport.Text.CharClass
import SheetReport.Text.Property

/-!
# Classes of the next edition

What is fit to be shown in a message, and what may stand in the name of a group, goes by a
later edition of the Unicode character database than patterns and tags do.
-/

namespace SheetReport.Text

/-- An alphabetic character. -/
def isAlphabetic (c : Char) : Bool :=
  if c.toNat < 128 then isLetterAscii c
  else
    let category := Category.laterOfChar c
    category.isLetter || category == .letterNumber || Property.otherAlphabetic.contains c.toNat

/-- An alphabetic character or a number of any script. -/
def isAlphanumeric (c : Char) : Bool :=
  if c.toNat < 128 then isLetterAscii c || isDigitAscii c
  else
    let category := Category.laterOfChar c
    isAlphabetic c || category == .decimal || category == .otherNumber

/-- A character that attaches to the one before it, voicing marks of half width apart. -/
def isExtender (c : Char) : Bool :=
  if c.toNat < 128 then false
  else
    let category := Category.laterOfChar c
    category == .nonspacing || category == .enclosing ||
      (category != .modifier && Property.otherGraphemeExtend.contains c.toNat)

/-- A letter that fills the place of another one and is not seen. -/
def isFiller (c : Char) : Bool := [0x115f, 0x1160, 0x3164, 0xffa0].contains c.toNat

/-- A character without a visible shape: controls, formats, fillers, unassigned code points and
every space but the ordinary one. -/
def isHidden (c : Char) : Bool :=
  if c.toNat < 128 then c.toNat < 32 || c.toNat == 127
  else
    isFiller c ||
      match Category.laterOfChar c with
      | .control | .format | .surrogate | .privateUse | .unassigned | .line | .paragraph
      | .space => true
      | _ => false

end SheetReport.Text
