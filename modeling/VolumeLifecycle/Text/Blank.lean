/-!
# Blank characters

The characters that trimming removes and that may surround a number's text: the Unicode
space separators, the line and paragraph separators, and the characters whose bidirectional
class is a segment, block or whitespace separator (among them the ASCII controls `\x1c` to
`\x1f` and NEXT LINE `\x85`). Unicode 14.
-/

namespace VolumeLifecycle.Text

/-- The blank code points, in increasing order. -/
def blankCodes : List Nat :=
  [0x9, 0xA, 0xB, 0xC, 0xD, 0x1C, 0x1D, 0x1E, 0x1F, 0x20, 0x85, 0xA0, 0x1680, 0x2000, 0x2001,
   0x2002, 0x2003, 0x2004, 0x2005, 0x2006, 0x2007, 0x2008, 0x2009, 0x200A, 0x2028, 0x2029,
   0x202F, 0x205F, 0x3000]

/-- Whether `c` is blank. -/
def isBlank (c : Char) : Bool := blankCodes.contains c.toNat

/-- `s` without blanks at either end. -/
def trimBlank (s : String) : String :=
  String.ofList ((s.toList.dropWhile isBlank).reverse.dropWhile isBlank).reverse

/-- `s` without blanks at its end. -/
def trimBlankRight (s : String) : String :=
  String.ofList (s.toList.reverse.dropWhile isBlank).reverse

/-- `s` without the character `c` repeated at its end. -/
def trimRightChar (s : String) (c : Char) : String :=
  String.ofList (s.toList.reverse.dropWhile (· == c)).reverse

end VolumeLifecycle.Text
