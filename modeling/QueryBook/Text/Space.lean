import QueryBook.Text.Ranges

/-!
# White space

The space characters of every script, the line breaks among them, and the removal of space
at the two ends of a text.  A zero-width space is no space here, and the unit separator is a
space that breaks no line.
-/

namespace QueryBook.Text

def spaceRanges : Ranges :=
  [(0x9, 0xD), (0x1C, 0x20), (0x85, 0x85), (0xA0, 0xA0), (0x1680, 0x1680), (0x2000, 0x200A),
    (0x2028, 0x2029), (0x202F, 0x202F), (0x205F, 0x205F), (0x3000, 0x3000)]

def lineBreakRanges : Ranges :=
  [(0xA, 0xD), (0x1C, 0x1E), (0x85, 0x85), (0x2028, 0x2029)]

def isSpace (c : Char) : Bool :=
  spaceRanges.covers c.toNat

def isLineBreak (c : Char) : Bool :=
  lineBreakRanges.covers c.toNat

def isBlank (cs : List Char) : Bool :=
  cs.all isSpace

def trimStart (cs : List Char) : List Char :=
  cs.dropWhile isSpace

def trimEnd (cs : List Char) : List Char :=
  (cs.reverse.dropWhile isSpace).reverse

def trim (cs : List Char) : List Char :=
  trimEnd (trimStart cs)

end QueryBook.Text
