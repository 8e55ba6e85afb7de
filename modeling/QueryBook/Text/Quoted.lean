import QueryBook.Text.Printable

/-!
# Quoted literals

A text between quotes, as messages show it.  The quotes are single unless the text holds a
single quote and no double one.  The quote, the backslash and the three common controls are
escaped by a letter, and every other character that is not printable by its code point in
two, four or eight hexadecimal digits.

Whole numbers are written with all their digits, however many these are.  A host may write
numbers of some length only, which is for those to heed who ask it to write a number that
comes from outside.
-/

namespace QueryBook.Text

/-- The last `width` hexadecimal digits of a number, in small letters. -/
def hex (width : Nat) (n : Nat) : List Char :=
  match width with
  | 0 => []
  | width + 1 => hex width (n / 16) ++ [Nat.digitChar (n % 16)]

def decimal (n : Nat) : List Char :=
  Nat.toDigits 10 n

def padded (width : Nat) (digits : List Char) : List Char :=
  List.replicate (width - digits.length) '0' ++ digits

def signed (n : Int) : List Char :=
  if n < 0 then '-' :: decimal n.natAbs else decimal n.natAbs

/-- A whole number has at most so many digits. -/
def fits (digits : Nat) (n : Int) : Bool :=
  (decimal n.natAbs).length ≤ digits

/-- The most digits that a host writes, unless it is set up otherwise. -/
def usualDigits : Nat :=
  4300

def quoteFor (cs : List Char) : Char :=
  if cs.contains '\'' && !cs.contains '"' then '"' else '\''

def escape (quote : Char) (c : Char) : List Char :=
  if c = quote || c = '\\' then ['\\', c]
  else if c = '\n' then ['\\', 'n']
  else if c = '\r' then ['\\', 'r']
  else if c = '\t' then ['\\', 't']
  else if isPrintable c then [c]
  else if c.toNat < 0x100 then '\\' :: 'x' :: hex 2 c.toNat
  else if c.toNat < 0x10000 then '\\' :: 'u' :: hex 4 c.toNat
  else '\\' :: 'U' :: hex 8 c.toNat

def quoted (cs : List Char) : List Char :=
  let quote := quoteFor cs
  quote :: cs.flatMap (escape quote) ++ [quote]

/-- The same for bytes, of which only the printable ASCII ones stand for themselves.  Byte
arrays escape the single quote even between double quotes. -/
def quotedBytes (isArray : Bool) (bytes : List UInt8) : List Char :=
  let cs := bytes.map fun b => Char.ofNat b.toNat
  let quote := quoteFor cs
  let escapeByte (c : Char) : List Char :=
    if isArray && c = '\'' then escape '\'' c
    else if c.toNat < 0x7F then escape quote c
    else '\\' :: 'x' :: hex 2 c.toNat
  'b' :: quote :: cs.flatMap escapeByte ++ [quote]

end QueryBook.Text
