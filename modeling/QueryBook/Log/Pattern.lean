import QueryBook.Log.Clock
import QueryBook.Text.Case

/-!
# Time patterns

A pattern writes the parts of a moment by letters behind percent signs.  Between the sign and
the letter may stand flags, a width and one of the modifiers `E` and `O`.  A field that has no
meaning is shown as it is written.

The flags `_`, `0` and `-` choose between blanks, zeros and nothing in front of a number, the
last one given being in force; `^` asks for capitals and `#` for the other case.
-/

namespace QueryBook.Log

/-- What is put in front of a number to fill it up. -/
inductive Filling where
  | blanks
  | zeros
  | nothing
  deriving DecidableEq

/-- A field of a pattern.  The letter is missing at the end of the pattern. -/
structure Field where
  written : List Char
  filling : Option Filling
  capitals : Bool
  otherCase : Bool
  width : Nat
  modifier : Option Char
  letter : Option Char
  deriving DecidableEq

namespace Field

def filling? : Char → Option Filling
  | '_' => some .blanks
  | '0' => some .zeros
  | '-' => some .nothing
  | _ => none

def isFlag (c : Char) : Bool :=
  (filling? c).isSome || c = '^' || c = '#'

def isModifier (c : Char) : Bool :=
  c = 'E' || c = 'O'

def read (cs : List Char) : Field :=
  let flags := cs.takeWhile isFlag
  let digits := (cs.dropWhile isFlag).takeWhile Char.isDigit
  let rest := (cs.dropWhile isFlag).dropWhile Char.isDigit
  let modifier := rest.head?.filter isModifier
  let letter := if modifier.isSome then rest[1]? else rest.head?
  { written := '%' :: flags ++ digits ++ modifier.toList ++ letter.toList
    filling := flags.reverse.findSome? filling?
    capitals := flags.contains '^'
    otherCase := flags.contains '#'
    width := Nat.ofDigitChars 10 digits 0
    modifier := modifier
    letter := letter }

def size (f : Field) : Nat :=
  f.written.length - 1

def align (f : Field) (cs : List Char) : List Char :=
  List.replicate (f.width - cs.length) (if f.filling = some .zeros then '0' else ' ') ++ cs

/-- A number with at least so many digits, filled up in the given way unless a flag says
otherwise.  Zeros stand behind the sign. -/
def number (f : Field) (usual : Filling) (digits : Nat) (n : Int) : List Char :=
  let shown := Text.signed n
  let width := max digits f.width
  match f.filling.getD usual with
  | .nothing => f.align shown
  | .blanks => List.replicate (width - shown.length) ' ' ++ shown
  | .zeros =>
    if n < 0 then '-' :: Text.padded (width - 1) (Text.decimal n.natAbs)
    else Text.padded width shown

/-- The capital of a Greek letter with an iota below it, which stands beside the capital. -/
def iotaCapital? (n : Nat) : Option Nat :=
  if 0x1F80 ≤ n ∧ n < 0x1FB0 then some (n ||| 8)
  else if n = 0x1FB3 ∨ n = 0x1FC3 ∨ n = 0x1FF3 then some (n + 9)
  else none

def capital (c : Char) : Char :=
  match iotaCapital? c.toNat, Text.upperChar c with
  | some n, _ => Char.ofNat n
  | none, [large] => large
  | none, _ => c

/-- Whether a field without meaning is shown in capitals.  The flag for the other case asks
for them before the short name of a month already. -/
def writtenInCapitals (f : Field) : Bool :=
  f.capitals || (f.otherCase && (f.letter = some 'b' || f.letter = some 'h'))

def refuses (modifier letter : Char) : Bool :=
  if modifier = 'E' then "aAbBhdegGHIjklmMSUVwWDF".toList.contains letter
  else "aAcxXYDF".toList.contains letter

end Field

/-- What a letter stands for, with the part that letter case plays in it. -/
inductive Part where
  | number (usual : Filling) (digits : Nat) (n : Int)
  /-- Capitals are the other case of a name. -/
  | name (cs : List Char)
  /-- Small letters are the other case of an abbreviation in capitals. -/
  | abbreviation (cs : List Char)
  | composed (cs : List Char)
  | fixed (cs : List Char)
  /-- The distance to universal time: a sign, and hours and minutes in four digits. -/
  | offset

def Part.shown (f : Field) : Part → List Char
  | number usual digits n => f.number usual digits n
  | name cs => f.align (if f.capitals || f.otherCase then cs.map Char.toUpper else cs)
  | abbreviation cs => f.align (if f.otherCase then cs.map Char.toLower else cs)
  | composed cs => f.align (if f.capitals then cs.map Char.toUpper else cs)
  | fixed cs => f.align cs
  | offset => f.align ['+'] ++ f.number .zeros 4 0

namespace Moment

def part? (m : Moment) : Char → Option Part
  | 'a' => some (.name (m.weekdayName.take 3))
  | 'A' => some (.name m.weekdayName)
  | 'b' | 'h' => some (.name (m.monthName.take 3))
  | 'B' => some (.name m.monthName)
  | 'c' => some (.composed m.fullDate)
  | 'C' => some (.number .zeros 1 (m.year / 100))
  | 'd' => some (.number .zeros 2 m.day)
  | 'D' | 'x' => some (.composed m.slashedDate)
  | 'e' => some (.number .blanks 2 m.day)
  | 'F' => some (.composed m.isoDate)
  | 'g' => some (.number .zeros 2 (yearOfCentury m.isoWeek.1))
  | 'G' => some (.number .zeros 1 m.isoWeek.1)
  | 'H' => some (.number .zeros 2 m.hour)
  | 'I' => some (.number .zeros 2 m.faceHour)
  | 'j' => some (.number .zeros 3 (m.dayOfYear + 1))
  | 'k' => some (.number .blanks 2 m.hour)
  | 'l' => some (.number .blanks 2 m.faceHour)
  | 'm' => some (.number .zeros 2 m.month)
  | 'M' => some (.number .zeros 2 m.minute)
  | 'n' => some (.fixed ['\n'])
  | 'p' => some (.abbreviation m.halfDay)
  | 'P' => some (.fixed (m.halfDay.map Char.toLower))
  | 'r' => some (.composed m.faceTime)
  | 'R' => some (.composed m.hourMinute)
  | 's' => some (.fixed (Text.signed m.seconds))
  | 'S' => some (.number .zeros 2 m.second)
  | 't' => some (.fixed ['\t'])
  | 'T' | 'X' => some (.composed m.timeOfDay)
  | 'u' => some (.number .zeros 1 (if m.weekday = 0 then 7 else m.weekday))
  | 'U' => some (.number .zeros 2 (m.weeksFrom 0))
  | 'V' => some (.number .zeros 2 m.isoWeek.2)
  | 'w' => some (.number .zeros 1 m.weekday)
  | 'W' => some (.number .zeros 2 (m.weeksFrom 1))
  | 'y' => some (.number .zeros 2 (yearOfCentury m.year))
  | 'Y' => some (.number .zeros 1 m.year)
  | 'z' => some .offset
  | 'Z' => some (.abbreviation ['G', 'M', 'T'])
  | '%' => some (.fixed ['%'])
  | _ => none

/-- The part that a field asks for, if its letter names one and suffers its modifier. -/
def fieldPart? (m : Moment) (f : Field) : Option Part :=
  match f.letter with
  | none => none
  | some letter =>
    if f.modifier.any fun modifier => Field.refuses modifier letter then none
    else m.part? letter

def showField (m : Moment) (f : Field) : List Char :=
  match m.fieldPart? f with
  | some part => part.shown f
  | none => f.align (if f.writtenInCapitals then f.written.map Field.capital else f.written)

/-- Writes a pattern once a number of its characters, the tail of a field, is passed over.
No field grows wider than the room there is for the whole. -/
def formatAfter (m : Moment) (room : Nat) : Nat → List Char → List Char
  | _, [] => []
  | skip + 1, _ :: rest => formatAfter m room skip rest
  | 0, c :: rest =>
    if c = '%' then
      let f := Field.read rest
      m.showField { f with width := min f.width room } ++ formatAfter m room f.size rest
    else c :: formatAfter m room 0 rest

/-- The room for what a pattern writes: 1024 characters, doubled until that is 256 times the
length of the pattern. -/
def roomFor (pattern : List Char) : Nat :=
  1024 * Nat.nextPowerOfTwo ((pattern.length + 3) / 4)

/-- Writes a pattern.  What does not fit is dropped as a whole. -/
def format (m : Moment) (pattern : List Char) : Except ClockError (List Char) :=
  let room := roomFor pattern
  let written := m.formatAfter room 0 pattern
  if Nat.pow 2 31 ≤ m.year then .error .yearTooLarge
  else if pattern.contains (Char.ofNat 0) then .error .zeroInPattern
  else .ok (if written.length < room then written else [])

end Moment

end QueryBook.Log
