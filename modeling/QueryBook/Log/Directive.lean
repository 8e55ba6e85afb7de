import QueryBook.Log.Message
import QueryBook.Number.Rounded
import QueryBook.Value.Display

/-!
# Template directives

A directive says where and how a message shows an argument.  Behind the percent sign stand a
key in parentheses, flags, a width, a precision behind a point, a length letter without
meaning, and the letter that chooses the form; all but the last may be missing.  A star in
place of a width or a precision takes it from the arguments.

Reading a directive never fails: what is missing at the end of the template is recorded, and
is complained of when the directive is carried out.

Of the host's limits two are taken account of here: how many digits it can be asked for, and
the room it has for what is shown.  The whole numbers among the arguments, and those within
them, are taken to have no more digits than the host writes (`Text.usualDigits`).
-/

namespace QueryBook.Log

inductive Measure where
  | absent
  | digits (n : Nat)
  | argument
  deriving DecidableEq

inductive Key where
  | absent
  | named (name : String)
  | unclosed
  deriving DecidableEq

structure Directive where
  key : Key
  flags : List Char
  width : Measure
  precision : Measure
  letter : Option Char
  /-- Characters behind the percent sign. -/
  size : Nat
  deriving DecidableEq

namespace Directive

def isFlag (c : Char) : Bool :=
  c = '-' || c = '+' || c = ' ' || c = '#' || c = '0'

def isLengthLetter (c : Char) : Bool :=
  c = 'h' || c = 'l' || c = 'L'

/-- The text up to the parenthesis that closes as many open ones, and what follows it. -/
def upToClosing : Nat → List Char → Option (List Char × List Char)
  | _, [] => none
  | opened, c :: rest =>
    if c = ')' ∧ opened = 0 then some ([], rest)
    else
      let opened := if c = ')' then opened - 1 else if c = '(' then opened + 1 else opened
      (upToClosing opened rest).map fun (name, rest) => (c :: name, rest)

def readKey : List Char → Key × List Char
  | '(' :: rest =>
    match upToClosing 0 rest with
    | some (name, rest) => (.named (String.ofList name), rest)
    | none => (.unclosed, [])
  | cs => (.absent, cs)

def readMeasure : List Char → Measure × List Char
  | '*' :: rest => (.argument, rest)
  | cs =>
    match cs.takeWhile Char.isDigit with
    | [] => (.absent, cs)
    | digits => (.digits (Nat.ofDigitChars 10 digits 0), cs.dropWhile Char.isDigit)

/-- A point without digits stands for the precision zero. -/
def readPrecision : List Char → Measure × List Char
  | '.' :: rest =>
    match readMeasure rest with
    | (.absent, rest) => (.digits 0, rest)
    | found => found
  | cs => (.absent, cs)

def skipLength : List Char → List Char
  | [] => []
  | c :: rest => if isLengthLetter c then rest else c :: rest

def read (cs : List Char) : Directive :=
  let (key, rest) := readKey cs
  let flags := rest.takeWhile isFlag
  let (width, rest) := readMeasure (rest.dropWhile isFlag)
  let (precision, rest) := readPrecision rest
  let rest := skipLength rest
  { key := key
    flags := flags
    width := width
    precision := precision
    letter := rest.head?
    size := cs.length - rest.length + rest.head?.toList.length }

end Directive

inductive TemplateError where
  | tooFewArguments
  | argumentsLeft
  | incomplete
  | noMapping
  | unclosedKey
  | missingKey (name : String)
  | noIndex (kind : String)
  | starNoInteger
  | widthTooBig
  | precisionTooBig
  | starWidthTooBig
  | starPrecisionTooBig
  | unknownLetter (letter : Char) (index : Nat)
  | noNumber (letter : Char) (kind : String)
  | noInteger (letter : Char) (kind : String)
  | noReal (kind : String)
  | notANumber
  | infinity
  | numberTooLarge
  | noCharacter
  | characterOutOfRange
  | tooManyDigits
  | noRoom
  deriving DecidableEq

namespace TemplateError

def hexText (n : Nat) : List Char :=
  Nat.toDigits 16 n

/-- A letter as a complaint shows it, with a question mark for what is not plain. -/
def plainLetter (c : Char) : Char :=
  if 0x1F ≤ c.toNat ∧ c.toNat < 0x7F then c else '?'

def text : TemplateError → List Char
  | tooFewArguments => "not enough arguments for format string".toList
  | argumentsLeft => "not all arguments converted during string formatting".toList
  | incomplete => "incomplete format".toList
  | noMapping => "format requires a mapping".toList
  | unclosedKey => "incomplete format key".toList
  | missingKey name => Text.quoted name.toList
  | noIndex kind => kind.toList ++ " indices must be integers or slices, not str".toList
  | starNoInteger => "* wants int".toList
  | widthTooBig => "width too big".toList
  | precisionTooBig => "precision too big".toList
  | starWidthTooBig => "Python int too large to convert to C ssize_t".toList
  | starPrecisionTooBig => "Python int too large to convert to C int".toList
  | unknownLetter letter index =>
    "unsupported format character '".toList ++ plainLetter letter :: "' (0x".toList ++
      hexText letter.toNat ++ ") at index ".toList ++ Text.decimal index
  | noNumber letter kind =>
    '%' :: letter :: " format: a real number is required, not ".toList ++ kind.toList
  | noInteger letter kind =>
    '%' :: letter :: " format: an integer is required, not ".toList ++ kind.toList
  | noReal kind => "must be real number, not ".toList ++ kind.toList
  | notANumber => "cannot convert float NaN to integer".toList
  | infinity => "cannot convert float infinity to integer".toList
  | numberTooLarge => "int too large to convert to float".toList
  | noCharacter => "%c requires int or char".toList
  | characterOutOfRange => "%c arg not in range(0x110000)".toList
  | tooManyDigits => "precision too large".toList
  | noRoom => []

end TemplateError

/-- The whole number that a truth value or a whole number is. -/
def integer? : Value → Option Int
  | .int n => some n
  | .bool b => some (if b then 1 else 0)
  | _ => none

/-- The whole number a value is shown as, a fraction being cut off. -/
def wholeNumber (letter : Char) : Value → Except TemplateError Int
  | .int n => .ok n
  | .bool b => .ok (if b then 1 else 0)
  | .float (.finite d) => .ok d.binary.truncated
  | .float (.infinite _) => .error .infinity
  | .float .nan => .error .notANumber
  | v => .error (.noNumber letter v.kindName)

def realNumber (v : Value) : Except TemplateError Floating :=
  match v, integer? v with
  | .float x, _ => .ok x
  | _, some n =>
    let d : Decimal := ⟨decide (n < 0), n.natAbs, 0⟩
    if Nat.pow 2 1024 ≤ d.binary.numerator then .error .numberTooLarge else .ok (.finite d)
  | _, none => .error (.noReal v.kindName)

/-- The code point a value is shown as: the only one of a text, or the one of a number. -/
def codePoint (v : Value) : Except TemplateError CodePoint :=
  match v, integer? v with
  | .text s, _ =>
    match s.toList with
    | [c] => .ok (.char c)
    | _ => .error .noCharacter
  | _, some n =>
    if n < 0 ∨ 0x110000 ≤ n then .error .characterOutOfRange else .ok (.ofNat n.toNat)
  | _, none => .error .noCharacter

/-- A shown value: text, a code point, or a number in three parts that zeros may fill up. -/
inductive Shown where
  | text (cs : List Char)
  | codePoint (p : CodePoint)
  | number (negative : Bool) (marker digits : List Char)

/-- Flags, width and precision of a directive with the numbers taken from the arguments put
in. -/
structure Form where
  flags : List Char
  width : Nat := 0
  precision : Option Nat := none

namespace Form

def has (form : Form) (flag : Char) : Bool :=
  form.flags.contains flag

def cutText (form : Form) (cs : List Char) : Shown :=
  .text (match form.precision with
    | some n => cs.take n
    | none => cs)

/-- A whole number in a base with at least as many digits as the precision says. -/
def whole (form : Form) (base : Nat) (marker : List Char) (n : Int) : Shown :=
  .number (n < 0) (if form.has '#' then marker else [])
    (Text.padded (form.precision.getD 0) (Nat.toDigits base n.natAbs))

/-- From this width or precision on there is no room for what is shown.  This stands for the
memory of the host, which is taken to hold so many characters and not one more. -/
def roomLimit : Nat :=
  Nat.pow 2 28

/-- The most digits that a whole number can be asked for. -/
def mostDigits : Nat :=
  Nat.pow 2 31 - 4

def whole? (form : Form) (base : Nat) (marker : List Char) (n : Int) :
    Except TemplateError Shown :=
  let digits := form.precision.getD 0
  if mostDigits < digits then .error .tooManyDigits
  else if roomLimit ≤ digits then .error .noRoom
  else .ok (form.whole base marker n)

/-- The places in front of an exponent are counted together with the leading digit, and the
greatest precision leaves no room for that count and stands for no places. -/
def realPrecision (layout : Layout) (precision : Nat) : Nat :=
  if layout = .exponent ∧ precision = Nat.pow 2 31 - 1 then 0 else precision

/-- A number that is not whole, with six places unless the precision says otherwise. -/
def real (form : Form) (layout : Layout) (x : Floating) : Shown :=
  match x.rounded layout (form.has '#') (realPrecision layout (form.precision.getD 6)) with
  | '-' :: digits => .number true [] digits
  | digits => .number false [] digits

/-- Whether zeros are put in until the precision is reached. -/
def fillsUp (form : Form) (layout : Layout) : Floating → Bool
  | .finite _ => layout ≠ .general || form.has '#'
  | _ => false

def real? (form : Form) (layout : Layout) (x : Floating) : Except TemplateError Shown :=
  if form.fillsUp layout x && roomLimit ≤ realPrecision layout (form.precision.getD 6) then
    .error .noRoom
  else .ok (form.real layout x)

def capitals : Shown → Shown
  | .text cs => .text cs
  | .codePoint p => .codePoint p
  | .number negative marker digits =>
    .number negative (marker.map Char.toUpper) (digits.map Char.toUpper)

def asciiText (cs : List Char) : List Char :=
  cs.flatMap fun c =>
    if c.toNat < 0x80 then [c]
    else if c.toNat < 0x100 then '\\' :: 'x' :: Text.hex 2 c.toNat
    else if c.toNat < 0x10000 then '\\' :: 'u' :: Text.hex 4 c.toNat
    else '\\' :: 'U' :: Text.hex 8 c.toNat

def convert (form : Form) (letter : Char) (index : Nat) (v : Value) :
    Except TemplateError Shown :=
  match letter with
  | 's' => .ok (form.cutText v.plain)
  | 'r' => .ok (form.cutText v.display)
  | 'a' => .ok (form.cutText (asciiText v.display))
  | 'd' | 'i' | 'u' => (wholeNumber letter v).bind (form.whole? 10 [])
  | 'o' | 'x' | 'X' =>
    match integer? v with
    | none => .error (.noInteger letter v.kindName)
    | some n =>
      match letter with
      | 'o' => form.whole? 8 ['0', 'o'] n
      | 'x' => form.whole? 16 ['0', 'x'] n
      | _ => (form.whole? 16 ['0', 'x'] n).map capitals
  | 'e' => (realNumber v).bind (form.real? .exponent)
  | 'f' => (realNumber v).bind (form.real? .point)
  | 'g' => (realNumber v).bind (form.real? .general)
  | 'E' => (realNumber v).bind fun x => (form.real? .exponent x).map capitals
  | 'F' => (realNumber v).bind fun x => (form.real? .point x).map capitals
  | 'G' => (realNumber v).bind fun x => (form.real? .general x).map capitals
  | 'c' => (codePoint v).map .codePoint
  | _ => .error (.unknownLetter letter index)

def placeRow {α : Type} (form : Form) (blank : α) (row : List α) : List α :=
  let fill := List.replicate (form.width - row.length) blank
  if form.has '-' then row ++ fill else fill ++ row

/-- A number brought to the width.  Zeros stand behind the sign and the marker. -/
def placeNumber (form : Form) (negative : Bool) (marker digits : List Char) : List Char :=
  let sign :=
    if negative then ['-']
    else if form.has '+' then ['+']
    else if form.has ' ' then [' ']
    else []
  let missing := form.width - (sign ++ marker ++ digits).length
  if form.has '0' && !form.has '-' then sign ++ marker ++ List.replicate missing '0' ++ digits
  else form.placeRow ' ' (sign ++ marker ++ digits)

def place (form : Form) : Shown → Message
  | .text cs => .ofChars (form.placeRow ' ' cs)
  | .codePoint p => form.placeRow (.char ' ') [p]
  | .number negative marker digits => .ofChars (form.placeNumber negative marker digits)

def place? (form : Form) (shown : Shown) : Except TemplateError Message :=
  if roomLimit ≤ form.width then .error .noRoom else .ok (form.place shown)

end Form

end QueryBook.Log
