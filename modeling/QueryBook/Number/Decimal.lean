import QueryBook.Text.Quoted

/-!
# Decimal numbers

A decimal is a sign, a whole number of units and a power of ten.  It is written with a point
as long as its leading digit is neither too large nor too small, and with an exponent
otherwise; where the change comes and how the exponent looks is a `PointStyle`.
-/

namespace QueryBook

/-- The number `± digits * 10 ^ exponent`. -/
structure Decimal where
  negative : Bool
  digits : Nat
  exponent : Int
  deriving DecidableEq

/-- A decimal is written with a point when the exponent of its leading digit lies between
`lowest` and `highest`.  Otherwise the exponent follows a small `e`, with a plus sign or not
and with at least `exponentDigits` digits. -/
structure PointStyle where
  lowest : Int
  highest : Int
  plus : Bool
  exponentDigits : Nat

namespace Decimal

def trailingZeros (digits : List Char) : Nat :=
  (digits.reverse.takeWhile (· = '0')).length

/-- The decimal written with these digits before and behind the point, without the zeros at
its end.  Zero has exponent zero. -/
def ofDigits (negative : Bool) (whole fraction : List Char) (exponent : Int) : Decimal :=
  let digits := whole ++ fraction
  let zeros := trailingZeros digits
  let value := Nat.ofDigitChars 10 (digits.take (digits.length - zeros)) 0
  if value = 0 then ⟨negative, 0, 0⟩
  else ⟨negative, value, exponent - fraction.length + zeros⟩

def exponentText (style : PointStyle) (e : Int) : List Char :=
  (if e < 0 then ['-'] else if style.plus then ['+'] else []) ++
    Text.padded style.exponentDigits (Text.decimal e.natAbs)

def magnitude (style : PointStyle) (d : Decimal) : List Char :=
  let digits := Text.decimal d.digits
  let point : Int := digits.length + d.exponent
  if d.digits = 0 then ['0', '.', '0']
  else if style.lowest < point ∧ point ≤ style.highest + 1 then
    if point ≤ 0 then '0' :: '.' :: List.replicate (-point).toNat '0' ++ digits
    else if 0 ≤ d.exponent then digits ++ List.replicate d.exponent.toNat '0' ++ ['.', '0']
    else digits.take point.toNat ++ '.' :: digits.drop point.toNat
  else
    digits.take 1 ++ (if digits.length = 1 then [] else '.' :: digits.drop 1) ++
      'e' :: exponentText style (point - 1)

def text (style : PointStyle) (d : Decimal) : List Char :=
  if d.negative then '-' :: d.magnitude style else d.magnitude style

/-- The parts of a written number: digits, then perhaps a point with digits, then perhaps an
exponent; and what follows it. -/
structure Numeral where
  whole : List Char
  fraction : Option (List Char)
  exponent : Option Int
  rest : List Char

/-- Digits after the sign of an exponent, if there is at least one. -/
def readExponentDigits (negative : Bool) (cs : List Char) : Option (Int × List Char) :=
  match cs.takeWhile Char.isDigit with
  | [] => none
  | digits =>
    let size : Int := Nat.ofDigitChars 10 digits 0
    some (if negative then -size else size, cs.dropWhile Char.isDigit)

def readExponent : List Char → Option (Int × List Char)
  | '-' :: cs => readExponentDigits true cs
  | '+' :: cs => readExponentDigits false cs
  | cs => readExponentDigits false cs

/-- What a point opens, if digits follow it. -/
def readFraction : List Char → Option (List Char) × List Char
  | '.' :: cs =>
    match cs.takeWhile Char.isDigit with
    | [] => (none, '.' :: cs)
    | digits => (some digits, cs.dropWhile Char.isDigit)
  | cs => (none, cs)

def readNumeral (cs : List Char) : Option Numeral :=
  match cs.takeWhile Char.isDigit with
  | [] => none
  | whole =>
    let (fraction, rest) := readFraction (cs.dropWhile Char.isDigit)
    match rest with
    | 'e' :: rest' | 'E' :: rest' =>
      match readExponent rest' with
      | some (e, rest'') => some ⟨whole, fraction, some e, rest''⟩
      | none => some ⟨whole, fraction, none, rest⟩
    | _ => some ⟨whole, fraction, none, rest⟩

end Decimal

end QueryBook
