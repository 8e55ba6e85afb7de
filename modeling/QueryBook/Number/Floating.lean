import QueryBook.Number.Decimal

/-!
# Floating-point values

A floating-point value is kept as the shortest decimal that names it, so writing it needs no
rounding.  Its exact value, a whole number times a power of two, is found by rounding that
decimal to 53 binary digits with ties going to even; it decides comparisons with whole
numbers and the removal of the fraction.
-/

namespace QueryBook

inductive Floating where
  | finite (d : Decimal)
  | infinite (negative : Bool)
  | nan
  deriving DecidableEq

/-- The exact number `± digits * 2 ^ exponent`. -/
structure Binary where
  negative : Bool
  digits : Nat
  exponent : Int

namespace Decimal

/-- Quotient rounded to nearest, a tie to the even neighbour. -/
def roundedDiv (num den : Nat) : Nat :=
  let q := num / den
  let r := num % den
  if 2 * r < den then q
  else if den < 2 * r then q + 1
  else if q % 2 = 0 then q else q + 1

/-- The largest `k` with `2 ^ k ≤ num / den`. -/
def floorLog (num den : Nat) : Int :=
  let k : Int := (num.log2 : Int) - den.log2
  if den * Nat.pow 2 k.toNat ≤ num * Nat.pow 2 (-k).toNat then k else k - 1

/-- The nearest number with 53 binary digits, or fewer below the normal range. -/
def binary (d : Decimal) : Binary :=
  let num := d.digits * Nat.pow 10 d.exponent.toNat
  let den := Nat.pow 10 (-d.exponent).toNat
  if num = 0 then ⟨d.negative, 0, 0⟩
  else
    let q := max (floorLog num den - 52) (-1074)
    ⟨d.negative, roundedDiv (num * Nat.pow 2 (-q).toNat) (den * Nat.pow 2 q.toNat), q⟩

end Decimal

namespace Binary

def truncated (b : Binary) : Int :=
  let size : Int := (b.digits * Nat.pow 2 b.exponent.toNat / Nat.pow 2 (-b.exponent).toNat : Nat)
  if b.negative then -size else size

def isWhole (b : Binary) : Bool :=
  b.digits * Nat.pow 2 b.exponent.toNat % Nat.pow 2 (-b.exponent).toNat = 0

def floor (b : Binary) : Int :=
  if b.negative && !b.isWhole then b.truncated - 1 else b.truncated

end Binary

namespace Floating

/-- Points from 0.0001 up to sixteen digits, exponents with a sign and two digits. -/
def plainStyle : PointStyle :=
  ⟨-4, 15, true, 2⟩

def signText (negative : Bool) : List Char :=
  if negative then ['-'] else []

def text : Floating → List Char
  | finite d => d.text plainStyle
  | infinite negative => signText negative ++ ['i', 'n', 'f']
  | nan => ['n', 'a', 'n']

def ofUnsigned? (negative : Bool) (cs : List Char) : Option Floating :=
  if cs = ['i', 'n', 'f'] then some (infinite negative)
  else if cs = ['n', 'a', 'n'] then some nan
  else
    match Decimal.readNumeral cs with
    | some ⟨whole, fraction, exponent, []⟩ =>
      some (finite (Decimal.ofDigits negative whole (fraction.getD []) (exponent.getD 0)))
    | _ => none

def ofText? : List Char → Option Floating
  | '-' :: cs => ofUnsigned? true cs
  | cs => ofUnsigned? false cs

/-- Zeros of both signs are equal, and nothing equals a value that is no number. -/
def equal : Floating → Floating → Bool
  | finite a, finite b => a.digits == b.digits &&
      (a.digits == 0 || (a.negative == b.negative && a.exponent == b.exponent))
  | infinite a, infinite b => a == b
  | _, _ => false

def equalsInt : Floating → Int → Bool
  | finite d, n => d.binary.isWhole && d.binary.truncated == n
  | _, _ => false

def isZero : Floating → Bool
  | finite d => d.digits == 0
  | _ => false

end Floating

end QueryBook
