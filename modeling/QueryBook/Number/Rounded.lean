import QueryBook.Number.Floating

/-!
# Rounded numbers

The exact value of a floating-point number, rounded to a fixed number of places behind the
point or to a number of significant digits.  A tie goes to the even neighbour.
-/

namespace QueryBook

/-- The three layouts: with a point, with an exponent, or whichever of the two suits the size
of the number. -/
inductive Layout where
  | point
  | exponent
  | general
  deriving DecidableEq

namespace Binary

def numerator (b : Binary) : Nat :=
  b.digits * Nat.pow 2 b.exponent.toNat

def denominator (b : Binary) : Nat :=
  Nat.pow 2 (-b.exponent).toNat

/-- The size of the number times a power of ten, rounded to a whole number. -/
def scaled (b : Binary) (power : Int) : Nat :=
  Decimal.roundedDiv (b.numerator * Nat.pow 10 power.toNat)
    (b.denominator * Nat.pow 10 (-power).toNat)

/-- The exponent of the leading decimal digit; zero for zero. -/
def magnitude (b : Binary) : Int :=
  if b.digits = 0 then 0
  else
    let guess : Int :=
      (Text.decimal b.numerator).length - ((Text.decimal b.denominator).length : Int)
    if b.denominator * Nat.pow 10 guess.toNat ≤ b.numerator * Nat.pow 10 (-guess).toNat then guess
    else guess - 1

/-- The digits behind the leading one and the exponent, after rounding to that many places. -/
def significant (b : Binary) (places : Nat) : Nat × Int :=
  let e := b.magnitude
  let n := b.scaled (places - e)
  if n = Nat.pow 10 (places + 1) then (Nat.pow 10 places, e + 1) else (n, e)

/-- Digits with the point in front of the last so many.  A point that nothing follows is left
out unless it is asked for. -/
def pointed (keepPoint : Bool) (places : Nat) (n : Nat) : List Char :=
  let digits := Text.padded (places + 1) (Text.decimal n)
  let cut := digits.length - places
  digits.take cut ++ (if places ≠ 0 ∨ keepPoint then ['.'] else []) ++ digits.drop cut

def exponentText (e : Int) : List Char :=
  'e' :: (if e < 0 then '-' else '+') :: Text.padded 2 (Text.decimal e.natAbs)

/-- Without the zeros behind the point that end it, and without a point that ends it then. -/
def withoutZeros (cs : List Char) : List Char :=
  if cs.contains '.' then
    let kept := (cs.reverse.dropWhile (· = '0')).reverse
    if kept.getLast? = some '.' then kept.dropLast else kept
  else cs

/-- From this place on, behind the point or behind the leading digit, all digits are zero:
no number has more than 1074 binary places. -/
def lastPlace : Nat :=
  1074

/-- Digits with the point in front of the last so many places, the places past the last one
being filled with zeros. -/
def lengthened (keepPoint : Bool) (places : Nat) (digits : Nat → Nat) : List Char :=
  let exact := min places lastPlace
  pointed keepPoint exact (digits exact) ++ List.replicate (places - exact) '0'

def pointText (b : Binary) (keepPoint : Bool) (places : Nat) : List Char :=
  lengthened keepPoint places fun exact => b.scaled exact

def leadingText (b : Binary) (keepPoint : Bool) (places : Nat) : List Char :=
  lengthened keepPoint places fun exact => (b.significant exact).1

/-- The exponent after rounding to that many places behind the leading digit. -/
def roundedExponent (b : Binary) (places : Nat) : Int :=
  (b.significant (min places lastPlace)).2

/-- The size of the number in a layout.  In the general layout the precision counts
significant digits, and zeros at the end are kept only together with the point. -/
def sizeText (b : Binary) (layout : Layout) (keepPoint : Bool) (precision : Nat) : List Char :=
  match layout with
  | .point => b.pointText keepPoint precision
  | .exponent =>
    b.leadingText keepPoint precision ++ exponentText (b.roundedExponent precision)
  | .general =>
    let count := max precision 1
    let e := b.roundedExponent (count - 1)
    let trimmed (layOut : Bool → Nat → List Char) (places : Nat) : List Char :=
      if keepPoint then layOut true places
      else withoutZeros (layOut false (min places lastPlace))
    if -4 ≤ e ∧ e < count then trimmed b.pointText (count - 1 - e).toNat
    else trimmed b.leadingText (count - 1) ++ exponentText e

end Binary

/-- The number with its sign, which a zero has as well. -/
def Floating.rounded (layout : Layout) (keepPoint : Bool) (precision : Nat) :
    Floating → List Char
  | finite d => signText d.negative ++ d.binary.sizeText layout keepPoint precision
  | infinite negative => signText negative ++ ['i', 'n', 'f']
  | nan => ['n', 'a', 'n']

end QueryBook
