/-!
# Ascending ranges of code points

A class of characters is given by the closed ranges its code points fill, in ascending
order.  A look-up ends at the first range above the code point, so a plain letter is settled
by the first few entries of a long table.
-/

namespace QueryBook.Text

abbrev Ranges := List (Nat × Nat)

def Ranges.covers : Ranges → Nat → Bool
  | [], _ => false
  | (lo, hi) :: rest, n =>
    if n < lo then false
    else if n ≤ hi then true
    else Ranges.covers rest n

end QueryBook.Text
