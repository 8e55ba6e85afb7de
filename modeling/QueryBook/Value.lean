import QueryBook.Number.Floating
import QueryBook.Operation
import QueryBook.Placeholder

/-!
# Values

What callers pass as arguments, adapters give back and records carry.  Besides the usual
data there are values of which only the text is known, operations, and queries, whose
operation may be any value because a caller may build a query by hand.

Two values of different kinds can be equal: truth values and numbers compare by size,
operations and texts by label, byte strings of both kinds by content.  Dictionaries compare
without regard to order.
-/

namespace QueryBook

inductive Value where
  | null
  | bool (b : Bool)
  | int (n : Int)
  | float (x : Floating)
  | text (s : String)
  | list (items : List Value)
  | tuple (items : List Value)
  | set (items : List Value)
  | bytes (content : List UInt8)
  | byteArray (content : List UInt8)
  /-- The whole numbers from zero up to a bound. -/
  | range (bound : Int)
  | dictionary (entries : List (String × Value))
  /-- A value of which only its text is known. -/
  | object (shown : String)
  | operation (op : Operation)
  | query (name : String) (operation : Value) (body docs : String)
      (params : List Placeholder)
  deriving Inhabited

namespace Value

/-- The elements of a sequence that is no string. -/
def elements? : Value → Option (List Value)
  | list items => some items
  | tuple items => some items
  | range bound => some ((List.range bound.toNat).map fun i : Nat => int i)
  | _ => none

/-- Whether a value counts as present where an empty one would be passed over. -/
def isPresent : Value → Bool
  | null => false
  | bool b => b
  | int n => n != 0
  | float x => !x.isZero
  | text s => !s.isEmpty
  | list items | tuple items | set items => !items.isEmpty
  | bytes content | byteArray content => !content.isEmpty
  | range bound => decide (0 < bound)
  | dictionary entries => !entries.isEmpty
  | object _ | operation _ | query .. => true

/-- Equality of values that hold no other value. -/
def equalLeaf : Value → Value → Bool
  | null, null => true
  | bool a, bool b => a == b
  | bool a, int n | int n, bool a => n == (if a then 1 else 0)
  | bool a, float x | float x, bool a => x.equalsInt (if a then 1 else 0)
  | int m, int n => m == n
  | int n, float x | float x, int n => x.equalsInt n
  | float x, float y => x.equal y
  | text s, text t => s == t
  | text s, operation op | operation op, text s => s == op.label
  | operation a, operation b => a == b
  | bytes a, bytes b | bytes a, byteArray b
  | byteArray a, bytes b | byteArray a, byteArray b => a == b
  | range a, range b => a.toNat == b.toNat
  | _, _ => false

mutual

def equal : Value → Value → Bool
  | list xs, list ys | tuple xs, tuple ys => equalItems xs ys
  | set xs, set ys => xs.length == ys.length && allAmong xs ys
  | dictionary xs, dictionary ys => xs.length == ys.length && allBound xs ys
  | query n op body docs params, query n' op' body' docs' params' =>
    n == n' && equal op op' && body == body' && docs == docs' && params == params'
  | a, b => equalLeaf a b
termination_by structural a => a

def equalItems : List Value → List Value → Bool
  | [], [] => true
  | x :: xs, y :: ys => equal x y && equalItems xs ys
  | _, _ => false
termination_by structural xs => xs

/-- Every element of the first list equals one of the second. -/
def allAmong : List Value → List Value → Bool
  | [], _ => true
  | x :: xs, ys => ys.any (fun y => equal x y) && allAmong xs ys
termination_by structural xs => xs

/-- Every entry of the first dictionary is one of the second. -/
def allBound : List (String × Value) → List (String × Value) → Bool
  | [], _ => true
  | (k, x) :: xs, ys =>
    (match ys.lookup k with
      | some y => equal x y
      | none => false) && allBound xs ys
termination_by structural xs => xs

end

end Value

end QueryBook
