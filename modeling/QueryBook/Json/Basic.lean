import QueryBook.Number.Decimal

/-!
# JSON documents

A document keeps the order of its members.  It is printed without any space.  Inside a string
only the quote, the backslash and the control characters are escaped, five of these by a
letter and the others by four hexadecimal digits.
-/

namespace QueryBook

inductive Json where
  | null
  | bool (b : Bool)
  | int (n : Int)
  | decimal (d : Decimal)
  | text (s : String)
  | list (items : List Json)
  | object (members : List (String × Json))
  deriving Inhabited

namespace Json

/-- Points from 0.00001 up to sixteen digits, exponents without plus sign or padding. -/
def numberStyle : PointStyle :=
  ⟨-5, 15, false, 1⟩

def escape (c : Char) : List Char :=
  if c = '"' ∨ c = '\\' then ['\\', c]
  else if c = '\n' then ['\\', 'n']
  else if c = '\r' then ['\\', 'r']
  else if c = '\t' then ['\\', 't']
  else if c = Char.ofNat 8 then ['\\', 'b']
  else if c = Char.ofNat 12 then ['\\', 'f']
  else if c.toNat < 0x20 then '\\' :: 'u' :: Text.hex 4 c.toNat
  else [c]

def quote (s : String) : List Char :=
  '"' :: s.toList.flatMap escape ++ ['"']

mutual

def compact : Json → List Char
  | null => ['n', 'u', 'l', 'l']
  | bool true => ['t', 'r', 'u', 'e']
  | bool false => ['f', 'a', 'l', 's', 'e']
  | int n => Text.signed n
  | decimal d => d.text numberStyle
  | text s => quote s
  | list [] => ['[', ']']
  | list (item :: items) => '[' :: compact item ++ compactItems items
  | object [] => ['\x7b', '\x7d']
  | object ((key, item) :: members) =>
    '\x7b' :: quote key ++ ':' :: compact item ++ compactMembers members

/-- The items behind the first one, with the bracket that closes the list. -/
def compactItems : List Json → List Char
  | [] => [']']
  | item :: items => ',' :: compact item ++ compactItems items

/-- The members behind the first one, with the brace that closes the object. -/
def compactMembers : List (String × Json) → List Char
  | [] => ['\x7d']
  | (key, item) :: members =>
    ',' :: quote key ++ ':' :: compact item ++ compactMembers members

end

def print (j : Json) : String :=
  String.ofList j.compact

end Json

end QueryBook
