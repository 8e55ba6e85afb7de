import QueryBook.Query

/-!
# Values in messages

Two texts of a value: the one that shows its kind, with quotes and brackets, and the plain
one, which differs for a text and for an operation at the top only.  Both show the same whole
numbers, with all their digits, and a host that writes numbers of some length only can write
the value if these numbers fit.
-/

namespace QueryBook

namespace Placeholder

def display : Placeholder → List Char
  | positional => "Positional()".toList
  | named name => "Named(name=".toList ++ Text.quoted name.toList ++ [')']

end Placeholder

/-- The items with a comma and a blank between them. -/
def joined : List (List Char) → List Char
  | [] => []
  | [item] => item
  | item :: rest => item ++ ',' :: ' ' :: joined rest

/-- A tuple of one item keeps a comma behind it. -/
def tupled : List (List Char) → List Char
  | [item] => '(' :: item ++ [',', ')']
  | items => '(' :: joined items ++ [')']

namespace Operation

/-- The name of an operation as a member of its class. -/
def member (op : Operation) : List Char :=
  "Operation.".toList ++ op.label.toList.map Char.toUpper

end Operation

namespace Value

mutual

def display : Value → List Char
  | null => "None".toList
  | bool b => (if b then "True" else "False").toList
  | int n => Text.signed n
  | float x => x.text
  | text s => Text.quoted s.toList
  | list items => '[' :: joined (displays items) ++ [']']
  | tuple items => tupled (displays items)
  | set [] => "set()".toList
  | set (item :: items) => '\x7b' :: joined (display item :: displays items) ++ ['\x7d']
  | bytes content => Text.quotedBytes false content
  | byteArray content => "bytearray(".toList ++ Text.quotedBytes true content ++ [')']
  | range bound => "range(0, ".toList ++ Text.signed bound ++ [')']
  | dictionary entries => '\x7b' :: joined (displayEntries entries) ++ ['\x7d']
  | object shown => shown.toList
  | operation op => '<' :: op.member ++ ": ".toList ++ Text.quoted op.label.toList ++ ['>']
  | query name op body docs params =>
    "Query(name=".toList ++ Text.quoted name.toList ++ ", operation=".toList ++ display op ++
      ", sql=".toList ++ Text.quoted body.toList ++ ", docs=".toList ++
      Text.quoted docs.toList ++ ", params=".toList ++
      tupled (params.map Placeholder.display) ++ [')']

def displays : List Value → List (List Char)
  | [] => []
  | item :: items => display item :: displays items

def displayEntries : List (String × Value) → List (List Char)
  | [] => []
  | (key, item) :: entries =>
    (Text.quoted key.toList ++ ':' :: ' ' :: display item) :: displayEntries entries

end

mutual

/-- The whole numbers that the text of a value shows have at most so many digits. -/
def fits (digits : Nat) : Value → Bool
  | int n | range n => Text.fits digits n
  | list items | tuple items | set items => allFit digits items
  | dictionary entries => entriesFit digits entries
  | query _ op _ _ _ => fits digits op
  | _ => true

def allFit (digits : Nat) : List Value → Bool
  | [] => true
  | item :: items => fits digits item && allFit digits items

def entriesFit (digits : Nat) : List (String × Value) → Bool
  | [] => true
  | (_, item) :: entries => fits digits item && entriesFit digits entries

end

def plain : Value → List Char
  | text s => s.toList
  | operation op => op.member
  | v => v.display

/-- What a value is called in a complaint about its kind. -/
def kindName : Value → String
  | null => "NoneType"
  | bool _ => "bool"
  | int _ => "int"
  | float _ => "float"
  | text _ => "str"
  | list _ => "list"
  | tuple _ => "tuple"
  | set _ => "set"
  | bytes _ => "bytes"
  | byteArray _ => "bytearray"
  | range _ => "range"
  | dictionary _ => "dict"
  | object _ => "object"
  | operation _ => "Operation"
  | query .. => "Query"

end Value

end QueryBook
