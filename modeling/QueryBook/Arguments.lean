import QueryBook.Value

/-!
# Arguments

A caller passes a sequence of positional arguments and a dictionary of keyword arguments.
Resolving a list of placeholders gives one value for each: the n-th question mark takes the
n-th positional argument however many names come before it, and a name takes the keyword
argument of that name.  Where a value is missing, strict resolution stops at the first gap
and lenient resolution fills it with null.
-/

namespace QueryBook

structure Arguments where
  positional : List Value := []
  keyword : List (String × Value) := []

inductive MissingValue where
  /-- The rank counts from one. -/
  | positional (rank : Nat)
  | named (name : String)
  deriving DecidableEq

namespace Arguments

/-- The value that a placeholder asks for after `consumed` question marks. -/
def value? (args : Arguments) (consumed : Nat) : Placeholder → Option Value
  | .positional => args.positional[consumed]?
  | .named name => args.keyword.lookup name

def gap (consumed : Nat) : Placeholder → MissingValue
  | .positional => .positional (consumed + 1)
  | .named name => .named name

/-- The number of question marks behind a placeholder. -/
def advance (consumed : Nat) : Placeholder → Nat
  | .positional => consumed + 1
  | .named _ => consumed

/-- Values for the placeholders that follow `consumed` question marks. -/
def resolveFrom (args : Arguments) (strict : Bool) :
    Nat → List Placeholder → Except MissingValue (List Value)
  | _, [] => .ok []
  | consumed, p :: rest =>
    match args.value? consumed p, strict with
    | none, true => .error (gap consumed p)
    | found, _ =>
      match resolveFrom args strict (advance consumed p) rest with
      | .ok values => .ok (found.getD .null :: values)
      | .error missing => .error missing

def resolve (args : Arguments) (params : List Placeholder) (strict : Bool) :
    Except MissingValue (List Value) :=
  args.resolveFrom strict 0 params

end Arguments

end QueryBook
