import QueryBook.CompileError
import QueryBook.Operation
import QueryBook.Text.Space
import QueryBook.Text.Word

/-!
# Headers

The first line of a definition is a name with the suffix of an operation behind it, or with
none.  A name is one or more word characters, and no suffix holds a word character, so a
header can be read in one way only.
-/

namespace QueryBook

structure Header where
  name : String
  operation : Operation
  deriving DecidableEq

namespace Header

def isName (cs : List Char) : Bool :=
  !cs.isEmpty && cs.all Text.isWord

def before? (suffix : List Char) (cs : List Char) : Option (List Char) :=
  if suffix.isSuffixOf cs then some (cs.take (cs.length - suffix.length)) else none

/-- Cuts off the first of the given operations' suffixes that ends the text; without any, the
whole text is the name of a plain selection. -/
def cut : List Operation → List Char → List Char × Operation
  | [], cs => (cs, .select)
  | op :: ops, cs =>
    match before? op.suffix cs with
    | some name => (name, op)
    | none => cut ops cs

def read (line : String) : Except CompileError Header :=
  let (name, operation) := cut Operation.suffixed (Text.trim line.toList)
  if isName name then .ok ⟨String.ofList name, operation⟩
  else .error (.invalidName (String.ofList name))

/-- The shortest line that declares this header. -/
def line (h : Header) : String :=
  h.name ++ String.ofList h.operation.suffix

end Header

end QueryBook
