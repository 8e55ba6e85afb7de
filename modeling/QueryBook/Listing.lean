import QueryBook.Definition

/-!
# Writing definitions

The written form that reading undoes: a marker, the header, one comment line for each line of
documentation, and the body.
-/

namespace QueryBook

/-- A definition to be written, with its documentation line by line. -/
structure Entry where
  header : Header
  docs : List String
  body : String
  deriving DecidableEq

namespace Entry

def commentLine (line : String) : String :=
  "-- " ++ line ++ "\n"

def comments (docs : List String) : String :=
  String.join (docs.map commentLine)

def text (e : Entry) : String :=
  e.header.line ++ "\n" ++ comments e.docs ++ e.body

def marked (e : Entry) : String :=
  "-- name: " ++ e.text ++ "\n"

def listing (entries : List Entry) : String :=
  String.join (entries.map marked)

def query (e : Entry) : Query where
  name := e.header.name
  operation := .operation e.header.operation
  body := e.body
  docs := String.join (e.docs.map fun line => line ++ "\n")
  params := placeholders e.body

end Entry

/-- The entry of a query, if one of the six operations runs it. -/
def Query.entry? (q : Query) : Option Entry :=
  (Operation.ofValue? q.operation).map fun operation =>
    { header := ⟨q.name, operation⟩
      docs := (Text.lines q.docs.toList).map String.ofList
      body := q.body }

end QueryBook
