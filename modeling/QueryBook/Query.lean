import QueryBook.Value

/-!
# Queries

A named statement with the operation that runs it.  The operation of a compiled query is one
of the six; a query that a caller builds by hand may carry any value there, and one of the
six labels as a plain text counts as that operation.
-/

namespace QueryBook

structure Query where
  name : String
  operation : Value
  body : String
  docs : String
  params : List Placeholder

namespace Query

def toValue (q : Query) : Value :=
  .query q.name q.operation q.body q.docs q.params

/-- Field by field, operations being compared as values. -/
def equal (a b : Query) : Bool :=
  a.toValue.equal b.toValue

end Query

def Operation.ofValue? : Value → Option Operation
  | .operation op => some op
  | .text s => Operation.ofLabel? s
  | _ => none

end QueryBook
