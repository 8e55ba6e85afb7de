/-!
# Operations

The six ways a query can be run, each with the label it is known by and the suffix that
selects it behind a query's name.
-/

namespace QueryBook

inductive Operation where
  | insertReturning
  | insertUpdateDelete
  | insertUpdateDeleteMany
  | script
  | selectOneRow
  | select
  deriving DecidableEq

namespace Operation

def all : List Operation :=
  [insertReturning, insertUpdateDelete, insertUpdateDeleteMany, script, selectOneRow, select]

def label : Operation → String
  | insertReturning => "insert_returning"
  | insertUpdateDelete => "insert_update_delete"
  | insertUpdateDeleteMany => "insert_update_delete_many"
  | script => "script"
  | selectOneRow => "select_one_row"
  | select => "select"

def ofLabel? (label : String) : Option Operation :=
  all.find? fun op => op.label = label

theorem ofLabel?_label (op : Operation) : ofLabel? op.label = some op := by
  cases op <;> decide

def suffix : Operation → List Char
  | insertReturning => ['<', '!']
  | insertUpdateDelete => ['!']
  | insertUpdateDeleteMany => ['*', '!']
  | script => ['#']
  | selectOneRow => ['?']
  | select => []

/-- The operations with a suffix, in the order in which a header is tried for them: the two
suffixes that end like a shorter one come first. -/
def suffixed : List Operation :=
  [insertReturning, insertUpdateDeleteMany, insertUpdateDelete, script, selectOneRow]

end Operation

end QueryBook
