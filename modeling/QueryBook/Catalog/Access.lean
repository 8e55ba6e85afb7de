import QueryBook.Catalog
import QueryBook.Value.Display

/-!
# Access to a catalog

A query is reached by its name in brackets or as an attribute.  Attributes of the catalog
itself come first, so a query of the same name is reached in brackets only, and queries whose
names begin with an underscore are never looked up.  Nothing about a catalog can be changed.
-/

namespace QueryBook

namespace Catalog

/-- What a catalog has besides its queries: what it offers, and the parts it works with. -/
inductive Member where
  | get
  | keys
  | items
  | values
  | availableQueries
  | internal (label : String)
  deriving DecidableEq

namespace Member

/-- The labels of the parts a catalog works with. -/
def internalLabels : List String :=
  ["__abstractmethods__", "__class__", "__class_getitem__", "__contains__", "__delattr__",
    "__dir__", "__doc__", "__eq__", "__format__", "__ge__", "__getattr__",
    "__getattribute__", "__getitem__", "__getstate__", "__gt__", "__hash__", "__init__",
    "__init_subclass__", "__iter__", "__le__", "__len__", "__lt__", "__module__", "__ne__",
    "__new__", "__orig_bases__", "__reduce__", "__reduce_ex__", "__repr__", "__reversed__",
    "__setattr__", "__sizeof__", "__slots__", "__str__", "__subclasshook__", "_abc_impl",
    "_queries"]

def all : List Member :=
  internalLabels.map internal ++ [availableQueries, get, items, keys, values]

def label : Member → String
  | get => "get"
  | keys => "keys"
  | items => "items"
  | values => "values"
  | availableQueries => "available_queries"
  | internal label => label

def ofLabel? (label : String) : Option Member :=
  all.find? fun member => member.label = label

end Member

/-- Names that begin with an underscore are not for callers. -/
def isHidden (name : String) : Bool :=
  name.toList.head? = some '_'

/-- The names among a catalog's own attributes that are not hidden. -/
def reservedNames : List String :=
  (Member.all.map Member.label).filter fun name => !isHidden name

def isReserved (name : String) : Bool :=
  reservedNames.contains name

inductive AccessError where
  | unknownName (name : String)
  | unknownAttribute (name : String)
  | readOnly
  | noItemAssignment
  | unhashable
  | immutableQuery
  | noLabel (kind : String)
  deriving DecidableEq

def AccessError.text : AccessError → List Char
  | unknownName name => Text.quoted name.toList
  | unknownAttribute name =>
    "'QuerySet' object has no query ".toList ++ Text.quoted name.toList
  | readOnly => "'QuerySet' object is read-only".toList
  | noItemAssignment => "'QuerySet' object does not support item assignment".toList
  | unhashable => "unhashable type: 'QuerySet'".toList
  | immutableQuery => "immutable type: 'Query'".toList
  | noLabel kind => '\'' :: kind.toList ++ "' object has no attribute 'value'".toList

def AccessError.message (e : AccessError) : String :=
  String.ofList e.text

inductive Attribute where
  | member (m : Member)
  | query (q : Query)

def item (c : Catalog) (name : String) : Except AccessError Query :=
  match c.find? name with
  | some q => .ok q
  | none => .error (.unknownName name)

theorem item_eq_ok_iff {c : Catalog} {name : String} {q : Query} :
    c.item name = .ok q ↔ c.find? name = some q := by
  unfold item
  cases c.find? name with
  | none => simp
  | some p => simp

def attributeNamed (c : Catalog) (name : String) : Except AccessError Attribute :=
  match Member.ofLabel? name with
  | some m => .ok (.member m)
  | none =>
    if isHidden name then .error (.unknownAttribute name)
    else
      match c.find? name with
      | some q => .ok (.query q)
      | none => .error (.unknownAttribute name)

/-- The label of a query's operation.  A query that was built by hand may hold anything in
the place of its operation, and only an operation has a label. -/
def operationLabel (q : Query) : Except AccessError String :=
  match q.operation with
  | .operation op => .ok op.label
  | v => .error (.noLabel v.kindName)

def items (c : Catalog) : Except AccessError (List (String × String)) :=
  c.queries.mapM fun q => (operationLabel q).map fun label => (q.name, label)

def setField (c : Catalog) (name : String) : AccessError :=
  match c.item name with
  | .ok _ => .immutableQuery
  | .error e => e

def display (c : Catalog) : List Char :=
  "QuerySet(".toList ++ (Value.list (c.sortedNames.map Value.text)).display ++ [')']

end Catalog

end QueryBook
