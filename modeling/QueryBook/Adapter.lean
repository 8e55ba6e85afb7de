import QueryBook.Operation
import QueryBook.Value

/-!
# Adapters

An adapter talks to a storage.  It has up to five methods; a method that it offers answers a
statement and its parameters with a value or with a failure.
-/

namespace QueryBook

inductive Method where
  | executeScript
  | insertReturning
  | insertUpdateDelete
  | insertUpdateDeleteMany
  | select
  deriving DecidableEq

namespace Method

def all : List Method :=
  [executeScript, insertReturning, insertUpdateDelete, insertUpdateDeleteMany, select]

def label : Method → String
  | executeScript => "execute_script"
  | insertReturning => "insert_returning"
  | insertUpdateDelete => "insert_update_delete"
  | insertUpdateDeleteMany => "insert_update_delete_many"
  | select => "select"

def ofLabel? (label : String) : Option Method :=
  all.find? fun method => method.label = label

end Method

def Operation.method : Operation → Method
  | insertReturning => .insertReturning
  | insertUpdateDelete => .insertUpdateDelete
  | insertUpdateDeleteMany => .insertUpdateDeleteMany
  | script => .executeScript
  | selectOneRow => .select
  | select => .select

structure Adapter where
  label : String
  offers : Method → Bool
  answer : Method → String → List Value → Except String Value

namespace Adapter

/-- Offers every method and gives back the parameters. -/
def echo (label : String) : Adapter where
  label := label
  offers _ := true
  answer _ _ params := .ok (.list params)

/-- An adapter made from tables: methods it lacks, methods that fail, and methods with a
fixed result.  All others give back their parameters. -/
def scripted (label : String) (missing : List Method) (failures : List (Method × String))
    (results : List (Method × Value)) : Adapter where
  label := label
  offers method := !missing.contains method
  answer method _ params :=
    match failures.lookup method with
    | some failure => .error failure
    | none => .ok ((results.lookup method).getD (.list params))

end Adapter

structure Call where
  adapter : String
  method : Method
  body : String
  params : List Value

end QueryBook
