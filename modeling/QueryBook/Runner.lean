import QueryBook.Adapter
import QueryBook.Arguments
import QueryBook.Notice
import QueryBook.Problem
import QueryBook.Query

/-!
# Runners

A runner sends queries to the adapter registered with it.  A run that is refused never
reaches the adapter, and the reasons for a refusal are tried in a fixed order: no adapter, an
unknown operation, a method the adapter lacks, a missing value.  Otherwise there is exactly
one call, and the operation says what becomes of its result.

A run ends with the reason of its refusal.  An unknown operation may be any value, and the
error that is raised for it shows that value, which a host with a limit on digits may not be
able to write.
-/

namespace QueryBook

structure UncountableRows where
  deriving DecidableEq

/-- The only row of a result, or null when there is not exactly one. -/
def Value.singleRow : Value → Except UncountableRows Value
  | .list [row] | .tuple [row] => .ok row
  | .range bound =>
    if Nat.pow 2 63 ≤ bound then .error {} else .ok (if bound = 1 then .int 0 else .null)
  | _ => .ok .null

def Operation.outcome : Operation → Value → Except UncountableRows Value
  | insertReturning, result => .ok result
  | insertUpdateDelete, _ => .ok .null
  | insertUpdateDeleteMany, _ => .ok .null
  | script, _ => .ok .null
  | selectOneRow, result => result.singleRow
  | select, result => .ok result

inductive RunError where
  | noAdapter
  | unsupportedOperation (operation : Value)
  | missingMethod (method : Method)
  | missingValue (missing : MissingValue)
  | adapterFailed (text : String)
  | uncountableRows (e : UncountableRows)
  /-- A keyword argument has the name of a parameter that is already bound. -/
  | boundKeyword (keyword : String)

namespace MissingValue

def text : MissingValue → List Char
  | positional rank => "Missing positional parameter #".toList ++ Text.decimal rank
  | named name => "Missing named parameter ".toList ++ Text.quoted name.toList

def problem (missing : MissingValue) : Problem :=
  Problem.Kind.missingParameter.problem [.text (String.ofList missing.text)]

end MissingValue

def UncountableRows.message (_ : UncountableRows) : String :=
  "Python int too large to convert to C ssize_t"

namespace RunError

def message : RunError → String
  | noAdapter => (Problem.Kind.noAdapter.problem []).message
  | unsupportedOperation operation =>
    (Problem.Kind.unsupportedOperation.problem [operation]).message
  | missingMethod method => "'Adapter' object has no attribute '" ++ method.label ++ "'"
  | missingValue missing => missing.problem.message
  | adapterFailed text => text
  | uncountableRows e => e.message
  | boundKeyword keyword =>
    "Executor.call() got multiple values for argument '" ++ keyword ++ "'"

end RunError

/-- The values from outside that the message of an error shows. -/
def RunError.shown : RunError → List Value
  | unsupportedOperation operation => [operation]
  | _ => []

/-- What is raised when a run ends with an error. -/
def RunError.raised (e : RunError) (limit : Option Nat) : Except NumberTooLong RunError :=
  Problem.raised limit e.shown e

/-- All that can be seen of one use of a runner. -/
structure Run where
  calls : List Call := []
  notices : List Notice := []
  outcome : Except RunError Value

def Run.refused (e : RunError) : Run where
  outcome := .error e

structure Runner where
  adapter : Option Adapter := none
  options : RunOptions := {}

namespace Runner

def send (adapter : Adapter) (operation : Operation) (q : Query) (params : List Value)
    (counted : Option Nat) : Run where
  calls := [⟨adapter.label, operation.method, q.body, params⟩]
  notices := [.running q.name operation counted]
  outcome :=
    match adapter.answer operation.method q.body params with
    | .ok result =>
      match operation.outcome result with
      | .ok v => .ok v
      | .error e => .error (.uncountableRows e)
    | .error failure => .error (.adapterFailed failure)

/-- A script takes no parameters, and it is announced before its method is looked up. -/
def runScript (adapter : Adapter) (q : Query) : Run :=
  if adapter.offers .executeScript then send adapter .script q [] none
  else
    { notices := [.running q.name .script none]
      outcome := .error (.missingMethod .executeScript) }

def runWithParams (r : Runner) (adapter : Adapter) (operation : Operation) (q : Query)
    (args : Arguments) : Run :=
  if adapter.offers operation.method then
    match args.resolve q.params r.options.strict with
    | .error missing => .refused (.missingValue missing)
    | .ok params => send adapter operation q params (some params.length)
  else .refused (.missingMethod operation.method)

def execute (r : Runner) (q : Query) (args : Arguments) : Run :=
  match r.adapter with
  | none => .refused .noAdapter
  | some adapter =>
    match Operation.ofValue? q.operation with
    | none => .refused (.unsupportedOperation q.operation)
    | some .script => runScript adapter q
    | some operation => r.runWithParams adapter operation q args

/-- Keywords that a direct call binds itself. -/
def boundKeywords : List String :=
  ["self", "query"]

def call (r : Runner) (q : Query) (args : Arguments) : Run :=
  match args.keyword.find? fun entry => boundKeywords.contains entry.1 with
  | some (keyword, _) => .refused (.boundKeyword keyword)
  | none => r.execute q args

end Runner

end QueryBook
