import QueryBook.CompileError
import QueryBook.Options
import QueryBook.Text.Space

/-!
# Problems

A problem is reported with a label, some words and a detail.  The words come from the
arguments it was made with, of which those that count as absent are passed over.  The
detail is given by name, or else is the first of the words, or else comes with the kind of
problem.  Most kinds put a sentence together themselves and hand it on as their detail.

The words are put together when a problem is raised.  If they show a number that is too long
for the host to write, the host's own complaint is raised in place of the problem.
-/

namespace QueryBook

structure Problem where
  label : String
  words : List String
  detail : String
  deriving DecidableEq

namespace Problem

def wordsOf (args : List Value) : List String :=
  (args.filter Value.isPresent).map fun v => String.ofList v.plain

/-- Made from arguments, a detail that may be empty, and the detail that the kind of
problem brings along, if any. -/
def ofArguments (label : String) (classDetail : Option String) (args : List Value)
    (detail : String) : Problem :=
  let words := wordsOf args
  if detail ≠ "" then ⟨label, words, detail⟩
  else
    match words with
    | first :: rest => ⟨label, rest, first⟩
    | [] => ⟨label, [], classDetail.getD ""⟩

def text (p : Problem) : List Char :=
  Text.trim ((p.words ++ [p.detail]).map String.toList |>.intersperse [' '] |>.flatten)

def message (p : Problem) : String :=
  String.ofList p.text

def summary (p : Problem) : String :=
  if p.detail = "" then p.label else p.label ++ " - " ++ p.detail

inductive Kind where
  | general
  | improperConfiguration
  | invalidName
  | duplicateName
  | noAdapter
  | unsupportedOperation
  | missingParameter
  deriving DecidableEq

namespace Kind

def all : List Kind :=
  [general, improperConfiguration, invalidName, duplicateName, noAdapter,
    unsupportedOperation, missingParameter]

def label : Kind → String
  | general => "SQLTagsError"
  | improperConfiguration => "ImproperConfigurationError"
  | invalidName => "QueryNameError"
  | duplicateName => "DuplicateQueryError"
  | noAdapter => "AdapterNotRegisteredError"
  | unsupportedOperation => "UnsupportedOperationError"
  | missingParameter => "MissingParameterError"

def ofLabel? (label : String) : Option Kind :=
  all.find? fun kind => kind.label = label

/-- Problems with a name can also be caught as problems with names in general. -/
def isNameProblem (kind : Kind) : Bool :=
  kind = invalidName

def invalidNameText (name : Value) : List Char :=
  "Invalid query name: ".toList ++ name.display

def duplicateNameText (name : Value) : List Char :=
  "Query ".toList ++ name.display ++ " is defined more than once".toList

def noAdapterText : List Char :=
  "Missing adapter, call Executor.register_adapter() first.".toList

def unsupportedOperationText (operation : Value) : List Char :=
  "Operation not supported: ".toList ++ operation.display

/-- The arguments that are handed on when a problem of this kind is made from the given
ones.  A kind that puts its own sentence together takes one argument. -/
def handedOn : Kind → List Value → List Value
  | invalidName, name :: _ => [.text (String.ofList (invalidNameText name))]
  | duplicateName, name :: _ => [.text (String.ofList (duplicateNameText name))]
  | unsupportedOperation, operation :: _ =>
    [.text (String.ofList (unsupportedOperationText operation))]
  | noAdapter, [] => [.text (String.ofList noAdapterText)]
  | noAdapter, .null :: _ => [.text (String.ofList noAdapterText)]
  | _, args => args

/-- A problem of a kind, or of a kind derived from it that has a detail of its own. -/
def make (kind : Kind) (args : List Value) (detail : String) (custom : Option String) :
    Problem :=
  ofArguments (if custom.isSome then "Custom" else kind.label) custom
    (kind.handedOn args) detail

/-- A problem made the usual way, from arguments only. -/
def problem (kind : Kind) (args : List Value) : Problem :=
  kind.make args "" none

/-- The one argument of a kind that puts its own sentence together. -/
def parameter? : Kind → Option String
  | invalidName | duplicateName => some "name"
  | unsupportedOperation => some "operation"
  | noAdapter => some "message"
  | _ => none

/-- Whether the one argument may be left out. -/
def parameterIsOptional (kind : Kind) : Bool :=
  kind = noAdapter

end Kind

inductive ArgumentError where
  | missing (kind : Kind) (parameter : String)
  | surplus (kind : Kind) (given : Nat)
  | unexpectedDetail (kind : Kind)
  deriving DecidableEq

/-- The count of arguments includes the problem itself. -/
def ArgumentError.message : ArgumentError → String
  | missing kind parameter =>
    kind.label ++ ".__init__() missing 1 required positional argument: '" ++ parameter ++ "'"
  | surplus kind given =>
    kind.label ++ ".__init__() takes " ++
      (if kind.parameterIsOptional then "from 1 to 2" else "2") ++
      " positional arguments but " ++ String.ofList (Text.decimal (given + 1)) ++ " were given"
  | unexpectedDetail kind =>
    kind.label ++ ".__init__() got an unexpected keyword argument 'detail'"

namespace Kind

/-- Why a problem of this kind cannot be made from so many arguments. -/
def refusal? (kind : Kind) (given : Nat) (withDetail : Bool) : Option ArgumentError :=
  match kind.parameter? with
  | none => none
  | some parameter =>
    if withDetail then some (.unexpectedDetail kind)
    else if 1 < given then some (.surplus kind given)
    else if given = 0 ∧ !kind.parameterIsOptional then some (.missing kind parameter)
    else none

/-- A problem of a kind, if it can be made from these arguments. -/
def make? (kind : Kind) (args : List Value) (detail custom : Option String) :
    Except ArgumentError Problem :=
  match kind.refusal? args.length detail.isSome with
  | some e => .error e
  | none => .ok (kind.make args (detail.getD "") custom)

end Kind

end Problem

/-- The host's complaint about a whole number of more digits than it writes. -/
structure NumberTooLong where
  digits : Nat
  deriving DecidableEq

def NumberTooLong.message (e : NumberTooLong) : String :=
  "Exceeds the limit (" ++ String.ofList (Text.decimal e.digits) ++
    " digits) for integer string conversion; use sys.set_int_max_str_digits() to increase the limit"

/-- What is raised for an error that shows some values: the error itself, unless the host has a
limit on digits and one of the values is beyond it. -/
def Problem.raised {ε : Type} (limit : Option Nat) (shown : List Value) (e : ε) :
    Except NumberTooLong ε :=
  match limit with
  | none => .ok e
  | some digits => if shown.all (Value.fits digits) then .ok e else .error ⟨digits⟩

def CompileError.problem : CompileError → Problem
  | invalidName name => Problem.Kind.invalidName.problem [.text name]
  | duplicateName name => Problem.Kind.duplicateName.problem [.text name]

def OptionError.text : OptionError → List Char
  | unknownPolicy given =>
    "on_duplicate must be one of ('overwrite', 'error'), got ".toList ++ given.display

def OptionError.shown : OptionError → List Value
  | unknownPolicy given => [given]

def OptionError.raised (e : OptionError) (limit : Option Nat) : Except NumberTooLong OptionError :=
  Problem.raised limit e.shown e

def OptionError.problem (e : OptionError) : Problem :=
  Problem.Kind.improperConfiguration.problem [.text (String.ofList e.text)]

end QueryBook
