import QueryBook.Value.Display

/-!
# Options

Two records of options, one for compiling and one for running.  The policy for redefined
names may be given as any value and is accepted only as one of its two labels.
-/

namespace QueryBook

inductive DuplicatePolicy where
  | overwrite
  | error
  deriving DecidableEq

namespace DuplicatePolicy

def label : DuplicatePolicy → String
  | overwrite => "overwrite"
  | error => "error"

def ofValue? : Value → Option DuplicatePolicy
  | .text s =>
    if s = overwrite.label then some overwrite
    else if s = error.label then some error
    else none
  | _ => none

end DuplicatePolicy

structure CompileOptions where
  onDuplicate : DuplicatePolicy := .overwrite
  warnNonAscii : Bool := true
  deriving DecidableEq

structure RunOptions where
  strict : Bool := true
  deriving DecidableEq

inductive OptionError where
  | unknownPolicy (given : Value)

namespace CompileOptions

/-- The same options but for those that are given. -/
def replace (options : CompileOptions) (policy : Option Value) (warn : Option Bool) :
    Except OptionError CompileOptions :=
  let warnNonAscii := warn.getD options.warnNonAscii
  match policy with
  | none => .ok ⟨options.onDuplicate, warnNonAscii⟩
  | some given =>
    match DuplicatePolicy.ofValue? given with
    | some onDuplicate => .ok ⟨onDuplicate, warnNonAscii⟩
    | none => .error (.unknownPolicy given)

/-- The defaults but for the options that are given. -/
def ofValues (policy : Option Value) (warn : Option Bool) :
    Except OptionError CompileOptions :=
  replace {} policy warn

def display (options : CompileOptions) : List Char :=
  "CompilerConfig(on_duplicate=".toList ++
    (Value.text options.onDuplicate.label).display ++ ", warn_non_ascii=".toList ++
    (Value.bool options.warnNonAscii).display ++ [')']

end CompileOptions

namespace RunOptions

def display (options : RunOptions) : List Char :=
  "ExecutorConfig(strict_parameters=".toList ++ (Value.bool options.strict).display ++ [')']

end RunOptions

def assignmentRefusal (field : String) : String :=
  String.ofList ("cannot assign to field ".toList ++ Text.quoted field.toList)

end QueryBook
