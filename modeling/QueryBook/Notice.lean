import QueryBook.Options

/-!
# Notices

What the library reports while it works.  A notice has a level, the name of the logger it
goes to, a message, and fields that repeat its data for machines.  Work that can fail returns
its notices beside its outcome, so the notices made before a failure are kept.
-/

namespace QueryBook

inductive Notice where
  | nonAsciiName (name : String)
  | redefined (name : String)
  | shadowed (name : String)
  | compiled (count : Nat)
  /-- A query goes to its adapter; the parameters are counted unless it is a script. -/
  | running (name : String) (operation : Operation) (parameters : Option Nat)
  | loaded (forCompiling : CompileOptions) (forRunning : RunOptions)
  deriving DecidableEq

namespace Notice

def rootLogger : String :=
  "sqltags"

/-- Warnings have level 30 and reports for tracing level 10. -/
def level : Notice → Int
  | nonAsciiName _ | redefined _ | shadowed _ => 30
  | compiled _ | running _ _ _ | loaded _ _ => 10

def logger : Notice → String
  | nonAsciiName _ | redefined _ | shadowed _ | compiled _ => "sqltags.compiler"
  | running _ _ _ => "sqltags.executor"
  | loaded _ _ => "sqltags.config"

def text : Notice → List Char
  | nonAsciiName name => "non ASCII character in query name: ".toList ++ name.toList
  | redefined name =>
    "query ".toList ++ name.toList ++
      " is defined more than once, keeping the last definition".toList
  | shadowed name =>
    "query ".toList ++ name.toList ++ " is shadowed by QuerySet.".toList ++ name.toList ++
      ", use queries[".toList ++ Text.quoted name.toList ++ "] to reach it".toList
  | compiled count => "compiled ".toList ++ Text.decimal count ++ " queries".toList
  | running name _ _ => "executing ".toList ++ name.toList
  | loaded forCompiling forRunning =>
    "Loaded configuration from environment: ".toList ++ forCompiling.display ++ [',', ' '] ++
      forRunning.display

def message (notice : Notice) : String :=
  String.ofList notice.text

def fields : Notice → List (String × Value)
  | nonAsciiName name | redefined name | shadowed name => [("query", .text name)]
  | compiled count => [("query_count", .int count)]
  | running name operation parameters =>
    ("query", .text name) :: ("operation", .text operation.label) ::
      (parameters.map fun count => ("parameter_count", .int count)).toList
  | loaded _ _ => []

end Notice

structure Noted (ε α : Type) where
  notices : List Notice
  outcome : Except ε α

end QueryBook
