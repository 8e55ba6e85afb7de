import QueryBook.Compile
import QueryBook.Runner

/-!
# Sessions

A session is a row of steps over any number of runners.  It compiles catalogs, makes adapters
and runners, registers the one with the other, and runs queries directly or through bound
functions.

Runners are numbered in the order they are made, and the first is the default runner that
exists from the start.  A label may be used again, in which case it names the newest runner,
while functions bound to an older one go on using that.

Bound functions are numbered too, in the order they are bound, and can be called by their
numbers ever after.  A function keeps its query and its runner; the adapter is the one that the
runner has when the function is called.  Besides its number a function has the name of its
query, which a function bound later takes over.  Binding a whole catalog leaves no names but
those of its queries, and none at all if there is no runner to bind it to.
-/

namespace QueryBook

/-- A function that runs one query on one runner. -/
structure Bound where
  runner : Nat
  query : Query

inductive Target where
  | named (name : String)
  | given (q : Query)

structure Session where
  catalog : Catalog := .empty
  adapters : List (String × Adapter) := []
  runners : List Runner := [{}]
  labels : List (String × Nat) := []
  functions : List Bound := []
  names : List (String × Nat) := []

namespace Session

inductive Step where
  | compile (policy : Option Value) (warn : Option Bool) (text : String)
  | adapter (adapter : Adapter)
  | runner (label : String) (adapter : Option String) (options : RunOptions)
  | register (label : String) (adapter : Option String)
  | adapterOf (label : String)
  | execute (label : String) (target : Target) (args : Arguments)
  | call (label : String) (target : Target) (args : Arguments)
  | bind (label : String) (target : Target)
  | bindAll (label : String)
  | callBound (name : String) (args : Arguments)
  | callFunction (number : Nat) (args : Arguments)

inductive Reply where
  | done
  | names (names : List String)
  | options (options : RunOptions)
  | label (label : Option String)
  | value (v : Value)
  | bound (q : Query)

inductive StepError where
  | compile (e : CompileError)
  | options (e : OptionError)
  /-- No query, adapter, runner or function has this name. -/
  | unknownKey (key : String)
  | run (e : RunError)

/-- What a step shows: the calls it made, the notices, and its reply. -/
structure Entry where
  calls : List Call := []
  notices : List Notice := []
  outcome : Except StepError Reply

namespace Entry

def ok (reply : Reply) : Entry where
  outcome := .ok reply

def failed (e : StepError) : Entry where
  outcome := .error e

def ofRun (run : Run) : Entry where
  calls := run.calls
  notices := run.notices
  outcome :=
    match run.outcome with
    | .ok v => .ok (.value v)
    | .error e => .error (.run e)

end Entry

def defaultLabel : String :=
  "default"

def runnerId? (s : Session) (label : String) : Option Nat :=
  if label = defaultLabel then some 0 else s.labels.lookup label

def runner? (s : Session) (id : Nat) : Option Runner :=
  s.runners[id]?

/-- The adapter that a step names: none for no label, and a failure for an unknown one. -/
def adapterFor (s : Session) : Option String → Except StepError (Option Adapter)
  | none => .ok none
  | some label =>
    match s.adapters.lookup label with
    | some adapter => .ok (some adapter)
    | none => .error (.unknownKey label)

def queryFor (s : Session) : Target → Except StepError Query
  | .given q => .ok q
  | .named name =>
    match s.catalog.find? name with
    | some q => .ok q
    | none => .error (.unknownKey name)

/-- Puts an entry in front, so that a look-up finds the newest. -/
def bindName {α : Type} (name : String) (a : α) (table : List (String × α)) :
    List (String × α) :=
  (name, a) :: table

def compileStep (s : Session) (policy : Option Value) (warn : Option Bool) (text : String) :
    Session × Entry :=
  match CompileOptions.ofValues policy warn with
  | .error e => (s, .failed (.options e))
  | .ok options =>
    let compiled := Catalog.compile options text
    match compiled.outcome with
    | .error e => (s, { notices := compiled.notices, outcome := .error (.compile e) })
    | .ok catalog =>
      ({ s with catalog := catalog },
        { notices := compiled.notices, outcome := .ok (.names catalog.names) })

def runnerStep (s : Session) (label : String) (adapter : Option String)
    (options : RunOptions) : Session × Entry :=
  match s.adapterFor adapter with
  | .error e => (s, .failed e)
  | .ok adapter =>
    ({ s with
        runners := s.runners ++ [⟨adapter, options⟩]
        labels := bindName label s.runners.length s.labels },
      .ok (.options options))

def registerStep (s : Session) (label : String) (adapter : Option String) :
    Session × Entry :=
  match s.runnerId? label, s.adapterFor adapter with
  | some id, .ok adapter =>
    ({ s with runners := s.runners.modify id fun r => { r with adapter := adapter } },
      .ok .done)
  | some _, .error e => (s, .failed e)
  | none, _ => (s, .failed (.unknownKey label))

/-- Finds the query and the runner of a step.  An unknown query is complained of first. -/
def locate (s : Session) (label : String) (target : Target) :
    Except StepError (Nat × Query) :=
  match s.queryFor target, s.runnerId? label with
  | .ok q, some id => .ok (id, q)
  | .error e, _ => .error e
  | .ok _, none => .error (.unknownKey label)

/-- Finds the runner and the query of a direct call, which is a use of the runner: an unknown
runner is complained of first. -/
def locateCall (s : Session) (label : String) (target : Target) :
    Except StepError (Nat × Query) :=
  match s.runnerId? label with
  | some _ => s.locate label target
  | none => .error (.unknownKey label)

/-- Uses a runner that is known by its number. -/
def useRunner (s : Session) (id : Nat) (use : Runner → Run) : Entry :=
  match s.runner? id with
  | some r => .ofRun (use r)
  | none => .failed (.unknownKey defaultLabel)

/-- Calls the function of a number. -/
def useFunction (s : Session) (number : Nat) (args : Arguments) : Entry :=
  match s.functions[number]? with
  | some bound => s.useRunner bound.runner fun r => r.call bound.query args
  | none => .failed (.unknownKey (String.ofList (Text.decimal number)))

def bindQuery (s : Session) (id : Nat) (q : Query) : Session :=
  { s with
    functions := s.functions ++ [⟨id, q⟩]
    names := bindName q.name s.functions.length s.names }

def step (s : Session) : Step → Session × Entry
  | .compile policy warn text => s.compileStep policy warn text
  | .adapter adapter =>
    ({ s with adapters := bindName adapter.label adapter s.adapters }, .ok .done)
  | .runner label adapter options => s.runnerStep label adapter options
  | .register label adapter => s.registerStep label adapter
  | .adapterOf label =>
    match (s.runnerId? label).bind s.runner? with
    | some r => (s, .ok (.label (r.adapter.map Adapter.label)))
    | none => (s, .failed (.unknownKey label))
  | .execute label target args =>
    match s.locate label target with
    | .ok (id, q) => (s, s.useRunner id fun r => r.execute q args)
    | .error e => (s, .failed e)
  | .call label target args =>
    match s.locateCall label target with
    | .ok (id, q) => (s, s.useRunner id fun r => r.call q args)
    | .error e => (s, .failed e)
  | .bind label target =>
    match s.locate label target with
    | .ok (id, q) => (s.bindQuery id q, .ok (.bound q))
    | .error e => (s, .failed e)
  | .bindAll label =>
    match s.runnerId? label with
    | some id =>
      (s.catalog.queries.foldl (fun s q => s.bindQuery id q) { s with names := [] },
        .ok (.names s.catalog.names))
    | none => ({ s with names := [] }, .failed (.unknownKey label))
  | .callBound name args =>
    match s.names.lookup name with
    | some number => (s, s.useFunction number args)
    | none => (s, .failed (.unknownKey name))
  | .callFunction number args => (s, s.useFunction number args)

def run : Session → List Step → List Entry
  | _, [] => []
  | s, step :: rest =>
    let (s, entry) := s.step step
    entry :: run s rest

end Session

end QueryBook
