import QueryBook.Environment
import QueryBook.Log.Journal
import QueryBook.Session

/-!
# Logging sessions

A row of steps over one journal.  Besides configuring it and logging by hand, a step can let
the library work, whose notices are then printed as the journal stands.
-/

namespace QueryBook.Log

namespace Journal

inductive Step where
  | configure (level : String) (style : Style)
  | state
  | log (r : Record)
  | compile (policy : Option Value) (warn : Option Bool) (text : String)
  /-- A run on an adapter that gives back its parameters. -/
  | execute (q : Query) (args : Arguments)
  | load (env : Environment)

inductive Reply where
  | done
  | state (j : Journal)
  | names (names : List String)
  | value (v : Value)

inductive StepError where
  | level (e : LevelError)
  | clash (e : AttributeClash)
  | compile (e : CompileError)
  | options (e : OptionError)
  | run (e : RunError)

structure Entry where
  output : List Message := []
  outcome : Except StepError Reply

def echoRunner : Runner where
  adapter := some (Adapter.echo "echo")

def step (j : Journal) : Step → Journal × Entry
  | .configure level style =>
    match (configure level style).run j with
    | (.ok _, j) => (j, { outcome := .ok (.state j) })
    | (.error e, j) => (j, { outcome := .error (.level e) })
  | .state => (j, { outcome := .ok (.state j) })
  | .log r =>
    match j.log r with
    | .ok lines => (j, { output := lines, outcome := .ok .done })
    | .error e => (j, { outcome := .error (.clash e) })
  | .compile policy warn text =>
    match CompileOptions.ofValues policy warn with
    | .error e => (j, { outcome := .error (.options e) })
    | .ok options =>
      let compiled := Catalog.compile options text
      let outcome :=
        match compiled.outcome with
        | .ok catalog => .ok (.names catalog.names)
        | .error e => .error (.compile e)
      (j, { output := j.note compiled.notices, outcome := outcome })
  | .execute q args =>
    let run := echoRunner.execute q args
    let outcome :=
      match run.outcome with
      | .ok v => .ok (.value v)
      | .error e => .error (.run e)
    (j, { output := j.note run.notices, outcome := outcome })
  | .load env =>
    let loaded := env.load
    let outcome :=
      match loaded.outcome with
      | .ok _ => .ok .done
      | .error e => .error (.options e)
    (j, { output := j.note loaded.notices, outcome := outcome })

def run : Journal → List Step → List Entry
  | _, [] => []
  | j, step :: rest =>
    let (j, entry) := j.step step
    entry :: run j rest

end Journal

end QueryBook.Log
