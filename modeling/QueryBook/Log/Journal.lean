import QueryBook.Log.Record

/-!
# The journal

All loggers of the library lie below one root logger, and the journal is the state of that
root: its level, the handlers that print, and whether records go on to what lies above it.
Configuring it sets the level and puts one handler in place of all others.  A record is made
when its level is at least the one in force; a record made for a logger below the root is
then printed by each handler, unless its message cannot be put together.

What lies below the root is read off the names: the name of a logger in a branch is the root's
with a dot and anything at all behind it, as the hierarchy of loggers is documented.  A host that
finds the parent of a logger by cutting names at single dots parts with this for a name with two
dots behind the root's, such as that of the logger `.x`, whose records it does not print.

What is printed goes to an output that takes every code point, lone surrogates included.  An
output that has to encode them would print nothing in place of a plain line that holds one; a
JSON line holds none in any case.
-/

namespace QueryBook.Log

inductive Style where
  | json
  | plain
  deriving DecidableEq

namespace Style

def label : Style → String
  | json => "QueryLogFormatter"
  | plain => "Formatter"

def line (style : Style) (r : Record) : Except RecordError Message :=
  match style with
  | json => (r.jsonLine none).map fun line => .ofChars line.toList
  | plain => r.plainLine

end Style

/-- What prints records in a style.  Handlers are numbered in the order they are made. -/
structure Handler where
  number : Nat
  style : Style
  deriving DecidableEq

structure Journal where
  level : Int := 0
  installed : List Handler := []
  propagate : Bool := true
  /-- So many handlers have been made. -/
  made : Nat := 0
  deriving DecidableEq

/-- The full name of a logger: a name that does not begin like the root logger's is put below
it. -/
def loggerName : Option String → String
  | none => Notice.rootLogger
  | some name =>
    if Notice.rootLogger.toList.isPrefixOf name.toList then name
    else Notice.rootLogger ++ "." ++ name

/-- The root logger itself or a logger in one of its branches. -/
def isBelowRoot (logger : String) : Bool :=
  logger = Notice.rootLogger || (Notice.rootLogger ++ ".").toList.isPrefixOf logger.toList

/-- Names of the attributes that every record has, and two that formatting adds. -/
def reservedAttributes : List String :=
  ["name", "msg", "args", "levelname", "levelno", "pathname", "filename", "module",
    "exc_info", "exc_text", "stack_info", "lineno", "funcName", "created", "msecs",
    "relativeCreated", "thread", "threadName", "processName", "process", "message",
    "asctime"]

structure AttributeClash where
  key : String
  deriving DecidableEq

def AttributeClash.text (e : AttributeClash) : List Char :=
  Text.quoted ("Attempt to overwrite ".toList ++ Text.quoted e.key.toList ++
    " in LogRecord".toList)

namespace Journal

/-- The styles of the handlers that are installed. -/
def handlers (j : Journal) : List Style :=
  j.installed.map Handler.style

/-! ## Configuring -/

/-- A row of changes to a journal.  Where one of them fails, those before it stay done. -/
abbrev Change :=
  ExceptT LevelError (StateM Journal)

/-- What a row of changes ends with, and the journal that it leaves. -/
def Change.run {α : Type} (change : Change α) (j : Journal) : Except LevelError α × Journal :=
  StateT.run (ExceptT.run change) j

def setLevel (known : KnownName) : Change Unit := do
  let level ← known.asLevel
  modify fun j => { j with level := level }

def clearHandlers : Change Unit :=
  modify fun j => { j with installed := [] }

def makeHandler (style : Style) : Change Handler := do
  let j ← get
  set { j with made := j.made + 1 }
  pure ⟨j.made, style⟩

/-- Installs a handler behind the others, unless it is there already. -/
def addHandler (handler : Handler) : Change Unit :=
  modify fun j =>
    if handler ∈ j.installed then j else { j with installed := j.installed ++ [handler] }

def stopPropagation : Change Unit :=
  modify fun j => { j with propagate := false }

/-- Sets the level of that name and puts a new handler in place of all others. -/
def configure (name : String) (style : Style) : Change Handler := do
  let known ← findName name
  setLevel known
  clearHandlers
  let handler ← makeHandler style
  addHandler handler
  stopPropagation
  pure handler

/-! ## Printing -/

def effectiveLevel (j : Journal) (logger : String) : Int :=
  if isBelowRoot logger && j.level != 0 then j.level else defaultLevel

def isEnabled (j : Journal) (logger : String) (level : Int) : Bool :=
  0 < level && j.effectiveLevel logger ≤ level

def printed (r : Record) (style : Style) : List Message :=
  match style.line r with
  | .ok line => line.rows
  | .error _ => []

def output (j : Journal) (r : Record) : List Message :=
  if isBelowRoot r.logger then j.handlers.flatMap (printed r) else []

def log (j : Journal) (r : Record) : Except AttributeClash (List Message) :=
  if j.isEnabled r.logger r.level then
    match r.fields.find? fun field => reservedAttributes.contains field.1 with
    | some (key, _) => .error ⟨key⟩
    | none => .ok (j.output r)
  else .ok []

def note (j : Journal) (notices : List Notice) : List Message :=
  notices.flatMap fun notice =>
    match j.log (.ofNotice notice) with
    | .ok lines => lines
    | .error _ => []

end Journal

end QueryBook.Log
