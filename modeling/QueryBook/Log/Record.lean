import QueryBook.Log.Failure
import QueryBook.Log.Level
import QueryBook.Log.Pattern
import QueryBook.Log.Template
import QueryBook.Notice
import QueryBook.Value.Json

/-!
# Log records

A record has a level, a logger, a message given by a template with arguments, and fields.  It
is written either as one JSON object on one line or as a plain line.  The object has the
fixed members first, then those of the query fields that the record carries, in a fixed
order, and last the exception if there is one.  Below a plain line the exception stands on
rows of its own.

A field with the name of one of the record's own properties takes the place of that property,
whatever its value is; with a value that cannot play the part the record cannot be written.
-/

namespace QueryBook.Log

structure Record where
  level : Int
  logger : String
  template : String
  arguments : List Value := []
  fields : List (String × Value) := []
  failure : Option Failure := none
  seconds : Int := 0
  thousandths : Int := 0

inductive RecordError where
  | clock (e : ClockError)
  | template (e : TemplateError)
  | notCallable (kind : String)
  | noItems (kind : String)
  | outOfRange (kind : String)
  | missingItem (index : Nat)
  | noProperty (kind name : String)
  | place (e : SourcePlace.ShowError)
  | encoding (e : EncodingError)
  deriving DecidableEq

namespace RecordError

def placesOf (kind : String) : List Char :=
  if kind = "str" then "string ".toList
  else if kind = "bytes" then []
  else if kind = "range" then "range object ".toList
  else kind.toList ++ [' ']

def text : RecordError → List Char
  | clock e => e.text
  | template e => e.text
  | notCallable kind => '\'' :: kind.toList ++ "' object is not callable".toList
  | noItems kind => '\'' :: kind.toList ++ "' object is not subscriptable".toList
  | outOfRange kind => placesOf kind ++ "index out of range".toList
  | missingItem index => Text.decimal index
  | noProperty kind name =>
    '\'' :: kind.toList ++ "' object has no attribute '".toList ++ name.toList ++ ['\'']
  | place e => e.text
  | encoding e => e.text

end RecordError

def itemAt (v : Value) (index : Nat) : Except RecordError Value :=
  let at? (items : List Value) : Except RecordError Value :=
    match items[index]? with
    | some item => .ok item
    | none => .error (.outOfRange v.kindName)
  match v with
  | .list items | .tuple items => at? items
  | .text s => at? (s.toList.map fun c => .text (String.ofList [c]))
  | .bytes content | .byteArray content => at? (content.map fun b => .int b.toNat)
  | .range bound => if index < bound then .ok (.int index) else .error (.outOfRange v.kindName)
  | .dictionary _ => .error (.missingItem index)
  | v => .error (.noItems v.kindName)

/-- The line of an exception that is given as a class, the exception and its origin; without
an origin only the absence of an exception can be shown. -/
def lineOfParts (v : Value) : Except RecordError String :=
  match itemAt v 2, itemAt v 1 with
  | .error e, _ | _, .error e => .error e
  | .ok .null, .ok .null => .ok Failure.absentLine
  | .ok .null, .ok value => .error (.noProperty value.kindName "__suppress_context__")
  | .ok origin, _ => .error (.noProperty origin.kindName "tb_frame")

/-- Seconds since the beginning of 1970, a fraction being dropped downwards. -/
def secondsOf : Value → Except ClockError Int
  | .null => .ok 0
  | .float (.finite d) => .ok d.binary.floor
  | .float (.infinite _) => .error .secondsOutOfRange
  | .float .nan => .error .notANumber
  | v =>
    match integer? v with
    | some n => .ok n
    | none => .error (.noWholeNumber v.kindName)

namespace Record

/-- A property of the record, for which a field of its name may stand in. -/
def property (r : Record) (name : String) (own : Value) : Value :=
  (r.fields.lookup name).getD own

def levelShown (r : Record) : Value :=
  r.property "levelname" (.text (levelName r.level))

def loggerShown (r : Record) : Value :=
  r.property "name" (.text r.logger)

def supply (r : Record) : Option Supply :=
  match r.fields.lookup "args" with
  | some v => Supply.ofOperand v
  | none => Supply.ofArguments r.arguments

def message (r : Record) : Except RecordError Message :=
  match r.fields.lookup "getMessage" with
  | some v => .error (.notCallable v.kindName)
  | none =>
    match fill (r.property "msg" (.text r.template)).plain r.supply with
    | .ok message => .ok message
    | .error e => .error (.template e)

def moment (r : Record) : Except ClockError Moment :=
  match secondsOf (r.property "created" (.int r.seconds)) with
  | .ok seconds => Moment.ofSeconds? seconds
  | .error e => .error e

/-- Date and time of day, which a comma and the thousandths of the second follow. -/
def usualPattern : List Char :=
  "%Y-%m-%d %H:%M:%S".toList

/-- The thousandths behind their comma, in three digits at least. -/
def thousandthsShown (r : Record) : Except TemplateError (List Char) :=
  (wholeNumber 'd' (r.property "msecs" (.int r.thousandths))).map fun n =>
    ',' :: Form.placeNumber { flags := ['0'], width := 3 } (n < 0) [] (Text.decimal n.natAbs)

/-- The time of the record, in a pattern unless that is missing or empty. -/
def timestamp (r : Record) (pattern : Option String) : Except RecordError String :=
  match r.moment with
  | .error e => .error (.clock e)
  | .ok moment =>
    match pattern with
    | none | some "" =>
      match moment.format usualPattern, r.thousandthsShown with
      | .error e, _ => .error (.clock e)
      | _, .error e => .error (.template e)
      | .ok time, .ok thousandths => .ok (String.ofList (time ++ thousandths))
    | some pattern =>
      match moment.format pattern.toList with
      | .ok time => .ok (String.ofList time)
      | .error e => .error (.clock e)

/-- Fields that are written, in this order. -/
def queryFields : List String :=
  ["query", "operation", "parameter_count", "query_count"]

def carriedFields (r : Record) : List (String × Json) :=
  queryFields.filterMap fun key => (r.fields.lookup key).map fun v => (key, v.toJson)

def failureLine (r : Record) : Except RecordError (Option String) :=
  match r.fields.lookup "exc_info" with
  | none =>
    match r.failure.map Failure.line with
    | none => .ok none
    | some (.ok line) => .ok (some line)
    | some (.error e) => .error (.place e)
  | some v => if v.isPresent then (lineOfParts v).map some else .ok none

def written (message : Message) : Except RecordError String :=
  match message.text with
  | .ok s => .ok s
  | .error e => .error (.encoding e)

/-- The record as an object; the first part that cannot be shown decides the error.  That the
message has no text is found last, when all parts are there. -/
def toJson (r : Record) (pattern : Option String) : Except RecordError Json := do
  let timestamp ← r.timestamp pattern
  let message ← r.message
  let failure ← r.failureLine
  let text ← written message
  pure (.object
    ([("timestamp", .text timestamp), ("level", r.levelShown.toJson),
        ("logger", r.loggerShown.toJson), ("message", .text text)] ++
      r.carriedFields ++ (failure.map fun line => ("exception", Json.text line)).toList))

def jsonLine (r : Record) (pattern : Option String) : Except RecordError String :=
  (r.toJson pattern).map Json.print

def plainHead (r : Record) (timestamp : String) : List Char :=
  let dash : List Char := [' ', '-', ' ']
  timestamp.toList ++ dash ++ r.loggerShown.plain ++ dash ++ r.levelShown.plain ++ dash

/-- A line with the exception, if there is one, on a new row below it. -/
def withFailure (line : Message) : Option String → Message
  | none => line
  | some failure =>
    let below := if line.getLast? = some (.char '\n') then line else line ++ [.char '\n']
    below ++ .ofChars failure.toList

/-- The record as a plain line, which need not be a text. -/
def plainLine (r : Record) : Except RecordError Message := do
  let message ← r.message
  let timestamp ← r.timestamp none
  let failure ← r.failureLine
  pure (withFailure (.ofChars (r.plainHead timestamp) ++ message) failure)

def ofNotice (notice : Notice) : Record where
  level := notice.level
  logger := notice.logger
  template := notice.message
  fields := notice.fields

end Record

end QueryBook.Log
