import QueryBook.Log.Directive
import QueryBook.Text.Space

/-!
# Places in a source

An error of the grammar may tell of the place where it was found: a file, a line of it, the
column where the place begins, the text of the line, and the column where it ends.  Columns
are counted from one.  The place is shown by a line that names file and line, by the text
without the space in front of it, and by carets below the columns.

Any value may stand for any part of a place.  One that cannot play its part lets the place be
made, but not be shown.
-/

namespace QueryBook.Log

structure SourcePlace where
  file : Value
  line : Value
  column : Value
  text : Value
  endColumn : Value

namespace SourcePlace

inductive ReadError where
  | notIterable (kind : String)
  | tooFewParts (given : Nat)
  | tooManyParts (given : Nat)
  | noEndColumn
  | tooLong
  | noRoom
  deriving DecidableEq

def ReadError.message : ReadError → String
  | notIterable kind => "'" ++ kind ++ "' object is not iterable"
  | tooFewParts given =>
    "function takes at least 4 arguments (" ++ String.ofList (Text.decimal given) ++ " given)"
  | tooManyParts given =>
    "function takes at most 6 arguments (" ++ String.ofList (Text.decimal given) ++ " given)"
  | noEndColumn => "end_offset must be provided when end_lineno is provided"
  | tooLong => "Python int too large to convert to C ssize_t"
  | noRoom => ""

/-- From this length on there is no room for the parts of a value.  This stands for the memory of
the host, which is taken to hold fewer references than that. -/
def partLimit : Int :=
  Nat.pow 2 34

/-- The parts of a value that are the parts of a place, and how many there are in all. -/
def parts? (v : Value) : Except ReadError (List Value × Nat) :=
  let all (parts : List Value) : Except ReadError (List Value × Nat) := .ok (parts, parts.length)
  match v with
  | .list items | .tuple items | .set items => all items
  | .text s => all (s.toList.map fun c => .text (String.ofList [c]))
  | .bytes content | .byteArray content => all (content.map fun b => .int b.toNat)
  | .dictionary entries => all (entries.map fun entry => .text entry.1)
  | .range bound =>
    if Nat.pow 2 63 ≤ bound then .error .tooLong
    else if partLimit ≤ bound then .error .noRoom
    else .ok ((List.range (min bound.toNat 6)).map fun i : Nat => .int i, bound.toNat)
  | v => .error (.notIterable v.kindName)

/-- The place that a value names.  The line where it ends has to come with the column. -/
def ofValue? (v : Value) : Except ReadError SourcePlace :=
  match parts? v with
  | .error e => .error e
  | .ok (parts, count) =>
    match parts with
    | [file, line, column, text] => .ok ⟨file, line, column, text, .null⟩
    | [_, _, _, _, _] => .error .noEndColumn
    | [file, line, column, text, _, endColumn] =>
      if count = 6 then .ok ⟨file, line, column, text, endColumn⟩
      else .error (.tooManyParts count)
    | _ => .error (if count < 4 then .tooFewParts count else .tooManyParts count)

inductive ShowError where
  | noText (kind : String)
  | bytesForText
  | unhashable (kind : String)
  | noSum (kind : String)
  | noDifference (kind : String)
  | noIndex
  | noCount
  | numberTooLarge
  | countTooLarge
  | noRoom
  deriving DecidableEq

/-- Kinds that can be added to their like only. -/
def isJoined (kind : String) : Bool :=
  kind = "str" || kind = "list" || kind = "tuple"

namespace ShowError

def text : ShowError → List Char
  | noText kind => '\'' :: kind.toList ++ "' object has no attribute 'rstrip'".toList
  | bytesForText => "a bytes-like object is required, not 'str'".toList
  | unhashable kind => "unhashable type: '".toList ++ kind.toList ++ ['\'']
  | noSum kind =>
    if isJoined kind then
      "can only concatenate ".toList ++ kind.toList ++ " (not \"int\") to ".toList ++ kind.toList
    else if kind = "bytes" ∨ kind = "bytearray" then "can't concat int to ".toList ++ kind.toList
    else "unsupported operand type(s) for +: '".toList ++ kind.toList ++ "' and 'int'".toList
  | noDifference kind =>
    "unsupported operand type(s) for -: '".toList ++ kind.toList ++ "' and 'int'".toList
  | noIndex => "slice indices must be integers or None or have an __index__ method".toList
  | noCount => "can't multiply sequence by non-int of type 'float'".toList
  | numberTooLarge => "int too large to convert to float".toList
  | countTooLarge => "cannot fit 'int' into an index-sized integer".toList
  | noRoom => []

end ShowError

mutual

/-- The kind of the first part of a value that may change, and so cannot be looked up. -/
def unhashable? : Value → Option String
  | .tuple items => unhashableAmong? items
  | .query _ operation _ _ _ => unhashable? operation
  | .list _ => some "list"
  | .dictionary _ => some "dict"
  | .byteArray _ => some "bytearray"
  | .set _ => some "set"
  | _ => none
termination_by structural v => v

def unhashableAmong? : List Value → Option String
  | [] => none
  | v :: rest =>
    match unhashable? v with
    | some kind => some kind
    | none => unhashableAmong? rest
termination_by structural vs => vs

end

/-- The end of the place, if it is given and not zero.  It is looked up among the values that
stand for none; a set can be looked up by itself. -/
def end? (p : SourcePlace) : Except ShowError (Option Value) :=
  match p.endColumn with
  | .null => .ok none
  | .set items => .ok (some (.set items))
  | v =>
    match unhashable? v with
    | some kind => .error (.unhashable kind)
    | none => .ok (if v.equal (.int 0) then none else some v)

def isNumber (v : Value) : Bool :=
  match v with
  | .float _ => true
  | v => (integer? v).isSome

/-- Whether the place is a single column: it has no end, ends where it begins, or ends at the
column before the first. -/
def isSingle (column : Value) : Option Value → Bool
  | none => true
  | some v => column.equal v || v.equal (.int (-1))

def carets (shown : List Char) (before : Nat) (count : Int) : Except ShowError (List Char) :=
  if count < -Nat.pow 2 63 ∨ Nat.pow 2 63 ≤ count then .error .countTooLarge
  else if Form.roomLimit ≤ count then .error .noRoom
  else
    .ok ("    ".toList ++
      (shown.take before).map (fun c => if Text.isSpace c then c else ' ') ++
      List.replicate count.toNat '^' ++ ['\n'])

def caretsFrom (shown : List Char) (spaces : Nat) (column : Int) (last? : Option Value) :
    Except ShowError (List Char) :=
  let before := column - 1 - spaces
  if before < 0 then .ok []
  else
    match last? with
    | none => carets shown before.toNat 1
    | some last =>
      match integer? last, realNumber (.int before) with
      | some last, _ => carets shown before.toNat (last - column)
      | none, .error _ => .error .numberTooLarge
      | none, .ok _ => .error .noCount

/-- A column that is not whole marks nothing, and it may do so in front of the text only. -/
def caretsFromReal (spaces : Nat) : Floating → Except ShowError (List Char)
  | .finite d => if spaces + 1 ≤ d.binary.floor then .error .noIndex else .ok []
  | .infinite negative => if negative then .ok [] else .error .noIndex
  | .nan => .ok []

/-- The line of carets below a text from which spaces were taken. -/
def caretLine (p : SourcePlace) (spaces : Nat) (shown : List Char) :
    Except ShowError (List Char) :=
  match p.column with
  | .null => .ok []
  | column =>
    match p.end? with
    | .error e => .error e
    | .ok last? =>
      let single := isSingle column last?
      let last? := if single then none else last?
      if !isNumber column then
        .error (if single then .noSum column.kindName else .noDifference column.kindName)
      else if (last?.map isNumber).getD true then
        match column, integer? column with
        | _, some n => caretsFrom shown spaces n last?
        | .float x, none => caretsFromReal spaces x
        | _, none => .ok []
      else .error (.noDifference (last?.elim "" Value.kindName))

def isIndent (c : Char) : Bool :=
  c = ' ' || c = '\n' || c = Char.ofNat 12

/-- The text of the line without line breaks at its end and without its indentation. -/
def textLines (p : SourcePlace) : Except ShowError (List Char) :=
  match p.text with
  | .null => .ok []
  | .text s =>
    let whole := (s.toList.reverse.dropWhile (· = '\n')).reverse
    let shown := whole.dropWhile isIndent
    (p.caretLine (whole.length - shown.length) shown).map fun carets =>
      "    ".toList ++ shown ++ '\n' :: carets
  | .bytes _ | .byteArray _ => .error .bytesForText
  | v => .error (.noText v.kindName)

def heading (p : SourcePlace) : List Char :=
  match p.line with
  | .null => []
  | line =>
    "  File \"".toList ++ (if p.file.isPresent then p.file.plain else "<string>".toList) ++
      "\", line ".toList ++ line.plain ++ ['\n']

def lines (p : SourcePlace) : Except ShowError (List Char) :=
  p.textLines.map fun text => p.heading ++ text

/-- What stands behind the message: a file without a line. -/
def remark (p : SourcePlace) : List Char :=
  match p.line, p.file with
  | .null, .null => []
  | .null, file => " (".toList ++ file.plain ++ [')']
  | _, _ => []

end SourcePlace

end QueryBook.Log
