import QueryBook.Log.SourcePlace
import QueryBook.Problem

/-!
# Failures

The exception that a record tells of, known by a class and the text that the class makes of
its arguments.  Most classes show a single argument plainly and several as a tuple.  Errors of
the system show a number and a reason, and the general class of them becomes the one that its
number stands for.  Errors of character codes show what could not be converted and where, and
errors of the grammar the place in a source.
-/

namespace QueryBook.Log

/-- The exception a record tells of: a class with the text of the exception, or none where
one was announced. -/
inductive Failure where
  | absent
  | described (className : String) (text : String)
  /-- An error of the grammar with the place where it was found. -/
  | located (place : SourcePlace) (className : String) (text : String)

inductive FailureError where
  | problem (e : Problem.ArgumentError)
  | place (e : SourcePlace.ReadError)
  | wrongCount (maker : String) (takes given : Nat)
  | noText (maker : String) (position : Nat) (kind : String)
  | noBytes (kind : String)
  | noInteger (kind : String)
  | integerTooLarge
  | countTooLarge
  | noSequence
  | emptySequence
  | noException
  | noRoom
  deriving DecidableEq

namespace FailureError

def message : FailureError → String
  | problem e => e.message
  | place e => e.message
  | wrongCount maker takes given =>
    maker ++ " takes exactly " ++ String.ofList (Text.decimal takes) ++ " arguments (" ++
      String.ofList (Text.decimal given) ++ " given)"
  | noText maker position kind =>
    maker ++ "argument " ++ String.ofList (Text.decimal position) ++ " must be str, not " ++ kind
  | noBytes kind => "a bytes-like object is required, not '" ++ kind ++ "'"
  | noInteger kind => "'" ++ kind ++ "' object cannot be interpreted as an integer"
  | integerTooLarge => "Python int too large to convert to C ssize_t"
  | countTooLarge => "cannot fit 'int' into an index-sized integer"
  | noSequence => "second argument (exceptions) must be a sequence"
  | emptySequence => "second argument (exceptions) must be a non-empty sequence"
  | noException => "Item 0 of second argument (exceptions) is not an exception"
  | noRoom => ""

end FailureError

namespace Failure

/-- The text of a plain exception: that of its only argument, which is shown with quotes if
it is a key, or all arguments as a tuple. -/
def plainText (className : String) : List Value → List Char
  | [] => []
  | [v] => if className = "KeyError" then v.display else v.plain
  | args => (Value.tuple args).display

/-! ## Errors of the system -/

def systemNames : List String :=
  ["OSError", "IOError", "EnvironmentError"]

def systemClasses : List (Int × String) :=
  [(1, "PermissionError"), (2, "FileNotFoundError"), (3, "ProcessLookupError"),
    (4, "InterruptedError"), (10, "ChildProcessError"), (11, "BlockingIOError"),
    (13, "PermissionError"), (17, "FileExistsError"), (20, "NotADirectoryError"),
    (21, "IsADirectoryError"), (32, "BrokenPipeError"), (103, "ConnectionAbortedError"),
    (104, "ConnectionResetError"), (108, "BrokenPipeError"), (110, "TimeoutError"),
    (111, "ConnectionRefusedError"), (114, "BlockingIOError"), (115, "BlockingIOError")]

def isSystemClass (className : String) : Bool :=
  systemNames.contains className || className = "ConnectionError" ||
    systemClasses.any fun entry => entry.2 = className

def systemClass (className : String) (code : Value) : String :=
  if systemNames.contains className then
    ((integer? code).bind fun n => systemClasses.lookup n).getD "OSError"
  else className

/-- A file that an error names, unless it is null. -/
def namedFile (v : Option Value) : Option Value :=
  match v with
  | some .null => none
  | v => v

/-- Number, reason, and the one or two files that the error is about. -/
def systemText (code reason : Value) (files : List Value) : List Char :=
  "[Errno ".toList ++ code.plain ++ ']' :: ' ' :: reason.plain ++
    (match files with
      | [] => []
      | [file] => ':' :: ' ' :: file.display
      | file :: second :: _ => ':' :: ' ' :: file.display ++ " -> ".toList ++ second.display)

/-- The files among the arguments behind the reason.  An error about blocking may have a
count of characters in place of the first. -/
def systemFiles (className : String) (more : List Value) : Except FailureError (List Value) :=
  match namedFile more.head?, namedFile more[2]? with
  | none, _ => .ok []
  | some file, second =>
    let files := file :: second.toList
    if className = "BlockingIOError" then
      match file with
      | .bool _ => .ok []
      | .int n => if n < -Nat.pow 2 63 ∨ Nat.pow 2 63 ≤ n then .error .countTooLarge else .ok []
      | .float _ => .error (.noInteger file.kindName)
      | _ => .ok files
    else .ok files

def ofSystem (className : String) (args : List Value) : Except FailureError Failure :=
  match args with
  | code :: reason :: more =>
    if more.length ≤ 3 then
      let className := systemClass className code
      (systemFiles className more).map fun files =>
        described className (String.ofList (systemText code reason files))
    else .ok (described (systemClass className .null) (String.ofList (plainText className args)))
  | _ => .ok (described (systemClass className .null) (String.ofList (plainText className args)))

/-! ## Errors of character codes -/

def textArgument (maker : String) (position : Nat) : Value → Except FailureError String
  | .text s => .ok s
  | .null => .error (.noText maker position "None")
  | v => .error (.noText maker position v.kindName)

def indexArgument (v : Value) : Except FailureError Int :=
  match integer? v with
  | some n => if n < -Nat.pow 2 63 ∨ Nat.pow 2 63 ≤ n then .error .integerTooLarge else .ok n
  | none => .error (.noInteger v.kindName)

def bytesArgument : Value → Except FailureError (List UInt8)
  | .bytes content | .byteArray content => .ok content
  | v => .error (.noBytes v.kindName)

def escapedCode (n : Nat) : List Char :=
  if n < 0x100 then '\\' :: 'x' :: Text.hex 2 n
  else if n < 0x10000 then '\\' :: 'u' :: Text.hex 4 n
  else '\\' :: 'U' :: Text.hex 8 n

/-- What a range of positions holds: the one thing in it, shown, or several. -/
def inRange (codes : List Nat) (first last : Int) (show1 : Nat → List Char) (noun : String) :
    List Char :=
  match if last = first + 1 ∧ 0 ≤ first then codes[first.toNat]? else none with
  | some n => show1 n ++ " in position ".toList ++ Text.signed first
  | none =>
    noun.toList ++ " in position ".toList ++ Text.signed first ++ '-' :: Text.signed (last - 1)

def characters (s : String) (first last : Int) : List Char :=
  inRange (s.toList.map Char.toNat) first last
    (fun n => "character '".toList ++ escapedCode n ++ ['\'']) "characters"

def byteRange (content : List UInt8) (first last : Int) : List Char :=
  inRange (content.map UInt8.toNat) first last
    (fun n => "byte 0x".toList ++ Text.hex 2 n) "bytes"

def ofEncoding (args : List Value) : Except FailureError Failure :=
  match args with
  | [code, s, first, last, reason] => do
    let code ← textArgument "" 1 code
    let s ← textArgument "" 2 s
    let first ← indexArgument first
    let last ← indexArgument last
    let reason ← textArgument "" 5 reason
    pure (described "UnicodeEncodeError" ("'" ++ code ++ "' codec can't encode " ++
      String.ofList (characters s first last) ++ ": " ++ reason))
  | _ => .error (.wrongCount "function" 5 args.length)

def ofDecoding (args : List Value) : Except FailureError Failure :=
  match args with
  | [code, content, first, last, reason] => do
    let code ← textArgument "" 1 code
    let first ← indexArgument first
    let last ← indexArgument last
    let reason ← textArgument "" 5 reason
    let content ← bytesArgument content
    pure (described "UnicodeDecodeError" ("'" ++ code ++ "' codec can't decode " ++
      String.ofList (byteRange content first last) ++ ": " ++ reason))
  | _ => .error (.wrongCount "function" 5 args.length)

def ofConverting (args : List Value) : Except FailureError Failure :=
  match args with
  | [s, first, last, reason] => do
    let s ← textArgument "" 1 s
    let first ← indexArgument first
    let last ← indexArgument last
    let reason ← textArgument "" 4 reason
    pure (described "UnicodeTranslateError" ("can't translate " ++
      String.ofList (characters s first last) ++ ": " ++ reason))
  | _ => .error (.wrongCount "function" 4 args.length)

/-! ## All classes -/

def grammarText (v : Value) : String :=
  if v.isPresent then String.ofList v.plain else "<no detail available>"

/-- An error of the grammar has a place if there are exactly two arguments. -/
def ofGrammar (className : String) (args : List Value) : Except FailureError Failure :=
  match args with
  | [] => .ok (described className (grammarText .null))
  | [v, place] =>
    match SourcePlace.ofValue? place with
    | .ok place => .ok (located place className (grammarText v))
    | .error e => .error (.place e)
  | v :: _ => .ok (described className (grammarText v))

/-- A group needs exceptions as members, and no value is one. -/
def groupError : List Value → FailureError
  | [name, members] =>
    match textArgument "BaseExceptionGroup.__new__() " 1 name, members with
    | .error e, _ => e
    | .ok _, .list [] | .ok _, .tuple [] | .ok _, .text "" | .ok _, .bytes []
    | .ok _, .byteArray [] => .emptySequence
    | .ok _, .list _ | .ok _, .tuple _ | .ok _, .text _ | .ok _, .bytes _
    | .ok _, .byteArray _ => .noException
    | .ok _, .range bound =>
      if Nat.pow 2 63 ≤ bound then .integerTooLarge
      else if SourcePlace.partLimit ≤ bound then .noRoom
      else if 0 < bound then .noException
      else .emptySequence
    | .ok _, _ => .noSequence
  | args => .wrongCount "BaseExceptionGroup.__new__()" 2 args.length

/-- An exception of the named class.  Classes of problems carry the name of their module. -/
def ofArguments (className : String) (args : List Value) : Except FailureError Failure :=
  match Problem.Kind.ofLabel? className with
  | some kind =>
    match kind.make? args none none with
    | .ok p => .ok (described ("sqltags.exceptions." ++ className) p.message)
    | .error e => .error (.problem e)
  | none =>
    if isSystemClass className then ofSystem className args
    else
      match className with
      | "UnicodeEncodeError" => ofEncoding args
      | "UnicodeDecodeError" => ofDecoding args
      | "UnicodeTranslateError" => ofConverting args
      | "SyntaxError" | "IndentationError" | "TabError" => ofGrammar className args
      | "ExceptionGroup" | "BaseExceptionGroup" => .error (groupError args)
      | _ => .ok (described className (String.ofList (plainText className args)))

def absentLine : String :=
  "NoneType: None"

/-- The last line of an exception; in front of it stand those that show its place. -/
def line : Failure → Except SourcePlace.ShowError String
  | absent => .ok absentLine
  | described className text =>
    .ok (if text = "" then className else className ++ ": " ++ text)
  | located place className text =>
    place.lines.map fun lines =>
      String.ofList lines ++ className ++ ": " ++ text ++ String.ofList place.remark

end Failure

end QueryBook.Log
