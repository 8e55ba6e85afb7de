import QueryBook.Text.Case
import QueryBook.Text.Quoted

/-!
# Log levels

A level is a whole number, with no more digits than the host writes.  Six of them have names;
two names have a short form as well.
-/

namespace QueryBook.Log

def levelNames : List (Int × String) :=
  [(0, "NOTSET"), (10, "DEBUG"), (20, "INFO"), (30, "WARNING"), (40, "ERROR"),
    (50, "CRITICAL")]

def levelName (level : Int) : String :=
  match levelNames.lookup level with
  | some name => name
  | none => String.ofList ("Level ".toList ++ Text.signed level)

/-- What a name that is known in capitals stands for. -/
inductive KnownName where
  | level (n : Int)
  /-- A text that is no level. -/
  | text (s : String)
  /-- Something that is neither a number nor a text, as it is shown. -/
  | other (shown : String)
  deriving DecidableEq

/-- The three styles of templates, each with its class and the template it has from the
start. -/
def stylesShown : String :=
  "\x7b'%': (<class 'logging.PercentStyle'>, '%(levelname)s:%(name)s:%(message)s'), " ++
    "'\x7b': (<class 'logging.StrFormatStyle'>, " ++
    "'\x7blevelname\x7d:\x7bname\x7d:\x7bmessage\x7d'), " ++
    "'$': (<class 'logging.StringTemplateStyle'>, " ++
    "'$\x7blevelname\x7d:$\x7bname\x7d:$\x7bmessage\x7d')\x7d"

def knownNames : List (String × KnownName) :=
  [("CRITICAL", .level 50), ("FATAL", .level 50), ("ERROR", .level 40),
    ("WARNING", .level 30), ("WARN", .level 30), ("INFO", .level 20), ("DEBUG", .level 10),
    ("NOTSET", .level 0), ("BASIC_FORMAT", .text "%(levelname)s:%(name)s:%(message)s"),
    ("_STYLES", .other stylesShown)]

inductive LevelError where
  | unknownName (name : String)
  | unknownLevel (text : String)
  | noLevel (shown : String)
  deriving DecidableEq

def LevelError.text : LevelError → List Char
  | unknownName name => "module 'logging' has no attribute '".toList ++ name.toList ++ ['\'']
  | unknownLevel text => "Unknown level: ".toList ++ Text.quoted text.toList
  | noLevel shown => "Level not an integer or a valid string: ".toList ++ shown.toList

/-- What a name stands for, in whatever case its letters are. -/
def findName (name : String) : Except LevelError KnownName :=
  let capitals := String.ofList (Text.upper name.toList)
  match knownNames.lookup capitals with
  | some known => .ok known
  | none => .error (.unknownName capitals)

def KnownName.asLevel : KnownName → Except LevelError Int
  | level n => .ok n
  | text s => .error (.unknownLevel s)
  | other shown => .error (.noLevel shown)

def defaultLevel : Int :=
  30

end QueryBook.Log
