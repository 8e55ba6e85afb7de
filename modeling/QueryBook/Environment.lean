import QueryBook.Notice
import QueryBook.Text.Case
import QueryBook.Text.Space

/-!
# Options from the environment

Three variables set the options.  The policy is read in small letters and trimmed.  A switch
is on when its text, in small letters but not trimmed, is one of five words.
-/

namespace QueryBook

structure Environment where
  onDuplicate : Option String := none
  warnNonAscii : Option String := none
  strictParameters : Option String := none

namespace Environment

def onWords : List String :=
  ["true", "1", "yes", "on", "enabled"]

def switch (default : Bool) : Option String → Bool
  | none => default
  | some s => onWords.contains (String.ofList (Text.lower s.toList))

def policy (given : Option String) : String :=
  String.ofList (Text.trim (Text.lower (given.getD DuplicatePolicy.overwrite.label).toList))

def options (env : Environment) : Except OptionError (CompileOptions × RunOptions) :=
  match CompileOptions.ofValues (some (.text (policy env.onDuplicate)))
      (some (switch true env.warnNonAscii)) with
  | .error e => .error e
  | .ok compiling => .ok (compiling, ⟨switch true env.strictParameters⟩)

def load (env : Environment) : Noted OptionError (CompileOptions × RunOptions) :=
  match env.options with
  | .error e => ⟨[], .error e⟩
  | .ok (compiling, running) => ⟨[.loaded compiling running], .ok (compiling, running)⟩

end Environment

end QueryBook
