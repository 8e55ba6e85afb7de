/-!
# Refused source texts

A text is refused for a header that declares no valid name, or, where names may not be
redefined, for a name that an earlier definition has already taken.
-/

namespace QueryBook

inductive CompileError where
  | invalidName (name : String)
  | duplicateName (name : String)
  deriving DecidableEq

end QueryBook
