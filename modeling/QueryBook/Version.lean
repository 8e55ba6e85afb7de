/-!
# Version
-/

namespace QueryBook

def version : String :=
  "0.1.0"

end QueryBook
