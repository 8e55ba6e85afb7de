import QueryBook.Json.Basic
import QueryBook.Text.Base64
import QueryBook.Value.Display

/-!
# Values as JSON

All sequences and sets become lists, byte strings become base 64, and a query becomes an
object with its five fields in order.  A floating-point value that is no number becomes null,
and a value that JSON has no form for becomes its text.
-/

namespace QueryBook

def Placeholder.toJson : Placeholder → Json
  | positional => .object [("type", .text "positional")]
  | named name => .object [("type", .text "named"), ("name", .text name)]

def Floating.toJson : Floating → Json
  | finite d => .decimal d
  | infinite _ => .null
  | nan => .null

namespace Value

mutual

def toJson : Value → Json
  | null => .null
  | bool b => .bool b
  | int n => .int n
  | float x => x.toJson
  | text s => .text s
  | list items => .list (toJsons items)
  | tuple items => .list (toJsons items)
  | set items => .list (toJsons items)
  | bytes content => .text (String.ofList (Text.base64 content))
  | byteArray content => .text (String.ofList (Text.base64 content))
  | range bound => .text (String.ofList (display (range bound)))
  | dictionary entries => .object (toMembers entries)
  | object shown => .text shown
  | operation op => .text op.label
  | query name op body docs params =>
    .object
      [("name", .text name), ("operation", toJson op), ("sql", .text body),
        ("docs", .text docs), ("params", .list (params.map Placeholder.toJson))]

def toJsons : List Value → List Json
  | [] => []
  | item :: items => toJson item :: toJsons items

def toMembers : List (String × Value) → List (String × Json)
  | [] => []
  | (key, item) :: entries => (key, toJson item) :: toMembers entries

end

def encode (v : Value) : String :=
  v.toJson.print

end Value

end QueryBook
