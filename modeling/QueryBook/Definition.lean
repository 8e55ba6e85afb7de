import QueryBook.Comment
import QueryBook.Header
import QueryBook.Query

/-!
# Definitions

One definition is a header line with a block of lines below it.  Space around the definition
does not count, and a definition with nothing in it has an empty header.
-/

namespace QueryBook

def Definition.split (text : List Char) : List Char × List (List Char) :=
  match Text.lines (Text.trim text) with
  | [] => ([], [])
  | header :: rest => (header, rest)

def Query.ofBlock (header : Header) (block : Block) : Query where
  name := header.name
  operation := .operation header.operation
  body := block.body
  docs := block.docs
  params := placeholders block.body

def Query.ofDefinition (text : List Char) : Except CompileError Query :=
  let (header, below) := Definition.split text
  match Header.read (String.ofList header) with
  | .error e => .error e
  | .ok header => .ok (Query.ofBlock header (Block.ofLines below))

end QueryBook
