import QueryBook.Text.Lines

/-!
# Comment lines

A comment line is two dashes behind white space; what stands behind them and the white space
that follows is its text.  Below a header the comment lines become the documentation and all
the other lines the body.
-/

namespace QueryBook

namespace Comment

/-- A line without the line feed it may end in. -/
def withoutFinalBreak (line : List Char) : List Char :=
  if line.getLast? = some '\n' then line.dropLast else line

/-- The text of a comment line.  A line feed may end the line and stand nowhere else. -/
def text? (line : List Char) : Option (List Char) :=
  match Text.trimStart line with
  | '-' :: '-' :: rest =>
    let text := withoutFinalBreak (Text.trimStart rest)
    if '\n' ∈ text then none else some text
  | _ => none

/-- Documentation and body of a block of lines, every line closed by a line feed. -/
def separate : List (List Char) → List Char × List Char
  | [] => ([], [])
  | line :: rest =>
    let (docs, body) := separate rest
    match text? line with
    | some text => (text ++ '\n' :: docs, body)
    | none => (docs, line ++ '\n' :: body)

end Comment

/-- What stands below a header: its documentation and its body. -/
structure Block where
  docs : String
  body : String
  deriving DecidableEq

/-- The body is trimmed at both ends; the documentation is kept line by line. -/
def Block.ofLines (ls : List (List Char)) : Block :=
  let (docs, body) := Comment.separate ls
  ⟨String.ofList docs, String.ofList (Text.trim body)⟩

end QueryBook
