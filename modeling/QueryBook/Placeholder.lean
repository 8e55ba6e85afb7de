import QueryBook.Text.Word

/-!
# Placeholders

A question mark stands for the next positional argument, a colon with a name behind it for
the keyword argument of that name.  A colon right behind another colon opens a cast and names
nothing.

A body is read once into pieces: plain characters and placeholders.  The list of
placeholders and the body for positional binding are two views of the same pieces.
-/

namespace QueryBook

inductive Placeholder where
  | positional
  | named (name : String)
  deriving DecidableEq

inductive Piece where
  | plain (c : Char)
  | slot (p : Placeholder)
  deriving DecidableEq

/-- What the reader has just passed: nothing of note, a colon that opened no placeholder, or
characters of a placeholder's name. -/
inductive Cursor where
  | plain
  | afterColon
  | inName
  deriving DecidableEq

namespace Placeholder

def isNameChar (c : Char) : Bool :=
  Text.isWord c || c = '-'

def named? : Placeholder → Option String
  | positional => none
  | named name => some name

def names (ps : List Placeholder) : List String :=
  ps.filterMap named?

end Placeholder

namespace Piece

def slot? : Piece → Option Placeholder
  | plain _ => none
  | slot p => some p

/-- The character that stands for a piece once every placeholder is positional. -/
def positionalChar : Piece → Char
  | plain c => c
  | slot _ => '?'

/-- Pieces of a body from the cursor on.  A name takes every name character that follows. -/
def read : Cursor → List Char → List Piece
  | _, [] => []
  | cursor, c :: rest =>
    if cursor = .inName ∧ Placeholder.isNameChar c then read .inName rest
    else if c = '?' then slot .positional :: read .plain rest
    else if c = ':' then
      let name := rest.takeWhile Placeholder.isNameChar
      if cursor = .afterColon ∨ name = [] then plain c :: read .afterColon rest
      else slot (.named (String.ofList name)) :: read .inName rest
    else plain c :: read .plain rest

def ofBody (body : String) : List Piece :=
  read .plain body.toList

end Piece

def placeholders (body : String) : List Placeholder :=
  (Piece.ofBody body).filterMap Piece.slot?

/-- The body with a question mark in place of every placeholder. -/
def positionalBody (body : String) : String :=
  String.ofList ((Piece.ofBody body).map Piece.positionalChar)

end QueryBook
