import QueryBook.Text.Lines
import QueryBook.Text.Quoted

/-!
# Messages

A message is a row of code points.  All of them are characters except the surrogates, of
which none stands for a character by itself; a message that holds one has no text.
-/

namespace QueryBook.Log

inductive CodePoint where
  | char (c : Char)
  | surrogate (n : Nat)
  deriving DecidableEq

namespace CodePoint

def ofNat (n : Nat) : CodePoint :=
  if 0xD800 ≤ n ∧ n < 0xE000 then surrogate n else char (Char.ofNat n)

def char? : CodePoint → Option Char
  | char c => some c
  | surrogate _ => none

def isChar (p : CodePoint) : Bool :=
  p.char?.isSome

end CodePoint

/-- The first row of surrogates in a message: the number of the first one, the position of
that, and how many there are. -/
structure EncodingError where
  first : Nat
  position : Nat
  count : Nat
  deriving DecidableEq

/-- A single surrogate is shown, of several only where they stand. -/
def EncodingError.text (e : EncodingError) : List Char :=
  "'utf-8' codec can't encode character".toList ++
    (if e.count = 1 then
      " '\\u".toList ++ Text.hex 4 e.first ++ "' in position ".toList ++ Text.decimal e.position
    else
      "s in position ".toList ++ Text.decimal e.position ++
        '-' :: Text.decimal (e.position + e.count - 1)) ++
    ": surrogates not allowed".toList

abbrev Message := List CodePoint

namespace Message

def ofChars (cs : List Char) : Message :=
  cs.map .char

def rows (m : Message) : List Message :=
  Text.rows (fun p => p = .char '\n') m

def text (m : Message) : Except EncodingError String :=
  match m.dropWhile CodePoint.isChar with
  | .surrogate n :: rest =>
    .error
      { first := n
        position := (m.takeWhile CodePoint.isChar).length
        count := (rest.takeWhile fun p => !p.isChar).length + 1 }
  | _ => .ok (String.ofList (m.filterMap CodePoint.char?))

theorem text_ofChars (cs : List Char) : text (ofChars cs) = .ok (String.ofList cs) := by
  have hdrop : (ofChars cs).dropWhile CodePoint.isChar = [] := by
    induction cs with
    | nil => rfl
    | cons c cs ih => exact ih
  have hchars : (ofChars cs).filterMap CodePoint.char? = cs := by
    simp [ofChars, List.filterMap_map, Function.comp_def, CodePoint.char?]
  rw [text, hdrop, hchars]

end Message

end QueryBook.Log
