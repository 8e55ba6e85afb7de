import QueryBook.Text.Space

/-!
# Lines

A text is cut behind every line break, a carriage return with its line feed counting as one
break.  The breaks are dropped, and a break at the very end opens no further line.
-/

namespace QueryBook.Text

def consLine {α : Type} (a : α) : List (List α) → List (List α)
  | [] => [[a]]
  | line :: rest => (a :: line) :: rest

def lines : List Char → List (List Char)
  | [] => []
  | '\r' :: '\n' :: rest => [] :: lines rest
  | c :: rest => if isLineBreak c then [] :: lines rest else consLine c (lines rest)

/-- The rows between feeds, of which there is always one more than there are feeds. -/
def rows {α : Type} (isFeed : α → Bool) : List α → List (List α)
  | [] => [[]]
  | a :: rest => if isFeed a then [] :: rows isFeed rest else consLine a (rows isFeed rest)

def unlines (ls : List (List Char)) : List Char :=
  ls.flatMap fun line => line ++ ['\n']

end QueryBook.Text
