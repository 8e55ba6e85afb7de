import QueryBook.Text.Space

/-!
# Definition markers

A marker is two dashes, the word `name` and a colon, with any white space between them and
all the white space behind them.  A source text is cut at its markers from left to right; the
markers are kept beside the segments they open, so nothing of the text is lost.
-/

namespace QueryBook

namespace Marker

def after? : List Char → Option (List Char)
  | '-' :: '-' :: rest =>
    match Text.trimStart rest with
    | 'n' :: 'a' :: 'm' :: 'e' :: rest =>
      match Text.trimStart rest with
      | ':' :: rest => some (Text.trimStart rest)
      | _ => none
    | _ => none
  | _ => none

end Marker

structure Segment where
  marker : List Char
  body : List Char
  deriving DecidableEq

/-- The text before the first marker and the segments behind it. -/
structure Segmentation where
  opening : List Char
  segments : List Segment
  deriving DecidableEq

namespace Segmentation

def consOpening (c : Char) (s : Segmentation) : Segmentation :=
  ⟨c :: s.opening, s.segments⟩

def openWith (marker : List Char) (s : Segmentation) : Segmentation :=
  ⟨[], ⟨marker, s.opening⟩ :: s.segments⟩

/-- Cuts what is left once the given number of characters, the tail of a marker, is passed
over. -/
def cutAfter : Nat → List Char → Segmentation
  | _, [] => ⟨[], []⟩
  | skip + 1, _ :: rest => cutAfter skip rest
  | 0, c :: rest =>
    match Marker.after? (c :: rest) with
    | none => (cutAfter 0 rest).consOpening c
    | some left =>
      let skip := rest.length - left.length
      (cutAfter skip rest).openWith (c :: rest.take skip)

def ofText (text : List Char) : Segmentation :=
  cutAfter 0 text

def text (s : Segmentation) : List Char :=
  s.opening ++ s.segments.flatMap fun segment => segment.marker ++ segment.body

theorem text_consOpening (c : Char) (s : Segmentation) :
    (s.consOpening c).text = c :: s.text :=
  rfl

theorem text_openWith (marker : List Char) (s : Segmentation) :
    (s.openWith marker).text = marker ++ s.text := by
  simp [openWith, text]

theorem text_cutAfter (skip : Nat) (cs : List Char) :
    (cutAfter skip cs).text = cs.drop skip := by
  fun_induction cutAfter skip cs with
  | case1 skip => simp [text]
  | case2 skip c rest ih => exact ih
  | case3 c rest hnone ih => simp [text_consOpening, ih]
  | case4 c rest left hsome skip ih => simp [text_openWith, ih]

theorem text_ofText (cs : List Char) : (ofText cs).text = cs :=
  text_cutAfter 0 cs

end Segmentation

end QueryBook
