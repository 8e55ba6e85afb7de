import QueryBook.Proofs.LineLayout
import QueryBook.Proofs.PlaceholderScan

/-!
# Occurrences of placeholders

The placeholders of a body are those that open at its places, taken from left to right.  Only
the nearest character in front and the name characters behind bear on a place, so a character
of neither kind separates the text: the occurrences of the whole are those of the two sides.
White space separates, which is why trimming loses no placeholder and lines can be searched
one by one.
-/

namespace QueryBook

namespace Placeholder

/-- The placeholder that opens at a place of a text, if one does. -/
def atPlace? (text : List Char) (place : Nat) : Option Placeholder :=
  at? (text.take place).reverse (text.drop place)

/-- The placeholders that open in a text, in the order of their places. -/
def occurrences (text : List Char) : List Placeholder :=
  (List.range text.length).filterMap (atPlace? text)

/-- The placeholders that open in what is left of a text. -/
def occurrencesFrom : List Char → List Char → List Placeholder
  | _, [] => []
  | passed, c :: rest =>
      (at? passed (c :: rest)).toList ++ occurrencesFrom (c :: passed) rest

theorem filterMap_range_eq_occurrencesFrom (passed left : List Char) :
    (List.range left.length).filterMap
        (fun place => at? ((left.take place).reverse ++ passed) (left.drop place)) =
      occurrencesFrom passed left := by
  induction left generalizing passed with
  | nil => rfl
  | cons c rest ih =>
      have hrest := ih (c :: passed)
      rw [List.length_cons, List.range_succ_eq_map, List.filterMap_cons, List.filterMap_map]
      simp only [Function.comp_def, List.take_succ_cons, List.drop_succ_cons,
        List.reverse_cons, List.append_assoc, List.singleton_append, hrest,
        List.take_zero, List.reverse_nil, List.nil_append, List.drop_zero, occurrencesFrom]
      cases at? passed (c :: rest) <;> rfl

theorem occurrences_eq_occurrencesFrom (text : List Char) :
    occurrences text = occurrencesFrom [] text := by
  rw [← filterMap_range_eq_occurrencesFrom]
  simp only [List.append_nil]
  rfl

theorem length_occurrences (text : List Char) :
    (occurrences text).length =
      (List.range text.length).countP fun place => (atPlace? text place).isSome :=
  List.length_filterMap_eq_countP

/-! ## The reader finds the occurrences -/

theorem at?_of_isNameChar {passed rest : List Char} {c : Char} (hname : isNameChar c = true) :
    at? passed (c :: rest) = none := by
  have hmark : c ≠ '?' := by
    rintro rfl
    simp [isNameChar_mark] at hname
  have hcolon : c ≠ ':' := by
    rintro rfl
    simp [isNameChar_colon] at hname
  simp [at?, hmark, hcolon]

theorem filterMap_slot?_read {cursor : Cursor} {skip : Nat} {passed left : List Char}
    (haligned : cursor.Aligned skip passed left) :
    (Piece.read cursor left).filterMap Piece.slot? = occurrencesFrom passed left := by
  induction left generalizing cursor skip passed with
  | nil => rfl
  | cons c rest ih =>
      cases skip with
      | succ skip =>
          -- the reader passes over a name without a look, and no place of it opens anything
          have hnone : at? passed (c :: rest) = none := at?_of_isNameChar haligned.isNameChar
          obtain ⟨hread, hnext⟩ := Piece.read_skip haligned
          rw [hread, ih hnext, occurrencesFrom, hnone]
          rfl
      | zero =>
          cases hopen : at? passed (c :: rest) with
          | none =>
              obtain ⟨next, hread, hnext⟩ := Piece.read_plain haligned hopen
              rw [hread, occurrencesFrom, hopen, ← ih hnext]
              rfl
          | some p =>
              obtain ⟨next, hread, hnext⟩ := Piece.read_slot haligned hopen
              rw [hread, occurrencesFrom, hopen, ← ih hnext]
              rfl

theorem placeholders_eq_occurrences (body : String) :
    placeholders body = occurrences body.toList := by
  rw [occurrences_eq_occurrencesFrom]
  exact filterMap_slot?_read (Cursor.initial_aligned body.toList)

/-! ## Separators -/

/-- A character that neither opens a placeholder nor belongs to a name. -/
structure Separates (c : Char) : Prop where
  mark : c ≠ '?'
  colon : c ≠ ':'
  name : isNameChar c = false

theorem separates_of_isSpace {c : Char} (hspace : Text.isSpace c = true) : Separates c := by
  have hno : ∀ d : Char, Text.isSpace d = false → c ≠ d := by
    rintro d hd rfl
    rw [hspace] at hd
    contradiction
  have hdash : c ≠ '-' := hno '-' (by decide)
  constructor
  · exact hno '?' (by decide)
  · exact hno ':' (by decide)
  · simp [isNameChar, Text.not_isWord_of_isSpace hspace, hdash]

theorem occurrencesFrom_congr {passed passed' : List Char}
    (hhead : passed.head? = some ':' ↔ passed'.head? = some ':') (left : List Char) :
    occurrencesFrom passed left = occurrencesFrom passed' left := by
  induction left generalizing passed passed' with
  | nil => rfl
  | cons c rest ih =>
      have hat : at? passed (c :: rest) = at? passed' (c :: rest) := by
        simp only [at?, ne_eq, hhead]
      have htail : occurrencesFrom (c :: passed) rest = occurrencesFrom (c :: passed') rest :=
        ih (by simp)
      rw [occurrencesFrom, occurrencesFrom, hat, htail]

namespace Separates

variable {c : Char} (hseparates : Separates c)
include hseparates

theorem takeWhile_append (a b : List Char) :
    (a ++ c :: b).takeWhile isNameChar = a.takeWhile isNameChar := by
  induction a with
  | nil => simp [hseparates.name]
  | cons d a ih => simp [List.takeWhile_cons, ih]

theorem at?_append (passed : List Char) (d : Char) (a b : List Char) :
    at? passed (d :: (a ++ c :: b)) = at? passed (d :: a) := by
  simp only [at?, hseparates.takeWhile_append]

theorem at?_cons (passed b : List Char) : at? passed (c :: b) = none := by
  simp [at?, hseparates.mark, hseparates.colon]

theorem occurrencesFrom_append (passed a b : List Char) :
    occurrencesFrom passed (a ++ c :: b) =
      occurrencesFrom passed a ++ occurrencesFrom [] b := by
  induction a generalizing passed with
  | nil =>
      have hbehind : occurrencesFrom (c :: passed) b = occurrencesFrom [] b :=
        occurrencesFrom_congr (by simp [hseparates.colon]) b
      simp only [List.nil_append, occurrencesFrom, hseparates.at?_cons, Option.toList_none,
        hbehind]
  | cons d a ih =>
      rw [List.cons_append, occurrencesFrom, occurrencesFrom, hseparates.at?_append, ih,
        List.append_assoc]

theorem occurrences_append (a b : List Char) :
    occurrences (a ++ c :: b) = occurrences a ++ occurrences b := by
  simp only [occurrences_eq_occurrencesFrom]
  exact hseparates.occurrencesFrom_append [] a b

end Separates

theorem occurrences_trimStart (cs : List Char) :
    occurrences (Text.trimStart cs) = occurrences cs := by
  induction cs with
  | nil => rfl
  | cons c rest ih =>
      by_cases hspace : Text.isSpace c = true
      · have hrest : Text.trimStart (c :: rest) = Text.trimStart rest := by
          simp [Text.trimStart, hspace]
        have hskip : occurrences (c :: rest) = occurrences rest :=
          (separates_of_isSpace hspace).occurrences_append [] rest
        rw [hrest, ih, hskip]
      · rw [Text.trimStart_eq_self (by simpa using hspace)]

theorem occurrences_append_of_isBlank (a : List Char) {b : List Char}
    (hblank : Text.isBlank b = true) :
    occurrences (a ++ b) = occurrences a := by
  induction b generalizing a with
  | nil => rw [List.append_nil]
  | cons c b ih =>
      rw [Text.isBlank, List.all_cons, Bool.and_eq_true] at hblank
      have hrest : occurrences b = [] := ih [] hblank.2
      rw [(separates_of_isSpace hblank.1).occurrences_append, hrest, List.append_nil]

theorem occurrences_trimEnd (cs : List Char) :
    occurrences (Text.trimEnd cs) = occurrences cs := by
  obtain ⟨blank, hsplit, hblank⟩ := Text.exists_eq_trimEnd_append cs
  conv_rhs => rw [hsplit]
  exact (occurrences_append_of_isBlank _ hblank).symm

theorem occurrences_trim (cs : List Char) : occurrences (Text.trim cs) = occurrences cs := by
  rw [Text.trim, occurrences_trimEnd, occurrences_trimStart]

theorem occurrences_unlines (ls : List (List Char)) :
    occurrences (Text.unlines ls) = ls.flatMap occurrences := by
  have hfeed : Separates '\n' := separates_of_isSpace (by decide)
  induction ls with
  | nil => rfl
  | cons line ls ih =>
      rw [Text.unlines_cons, hfeed.occurrences_append, ih, List.flatMap_cons]

end Placeholder

end QueryBook
