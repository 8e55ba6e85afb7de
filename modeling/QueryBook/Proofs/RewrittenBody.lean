import QueryBook.Proofs.PositionalBinding
import QueryBook.Proofs.ResolvedValues

/-!
# The rewritten body

Rewriting a body for positional binding takes names away, so every colon and question mark
gets new neighbours.  Reading the rewritten body again gives the same pieces all the same,
but for the names, which have become question marks: what stood behind a name stands behind
a question mark now, and neither of them is a colon, and a colon that named nothing still
has no name character behind it.  All else follows from this: the rewritten body has only
question marks, as many as the body had placeholders, it is rewritten to itself, and the
values resolved for the body are its positional arguments.
-/

namespace QueryBook

/-- What the reader of the rewritten body has just passed.  Where the reader of the body is
in a name, this one is behind a question mark. -/
def Cursor.rewritten : Cursor → Cursor
  | plain => plain
  | afterColon => afterColon
  | inName => plain

theorem Cursor.rewritten_ne_inName (cursor : Cursor) : cursor.rewritten ≠ inName := by
  cases cursor <;> decide

namespace Piece

def rewritten : Piece → Piece
  | plain c => plain c
  | slot _ => slot .positional

@[simp] theorem positionalChar_rewritten (piece : Piece) :
    piece.rewritten.positionalChar = piece.positionalChar := by
  cases piece <;> rfl

/-- Away from a name, a text that begins with no name character is rewritten to one that
begins with none. -/
theorem takeWhile_map_positionalChar
    {cursor : Cursor} {left : List Char} (hcursor : cursor ≠ .inName)
    (hname : left.takeWhile Placeholder.isNameChar = []) :
    ((read cursor left).map positionalChar).takeWhile Placeholder.isNameChar = [] := by
  cases left with
  | nil => rfl
  | cons c rest =>
      have hc : Placeholder.isNameChar c = false := by
        by_contra hchar
        simp [hchar] at hname
      have hmark := Placeholder.isNameChar_mark
      rw [read, if_neg (by simp [hcursor])]
      split
      · simp [positionalChar, hmark]
      split
      · simp only
        split <;> simp [positionalChar, hc, hmark]
      · simp [positionalChar, hc]

section AwayFromNames

variable {cursor : Cursor} (hcursor : cursor ≠ .inName)
include hcursor

theorem read_mark (rest : List Char) :
    read cursor ('?' :: rest) = slot .positional :: read .plain rest := by
  rw [read, if_neg (by simp [hcursor]), if_pos rfl]

theorem read_colon_of_unnamed {rest : List Char}
    (hunnamed : cursor = .afterColon ∨ rest.takeWhile Placeholder.isNameChar = []) :
    read cursor (':' :: rest) = plain ':' :: read .afterColon rest := by
  rw [read, if_neg (by simp [hcursor]), if_neg (by decide), if_pos rfl]
  simp only
  rw [if_pos hunnamed]

theorem read_other {c : Char} (hmark : c ≠ '?') (hcolon : c ≠ ':') (rest : List Char) :
    read cursor (c :: rest) = plain c :: read .plain rest := by
  rw [read, if_neg (by simp [hcursor]), if_neg hmark, if_neg hcolon]

end AwayFromNames

/-- The two readers go in step: each piece that the one reads from the body, the other reads
from the character that stands for it. -/
theorem read_map_positionalChar (cursor : Cursor) (left : List Char) :
    read cursor.rewritten ((read cursor left).map positionalChar) =
      (read cursor left).map rewritten := by
  induction left generalizing cursor with
  | nil => rfl
  | cons c rest ih =>
      have haway := cursor.rewritten_ne_inName
      rw [read]
      split
      · -- the name goes on, and the other reader waits behind its question mark
        next hname =>
        obtain ⟨rfl, -⟩ := hname
        exact ih .inName
      split
      · rw [List.map_cons, positionalChar, read_mark haway]
        exact congrArg _ (ih .plain)
      next hmark =>
      split
      · next hcolon =>
        subst c
        simp only
        split
        · next hunnamed =>
          -- the colon stays, and it must not have come to stand in front of a name
          have hstill : cursor.rewritten = .afterColon ∨
              ((read .afterColon rest).map positionalChar).takeWhile
                Placeholder.isNameChar = [] := by
            rcases hunnamed with rfl | hname
            · exact Or.inl rfl
            · exact Or.inr (takeWhile_map_positionalChar (by decide) hname)
          rw [List.map_cons, positionalChar, read_colon_of_unnamed haway hstill]
          exact congrArg _ (ih .afterColon)
        · rw [List.map_cons, positionalChar, read_mark haway]
          exact congrArg _ (ih .inName)
      · next hcolon =>
        rw [List.map_cons, positionalChar, read_other haway hmark hcolon]
        exact congrArg _ (ih .plain)

theorem ofBody_positionalBody (body : String) :
    ofBody (positionalBody body) = (ofBody body).map rewritten := by
  rw [ofBody, positionalBody, String.toList_ofList]
  exact read_map_positionalChar .plain body.toList

theorem filterMap_slot?_map_rewritten (pieces : List Piece) :
    (pieces.map rewritten).filterMap slot? =
      List.replicate (pieces.filterMap slot?).length .positional := by
  induction pieces with
  | nil => rfl
  | cons piece rest ih =>
      cases piece with
      | plain c => exact ih
      | slot p => exact congrArg (Placeholder.positional :: ·) ih

end Piece

theorem placeholders_positionalBody (body : String) :
    placeholders (positionalBody body) =
      List.replicate (placeholders body).length .positional := by
  rw [placeholders, Piece.ofBody_positionalBody, Piece.filterMap_slot?_map_rewritten]
  rfl

theorem positionalBody_positionalBody (body : String) :
    positionalBody (positionalBody body) = positionalBody body := by
  rw [positionalBody, Piece.ofBody_positionalBody, List.map_map, positionalBody]
  simp only [Function.comp_def, Piece.positionalChar_rewritten]

/-- Question marks take the positional arguments one after the other. -/
theorem Arguments.resolve_replicate_positional (values : List Value) (strict : Bool) :
    Arguments.resolve { positional := values }
      (List.replicate values.length .positional) strict = .ok values := by
  apply resolveFrom_of_foundFrom
  apply List.ext_getElem?
  intro place
  rw [getElem?_foundFrom, List.getElem?_map]
  by_cases hplace : place < values.length
  · rw [List.getElem?_replicate_of_lt hplace, List.take_replicate, List.count_replicate_self,
      Nat.zero_add, Nat.min_eq_left hplace.le, List.getElem?_eq_getElem hplace]
    simp [value?, hplace]
  · rw [List.getElem?_eq_none (by simpa using hplace), List.getElem?_eq_none (by omega)]
    rfl

/-- The rewritten body has one question mark for each placeholder and no other placeholder,
rewriting changes it no more, and the values resolved for the body are resolved for it when
they are passed by position. -/
theorem positionalBody_stable (body : String) :
    placeholders (positionalBody body) =
        List.replicate (placeholders body).length .positional ∧
      (positionalBody body).toList.count '?' = (placeholders body).length ∧
      positionalBody (positionalBody body) = positionalBody body ∧
      ∀ (args : Arguments) (strict : Bool) (values : List Value),
        args.resolve (placeholders body) strict = .ok values →
          ∀ strictAgain : Bool,
            Arguments.resolve { positional := values }
              (placeholders (positionalBody body)) strictAgain = .ok values := by
  refine ⟨placeholders_positionalBody body, count_positionalBody body,
    positionalBody_positionalBody body, ?_⟩
  intro args strict values hresolved strictAgain
  rw [placeholders_positionalBody, ← Arguments.length_resolveFrom hresolved]
  exact Arguments.resolve_replicate_positional values strictAgain

/-- A cast in front, adjacent names, a colon in front of a question mark, and a name directly
behind one. -/
theorem positionalBody_stable_crowded :
    let args : Arguments :=
      { positional := [.int 1, .int 2], keyword := [("a", .int 10), ("b", .null)] }
    let values : List Value := [.int 10, .null, .int 1, .int 2, .int 10]
    args.resolve (placeholders "::int :a:b ?, :?:a") true = .ok values ∧
      positionalBody "::int :a:b ?, :?:a" = "::int ?? ?, :??" ∧
        Arguments.resolve { positional := values }
          (placeholders (positionalBody "::int :a:b ?, :?:a")) true = .ok values := by
  intro args values
  have hparams : placeholders "::int :a:b ?, :?:a" =
      [.named "a", .named "b", .positional, .positional, .named "a"] := by
    decide
  have hresolved : args.resolve (placeholders "::int :a:b ?, :?:a") true = .ok values := by
    rw [hparams]
    rfl
  obtain ⟨-, -, -, hagain⟩ := positionalBody_stable "::int :a:b ?, :?:a"
  exact ⟨hresolved, by decide, hagain args true values hresolved true⟩

end QueryBook
