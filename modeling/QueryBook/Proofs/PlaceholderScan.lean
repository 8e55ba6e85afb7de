import QueryBook.Placeholder
import Mathlib.Tactic.Common

/-!
# Where placeholders open

The reader of a body keeps a cursor and takes names as it meets them.  This file says without
any reader where a placeholder opens: the characters in front and behind settle it.  The
alignment below relates the cursor to the text that was passed, and the three step lemmas
show that the reader finds the placeholders that open there and no others.
-/

namespace QueryBook

namespace Placeholder

/-- The placeholder that opens at the head of what is left of a text.  The characters passed
are listed with the nearest one first. -/
def at? (passed : List Char) : List Char → Option Placeholder
  | [] => none
  | c :: rest =>
      let name := rest.takeWhile isNameChar
      if c = '?' then some .positional
      else if c = ':' ∧ passed.head? ≠ some ':' ∧ name ≠ [] then
        some (.named (String.ofList name))
      else none

def tailLength : Placeholder → Nat
  | positional => 0
  | named name => name.length

theorem isNameChar_colon : isNameChar ':' = false := by
  decide

theorem isNameChar_mark : isNameChar '?' = false := by
  decide

@[simp] theorem at?_mark (passed rest : List Char) :
    at? passed ('?' :: rest) = some .positional := by
  simp [at?]

theorem at?_colon (passed rest : List Char) :
    at? passed (':' :: rest) =
      if passed.head? = some ':' ∨ rest.takeWhile isNameChar = [] then none
      else some (.named (String.ofList (rest.takeWhile isNameChar))) := by
  by_cases hcolon : passed.head? = some ':'
  · simp [at?, hcolon]
  · by_cases hname : rest.takeWhile isNameChar = []
    · simp [at?, hname]
    · simp [at?, hcolon, hname]

theorem at?_eq_some {passed rest : List Char} {c : Char} {p : Placeholder}
    (hsome : at? passed (c :: rest) = some p) :
    c = '?' ∧ p = .positional ∨
      c = ':' ∧ passed.head? ≠ some ':' ∧ rest.takeWhile isNameChar ≠ [] ∧
        p = .named (String.ofList (rest.takeWhile isNameChar)) := by
  simp only [at?] at hsome
  split at hsome
  · next hmark => exact Or.inl ⟨hmark, (Option.some.inj hsome).symm⟩
  split at hsome
  · next hopen =>
    obtain ⟨hcolon, hhead, hname⟩ := hopen
    exact Or.inr ⟨hcolon, hhead, hname, (Option.some.inj hsome).symm⟩
  · contradiction

end Placeholder

/-- What a cursor remembers of the characters passed, while some of those left are still to
be skipped as the rest of a name. -/
def Cursor.Aligned (cursor : Cursor) (skip : Nat) (passed left : List Char) : Prop :=
  match cursor with
  | plain => skip = 0 ∧ passed.head? ≠ some ':'
  | afterColon => skip = 0 ∧ passed.head? = some ':'
  | inName =>
      skip = (left.takeWhile Placeholder.isNameChar).length ∧
        (skip = 0 → passed.head? ≠ some ':')

theorem Cursor.initial_aligned (left : List Char) :
    plain.Aligned 0 [] left := by
  simp [Aligned]

theorem Cursor.Aligned.not_isNameChar
    {cursor : Cursor} {passed rest : List Char} {c : Char}
    (haligned : cursor.Aligned 0 passed (c :: rest)) :
    ¬(cursor = .inName ∧ Placeholder.isNameChar c) := by
  rintro ⟨rfl, hname⟩
  obtain ⟨hskip, -⟩ := haligned
  simp [hname] at hskip

theorem Cursor.Aligned.isNameChar
    {cursor : Cursor} {skip : Nat} {passed rest : List Char} {c : Char}
    (haligned : cursor.Aligned (skip + 1) passed (c :: rest)) :
    Placeholder.isNameChar c = true := by
  cases cursor with
  | plain => simp [Aligned] at haligned
  | afterColon => simp [Aligned] at haligned
  | inName =>
      obtain ⟨hskip, -⟩ := haligned
      by_contra hname
      simp [hname] at hskip

theorem Cursor.Aligned.afterColon_iff
    {cursor : Cursor} {passed left : List Char}
    (haligned : cursor.Aligned 0 passed left) :
    cursor = .afterColon ↔ passed.head? = some ':' := by
  cases cursor with
  | plain => simpa using haligned.2
  | afterColon => simpa using haligned.2
  | inName => simpa using haligned.2 rfl

namespace Piece

theorem read_skip
    {cursor : Cursor} {skip : Nat} {passed rest : List Char} {c : Char}
    (haligned : cursor.Aligned (skip + 1) passed (c :: rest)) :
    read cursor (c :: rest) = read .inName rest ∧
      Cursor.inName.Aligned skip (c :: passed) rest := by
  cases cursor with
  | plain => simp [Cursor.Aligned] at haligned
  | afterColon => simp [Cursor.Aligned] at haligned
  | inName =>
      have hname := haligned.isNameChar
      obtain ⟨hskip, -⟩ := haligned
      have hcolon : c ≠ ':' := by
        rintro rfl
        simp [Placeholder.isNameChar_colon] at hname
      constructor
      · simp [read, hname]
      · constructor
        · simpa [List.takeWhile_cons, hname] using hskip
        · intro _
          simpa using hcolon

theorem read_plain
    {cursor : Cursor} {passed rest : List Char} {c : Char}
    (haligned : cursor.Aligned 0 passed (c :: rest))
    (hnone : Placeholder.at? passed (c :: rest) = none) :
    ∃ next : Cursor, read cursor (c :: rest) = plain c :: read next rest ∧
      next.Aligned 0 (c :: passed) rest := by
  have hfresh := haligned.not_isNameChar
  have hmark : c ≠ '?' := by
    rintro rfl
    simp at hnone
  by_cases hcolon : c = ':'
  · subst c
    refine ⟨.afterColon, ?_, ?_⟩
    · have hnot : cursor = .afterColon ∨ rest.takeWhile Placeholder.isNameChar = [] := by
        rw [haligned.afterColon_iff]
        by_contra hopen
        rw [Placeholder.at?_colon, if_neg hopen] at hnone
        contradiction
      rw [read, if_neg hfresh, if_neg (by decide), if_pos rfl]
      simp only
      rw [if_pos hnot]
    · simp [Cursor.Aligned]
  · refine ⟨.plain, ?_, ?_⟩
    · rw [read, if_neg hfresh, if_neg hmark, if_neg hcolon]
    · simp [Cursor.Aligned, hcolon]

theorem read_slot
    {cursor : Cursor} {passed rest : List Char} {c : Char} {p : Placeholder}
    (haligned : cursor.Aligned 0 passed (c :: rest))
    (hsome : Placeholder.at? passed (c :: rest) = some p) :
    ∃ next : Cursor, read cursor (c :: rest) = slot p :: read next rest ∧
      next.Aligned p.tailLength (c :: passed) rest := by
  have hfresh := haligned.not_isNameChar
  rcases Placeholder.at?_eq_some hsome with ⟨rfl, rfl⟩ | ⟨rfl, hhead, hname, rfl⟩
  · refine ⟨.plain, ?_, ?_⟩
    · rw [read, if_neg hfresh, if_pos rfl]
    · simp [Cursor.Aligned, Placeholder.tailLength]
  · refine ⟨.inName, ?_, ?_⟩
    · rw [read, if_neg hfresh, if_neg (by decide), if_pos rfl]
      simp only
      rw [if_neg]
      rw [haligned.afterColon_iff, not_or]
      exact ⟨hhead, hname⟩
    · refine ⟨by simp [Placeholder.tailLength], ?_⟩
      intro hzero
      have hnil : rest.takeWhile Placeholder.isNameChar = [] := by
        simpa [Placeholder.tailLength] using hzero
      contradiction

theorem read_plain_ne_mark
    {cursor : Cursor} {left : List Char} {c : Char}
    (hmem : plain c ∈ read cursor left) :
    c ≠ '?' := by
  induction left generalizing cursor with
  | nil => simp [read] at hmem
  | cons d rest ih =>
      rw [read] at hmem
      split at hmem
      · exact ih hmem
      split at hmem
      · exact ih (by simpa using hmem)
      next hmark =>
      split at hmem
      · next hcolon =>
        subst d
        simp only at hmem
        split at hmem
        · rcases List.mem_cons.mp hmem with heq | hrest
          · obtain rfl : c = ':' := by simpa using heq
            decide
          · exact ih hrest
        · exact ih (by simpa using hmem)
      · rcases List.mem_cons.mp hmem with heq | hrest
        · obtain rfl : c = d := by simpa using heq
          exact hmark
        · exact ih hrest

end Piece

end QueryBook
