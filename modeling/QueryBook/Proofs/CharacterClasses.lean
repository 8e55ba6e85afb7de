import QueryBook.Text.Space
import QueryBook.Text.Word
import Mathlib.Tactic.Common

/-!
# Character classes

The classes of characters overlap only where one holds the other: every line break is a
space, and no space is a word character.  Both facts are read off the tables, over the few
code points that the smaller class fills.  So is the share of ASCII in the word characters.
-/

namespace QueryBook.Text

def Ranges.codePoints (ranges : Ranges) : List Nat :=
  ranges.flatMap fun range => List.range' range.1 (range.2 + 1 - range.1)

theorem Ranges.mem_codePoints {ranges : Ranges} {n : Nat}
    (hcovers : ranges.covers n = true) :
    n ∈ ranges.codePoints := by
  induction ranges with
  | nil => simp [covers] at hcovers
  | cons range rest ih =>
      obtain ⟨lo, hi⟩ := range
      rw [covers] at hcovers
      split at hcovers
      · contradiction
      next hlo =>
      simp only [codePoints, List.flatMap_cons, List.mem_append]
      split at hcovers
      · next hhi =>
        left
        rw [List.mem_range'_1]
        omega
      · right
        exact ih hcovers

theorem isSpace_of_isLineBreak {c : Char} (hbreak : isLineBreak c = true) :
    isSpace c = true := by
  have htable : ∀ n ∈ lineBreakRanges.codePoints, spaceRanges.covers n = true := by
    decide
  exact htable _ (Ranges.mem_codePoints hbreak)

theorem not_isLineBreak_of_not_isSpace {c : Char} (hspace : isSpace c = false) :
    isLineBreak c = false := by
  by_contra hbreak
  rw [Bool.not_eq_false] at hbreak
  rw [isSpace_of_isLineBreak hbreak] at hspace
  contradiction

theorem not_isWord_of_isSpace {c : Char} (hspace : isSpace c = true) :
    isWord c = false := by
  have htable : ∀ n ∈ spaceRanges.codePoints, wordRanges.covers n = false := by
    decide +kernel
  exact htable _ (Ranges.mem_codePoints hspace)

theorem le_of_isAlphanum {c : Char} (hclass : c.isAlphanum = true) : c.toNat ≤ 0x7F := by
  have hranges :
      (decide (c.val ≥ 'A'.val ∧ c.val ≤ 'Z'.val) ||
        (decide (c.val ≥ 'a'.val) && decide (c.val ≤ 'z'.val)) ||
        (decide (c.val ≥ '0'.val) && decide (c.val ≤ '9'.val))) = true :=
    hclass
  simp only [Bool.or_eq_true, Bool.and_eq_true, decide_eq_true_eq] at hranges
  have hbound : c.val.toNat ≤ 0x7F := by
    rcases hranges with (⟨-, h⟩ | ⟨-, h⟩) | ⟨-, h⟩ <;>
      exact Nat.le_trans (UInt32.le_iff_toNat_le.mp h) (by decide)
  exact hbound

/-- The word characters of ASCII are its letters, its digits and the underscore. -/
theorem isAlphanum_or_underscore_iff {c : Char} (hword : isWord c = true) :
    (c.isAlphanum = true ∨ c = '_') ↔ c.toNat ≤ 0x7F := by
  constructor
  · rintro (hclass | rfl)
    · exact le_of_isAlphanum hclass
    · decide
  · intro hascii
    have htable : ∀ n < 0x80, wordRanges.covers n = true →
        (Char.ofNat n).isAlphanum = true ∨ Char.ofNat n = '_' := by
      decide +kernel
    have hclass := htable c.toNat (by omega) hword
    rwa [Char.ofNat_toNat] at hclass

theorem not_isSpace_of_isWord {c : Char} (hword : isWord c = true) :
    isSpace c = false := by
  by_contra hspace
  rw [Bool.not_eq_false] at hspace
  rw [not_isWord_of_isSpace hspace] at hword
  contradiction

end QueryBook.Text
