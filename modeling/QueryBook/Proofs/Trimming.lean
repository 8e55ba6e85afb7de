import QueryBook.Text.Space
import Mathlib.Data.List.Basic
import Mathlib.Data.List.TakeWhile

/-!
# Trimming

How trimming acts on a text that is put together from two parts: a blank part vanishes, and
a part that is not blank shields the other one.
-/

namespace QueryBook.Text

theorem trimStart_eq_nil_iff {cs : List Char} :
    trimStart cs = [] ↔ isBlank cs = true := by
  rw [trimStart, List.dropWhile_eq_nil_iff, isBlank, List.all_eq_true]

theorem not_isSpace_head_trimStart {cs : List Char} {c : Char}
    (hc : c ∈ (trimStart cs).head?) :
    isSpace c = false := by
  induction cs with
  | nil => simp [trimStart] at hc
  | cons d rest ih =>
      by_cases hspace : isSpace d = true
      · apply ih
        simpa [trimStart, List.dropWhile_cons, hspace] using hc
      · rw [trimStart, List.dropWhile_cons, if_neg hspace] at hc
        obtain rfl : d = c := by simpa using hc
        simpa using hspace

/-- What trimming takes from the start of a text is blank. -/
theorem exists_eq_append_trimStart (cs : List Char) :
    ∃ blank, cs = blank ++ trimStart cs ∧ isBlank blank = true := by
  refine ⟨cs.takeWhile isSpace, List.takeWhile_append_dropWhile.symm, ?_⟩
  rw [isBlank, List.all_eq_true]
  exact fun _ => List.mem_takeWhile_imp

theorem trimStart_eq_self {cs : List Char}
    (hhead : ∀ c ∈ cs.head?, isSpace c = false) :
    trimStart cs = cs := by
  cases cs with
  | nil => rfl
  | cons c rest =>
      have hspace : isSpace c = false := hhead c (by simp)
      simp [trimStart, hspace]

theorem trimStart_append_of_isBlank {a : List Char} (b : List Char)
    (hblank : isBlank a = true) :
    trimStart (a ++ b) = trimStart b := by
  rw [isBlank, List.all_eq_true] at hblank
  exact List.dropWhile_append_of_pos hblank

theorem trimStart_append_of_not_isBlank {a : List Char} (b : List Char)
    (hblank : isBlank a = false) :
    trimStart (a ++ b) = trimStart a ++ b := by
  have hleft : (a.dropWhile isSpace).isEmpty = false := by
    rw [List.isEmpty_eq_false_iff]
    intro hnil
    rw [trimStart_eq_nil_iff.mp hnil] at hblank
    contradiction
  simp [trimStart, List.dropWhile_append, hleft]

theorem trimStart_append_of_head {a b : List Char}
    (hhead : ∀ c ∈ b.head?, isSpace c = false) :
    trimStart (a ++ b) = trimStart a ++ b := by
  cases hblank : isBlank a with
  | false => exact trimStart_append_of_not_isBlank b hblank
  | true =>
      rw [trimStart_append_of_isBlank b hblank, trimStart_eq_self hhead,
        trimStart_eq_nil_iff.mpr hblank, List.nil_append]

theorem trimStart_trimStart_append (a b : List Char) :
    trimStart (trimStart a ++ b) = trimStart (a ++ b) := by
  cases hblank : isBlank a with
  | true =>
      rw [trimStart_eq_nil_iff.mpr hblank, List.nil_append,
        trimStart_append_of_isBlank b hblank]
  | false =>
      rw [trimStart_append_of_not_isBlank b hblank]
      apply trimStart_eq_self
      have hne : trimStart a ≠ [] := by
        intro hnil
        rw [trimStart_eq_nil_iff.mp hnil] at hblank
        contradiction
      rw [List.head?_append_of_ne_nil _ hne]
      exact fun _ => not_isSpace_head_trimStart

theorem isBlank_reverse (cs : List Char) :
    isBlank cs.reverse = isBlank cs := by
  simp [isBlank]

theorem reverse_trimEnd (cs : List Char) :
    (trimEnd cs).reverse = trimStart cs.reverse := by
  simp [trimEnd, trimStart]

theorem trimEnd_eq_nil_iff {cs : List Char} :
    trimEnd cs = [] ↔ isBlank cs = true := by
  rw [← List.reverse_eq_nil_iff, reverse_trimEnd, trimStart_eq_nil_iff, isBlank_reverse]

theorem isBlank_trimStart (cs : List Char) : isBlank (trimStart cs) = isBlank cs := by
  induction cs with
  | nil => rfl
  | cons c rest ih =>
      cases hspace : isSpace c with
      | true =>
          rw [trimStart, List.dropWhile_cons_of_pos hspace, ← trimStart, ih]
          simp [isBlank, hspace]
      | false =>
          rw [trimStart, List.dropWhile_cons_of_neg (by simp [hspace])]

theorem trim_eq_nil_iff {cs : List Char} : trim cs = [] ↔ isBlank cs = true := by
  rw [trim, trimEnd_eq_nil_iff, isBlank_trimStart]

theorem trimEnd_append_of_isBlank (a : List Char) {b : List Char}
    (hblank : isBlank b = true) :
    trimEnd (a ++ b) = trimEnd a := by
  apply List.reverse_injective
  rw [← isBlank_reverse] at hblank
  rw [reverse_trimEnd, reverse_trimEnd, List.reverse_append,
    trimStart_append_of_isBlank _ hblank]

theorem trimEnd_append_of_not_isBlank (a : List Char) {b : List Char}
    (hblank : isBlank b = false) :
    trimEnd (a ++ b) = a ++ trimEnd b := by
  apply List.reverse_injective
  rw [← isBlank_reverse] at hblank
  rw [List.reverse_append, reverse_trimEnd, reverse_trimEnd, List.reverse_append,
    trimStart_append_of_not_isBlank _ hblank]

theorem trim_append_of_isBlank (a : List Char) {b : List Char} (hblank : isBlank b = true) :
    trim (a ++ b) = trim a := by
  rw [trim, trim]
  cases hfront : isBlank a with
  | true =>
      rw [trimStart_append_of_isBlank b hfront, trimStart_eq_nil_iff.mpr hblank,
        trimStart_eq_nil_iff.mpr hfront]
  | false =>
      rw [trimStart_append_of_not_isBlank b hfront, trimEnd_append_of_isBlank _ hblank]

theorem trimEnd_eq_self {cs : List Char}
    (hlast : ∀ c ∈ cs.getLast?, isSpace c = false) :
    trimEnd cs = cs := by
  apply List.reverse_injective
  rw [reverse_trimEnd]
  apply trimStart_eq_self
  simpa using hlast

/-- What trimming takes from the end of a text is blank. -/
theorem exists_eq_trimEnd_append (cs : List Char) :
    ∃ blank, cs = trimEnd cs ++ blank ∧ isBlank blank = true := by
  refine ⟨(cs.reverse.takeWhile isSpace).reverse, ?_, ?_⟩
  · apply List.reverse_injective
    rw [List.reverse_append, List.reverse_reverse, reverse_trimEnd, trimStart,
      List.takeWhile_append_dropWhile]
  · rw [isBlank_reverse, isBlank, List.all_eq_true]
    exact fun _ => List.mem_takeWhile_imp

theorem mem_of_mem_trimEnd {cs : List Char} {c : Char} (hc : c ∈ trimEnd cs) : c ∈ cs := by
  rw [trimEnd, List.mem_reverse] at hc
  exact List.mem_reverse.mp ((List.dropWhile_sublist isSpace).mem hc)

theorem mem_of_mem_trim {cs : List Char} {c : Char} (hc : c ∈ trim cs) : c ∈ cs :=
  (List.dropWhile_sublist isSpace).mem (mem_of_mem_trimEnd hc)

structure Trimmed (cs : List Char) : Prop where
  head : ∀ c ∈ cs.head?, isSpace c = false
  last : ∀ c ∈ cs.getLast?, isSpace c = false

instance (cs : List Char) : Decidable (Trimmed cs) :=
  decidable_of_iff
    (cs.head?.all (fun c => !isSpace c) = true ∧ cs.getLast?.all (fun c => !isSpace c) = true)
    <| by
  simp only [Option.all_eq_true, Bool.not_eq_true']
  exact ⟨fun h => ⟨h.1, h.2⟩, fun h => ⟨h.head, h.last⟩⟩

theorem Trimmed.trim_eq {cs : List Char} (htrimmed : Trimmed cs) :
    trim cs = cs := by
  rw [trim, trimStart_eq_self htrimmed.head, trimEnd_eq_self htrimmed.last]

theorem trimmed_trim (cs : List Char) : Trimmed (trim cs) := by
  obtain ⟨blank, hsplit, -⟩ := exists_eq_trimEnd_append (trimStart cs)
  constructor
  · intro c hc
    have hhead : c ∈ (trimStart cs).head? := by
      rw [hsplit]
      exact List.mem_head?_append_of_mem_head? hc
    exact not_isSpace_head_trimStart hhead
  · intro c hc
    have hhead : c ∈ (trimStart (trimStart cs).reverse).head? := by
      rw [← reverse_trimEnd, List.head?_reverse]
      exact hc
    exact not_isSpace_head_trimStart hhead

theorem Trimmed.not_isBlank {cs : List Char} (htrimmed : Trimmed cs) (hne : cs ≠ []) :
    isBlank cs = false := by
  cases hblank : isBlank cs with
  | false => rfl
  | true =>
      have hnil := trimStart_eq_nil_iff.mpr hblank
      rw [trimStart_eq_self htrimmed.head] at hnil
      contradiction

end QueryBook.Text
