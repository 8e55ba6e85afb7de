import QueryBook.Proofs.LineLayout
import QueryBook.Proofs.MarkerSeam
import Mathlib.Data.List.Forall2

/-!
# Texts that end their lines differently

A line ends in a carriage return with its line feed or in any other single break.  Two texts
that differ in these endings only have the same lines, and they stay alike when they are
trimmed or cut at their markers.  A carriage return without a line feed is left out, since
it would be taken together with a feed that another ending puts behind it.
-/

namespace QueryBook

namespace Text

inductive LineEnd : List Char → Prop
  | pair : LineEnd ['\r', '\n']
  | single {c : Char} (hbreak : isLineBreak c = true) (hreturn : c ≠ '\r') : LineEnd [c]

/-- Two texts that are the same but for the endings of their lines. -/
inductive LineAlike : List Char → List Char → Prop
  | nil : LineAlike [] []
  | char {c : Char} {cs ds : List Char} (hc : isLineBreak c = false)
      (halike : LineAlike cs ds) :
      LineAlike (c :: cs) (c :: ds)
  | ending {e e' cs ds : List Char} (he : LineEnd e) (he' : LineEnd e')
      (halike : LineAlike cs ds) :
      LineAlike (e ++ cs) (e' ++ ds)

namespace LineEnd

variable {e : List Char} (he : LineEnd e)
include he

theorem exists_cons : ∃ c rest, e = c :: rest ∧ isLineBreak c = true := by
  cases he with
  | pair => exact ⟨'\r', ['\n'], rfl, isLineBreak_return⟩
  | single hbreak => exact ⟨_, [], rfl, hbreak⟩

theorem isBlank : isBlank e = true := by
  cases he with
  | pair => decide
  | single hbreak => simp [Text.isBlank, isSpace_of_isLineBreak hbreak]

theorem lines_append (rest : List Char) : lines (e ++ rest) = [] :: lines rest := by
  cases he with
  | pair => rfl
  | single hbreak hreturn => exact lines_of_isLineBreak rest hbreak hreturn

end LineEnd

namespace LineAlike

theorem refl_of_unbroken {cs : List Char} (hunbroken : Unbroken cs) : LineAlike cs cs := by
  induction cs with
  | nil => exact nil
  | cons c cs ih =>
      obtain ⟨hc, hrest⟩ := List.forall_mem_cons.mp hunbroken
      exact char hc (ih hrest)

variable {cs ds : List Char}

theorem lines_eq (halike : LineAlike cs ds) : lines cs = lines ds := by
  induction halike with
  | nil => rfl
  | char hc _ ih => rw [lines_of_not_isLineBreak _ hc, lines_of_not_isLineBreak _ hc, ih]
  | ending he he' _ ih => rw [he.lines_append, he'.lines_append, ih]

theorem isBlank_eq (halike : LineAlike cs ds) : isBlank cs = isBlank ds := by
  induction halike with
  | nil => rfl
  | char _ _ ih =>
      simp only [isBlank, List.all_cons] at ih ⊢
      rw [ih]
  | ending he he' _ ih =>
      have hblank := he.isBlank
      have hblank' := he'.isBlank
      simp only [isBlank, List.all_append] at ih hblank hblank' ⊢
      rw [hblank, hblank', ih]

theorem append {as bs : List Char} (hfront : LineAlike as bs) (halike : LineAlike cs ds) :
    LineAlike (as ++ cs) (bs ++ ds) := by
  induction hfront with
  | nil => exact halike
  | char hc _ ih => exact char hc ih
  | ending he he' _ ih =>
      rw [List.append_assoc, List.append_assoc]
      exact ending he he' ih

theorem trimStart (halike : LineAlike cs ds) : LineAlike (trimStart cs) (trimStart ds) := by
  induction halike with
  | nil => exact nil
  | char hc halike ih =>
      unfold Text.trimStart at ih ⊢
      rw [List.dropWhile_cons, List.dropWhile_cons]
      split
      · exact ih
      · exact char hc halike
  | ending he he' _ ih =>
      rw [trimStart_append_of_isBlank _ he.isBlank, trimStart_append_of_isBlank _ he'.isBlank]
      exact ih

/-- The end of a text is trimmed in its back part, or in its front if the back is blank. -/
theorem trimEnd_append {as bs : List Char} (hfront : LineAlike as bs)
    (htrimmed : LineAlike (trimEnd as) (trimEnd bs)) (halike : LineAlike cs ds)
    (ih : LineAlike (trimEnd cs) (trimEnd ds)) :
    LineAlike (trimEnd (as ++ cs)) (trimEnd (bs ++ ds)) := by
  have hsame := halike.isBlank_eq
  cases hblank : isBlank ds with
  | true =>
      rw [hblank] at hsame
      rw [trimEnd_append_of_isBlank _ hsame, trimEnd_append_of_isBlank _ hblank]
      exact htrimmed
  | false =>
      rw [hblank] at hsame
      rw [trimEnd_append_of_not_isBlank _ hsame, trimEnd_append_of_not_isBlank _ hblank]
      exact hfront.append ih

theorem trimEnd (halike : LineAlike cs ds) : LineAlike (trimEnd cs) (trimEnd ds) := by
  induction halike with
  | nil => exact nil
  | @char c cs ds hc halike ih =>
      have hunbroken : Unbroken [c] := by
        simpa [Unbroken] using hc
      have htrimmed : Unbroken (Text.trimEnd [c]) :=
        fun d hd => hunbroken d (mem_of_mem_trimEnd hd)
      exact trimEnd_append (refl_of_unbroken hunbroken) (refl_of_unbroken htrimmed) halike ih
  | @ending e e' cs ds he he' halike ih =>
      have hfront : LineAlike e e' := by
        simpa using ending he he' nil
      have htrimmed : LineAlike (Text.trimEnd e) (Text.trimEnd e') := by
        rw [trimEnd_eq_nil_iff.mpr he.isBlank, trimEnd_eq_nil_iff.mpr he'.isBlank]
        exact nil
      exact trimEnd_append hfront htrimmed halike ih

theorem trim (halike : LineAlike cs ds) : LineAlike (trim cs) (trim ds) :=
  halike.trimStart.trimEnd

/-- A word without breaks is found in front of both texts or of neither. -/
theorem dropPrefix? (halike : LineAlike cs ds) {word : List Char} (hword : Unbroken word) :
    Option.Rel LineAlike (cs.dropPrefix? word) (ds.dropPrefix? word) := by
  induction word generalizing cs ds with
  | nil => simpa using Option.Rel.some halike
  | cons w word ih =>
      obtain ⟨hw, hrest⟩ := List.forall_mem_cons.mp hword
      cases halike with
      | nil => exact Option.Rel.none
      | @char c cs ds hc halike =>
          by_cases heq : c = w
          · simpa [List.dropPrefix?, heq] using ih halike hrest
          · simp [List.dropPrefix?, heq]
      | @ending e e' cs ds he he' halike =>
          have hnone {e : List Char} (he : LineEnd e) (rest : List Char) :
              (e ++ rest).dropPrefix? (w :: word) = none := by
            obtain ⟨c, tail, rfl, hc⟩ := he.exists_cons
            have hne : c ≠ w := by
              rintro rfl
              rw [hw] at hc
              contradiction
            simp [List.dropPrefix?, hne]
          rw [hnone he, hnone he']
          exact Option.Rel.none

end LineAlike

end Text

/-! ## Markers -/

namespace Marker

theorem rel_bind {α β γ δ : Type} {r : α → β → Prop} {s : γ → δ → Prop}
    {a : Option α} {b : Option β} (hab : Option.Rel r a b)
    {f : α → Option γ} {g : β → Option δ} (hfg : ∀ x y, r x y → Option.Rel s (f x) (g y)) :
    Option.Rel s (a.bind f) (b.bind g) := by
  cases hab with
  | none => exact Option.Rel.none
  | some hxy => exact hfg _ _ hxy

theorem rel_after? {cs ds : List Char} (halike : Text.LineAlike cs ds) :
    Option.Rel Text.LineAlike (after? cs) (after? ds) := by
  rw [after?_eq, after?_eq]
  refine rel_bind (halike.dropPrefix? (by decide)) fun rest rest' hrest => ?_
  refine rel_bind (hrest.trimStart.dropPrefix? (by decide)) fun rest rest' hrest => ?_
  rw [Option.map_eq_bind, Option.map_eq_bind]
  refine rel_bind (hrest.trimStart.dropPrefix? (by decide)) fun left left' hleft => ?_
  exact Option.Rel.some hleft.trimStart

theorem after?_lineEnd_append {e : List Char} (he : Text.LineEnd e) (rest : List Char) :
    after? (e ++ rest) = none := by
  obtain ⟨c, tail, rfl, hc⟩ := he.exists_cons
  cases hafter : after? (c :: (tail ++ rest)) with
  | none => exact hafter
  | some left =>
      obtain ⟨others, heq⟩ := dashes_of_after? hafter
      obtain ⟨rfl, -⟩ := List.cons.inj heq
      have hdash : Text.isLineBreak '-' = false := by
        decide
      rw [hdash] at hc
      contradiction

end Marker

namespace Segmentation

/-- The openings are alike, and so are the segments one by one. -/
structure Alike (s t : Segmentation) : Prop where
  opening : Text.LineAlike s.opening t.opening
  bodies : List.Forall₂ Text.LineAlike (s.segments.map Segment.body)
    (t.segments.map Segment.body)

theorem ofText_lineEnd_append {e : List Char} (he : Text.LineEnd e) (rest : List Char) :
    ofText (e ++ rest) = ⟨e ++ (ofText rest).opening, (ofText rest).segments⟩ := by
  have hfirst := Marker.after?_lineEnd_append he rest
  cases he with
  | pair =>
      have hfeed := Marker.after?_lineEnd_append
        (.single Text.isLineBreak_feed (by decide)) rest
      simp only [List.cons_append, List.nil_append] at hfirst hfeed ⊢
      rw [ofText, cutAfter_of_none hfirst, cutAfter_of_none hfeed]
      rfl
  | single =>
      simp only [List.cons_append, List.nil_append] at hfirst ⊢
      rw [ofText, cutAfter_of_none hfirst]
      rfl

theorem alike_ofText {cs ds : List Char} (halike : Text.LineAlike cs ds) :
    (ofText cs).Alike (ofText ds) := by
  -- a marker takes several characters at once, so the induction is on the length
  induction hlength : cs.length using Nat.strong_induction_on generalizing cs ds with
  | _ n ih =>
  have hshorter {cs' ds' : List Char} (halike' : Text.LineAlike cs' ds')
      (hless : cs'.length < cs.length) : (ofText cs').Alike (ofText ds') :=
    ih cs'.length (hlength ▸ hless) halike' rfl
  have hafter := Marker.rel_after? halike
  cases halike with
  | nil => exact ⟨.nil, .nil⟩
  | @char c cs ds hc halike =>
      generalize hcs : Marker.after? (c :: cs) = left at hafter
      generalize hds : Marker.after? (c :: ds) = left' at hafter
      cases hafter with
      | none =>
          obtain ⟨hopening, hbodies⟩ := hshorter halike (by simp)
          rw [ofText, ofText, cutAfter_of_none hcs, cutAfter_of_none hds]
          exact ⟨.char hc hopening, hbodies⟩
      | some hleft =>
          obtain ⟨marker, hne, hsplit, hcut⟩ := ofText_of_after? hcs
          obtain ⟨marker', -, -, hcut'⟩ := ofText_of_after? hds
          have hless := List.length_pos_iff.mpr hne
          obtain ⟨hopening, hbodies⟩ := hshorter hleft (by
            rw [hsplit, List.length_append]
            omega)
          rw [hcut, hcut']
          exact ⟨.nil, .cons hopening hbodies⟩
  | @ending e e' cs ds he he' halike =>
      obtain ⟨c, tail, rfl, -⟩ := he.exists_cons
      obtain ⟨hopening, hbodies⟩ := hshorter halike (by
        rw [List.length_append, List.length_cons]
        omega)
      rw [ofText_lineEnd_append he, ofText_lineEnd_append he']
      exact ⟨.ending he he' hopening, hbodies⟩

end Segmentation

end QueryBook
