import QueryBook.Comment
import QueryBook.Proofs.LineLayout
import QueryBook.Proofs.Trimming

/-!
# Comment lines set apart

The separation keeps the order of the lines: the texts of the comment lines on one side, all
other lines on the other side, each closed by a line feed.
-/

namespace QueryBook

namespace Comment

theorem separate_eq (ls : List (List Char)) :
    separate ls =
      (Text.unlines (ls.filterMap text?),
        Text.unlines (ls.filter fun line => (text? line).isNone)) := by
  induction ls with
  | nil => rfl
  | cons line rest ih =>
      rw [separate, ih]
      cases htext : text? line with
      | some text => simp [htext, Text.unlines]
      | none => simp [htext, Text.unlines]

theorem separate_cons_of_some {line text : List Char} (htext : text? line = some text)
    (rest : List (List Char)) :
    separate (line :: rest) =
      (text ++ '\n' :: (separate rest).1, (separate rest).2) := by
  rw [separate, htext]

theorem separate_of_none {ls : List (List Char)}
    (hnone : ∀ line ∈ ls, text? line = none) :
    separate ls = ([], Text.unlines ls) := by
  have hdocs : ls.filterMap text? = [] := by
    rw [List.filterMap_eq_nil_iff]
    exact hnone
  have hbody : (ls.filter fun line => (text? line).isNone) = ls := by
    rw [List.filter_eq_self]
    intro line hline
    rw [hnone line hline]
    rfl
  rw [separate_eq, hdocs, hbody]
  rfl

theorem text?_eq_none {line : List Char}
    (hdashes : ¬['-', '-'] <+: Text.trimStart line) :
    text? line = none := by
  unfold text?
  split
  · next rest htrim =>
    exact absurd (htrim ▸ List.prefix_append ['-', '-'] rest) hdashes
  · rfl

theorem withoutFinalBreak_of_not_mem {cs : List Char} (hfeed : '\n' ∉ cs) :
    withoutFinalBreak cs = cs := by
  rw [withoutFinalBreak, if_neg]
  intro hlast
  exact hfeed (List.mem_of_getLast? hlast)

/-- Dashes make an unbroken line a comment, and its text is the end of the line. -/
theorem text?_of_dashes {line rest : List Char} (hunbroken : Text.Unbroken line)
    (htrim : Text.trimStart line = '-' :: '-' :: rest) :
    text? line = some (Text.trimStart rest) ∧ Text.trimStart rest <:+ line := by
  have hbehind : rest <:+ Text.trimStart line := ⟨['-', '-'], htrim.symm⟩
  have hsuffix : Text.trimStart rest <:+ line :=
    (List.dropWhile_suffix _).trans (hbehind.trans (List.dropWhile_suffix _))
  have htext : Text.Unbroken (Text.trimStart rest) :=
    fun c hc => hunbroken c (hsuffix.mem hc)
  have hfeed := htext.feed_not_mem
  refine ⟨?_, hsuffix⟩
  unfold text?
  rw [htrim]
  simp only [withoutFinalBreak_of_not_mem hfeed]
  rw [if_neg hfeed]

theorem text?_eq_none_iff {line : List Char} (hunbroken : Text.Unbroken line) :
    text? line = none ↔ ¬['-', '-'] <+: Text.trimStart line := by
  refine ⟨?_, text?_eq_none⟩
  rintro hnone ⟨rest, hrest⟩
  obtain ⟨hsome, -⟩ := text?_of_dashes hunbroken hrest.symm
  rw [hsome] at hnone
  contradiction

/-- The text of an unbroken comment line is the end of the line, with no white space in
front. -/
theorem suffix_of_text? {line text : List Char} (hunbroken : Text.Unbroken line)
    (htext : text? line = some text) :
    text <:+ line ∧ ∀ c ∈ text.head?, Text.isSpace c = false := by
  have hdashes : ['-', '-'] <+: Text.trimStart line := by
    by_contra hcode
    rw [text?_eq_none hcode] at htext
    contradiction
  obtain ⟨rest, hrest⟩ := hdashes
  obtain ⟨hsome, hsuffix⟩ := text?_of_dashes hunbroken hrest.symm
  rw [hsome] at htext
  obtain rfl := Option.some.inj htext
  exact ⟨hsuffix, fun _ => Text.not_isSpace_head_trimStart⟩

end Comment

end QueryBook
