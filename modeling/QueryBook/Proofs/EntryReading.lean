import QueryBook.Listing
import QueryBook.Proofs.CommentSeparation
import QueryBook.Proofs.CompiledDefinition

/-!
# Reading written definitions

The text of an entry is read as the query of that entry.  A text is trimmed at its end before
it is cut into lines.  That leaves the body alone, which is trimmed already, and shortens the
last line of documentation only where no body follows it.
-/

namespace QueryBook

/-- A header line is split off whatever stands below it. -/
theorem Definition.split_line_append {h : Header} (hname : Header.isName h.name.toList = true)
    (rest : List Char) :
    split (h.line.toList ++ '\n' :: rest) =
      (h.line.toList, Text.lines (Text.trimEnd rest)) := by
  have hunbroken : Text.Unbroken h.line.toList := fun c hc =>
    Text.not_isLineBreak_of_not_isSpace (Header.not_isSpace_of_mem_line hname hc)
  have htrimmed := Header.trimmed_line hname
  have hblank := htrimmed.not_isBlank (Header.line_ne_nil hname)
  rw [split, Text.trim, Text.trimStart_eq_self (Header.not_isSpace_head_line_append hname _),
    Text.lines_trimEnd_append_feed hunbroken hblank, Text.trimEnd_eq_self htrimmed.last,
    ite_self]

theorem Query.ofDefinition_line_append {h : Header}
    (hname : Header.isName h.name.toList = true) (rest : List Char) :
    ofDefinition (h.line.toList ++ '\n' :: rest) =
      .ok (ofBlock h (Block.ofLines (Text.lines (Text.trimEnd rest)))) := by
  rw [ofDefinition_eq_ok_iff, Definition.split_line_append hname, String.ofList_toList]
  exact ⟨h, Header.read_line hname, rfl⟩

namespace Entry

def commentRow (line : String) : List Char :=
  '-' :: '-' :: ' ' :: line.toList

theorem toList_comments (docs : List String) :
    (comments docs).toList = Text.unlines (docs.map commentRow) := by
  induction docs with
  | nil => simp [comments, Text.unlines]
  | cons line docs ih =>
      rw [comments, List.map_cons, String.join_cons, String.toList_append]
      rw [comments] at ih
      rw [ih, List.map_cons, Text.unlines, Text.unlines, List.flatMap_cons, commentLine,
        String.toList_append, String.toList_append]
      rfl

theorem toList_text (e : Entry) :
    e.text.toList =
      e.header.line.toList ++
        '\n' :: (Text.unlines (e.docs.map commentRow) ++ e.body.toList) := by
  have hfeed : "\n".toList = ['\n'] := rfl
  simp [text, toList_comments, hfeed]

theorem ofList_unlines (docs : List String) :
    String.ofList (Text.unlines (docs.map String.toList)) =
      String.join (docs.map fun line => line ++ "\n") := by
  apply String.toList_injective
  rw [String.toList_ofList, String.toList_join, Text.unlines, List.flatMap_map,
    List.flatMap_map]
  apply List.flatMap_congr
  intro line _
  rw [String.toList_append]
  rfl

/-- An entry whose text is read back as it was written.  White space at the end of a line of
documentation is kept if anything follows it. -/
structure Readable (e : Entry) : Prop where
  name : Header.isName e.header.name.toList = true
  docs : ∀ line ∈ e.docs,
    Text.Unbroken line.toList ∧ ∀ c ∈ line.toList.head?, Text.isSpace c = false
  ending : e.body.toList = [] →
    ∀ line ∈ e.docs.getLast?, ∀ c ∈ line.toList.getLast?, Text.isSpace c = false
  body : Text.Trimmed e.body.toList
  breaks : ∀ c ∈ e.body.toList, Text.isLineBreak c = true → c = '\n'
  code : ∀ row ∈ Text.feedRows e.body.toList, ¬['-', '-'] <+: Text.trimStart row

/-! ## Comment lines -/

theorem unbroken_commentRow {line : String} (hunbroken : Text.Unbroken line.toList) :
    Text.Unbroken (commentRow line) := by
  have hdash : Text.isLineBreak '-' = false := by
    decide
  have hblank : Text.isLineBreak ' ' = false := by
    decide
  intro c hc
  simp only [commentRow, List.mem_cons] at hc
  rcases hc with rfl | rfl | rfl | hc
  · exact hdash
  · exact hdash
  · exact hblank
  · exact hunbroken c hc

theorem text?_commentRow {line : String} (hunbroken : Text.Unbroken line.toList)
    (hhead : ∀ c ∈ line.toList.head?, Text.isSpace c = false) :
    Comment.text? (commentRow line) = some line.toList := by
  have hrow : Text.trimStart (commentRow line) = commentRow line :=
    Text.trimStart_eq_self (by simp [commentRow]; decide)
  have htext : Text.trimStart (' ' :: line.toList) = line.toList :=
    Text.trimStart_eq_self hhead
  obtain ⟨hsome, -⟩ := Comment.text?_of_dashes (unbroken_commentRow hunbroken) hrow
  rw [hsome, htext]

/-- An empty line of documentation loses its blank at the end of a text. -/
theorem text?_trimEnd_commentRow {line : String} (hunbroken : Text.Unbroken line.toList)
    (htrimmed : Text.Trimmed line.toList) :
    Comment.text? (Text.trimEnd (commentRow line)) = some line.toList := by
  by_cases hline : line.toList = []
  · rw [commentRow, hline]
    decide
  · have hrow : Text.trimEnd (commentRow line) = commentRow line := by
      apply Text.trimEnd_eq_self
      intro c hc
      apply htrimmed.last
      rw [commentRow, List.getLast?_cons_of_ne_nil (by simp),
        List.getLast?_cons_of_ne_nil (by simp), List.getLast?_cons_of_ne_nil hline] at hc
      exact hc
    rw [hrow]
    exact text?_commentRow hunbroken htrimmed.head

theorem isBlank_comments_append (line : String) (docs : List String) (rest : List Char) :
    Text.isBlank (Text.unlines ((line :: docs).map commentRow) ++ rest) = false := by
  rw [List.map_cons, Text.unlines_cons]
  rfl

/-- Comment lines in front of a text become its first lines of documentation.  The last of
them is trimmed with the text if nothing but white space follows. -/
theorem separate_comments_append {docs : List String} {rest : List Char}
    (hdocs : ∀ line ∈ docs,
      Text.Unbroken line.toList ∧ ∀ c ∈ line.toList.head?, Text.isSpace c = false)
    (hending : Text.isBlank rest = true →
      ∀ line ∈ docs.getLast?, ∀ c ∈ line.toList.getLast?, Text.isSpace c = false) :
    Comment.separate (Text.lines (Text.trimEnd
        (Text.unlines (docs.map commentRow) ++ rest))) =
      (Text.unlines (docs.map String.toList) ++
          (Comment.separate (Text.lines (Text.trimEnd rest))).1,
        (Comment.separate (Text.lines (Text.trimEnd rest))).2) := by
  induction docs with
  | nil => rfl
  | cons line docs ih =>
      obtain ⟨⟨hunbroken, hhead⟩, hothers⟩ := List.forall_mem_cons.mp hdocs
      have htail := ih hothers fun hblank other hother =>
        hending hblank other (List.mem_getLast?_cons hother)
      have hrows :
          Text.unlines ((line :: docs).map commentRow) ++ rest =
            commentRow line ++ '\n' :: (Text.unlines (docs.map commentRow) ++ rest) := by
        simp [Text.unlines]
      have hblank : Text.isBlank (commentRow line) = false := by
        rfl
      have htext :
          Comment.text?
              (if Text.isBlank (Text.unlines (docs.map commentRow) ++ rest) then
                Text.trimEnd (commentRow line)
              else commentRow line) =
            some line.toList := by
        split
        · next hrest =>
          cases docs with
          | nil =>
              exact text?_trimEnd_commentRow hunbroken ⟨hhead, hending hrest line rfl⟩
          | cons other docs =>
              rw [isBlank_comments_append] at hrest
              cases hrest
        · exact text?_commentRow hunbroken hhead
      rw [hrows, Text.lines_trimEnd_append_feed (unbroken_commentRow hunbroken) hblank,
        Comment.separate_cons_of_some htext, htail]
      simp [Text.unlines]

/-! ## Entries -/

namespace Readable

variable {e : Entry} (hreadable : e.Readable)
include hreadable

theorem separate_body :
    ∃ body,
      Comment.separate (Text.lines (Text.trimEnd e.body.toList)) = ([], body) ∧
        Text.trim body = e.body.toList := by
  have hfeed : Text.isBlank ['\n'] = true := by
    decide
  rw [Text.trimEnd_eq_self hreadable.body.last]
  by_cases hne : e.body.toList = []
  · rw [hne]
    exact ⟨[], rfl, rfl⟩
  · refine ⟨e.body.toList ++ ['\n'], ?_, ?_⟩
    · rw [hreadable.body.lines_eq_feedRows hreadable.breaks hne,
        Comment.separate_of_none fun row hrow =>
          Comment.text?_eq_none (hreadable.code row hrow),
        Text.unlines_feedRows]
    · rw [Text.trim_append_of_isBlank _ hfeed]
      exact hreadable.body.trim_eq

theorem ofLines_below :
    Block.ofLines (Text.lines (Text.trimEnd
        (Text.unlines (e.docs.map commentRow) ++ e.body.toList))) =
      ⟨String.join (e.docs.map fun line => line ++ "\n"), e.body⟩ := by
  obtain ⟨body, hbody, htrim⟩ := hreadable.separate_body
  have hending : Text.isBlank e.body.toList = true →
      ∀ line ∈ e.docs.getLast?, ∀ c ∈ line.toList.getLast?, Text.isSpace c = false := by
    intro hblank
    apply hreadable.ending
    by_contra hne
    rw [hreadable.body.not_isBlank hne] at hblank
    contradiction
  rw [Block.ofLines, separate_comments_append hreadable.docs hending, hbody]
  simp only [List.append_nil, htrim, ofList_unlines, String.ofList_toList]

theorem ofDefinition_text : Query.ofDefinition e.text.toList = .ok e.query := by
  rw [toList_text, Query.ofDefinition_line_append hreadable.name, hreadable.ofLines_below]
  rfl

end Readable

end Entry

end QueryBook
