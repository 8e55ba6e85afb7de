import QueryBook.Proofs.EntryReading
import QueryBook.Proofs.WellFormedQueries

/-!
# Canonical texts

A compiled query can be written as an entry: its header line, a comment line for each line of
its documentation, and its body.  The text of that entry compiles to the same query, although
it moves every comment in front of the body.  What needs an argument is the end of the text:
a definition is trimmed before it is cut, so its last line ends in something visible, and if
the body is empty that line is the comment whose text is the last line of documentation.
-/

namespace QueryBook

namespace Definition

theorem visible_end_of_mem_getLast?_split (text : List Char) :
    ∀ line ∈ (split text).2.getLast?, ∃ c ∈ line.getLast?, Text.isSpace c = false := by
  intro line hline
  unfold split at hline
  split at hline
  · cases hline
  · next header rest htext =>
    have hne : Text.trim text ≠ [] := by
      intro hnil
      rw [hnil] at htext
      cases htext
    have hend : (Text.trim text).getLast? = some ((Text.trim text).getLast hne) :=
      List.getLast?_eq_some_getLast hne
    have hspace := (Text.trimmed_trim text).last _ hend
    have hbreak := Text.not_isLineBreak_of_not_isSpace hspace
    obtain ⟨last, hlast, hc⟩ := Text.getLast?_lines hend hbreak
    rw [htext, List.mem_getLast?_cons hline] at hlast
    obtain rfl := Option.some.inj hlast
    exact ⟨_, hc, hspace⟩

end Definition

namespace Block

variable {ls : List (List Char)}

/-- If all code lines are blank, the last line is a comment and ends like its text. -/
theorem visible_end_of_mem_getLast?_docs (hls : ∀ line ∈ ls, Text.Unbroken line)
    (hend : ∀ line ∈ ls.getLast?, ∃ c ∈ line.getLast?, Text.isSpace c = false)
    (hcode : ∀ line ∈ ls, Comment.text? line = none → Text.isBlank line = true) :
    ∀ doc ∈ (ls.filterMap Comment.text?).getLast?, ∀ c ∈ doc.getLast?,
      Text.isSpace c = false := by
  cases ls using List.reverseRec with
  | nil => simp
  | append_singleton front last =>
      have hmem : last ∈ front ++ [last] := by
        simp
      obtain ⟨d, hd, hvisible⟩ := hend last (by simp)
      -- a code line cannot be the last, for it would be blank and still end visibly
      cases htext : Comment.text? last with
      | none =>
          have hblank := hcode last hmem htext
          rw [Text.isBlank, List.all_eq_true] at hblank
          rw [hblank d (List.mem_of_getLast? hd)] at hvisible
          contradiction
      | some text =>
          obtain ⟨⟨before, hlast⟩, -⟩ := Comment.suffix_of_text? (hls last hmem) htext
          intro doc hdoc c hc
          obtain rfl : text = doc := by
            simpa [List.filterMap_append, htext] using hdoc
          rw [← hlast, List.mem_getLast?_append_of_mem_getLast? hc] at hd
          obtain rfl := Option.some.inj hd
          exact hvisible

end Block

namespace Query

theorem WellFormed.code_feedRows {q : Query} (hformed : q.WellFormed) :
    ∀ row ∈ Text.feedRows q.body.toList, ¬['-', '-'] <+: Text.trimStart row := by
  have hnil : ¬['-', '-'] <+: Text.trimStart [] := by
    decide
  exact (hformed.body.forall_mem_feedRows_iff hformed.breaks hnil).mpr hformed.code

end Query

namespace Definition

variable (text : List Char)

theorem visible_end_of_body_eq_nil
    (hempty : (Block.ofLines (split text).2).body.toList = []) :
    ∀ doc ∈ (docLines text).getLast?, ∀ c ∈ doc.getLast?, Text.isSpace c = false := by
  have hunbroken := unbroken_of_mem_split text
  rw [Block.body_ofLines hunbroken, Text.trim_eq_nil_iff, Text.isBlank_unlines_iff] at hempty
  apply Block.visible_end_of_mem_getLast?_docs hunbroken
  · exact visible_end_of_mem_getLast?_split text
  · intro line hline hnone
    apply hempty
    rw [List.mem_filter, decide_eq_true_iff]
    exact ⟨hline, (Comment.text?_eq_none_iff (hunbroken line hline)).mp hnone⟩

/-- A definition under a header as an entry, its comments in front of its body. -/
def entry (h : Header) : Entry where
  header := h
  docs := (docLines text).map String.ofList
  body := (Block.ofLines (split text).2).body

variable (h : Header)

theorem toList_docs_entry : (entry text h).docs.map String.toList = docLines text := by
  simp [entry, List.map_map, Function.comp_def]

theorem entry?_ofDeclared : Query.entry? (Query.ofDeclared text h) = some (entry text h) := by
  have hdocs : Text.lines (Query.ofDeclared text h).docs.toList = docLines text := by
    have hrows : (Query.ofDeclared text h).docs.toList = Text.unlines (docLines text) :=
      Block.docs_ofLines
    rw [hrows, Text.lines_unlines fun line hline =>
      (unbroken_of_mem_docLines text line hline).1]
  rw [entry, ← hdocs]
  rfl

theorem query_entry : (entry text h).query = Query.ofDeclared text h := by
  have hdocs : String.join ((entry text h).docs.map fun line => line ++ "\n") =
      (Query.ofDeclared text h).docs := by
    rw [← Entry.ofList_unlines, toList_docs_entry, docLines, ← Block.docs_ofLines,
      String.ofList_toList]
    rfl
  rw [Entry.query, hdocs]
  rfl

variable {text h}

theorem readable_entry (hdeclares : Declares text h) : (entry text h).Readable := by
  have hformed := Query.wellFormed_of_ofDefinition (Query.ofDefinition_of_declares hdeclares)
  constructor
  case name => exact hdeclares.name
  case docs =>
    intro line hline
    apply unbroken_of_mem_docLines text
    rw [← toList_docs_entry text h]
    exact List.mem_map_of_mem hline
  case ending =>
    intro hempty line hline
    apply visible_end_of_body_eq_nil text hempty
    rw [← toList_docs_entry text h, List.getLast?_map]
    exact Option.mem_map_of_mem String.toList hline
  case body => exact hformed.body
  case breaks => exact hformed.breaks
  case code => exact hformed.code_feedRows

end Definition

/-- Every definition that compiles has a canonical text, and it compiles to the same query. -/
theorem compileDefinition_canonicalText {options : CompileOptions} {text : List Char} {q : Query}
    (hcompiled : (compileDefinition options text).outcome = .ok q) :
    ∃ e, q.entry? = some e ∧
      ∀ other : CompileOptions, (compileDefinition other e.text.toList).outcome = .ok q := by
  rw [compileDefinition_outcome, Query.ofDefinition_eq_ok_iff_declares] at hcompiled
  obtain ⟨h, hdeclares, rfl⟩ := hcompiled
  refine ⟨Definition.entry text h, Definition.entry?_ofDeclared text h, fun other => ?_⟩
  rw [compileDefinition_outcome, (Definition.readable_entry hdeclares).ofDefinition_text,
    Definition.query_entry]

/-- Documentation that opens with a dash and ends in white space, an empty comment, and a body
that holds what looks like a marker. -/
def scatteredText : String :=
  " pick?  \n\t--- One \t\n select '-- name: x'\n--\n\n  , ?\n --  Two.  \n"

def scatteredQuery : Query where
  name := "pick"
  operation := .operation .selectOneRow
  body := "select '-- name: x'\n\n  , ?"
  docs := "- One \t\n\nTwo.\n"
  params := [.positional]

theorem compileDefinition_canonicalText_scattered :
    (compileDefinition {} scatteredText.toList).outcome = .ok scatteredQuery ∧
      ∃ e, scatteredQuery.entry? = some e ∧
        ∀ other : CompileOptions,
          (compileDefinition other e.text.toList).outcome = .ok scatteredQuery := by
  have hcompiled : (compileDefinition {} scatteredText.toList).outcome = .ok scatteredQuery := by
    rfl
  exact ⟨hcompiled, compileDefinition_canonicalText hcompiled⟩

example :
    scatteredQuery.entry?.map Entry.text =
      some "pick?\n-- - One \t\n-- \n-- Two.\nselect '-- name: x'\n\n  , ?" := by
  rfl

end QueryBook
