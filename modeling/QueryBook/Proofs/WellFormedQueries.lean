import QueryBook.Proofs.CatalogExtension
import QueryBook.Proofs.CommentSeparation
import QueryBook.Proofs.HeaderReading
import QueryBook.Proofs.PlaceholderOccurrences

/-!
# Compiled queries are well formed

What holds of every query that compiling can give, whatever the text: its name is a name, its
body is trimmed and free of comment lines, its documentation is a row of closed lines, and its
parameters are the placeholders of its body.  The body is made of the code lines of one
definition; trimming may shorten the first and the last of them and drop blank ones, and a
code line stays one throughout.
-/

namespace QueryBook

/-! ## Code lines -/

namespace Comment

/-- A line that is no comment line. -/
structure CodeLine (line : List Char) : Prop where
  unbroken : Text.Unbroken line
  code : ¬['-', '-'] <+: Text.trimStart line

theorem CodeLine.trimStart {line : List Char} (hline : CodeLine line) :
    CodeLine (Text.trimStart line) := by
  constructor
  · intro c hc
    exact hline.unbroken c ((List.dropWhile_sublist _).mem hc)
  · rw [Text.trimStart_eq_self fun _ => Text.not_isSpace_head_trimStart]
    exact hline.code

theorem CodeLine.trimEnd {line : List Char} (hline : CodeLine line) :
    CodeLine (Text.trimEnd line) := by
  obtain ⟨blank, hsplit, -⟩ := Text.exists_eq_trimEnd_append line
  constructor
  · intro c hc
    exact hline.unbroken c (Text.mem_of_mem_trimEnd hc)
  · intro hdashes
    have hsome : Text.isBlank (Text.trimEnd line) = false := by
      rw [← Bool.not_eq_true, ← Text.trimStart_eq_nil_iff]
      rintro hnil
      simp [hnil] at hdashes
    apply hline.code
    rw [hsplit, Text.trimStart_append_of_not_isBlank blank hsome]
    exact hdashes.trans (List.prefix_append _ _)

variable {ls : List (List Char)}

theorem exists_trimStart_unlines (hls : ∀ line ∈ ls, CodeLine line) :
    ∃ ls', Text.trimStart (Text.unlines ls) = Text.unlines ls' ∧
      ∀ line ∈ ls', CodeLine line := by
  induction ls with
  | nil => exact ⟨[], rfl, hls⟩
  | cons line ls ih =>
      obtain ⟨hline, hrest⟩ := List.forall_mem_cons.mp hls
      rw [Text.unlines_cons]
      cases hblank : Text.isBlank line with
      | true =>
          have hfeed : Text.isBlank (line ++ ['\n']) = true := by
            rw [Text.isBlank, List.all_append, ← Text.isBlank, hblank]
            decide
          rw [List.append_cons, Text.trimStart_append_of_isBlank _ hfeed]
          exact ih hrest
      | false =>
          rw [Text.trimStart_append_of_not_isBlank _ hblank, ← Text.unlines_cons]
          exact ⟨_, rfl, List.forall_mem_cons.mpr ⟨hline.trimStart, hrest⟩⟩

theorem codeLine_of_mem_lines_trimEnd (hls : ∀ line ∈ ls, CodeLine line) :
    ∀ line ∈ Text.lines (Text.trimEnd (Text.unlines ls)), CodeLine line := by
  induction ls with
  | nil => exact hls
  | cons line ls ih =>
      obtain ⟨hline, hrest⟩ := List.forall_mem_cons.mp hls
      rw [Text.unlines_cons, List.append_cons]
      cases hblank : Text.isBlank (Text.unlines ls) with
      | true =>
          -- this is the last line with something on it, and it may lose its own end
          have hfeed : Text.isBlank ['\n'] = true := by
            decide
          rw [Text.trimEnd_append_of_isBlank _ hblank, Text.trimEnd_append_of_isBlank _ hfeed]
          by_cases hnil : Text.trimEnd line = []
          · rw [hnil]
            simp [Text.lines]
          · rw [Text.lines_of_unbroken hline.trimEnd.unbroken hnil]
            simpa using hline.trimEnd
      | false =>
          rw [Text.trimEnd_append_of_not_isBlank _ hblank, ← List.append_cons,
            Text.lines_append_feed hline.unbroken]
          exact List.forall_mem_cons.mpr ⟨hline, ih hrest⟩

theorem codeLine_of_mem_lines_trim (hls : ∀ line ∈ ls, CodeLine line) :
    ∀ line ∈ Text.lines (Text.trim (Text.unlines ls)), CodeLine line := by
  obtain ⟨ls', htrim, hls'⟩ := exists_trimStart_unlines hls
  rw [Text.trim, htrim]
  exact codeLine_of_mem_lines_trimEnd hls'

end Comment

/-! ## Blocks -/

namespace Definition

/-- The lines below the header that are no comments. -/
def codeLines (text : List Char) : List (List Char) :=
  (split text).2.filter fun line => ¬['-', '-'] <+: Text.trimStart line

/-- The texts of the comments below the header. -/
def docLines (text : List Char) : List (List Char) :=
  (split text).2.filterMap Comment.text?

theorem unbroken_of_mem_split (text : List Char) :
    ∀ line ∈ (split text).2, Text.Unbroken line := by
  have hlines := Text.unbroken_sublist_of_mem_lines (Text.trim text)
  unfold split
  split
  · simp
  · next header rest htext =>
    rw [htext, List.forall_mem_cons] at hlines
    exact fun line hline => (hlines.2 line hline).1

theorem codeLine_of_mem_codeLines (text : List Char) :
    ∀ line ∈ codeLines text, Comment.CodeLine line := by
  intro line hline
  rw [codeLines, List.mem_filter, decide_eq_true_iff] at hline
  exact ⟨unbroken_of_mem_split text line hline.1, hline.2⟩

theorem unbroken_of_mem_docLines (text : List Char) :
    ∀ line ∈ docLines text, Text.Unbroken line ∧ ∀ c ∈ line.head?, Text.isSpace c = false := by
  intro doc hdoc
  obtain ⟨line, hline, htext⟩ := List.mem_filterMap.mp hdoc
  have hunbroken := unbroken_of_mem_split text line hline
  obtain ⟨hsuffix, hhead⟩ := Comment.suffix_of_text? hunbroken htext
  exact ⟨fun c hc => hunbroken c (hsuffix.mem hc), hhead⟩

end Definition

namespace Block

variable {ls : List (List Char)}

theorem docs_ofLines :
    (ofLines ls).docs.toList = Text.unlines (ls.filterMap Comment.text?) := by
  rw [ofLines, Comment.separate_eq]
  exact String.toList_ofList

theorem body_ofLines (hls : ∀ line ∈ ls, Text.Unbroken line) :
    (ofLines ls).body.toList =
      Text.trim (Text.unlines
        (ls.filter fun line => ¬['-', '-'] <+: Text.trimStart line)) := by
  have hfilter :
      (ls.filter fun line => (Comment.text? line).isNone) =
        ls.filter fun line => ¬['-', '-'] <+: Text.trimStart line := by
    apply List.filter_congr
    intro line hline
    rw [Bool.eq_iff_iff, Option.isNone_iff_eq_none, decide_eq_true_iff]
    exact Comment.text?_eq_none_iff (hls line hline)
  rw [ofLines, Comment.separate_eq, hfilter]
  exact String.toList_ofList

end Block

/-! ## Queries -/

namespace Query

structure WellFormed (q : Query) : Prop where
  name : Header.isName q.name.toList = true
  body : Text.Trimmed q.body.toList
  breaks : ∀ c ∈ q.body.toList, Text.isLineBreak c = true → c = '\n'
  code : ∀ line ∈ Text.lines q.body.toList, ¬['-', '-'] <+: Text.trimStart line
  docs : ∃ lines, q.docs.toList = Text.unlines lines ∧
    ∀ line ∈ lines, Text.Unbroken line ∧ ∀ c ∈ line.head?, Text.isSpace c = false
  params : q.params = Placeholder.occurrences q.body.toList
  count : q.params.length =
    (List.range q.body.toList.length).countP fun place =>
      (Placeholder.atPlace? q.body.toList place).isSome

variable {text : List Char} {q : Query}

theorem body_of_ofDefinition (hcompiled : ofDefinition text = .ok q) :
    q.body.toList = Text.trim (Text.unlines (Definition.codeLines text)) := by
  obtain ⟨header, -, rfl⟩ := ofDefinition_eq_ok_iff.mp hcompiled
  exact Block.body_ofLines (Definition.unbroken_of_mem_split text)

theorem params_eq_occurrences (hcompiled : ofDefinition text = .ok q) :
    q.params = Placeholder.occurrences q.body.toList := by
  rw [params_of_ofDefinition hcompiled, Placeholder.placeholders_eq_occurrences]

/-- The parameters come from the code lines alone, line by line. -/
theorem params_eq_flatMap (hcompiled : ofDefinition text = .ok q) :
    q.params = (Definition.codeLines text).flatMap Placeholder.occurrences := by
  rw [params_eq_occurrences hcompiled, body_of_ofDefinition hcompiled,
    Placeholder.occurrences_trim, Placeholder.occurrences_unlines]

theorem wellFormed_of_ofDefinition (hcompiled : ofDefinition text = .ok q) :
    q.WellFormed := by
  have hbody := body_of_ofDefinition hcompiled
  have hparams := params_eq_occurrences hcompiled
  have hcode := Definition.codeLine_of_mem_codeLines text
  obtain ⟨header, hheader, hq⟩ := ofDefinition_eq_ok_iff.mp hcompiled
  constructor
  case name =>
    rw [hq]
    exact (Header.read_eq_ok_iff.mp hheader).1
  case body =>
    rw [hbody]
    exact Text.trimmed_trim _
  case breaks =>
    rw [hbody]
    intro c hc hbreak
    have hunbroken : ∀ line ∈ Definition.codeLines text, Text.Unbroken line :=
      fun line hline => (hcode line hline).unbroken
    exact Text.eq_feed_of_mem_unlines hunbroken (Text.mem_of_mem_trim hc) hbreak
  case code =>
    rw [hbody]
    exact fun line hline => (Comment.codeLine_of_mem_lines_trim hcode line hline).code
  case docs =>
    rw [hq]
    exact ⟨_, Block.docs_ofLines, Definition.unbroken_of_mem_docLines text⟩
  case params => exact hparams
  case count => rw [hparams, Placeholder.length_occurrences]

end Query

/-! ## Catalogs -/

namespace Catalog

/-- Every entry of a compiled catalog stands under its own name and is well formed, and its
parameters come from the code lines of a definition of the text. -/
theorem wellFormed_of_compile {options : CompileOptions} {text : String} {c : Catalog}
    (hcompiled : (compile options text).outcome = .ok c) :
    ∀ key q, c.find? key = some q →
      key = q.name ∧ q.WellFormed ∧
        ∃ definition ∈ Source.definitions text.toList,
          Query.ofDefinition definition = .ok q ∧
            q.params = (Definition.codeLines definition).flatMap Placeholder.occurrences := by
  obtain ⟨qs, hqs, rfl⟩ := exists_queries_of_compile hcompiled
  intro key q hfind
  have hmem : q ∈ qs := mem_of_find?_ofQueries hfind
  obtain ⟨definition, hdefinition, hq⟩ := Query.exists_of_mem_ofDefinitions hqs hmem
  refine ⟨(name_of_find? hfind).symm, Query.wellFormed_of_ofDefinition hq, ?_⟩
  exact ⟨definition, hdefinition, hq, Query.params_eq_flatMap hq⟩

/-- Comments in front of the first definition and between the lines of a body, a blank line,
and placeholders in comments and behind a cast. -/
def commentedText : String :=
  "-- intro\n-- name: pick?\n  -- Reads :id.\n\n  select a::text,\n-- ?\n b, :c \n"

def commentedQuery : Query where
  name := "pick"
  operation := .operation .selectOneRow
  body := "select a::text,\n b, :c"
  docs := "Reads :id.\n?\n"
  params := [.named "c"]

theorem wellFormed_of_compile_commentedText :
    (compile {} commentedText).outcome = .ok (ofQueries [commentedQuery]) ∧
      ∀ key q, (ofQueries [commentedQuery]).find? key = some q →
        key = q.name ∧ q.WellFormed ∧
          ∃ definition ∈ Source.definitions commentedText.toList,
            Query.ofDefinition definition = .ok q ∧
              q.params =
                (Definition.codeLines definition).flatMap Placeholder.occurrences := by
  have hcompiled :
      (compile {} commentedText).outcome = .ok (ofQueries [commentedQuery]) := by
    rfl
  exact ⟨hcompiled, wellFormed_of_compile hcompiled⟩

end Catalog

end QueryBook
