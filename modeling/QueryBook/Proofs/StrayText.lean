import QueryBook.Proofs.CommentSeparation
import QueryBook.Proofs.HeaderReading
import QueryBook.Proofs.SourceConcatenation

/-!
# Stray text in front of the first marker

Text in front of the first marker with a line that is neither blank nor a comment is compiled
like a definition.  It is refused for its header unless its first line happens to declare
one.  Then it enters the catalog as the first query, and the text as a whole is refused for a
header only if a later definition is.
-/

namespace QueryBook

namespace Marker

/-- The first marker of the whole text, if it has one, opens behind the front. -/
structure FirstBehind (front rest : List Char) : Prop where
  unmarked : ∀ tail ∈ front.tails, tail ≠ [] → after? (tail ++ rest) = none
  marked : rest = [] ∨ (after? rest).isSome

theorem FirstBehind.occurs_eq_false {front rest : List Char}
    (hfirst : FirstBehind front rest) :
    occurs front = false := by
  rw [occurs_eq_false_iff]
  intro tail hsuffix
  by_cases hne : tail = []
  · subst tail
    rfl
  · -- the rest opens with a marker, so it completes none that opens in front of it
    have hnone := hfirst.unmarked tail ((List.mem_tails tail front).mpr hsuffix) hne
    rcases hfirst.marked with rfl | hmarked
    · rwa [List.append_nil] at hnone
    · obtain ⟨left, hafter⟩ := Option.isSome_iff_exists.mp hmarked
      rwa [after?_append_of_after? hafter hne, Option.map_eq_none_iff] at hnone

end Marker

namespace Source

/-- Some line is neither blank nor a comment. -/
def Stray (front : List Char) : Prop :=
  ∃ line ∈ Text.lines front,
    Text.isBlank line = false ∧ ¬['-', '-'] <+: Text.trimStart line

theorem Stray.hasCode {front : List Char} (hstray : Stray front) :
    hasCode front = true := by
  obtain ⟨line, hline, hblank, hcode⟩ := hstray
  rw [Source.hasCode, List.any_eq_true]
  refine ⟨line, hline, ?_⟩
  rw [hblank, Comment.text?_eq_none hcode]
  rfl

theorem Stray.not_isBlank {front : List Char} (hstray : Stray front) :
    Text.isBlank front = false := by
  obtain ⟨line, hline, hblank, -⟩ := hstray
  rw [← Bool.not_eq_true] at hblank ⊢
  intro hfront
  rw [Text.isBlank, List.all_eq_true] at hfront hblank
  obtain ⟨-, hsublist⟩ := Text.unbroken_sublist_of_mem_lines front line hline
  exact hblank fun c hc => hfront c (hsublist.mem hc)

/-- Stray text is the first definition of the text that it opens. -/
theorem definitions_of_stray {front rest : List Char}
    (hfirst : Marker.FirstBehind front rest) (hstray : Stray front) :
    definitions (front ++ rest) = front :: definitions rest := by
  have hfront : definitions front = [front] := by
    unfold definitions
    rw [Segmentation.ofText_of_occurs_eq_false hfirst.occurs_eq_false]
    simp [hstray.hasCode, hstray.not_isBlank]
  rcases hfirst.marked with rfl | hmarked
  · rw [List.append_nil, hfront]
    rfl
  · obtain ⟨left, hafter⟩ := Option.isSome_iff_exists.mp hmarked
    rw [definitions_append hafter, hfront]
    rfl

end Source

namespace Catalog

/-- What compiling the rest gives behind stray text that is taken for a query. -/
def outcomeBehind (options : CompileOptions) (stray : Query) (rest : List Char) :
    Except CompileError Catalog :=
  (extend options (ofQueries [stray]) (Source.definitions rest)).outcome

variable {text : String} {front rest : List Char}

theorem compile_of_declares (htext : text.toList = front ++ rest)
    (hfirst : Marker.FirstBehind front rest) (hstray : Source.Stray front)
    {h : Header} (hdeclares : Definition.Declares front h) (options : CompileOptions) :
    (compile options text).outcome =
      outcomeBehind options (Query.ofDeclared front h) rest := by
  have hfresh : options.onDuplicate = .error →
      (Query.ofDeclared front h).name ∉ empty.names :=
    fun _ => List.not_mem_nil
  rw [compile, htext, Source.definitions_of_stray hfirst hstray,
    extend_cons_of_enters (Query.ofDefinition_of_declares hdeclares) hfresh]
  rfl

theorem compile_of_not_declares (htext : text.toList = front ++ rest)
    (hfirst : Marker.FirstBehind front rest) (hstray : Source.Stray front)
    (hnone : ∀ h, ¬Definition.Declares front h) (options : CompileOptions) :
    ∃ name, (compile options text).outcome = .error (.invalidName name) := by
  obtain ⟨name, hname⟩ := Query.ofDefinition_of_not_declares hnone
  refine ⟨name, ?_⟩
  rw [compile, htext, Source.definitions_of_stray hfirst hstray, extend_cons_of_error hname]

/-- A text with stray text in front is refused for a header exactly if the stray text
declares none or a definition behind it fails at its own.  Stray text that does declare a
header is compiled as the first query. -/
theorem compile_stray_iff (htext : text.toList = front ++ rest)
    (hfirst : Marker.FirstBehind front rest) (hstray : Source.Stray front)
    (options : CompileOptions) :
    ((∃ name, (compile options text).outcome = .error (.invalidName name)) ↔
        ∀ h, Definition.Declares front h →
          ∃ name,
            outcomeBehind options (Query.ofDeclared front h) rest =
              .error (.invalidName name)) ∧
      ∀ h, Definition.Declares front h →
        (compile options text).outcome =
          outcomeBehind options (Query.ofDeclared front h) rest := by
  refine ⟨⟨?_, ?_⟩, ?_⟩
  · rintro ⟨name, hname⟩ h hdeclares
    rw [compile_of_declares htext hfirst hstray hdeclares] at hname
    exact ⟨name, hname⟩
  · intro hlater
    by_cases hdeclares : ∃ h, Definition.Declares front h
    · obtain ⟨h, hdeclares⟩ := hdeclares
      rw [compile_of_declares htext hfirst hstray hdeclares]
      exact hlater h hdeclares
    · rw [not_exists] at hdeclares
      exact compile_of_not_declares htext hfirst hstray hdeclares options
  · intro h hdeclares
    exact compile_of_declares htext hfirst hstray hdeclares options

theorem compile_stray_iff_statement :
    let front := "select 1;\n".toList
    let rest := "-- name: one\nselect 2;".toList
    let text := "select 1;\n-- name: one\nselect 2;"
    text.toList = front ++ rest ∧ Marker.FirstBehind front rest ∧ Source.Stray front ∧
      ((∃ name, (compile {} text).outcome = .error (.invalidName name)) ↔
        ∀ h, Definition.Declares front h →
          ∃ name,
            outcomeBehind {} (Query.ofDeclared front h) rest =
              .error (.invalidName name)) ∧
      ∀ h, Definition.Declares front h →
        (compile {} text).outcome = outcomeBehind {} (Query.ofDeclared front h) rest := by
  intro front rest text
  have htext : text.toList = front ++ rest := by
    decide
  have hfirst : Marker.FirstBehind front rest := by
    constructor <;> decide
  have hstray : Source.Stray front := by
    refine ⟨"select 1;".toList, ?_⟩
    decide
  exact ⟨htext, hfirst, hstray, compile_stray_iff htext hfirst hstray {}⟩

/-- A single word in front of the first definition is taken for a query of that name. -/
theorem compile_accepts_stray_word :
    let front := "commit\n".toList
    let rest := "-- name: get_user\nselect 1".toList
    let text := "commit\n-- name: get_user\nselect 1"
    text.toList = front ++ rest ∧ Marker.FirstBehind front rest ∧ Source.Stray front ∧
      (∃ c, (compile {} text).outcome = .ok c ∧ c.names = ["commit", "get_user"]) ∧
      ¬∃ name, (compile {} text).outcome = .error (.invalidName name) := by
  intro front rest text
  have htext : text.toList = front ++ rest := by
    decide
  have hfirst : Marker.FirstBehind front rest := by
    constructor <;> decide
  have hstray : Source.Stray front := by
    refine ⟨"commit".toList, ?_⟩
    decide
  have haccepted :
      ∃ c, (compile {} "commit\n-- name: get_user\nselect 1").outcome = .ok c ∧
        c.names = ["commit", "get_user"] :=
    ⟨_, rfl, rfl⟩
  refine ⟨htext, hfirst, hstray, haccepted, ?_⟩
  rintro ⟨name, hrefused⟩
  obtain ⟨c, hc, -⟩ := haccepted
  rw [hrefused] at hc
  contradiction

end Catalog

end QueryBook
