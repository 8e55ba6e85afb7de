import QueryBook.Proofs.CatalogExtension
import QueryBook.Proofs.LineEndings

/-!
# Line endings do not matter

Texts that differ in the endings of their lines have definitions that differ in the same way,
and a definition is trimmed and cut into lines before anything of it is read.  Such texts
compile alike, whatever mixture of endings they have: to the same catalog or the same error,
and with the same notices.
-/

namespace QueryBook

variable {text other : List Char}

theorem Definition.split_eq_of_lineAlike (halike : Text.LineAlike text other) :
    split text = split other := by
  rw [split, split, halike.trim.lines_eq]

theorem Query.ofDefinition_eq_of_lineAlike (halike : Text.LineAlike text other) :
    ofDefinition text = ofDefinition other :=
  ofDefinition_congr (Definition.split_eq_of_lineAlike halike)

theorem Source.hasCode_eq_of_lineAlike (halike : Text.LineAlike text other) :
    hasCode text = hasCode other := by
  rw [hasCode, hasCode, halike.lines_eq]

theorem Source.definitions_lineAlike (halike : Text.LineAlike text other) :
    List.Forall₂ Text.LineAlike (definitions text) (definitions other) := by
  obtain ⟨hopening, hbodies⟩ := Segmentation.alike_ofText halike
  have hfirst :
      List.Forall₂ Text.LineAlike
        (if hasCode (Segmentation.ofText text).opening then
          [(Segmentation.ofText text).opening] else [])
        (if hasCode (Segmentation.ofText other).opening then
          [(Segmentation.ofText other).opening] else []) := by
    simp only [hasCode_eq_of_lineAlike hopening]
    split
    · exact .cons hopening .nil
    · exact .nil
  refine List.rel_filter ?_ (List.rel_append hfirst hbodies)
  intro definition definition' hdefinition
  simp only [hdefinition.isBlank_eq]

theorem Catalog.compile_eq_of_lineAlike {text other : String}
    (halike : Text.LineAlike text.toList other.toList) (options : CompileOptions) :
    compile options text = compile options other := by
  have hdefinitions := Source.definitions_lineAlike halike
  exact extend_congr (hdefinitions.imp fun _ _ => Query.ofDefinition_eq_of_lineAlike)

/-! ## Carriage returns in front of line feeds -/

namespace Text

/-- The text from a place on, with a carriage return in front of the line feeds at the chosen
places. -/
def putReturns (chosen : Nat → Bool) : Nat → List Char → List Char
  | _, [] => []
  | place, c :: rest =>
    (if c = '\n' ∧ chosen place then ['\r', '\n'] else [c]) ++
      putReturns chosen (place + 1) rest

theorem lineAlike_putReturns {cs : List Char} (hreturn : '\r' ∉ cs)
    (chosen : Nat → Bool) (place : Nat) :
    LineAlike (putReturns chosen place cs) cs := by
  induction cs generalizing place with
  | nil => exact .nil
  | cons c cs ih =>
      rw [List.mem_cons, not_or] at hreturn
      obtain ⟨hc, hrest⟩ := hreturn
      have htail := ih hrest (place + 1)
      rw [putReturns]
      split
      · next hchosen =>
        obtain ⟨rfl, -⟩ := hchosen
        exact .ending .pair (.single isLineBreak_feed (by decide)) htail
      · cases hbreak : isLineBreak c with
        | true =>
            have hend : LineEnd [c] := .single hbreak (Ne.symm hc)
            exact .ending hend hend htail
        | false => exact .char hbreak htail

end Text

namespace Catalog

/-- Carriage returns in front of any of its line feeds change nothing of what a text compiles
to and nothing of what is said on the way. -/
theorem compile_putReturns {text : String} (hreturn : '\r' ∉ text.toList)
    (chosen : Nat → Bool) (options : CompileOptions) :
    compile options (String.ofList (Text.putReturns chosen 0 text.toList)) =
      compile options text := by
  apply compile_eq_of_lineAlike
  rw [String.toList_ofList]
  exact Text.lineAlike_putReturns hreturn chosen 0

/-- The feeds at even places get a return: one inside a marker, one behind a header, and one of
two behind the body. -/
theorem compile_putReturns_even :
    '\r' ∉ "--\nname: a!\n-- doc\ndelete\n\n".toList ∧
      compile {} (String.ofList (Text.putReturns (fun place => place % 2 == 0) 0
          "--\nname: a!\n-- doc\ndelete\n\n".toList)) =
        compile {} "--\nname: a!\n-- doc\ndelete\n\n" := by
  have hreturn : '\r' ∉ "--\nname: a!\n-- doc\ndelete\n\n".toList := by
    decide
  exact ⟨hreturn, compile_putReturns hreturn _ {}⟩

end Catalog

end QueryBook
