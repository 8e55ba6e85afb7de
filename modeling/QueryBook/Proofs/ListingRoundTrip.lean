import QueryBook.Proofs.EntryReading
import QueryBook.Proofs.SourceConcatenation

/-!
# Compiling undoes listing

A listing writes one entry behind the other, each behind a marker of its own and closed by a
line feed.  Every written entry opens with a marker, so the definitions of a listing are the
texts of its entries with a feed behind each, and white space behind a definition does not
count.
-/

namespace QueryBook

namespace Entry

/-- An entry that can be read back as it was written. -/
structure WellFormed (e : Entry) : Prop where
  name : Header.isName e.header.name.toList = true
  docs : ∀ line ∈ e.docs, Text.Unbroken line.toList ∧ Text.Trimmed line.toList
  body : Text.Trimmed e.body.toList
  breaks : ∀ c ∈ e.body.toList, Text.isLineBreak c = true → c = '\n'
  code : ∀ row ∈ Text.feedRows e.body.toList, ¬['-', '-'] <+: Text.trimStart row
  unmarked : Marker.occurs (comments e.docs ++ e.body).toList = false

instance (e : Entry) : Decidable e.WellFormed :=
  decidable_of_iff
    (Header.isName e.header.name.toList = true ∧
      (∀ line ∈ e.docs, Text.Unbroken line.toList ∧ Text.Trimmed line.toList) ∧
      Text.Trimmed e.body.toList ∧
      e.body.toList.all (fun c => !Text.isLineBreak c || c = '\n') = true ∧
      (∀ row ∈ Text.feedRows e.body.toList, ¬['-', '-'] <+: Text.trimStart row) ∧
      Marker.occurs (comments e.docs ++ e.body).toList = false) <| by
  have hbreaks :
      e.body.toList.all (fun c => !Text.isLineBreak c || c = '\n') = true ↔
        ∀ c ∈ e.body.toList, Text.isLineBreak c = true → c = '\n' := by
    simp [← Bool.not_eq_true, or_iff_not_imp_left]
  rw [hbreaks]
  exact ⟨fun ⟨name, docs, body, breaks, code, unmarked⟩ =>
      ⟨name, docs, body, breaks, code, unmarked⟩,
    fun h => ⟨h.name, h.docs, h.body, h.breaks, h.code, h.unmarked⟩⟩

def below (e : Entry) : List Char :=
  Text.unlines (e.docs.map commentRow) ++ (e.body.toList ++ ['\n'])

/-- What stands behind the marker of an entry. -/
def closedText (e : Entry) : List Char :=
  e.header.line.toList ++ '\n' :: e.below

theorem closedText_eq (e : Entry) : e.closedText = e.text.toList ++ ['\n'] := by
  rw [toList_text, closedText, below, List.append_assoc, List.cons_append, List.append_assoc]

theorem toList_marked (e : Entry) :
    e.marked.toList = "-- name: ".toList ++ e.closedText := by
  have hfeed : "\n".toList = ['\n'] := rfl
  simp [marked, text, toList_comments, closedText, below, hfeed]

theorem after?_marker_append (cs : List Char) :
    Marker.after? ("-- name: ".toList ++ cs) = some (Text.trimStart (' ' :: cs)) :=
  rfl

namespace WellFormed

variable {e : Entry} (hformed : e.WellFormed)
include hformed

theorem readable : e.Readable where
  name := hformed.name
  docs line hline := ⟨(hformed.docs line hline).1, (hformed.docs line hline).2.head⟩
  ending _ line hline := (hformed.docs line (List.mem_of_getLast? hline)).2.last
  body := hformed.body
  breaks := hformed.breaks
  code := hformed.code

theorem not_isSpace_head_closedText :
    ∀ c ∈ e.closedText.head?, Text.isSpace c = false :=
  Header.not_isSpace_head_line_append hformed.name _

theorem after?_marked :
    Marker.after? e.marked.toList = some e.closedText := by
  have htrim := Text.trimStart_eq_self hformed.not_isSpace_head_closedText
  have hspace : Text.trimStart (' ' :: e.closedText) = Text.trimStart e.closedText := by
    rfl
  rw [toList_marked, after?_marker_append, hspace, htrim]

theorem occurs_closedText : Marker.occurs e.closedText = false := by
  have hdash : '-' ∉ e.header.line.toList ++ ['\n'] := by
    simp [Header.dash_not_mem_line hformed.name]
  have hblock := hformed.unmarked
  rw [String.toList_append, toList_comments] at hblock
  have hwhole := Marker.occurs_append_feed_eq_false
    (Marker.occurs_append_eq_false hdash hblock)
  simpa [closedText, below] using hwhole

theorem ofDefinition_closedText : Query.ofDefinition e.closedText = .ok e.query := by
  have hfeed : Text.isBlank ['\n'] = true := by
    decide
  rw [closedText_eq, Query.ofDefinition_append_of_isBlank _ hfeed]
  exact hformed.readable.ofDefinition_text

theorem definitions_marked : Source.definitions e.marked.toList = [e.closedText] := by
  have hafter : Marker.after? ("-- name: ".toList ++ e.closedText) = some e.closedText := by
    rw [← toList_marked]
    exact hformed.after?_marked
  have hline : Text.isBlank e.header.line.toList = false :=
    (Header.trimmed_line hformed.name).not_isBlank (Header.line_ne_nil hformed.name)
  have hblank : Text.isBlank e.closedText = false := by
    rw [Text.isBlank] at hline
    rw [Text.isBlank, closedText, List.all_append, hline, Bool.false_and]
  unfold Source.definitions
  rw [toList_marked, Segmentation.ofText_marker_append hafter (by decide),
    Segmentation.ofText_of_occurs_eq_false hformed.occurs_closedText]
  simp [Segmentation.openWith, Source.hasCode, Text.lines, hblank]

end WellFormed

theorem toList_listing_cons (e : Entry) (entries : List Entry) :
    (listing (e :: entries)).toList = e.marked.toList ++ (listing entries).toList := by
  rw [listing, listing, List.map_cons, String.join_cons, String.toList_append]

/-- A listing that is not empty opens with a marker, so it can follow another entry. -/
theorem definitions_listing {entries : List Entry}
    (hformed : ∀ e ∈ entries, e.WellFormed) :
    Source.definitions (listing entries).toList = entries.map closedText := by
  induction entries with
  | nil => rfl
  | cons e entries ih =>
      have he := (hformed e List.mem_cons_self).definitions_marked
      have htail := ih fun other hother => hformed other (List.mem_cons_of_mem e hother)
      cases entries with
      | nil =>
          have hnil : (listing []).toList = [] := rfl
          rw [toList_listing_cons, hnil, List.append_nil, he]
          rfl
      | cons next entries =>
          obtain ⟨left, hafter⟩ :
              ∃ left, Marker.after? (listing (next :: entries)).toList = some left := by
            rw [toList_listing_cons, toList_marked, List.append_assoc]
            exact ⟨_, after?_marker_append _⟩
          rw [toList_listing_cons, Source.definitions_append hafter, he, htail]
          rfl

theorem ofDefinitions_listing {entries : List Entry}
    (hformed : ∀ e ∈ entries, e.WellFormed) :
    Query.ofDefinitions (Source.definitions (listing entries).toList) =
      .ok (entries.map query) := by
  rw [definitions_listing hformed]
  induction entries with
  | nil => rfl
  | cons e entries ih =>
      have he := (hformed e List.mem_cons_self).ofDefinition_closedText
      have htail := ih fun other hother => hformed other (List.mem_cons_of_mem e hother)
      rw [List.map_cons, Query.ofDefinitions_cons_of_ok he, htail]
      rfl

/-- Compiling a listing succeeds and gives the queries of its entries in their order. -/
theorem compile_listing
    {entries : List Entry} (hformed : ∀ e ∈ entries, e.WellFormed)
    (hnodup : (entries.map fun e => e.header.name).Nodup) (options : CompileOptions) :
    ∃ c, (Catalog.compile options (listing entries)).outcome = .ok c ∧
      c.queries = entries.map query := by
  have hqueries := ofDefinitions_listing hformed
  have hnames : ((entries.map query).map Query.name).Nodup := by
    rw [List.map_map]
    exact hnodup
  refine ⟨Catalog.ofQueries (entries.map query), ?_, Catalog.queries_ofQueries hnames⟩
  cases hpolicy : options.onDuplicate with
  | overwrite =>
      rw [Catalog.compile_overwrite hpolicy, hqueries]
      rfl
  | error =>
      rw [Catalog.compile_error_eq_ok_iff hpolicy]
      exact ⟨entries.map query, hqueries, hnames, rfl⟩

/-- A blank comment line at the end of the first entry, and an empty body behind it. -/
def withBlankEnds : List Entry :=
  [{ header := ⟨"add_row", .insertReturning⟩
     docs := ["- Adds a row.", ""]
     body := "insert into t\n\nvalues (:value, 'a--b')" },
    { header := ⟨"noop", .select⟩, docs := ["Does nothing.", ""], body := "" }]

theorem compile_listing_withBlankEnds :
    (∀ e ∈ withBlankEnds, e.WellFormed) ∧
      (withBlankEnds.map fun e => e.header.name).Nodup ∧
      ∃ c, (Catalog.compile {} (listing withBlankEnds)).outcome = .ok c ∧
        c.queries = withBlankEnds.map query := by
  have hformed : ∀ e ∈ withBlankEnds, e.WellFormed := by
    decide +kernel
  have hnodup : (withBlankEnds.map fun e => e.header.name).Nodup := by
    decide
  exact ⟨hformed, hnodup, compile_listing hformed hnodup {}⟩

end Entry

end QueryBook
