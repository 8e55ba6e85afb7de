import QueryBook.Proofs.EntryReading
import QueryBook.Proofs.LineEndingIndependence
import QueryBook.Proofs.WellFormedQueries

/-!
# Bodies that are kept as written

A body is cut into lines at its breaks and laid out again with line feeds.  It is kept as it
was written exactly if line feeds are its only breaks.  Every other break becomes a line feed,
inside a quoted text as well, and where two dashes follow such a break the rest of the line is
taken for documentation.
-/

namespace QueryBook

namespace Text

def feedFor (c : Char) : Char :=
  if isLineBreak c then '\n' else c

theorem isSpace_feedFor (c : Char) : isSpace (feedFor c) = isSpace c := by
  rw [feedFor]
  split
  · next hbreak => rw [isSpace_of_isLineBreak hbreak, isSpace_of_isLineBreak isLineBreak_feed]
  · rfl

theorem eq_feed_of_isLineBreak_feedFor {c : Char} (hbreak : isLineBreak (feedFor c) = true) :
    feedFor c = '\n' := by
  rw [feedFor] at hbreak ⊢
  split
  · rfl
  · next hc =>
    rw [if_neg hc] at hbreak
    contradiction

theorem lineAlike_map_feedFor {cs : List Char} (hreturn : '\r' ∉ cs) :
    LineAlike cs (cs.map feedFor) := by
  induction cs with
  | nil => exact .nil
  | cons c cs ih =>
      rw [List.mem_cons, not_or] at hreturn
      obtain ⟨hc, hrest⟩ := hreturn
      rw [List.map_cons, feedFor]
      split
      · next hbreak =>
        exact .ending (.single hbreak (Ne.symm hc)) (.single isLineBreak_feed (by decide))
          (ih hrest)
      · next hbreak => exact .char (by simpa using hbreak) (ih hrest)

theorem map_feedFor_eq_self {cs : List Char}
    (hbreaks : ∀ c ∈ cs, isLineBreak c = true → c = '\n') :
    cs.map feedFor = cs := by
  have hsame : ∀ c ∈ cs, feedFor c = id c := by
    intro c hc
    rw [feedFor]
    split
    · next hbreak => exact (hbreaks c hc hbreak).symm
    · rfl
  rw [List.map_congr_left hsame, List.map_id]

theorem Trimmed.map_feedFor {cs : List Char} (htrimmed : Trimmed cs) :
    Trimmed (cs.map feedFor) := by
  constructor
  · intro d hd
    rw [List.head?_map] at hd
    obtain ⟨c, hc, rfl⟩ := Option.map_eq_some_iff.mp hd
    rw [isSpace_feedFor]
    exact htrimmed.head c hc
  · intro d hd
    rw [List.getLast?_map] at hd
    obtain ⟨c, hc, rfl⟩ := Option.map_eq_some_iff.mp hd
    rw [isSpace_feedFor]
    exact htrimmed.last c hc

end Text

/-- A body that is trimmed, holds no carriage return, and has no row that opens like a
comment. -/
structure PlainBody (body : List Char) : Prop where
  trimmed : Text.Trimmed body
  returns : '\r' ∉ body
  code : ∀ row ∈ Text.feedRows body, ¬['-', '-'] <+: Text.trimStart row

instance (body : List Char) : Decidable (PlainBody body) :=
  decidable_of_iff
    (Text.Trimmed body ∧ '\r' ∉ body ∧
      ∀ row ∈ Text.feedRows body, ¬['-', '-'] <+: Text.trimStart row)
    ⟨fun ⟨trimmed, returns, code⟩ => ⟨trimmed, returns, code⟩,
      fun h => ⟨h.trimmed, h.returns, h.code⟩⟩

namespace PlainBody

variable {h : Header} {body : List Char} (hplain : PlainBody body)
include hplain

/-- If no line below the header opens like a comment, the body is kept but for its breaks. -/
theorem ofDefinition_eq_of_code (hname : Header.isName h.name.toList = true)
    (hcode : ∀ line ∈ Text.lines body, ¬['-', '-'] <+: Text.trimStart line) :
    Query.ofDefinition (h.line.toList ++ '\n' :: body) =
      .ok (Entry.query ⟨h, [], String.ofList (body.map Text.feedFor)⟩) := by
  have halike := Text.lineAlike_map_feedFor hplain.returns
  have hbreaks : ∀ c ∈ body.map Text.feedFor, Text.isLineBreak c = true → c = '\n' := by
    intro d hd hbreak
    obtain ⟨c, -, rfl⟩ := List.mem_map.mp hd
    exact Text.eq_feed_of_isLineBreak_feedFor hbreak
  have hnil : ¬['-', '-'] <+: Text.trimStart [] := by
    decide
  have hreadable : Entry.Readable ⟨h, [], String.ofList (body.map Text.feedFor)⟩ := by
    constructor
    case name => exact hname
    case docs => simp
    case ending => simp
    case body =>
      rw [String.toList_ofList]
      exact hplain.trimmed.map_feedFor
    case breaks =>
      rw [String.toList_ofList]
      exact hbreaks
    case code =>
      rw [String.toList_ofList, hplain.trimmed.map_feedFor.forall_mem_feedRows_iff hbreaks hnil,
        ← halike.lines_eq]
      exact hcode
  have hfeeds := hreadable.ofDefinition_text
  rw [Entry.toList_text, List.map_nil, String.toList_ofList] at hfeeds
  rw [Query.ofDefinition_line_append hname, halike.trimEnd.lines_eq,
    ← Query.ofDefinition_line_append hname]
  exact hfeeds

end PlainBody

theorem toList_line_append (h : Header) (body : String) :
    (h.line ++ "\n" ++ body).toList = h.line.toList ++ '\n' :: body.toList := by
  simp

/-- The definition of a plain body under a header compiles.  It keeps the body and has no
documentation exactly if line feeds are the only breaks of the body; otherwise the breaks
become line feeds, as far as no comment opens behind one of them. -/
theorem compileDefinition_keepsBody_iff {h : Header}
    (hname : Header.isName h.name.toList = true) {body : String}
    (hplain : PlainBody body.toList) (options : CompileOptions) :
    ∃ q, (compileDefinition options (h.line ++ "\n" ++ body).toList).outcome = .ok q ∧
      q.name = h.name ∧ q.operation = .operation h.operation ∧
      (q.body = body ∧ q.docs = "" ↔
        ∀ c ∈ body.toList, Text.isLineBreak c = true → c = '\n') ∧
      ((∀ line ∈ Text.lines body.toList, ¬['-', '-'] <+: Text.trimStart line) →
        q.body = String.ofList (body.toList.map Text.feedFor) ∧ q.docs = "") := by
  rw [compileDefinition_outcome, toList_line_append]
  obtain ⟨q, hcompiled, hheader⟩ :
      ∃ q, Query.ofDefinition (h.line.toList ++ '\n' :: body.toList) = .ok q ∧
        q.name = h.name ∧ q.operation = .operation h.operation :=
    ⟨_, Query.ofDefinition_line_append hname body.toList, rfl, rfl⟩
  have hkept :
      (∀ line ∈ Text.lines body.toList, ¬['-', '-'] <+: Text.trimStart line) →
        q.body = String.ofList (body.toList.map Text.feedFor) ∧ q.docs = "" := by
    intro hcode
    have hentry := hplain.ofDefinition_eq_of_code hname hcode
    rw [hcompiled] at hentry
    obtain rfl := Except.ok.inj hentry
    exact ⟨rfl, rfl⟩
  refine ⟨q, hcompiled, hheader.1, hheader.2, ⟨?_, ?_⟩, hkept⟩
  · rintro ⟨hbody, -⟩
    have hbreaks := (Query.wellFormed_of_ofDefinition hcompiled).breaks
    rwa [hbody] at hbreaks
  · intro hbreaks
    have hnil : ¬['-', '-'] <+: Text.trimStart [] := by
      decide
    have hcode := (hplain.trimmed.forall_mem_feedRows_iff hbreaks hnil).mp hplain.code
    obtain ⟨hbody, hdocs⟩ := hkept hcode
    rw [Text.map_feedFor_eq_self hbreaks, String.ofList_toList] at hbody
    exact ⟨hbody, hdocs⟩

/-- A comment opens behind a line separator that stands in a quoted text. -/
theorem compileDefinition_keepsBody_iff_separator :
    let h : Header := ⟨"add", .insertReturning⟩
    let body := "insert into notes\n\nvalues ('-- a\u2028-- b')"
    Header.isName h.name.toList = true ∧ PlainBody body.toList ∧
      ∃ q, (compileDefinition {} (h.line ++ "\n" ++ body).toList).outcome = .ok q ∧
        q.name = h.name ∧ q.operation = .operation h.operation ∧
        (q.body = body ∧ q.docs = "" ↔
          ∀ c ∈ body.toList, Text.isLineBreak c = true → c = '\n') ∧
        ((∀ line ∈ Text.lines body.toList, ¬['-', '-'] <+: Text.trimStart line) →
          q.body = String.ofList (body.toList.map Text.feedFor) ∧ q.docs = "") := by
  intro h body
  have hname : Header.isName h.name.toList = true := by
    decide
  have hplain : PlainBody body.toList := by
    decide +kernel
  exact ⟨hname, hplain, compileDefinition_keepsBody_iff hname hplain {}⟩

/-- A vertical tab in a quoted text becomes a line feed. -/
theorem compileDefinition_changes_quoted_tab :
    let h : Header := ⟨"q", .select⟩
    let body := "select 'a\x0bb'"
    Header.isName h.name.toList = true ∧ PlainBody body.toList ∧
      ∃ q, (compileDefinition {} (h.line ++ "\n" ++ body).toList).outcome = .ok q ∧
        q.body = "select 'a\nb'" ∧ ¬(q.body = body ∧ q.docs = "") := by
  intro h body
  have hname : Header.isName h.name.toList = true := by
    decide
  have hplain : PlainBody body.toList := by
    decide +kernel
  have hcode : ∀ line ∈ Text.lines body.toList, ¬['-', '-'] <+: Text.trimStart line := by
    decide +kernel
  have hfeed : String.ofList (body.toList.map Text.feedFor) = "select 'a\nb'" := by
    decide +kernel
  have hne : "select 'a\nb'" ≠ body := by
    decide +kernel
  have hcompiled := hplain.ofDefinition_eq_of_code hname hcode
  rw [← toList_line_append, ← compileDefinition_outcome {}] at hcompiled
  refine ⟨hname, hplain, _, hcompiled, hfeed, ?_⟩
  rintro ⟨hbody, -⟩
  exact hne (hfeed.symm.trans hbody)

end QueryBook
