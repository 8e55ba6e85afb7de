import QueryBook.Header
import QueryBook.Proofs.CharacterClasses
import QueryBook.Proofs.Trimming

/-!
# Reading headers

No suffix holds a word character, so the last character of a name ends every suffix that
could be cut off, and the shortest line of a header is read as that header.
-/

namespace QueryBook

namespace Header

theorem isName_iff {cs : List Char} :
    isName cs = true ↔ cs ≠ [] ∧ ∀ c ∈ cs, Text.isWord c = true := by
  simp [isName]

theorem eq_append_of_isName {cs : List Char} (hname : isName cs = true) :
    ∃ front last, cs = front ++ [last] ∧ Text.isWord last = true := by
  obtain ⟨hne, hword⟩ := isName_iff.mp hname
  refine ⟨cs.dropLast, cs.getLast hne, (List.dropLast_append_getLast hne).symm, ?_⟩
  exact hword _ (List.getLast_mem hne)

theorem append_of_before? {suffix cs name : List Char} (hbefore : before? suffix cs = some name) :
    name ++ suffix = cs := by
  rw [before?] at hbefore
  split at hbefore
  · next hsuffix =>
    obtain ⟨front, rfl⟩ := List.isSuffixOf_iff_suffix.mp hsuffix
    simpa using hbefore.symm
  · contradiction

/-- Cutting loses nothing of the text. -/
theorem append_of_cut {ops : List Operation} {cs name : List Char} {op : Operation}
    (hcut : cut ops cs = (name, op)) :
    name ++ op.suffix = cs := by
  induction ops with
  | nil =>
      obtain ⟨rfl, rfl⟩ := Prod.mk.inj hcut
      exact List.append_nil cs
  | cons first ops ih =>
      rw [cut] at hcut
      split at hcut
      · next front hbefore =>
        obtain ⟨rfl, rfl⟩ := Prod.mk.inj hcut
        exact append_of_before? hbefore
      · exact ih hcut

theorem cut_append_suffix {name : List Char} (hname : isName name = true)
    (op : Operation) :
    cut Operation.suffixed (name ++ op.suffix) = (name, op) := by
  obtain ⟨front, last, rfl, hword⟩ := eq_append_of_isName hname
  have hmarks : ∀ c ∈ ['<', '*', '!', '#', '?'], (c == last) = false := by
    intro c hc
    rw [beq_eq_false_iff_ne]
    rintro rfl
    have htable : ['<', '*', '!', '#', '?'].all (fun c => !Text.isWord c) = true := by
      decide
    have hmark := List.all_eq_true.mp htable c hc
    rw [hword] at hmark
    contradiction
  simp only [List.mem_cons, List.not_mem_nil, or_false, forall_eq_or_imp, forall_eq] at hmarks
  obtain ⟨hless, hstar, hbang, hhash, hmark⟩ := hmarks
  cases op <;>
    simp [cut, Operation.suffixed, Operation.suffix, before?, List.isSuffixOf,
      List.isPrefixOf, List.take_length_add_append, hless, hstar, hbang, hhash, hmark]

theorem toList_line (h : Header) : h.line.toList = h.name.toList ++ h.operation.suffix := by
  rw [line, String.toList_append, String.toList_ofList]

theorem isWord_or_mem_suffix {h : Header} (hname : isName h.name.toList = true)
    {c : Char} (hc : c ∈ h.line.toList) :
    Text.isWord c = true ∨ c ∈ h.operation.suffix := by
  rw [toList_line, List.mem_append] at hc
  rcases hc with hc | hc
  · exact Or.inl ((isName_iff.mp hname).2 c hc)
  · exact Or.inr hc

theorem not_isSpace_of_mem_line {h : Header} (hname : isName h.name.toList = true)
    {c : Char} (hc : c ∈ h.line.toList) :
    Text.isSpace c = false := by
  rcases isWord_or_mem_suffix hname hc with hword | hsuffix
  · exact Text.not_isSpace_of_isWord hword
  · have htable : ∀ op : Operation, op.suffix.all (fun c => !Text.isSpace c) = true := by
      intro op
      cases op <;> decide
    simpa using List.all_eq_true.mp (htable h.operation) c hsuffix

theorem dash_not_mem_line {h : Header} (hname : isName h.name.toList = true) :
    '-' ∉ h.line.toList := by
  intro hdash
  rcases isWord_or_mem_suffix hname hdash with hword | hsuffix
  · have hclass : Text.isWord '-' = false := by
      decide
    rw [hclass] at hword
    contradiction
  · have htable : ∀ op : Operation, '-' ∉ op.suffix := by
      intro op
      cases op <;> decide
    exact htable h.operation hsuffix

theorem line_ne_nil {h : Header} (hname : isName h.name.toList = true) :
    h.line.toList ≠ [] := by
  rw [toList_line]
  exact List.append_ne_nil_of_left_ne_nil (isName_iff.mp hname).1 _

theorem not_isSpace_head_line_append {h : Header} (hname : isName h.name.toList = true)
    (rest : List Char) :
    ∀ c ∈ (h.line.toList ++ rest).head?, Text.isSpace c = false := by
  obtain ⟨d, tail, hline⟩ := List.exists_cons_of_ne_nil (line_ne_nil hname)
  intro c hc
  rw [hline] at hc
  obtain rfl : d = c := by simpa using hc
  apply not_isSpace_of_mem_line hname
  rw [hline]
  exact List.mem_cons_self

theorem trimmed_line {h : Header} (hname : isName h.name.toList = true) :
    Text.Trimmed h.line.toList := by
  constructor
  · intro c hc
    exact not_isSpace_of_mem_line hname (List.mem_of_mem_head? hc)
  · intro c hc
    exact not_isSpace_of_mem_line hname (List.mem_of_getLast? hc)

/-- A line is read as a header exactly if it is the line of that header with white space
around it. -/
theorem read_eq_ok_iff {line : String} {h : Header} :
    read line = .ok h ↔
      isName h.name.toList = true ∧ Text.trim line.toList = h.line.toList := by
  rw [read, toList_line]
  constructor
  · intro hread
    split at hread
    next name op hcut =>
    split at hread
    · next hname =>
      obtain rfl := Except.ok.inj hread
      rw [String.toList_ofList]
      exact ⟨hname, (append_of_cut hcut).symm⟩
    · contradiction
  · rintro ⟨hname, hline⟩
    rw [hline, cut_append_suffix hname]
    simp only [hname, if_true, String.ofList_toList]

theorem eq_invalidName_of_read {line : String} {e : CompileError}
    (hread : read line = .error e) :
    ∃ name, e = .invalidName name := by
  unfold read at hread
  simp only at hread
  split at hread
  · contradiction
  · exact ⟨_, (Except.error.inj hread).symm⟩

/-- Reading undoes writing. -/
theorem read_line {h : Header} (hname : isName h.name.toList = true) :
    read h.line = .ok h := by
  rw [read_eq_ok_iff]
  exact ⟨hname, (trimmed_line hname).trim_eq⟩

end Header

end QueryBook
