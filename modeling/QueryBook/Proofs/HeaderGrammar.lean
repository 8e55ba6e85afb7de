import QueryBook.Proofs.HeaderReading

/-!
# The grammar of headers

A header line is a name with the suffix of an operation behind it, and white space around the
two.  It spells one header at most.  The longer suffixes are tried before the shorter ones, so
the suffix that is cut off is the longest one at the end of the line; what stands in front of
it is the name of the header or, where it is no name, the name that is reported.
-/

namespace QueryBook

namespace Header

/-- Without the white space around it, the line is the name of the header and the suffix of
its operation. -/
structure Spells (line : String) (h : Header) : Prop where
  name_ne_nil : h.name.toList ≠ []
  isWord_name : ∀ c ∈ h.name.toList, Text.isWord c = true
  trim_eq : Text.trim line.toList = h.name.toList ++ h.operation.suffix

/-- The text is the stem and the suffix of the operation, and it ends in no longer suffix. -/
structure EndsLongest (text stem : List Char) (op : Operation) : Prop where
  append_eq : stem ++ op.suffix = text
  longest : ∀ other : Operation, other.suffix <:+ text → other.suffix.length ≤ op.suffix.length

variable {line : String} {text stem : List Char} {op : Operation} {ops : List Operation}

theorem read_eq_ok_iff_spells {h : Header} : read line = .ok h ↔ Spells line h := by
  rw [read_eq_ok_iff, isName_iff, toList_line]
  constructor
  · rintro ⟨⟨hne, hword⟩, htrim⟩
    exact ⟨hne, hword, htrim⟩
  · rintro ⟨hne, hword, htrim⟩
    exact ⟨⟨hne, hword⟩, htrim⟩

theorem Spells.unique {h k : Header} (hspells : Spells line h) (hother : Spells line k) :
    h = k := by
  have hread := read_eq_ok_iff_spells.mpr hspells
  rw [read_eq_ok_iff_spells.mpr hother] at hread
  exact (Except.ok.inj hread).symm

theorem before?_eq_none_iff {suffix : List Char} :
    before? suffix text = none ↔ ¬suffix <:+ text := by
  rw [before?, ← List.isSuffixOf_iff_suffix]
  split <;> simp_all

/-- Among operations in order of their suffixes, the longest first, the first one whose suffix
ends the text has the longest such suffix. -/
theorem length_suffix_le_of_cut
    (hsorted : ops.Pairwise fun op other => other.suffix.length ≤ op.suffix.length)
    (hcut : cut ops text = (stem, op)) {other : Operation} (hmem : other ∈ ops)
    (hsuffix : other.suffix <:+ text) :
    other.suffix.length ≤ op.suffix.length := by
  induction ops with
  | nil => cases hmem
  | cons first ops ih =>
      obtain ⟨hfirst, hrest⟩ := List.pairwise_cons.mp hsorted
      rw [cut] at hcut
      split at hcut
      · obtain ⟨-, rfl⟩ := Prod.mk.inj hcut
        rcases List.mem_cons.mp hmem with rfl | hmem
        · exact Nat.le_refl _
        · exact hfirst other hmem
      · next hnone =>
        rcases List.mem_cons.mp hmem with rfl | hmem
        · exact absurd hsuffix (before?_eq_none_iff.mp hnone)
        · exact ih hrest hcut hmem

theorem mem_suffixed_or_suffix_eq_nil (op : Operation) :
    op ∈ Operation.suffixed ∨ op.suffix = [] := by
  cases op <;> decide

theorem endsLongest_of_cut (hcut : cut Operation.suffixed text = (stem, op)) :
    EndsLongest text stem op := by
  have hsorted : Operation.suffixed.Pairwise
      fun op other => other.suffix.length ≤ op.suffix.length := by
    decide
  refine ⟨append_of_cut hcut, fun other hsuffix => ?_⟩
  rcases mem_suffixed_or_suffix_eq_nil other with hmem | hempty
  · exact length_suffix_le_of_cut hsorted hcut hmem hsuffix
  · rw [hempty]
    exact Nat.zero_le _

theorem EndsLongest.stem_eq {stem' : List Char} {op' : Operation}
    (hends : EndsLongest text stem op) (hother : EndsLongest text stem' op') :
    stem = stem' := by
  have hle := hother.longest op ⟨stem, hends.append_eq⟩
  have hge := hends.longest op' ⟨stem', hother.append_eq⟩
  exact List.append_inj_left' (hends.append_eq.trans hother.append_eq.symm)
    (Nat.le_antisymm hle hge)

/-- A line that spells no header is refused for the stem in front of its longest suffix. -/
theorem read_of_not_spells (hnone : ∀ h, ¬Spells line h)
    (hends : EndsLongest (Text.trim line.toList) stem op) :
    read line = .error (.invalidName (String.ofList stem)) := by
  cases hread : read line with
  | ok h => exact absurd (read_eq_ok_iff_spells.mp hread) (hnone h)
  | error e =>
      rw [read] at hread
      split at hread
      next name cutOp hcut =>
      split at hread
      · cases hread
      · obtain rfl := (endsLongest_of_cut hcut).stem_eq hends
        exact hread.symm

theorem exists_endsLongest (text : List Char) : ∃ stem op, EndsLongest text stem op := by
  cases hcut : cut Operation.suffixed text with
  | mk stem op => exact ⟨stem, op, endsLongest_of_cut hcut⟩

theorem spells_of_blank_around {h : Header} {before behind : List Char}
    (hname : isName h.name.toList = true) (hbefore : Text.isBlank before = true)
    (hbehind : Text.isBlank behind = true)
    (hline : line.toList = before ++ h.line.toList ++ behind) :
    Spells line h := by
  rw [← read_eq_ok_iff_spells, read_eq_ok_iff]
  refine ⟨hname, ?_⟩
  rw [hline, Text.trim_append_of_isBlank _ hbehind, Text.trim,
    Text.trimStart_append_of_isBlank _ hbefore]
  exact (trimmed_line hname).trim_eq

/-- A line is read as the one header that it spells.  If it spells none, it is refused, and
what is reported is the line without the white space around it and without its longest suffix.
White space around the line of a header does not count. -/
theorem read_unambiguous (line : String) :
    (∀ h, read line = .ok h ↔ Spells line h) ∧
      (∀ h k, Spells line h → Spells line k → h = k) ∧
      ((∀ h, ¬Spells line h) →
        ∃ stem op, EndsLongest (Text.trim line.toList) stem op ∧
          read line = .error (.invalidName (String.ofList stem))) ∧
      ∀ (h : Header) (before behind : List Char),
        h.name.toList ≠ [] → (∀ c ∈ h.name.toList, Text.isWord c = true) →
        Text.isBlank before = true → Text.isBlank behind = true →
        line.toList = before ++ h.name.toList ++ h.operation.suffix ++ behind →
          read line = .ok h := by
  refine ⟨fun h => read_eq_ok_iff_spells, fun h k => Spells.unique, ?_, ?_⟩
  · intro hnone
    obtain ⟨stem, op, hends⟩ := exists_endsLongest (Text.trim line.toList)
    exact ⟨stem, op, hends, read_of_not_spells hnone hends⟩
  · intro h before behind hne hword hbefore hbehind hline
    rw [List.append_assoc before, ← toList_line] at hline
    rw [read_eq_ok_iff_spells]
    exact spells_of_blank_around (isName_iff.mpr ⟨hne, hword⟩) hbefore hbehind hline

/-- Of two suffixes in a row only the last one is cut off, and what is left is no name. -/
example : read " all*!! " = .error (.invalidName "all*!") := by
  decide

end Header

end QueryBook
