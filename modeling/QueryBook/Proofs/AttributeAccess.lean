import QueryBook.Proofs.CatalogExtension

/-!
# Queries as attributes

An attribute look-up asks the catalog itself first and then its queries, and compiling gives
notice of a name that the catalog keeps for itself.  The two go by different lists: the
look-up asks for every part of a catalog, and the notices are due to the parts that are not
hidden.  Both leave hidden names aside, so of the names that are not hidden each is either
reached as an attribute or reported, and never both.
-/

namespace QueryBook

namespace Catalog

theorem isReserved_eq_true_iff {name : String} :
    isReserved name = true ↔ Member.ofLabel? name ≠ none ∧ isHidden name = false := by
  have hfound : Member.ofLabel? name ≠ none ↔ name ∈ Member.all.map Member.label := by
    simp [Member.ofLabel?]
  rw [hfound, isReserved, reservedNames, List.contains_iff_mem, List.mem_filter,
    Bool.not_eq_true']

/-- The look-up reaches a query where the catalog has no part of that name and the name is not
hidden. -/
theorem attributeNamed_eq_query_iff {c : Catalog} {name : String} {q : Query} :
    c.attributeNamed name = .ok (.query q) ↔
      Member.ofLabel? name = none ∧ isHidden name = false ∧ c.find? name = some q := by
  unfold attributeNamed
  cases Member.ofLabel? name with
  | some m => simp
  | none =>
      cases isHidden name with
      | true => simp
      | false =>
          cases c.find? name with
          | none => simp
          | some p => simp

/-! ## Notices of names that a catalog keeps for itself -/

theorem shadowed_not_mem_nameNotices (options : CompileOptions) (name other : String) :
    Notice.shadowed other ∉ options.nameNotices name := by
  rw [CompileOptions.nameNotices]
  split <;> simp

theorem shadowed_mem_entryNotices_iff {c : Catalog} {name other : String} :
    Notice.shadowed other ∈ c.entryNotices name ↔ other = name ∧ isReserved other = true := by
  have hredefined :
      Notice.shadowed other ∉ if c.contains name then [Notice.redefined name] else [] := by
    split <;> simp
  rw [entryNotices, List.mem_append, or_iff_right hredefined]
  by_cases hname : other = name
  · subst other
    cases isReserved name with
    | true => simp
    | false => simp
  · cases isReserved name with
    | true => simp [hname]
    | false => simp [hname]

theorem shadowed_mem_enteringNotices_iff {options : CompileOptions} {c : Catalog}
    {qs : List Query} {name : String} :
    Notice.shadowed name ∈ enteringNotices options c qs ↔
      name ∈ qs.map Query.name ∧ isReserved name = true := by
  induction qs generalizing c with
  | nil => simp [enteringNotices]
  | cons q qs ih =>
      have hletters := shadowed_not_mem_nameNotices options q.name name
      rw [enteringNotices, List.mem_append, List.mem_append, or_iff_right hletters,
        shadowed_mem_entryNotices_iff, ih, List.map_cons, List.mem_cons, or_and_right]

/-- An accepted text gives this notice of every name in its catalog that is reserved, and of
no other name. -/
theorem shadowed_mem_notices_compile_iff {options : CompileOptions} {text : String}
    {c : Catalog} (hcompiled : (compile options text).outcome = .ok c) {name : String} :
    Notice.shadowed name ∈ (compile options text).notices ↔
      name ∈ c.names ∧ isReserved name = true := by
  obtain ⟨qs, hadmits, rfl⟩ := extend_eq_ok_iff.mp hcompiled
  have hnames : name ∈ (qs.foldl put empty).names ↔ name ∈ qs.map Query.name :=
    mem_names_foldl_put
  have hcount : Notice.shadowed name ∉ [Notice.compiled (qs.foldl put empty).size] := by
    simp
  rw [compile, extend_of_admits hadmits, List.mem_append, or_iff_left hcount,
    shadowed_mem_enteringNotices_iff, hnames]

/-- A query of a compiled catalog is reached as an attribute exactly if compiling gave no
notice that its name is shadowed, unless the name is hidden.  No attribute with a hidden name
is a query. -/
theorem attributeNamed_iff_not_shadowed {options : CompileOptions} {text : String}
    {c : Catalog} (hcompiled : (compile options text).outcome = .ok c)
    {name : String} (hname : name ∈ c.names) :
    ∃ q, c.item name = .ok q ∧
      (isHidden name = false →
        (c.attributeNamed name = .ok (.query q) ↔
          Notice.shadowed name ∉ (compile options text).notices)) ∧
      (isHidden name = true → ∀ p, c.attributeNamed name ≠ .ok (.query p)) := by
  have hfound : c.find? name ≠ none := fun hnone => find?_eq_none_iff.mp hnone hname
  obtain ⟨q, hq⟩ := Option.ne_none_iff_exists'.mp hfound
  refine ⟨q, item_eq_ok_iff.mpr hq, ?_, ?_⟩
  · intro hpublic
    rw [attributeNamed_eq_query_iff, shadowed_mem_notices_compile_iff hcompiled,
      isReserved_eq_true_iff]
    simp [hpublic, hq, hname]
  · intro hhidden p hp
    obtain ⟨-, hpublic, -⟩ := attributeNamed_eq_query_iff.mp hp
    cases hhidden.symm.trans hpublic

/-- The first query is named like a part of every catalog and hides behind it. -/
theorem attributeNamed_iff_not_shadowed_keys :
    ∃ c, (compile {} "-- name: keys?\nselect 1;\n-- name: page").outcome = .ok c ∧
      "keys" ∈ c.names ∧
      ∃ q, c.item "keys" = .ok q ∧
        (isHidden "keys" = false →
          (c.attributeNamed "keys" = .ok (.query q) ↔
            Notice.shadowed "keys" ∉
              (compile {} "-- name: keys?\nselect 1;\n-- name: page").notices)) ∧
        (isHidden "keys" = true → ∀ p, c.attributeNamed "keys" ≠ .ok (.query p)) := by
  obtain ⟨c, hcompiled, hnames⟩ :
      ∃ c, (compile {} "-- name: keys?\nselect 1;\n-- name: page").outcome = .ok c ∧
        c.names = ["keys", "page"] :=
    ⟨_, rfl, rfl⟩
  have hname : "keys" ∈ c.names := by
    simp [hnames]
  exact ⟨c, hcompiled, hname, attributeNamed_iff_not_shadowed hcompiled hname⟩

/-- A query with a hidden name is not reached as an attribute, and nothing is said of it. -/
theorem hidden_query_neither_reached_nor_reported :
    ∃ c q, (compile {} "-- name: _page\nselect 1;").outcome = .ok c ∧
      c.item "_page" = .ok q ∧
      ¬(c.attributeNamed "_page" = .ok (.query q) ∨
        Notice.shadowed "_page" ∈ (compile {} "-- name: _page\nselect 1;").notices) := by
  have hhidden : isHidden "_page" = true := by
    decide
  have hnotices :
      (compile {} "-- name: _page\nselect 1;").notices = [Notice.compiled 1] := by
    decide +kernel
  refine ⟨_, _, rfl, rfl, ?_⟩
  rintro (hreached | hreported)
  · obtain ⟨-, hpublic, -⟩ := attributeNamed_eq_query_iff.mp hreached
    cases hhidden.symm.trans hpublic
  · rw [hnotices] at hreported
    simp at hreported

end Catalog

end QueryBook
