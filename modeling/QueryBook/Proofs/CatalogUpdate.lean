import QueryBook.Catalog
import Mathlib.Data.List.Nodup
import Mathlib.Data.List.Induction

/-!
# Updating a catalog

A catalog is settled by the order of its names and by the query it finds for each name.  This
file uses the two views to describe a catalog that is updated with another one, and shows
that putting in a row of queries is an update with the catalog of that row.
-/

namespace QueryBook

namespace Catalog

theorem name_of_find? {c : Catalog} {name : String} {q : Query}
    (hfind : c.find? name = some q) :
    q.name = name := by
  simpa using List.find?_some hfind

theorem find?_eq_none_iff {c : Catalog} {name : String} :
    c.find? name = none ↔ name ∉ c.names := by
  simp [find?, names]

theorem find?_of_mem {c : Catalog} {q : Query} (hmem : q ∈ c.queries) :
    c.find? q.name = some q := by
  cases hfind : c.find? q.name with
  | none =>
      rw [find?_eq_none_iff] at hfind
      exact absurd (List.mem_map_of_mem hmem) hfind
  | some p =>
      have hname := name_of_find? hfind
      have hp : p ∈ c.queries := List.mem_of_find?_eq_some hfind
      rw [List.inj_on_of_nodup_map c.nodup hp hmem hname]

theorem queries_eq_filterMap (c : Catalog) :
    c.queries = c.names.filterMap c.find? := by
  rw [names, List.filterMap_map]
  symm
  calc
    c.queries.filterMap (c.find? ∘ Query.name) = c.queries.filterMap some :=
      List.filterMap_congr fun q hmem => find?_of_mem hmem
    _ = c.queries := List.filterMap_some

theorem ext_of_find? {c d : Catalog}
    (hnames : c.names = d.names) (hfind : ∀ name, c.find? name = d.find? name) :
    c = d := by
  have hqueries : c.queries = d.queries := by
    rw [queries_eq_filterMap, queries_eq_filterMap, hnames]
    exact List.filterMap_congr fun name _ => hfind name
  cases c
  cases d
  simpa using hqueries

theorem contains_eq_true_iff {c : Catalog} {name : String} :
    c.contains name = true ↔ name ∈ c.names := by
  simp [contains]

theorem mem_names_put {c : Catalog} {q : Query} {name : String} :
    name ∈ (c.put q).names ↔ name ∈ c.names ∨ name = q.name := by
  rw [names_put]
  split
  · next htaken =>
    constructor
    · exact Or.inl
    · rintro (hmem | rfl)
      · exact hmem
      · exact htaken
  · rw [List.mem_append, List.mem_singleton]

def replacement (d : Catalog) (q : Query) : Query :=
  (d.find? q.name).getD q

theorem name_replacement (d : Catalog) (q : Query) :
    (d.replacement q).name = q.name := by
  unfold replacement
  cases hfind : d.find? q.name with
  | none => rfl
  | some p => exact name_of_find? hfind

theorem names_map_replacement (c d : Catalog) :
    (c.queries.map d.replacement).map Query.name = c.names := by
  rw [List.map_map, names]
  exact List.map_congr_left fun q _ => d.name_replacement q

theorem names_filter (d : Catalog) (keep : String → Bool) :
    (d.queries.filter fun q => keep q.name).map Query.name = d.names.filter keep := by
  rw [names, List.filter_map]
  rfl

/-- Every name keeps its place and takes its query from the second catalog if that has one;
the names that are new follow in the order of the second catalog. -/
def update (c d : Catalog) : Catalog where
  queries :=
    c.queries.map d.replacement ++ d.queries.filter fun q => !c.contains q.name
  nodup := by
    rw [List.map_append, names_map_replacement, names_filter d fun name => !c.contains name]
    refine List.Nodup.append c.nodup (d.nodup.filter _) ?_
    intro name hold hnew
    rw [List.mem_filter, Bool.not_eq_true', ← Bool.not_eq_true,
      contains_eq_true_iff] at hnew
    exact hnew.2 hold

theorem queries_update (c d : Catalog) :
    (c.update d).queries =
      c.queries.map d.replacement ++ d.queries.filter fun q => !c.contains q.name :=
  rfl

theorem names_update (c d : Catalog) :
    (c.update d).names = c.names ++ d.names.filter fun name => !c.contains name := by
  rw [names, queries_update, List.map_append, names_map_replacement,
    names_filter d fun name => !c.contains name]

theorem find?_update (c d : Catalog) (name : String) :
    (c.update d).find? name = (d.find? name).or (c.find? name) := by
  have hold :
      (c.queries.map d.replacement).find? (fun q => q.name = name) =
        (c.find? name).map d.replacement := by
    rw [List.find?_map]
    congr 2
    funext q
    simp [name_replacement]
  rw [find?, queries_update, List.find?_append, hold]
  cases hfind : c.find? name with
  | some p =>
      have hname := name_of_find? hfind
      simp only [Option.map_some, Option.some_or, replacement, hname]
      cases d.find? name <;> rfl
  | none =>
      have hfresh : c.contains name = false := by
        rw [find?_eq_none_iff, ← contains_eq_true_iff] at hfind
        simpa using hfind
      rw [Option.map_none, Option.none_or, Option.or_none, List.find?_filter, find?]
      congr 1
      funext q
      by_cases hq : q.name = name <;> simp [hq, hfresh]

theorem update_empty (c : Catalog) : c.update empty = c := by
  apply ext_of_find?
  · rw [names_update]
    simp [empty, names]
  · intro name
    rw [find?_update]
    rfl

theorem put_update (c d : Catalog) (q : Query) :
    (c.update d).put q = c.update (d.put q) := by
  apply ext_of_find?
  · simp only [names_put, names_update]
    by_cases hc : q.name ∈ c.names
    · have hcontains := contains_eq_true_iff.mpr hc
      rw [if_pos (List.mem_append_left _ hc)]
      split
      · rfl
      · simp [hcontains]
    · have hcontains : c.contains q.name = false := by
        rw [← contains_eq_true_iff] at hc
        simpa using hc
      by_cases hd : q.name ∈ d.names
      · rw [if_pos hd, if_pos]
        simp [hd, hcontains]
      · rw [if_neg hd, if_neg]
        · simp [hcontains]
        · simp [hc, hd]
  · intro name
    rw [find?_put, find?_update, find?_update, find?_put]
    split <;> rfl

theorem foldl_put_eq_update (c : Catalog) (qs : List Query) :
    qs.foldl put c = c.update (ofQueries qs) := by
  induction qs using List.reverseRecOn with
  | nil => exact c.update_empty.symm
  | append_singleton qs q ih =>
      rw [ofQueries, List.foldl_append, List.foldl_append, ih]
      exact put_update c (ofQueries qs) q

theorem queries_update_of_disjoint {c d : Catalog}
    (hdisjoint : ∀ name ∈ c.names, name ∉ d.names) :
    (c.update d).queries = c.queries ++ d.queries := by
  have hold : c.queries.map d.replacement = c.queries := by
    rw [List.map_congr_left (g := id), List.map_id]
    intro q hmem
    have hnone := find?_eq_none_iff.mpr (hdisjoint q.name (List.mem_map_of_mem hmem))
    simp [replacement, hnone]
  have hnew : (d.queries.filter fun q => !c.contains q.name) = d.queries := by
    rw [List.filter_eq_self]
    intro q hmem
    have hfresh : q.name ∉ c.names := fun h => hdisjoint _ h (List.mem_map_of_mem hmem)
    rw [← contains_eq_true_iff] at hfresh
    simpa using hfresh
  rw [queries_update, hold, hnew]

theorem queries_put_of_fresh {c : Catalog} {q : Query} (hfresh : q.name ∉ c.names) :
    (c.put q).queries = c.queries ++ [q] := by
  have hput : ∀ qs : List Query, q.name ∉ qs.map Query.name → q.putIn qs = qs ++ [q] := by
    intro qs hqs
    induction qs with
    | nil => rfl
    | cons p rest ih =>
        simp only [List.map_cons, List.mem_cons, not_or] at hqs
        rw [Query.putIn, if_neg (Ne.symm hqs.1), ih hqs.2, List.cons_append]
  exact hput c.queries hfresh

/-! ## Rows of queries -/

theorem ofQueries_append_singleton (qs : List Query) (q : Query) :
    ofQueries (qs ++ [q]) = (ofQueries qs).put q := by
  rw [ofQueries, List.foldl_append]
  rfl

theorem queries_ofQueries {qs : List Query} (hnodup : (qs.map Query.name).Nodup) :
    (ofQueries qs).queries = qs := by
  induction qs using List.reverseRecOn with
  | nil => rfl
  | append_singleton qs q ih =>
      rw [List.map_append, List.nodup_append] at hnodup
      obtain ⟨hqs, -, hdisjoint⟩ := hnodup
      have hfresh : q.name ∉ (ofQueries qs).names := by
        rw [names, ih hqs]
        intro hmem
        exact hdisjoint _ hmem q.name (by simp) rfl
      rw [ofQueries_append_singleton, queries_put_of_fresh hfresh, ih hqs]

/-- Every name stands where it occurs first. -/
theorem names_ofQueries_eq_eraseDups (qs : List Query) :
    (ofQueries qs).names = (qs.map Query.name).eraseDups := by
  induction qs using List.reverseRecOn with
  | nil => rfl
  | append_singleton qs q ih =>
      rw [ofQueries_append_singleton, names_put, ih, List.map_append, List.map_singleton]
      generalize qs.map Query.name = earlier
      rw [List.eraseDups_append]
      by_cases hold : q.name ∈ earlier
      · rw [if_pos (List.mem_eraseDups.mpr hold)]
        simp [List.removeAll, hold]
      · rw [if_neg fun hmem => hold (List.mem_eraseDups.mp hmem)]
        simp [List.removeAll, hold, List.eraseDups_cons]

/-- Every name has the query that carries it last. -/
theorem find?_ofQueries (qs : List Query) (name : String) :
    (ofQueries qs).find? name = qs.findRev? fun q => q.name = name := by
  rw [List.findRev?_eq_find?_reverse]
  induction qs using List.reverseRecOn with
  | nil => rfl
  | append_singleton qs q ih =>
      rw [ofQueries_append_singleton, find?_put, ih, List.reverse_append,
        List.reverse_singleton, List.singleton_append, List.find?_cons]
      by_cases hname : q.name = name
      · simp [hname]
      · simp [hname]

theorem mem_of_find?_ofQueries {qs : List Query} {name : String} {q : Query}
    (hfind : (ofQueries qs).find? name = some q) :
    q ∈ qs := by
  rw [find?_ofQueries, List.findRev?_eq_find?_reverse] at hfind
  exact List.mem_reverse.mp (List.mem_of_find?_eq_some hfind)

end Catalog

end QueryBook
