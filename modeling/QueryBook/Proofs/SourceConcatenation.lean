import QueryBook.Proofs.CatalogExtension
import QueryBook.Proofs.MarkerSeam

/-!
# Source texts one behind the other

A text that opens with a marker can be put behind any other text.  The definitions of the
whole are those of the two parts, so compiling the whole is compiling the parts and updating
the first catalog with the second one.  How the first part ends does not matter.
-/

namespace QueryBook

namespace Source

theorem definitions_append {a b left : List Char} (hafter : Marker.after? b = some left) :
    definitions (a ++ b) = definitions a ++ definitions b := by
  have hopening : (Segmentation.ofText b).opening = [] :=
    Segmentation.opening_of_after? hafter
  have hcode : hasCode [] = false := rfl
  unfold definitions
  rw [Segmentation.ofText_append hafter]
  simp only [Segmentation.followedBy, hopening, hcode, List.map_append,
    Bool.false_eq_true, if_false, List.nil_append]
  rw [← List.append_assoc, List.filter_append]
  rfl

end Source

namespace Catalog

theorem ofQueries_append (qs qs' : List Query) :
    ofQueries (qs ++ qs') = (ofQueries qs).update (ofQueries qs') := by
  rw [ofQueries, List.foldl_append]
  exact foldl_put_eq_update (ofQueries qs) qs'

theorem names_ofQueries {qs : List Query} (hnodup : (qs.map Query.name).Nodup) :
    (ofQueries qs).names = qs.map Query.name := by
  rw [names, queries_ofQueries hnodup]

theorem compile_append_overwrite
    {options : CompileOptions} (hpolicy : options.onDuplicate = .overwrite)
    {a b : String} {left : List Char} (hafter : Marker.after? b.toList = some left) :
    (compile options (a ++ b)).outcome =
      match (compile options a).outcome, (compile options b).outcome with
      | .error e, _ => .error e
      | .ok _, .error e => .error e
      | .ok c, .ok d => .ok (c.update d) := by
  rw [compile_overwrite hpolicy, compile_overwrite hpolicy, compile_overwrite hpolicy,
    String.toList_append, Source.definitions_append hafter, Query.ofDefinitions_append]
  cases Query.ofDefinitions (Source.definitions a.toList) with
  | error e => rfl
  | ok qs =>
      cases Query.ofDefinitions (Source.definitions b.toList) with
      | error e => rfl
      | ok qs' => simp only [Except.map, ofQueries_append]

theorem compile_append_error
    {options : CompileOptions} (hpolicy : options.onDuplicate = .error)
    {a b : String} {left : List Char} (hafter : Marker.after? b.toList = some left)
    {whole : Catalog} :
    (compile options (a ++ b)).outcome = .ok whole ↔
      ∃ c d, (compile options a).outcome = .ok c ∧ (compile options b).outcome = .ok d ∧
        (∀ name ∈ c.names, name ∉ d.names) ∧ whole = c.update d := by
  simp only [compile_error_eq_ok_iff hpolicy, String.toList_append,
    Source.definitions_append hafter, Query.ofDefinitions_append]
  cases Query.ofDefinitions (Source.definitions a.toList) with
  | error e => simp
  | ok qs =>
      cases Query.ofDefinitions (Source.definitions b.toList) with
      | error e => simp
      | ok qs' =>
          simp only [Except.ok.injEq]
          constructor
          · rintro ⟨_, rfl, hnodup, rfl⟩
            rw [List.map_append, List.nodup_append] at hnodup
            obtain ⟨hqs, hqs', hdisjoint⟩ := hnodup
            refine ⟨_, _, ⟨qs, rfl, hqs, rfl⟩, ⟨qs', rfl, hqs', rfl⟩, ?_,
              ofQueries_append qs qs'⟩
            rw [names_ofQueries hqs, names_ofQueries hqs']
            exact fun name hold hnew => hdisjoint name hold name hnew rfl
          · rintro ⟨_, _, ⟨_, rfl, hqs, rfl⟩, ⟨_, rfl, hqs', rfl⟩, hdisjoint, rfl⟩
            refine ⟨qs ++ qs', rfl, ?_, (ofQueries_append qs qs').symm⟩
            rw [names_ofQueries hqs, names_ofQueries hqs'] at hdisjoint
            rw [List.map_append, List.nodup_append]
            exact ⟨hqs, hqs', fun name hold name' hnew heq => hdisjoint name hold (heq ▸ hnew)⟩

/-- Parts that share no name make one text under either policy. -/
theorem compile_append_of_disjoint {options : CompileOptions}
    {a b : String} {left : List Char} (hafter : Marker.after? b.toList = some left)
    {c d : Catalog} (hc : (compile options a).outcome = .ok c)
    (hd : (compile options b).outcome = .ok d)
    (hdisjoint : ∀ name ∈ c.names, name ∉ d.names) :
    (compile options (a ++ b)).outcome = .ok (c.update d) := by
  cases hpolicy : options.onDuplicate with
  | overwrite => rw [compile_append_overwrite hpolicy hafter, hc, hd]
  | error =>
      exact (compile_append_error hpolicy hafter).mpr ⟨c, d, hc, hd, hdisjoint, rfl⟩

/-- How the outcome of a whole text comes from the outcomes of its two parts.  Where names
may be redefined, the first error counts, and otherwise the second catalog updates the first.
Where they may not, success takes two parts that share no name. -/
def JoinsTo (policy : DuplicatePolicy) (first second whole : Except CompileError Catalog) :
    Prop :=
  match policy with
  | .overwrite =>
      whole =
        match first, second with
        | .error e, _ => .error e
        | .ok _, .error e => .error e
        | .ok c, .ok d => .ok (c.update d)
  | .error =>
      ((∃ c, whole = .ok c) ↔
        ∃ c d, first = .ok c ∧ second = .ok d ∧ ∀ name ∈ c.names, name ∉ d.names) ∧
      ∀ c d e, first = .ok c → second = .ok d → whole = .ok e →
        e.queries = c.queries ++ d.queries

/-- Compiling a text with a marked text behind it is compiling the two and joining the
outcomes. -/
theorem compile_append
    {b : String} {left : List Char} (hafter : Marker.after? b.toList = some left)
    (a : String) (options : CompileOptions) :
    JoinsTo options.onDuplicate (compile options a).outcome (compile options b).outcome
      (compile options (a ++ b)).outcome := by
  cases hpolicy : options.onDuplicate with
  | overwrite => exact compile_append_overwrite hpolicy hafter
  | error =>
      constructor
      · constructor
        · rintro ⟨whole, hwhole⟩
          obtain ⟨c, d, hc, hd, hdisjoint, -⟩ :=
            (compile_append_error hpolicy hafter).mp hwhole
          exact ⟨c, d, hc, hd, hdisjoint⟩
        · rintro ⟨c, d, hc, hd, hdisjoint⟩
          exact ⟨c.update d,
            (compile_append_error hpolicy hafter).mpr ⟨c, d, hc, hd, hdisjoint, rfl⟩⟩
      · intro c d whole hc hd hwhole
        obtain ⟨c', d', hc', hd', hdisjoint, rfl⟩ :=
          (compile_append_error hpolicy hafter).mp hwhole
        obtain rfl : c' = c := Except.ok.inj (hc'.symm.trans hc)
        obtain rfl : d' = d := Except.ok.inj (hd'.symm.trans hd)
        exact queries_update_of_disjoint hdisjoint

/-- The first part ends in the words of a marker without its colon. -/
theorem compile_append_of_unfinished_marker :
    Marker.after? "-- name: b\nselect 2\n".toList = some "b\nselect 2\n".toList ∧
      JoinsTo .overwrite (compile {} "-- name: a\nselect 1\n-- name").outcome
        (compile {} "-- name: b\nselect 2\n").outcome
        (compile {} ("-- name: a\nselect 1\n-- name" ++ "-- name: b\nselect 2\n")).outcome := by
  have hafter :
      Marker.after? "-- name: b\nselect 2\n".toList = some "b\nselect 2\n".toList := by
    rfl
  exact ⟨hafter, compile_append hafter _ {}⟩

end Catalog

end QueryBook
