import QueryBook.Catalog.Access
import QueryBook.Proofs.SourceConcatenation
import Mathlib.Data.List.Perm.Basic
import Mathlib.Data.List.Sort

/-!
# The order of definitions

Texts that define one query each can be put one behind the other in any order.  They do not
reach into one another, so the whole has the queries of its blocks in the order of the
blocks; and what a catalog answers by name, lists or compares does not depend on that order.
Blocks and whole are compiled with the same options: where names may not be redefined, a
block that defines its own name twice is no text of one query.
-/

namespace QueryBook

/-! ## Catalogs of the same queries -/

theorem Query.equal_self {q : Query} {op : Operation}
    (hoperation : q.operation = .operation op) :
    q.equal q = true := by
  simp [equal, toValue, hoperation, Value.equal, Value.equalLeaf]

namespace Catalog

theorem sortedNames_perm (c : Catalog) : c.sortedNames.Perm c.names :=
  List.mergeSort_perm _ _

theorem pairwise_le_sortedNames (c : Catalog) : c.sortedNames.Pairwise (· ≤ ·) :=
  List.pairwise_mergeSort' _ _

theorem pairwise_lt_sortedNames (c : Catalog) : c.sortedNames.Pairwise (· < ·) := by
  have hdistinct : c.sortedNames.Nodup := c.sortedNames_perm.nodup_iff.mpr c.nodup
  refine (c.pairwise_le_sortedNames.and hdistinct).imp ?_
  rintro a b ⟨hle, hne⟩
  exact String.not_le.mp fun hge => hne (String.le_antisymm hle hge)

variable {c d : Catalog}

theorem names_perm (hperm : c.queries.Perm d.queries) : c.names.Perm d.names :=
  hperm.map Query.name

theorem find?_eq_of_perm (hperm : c.queries.Perm d.queries) (name : String) :
    c.find? name = d.find? name := by
  cases hfind : c.find? name with
  | none =>
      rw [find?_eq_none_iff, (names_perm hperm).mem_iff, ← find?_eq_none_iff] at hfind
      exact hfind.symm
  | some q =>
      obtain rfl := name_of_find? hfind
      have hmem : q ∈ c.queries := List.mem_of_find?_eq_some hfind
      exact (find?_of_mem (hperm.mem_iff.mp hmem)).symm

theorem sortedNames_eq_of_perm (hperm : c.queries.Perm d.queries) :
    c.sortedNames = d.sortedNames := by
  have hnames : c.sortedNames.Perm d.sortedNames :=
    (c.sortedNames_perm.trans (names_perm hperm)).trans d.sortedNames_perm.symm
  exact hnames.eq_of_pairwise' c.pairwise_le_sortedNames d.pairwise_le_sortedNames

theorem equal_of_perm (hperm : c.queries.Perm d.queries)
    (hself : ∀ q ∈ c.queries, q.equal q = true) :
    c.equal d = true := by
  rw [equal, Bool.and_eq_true, beq_iff_eq, List.all_eq_true]
  refine ⟨hperm.length_eq, ?_⟩
  intro q hmem
  rw [find?_of_mem (hperm.mem_iff.mp hmem)]
  exact hself q hmem

/-- Two catalogs that differ in nothing but the order of their queries. -/
structure Interchangeable (c d : Catalog) : Prop where
  equal : c.equal d = true
  sortedNames : c.sortedNames = d.sortedNames
  display : c.display = d.display
  item : ∀ name, c.item name = d.item name

theorem interchangeable_of_perm (hperm : c.queries.Perm d.queries)
    (hself : ∀ q ∈ c.queries, q.equal q = true) :
    c.Interchangeable d where
  equal := equal_of_perm hperm hself
  sortedNames := sortedNames_eq_of_perm hperm
  display := by
    unfold display
    rw [sortedNames_eq_of_perm hperm]
  item name := by
    unfold item
    rw [find?_eq_of_perm hperm]

/-- A catalog lists the names of a row of queries in ascending order, each of them once, and
has every query of the row under its name. -/
structure Lists (c : Catalog) (qs : List Query) : Prop where
  ascending : c.sortedNames.Pairwise (· < ·)
  names : c.sortedNames.Perm (qs.map Query.name)
  item : ∀ q ∈ qs, c.item q.name = .ok q

theorem lists_queries (c : Catalog) : c.Lists c.queries where
  ascending := c.pairwise_lt_sortedNames
  names := c.sortedNames_perm
  item _ hmem := item_eq_ok_iff.mpr (find?_of_mem hmem)

/-! ## Blocks one behind the other -/

variable {options : CompileOptions}

theorem equal_self_of_compile {text : String}
    (hcompiled : (compile options text).outcome = .ok c) {q : Query} (hmem : q ∈ c.queries) :
    q.equal q = true := by
  obtain ⟨qs, hqs, rfl⟩ := exists_queries_of_compile hcompiled
  obtain ⟨definition, -, hq⟩ :=
    Query.exists_of_mem_ofDefinitions hqs (mem_of_find?_ofQueries (find?_of_mem hmem))
  obtain ⟨header, -, rfl⟩ := Query.ofDefinition_eq_ok_iff.mp hq
  exact Query.equal_self rfl

/-- A text opens with a marker and compiles to one query when it stands alone. -/
structure Defines (options : CompileOptions) (block : String) (q : Query) : Prop where
  marked : (Marker.after? block.toList).isSome
  compiled : ∃ c, (compile options block).outcome = .ok c ∧ c.queries = [q]

/-- One more block puts its query behind the others. -/
theorem Defines.compile_text_append {block text : String} {q : Query}
    (hdefines : Defines options block q)
    (hcompiled : (compile options text).outcome = .ok c) (hfresh : q.name ∉ c.names) :
    ∃ d, (compile options (text ++ block)).outcome = .ok d ∧ d.queries = c.queries ++ [q] := by
  obtain ⟨left, hafter⟩ := Option.isSome_iff_exists.mp hdefines.marked
  obtain ⟨single, hsingle, hqueries⟩ := hdefines.compiled
  have hdisjoint : ∀ name ∈ c.names, name ∉ single.names := by
    intro name hmem hname
    rw [names, hqueries, List.map_singleton, List.mem_singleton] at hname
    exact hfresh (hname ▸ hmem)
  refine ⟨c.update single, compile_append_of_disjoint hafter hcompiled hsingle hdisjoint, ?_⟩
  rw [queries_update_of_disjoint hdisjoint, hqueries]

theorem compile_append_join {blocks : List String} {qs : List Query}
    (hdefines : List.Forall₂ (Defines options) blocks qs) {text : String}
    (hcompiled : (compile options text).outcome = .ok c)
    (hdistinct : (c.names ++ qs.map Query.name).Nodup) :
    ∃ d, (compile options (text ++ String.join blocks)).outcome = .ok d ∧
      d.queries = c.queries ++ qs := by
  -- the text in front grows by the block that is passed
  induction hdefines generalizing c text with
  | nil => exact ⟨c, by simpa using hcompiled, (List.append_nil _).symm⟩
  | @cons block q blocks qs hblock _ ih =>
      rw [List.map_cons, List.append_cons] at hdistinct
      have hfresh : q.name ∉ c.names := by
        have hfront := (List.nodup_append.mp hdistinct).1
        rw [List.nodup_append] at hfront
        intro hmem
        exact hfront.2.2 _ hmem q.name List.mem_cons_self rfl
      obtain ⟨d, hd, hqueries⟩ := hblock.compile_text_append hcompiled hfresh
      have hnames : d.names = c.names ++ [q.name] := by
        rw [names, hqueries, List.map_append]
        rfl
      obtain ⟨whole, hwhole, hall⟩ := ih hd (hnames ▸ hdistinct)
      refine ⟨whole, ?_, ?_⟩
      · rwa [String.join_cons, ← String.append_assoc]
      · rw [hall, hqueries, List.append_assoc, List.singleton_append]

theorem compile_join {blocks : List String} {qs : List Query}
    (hdefines : List.Forall₂ (Defines options) blocks qs)
    (hdistinct : (qs.map Query.name).Nodup) :
    ∃ c, (compile options (String.join blocks)).outcome = .ok c ∧ c.queries = qs := by
  have hempty : (compile options "").outcome = .ok empty := rfl
  simpa [empty] using compile_append_join hdefines hempty hdistinct

/-- Blocks of one query each, with names that differ, compile in whatever order they stand,
and to catalogs that differ in the order of their queries alone. -/
theorem compile_join_perm {blocks others : List String} {qs : List Query}
    (hdefines : List.Forall₂ (Defines options) blocks qs)
    (hdistinct : (qs.map Query.name).Nodup) (hperm : blocks.Perm others) :
    ∃ c d, (compile options (String.join blocks)).outcome = .ok c ∧
      (compile options (String.join others)).outcome = .ok d ∧
        c.Lists qs ∧ c.Interchangeable d := by
  obtain ⟨qs', hothers, hqs⟩ := List.perm_comp_forall₂ hperm.symm hdefines
  have hdistinct' : (qs'.map Query.name).Nodup := (hqs.map Query.name).nodup_iff.mpr hdistinct
  obtain ⟨c, hc, rfl⟩ := compile_join hdefines hdistinct
  obtain ⟨d, hd, rfl⟩ := compile_join hothers hdistinct'
  exact ⟨c, d, hc, hd, c.lists_queries,
    interchangeable_of_perm hqs.symm fun _ hmem => equal_self_of_compile hc hmem⟩

/-- The first block ends in the words of a marker without its colon, the second in a dash. -/
def looseBlocks : List String :=
  ["-- name: b\nselect 1\n-- name", "--name:a!\ndelete from t -", "-- name: B?\nselect :x\n"]

def looseQueries : List Query :=
  [⟨"b", .operation .select, "select 1", "name\n", []⟩,
    ⟨"a", .operation .insertUpdateDelete, "delete from t -", "", []⟩,
    ⟨"B", .operation .selectOneRow, "select :x", "", [.named "x"]⟩]

theorem compile_join_perm_reverse :
    List.Forall₂ (Defines ⟨.error, true⟩) looseBlocks looseQueries ∧
      (looseQueries.map Query.name).Nodup ∧ looseBlocks.Perm looseBlocks.reverse ∧
        ∃ c d, (compile ⟨.error, true⟩ (String.join looseBlocks)).outcome = .ok c ∧
          (compile ⟨.error, true⟩ (String.join looseBlocks.reverse)).outcome = .ok d ∧
            c.Lists looseQueries ∧ c.Interchangeable d := by
  have hdefines : List.Forall₂ (Defines ⟨.error, true⟩) looseBlocks looseQueries :=
    .cons ⟨rfl, _, rfl, rfl⟩ (.cons ⟨rfl, _, rfl, rfl⟩ (.cons ⟨rfl, _, rfl, rfl⟩ .nil))
  have hdistinct : (looseQueries.map Query.name).Nodup := by
    decide
  have hperm : looseBlocks.Perm looseBlocks.reverse := (List.reverse_perm _).symm
  exact ⟨hdefines, hdistinct, hperm, compile_join_perm hdefines hdistinct hperm⟩

end Catalog

end QueryBook
