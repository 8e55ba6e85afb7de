import QueryBook.Query

/-!
# Catalogs

An ordered collection of queries in which no name occurs twice.  Putting in a query whose
name is taken replaces the query and keeps its place.
-/

namespace QueryBook

/-- Replaces the query of the same name, or adds the query at the end. -/
def Query.putIn (q : Query) : List Query → List Query
  | [] => [q]
  | p :: rest => if p.name = q.name then q :: rest else p :: putIn q rest

theorem Query.names_putIn (q : Query) (qs : List Query) :
    (q.putIn qs).map Query.name =
      if q.name ∈ qs.map Query.name then qs.map Query.name
      else qs.map Query.name ++ [q.name] := by
  induction qs with
  | nil => rfl
  | cons p rest ih =>
      by_cases hname : p.name = q.name
      · simp [Query.putIn, hname]
      · have hne : ¬q.name = p.name := fun h => hname h.symm
        simp only [Query.putIn, hname, if_false, List.map_cons, ih, List.mem_cons, hne,
          false_or]
        split <;> rfl

theorem Query.nodup_putIn {q : Query} {qs : List Query} (h : (qs.map Query.name).Nodup) :
    ((q.putIn qs).map Query.name).Nodup := by
  rw [Query.names_putIn]
  split
  · exact h
  · rename_i hfresh
    exact List.nodup_append.mpr ⟨h, by simp, by
      intro a ha b hb hab
      simp only [List.mem_singleton] at hb
      exact hfresh (hb ▸ hab ▸ ha)⟩

theorem Query.find?_putIn (q : Query) (qs : List Query) (name : String) :
    (q.putIn qs).find? (fun p => p.name = name) =
      if q.name = name then some q else qs.find? fun p => p.name = name := by
  induction qs with
  | nil => by_cases hq : q.name = name <;> simp [Query.putIn, hq]
  | cons p rest ih =>
      by_cases hp : p.name = q.name
      · by_cases hq : q.name = name
        · simp [Query.putIn, hp, hq]
        · simp [Query.putIn, hp, hq]
      · by_cases hq : q.name = name
        · subst hq
          simp [Query.putIn, hp, ih]
        · simp [Query.putIn, hp, hq, List.find?_cons, ih]

structure Catalog where
  queries : List Query
  nodup : (queries.map Query.name).Nodup

namespace Catalog

def empty : Catalog :=
  ⟨[], List.nodup_nil⟩

def names (c : Catalog) : List String :=
  c.queries.map Query.name

def size (c : Catalog) : Nat :=
  c.queries.length

def find? (c : Catalog) (name : String) : Option Query :=
  c.queries.find? fun q => q.name = name

def contains (c : Catalog) (name : String) : Bool :=
  c.names.contains name

def put (c : Catalog) (q : Query) : Catalog :=
  ⟨q.putIn c.queries, Query.nodup_putIn c.nodup⟩

theorem names_put (c : Catalog) (q : Query) :
    (c.put q).names = if q.name ∈ c.names then c.names else c.names ++ [q.name] :=
  q.names_putIn c.queries

theorem find?_put (c : Catalog) (q : Query) (name : String) :
    (c.put q).find? name = if q.name = name then some q else c.find? name :=
  q.find?_putIn c.queries name

def ofQueries (qs : List Query) : Catalog :=
  qs.foldl put empty

/-- The names in ascending order of their code points. -/
def sortedNames (c : Catalog) : List String :=
  c.names.mergeSort fun a b => decide (a ≤ b)

/-- Same names with equal queries, in whatever order. -/
def equal (a b : Catalog) : Bool :=
  a.size == b.size &&
    a.queries.all fun q =>
      match b.find? q.name with
      | some q' => q.equal q'
      | none => false

end Catalog

end QueryBook
