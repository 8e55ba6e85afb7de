import QueryBook.Proofs.DataReading
import QueryBook.Proofs.RunRefusal
import QueryBook.Query
import Mathlib.Data.List.Basic

/-!
# Queries in documents

The document of a value tells its data.  An operation is told by its label and a query by a
dictionary of its fields, in which the placeholders are tagged by their kind and the query is
not.  So nothing is lost of values that hold no query, and two queries can have one document
only if one of them holds a query in its operation where the other one holds the dictionary
with the fields of that query.
-/

namespace QueryBook

def Placeholder.asData : Placeholder → Value
  | positional => .dictionary [("type", .text "positional")]
  | named name => .dictionary [("type", .text "named"), ("name", .text name)]

namespace Value

/-- Null, truth values, whole numbers, texts and operations, lists and dictionaries of such
values, and queries where they are allowed.  A dictionary has each of its keys once. -/
inductive Structured (queriesAllowed : Prop) : Value → Prop where
  | null : Structured queriesAllowed null
  | bool (b : Bool) : Structured queriesAllowed (bool b)
  | int (n : Int) : Structured queriesAllowed (int n)
  | text (s : String) : Structured queriesAllowed (text s)
  | operation (op : Operation) : Structured queriesAllowed (operation op)
  | list {items : List Value} (hitems : ∀ item ∈ items, Structured queriesAllowed item) :
    Structured queriesAllowed (list items)
  | dictionary {entries : List (String × Value)} (hkeys : (entries.map Prod.fst).Nodup)
    (hentries : ∀ entry ∈ entries, Structured queriesAllowed entry.2) :
    Structured queriesAllowed (dictionary entries)
  | query {op : Value} (hallowed : queriesAllowed) (hop : Structured queriesAllowed op)
    (name body docs : String) (params : List Placeholder) :
    Structured queriesAllowed (query name op body docs params)

mutual

/-- The data of a value, with labels for operations and dictionaries for queries. -/
def asData : Value → Value
  | list items => list (asDataItems items)
  | dictionary entries => dictionary (asDataEntries entries)
  | operation op => text op.label
  | query name op body docs params =>
    dictionary
      [("name", text name), ("operation", asData op), ("sql", text body),
        ("docs", text docs), ("params", list (params.map Placeholder.asData))]
  | v => v

def asDataItems : List Value → List Value
  | [] => []
  | item :: items => asData item :: asDataItems items

def asDataEntries : List (String × Value) → List (String × Value)
  | [] => []
  | (key, item) :: entries => (key, asData item) :: asDataEntries entries

end

theorem asDataItems_eq_map (items : List Value) : asDataItems items = items.map asData := by
  induction items with
  | nil => rfl
  | cons item items ih => rw [asDataItems, ih, List.map_cons]

theorem asDataEntries_eq_map (entries : List (String × Value)) :
    asDataEntries entries = entries.map fun entry => (entry.1, entry.2.asData) := by
  induction entries with
  | nil => rfl
  | cons entry entries ih => rw [asDataEntries, ih, List.map_cons]

@[simp] theorem asData_list (items : List Value) :
    (list items).asData = list (items.map asData) := by
  rw [asData, asDataItems_eq_map]

@[simp] theorem asData_dictionary (entries : List (String × Value)) :
    (dictionary entries).asData =
      dictionary (entries.map fun entry => (entry.1, entry.2.asData)) := by
  rw [asData, asDataEntries_eq_map]

end Value

/-! ## What is read back -/

namespace Placeholder

theorem asData_injective : Function.Injective asData := by
  intro p p' hdata
  cases p <;> cases p' <;> simp_all [asData]

theorem isData_asData (p : Placeholder) : p.asData.IsData := by
  cases p <;>
    simp [asData, Value.IsData.text, Value.IsData.dictionary]

theorem structured_asData (p : Placeholder) {allowed : Prop} : p.asData.Structured allowed := by
  cases p with
  | positional => exact .dictionary (by decide) (by simp [Value.Structured.text])
  | named name => exact .dictionary (by simp) (by simp [Value.Structured.text])

theorem toJson_asData (p : Placeholder) : p.asData.toJson = p.toJson := by
  cases p <;> rfl

end Placeholder

namespace Value

variable {allowed : Prop} {v w : Value}

theorem Structured.isData_asData (hv : v.Structured allowed) : v.asData.IsData := by
  induction hv with
  | null => exact .null
  | bool b => exact .bool b
  | int n => exact .int n
  | text s => exact .text s
  | operation op => exact .text op.label
  | list _ ih =>
      rw [asData_list]
      exact .list (List.forall_mem_map.mpr ih)
  | dictionary _ _ ih =>
      rw [asData_dictionary]
      exact .dictionary (List.forall_mem_map.mpr ih)
  | query _ _ name body docs params ih =>
      have hparams : (Value.list (params.map Placeholder.asData)).IsData :=
        .list (List.forall_mem_map.mpr fun p _ => p.isData_asData)
      refine .dictionary ?_
      simp [IsData.text, ih, hparams]

/-- The keys of a dictionary that is read back are distinct, those of a query's fields too. -/
theorem Structured.structured_asData (hv : v.Structured allowed) :
    v.asData.Structured False := by
  induction hv with
  | null => exact .null
  | bool b => exact .bool b
  | int n => exact .int n
  | text s => exact .text s
  | operation op => exact .text op.label
  | list _ ih =>
      rw [asData_list]
      exact .list (List.forall_mem_map.mpr ih)
  | @dictionary entries hkeys _ ih =>
      have hsame : (entries.map fun entry => (entry.1, entry.2.asData)).map Prod.fst =
          entries.map Prod.fst := by
        rw [List.map_map]
        rfl
      rw [asData_dictionary]
      exact .dictionary (hsame ▸ hkeys) (List.forall_mem_map.mpr ih)
  | query _ _ name body docs params ih =>
      have hparams : (Value.list (params.map Placeholder.asData)).Structured False :=
        .list (List.forall_mem_map.mpr fun p _ => p.structured_asData)
      refine .dictionary (by simp) ?_
      simp [Structured.text, ih, hparams]

/-- A value and its data have the same document. -/
theorem Structured.toJson_asData (hv : v.Structured allowed) : v.asData.toJson = v.toJson := by
  induction hv with
  | list _ ih =>
      rw [asData_list, toJson, toJson, toJsons_eq_map, toJsons_eq_map, List.map_map]
      exact congrArg Json.list (List.map_congr_left ih)
  | dictionary _ _ ih =>
      rw [asData_dictionary, toJson, toJson, toMembers_eq_map, toMembers_eq_map, List.map_map]
      exact congrArg Json.object (List.map_congr_left fun entry hentry =>
        congrArg (entry.1, ·) (ih entry hentry))
  | query _ _ name body docs params ih =>
      have hparams : toJsons (params.map Placeholder.asData) = params.map Placeholder.toJson := by
        rw [toJsons_eq_map, List.map_map]
        exact List.map_congr_left fun p _ => p.toJson_asData
      simp only [asData, toJson, toMembers, ih, hparams]
  | _ => rfl

theorem Structured.read?_encode (hv : v.Structured allowed) :
    ∃ j, Json.read? v.encode = some j ∧ j.toValue = v.asData := by
  have hdata := hv.isData_asData
  refine ⟨v.asData.toJson, ?_, hdata.toValue_toJson⟩
  rw [encode, ← hv.toJson_asData]
  exact Json.read?_print hdata.exact_toJson

theorem Structured.encode_eq_iff {allowed' : Prop} (hv : v.Structured allowed)
    (hw : w.Structured allowed') : v.encode = w.encode ↔ v.asData = w.asData := by
  constructor
  · intro hsame
    obtain ⟨j, hread, hj⟩ := hv.read?_encode
    obtain ⟨k, hread', hk⟩ := hw.read?_encode
    rw [hsame, hread'] at hread
    rw [← hj, ← hk, Option.some.inj hread]
  · intro hsame
    rw [encode, encode, ← hv.toJson_asData, ← hw.toJson_asData, hsame]

theorem IsData.asData_eq (hv : v.IsData) : v.asData = v := by
  induction hv with
  | @list items _ ih =>
      rw [asData_list, List.map_congr_left ih, List.map_id']
  | @dictionary entries _ ih =>
      rw [asData_dictionary]
      refine congrArg Value.dictionary ((List.map_congr_left fun entry hentry => ?_).trans
        (List.map_id' entries))
      rw [ih entry hentry]
  | _ => rfl

/-! ## Values with the same data -/

theorem lookup_of_mem {α : Type} {entries : List (String × α)}
    (hkeys : (entries.map Prod.fst).Nodup) {entry : String × α} (hentry : entry ∈ entries) :
    entries.lookup entry.1 = some entry.2 := by
  obtain ⟨before, behind, rfl⟩ := List.append_of_mem hentry
  refine List.lookup_eq_some_iff.mpr ⟨before, behind, rfl, ?_⟩
  intro earlier hearlier
  rw [List.map_append, List.map_cons, List.nodup_append] at hkeys
  rw [bne_iff_ne]
  exact (hkeys.2.2 _ (List.mem_map_of_mem hearlier) _ (List.mem_cons_self ..)).symm

theorem equalItems_of_map_eq {xs ys : List Value} (hsame : xs.map asData = ys.map asData)
    (hequal : ∀ x ∈ xs, ∀ y ∈ ys, x.asData = y.asData → x.equal y = true) :
    equalItems xs ys = true := by
  induction xs generalizing ys with
  | nil =>
      obtain rfl := List.map_eq_nil_iff.mp hsame.symm
      rfl
  | cons x xs ih =>
      cases ys with
      | nil => cases hsame
      | cons y ys =>
          obtain ⟨hhead, htail⟩ := List.cons.inj hsame
          rw [equalItems, Bool.and_eq_true]
          refine ⟨hequal x (List.mem_cons_self ..) y (List.mem_cons_self ..) hhead, ?_⟩
          exact ih htail fun x' hx' y' hy' =>
            hequal x' (List.mem_cons_of_mem _ hx') y' (List.mem_cons_of_mem _ hy')

theorem allBound_of_forall {xs ys : List (String × Value)}
    (hbound : ∀ entry ∈ xs, ∃ y, ys.lookup entry.1 = some y ∧ entry.2.equal y = true) :
    allBound xs ys = true := by
  induction xs with
  | nil => rfl
  | cons entry xs ih =>
      obtain ⟨y, hlookup, hequal⟩ := hbound entry (List.mem_cons_self ..)
      rw [allBound, hlookup, Bool.and_eq_true]
      exact ⟨hequal, ih fun other hother => hbound other (List.mem_cons_of_mem _ hother)⟩

theorem Structured.equal_of_asData_eq (hv : v.Structured False) (hw : w.Structured False)
    (hsame : v.asData = w.asData) : v.equal w = true := by
  induction hv generalizing w with
  | null => cases hw <;> simp_all [asData, equal, equalLeaf]
  | bool b => cases hw <;> simp_all [asData, equal, equalLeaf]
  | int n => cases hw <;> simp_all [asData, equal, equalLeaf]
  | text s => cases hw <;> simp_all [asData, equal, equalLeaf]
  | operation op =>
      cases hw with
      | operation op' =>
          obtain rfl := Operation.label_injective (text.inj hsame)
          simp [equal, equalLeaf]
      | _ => simp_all [asData, equal, equalLeaf]
  | @list items _ ih =>
      cases hw with
      | @list items' hitems' =>
          rw [asData_list, asData_list, list.injEq] at hsame
          rw [equal]
          exact equalItems_of_map_eq hsame fun x hx y hy => ih x hx (hitems' y hy)
      | _ => simp_all [asData]
  | @dictionary entries hkeys _ ih =>
      cases hw with
      | @dictionary entries' hkeys' hentries' =>
          rw [asData_dictionary, asData_dictionary, dictionary.injEq] at hsame
          have hlength := congrArg List.length hsame
          rw [List.length_map, List.length_map] at hlength
          rw [equal, hlength, beq_self_eq_true, Bool.true_and]
          refine allBound_of_forall fun entry hentry => ?_
          obtain ⟨entry', hentry', hdata⟩ := List.mem_map.mp (hsame ▸ List.mem_map_of_mem hentry)
          obtain ⟨hkey, hitem⟩ := Prod.mk.inj hdata
          refine ⟨entry'.2, ?_, ih entry hentry (hentries' entry' hentry') hitem.symm⟩
          rw [← hkey]
          exact lookup_of_mem hkeys' hentry'
      | _ => simp_all [asData]
  | query hallowed => exact hallowed.elim

/-! ## Queries -/

theorem Structured.mono {allowed' : Prop} (himp : allowed → allowed')
    (hv : v.Structured allowed) : v.Structured allowed' := by
  induction hv with
  | null => exact .null
  | bool b => exact .bool b
  | int n => exact .int n
  | text s => exact .text s
  | operation op => exact .operation op
  | list _ ih => exact .list ih
  | dictionary hkeys _ ih => exact .dictionary hkeys ih
  | query hallowed _ name body docs params ih =>
      exact .query (himp hallowed) ih name body docs params

end Value

namespace Query

variable {q q' : Query}

theorem encode_toValue_eq_iff (hop : q.operation.Structured True)
    (hop' : q'.operation.Structured True) :
    q.toValue.encode = q'.toValue.encode ↔
      q.name = q'.name ∧ q.operation.asData = q'.operation.asData ∧ q.body = q'.body ∧
        q.docs = q'.docs ∧ q.params = q'.params := by
  have hq : q.toValue.Structured True := .query trivial hop _ _ _ _
  have hq' : q'.toValue.Structured True := .query trivial hop' _ _ _ _
  have hparams : q.params.map Placeholder.asData = q'.params.map Placeholder.asData ↔
      q.params = q'.params :=
    (List.map_injective_iff.mpr Placeholder.asData_injective).eq_iff
  rw [hq.encode_eq_iff hq']
  simp [toValue, Value.asData, hparams]

theorem equal_of_encode_eq (hop : q.operation.Structured False)
    (hop' : q'.operation.Structured False) (hsame : q.toValue.encode = q'.toValue.encode) :
    q.equal q' = true := by
  rw [encode_toValue_eq_iff (hop.mono False.elim) (hop'.mono False.elim)] at hsame
  obtain ⟨hname, hdata, hbody, hdocs, hparams⟩ := hsame
  simp [equal, toValue, Value.equal, hname, hop.equal_of_asData_eq hop' hdata, hbody, hdocs,
    hparams]

end Query

/-- The document of a structured value is read back as its data, in which each dictionary has
its keys once and in their order.  Two queries have one document exactly if they agree in all
fields and the operations hold the same data, so different queries have different documents
as long as no query stands inside an operation. -/
theorem Value.encode_keepsData :
    (∀ v : Value, v.Structured True →
      (∃ j, Json.read? v.encode = some j ∧ j.toValue = v.asData) ∧
        v.asData.IsData ∧ v.asData.Structured False ∧ (v.IsData → v.asData = v)) ∧
    (∀ q q' : Query, q.operation.Structured True → q'.operation.Structured True →
      (q.toValue.encode = q'.toValue.encode ↔
        q.name = q'.name ∧ q.operation.asData = q'.operation.asData ∧ q.body = q'.body ∧
          q.docs = q'.docs ∧ q.params = q'.params)) ∧
    ∀ q q' : Query, q.operation.Structured False → q'.operation.Structured False →
      q.toValue.encode = q'.toValue.encode → q.equal q' = true := by
  refine ⟨fun v hv => ?_, fun q q' => Query.encode_toValue_eq_iff,
    fun q q' => Query.equal_of_encode_eq⟩
  exact ⟨hv.read?_encode, hv.isData_asData, hv.structured_asData, IsData.asData_eq⟩

/-- A query in a list, with characters to escape in every field and a large number inside. -/
def escapedQuery : Value :=
  .list
    [.query "\"q\\" (.dictionary [("\n", .list [.int (-18446744073709551617), .operation .select])])
      "\x00" "\u2028\n" [.positional, .named "type"]]

theorem encode_keepsData_escapedQuery :
    escapedQuery.Structured True ∧
      (∃ j, Json.read? escapedQuery.encode = some j ∧ j.toValue = escapedQuery.asData) ∧
      escapedQuery.asData =
        .list
          [.dictionary
            [("name", .text "\"q\\"),
              ("operation",
                .dictionary [("\n", .list [.int (-18446744073709551617), .text "select"])]),
              ("sql", .text "\x00"), ("docs", .text "\u2028\n"),
              ("params", .list
                [.dictionary [("type", .text "positional")],
                  .dictionary [("type", .text "named"), ("name", .text "type")]])]] := by
  have hop : (Value.dictionary
      [("\n", .list [.int (-18446744073709551617), .operation .select])]).Structured True := by
    refine .dictionary (by decide) ?_
    rw [List.forall_mem_singleton]
    refine .list ?_
    rw [List.forall_mem_cons, List.forall_mem_singleton]
    exact ⟨.int _, .operation _⟩
  have hstructured : escapedQuery.Structured True := by
    refine .list ?_
    rw [List.forall_mem_singleton]
    exact .query trivial hop _ _ _ _
  exact ⟨hstructured, (Value.encode_keepsData.1 escapedQuery hstructured).1, rfl⟩

/-- A query whose operation is a query, and one with the fields of that query in its place. -/
def queryWithin : Query where
  name := "q"
  operation := .query "n" .null "" "" []
  body := ""
  docs := ""
  params := []

def fieldsWithin : Query where
  name := "q"
  operation := .dictionary
    [("name", .text "n"), ("operation", .null), ("sql", .text ""), ("docs", .text ""),
      ("params", .list [])]
  body := ""
  docs := ""
  params := []

/-- The two queries differ and have the same document. -/
theorem encode_queryWithin_eq :
    queryWithin.operation.Structured True ∧ fieldsWithin.operation.Structured True ∧
      queryWithin.equal fieldsWithin = false ∧
      queryWithin.toValue.encode = fieldsWithin.toValue.encode := by
  have hquery : queryWithin.operation.Structured True := .query trivial .null _ _ _ _
  have hfields : fieldsWithin.operation.Structured True := hquery.structured_asData.mono False.elim
  exact ⟨hquery, hfields, rfl, rfl⟩

end QueryBook
