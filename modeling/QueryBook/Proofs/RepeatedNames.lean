import QueryBook.Proofs.CatalogExtension

/-!
# Repeated names

The two policies differ in nothing but a name that is defined again.  One lets the last
definition take the place of the first, the other refuses the text, and where both accept a
text they give the same catalog.
-/

namespace QueryBook

theorem Query.exists_ofDefinitions_iff {texts : List (List Char)} :
    (∃ qs, ofDefinitions texts = .ok qs) ↔
      ∀ text ∈ texts, ∃ h, Definition.Declares text h := by
  induction texts with
  | nil =>
      constructor
      · intro _ text hmem
        cases hmem
      · exact fun _ => ⟨[], rfl⟩
  | cons text rest ih =>
      rw [List.forall_mem_cons, ← ih]
      constructor
      · rintro ⟨qs, hqs⟩
        obtain ⟨q, tail, hq, htail, -⟩ := ofDefinitions_cons_eq_ok_iff.mp hqs
        obtain ⟨h, hdeclares, -⟩ := ofDefinition_eq_ok_iff_declares.mp hq
        exact ⟨⟨h, hdeclares⟩, tail, htail⟩
      · rintro ⟨⟨h, hdeclares⟩, tail, htail⟩
        exact ⟨_, ofDefinitions_cons_eq_ok_iff.mpr
          ⟨_, tail, ofDefinition_of_declares hdeclares, htail, rfl⟩⟩

namespace Catalog

/-- A catalog has the names of a row of queries in the order in which they occur first, and
finds for each name the last query of that name. -/
structure Gathers (c : Catalog) (qs : List Query) : Prop where
  names : c.names = (qs.map Query.name).eraseDups
  last : ∀ name, c.find? name = qs.findRev? fun q => q.name = name

theorem gathers_ofQueries (qs : List Query) : (ofQueries qs).Gathers qs where
  names := names_ofQueries_eq_eraseDups qs
  last := find?_ofQueries qs

/-- The error of the first definition that declares no header or has the name of an earlier
one. -/
def FirstFault (texts : List (List Char)) (e : CompileError) : Prop :=
  ∃ front failing back qs, texts = front ++ failing :: back ∧
    Query.ofDefinitions front = .ok qs ∧ (qs.map Query.name).Nodup ∧
      (((∀ h, ¬Definition.Declares failing h) ∧ Query.ofDefinition failing = .error e ∧
          ∃ name, e = .invalidName name) ∨
        ∃ q, Query.ofDefinition failing = .ok q ∧ q.name ∈ qs.map Query.name ∧
          e = .duplicateName q.name)

variable {options : CompileOptions} {texts : List (List Char)}

theorem extend_refusing_eq_error_iff (hpolicy : options.onDuplicate = .error)
    {e : CompileError} :
    (extend options empty texts).outcome = .error e ↔ FirstFault texts e := by
  rw [extend_eq_error_iff]
  constructor
  · rintro ⟨front, failing, back, qs, htexts, hadmits, hrefuses⟩
    refine ⟨front, failing, back, qs, htexts, hadmits.compiled, hadmits.fresh hpolicy, ?_⟩
    cases hrefuses with
    | invalid hfailed =>
        refine Or.inl ⟨?_, hfailed, _, rfl⟩
        intro h hdeclares
        rw [Query.ofDefinition_of_declares hdeclares] at hfailed
        cases hfailed
    | taken _ hcompiled htaken => exact Or.inr ⟨_, hcompiled, htaken, rfl⟩
  · rintro ⟨front, failing, back, qs, htexts, hcompiled, hnodup, hfault⟩
    refine ⟨front, failing, back, qs, htexts, ⟨hcompiled, fun _ => hnodup⟩, ?_⟩
    rcases hfault with ⟨-, hfailed, name, rfl⟩ | ⟨q, hq, htaken, rfl⟩
    · exact .invalid hfailed
    · exact .taken hpolicy hq htaken

/-- What a row of definitions comes to where a repeated name replaces the earlier query, and
where it refuses the row. -/
structure SettlesNames (texts : List (List Char))
    (replacing refusing : Except CompileError Catalog) : Prop where
  accepts : (∃ c, replacing = .ok c) ↔ ∀ text ∈ texts, ∃ h, Definition.Declares text h
  gathers : ∀ c, replacing = .ok c → ∃ qs, Query.ofDefinitions texts = .ok qs ∧ c.Gathers qs
  agrees : ∀ c, refusing = .ok c ↔ replacing = .ok c ∧
    ∃ qs, Query.ofDefinitions texts = .ok qs ∧ (qs.map Query.name).Nodup
  refuses : ∀ e, refusing = .error e ↔ FirstFault texts e

theorem compile_settlesNames (text : String) (warn warn' : Bool) :
    SettlesNames (Source.definitions text.toList)
      (compile ⟨.overwrite, warn⟩ text).outcome (compile ⟨.error, warn'⟩ text).outcome := by
  have hreplacing : (compile ⟨.overwrite, warn⟩ text).outcome = _ := compile_overwrite rfl text
  have hok (c : Catalog) : (compile ⟨.overwrite, warn⟩ text).outcome = .ok c ↔
      ∃ qs, Query.ofDefinitions (Source.definitions text.toList) = .ok qs ∧
        c = ofQueries qs := by
    rw [hreplacing]
    cases Query.ofDefinitions (Source.definitions text.toList) with
    | error e => simp [Except.map]
    | ok qs => simp [Except.map, eq_comm]
  constructor
  case accepts =>
    rw [← Query.exists_ofDefinitions_iff]
    simp only [hok]
    constructor
    · rintro ⟨_, qs, hqs, -⟩
      exact ⟨qs, hqs⟩
    · rintro ⟨qs, hqs⟩
      exact ⟨_, qs, hqs, rfl⟩
  case gathers =>
    intro c hc
    obtain ⟨qs, hqs, rfl⟩ := (hok c).mp hc
    exact ⟨qs, hqs, gathers_ofQueries qs⟩
  case agrees =>
    intro c
    rw [compile_error_eq_ok_iff rfl, hok]
    constructor
    · rintro ⟨qs, hqs, hnodup, rfl⟩
      exact ⟨⟨qs, hqs, rfl⟩, qs, hqs, hnodup⟩
    · rintro ⟨⟨qs, hqs, rfl⟩, qs', hqs', hnodup⟩
      obtain rfl := Except.ok.inj (hqs.symm.trans hqs')
      exact ⟨qs, hqs, hnodup, rfl⟩
  case refuses =>
    intro e
    exact extend_refusing_eq_error_iff rfl

/-- The repeated name comes before the header without a name, so it is the one refused. -/
example :
    (compile ⟨.error, true⟩ "-- name: a\n-- name: b!\n-- name: a?\n-- name: !").outcome =
      .error (.duplicateName "a") :=
  rfl

end Catalog

end QueryBook
