import QueryBook.Arguments
import Mathlib.Tactic.Common

/-!
# Resolving arguments

What a placeholder finds depends on the arguments, on the placeholder and on the number of
question marks in front of it, and on nothing else.  The list of what all placeholders find
is therefore known before anything is resolved.  The strict form succeeds when every
placeholder finds a value, and fails for the first one that finds none and for no other
reason.  The lenient form puts null where nothing is found.
-/

namespace QueryBook

namespace Arguments

theorem resolveFrom_cons_ok
    {args : Arguments} {marks : Nat} {p : Placeholder} {rest : List Placeholder}
    {values : List Value}
    (hresolved : args.resolveFrom true marks (p :: rest) = .ok values) :
    ∃ v vs, args.value? marks p = some v ∧
      args.resolveFrom true (advance marks p) rest = .ok vs ∧ values = v :: vs := by
  cases hvalue : args.value? marks p with
  | none =>
      simp [resolveFrom, hvalue] at hresolved
  | some v =>
      cases hrest : args.resolveFrom true (advance marks p) rest with
      | error missing =>
          simp [resolveFrom, hvalue, hrest] at hresolved
      | ok vs =>
          simp only [resolveFrom, hvalue, hrest, Option.getD_some,
            Except.ok.injEq] at hresolved
          exact ⟨v, vs, rfl, rfl, hresolved.symm⟩

/-! ## What placeholders find -/

theorem advance_eq_count (marks : Nat) (p : Placeholder) :
    advance marks p = marks + [p].count .positional := by
  cases p <;> simp [advance]

theorem add_count_cons (marks : Nat) (p : Placeholder) (front : List Placeholder) :
    marks + (p :: front).count .positional =
      advance marks p + front.count .positional := by
  rw [advance_eq_count, ← List.singleton_append, List.count_append, Nat.add_assoc]

/-- What the placeholders of a list find that follow `marks` question marks. -/
def foundFrom (args : Arguments) : Nat → List Placeholder → List (Option Value)
  | _, [] => []
  | marks, p :: rest => args.value? marks p :: args.foundFrom (advance marks p) rest

/-- The rank of a question mark is the number of question marks in front of it, so the names
that stand between do not count. -/
theorem getElem?_foundFrom (args : Arguments) (marks : Nat) (params : List Placeholder)
    (place : Nat) :
    (args.foundFrom marks params)[place]? =
      params[place]?.map (args.value? (marks + (params.take place).count .positional)) := by
  induction params generalizing marks place with
  | nil => rfl
  | cons p rest ih =>
      cases place with
      | zero => rfl
      | succ place =>
          rw [foundFrom, List.getElem?_cons_succ, List.getElem?_cons_succ, ih,
            List.take_succ_cons, add_count_cons]

theorem length_foundFrom (args : Arguments) (marks : Nat) (params : List Placeholder) :
    (args.foundFrom marks params).length = params.length := by
  induction params generalizing marks with
  | nil => rfl
  | cons p rest ih => rw [foundFrom, List.length_cons, List.length_cons, ih]

theorem resolveFrom_lenient_eq (args : Arguments) (marks : Nat) (params : List Placeholder) :
    args.resolveFrom false marks params =
      .ok ((args.foundFrom marks params).map (·.getD .null)) := by
  induction params generalizing marks with
  | nil => rfl
  | cons p rest ih => simp [resolveFrom, foundFrom, ih]

theorem resolveFrom_strict_eq_ok_iff
    {args : Arguments} {marks : Nat} {params : List Placeholder} {values : List Value} :
    args.resolveFrom true marks params = .ok values ↔
      args.foundFrom marks params = values.map some := by
  induction params generalizing marks values with
  | nil => cases values <;> simp [resolveFrom, foundFrom]
  | cons p rest ih =>
      constructor
      · intro hresolved
        obtain ⟨v, vs, hvalue, hrest, rfl⟩ := resolveFrom_cons_ok hresolved
        rw [foundFrom, hvalue, ih.mp hrest, List.map_cons]
      · intro hfound
        cases values with
        | nil => contradiction
        | cons v vs =>
            obtain ⟨hvalue, hrest⟩ := List.cons.inj hfound
            simp [resolveFrom, hvalue, ih.mpr hrest]

/-- Where nothing is missing, both forms of resolution give what is found. -/
theorem resolveFrom_of_foundFrom
    {args : Arguments} {marks : Nat} {params : List Placeholder} {values : List Value}
    (hfound : args.foundFrom marks params = values.map some) (strict : Bool) :
    args.resolveFrom strict marks params = .ok values := by
  cases strict with
  | true => exact resolveFrom_strict_eq_ok_iff.mpr hfound
  | false =>
      rw [resolveFrom_lenient_eq, hfound, List.map_map]
      simp [Function.comp_def]

theorem length_resolveFrom
    {args : Arguments} {strict : Bool} {marks : Nat} {params : List Placeholder}
    {values : List Value}
    (hresolved : args.resolveFrom strict marks params = .ok values) :
    values.length = params.length := by
  cases strict with
  | true =>
      have hfound := resolveFrom_strict_eq_ok_iff.mp hresolved
      rw [← args.length_foundFrom marks params, hfound, List.length_map]
  | false =>
      rw [resolveFrom_lenient_eq, Except.ok.injEq] at hresolved
      rw [← hresolved, List.length_map, length_foundFrom]

theorem strict_of_resolve_error
    {args : Arguments} {params : List Placeholder} {strict : Bool} {missing : MissingValue}
    (hrefused : args.resolve params strict = .error missing) :
    strict = true := by
  cases strict with
  | true => rfl
  | false =>
      rw [resolve, resolveFrom_lenient_eq] at hrefused
      contradiction

/-! ## The first gap -/

/-- Whether a placeholder has a value after a number of question marks. -/
def Provides (args : Arguments) (marks : Nat) : Placeholder → Prop
  | .positional => marks < args.positional.length
  | .named name => name ∈ args.keyword.map Prod.fst

/-- The first placeholder without a value in a list that follows `marks` question marks, told
by its name or by its rank among the question marks. -/
def FirstGap (args : Arguments) (marks : Nat) (params : List Placeholder)
    (missing : MissingValue) : Prop :=
  ∃ front p back, params = front ++ p :: back ∧
    (∀ before other after, front = before ++ other :: after →
      args.Provides (marks + before.count .positional) other) ∧
    ¬args.Provides (marks + front.count .positional) p ∧
    missing = gap (marks + front.count .positional) p

theorem value?_eq_none_iff {args : Arguments} {marks : Nat} {p : Placeholder} :
    args.value? marks p = none ↔ ¬args.Provides marks p := by
  cases p with
  | positional => simp [value?, Provides]
  | named name =>
      rw [value?, Provides, List.lookup_eq_none_iff, List.mem_map]
      constructor
      · rintro hnone ⟨⟨key, v⟩, hmem, rfl⟩
        simpa using hnone _ hmem
      · intro hnone entry hmem
        rw [bne_iff_ne]
        rintro rfl
        exact hnone ⟨entry, hmem, rfl⟩

theorem provides_iff {args : Arguments} {marks : Nat} {p : Placeholder} :
    args.Provides marks p ↔ ∃ v, args.value? marks p = some v := by
  rw [← Option.ne_none_iff_exists', ne_eq, value?_eq_none_iff, not_not]

theorem firstGap_cons_of_provides
    {args : Arguments} {marks : Nat} {p : Placeholder} {rest : List Placeholder}
    {missing : MissingValue} (hprovides : args.Provides marks p) :
    args.FirstGap marks (p :: rest) missing ↔
      args.FirstGap (advance marks p) rest missing := by
  constructor
  · rintro ⟨front, q, back, hparams, hfront, hgap, hmissing⟩
    cases front with
    | nil =>
        obtain ⟨rfl, rfl⟩ := List.cons.inj hparams
        exact absurd hprovides hgap
    | cons q' front =>
        obtain ⟨rfl, rfl⟩ := List.cons.inj hparams
        rw [add_count_cons] at hgap hmissing
        refine ⟨front, q, back, rfl, ?_, hgap, hmissing⟩
        rintro before other after rfl
        rw [← add_count_cons]
        exact hfront (p :: before) other after rfl
  · rintro ⟨front, q, back, rfl, hfront, hgap, hmissing⟩
    rw [← add_count_cons] at hgap hmissing
    refine ⟨p :: front, q, back, rfl, ?_, hgap, hmissing⟩
    intro before other after hsplit
    cases before with
    | nil =>
        obtain ⟨rfl, rfl⟩ := List.cons.inj hsplit
        exact hprovides
    | cons q' before =>
        obtain ⟨rfl, rfl⟩ := List.cons.inj hsplit
        rw [add_count_cons]
        exact hfront before other after rfl

theorem firstGap_cons_of_not_provides
    {args : Arguments} {marks : Nat} {p : Placeholder} {rest : List Placeholder}
    {missing : MissingValue} (hgap : ¬args.Provides marks p) :
    args.FirstGap marks (p :: rest) missing ↔ missing = gap marks p := by
  constructor
  · rintro ⟨front, q, back, hparams, hfront, -, hmissing⟩
    cases front with
    | nil =>
        obtain ⟨rfl, rfl⟩ := List.cons.inj hparams
        exact hmissing
    | cons q' front =>
        obtain ⟨rfl, rfl⟩ := List.cons.inj hparams
        exact absurd (hfront [] p front rfl) hgap
  · rintro rfl
    exact ⟨[], p, rest, rfl, by simp, hgap, rfl⟩

theorem resolveFrom_eq_error_iff
    {args : Arguments} {marks : Nat} {params : List Placeholder} {missing : MissingValue} :
    args.resolveFrom true marks params = .error missing ↔
      args.FirstGap marks params missing := by
  induction params generalizing marks with
  | nil => simp [resolveFrom, FirstGap]
  | cons p rest ih =>
      cases hvalue : args.value? marks p with
      | none =>
          rw [firstGap_cons_of_not_provides (value?_eq_none_iff.mp hvalue)]
          simp [resolveFrom, hvalue, eq_comm]
      | some v =>
          have hprovides : args.Provides marks p := provides_iff.mpr ⟨v, hvalue⟩
          rw [firstGap_cons_of_provides hprovides, ← ih]
          cases hrest : args.resolveFrom true (advance marks p) rest <;>
            simp [resolveFrom, hvalue, hrest]

end Arguments

end QueryBook
