import QueryBook.Proofs.ArgumentResolution
import QueryBook.Runner
import Mathlib.Data.List.Basic

/-!
# Resolved values

Two laws of resolution, both read place by place off the list of what the placeholders find.
Strict resolution is exact: it succeeds when there is a value for every placeholder, gives
each placeholder its own, and reports the first gap otherwise.  Lenient resolution is strict
resolution of the arguments once their gaps are closed by nulls, so that a gap moves no value
to another place.
-/

namespace QueryBook

theorem MissingValue.problem_eq (missing : MissingValue) :
    missing.problem = ⟨"MissingParameterError", [], String.ofList missing.text⟩ := by
  have htext : missing.text ≠ [] := by
    cases missing <;> exact List.append_ne_nil_of_left_ne_nil (by decide) _
  have hpresent : (Value.text (String.ofList missing.text)).isPresent = true := by
    simpa [Value.isPresent] using htext
  have hwords : Problem.wordsOf [.text (String.ofList missing.text)] =
      [String.ofList missing.text] := by
    rw [Problem.wordsOf, List.filter_cons_of_pos hpresent]
    simp [Value.plain]
  simp only [problem, Problem.Kind.problem, Problem.Kind.make, Problem.Kind.handedOn,
    Problem.ofArguments, hwords]
  rfl

namespace Arguments

/-! ## Strict resolution -/

theorem exists_resolveFrom_cons_iff
    {args : Arguments} {marks : Nat} {p : Placeholder} {rest : List Placeholder} :
    (∃ values, args.resolveFrom true marks (p :: rest) = .ok values) ↔
      args.Provides marks p ∧
        ∃ vs, args.resolveFrom true (advance marks p) rest = .ok vs := by
  rw [provides_iff]
  constructor
  · rintro ⟨values, hresolved⟩
    obtain ⟨v, vs, hvalue, hrest, -⟩ := resolveFrom_cons_ok hresolved
    exact ⟨⟨v, hvalue⟩, vs, hrest⟩
  · rintro ⟨⟨v, hvalue⟩, vs, hrest⟩
    exact ⟨v :: vs, by simp [resolveFrom, hvalue, hrest]⟩

/-- No more question marks are passed than there are arguments.  With this invariant it is
enough to count the question marks once. -/
theorem exists_resolveFrom_iff
    {args : Arguments} {marks : Nat} {params : List Placeholder}
    (hmarks : marks ≤ args.positional.length) :
    (∃ values, args.resolveFrom true marks params = .ok values) ↔
      marks + params.count .positional ≤ args.positional.length ∧
        ∀ name, Placeholder.named name ∈ params → name ∈ args.keyword.map Prod.fst := by
  induction params generalizing marks with
  | nil => simp [resolveFrom, hmarks]
  | cons p rest ih =>
      rw [exists_resolveFrom_cons_iff, add_count_cons]
      cases p with
      | positional =>
          simp only [Provides, advance, List.mem_cons, reduceCtorEq, false_or]
          constructor
          · rintro ⟨hprovides, hrest⟩
            exact (ih hprovides).mp hrest
          · rintro ⟨hcount, hnames⟩
            have hprovides : marks < args.positional.length := by omega
            exact ⟨hprovides, (ih hprovides).mpr ⟨hcount, hnames⟩⟩
      | named name =>
          simp only [Provides, advance, ih hmarks, List.mem_cons, Placeholder.named.injEq,
            forall_eq_or_imp]
          exact and_left_comm

/-- Values for a list of placeholders: a question mark has the argument of its own rank, and
a name the keyword argument of that name. -/
structure Fills (args : Arguments) (params : List Placeholder) (values : List Value) :
    Prop where
  length_eq : values.length = params.length
  mark : ∀ place : Nat, params[place]? = some .positional →
    values[place]? = args.positional[(params.take place).count .positional]?
  name : ∀ (place : Nat) (name : String), params[place]? = some (.named name) →
    values[place]? = args.keyword.lookup name

theorem Fills.value?_eq
    {args : Arguments} {params : List Placeholder} {values : List Value}
    (hfills : args.Fills params values) {place : Nat} {p : Placeholder}
    (hparam : params[place]? = some p) :
    args.value? ((params.take place).count .positional) p = values[place]? := by
  cases p with
  | positional => exact (hfills.mark place hparam).symm
  | named name => exact (hfills.name place name hparam).symm

theorem fills_iff
    {args : Arguments} {params : List Placeholder} {values : List Value} :
    args.Fills params values ↔ args.foundFrom 0 params = values.map some := by
  have hfound (place : Nat) := args.getElem?_foundFrom 0 params place
  simp only [Nat.zero_add] at hfound
  constructor
  · intro hfills
    apply List.ext_getElem?
    intro place
    rw [hfound, List.getElem?_map]
    cases hparam : params[place]? with
    | none =>
        have hend : values[place]? = none := by
          rw [List.getElem?_eq_none_iff] at hparam ⊢
          rwa [hfills.length_eq]
        rw [hend]
        rfl
    | some p =>
        have hplace : place < values.length := by
          rw [hfills.length_eq]
          exact (List.getElem?_eq_some_iff.mp hparam).1
        rw [Option.map_some, hfills.value?_eq hparam, List.getElem?_eq_getElem hplace]
        rfl
  · intro heq
    have hvalue {place : Nat} {p : Placeholder} (hparam : params[place]? = some p) :
        values[place]? = args.value? ((params.take place).count .positional) p := by
      have hplace := hfound place
      rw [heq, List.getElem?_map, hparam, Option.map_some] at hplace
      obtain ⟨v, hget, hsome⟩ := Option.map_eq_some_iff.mp hplace
      rw [hget, hsome]
    refine ⟨?_, fun place => hvalue, fun place name => hvalue⟩
    rw [← args.length_foundFrom 0 params, heq, List.length_map]

/-- Strict resolution succeeds exactly when there are enough positional arguments and a
keyword argument for each name.  Then each placeholder has its own value, and otherwise the
first gap is reported. -/
theorem resolve_strict_exact (args : Arguments) (params : List Placeholder) :
    ((∃ values, args.resolve params true = .ok values) ↔
        params.count .positional ≤ args.positional.length ∧
          ∀ name, Placeholder.named name ∈ params → name ∈ args.keyword.map Prod.fst) ∧
      (∀ values, args.resolve params true = .ok values ↔ args.Fills params values) ∧
      (∀ missing, args.resolve params true = .error missing ↔
        args.FirstGap 0 params missing) ∧
      ∀ missing : MissingValue,
        missing.problem = ⟨"MissingParameterError", [], String.ofList missing.text⟩ := by
  refine ⟨?_, ?_, ?_, MissingValue.problem_eq⟩
  · simpa only [resolve, Nat.zero_add] using exists_resolveFrom_iff (Nat.zero_le _)
  · intro values
    rw [fills_iff]
    exact resolveFrom_strict_eq_ok_iff
  · intro missing
    exact resolveFrom_eq_error_iff

/-! ## Lenient resolution -/

/-- The names of a list of placeholders for which there is no keyword argument, each once. -/
def absentNames (args : Arguments) (params : List Placeholder) : List String :=
  ((Placeholder.names params).filter fun name => (args.keyword.lookup name).isNone).eraseDups

/-- The arguments with `extra` nulls behind the positional ones and null for each absent
name. -/
def padded (args : Arguments) (params : List Placeholder) (extra : Nat) : Arguments where
  positional := args.positional ++ List.replicate extra .null
  keyword := args.keyword ++ (args.absentNames params).map (·, .null)

variable {args : Arguments} {params : List Placeholder} {extra : Nat}

theorem value?_padded_positional {marks : Nat}
    (hmarks : marks < args.positional.length + extra) :
    (args.padded params extra).value? marks .positional =
      some ((args.value? marks .positional).getD .null) := by
  simp only [value?, padded]
  by_cases hgiven : marks < args.positional.length
  · rw [List.getElem?_append_left hgiven, List.getElem?_eq_getElem hgiven]
    rfl
  · rw [List.getElem?_append_right (by omega), List.getElem?_replicate_of_lt (by omega),
      List.getElem?_eq_none (by omega)]
    rfl

theorem mem_absentNames_iff {name : String} :
    name ∈ args.absentNames params ↔
      Placeholder.named name ∈ params ∧ args.keyword.lookup name = none := by
  have hnames : name ∈ Placeholder.names params ↔ Placeholder.named name ∈ params := by
    rw [Placeholder.names, List.mem_filterMap]
    constructor
    · rintro ⟨p, hmem, hname⟩
      cases p with
      | positional => contradiction
      | named other =>
          obtain rfl : other = name := Option.some.inj hname
          exact hmem
    · intro hmem
      exact ⟨_, hmem, rfl⟩
  rw [absentNames, List.mem_eraseDups, List.mem_filter, hnames, Option.isNone_iff_eq_none]

theorem value?_padded_named {marks : Nat} {name : String}
    (hname : Placeholder.named name ∈ params) :
    (args.padded params extra).value? marks (.named name) =
      some ((args.value? marks (.named name)).getD .null) := by
  simp only [value?, padded, List.lookup_append]
  cases hlookup : args.keyword.lookup name with
  | some v => rfl
  | none =>
      have habsent : name ∈ args.absentNames params :=
        mem_absentNames_iff.mpr ⟨hname, hlookup⟩
      rw [List.lookup_graph (fun _ => Value.null) habsent]
      rfl

theorem count_take_lt {place : Nat} {p : Placeholder} (hparam : params[place]? = some p) :
    (params.take place).count p < params.count p := by
  calc
    (params.take place).count p < (params.take (place + 1)).count p := by
      rw [List.take_add_one, hparam, Option.toList_some, List.count_append,
        List.count_singleton_self]
      exact Nat.lt_succ_self _
    _ ≤ params.count p := (List.take_sublist _ _).count_le p

theorem foundFrom_padded
    (henough : params.count .positional ≤ args.positional.length + extra) :
    (args.padded params extra).foundFrom 0 params =
      (args.foundFrom 0 params).map fun found => some (found.getD .null) := by
  apply List.ext_getElem?
  intro place
  rw [List.getElem?_map, getElem?_foundFrom, getElem?_foundFrom]
  cases hparam : params[place]? with
  | none => rfl
  | some p =>
      simp only [Option.map_some, Nat.zero_add, Option.some.injEq]
      cases p with
      | positional =>
          -- its rank is below the number of question marks, so the padding reaches it
          have hcount := count_take_lt hparam
          exact value?_padded_positional (by omega)
      | named name => exact value?_padded_named (List.mem_of_getElem? hparam)

/-- Lenient resolution never fails, and gives what strict resolution gives once the gaps of
the arguments are closed by nulls.  A question mark keeps the argument of its own rank
whatever is missing in front of it. -/
theorem resolve_lenient_eq_padded (args : Arguments) (params : List Placeholder) :
    ∃ values,
      args.resolve params false = .ok values ∧
        (∀ extra, params.count .positional ≤ args.positional.length + extra →
          (args.padded params extra).resolve params true = .ok values) ∧
        (∀ strictValues, args.resolve params true = .ok strictValues →
          strictValues = values) ∧
        ∀ place : Nat, params[place]? = some .positional →
          values[place]? =
            some (args.positional[(params.take place).count .positional]?.getD .null) := by
  refine ⟨_, args.resolveFrom_lenient_eq 0 params, ?_, ?_, ?_⟩
  · intro extra henough
    rw [resolve, resolveFrom_strict_eq_ok_iff, foundFrom_padded henough, List.map_map]
    rfl
  · intro strictValues hstrict
    have hfound := resolveFrom_strict_eq_ok_iff.mp hstrict
    have hlenient := resolveFrom_of_foundFrom hfound false
    rw [resolveFrom_lenient_eq, Except.ok.injEq] at hlenient
    exact hlenient.symm
  · intro place hparam
    rw [List.getElem?_map, getElem?_foundFrom, hparam, Nat.zero_add]
    rfl

/-- The second question mark and a name find nothing, and the name behind them keeps its
value. -/
theorem resolve_lenient_eq_padded_gaps :
    let params : List Placeholder := [.positional, .named "y", .positional, .named "x"]
    let args : Arguments := { positional := [.int 1], keyword := [("x", .int 2)] }
    let values : List Value := [.int 1, .null, .null, .int 2]
    params.count .positional ≤ args.positional.length + 1 ∧
      args.resolve params false = .ok values ∧
        (args.padded params 1).resolve params true = .ok values := by
  intro params args values
  have henough : params.count .positional ≤ args.positional.length + 1 := by
    decide
  have hlenient : args.resolve params false = .ok values := by
    rfl
  obtain ⟨others, hothers, hpadded, -, -⟩ := resolve_lenient_eq_padded args params
  obtain rfl : values = others := by
    rw [hlenient] at hothers
    exact Except.ok.inj hothers
  exact ⟨henough, hlenient, hpadded 1 henough⟩

end Arguments

end QueryBook
