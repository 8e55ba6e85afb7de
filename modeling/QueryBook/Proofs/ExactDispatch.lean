import QueryBook.Proofs.ArgumentResolution
import QueryBook.Runner
import Mathlib.Tactic.Common

/-!
# Exact dispatch

The table of operations says which method serves an operation and what becomes of its result.
A run on an adapter with all five methods follows the table: it is refused for a missing
value and calls nothing, or it makes one call and hands on what the table says.  The only
departure is a single row asked of a range with more elements than can be counted.
-/

namespace QueryBook

inductive ResultUse where
  | kept
  | dropped
  | onlyRow
  deriving DecidableEq

/-- The only element of a sequence that is no string, and null for all other values. -/
def Value.onlyElement (v : Value) : Value :=
  match v.elements? with
  | some [row] => row
  | _ => .null

def ResultUse.apply : ResultUse → Value → Value
  | kept, result => result
  | dropped, _ => .null
  | onlyRow, result => result.onlyElement

namespace Operation

def table : Operation → Method × ResultUse
  | insertReturning => (.insertReturning, .kept)
  | insertUpdateDelete => (.insertUpdateDelete, .dropped)
  | insertUpdateDeleteMany => (.insertUpdateDeleteMany, .dropped)
  | script => (.executeScript, .dropped)
  | selectOneRow => (.select, .onlyRow)
  | select => (.select, .kept)

/-- What a method is handed besides the body: nothing for a script, and otherwise the
resolved list. -/
def parameters (op : Operation) (q : Query) (args : Arguments) (strict : Bool) :
    Except MissingValue (List Value) :=
  if op = script then .ok [] else args.resolve q.params strict

end Operation

structure Runner.FollowsTable (r : Runner) (adapter : Adapter) (op : Operation) (q : Query)
    (args : Arguments) (run : Run) : Prop where
  refused : ∀ missing,
    op.parameters q args r.options.strict = .error missing →
      op ≠ .script ∧ r.options.strict = true ∧
        run.calls = [] ∧ run.outcome = .error (.missingValue missing)
  called : ∀ params,
    op.parameters q args r.options.strict = .ok params →
      run.calls = [⟨adapter.label, op.table.1, q.body, params⟩]
  returned : ∀ params result,
    op.parameters q args r.options.strict = .ok params →
      adapter.answer op.table.1 q.body params = .ok result →
        run.outcome = .ok (op.table.2.apply result)
  raised : ∀ params failure,
    op.parameters q args r.options.strict = .ok params →
      adapter.answer op.table.1 q.body params = .error failure →
        run.outcome = .error (.adapterFailed failure)

def Value.Uncountable (v : Value) : Prop :=
  ∃ bound : Int, v = .range bound ∧ Nat.pow 2 63 ≤ bound

def Runner.MeetsUncountable (r : Runner) (adapter : Adapter) (op : Operation) (q : Query)
    (args : Arguments) : Prop :=
  op = .selectOneRow ∧
    ∃ params result,
      op.parameters q args r.options.strict = .ok params ∧
        adapter.answer op.table.1 q.body params = .ok result ∧ result.Uncountable

/-! ## Results -/

theorem Value.onlyElement_range (bound : Int) :
    (Value.range bound).onlyElement = if bound = 1 then .int 0 else .null := by
  by_cases hone : bound = 1
  · subst bound
    rfl
  · rw [if_neg hone]
    have hlength : bound.toNat ≠ 1 := by omega
    unfold onlyElement elements?
    split
    · next row heq =>
      have hsize := congrArg List.length (Option.some.inj heq)
      simp only [List.length_map, List.length_range, List.length_singleton] at hsize
      contradiction
    · rfl

theorem Value.singleRow_of_uncountable {v : Value} (hv : v.Uncountable) :
    v.singleRow = .error {} := by
  obtain ⟨bound, rfl, hbound⟩ := hv
  simp only [singleRow]
  rw [if_pos hbound]

theorem Value.singleRow_of_countable {v : Value} (hv : ¬v.Uncountable) :
    v.singleRow = .ok v.onlyElement := by
  cases v with
  | list rows =>
      rcases rows with _ | ⟨row, _ | ⟨next, rest⟩⟩ <;> rfl
  | tuple rows =>
      rcases rows with _ | ⟨row, _ | ⟨next, rest⟩⟩ <;> rfl
  | range bound =>
      have hbound : ¬Nat.pow 2 63 ≤ bound := fun h => hv ⟨bound, rfl, h⟩
      simp only [singleRow]
      rw [if_neg hbound, onlyElement_range]
  | _ => rfl

theorem Operation.table_method (op : Operation) : op.table.1 = op.method := by
  cases op <;> rfl

theorem Operation.outcome_eq_apply {op : Operation} {result : Value}
    (hcount : ¬(op = .selectOneRow ∧ result.Uncountable)) :
    op.outcome result = .ok (op.table.2.apply result) := by
  cases op with
  | selectOneRow => exact Value.singleRow_of_countable fun h => hcount ⟨rfl, h⟩
  | _ => rfl

/-! ## Runs -/

theorem Operation.ofValue?_of_spelling {v : Value} {op : Operation}
    (hop : v = .operation op ∨ v = .text op.label) :
    Operation.ofValue? v = some op := by
  rcases hop with rfl | rfl
  · rfl
  · exact Operation.ofLabel?_label op

namespace Runner

theorem send_outcome_of_answer
    {adapter : Adapter} {op : Operation} {q : Query} {params : List Value}
    {counted : Option Nat} {result : Value}
    (hanswer : adapter.answer op.method q.body params = .ok result)
    (hcount : ¬(op = .selectOneRow ∧ result.Uncountable)) :
    (send adapter op q params counted).outcome = .ok (op.table.2.apply result) := by
  simp only [send, hanswer, Operation.outcome_eq_apply hcount]

theorem send_outcome_of_uncountable
    {adapter : Adapter} {q : Query} {params : List Value}
    {counted : Option Nat} {result : Value}
    (hanswer : adapter.answer .select q.body params = .ok result)
    (hresult : result.Uncountable) :
    (send adapter .selectOneRow q params counted).outcome =
      .error (.uncountableRows {}) := by
  simp only [send, Operation.method, hanswer, Operation.outcome,
    Value.singleRow_of_uncountable hresult]

theorem execute_of_offers
    {r : Runner} {adapter : Adapter} {q : Query} {op : Operation} {args : Arguments}
    (hadapter : r.adapter = some adapter)
    (hop : Operation.ofValue? q.operation = some op)
    (hoffers : adapter.offers op.method = true) :
    r.execute q args =
      match op.parameters q args r.options.strict with
      | .error missing => .refused (.missingValue missing)
      | .ok params =>
          send adapter op q params (if op = .script then none else some params.length) := by
  unfold execute
  rw [hadapter, hop]
  cases op with
  | script =>
      have hscript : adapter.offers .executeScript = true := hoffers
      simp only [runScript]
      rw [if_pos hscript]
      rfl
  | _ =>
      simp only [runWithParams]
      rw [if_pos hoffers]
      cases hresolved : args.resolve q.params r.options.strict <;>
        simp [Operation.parameters, hresolved]

section

variable {r : Runner} {adapter : Adapter} {q : Query} {op : Operation}
  (hadapter : r.adapter = some adapter)
  (hoffers : ∀ method, adapter.offers method = true)
  (hop : Operation.ofValue? q.operation = some op)
include hadapter hoffers hop

theorem execute_eq (args : Arguments) :
    r.execute q args =
      match op.parameters q args r.options.strict with
      | .error missing => .refused (.missingValue missing)
      | .ok params =>
          send adapter op q params (if op = .script then none else some params.length) :=
  execute_of_offers hadapter hop (hoffers op.method)

theorem execute_of_parameters
    {args : Arguments} {params : List Value}
    (hparams : op.parameters q args r.options.strict = .ok params) :
    ∃ counted, r.execute q args = send adapter op q params counted := by
  rw [execute_eq hadapter hoffers hop args, hparams]
  exact ⟨_, rfl⟩

theorem execute_followsTable {args : Arguments}
    (hcount : ¬r.MeetsUncountable adapter op q args) :
    r.FollowsTable adapter op q args (r.execute q args) := by
  constructor
  · intro missing hmissing
    have hscript : op ≠ .script := by
      rintro rfl
      simp [Operation.parameters] at hmissing
    rw [execute_eq hadapter hoffers hop args, hmissing]
    rw [Operation.parameters, if_neg hscript] at hmissing
    exact ⟨hscript, Arguments.strict_of_resolve_error hmissing, rfl, rfl⟩
  · intro params hparams
    obtain ⟨counted, hrun⟩ := execute_of_parameters hadapter hoffers hop hparams
    rw [hrun, Operation.table_method]
    rfl
  · intro params result hparams hanswer
    obtain ⟨counted, hrun⟩ := execute_of_parameters hadapter hoffers hop hparams
    have hrows : ¬(op = .selectOneRow ∧ result.Uncountable) := by
      rintro ⟨hselect, hresult⟩
      exact hcount ⟨hselect, params, result, hparams, hanswer, hresult⟩
    rw [Operation.table_method] at hanswer
    rw [hrun, send_outcome_of_answer hanswer hrows]
  · intro params failure hparams hanswer
    obtain ⟨counted, hrun⟩ := execute_of_parameters hadapter hoffers hop hparams
    rw [Operation.table_method] at hanswer
    rw [hrun]
    simp only [send, hanswer]

theorem execute_of_uncountable {args : Arguments}
    (hmeets : r.MeetsUncountable adapter op q args) :
    (∃ params, (r.execute q args).calls = [⟨adapter.label, .select, q.body, params⟩]) ∧
      (r.execute q args).outcome = .error (.uncountableRows {}) := by
  obtain ⟨rfl, params, result, hparams, hanswer, hresult⟩ := hmeets
  obtain ⟨counted, hrun⟩ := execute_of_parameters hadapter hoffers hop hparams
  rw [hrun]
  exact ⟨⟨params, rfl⟩, send_outcome_of_uncountable hanswer hresult⟩

end

/-- A run follows the table unless it asks for a single row and is given an uncountable
range.  Then it fails after its one call.  The spelling of the operation makes no
difference. -/
theorem execute_followsTable_iff
    {r : Runner} {adapter : Adapter} {q : Query} {op : Operation}
    (hadapter : r.adapter = some adapter)
    (hoffers : ∀ method, adapter.offers method = true)
    (hop : q.operation = .operation op ∨ q.operation = .text op.label)
    (args : Arguments) :
    (r.FollowsTable adapter op q args (r.execute q args) ↔
        ¬r.MeetsUncountable adapter op q args) ∧
      (r.MeetsUncountable adapter op q args →
        (∃ params,
          (r.execute q args).calls = [⟨adapter.label, .select, q.body, params⟩]) ∧
          (r.execute q args).outcome = .error (.uncountableRows {})) ∧
      r.execute { q with operation := .operation op } args =
        r.execute { q with operation := .text op.label } args := by
  have hvalue := Operation.ofValue?_of_spelling hop
  refine ⟨⟨?_, execute_followsTable hadapter hoffers hvalue⟩,
    execute_of_uncountable hadapter hoffers hvalue, ?_⟩
  · intro hfollows hmeets
    have hfailed := (execute_of_uncountable hadapter hoffers hvalue hmeets).2
    obtain ⟨-, params, result, hparams, hanswer, -⟩ := hmeets
    rw [hfollows.returned params result hparams hanswer] at hfailed
    contradiction
  · rw [execute_eq hadapter hoffers (Operation.ofValue?_of_spelling (.inl rfl)) args,
      execute_eq hadapter hoffers (Operation.ofValue?_of_spelling (.inr rfl)) args]
    rfl

theorem execute_followsTable_iff_label :
    let adapter := Adapter.scripted "A" [] [] [(.select, .list [.text "row"])]
    let r : Runner := { adapter := some adapter }
    let q : Query :=
      { name := "pick"
        operation := .text "select_one_row"
        body := "select ?, :x"
        docs := ""
        params := [.positional, .named "x"] }
    let args : Arguments :=
      { positional := [.int 1]
        keyword := [("x", .null)] }
    r.adapter = some adapter ∧
      (∀ method, adapter.offers method = true) ∧
      q.operation = .text Operation.selectOneRow.label ∧
      ((r.FollowsTable adapter .selectOneRow q args (r.execute q args) ↔
          ¬r.MeetsUncountable adapter .selectOneRow q args) ∧
        (r.MeetsUncountable adapter .selectOneRow q args →
          (∃ params,
            (r.execute q args).calls = [⟨adapter.label, .select, q.body, params⟩]) ∧
            (r.execute q args).outcome = .error (.uncountableRows {})) ∧
        r.execute { q with operation := .operation .selectOneRow } args =
          r.execute { q with operation := .text Operation.selectOneRow.label } args) := by
  intro adapter r q args
  have hoffers : ∀ method, adapter.offers method = true := by
    intro method
    cases method <;> rfl
  exact ⟨rfl, hoffers, rfl, execute_followsTable_iff rfl hoffers (.inr rfl) args⟩

/-- One more element than can be counted, and the run leaves the table. -/
theorem not_followsTable_of_large_range :
    let adapter := Adapter.scripted "A" [] [] [(.select, .range (Nat.pow 2 63))]
    let r : Runner := { adapter := some adapter }
    let q : Query :=
      { name := "q"
        operation := .operation .selectOneRow
        body := "s"
        docs := ""
        params := [] }
    ¬r.FollowsTable adapter .selectOneRow q {} (r.execute q {}) := by
  intro adapter r q hfollows
  have hreturned := hfollows.returned [] (.range (Nat.pow 2 63)) rfl rfl
  have hfailed : (r.execute q {}).outcome = .error (.uncountableRows {}) := by
    rfl
  rw [hfailed] at hreturned
  contradiction

end Runner

end QueryBook
