import QueryBook.Proofs.ExactDispatch
import QueryBook.Session

/-!
# Refused runs

There are four reasons to refuse a run, and several of them can hold at once.  The relation
below says which one is reported: every reason stands behind the negations of those that come
before it.  A refused run calls nothing, every other run makes one call, and both leave the
session as it was.

The error raised for a refusal is the one that belongs to its reason, except that the error for
an unknown operation shows the operation: where that holds a number with more digits than the
host writes, the host's complaint is raised instead.
-/

namespace QueryBook

namespace Operation

theorem ofLabel?_eq_some_iff {label : String} {op : Operation} :
    ofLabel? label = some op ↔ label = op.label := by
  constructor
  · intro hfound
    have hlabel := List.find?_some hfound
    simpa [eq_comm] using hlabel
  · rintro rfl
    exact ofLabel?_label op

theorem label_injective : Function.Injective label := by
  intro a b hlabel
  have hfound := ofLabel?_label a
  rw [hlabel, ofLabel?_label] at hfound
  exact (Option.some.inj hfound).symm

/-- An operation is found for a value exactly if the value equals its label. -/
theorem ofValue?_eq_some_iff {v : Value} {op : Operation} :
    Operation.ofValue? v = some op ↔ v.equal (.text op.label) = true := by
  cases v with
  | text s => simp [ofValue?, ofLabel?_eq_some_iff, Value.equal, Value.equalLeaf]
  | operation given =>
      have hlabel : given = op ↔ op.label = given.label :=
        ⟨fun h => h ▸ rfl, fun h => (label_injective h).symm⟩
      simp [ofValue?, Value.equal, Value.equalLeaf, hlabel]
  | _ => simp [ofValue?, Value.equal, Value.equalLeaf]

theorem ofValue?_eq_none_iff {v : Value} :
    Operation.ofValue? v = none ↔ ∀ op : Operation, v.equal (.text op.label) = false := by
  simp only [Option.eq_none_iff_forall_ne_some, ne_eq, ofValue?_eq_some_iff,
    Bool.not_eq_true]

end Operation

/-- The host can write all whole numbers that the value shows. -/
def Value.Writable (limit : Option Nat) (v : Value) : Prop :=
  ∀ digits ∈ limit, v.fits digits = true

theorem Problem.raised_eq_ok_iff {ε : Type} {limit : Option Nat} {shown : List Value} {e : ε} :
    Problem.raised limit shown e = .ok e ↔ ∀ v ∈ shown, v.Writable limit := by
  cases limit with
  | none => simp [raised, Value.Writable]
  | some digits => simp [raised, Value.Writable]

theorem Problem.raised_cases {ε : Type} (limit : Option Nat) (shown : List Value) (e : ε) :
    Problem.raised limit shown e = .ok e ∨
      ∃ digits, limit = some digits ∧ Problem.raised limit shown e = .error ⟨digits⟩ := by
  cases limit with
  | none => exact .inl rfl
  | some digits =>
      rw [raised]
      split
      · exact .inl rfl
      · exact .inr ⟨digits, rfl, rfl⟩

namespace Runner

/-- The reason that is reported when a run is refused. -/
inductive Refuses (r : Runner) (q : Query) (args : Arguments) : RunError → Prop
  | noAdapter (hadapter : r.adapter = none) :
      Refuses r q args .noAdapter
  | unsupported {adapter : Adapter} (hadapter : r.adapter = some adapter)
      (hvalue : ∀ op : Operation, q.operation.equal (.text op.label) = false) :
      Refuses r q args (.unsupportedOperation q.operation)
  | missingMethod {adapter : Adapter} {op : Operation} (hadapter : r.adapter = some adapter)
      (hvalue : q.operation.equal (.text op.label) = true)
      (hlacks : adapter.offers op.table.1 = false) :
      Refuses r q args (.missingMethod op.table.1)
  | missingValue {adapter : Adapter} {op : Operation} {missing : MissingValue}
      (hadapter : r.adapter = some adapter)
      (hvalue : q.operation.equal (.text op.label) = true)
      (hoffers : adapter.offers op.table.1 = true)
      (hscript : op ≠ .script) (hstrict : r.options.strict = true)
      (hgap : args.FirstGap 0 q.params missing) :
      Refuses r q args (.missingValue missing)

/-- The call of a run that is not refused. -/
inductive Sends (r : Runner) (q : Query) (args : Arguments) : Call → Prop
  | intro {adapter : Adapter} {op : Operation} {params : List Value}
      (hadapter : r.adapter = some adapter)
      (hvalue : q.operation.equal (.text op.label) = true)
      (hoffers : adapter.offers op.table.1 = true)
      (hparams : op.parameters q args r.options.strict = .ok params) :
      Sends r q args ⟨adapter.label, op.table.1, q.body, params⟩

variable {r : Runner} {q : Query} {args : Arguments}

theorem execute_of_lacks {adapter : Adapter} {op : Operation}
    (hadapter : r.adapter = some adapter) (hop : Operation.ofValue? q.operation = some op)
    (hlacks : adapter.offers op.method = false) :
    (r.execute q args).calls = [] ∧
      (r.execute q args).outcome = .error (.missingMethod op.method) := by
  unfold execute
  rw [hadapter, hop]
  cases op with
  | script =>
      have hscript : adapter.offers .executeScript = false := hlacks
      simp only [runScript, hscript]
      exact ⟨rfl, rfl⟩
  | _ =>
      simp only [runWithParams, hlacks]
      exact ⟨rfl, rfl⟩

theorem parameters_eq_error_iff {op : Operation} {missing : MissingValue} :
    op.parameters q args r.options.strict = .error missing ↔
      op ≠ .script ∧ r.options.strict = true ∧ args.FirstGap 0 q.params missing := by
  unfold Operation.parameters
  by_cases hscript : op = .script
  · simp [hscript]
  · rw [if_neg hscript]
    constructor
    · intro hmissing
      have hstrict := Arguments.strict_of_resolve_error hmissing
      rw [hstrict, Arguments.resolve, Arguments.resolveFrom_eq_error_iff] at hmissing
      exact ⟨hscript, hstrict, hmissing⟩
    · rintro ⟨-, hstrict, hgap⟩
      rwa [hstrict, Arguments.resolve, Arguments.resolveFrom_eq_error_iff]

theorem execute_of_refuses {e : RunError} (hrefuses : r.Refuses q args e) :
    (r.execute q args).calls = [] ∧ (r.execute q args).outcome = .error e := by
  cases hrefuses with
  | noAdapter hadapter =>
      unfold execute
      rw [hadapter]
      exact ⟨rfl, rfl⟩
  | unsupported hadapter hvalue =>
      have hop := Operation.ofValue?_eq_none_iff.mpr hvalue
      unfold execute
      rw [hadapter, hop]
      exact ⟨rfl, rfl⟩
  | missingMethod hadapter hvalue hlacks =>
      rw [Operation.table_method] at hlacks ⊢
      exact execute_of_lacks hadapter (Operation.ofValue?_eq_some_iff.mpr hvalue) hlacks
  | missingValue hadapter hvalue hoffers hscript hstrict hgap =>
      have hmissing := parameters_eq_error_iff.mpr ⟨hscript, hstrict, hgap⟩
      rw [Operation.table_method] at hoffers
      rw [execute_of_offers hadapter (Operation.ofValue?_eq_some_iff.mpr hvalue) hoffers,
        hmissing]
      exact ⟨rfl, rfl⟩

theorem execute_of_sends {call : Call} (hsends : r.Sends q args call) :
    (r.execute q args).calls = [call] := by
  obtain ⟨hadapter, hvalue, hoffers, hparams⟩ := hsends
  rw [Operation.table_method] at hoffers ⊢
  rw [execute_of_offers hadapter (Operation.ofValue?_eq_some_iff.mpr hvalue) hoffers,
    hparams]
  rfl

theorem refuses_or_sends (r : Runner) (q : Query) (args : Arguments) :
    (∃ e, r.Refuses q args e) ∨ ∃ call, r.Sends q args call := by
  cases hadapter : r.adapter with
  | none => exact .inl ⟨_, .noAdapter hadapter⟩
  | some adapter =>
  cases hop : Operation.ofValue? q.operation with
  | none =>
      exact .inl ⟨_, .unsupported hadapter (Operation.ofValue?_eq_none_iff.mp hop)⟩
  | some op =>
  have hvalue := Operation.ofValue?_eq_some_iff.mp hop
  cases hoffers : adapter.offers op.table.1 with
  | false => exact .inl ⟨_, .missingMethod hadapter hvalue hoffers⟩
  | true =>
  cases hparams : op.parameters q args r.options.strict with
  | error missing =>
      obtain ⟨hscript, hstrict, hgap⟩ := parameters_eq_error_iff.mp hparams
      exact .inl ⟨_, .missingValue hadapter hvalue hoffers hscript hstrict hgap⟩
  | ok params => exact .inr ⟨_, hadapter, hvalue, hoffers, hparams⟩

theorem length_execute_calls (r : Runner) (q : Query) (args : Arguments) :
    (r.execute q args).calls.length ≤ 1 := by
  rcases r.refuses_or_sends q args with ⟨e, hrefuses⟩ | ⟨call, hsends⟩
  · simp [(execute_of_refuses hrefuses).1]
  · simp [execute_of_sends hsends]

theorem sends_of_mem_calls {call : Call} (hcall : call ∈ (r.execute q args).calls) :
    r.Sends q args call := by
  rcases r.refuses_or_sends q args with ⟨e, hrefuses⟩ | ⟨sent, hsends⟩
  · rw [(execute_of_refuses hrefuses).1] at hcall
    cases hcall
  · rw [execute_of_sends hsends, List.mem_singleton] at hcall
    exact hcall ▸ hsends

/-- A call is refused for a keyword that is already bound, and is an execution otherwise. -/
theorem calls_call (r : Runner) (q : Query) (args : Arguments) :
    (r.call q args).calls = [] ∨ r.call q args = r.execute q args := by
  unfold call
  split
  · exact .inl rfl
  · exact .inr rfl

/-- The error of a refused run is raised unless it shows an operation that cannot be written. -/
theorem Refuses.raised_eq_ok_iff {e : RunError} (hrefuses : r.Refuses q args e)
    (limit : Option Nat) :
    e.raised limit = .ok e ↔
      (e = .unsupportedOperation q.operation → q.operation.Writable limit) := by
  rw [RunError.raised, Problem.raised_eq_ok_iff]
  cases hrefuses <;> simp [RunError.shown]

end Runner

namespace Session

/-- A run that meets a reason for refusal reports the first one and calls nothing; any other
run makes exactly one call.  Neither changes the adapter or the options of a runner.  The error
of the reason is what is raised, unless the operation is unknown and holds a whole number with
more digits than the host writes: then the host's complaint is. -/
theorem step_execute_refuses_or_sends
    {s : Session} {label : String} {id : Nat} {r : Runner}
    (hlabel : s.runnerId? label = some id) (hrunner : s.runner? id = some r)
    (q : Query) (args : Arguments) (limit : Option Nat) :
    let taken := s.step (.execute label (.given q) args)
    taken.1.runner? id = some r ∧ taken.1 = s ∧
      (∀ e, r.Refuses q args e →
        taken.2.calls = [] ∧ taken.2.outcome = .error (.run e) ∧
          (e.raised limit = .ok e ↔
            (e = .unsupportedOperation q.operation → q.operation.Writable limit)) ∧
          (e.raised limit ≠ .ok e →
            ∃ digits, limit = some digits ∧ e.raised limit = .error ⟨digits⟩)) ∧
      ((∀ e, ¬r.Refuses q args e) →
        ∃ call, r.Sends q args call ∧ taken.2.calls = [call]) := by
  have hstep : s.step (.execute label (.given q) args) =
      (s, .ofRun (r.execute q args)) := by
    simp only [step, locate, queryFor, hlabel, useRunner, hrunner]
  intro taken
  simp only [taken, hstep]
  refine ⟨hrunner, trivial, ?_, ?_⟩
  · intro e hrefuses
    obtain ⟨hcalls, houtcome⟩ := Runner.execute_of_refuses hrefuses
    refine ⟨hcalls, by simp only [Entry.ofRun, houtcome], hrefuses.raised_eq_ok_iff limit, ?_⟩
    exact (Problem.raised_cases limit e.shown e).resolve_left
  · intro hnone
    rcases r.refuses_or_sends q args with ⟨e, hrefuses⟩ | ⟨call, hsends⟩
    · exact absurd hrefuses (hnone e)
    · exact ⟨call, hsends, Runner.execute_of_sends hsends⟩

/-- A method is lacking and a value is missing as well: the method is reported. -/
theorem step_execute_refuses_or_sends_lacking :
    let r : Runner := { adapter := some (.scripted "A" [.select] [] []) }
    let s : Session := { runners := [r] }
    let q : Query :=
      { name := "pick"
        operation := .text "select"
        body := "select ?"
        docs := ""
        params := [.positional] }
    let taken := s.step (.execute defaultLabel (.given q) {})
    let lacking := RunError.missingMethod .select
    s.runnerId? defaultLabel = some 0 ∧ s.runner? 0 = some r ∧ r.Refuses q {} lacking ∧
      taken.1 = s ∧ taken.2.calls = [] ∧ taken.2.outcome = .error (.run lacking) ∧
      lacking.raised (some Text.usualDigits) = .ok lacking := by
  intro r s q taken lacking
  have hvalue : q.operation.equal (.text Operation.select.label) = true := by
    decide
  have hlacking : r.Refuses q {} lacking := .missingMethod rfl hvalue rfl
  have hlabel : s.runnerId? defaultLabel = some 0 := rfl
  have hrunner : s.runner? 0 = some r := rfl
  obtain ⟨-, hkept, hrefused, -⟩ :=
    step_execute_refuses_or_sends hlabel hrunner q {} (some Text.usualDigits)
  obtain ⟨hcalls, houtcome, hraised, -⟩ := hrefused lacking hlacking
  exact ⟨hlabel, hrunner, hlacking, hkept, hcalls, houtcome, hraised.mpr nofun⟩

/-- The operation is unknown, and the error that should say so is not raised, because its
message cannot be written. -/
theorem overlong_operation_not_raised :
    let r : Runner := { adapter := some (.echo "A") }
    let s : Session := { runners := [r] }
    let q : Query :=
      { name := "q"
        operation := .int (Int.ofNat (Nat.pow 10 4300))
        body := "s"
        docs := ""
        params := [] }
    let unknown := RunError.unsupportedOperation q.operation
    s.runnerId? defaultLabel = some 0 ∧ s.runner? 0 = some r ∧ r.Refuses q {} unknown ∧
      (s.step (.execute defaultLabel (.given q) {})).2.outcome = .error (.run unknown) ∧
      unknown.raised (some Text.usualDigits) = .error ⟨Text.usualDigits⟩ := by
  intro r s q unknown
  have hvalue : ∀ op : Operation, q.operation.equal (.text op.label) = false := by
    intro op
    rfl
  have hlong : q.operation.fits Text.usualDigits = false := by
    decide +kernel
  refine ⟨rfl, rfl, .unsupported rfl hvalue, rfl, ?_⟩
  simp only [unknown, RunError.raised, RunError.shown, Problem.raised, List.all_cons, hlong]
  rfl

end Session

end QueryBook
