import QueryBook.Proofs.RunRefusal
import QueryBook.Proofs.SessionMemory

/-!
# The last registration wins

Each step of a run addresses the runner that the history of the steps before it names, with
the adapter that was set on this runner last and the options that it was made with.  A bound
function runs the query that it was bound with on the runner as it is when the function is
called, no matter what has been bound, compiled or registered since: its number is never given
to another function.
-/

namespace QueryBook

namespace Session

def after (s : Session) (steps : List Step) : Session :=
  steps.foldl (fun s step => (s.step step).1) s

theorem run_cons (s : Session) (step : Step) (rest : List Step) :
    s.run (step :: rest) = (s.step step).2 :: (s.step step).1.run rest :=
  rfl

theorem run_append (s : Session) (steps rest : List Step) :
    s.run (steps ++ rest) = s.run steps ++ (s.after steps).run rest := by
  induction steps generalizing s with
  | nil => rfl
  | cons step steps ih =>
      rw [List.cons_append, run_cons, run_cons, ih]
      rfl

theorem length_run (s : Session) (steps : List Step) :
    (s.run steps).length = steps.length := by
  induction steps generalizing s with
  | nil => rfl
  | cons step steps ih => rw [run_cons, List.length_cons, ih, List.length_cons]

theorem Remembers.after {s : Session} {past : History} (hremembers : s.Remembers past)
    (steps : List Step) :
    (s.after steps).Remembers (steps.reverse ++ past) := by
  induction steps generalizing s past with
  | nil => exact hremembers
  | cons step steps ih =>
      rw [List.reverse_cons, List.append_assoc]
      exact ih (hremembers.step step)

/-- What a step shows, said by its history: at most one call, none without a use of a runner,
and otherwise what the use shows on a runner with the adapter of the history and with the
options that the runner was made with.  An adapter was set on this very runner, and no later
step has set another one.  A function called by its number is the one that a step has bound
under this number, with its query and its runner, whatever steps came in between. -/
structure FollowsHistory (past : History) (step : Step) (entry : Entry) : Prop where
  calls_length : entry.calls.length ≤ 1
  idle : past.use? step = none → entry.calls = []
  used : ∀ use, past.use? step = some use →
    entry = .ofRun (use.on (past.runnerOf use.runner))
  sent : ∀ use, past.use? step = some use → ∀ call ∈ entry.calls,
    (past.runnerOf use.runner).Sends use.query use.args call
  own : ∀ use adapter, past.use? step = some use →
    past.adapterOf use.runner = some adapter →
      ∃ newer setter older, past = newer ++ setter :: older ∧
        History.sets? use.runner older setter = some (some adapter) ∧
        ∀ later other earlier, newer = later ++ other :: earlier →
          History.sets? use.runner (earlier ++ setter :: older) other = none
  bound : ∀ (newer : History) (binder : Step) (older : History) (i : Nat) (function : Bound)
    (args : Arguments), past = newer ++ binder :: older →
      (older.binds binder)[i]? = some function →
      step = .callFunction (older.functions.length + i) args →
      entry = .ofRun ((past.runnerOf function.runner).call function.query args)

theorem calls_on (use : History.Use) (r : Runner) :
    (use.on r).calls = [] ∨ use.on r = r.execute use.query use.args := by
  unfold History.Use.on
  split
  · exact r.calls_call use.query use.args
  · exact .inr rfl

theorem useRunner_eq {s : Session} {past : History} (hremembers : s.Remembers past)
    {id : Nat} (hid : id < past.size) (use : Runner → Run) :
    s.useRunner id use = .ofRun (use (past.runnerOf id)) := by
  rw [useRunner, hremembers.runners id hid]

theorem useFunction_eq {s : Session} {past : History} (hremembers : s.Remembers past)
    {number : Nat} {bound : Bound} (hbound : past.functions[number]? = some bound)
    (args : Arguments) :
    s.useFunction number args = .ofRun ((past.runnerOf bound.runner).call bound.query args) := by
  rw [useFunction, hremembers.functions, hbound]
  exact useRunner_eq hremembers (History.mem_functions_lt (List.mem_of_getElem? hbound)) _

theorem useFunction_of_unknown {s : Session} {past : History} (hremembers : s.Remembers past)
    {number : Nat} (hunknown : past.functions[number]? = none) (args : Arguments) :
    s.useFunction number args = .failed (.unknownKey (String.ofList (Text.decimal number))) := by
  rw [useFunction, hremembers.functions, hunknown]

theorem step_of_use {s : Session} {past : History} (hremembers : s.Remembers past)
    {step : Step} {use : History.Use} (huse : past.use? step = some use) :
    (s.step step).2 = .ofRun (use.on (past.runnerOf use.runner)) := by
  cases step with
  | execute label target args =>
      obtain ⟨found, hlocated, rfl⟩ := Option.map_eq_some_iff.mp huse
      have hfound := eq_ok_of_toOption ((hremembers.locate label target).trans hlocated)
      simp only [Session.step, hfound]
      exact useRunner_eq hremembers (History.located_lt hlocated) _
  | call label target args =>
      obtain ⟨found, hlocated, rfl⟩ := Option.map_eq_some_iff.mp huse
      have hfound := eq_ok_of_toOption ((hremembers.locateCall label target).trans hlocated)
      simp only [Session.step, hfound]
      exact useRunner_eq hremembers (History.located_lt hlocated) _
  | callBound name args =>
      obtain ⟨bound, hbound, rfl⟩ := Option.map_eq_some_iff.mp huse
      obtain ⟨number, hnamed, hbound⟩ := Option.bind_eq_some_iff.mp hbound
      have hfound := (hremembers.names name).trans hnamed
      simp only [Session.step, hfound]
      exact useFunction_eq hremembers hbound args
  | callFunction number args =>
      obtain ⟨bound, hbound, rfl⟩ := Option.map_eq_some_iff.mp huse
      exact useFunction_eq hremembers hbound args
  | _ => cases huse

theorem calls_of_no_use {s : Session} {past : History} (hremembers : s.Remembers past)
    {step : Step} (hidle : past.use? step = none) :
    (s.step step).2.calls = [] := by
  cases step with
  | execute label target args =>
      have hlocated := Option.map_eq_none_iff.mp hidle
      obtain ⟨e, hunknown⟩ :=
        exists_error_of_toOption ((hremembers.locate label target).trans hlocated)
      simp only [Session.step, hunknown, Entry.failed]
  | call label target args =>
      have hlocated := Option.map_eq_none_iff.mp hidle
      obtain ⟨e, hunknown⟩ :=
        exists_error_of_toOption ((hremembers.locateCall label target).trans hlocated)
      simp only [Session.step, hunknown, Entry.failed]
  | callBound name args =>
      have hunknown := Option.bind_eq_none_iff.mp (Option.map_eq_none_iff.mp hidle)
      cases hnamed : past.functionNamed name with
      | none => simp only [Session.step, (hremembers.names name).trans hnamed, Entry.failed]
      | some number =>
          simp only [Session.step, (hremembers.names name).trans hnamed]
          rw [useFunction_of_unknown hremembers (hunknown number hnamed)]
          rfl
  | callFunction number args =>
      have hunknown := Option.map_eq_none_iff.mp hidle
      simp only [Session.step, useFunction_of_unknown hremembers hunknown, Entry.failed]
  | compile policy warn text =>
      simp only [Session.step, compileStep]
      split
      · rfl
      · split <;> rfl
  | adapter adapter => rfl
  | runner label adapter options =>
      simp only [Session.step, runnerStep]
      split <;> rfl
  | register label adapter =>
      simp only [Session.step, registerStep]
      split <;> rfl
  | adapterOf label =>
      simp only [Session.step]
      split <;> rfl
  | bind label target =>
      simp only [Session.step]
      split <;> rfl
  | bindAll label =>
      simp only [Session.step]
      split <;> rfl

theorem Remembers.followsHistory {s : Session} {past : History}
    (hremembers : s.Remembers past) (step : Step) :
    FollowsHistory past step (s.step step).2 := by
  have hsent (use : History.Use) (huse : past.use? step = some use) :
      ∀ call ∈ (s.step step).2.calls,
        (past.runnerOf use.runner).Sends use.query use.args call := by
    intro call hcall
    rw [step_of_use hremembers huse] at hcall
    rcases calls_on use (past.runnerOf use.runner) with hnone | hsame
    · simp only [Entry.ofRun, hnone] at hcall
      cases hcall
    · rw [hsame] at hcall
      exact Runner.sends_of_mem_calls hcall
  constructor
  · cases huse : past.use? step with
    | none => simp [calls_of_no_use hremembers huse]
    | some use =>
        rw [step_of_use hremembers huse]
        rcases calls_on use (past.runnerOf use.runner) with hnone | hsame
        · simp [Entry.ofRun, hnone]
        · rw [hsame]
          exact Runner.length_execute_calls _ _ _
  · exact fun hidle => calls_of_no_use hremembers hidle
  · exact fun use huse => step_of_use hremembers huse
  · exact hsent
  · intro use adapter _ hadapter
    rw [History.adapterOf, Option.getD_eq_iff] at hadapter
    rcases hadapter with hlatest | ⟨-, hnone⟩
    · exact History.exists_of_latest_eq_some hlatest
    · cases hnone
  · rintro newer binder older i function args rfl hbound rfl
    exact useFunction_eq hremembers (History.getElem?_functions_append hbound) args

/-- Each step of a run follows the history of the steps before it, whatever comes later. -/
theorem run_followsHistory (before : List Step) (step : Step) (rest : List Step) :
    ∃ entry, (run {} (before ++ step :: rest))[before.length]? = some entry ∧
      FollowsHistory before.reverse step entry := by
  have hremembers := remembers_nil.after before
  rw [List.append_nil] at hremembers
  refine ⟨((after {} before).step step).2, ?_, hremembers.followsHistory step⟩
  rw [run_append, run_cons, List.getElem?_append_right (Nat.le_of_eq (length_run _ _)),
    length_run, Nat.sub_self]
  rfl

/-- A bound function takes the adapter that is registered when it is called, and goes on running
its own query after its name has gone to another one and has been taken away. -/
example :
    let pick : Query :=
      { name := "pick", operation := .operation .select, body := "s", docs := "", params := [] }
    let steps : List Step :=
      [.adapter (.echo "A"), .adapter (.echo "B"), .register "default" (some "A"),
        .bind "default" (.given pick), .bind "default" (.given { pick with body := "t" }),
        .register "default" (some "B"), .runner "other" (some "A") {}, .callBound "pick" {},
        .bindAll "default", .callBound "pick" {}, .callFunction 0 {}]
    ((run {} steps).drop 7).map (fun entry => entry.calls.map fun c => (c.adapter, c.body)) =
      [[("B", "t")], [], [], [("B", "s")]] :=
  rfl

end Session

end QueryBook
