import QueryBook.Log.Record
import QueryBook.Proofs.CallAgreement
import QueryBook.Proofs.CatalogExtension
import QueryBook.Proofs.LastRegistration

/-!
# Records of dispatch

A use of a runner sends its query to an adapter or is refused before that.  On adapters with
all five methods the records that runners make are those of the queries that were sent, one
for each call and in the order of the calls.
-/

namespace QueryBook

/-- A query on its way to an adapter, with the operation that it is run as. -/
structure Dispatch where
  query : Query
  operation : Operation
  call : Call

/-- The record made of a dispatch.  The parameters are those that the adapter is handed, and
they are counted unless the query is a script. -/
def Dispatch.record (d : Dispatch) : Log.Record where
  level := 10
  logger := "sqltags.executor"
  template := "executing " ++ d.query.name
  fields := ("query", .text d.query.name) :: ("operation", .text d.operation.label) ::
    if d.operation = .script then [] else [("parameter_count", .int d.call.params.length)]

/-- What a runner sends: nothing without an adapter, for an unknown operation, or for want of
a value. -/
def Runner.dispatch? (r : Runner) (q : Query) (args : Arguments) : Option Dispatch :=
  match r.adapter, Operation.ofValue? q.operation with
  | some adapter, some op =>
    (op.parameters q args r.options.strict).toOption.map fun params =>
      ⟨q, op, ⟨adapter.label, op.table.1, q.body, params⟩⟩
  | _, _ => none

namespace History

/-- What a step sends, said by the steps before it. -/
def dispatch? (past : History) (step : Session.Step) : Option Dispatch :=
  match past.use? step with
  | none => none
  | some use =>
    if use.direct && use.args.clash?.isSome then none
    else (past.runnerOf use.runner).dispatch? use.query use.args

/-- What each step of a row sends. -/
def dispatches : History → List Session.Step → List (Option Dispatch)
  | _, [] => []
  | past, step :: rest => past.dispatch? step :: dispatches (step :: past) rest

/-- Every adapter that a runner has has all methods. -/
def Complete (past : History) : Prop :=
  ∀ id adapter, past.adapterOf id = some adapter → ∀ method, adapter.offers method = true

end History

namespace Session

/-- The records that runners make in a step. -/
def Entry.records (entry : Entry) : List Log.Record :=
  (entry.notices.map Log.Record.ofNotice).filter fun r => r.logger = "sqltags.executor"

/-- The calls and the records of a step are those of a dispatch, or there are none. -/
structure Entry.Mirrors (entry : Entry) (sent : Option Dispatch) : Prop where
  calls : entry.calls = sent.toList.map Dispatch.call
  records : entry.records = sent.toList.map Dispatch.record

end Session

/-! ## Compiling makes no such record -/

theorem CompileOptions.logger_of_mem_nameNotices {options : CompileOptions} {name : String}
    {notice : Notice} (hnotice : notice ∈ options.nameNotices name) :
    notice.logger = "sqltags.compiler" := by
  unfold nameNotices at hnotice
  split at hnotice
  · obtain rfl := List.mem_singleton.mp hnotice
    rfl
  · cases hnotice

namespace Catalog

theorem logger_of_mem_entryNotices {c : Catalog} {name : String} {notice : Notice}
    (hnotice : notice ∈ c.entryNotices name) :
    notice.logger = "sqltags.compiler" := by
  rw [entryNotices, List.mem_append, List.mem_ite_nil_right, List.mem_ite_nil_right,
    List.mem_singleton, List.mem_singleton] at hnotice
  rcases hnotice with ⟨-, rfl⟩ | ⟨-, rfl⟩ <;> rfl

theorem logger_of_mem_notices_extend {options : CompileOptions} {c : Catalog}
    {texts : List (List Char)} {notice : Notice}
    (hnotice : notice ∈ (extend options c texts).notices) :
    notice.logger = "sqltags.compiler" := by
  induction texts generalizing c with
  | nil =>
      obtain rfl := List.mem_singleton.mp hnotice
      rfl
  | cons text rest ih =>
      cases hcompiled : Query.ofDefinition text with
      | error e =>
          rw [extend_cons_of_error hcompiled] at hnotice
          cases hnotice
      | ok q =>
          rw [extend_cons_of_ok hcompiled] at hnotice
          split at hnotice
          · exact CompileOptions.logger_of_mem_nameNotices hnotice
          · rw [List.mem_append, List.mem_append] at hnotice
            rcases hnotice with (hnotice | hnotice) | hnotice
            · exact CompileOptions.logger_of_mem_nameNotices hnotice
            · exact logger_of_mem_entryNotices hnotice
            · exact ih hnotice

end Catalog

namespace Session

theorem Entry.records_eq_nil {entry : Entry}
    (hother : ∀ notice ∈ entry.notices, notice.logger = "sqltags.compiler") :
    entry.records = [] := by
  rw [records, List.filter_eq_nil_iff]
  intro r hr
  obtain ⟨notice, hnotice, rfl⟩ := List.mem_map.mp hr
  simp [Log.Record.ofNotice, hother notice hnotice]

end Session

/-! ## Runs -/

namespace Runner

variable {r : Runner} {q : Query} {args : Arguments}

theorem message_running (name : String) (op : Operation) (counted : Option Nat) :
    (Notice.running name op counted).message = "executing " ++ name := by
  have htext : (Notice.running name op counted).text = "executing ".toList ++ name.toList := rfl
  apply String.toList_injective
  rw [Notice.message, htext, String.toList_ofList, String.toList_append]

theorem ofNotice_running (adapter : Adapter) (op : Operation) (q : Query)
    (params : List Value) :
    Log.Record.ofNotice
        (.running q.name op (if op = .script then none else some params.length)) =
      Dispatch.record ⟨q, op, ⟨adapter.label, op.table.1, q.body, params⟩⟩ := by
  unfold Log.Record.ofNotice Dispatch.record
  rw [message_running]
  by_cases hscript : op = .script
  · subst op
    rfl
  · simp only [Notice.fields, if_neg hscript]
    rfl

theorem send_mirrors (adapter : Adapter) (op : Operation) (q : Query) (params : List Value) :
    (Session.Entry.ofRun
        (send adapter op q params (if op = .script then none else some params.length))).Mirrors
      (some ⟨q, op, ⟨adapter.label, op.table.1, q.body, params⟩⟩) := by
  constructor
  · rw [Operation.table_method]
    rfl
  · have hlogger (notice : Notice) : (Log.Record.ofNotice notice).logger = notice.logger := rfl
    rw [Option.toList_some, List.map_singleton, ← ofNotice_running]
    simp [Session.Entry.records, Session.Entry.ofRun, send, hlogger, Notice.logger]

/-- A run on a complete adapter calls it for what is sent, and says so. -/
theorem execute_mirrors
    (hcomplete : ∀ adapter, r.adapter = some adapter → ∀ method, adapter.offers method = true) :
    (Session.Entry.ofRun (r.execute q args)).Mirrors (r.dispatch? q args) := by
  cases hadapter : r.adapter with
  | none =>
      simp only [execute, dispatch?, hadapter]
      exact ⟨rfl, rfl⟩
  | some adapter =>
      cases hop : Operation.ofValue? q.operation with
      | none =>
          simp only [execute, dispatch?, hadapter, hop]
          exact ⟨rfl, rfl⟩
      | some op =>
          rw [execute_of_offers hadapter hop (hcomplete adapter hadapter op.method)]
          cases hparams : op.parameters q args r.options.strict with
          | error missing =>
              simp only [dispatch?, hadapter, hop, hparams]
              exact ⟨rfl, rfl⟩
          | ok params =>
              simp only [dispatch?, hadapter, hop, hparams]
              exact send_mirrors adapter op q params

end Runner

/-! ## Steps and runs of sessions -/

namespace Session

variable {s : Session} {past : History}

theorem on_mirrors {use : History.Use}
    (hcomplete : past.Complete) :
    (Entry.ofRun (use.on (past.runnerOf use.runner))).Mirrors
      (if use.direct && use.args.clash?.isSome then none
        else (past.runnerOf use.runner).dispatch? use.query use.args) := by
  have hexecuted :
      (Entry.ofRun ((past.runnerOf use.runner).execute use.query use.args)).Mirrors
        ((past.runnerOf use.runner).dispatch? use.query use.args) :=
    Runner.execute_mirrors fun adapter hadapter => hcomplete use.runner adapter hadapter
  unfold History.Use.on
  cases hdirect : use.direct with
  | false => simpa using hexecuted
  | true =>
      cases hclash : use.args.clash? with
      | none => simpa [Runner.call_eq, hclash] using hexecuted
      | some keyword =>
          simp only [Runner.call_eq, hclash]
          exact ⟨rfl, rfl⟩

theorem records_of_no_use (hremembers : s.Remembers past) {step : Step}
    (hidle : past.use? step = none) :
    (s.step step).2.records = [] := by
  cases step with
  | execute label target args =>
      have hlocated := Option.map_eq_none_iff.mp hidle
      obtain ⟨e, hunknown⟩ :=
        exists_error_of_toOption ((hremembers.locate label target).trans hlocated)
      simp only [Session.step, hunknown]
      rfl
  | call label target args =>
      have hlocated := Option.map_eq_none_iff.mp hidle
      obtain ⟨e, hunknown⟩ :=
        exists_error_of_toOption ((hremembers.locateCall label target).trans hlocated)
      simp only [Session.step, hunknown]
      rfl
  | callBound name args =>
      have hunknown := Option.bind_eq_none_iff.mp (Option.map_eq_none_iff.mp hidle)
      cases hnamed : past.functionNamed name with
      | none =>
          simp only [Session.step, (hremembers.names name).trans hnamed]
          rfl
      | some number =>
          simp only [Session.step, (hremembers.names name).trans hnamed]
          rw [useFunction_of_unknown hremembers (hunknown number hnamed)]
          rfl
  | callFunction number args =>
      have hunknown := Option.map_eq_none_iff.mp hidle
      simp only [Session.step, useFunction_of_unknown hremembers hunknown]
      rfl
  | compile policy warn text =>
      apply Entry.records_eq_nil
      simp only [Session.step, compileStep]
      split
      · simp [Entry.failed]
      · split <;> exact fun notice => Catalog.logger_of_mem_notices_extend
  | adapter adapter => rfl
  | runner label adapter options =>
      simp only [Session.step, runnerStep]
      split <;> rfl
  | register label adapter =>
      simp only [Session.step, registerStep]
      split <;> rfl
  | adapterOf label =>
      simp only [Session.step]
      split <;> rfl
  | bind label target =>
      simp only [Session.step]
      split <;> rfl
  | bindAll label =>
      simp only [Session.step]
      split <;> rfl

theorem Remembers.mirrors (hremembers : s.Remembers past) (hcomplete : past.Complete)
    (step : Step) :
    (s.step step).2.Mirrors (past.dispatch? step) := by
  cases huse : past.use? step with
  | none =>
      simp only [History.dispatch?, huse]
      exact ⟨calls_of_no_use hremembers huse, records_of_no_use hremembers huse⟩
  | some use =>
      rw [step_of_use hremembers huse]
      simp only [History.dispatch?, huse]
      exact on_mirrors hcomplete

/-- What every step of a run shows, if all adapters that the runners have meanwhile are
complete. -/
theorem Remembers.forall₂_mirrors (hremembers : s.Remembers past) (steps : List Step)
    (hcomplete : ∀ earlier : History, earlier <:+ steps.reverse ++ past → earlier.Complete) :
    List.Forall₂ Entry.Mirrors (s.run steps) (past.dispatches steps) := by
  induction steps generalizing s past with
  | nil => exact .nil
  | cons step steps ih =>
      rw [run_cons, History.dispatches]
      have hnow : past.Complete := hcomplete past (List.suffix_append _ _)
      refine .cons (hremembers.mirrors hnow step) (ih (hremembers.step step) ?_)
      intro earlier hearlier
      apply hcomplete
      simpa using hearlier

theorem exists_mirrors_of_mem {entries : List Entry} {sent : List (Option Dispatch)}
    (hmirrors : List.Forall₂ Entry.Mirrors entries sent) {entry : Entry}
    (hentry : entry ∈ entries) :
    ∃ dispatch, entry.Mirrors dispatch := by
  induction hmirrors with
  | nil => cases hentry
  | @cons first dispatch entries sent hfirst _ ih =>
      rcases List.mem_cons.mp hentry with rfl | hentry
      · exact ⟨dispatch, hfirst⟩
      · exact ih hentry

theorem flatMap_eq_of_forall₂ {α : Type} {shown : Entry → List α} {told : Dispatch → α}
    (hshown : ∀ entry sent, Entry.Mirrors entry sent → shown entry = sent.toList.map told)
    {entries : List Entry} {sent : List (Option Dispatch)}
    (hmirrors : List.Forall₂ Entry.Mirrors entries sent) :
    entries.flatMap shown = sent.reduceOption.map told := by
  induction hmirrors with
  | nil => rfl
  | @cons entry dispatch entries sent hentry _ ih =>
      rw [List.flatMap_cons, ih, hshown entry dispatch hentry]
      cases dispatch <;> rfl

end Session

/-- A history is complete if all the adapters made in it have all methods. -/
theorem History.complete_of_made {past : History}
    (hmade : ∀ adapter, .adapter adapter ∈ past → ∀ method, adapter.offers method = true) :
    past.Complete := by
  intro id adapter hadapter
  have hset : past.latest (sets? id) = some (some adapter) := by
    rw [adapterOf, Option.getD_eq_iff] at hadapter
    rcases hadapter with hset | ⟨-, hnone⟩
    · exact hset
    · cases hnone
  obtain ⟨newer, setter, older, rfl, hset, -⟩ := exists_of_latest_eq_some hset
  have hhanded : ∃ label, History.handed older label = some (some adapter) := by
    unfold sets? at hset
    split at hset
    · split at hset
      · exact ⟨_, hset⟩
      · cases hset
    · split at hset
      · exact ⟨_, hset⟩
      · cases hset
    · cases hset
  obtain ⟨label, hhanded⟩ := hhanded
  obtain ⟨label, rfl⟩ : ∃ name, label = some name := by
    cases label with
    | none => cases hhanded
    | some name => exact ⟨name, rfl⟩
  have hnamed : History.adapterNamed older label = some adapter := by
    simpa [handed] using hhanded
  obtain ⟨newer', step, older', rfl, hstep, -⟩ := exists_of_latest_eq_some hnamed
  apply hmade
  unfold adapterMade? at hstep
  split at hstep
  · split at hstep
    · obtain rfl := Option.some.inj hstep
      simp
    · cases hstep
  · cases hstep

namespace Session

/-- As long as every runner with an adapter has one with all methods, each step of a run shows
the call and the record of what it sends, or neither.  So the records that runners make are
those of the calls, in the same order, and a use that calls nothing makes no record. -/
theorem run_mirrorsDispatches {steps : List Step}
    (hcomplete : ∀ past : History, past <:+ steps.reverse → past.Complete) :
    List.Forall₂ Entry.Mirrors (run {} steps) (History.dispatches [] steps) ∧
      (run {} steps).flatMap Entry.calls =
        (History.dispatches [] steps).reduceOption.map Dispatch.call ∧
      (run {} steps).flatMap Entry.records =
        (History.dispatches [] steps).reduceOption.map Dispatch.record ∧
      ∀ entry ∈ run {} steps, entry.calls = [] → entry.records = [] := by
  have hmirrors := remembers_nil.forall₂_mirrors steps (by simpa using hcomplete)
  refine ⟨hmirrors, flatMap_eq_of_forall₂ (fun _ _ h => h.calls) hmirrors,
    flatMap_eq_of_forall₂ (fun _ _ h => h.records) hmirrors, ?_⟩
  intro entry hentry hcalls
  obtain ⟨sent, hsent⟩ := exists_mirrors_of_mem hmirrors hentry
  cases sent with
  | none => exact hsent.records
  | some dispatch => simp [hsent.calls] at hcalls

/-- A failing insertion, a script whose operation is a plain text, a missing value, a keyword
that is refused, a runner without an adapter, and a bound function. -/
theorem run_mirrorsDispatches_mixed :
    let insertion : Query :=
      ⟨"add", .operation .insertReturning, "insert ?", "", [.positional]⟩
    let script : Query := ⟨"setup", .text "script", "create", "", []⟩
    let adapter : Adapter := .scripted "A" [] [(.insertReturning, "down")] []
    let steps : List Step :=
      [.adapter adapter, .runner "main" (some "A") {},
        .execute "main" (.given insertion) { positional := [.int 1] },
        .execute "main" (.given script) {},
        .execute "main" (.given insertion) {},
        .call "main" (.given script) { keyword := [("query", .null)] },
        .execute "default" (.given script) {},
        .bind "main" (.given insertion),
        .callBound "add" { positional := [.null, .null] }]
    (∀ past : History, past <:+ steps.reverse → past.Complete) ∧
      (run {} steps).flatMap Entry.calls =
        [⟨"A", .insertReturning, "insert ?", [.int 1]⟩, ⟨"A", .executeScript, "create", []⟩,
          ⟨"A", .insertReturning, "insert ?", [.null]⟩] ∧
      ((run {} steps).flatMap Entry.records).map Log.Record.fields =
        [[("query", .text "add"), ("operation", .text "insert_returning"),
            ("parameter_count", .int 1)],
          [("query", .text "setup"), ("operation", .text "script")],
          [("query", .text "add"), ("operation", .text "insert_returning"),
            ("parameter_count", .int 1)]] := by
  intro insertion script adapter steps
  have hcomplete : ∀ past : History, past <:+ steps.reverse → past.Complete := by
    intro past hpast
    apply History.complete_of_made
    intro other hother method
    have hmade : .adapter other ∈ steps := List.mem_reverse.mp (hpast.subset hother)
    obtain rfl : other = adapter := by simpa [steps] using hmade
    cases method <;> rfl
  obtain ⟨-, hcalls, hrecords, -⟩ := run_mirrorsDispatches hcomplete
  refine ⟨hcomplete, hcalls.trans rfl, ?_⟩
  rw [hrecords]
  rfl

end Session

end QueryBook
