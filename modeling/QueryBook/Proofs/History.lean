import QueryBook.Session

/-!
# Histories

A history is the row of steps that a session has taken, the newest first.  It settles what
every name stands for: the newest step that bears on the name decides.  The adapter of a
runner is the one that was handed over last, when the runner was made or at a registration,
while its options were given once and for all.  The functions bound so far stand in a row that
only grows, so that a number once given stays with its function.  No state of a session is read
here.
-/

namespace QueryBook

abbrev History :=
  List Session.Step

namespace History

/-- The newest answer to a question that is put to every step and the steps before it. -/
def latest {α : Type} (ask : History → Session.Step → Option α) : History → Option α
  | [] => none
  | step :: past => (ask past step).or (latest ask past)

def adapterMade? (label : String) (_ : History) : Session.Step → Option Adapter
  | .adapter adapter => if adapter.label = label then some adapter else none
  | _ => none

def adapterNamed (past : History) (label : String) : Option Adapter :=
  past.latest (adapterMade? label)

/-- What is handed over under the label of an adapter or under none; nothing if the label is
unknown. -/
def handed (past : History) : Option String → Option (Option Adapter)
  | none => some none
  | some label => (past.adapterNamed label).map some

/-! ## Runners -/

/-- The runner that a step makes, with its label. -/
def made? (past : History) : Session.Step → Option (String × Runner)
  | .runner label adapter options =>
    (past.handed adapter).map fun adapter => (label, ⟨adapter, options⟩)
  | _ => none

/-- The number of runners, the default one included. -/
def size : History → Nat
  | [] => 1
  | step :: past =>
    match made? past step with
    | some _ => size past + 1
    | none => size past

def labels? (label : String) (past : History) (step : Session.Step) : Option Nat :=
  match made? past step with
  | some made => if made.1 = label then some past.size else none
  | none => none

def labelled (past : History) (label : String) : Option Nat :=
  past.latest (labels? label)

/-- The number of the runner that a label stands for. -/
def runnerNamed (past : History) (label : String) : Option Nat :=
  if label = Session.defaultLabel then some 0 else past.labelled label

/-- What a step sets as the adapter of a runner, by making the runner or by a registration. -/
def sets? (id : Nat) (past : History) : Session.Step → Option (Option Adapter)
  | .runner _ adapter _ => if past.size = id then past.handed adapter else none
  | .register label adapter =>
    if past.runnerNamed label = some id then past.handed adapter else none
  | _ => none

def adapterOf (past : History) (id : Nat) : Option Adapter :=
  (past.latest (sets? id)).getD none

/-- The options that a step makes a runner with. -/
def gives? (id : Nat) (past : History) (step : Session.Step) : Option RunOptions :=
  match made? past step with
  | some made => if past.size = id then some made.2.options else none
  | none => none

def optionsOf (past : History) (id : Nat) : RunOptions :=
  (past.latest (gives? id)).getD {}

def runnerOf (past : History) (id : Nat) : Runner :=
  ⟨past.adapterOf id, past.optionsOf id⟩

/-! ## Queries and bound functions -/

def compiles? (_ : History) : Session.Step → Option Catalog
  | .compile policy warn text =>
    match CompileOptions.ofValues policy warn with
    | .ok options => (Catalog.compile options text).outcome.toOption
    | .error _ => none
  | _ => none

def catalog (past : History) : Catalog :=
  (past.latest compiles?).getD .empty

def queryFor (past : History) : Target → Option Query
  | .given q => some q
  | .named name => past.catalog.find? name

def located (past : History) (label : String) (target : Target) :
    Option (Nat × Query) :=
  match past.queryFor target, past.runnerNamed label with
  | some q, some id => some (id, q)
  | _, _ => none

/-- The functions that a step binds, in the order of their numbers. -/
def binds (past : History) : Session.Step → List Bound
  | .bind label target =>
    match past.located label target with
    | some (id, q) => [⟨id, q⟩]
    | none => []
  | .bindAll label =>
    match past.runnerNamed label with
    | some id => past.catalog.queries.map fun q => ⟨id, q⟩
    | none => []
  | _ => []

def functions : History → List Bound
  | [] => []
  | step :: past => functions past ++ binds past step

/-- What a step makes of a function's name, taking the name away being one possibility. -/
def names? (name : String) (past : History) : Session.Step → Option (Option Nat)
  | .bind label target =>
    match past.located label target with
    | some (_, q) => if q.name = name then some (some past.functions.length) else none
    | none => none
  | .bindAll label =>
    match past.runnerNamed label with
    | some _ =>
      some ((past.catalog.queries.findIdx? fun q => q.name = name).map fun i =>
        past.functions.length + i)
    | none => some none
  | _ => none

/-- The number of the function that a name stands for. -/
def functionNamed (past : History) (name : String) : Option Nat :=
  (past.latest (names? name)).getD none

/-! ## Uses of runners -/

/-- What a step asks of a runner.  A direct use passes its keywords through a call. -/
structure Use where
  runner : Nat
  query : Query
  args : Arguments
  direct : Bool

def Use.on (use : Use) (r : Runner) : Run :=
  if use.direct then r.call use.query use.args else r.execute use.query use.args

def use? (past : History) : Session.Step → Option Use
  | .execute label target args =>
    (past.located label target).map fun found => ⟨found.1, found.2, args, false⟩
  | .call label target args =>
    (past.located label target).map fun found => ⟨found.1, found.2, args, true⟩
  | .callBound name args =>
    ((past.functionNamed name).bind fun number => past.functions[number]?).map fun bound =>
      ⟨bound.runner, bound.query, args, true⟩
  | .callFunction number args =>
    past.functions[number]?.map fun bound => ⟨bound.runner, bound.query, args, true⟩
  | _ => none

/-! ## What the newest answer says -/

theorem latest_cons_of_some {α : Type} {ask : History → Session.Step → Option α}
    {past : History} {step : Session.Step} {a : α} (hask : ask past step = some a) :
    latest ask (step :: past) = some a := by
  rw [latest, hask, Option.some_or]

theorem latest_cons_of_none {α : Type} {ask : History → Session.Step → Option α}
    {past : History} {step : Session.Step} (hask : ask past step = none) :
    latest ask (step :: past) = latest ask past := by
  rw [latest, hask, Option.none_or]

theorem exists_of_latest_eq_some {α : Type} {ask : History → Session.Step → Option α}
    {past : History} {a : α} (hlatest : latest ask past = some a) :
    ∃ newer step older, past = newer ++ step :: older ∧ ask older step = some a ∧
      ∀ later other earlier, newer = later ++ other :: earlier →
        ask (earlier ++ step :: older) other = none := by
  induction past with
  | nil => cases hlatest
  | cons step past ih =>
      cases hask : ask past step with
      | some answer =>
          rw [latest_cons_of_some hask, ← hask] at hlatest
          exact ⟨[], step, past, rfl, hlatest, by simp⟩
      | none =>
          rw [latest_cons_of_none hask] at hlatest
          obtain ⟨newer, setter, older, rfl, hanswer, hnewer⟩ := ih hlatest
          refine ⟨step :: newer, setter, older, rfl, hanswer, ?_⟩
          intro later other earlier hsplit
          cases later with
          | nil =>
              obtain ⟨rfl, rfl⟩ := List.cons.inj hsplit
              exact hask
          | cons first later =>
              obtain ⟨rfl, rfl⟩ := List.cons.inj hsplit
              exact hnewer later other earlier rfl

/-! ## Steps that answer nothing -/

section

variable {past : History} {step : Session.Step}

theorem adapterNamed_cons {label : String} (hmade : adapterMade? label past step = none) :
    adapterNamed (step :: past) label = past.adapterNamed label := by
  rw [adapterNamed, adapterNamed, latest_cons_of_none hmade]

theorem catalog_cons (hcompiles : compiles? past step = none) :
    catalog (step :: past) = past.catalog := by
  rw [catalog, catalog, latest_cons_of_none hcompiles]

theorem size_cons (hmade : made? past step = none) : size (step :: past) = past.size := by
  rw [size, hmade]

theorem labelled_cons (hmade : made? past step = none) (label : String) :
    labelled (step :: past) label = past.labelled label := by
  have hlabels : labels? label past step = none := by
    rw [labels?, hmade]
  rw [labelled, labelled, latest_cons_of_none hlabels]

theorem adapterOf_cons {id : Nat} (hsets : sets? id past step = none) :
    adapterOf (step :: past) id = past.adapterOf id := by
  rw [adapterOf, adapterOf, latest_cons_of_none hsets]

theorem optionsOf_cons (hmade : made? past step = none) (id : Nat) :
    optionsOf (step :: past) id = past.optionsOf id := by
  have hgives : gives? id past step = none := by
    rw [gives?, hmade]
  rw [optionsOf, optionsOf, latest_cons_of_none hgives]

theorem runnerOf_cons {id : Nat} (hmade : made? past step = none)
    (hsets : sets? id past step = none) :
    runnerOf (step :: past) id = past.runnerOf id := by
  rw [runnerOf, runnerOf, adapterOf_cons hsets, optionsOf_cons hmade]

theorem functions_cons (hbinds : binds past step = []) :
    functions (step :: past) = past.functions := by
  rw [functions, hbinds, List.append_nil]

theorem functionNamed_cons {name : String} (hnames : names? name past step = none) :
    functionNamed (step :: past) name = past.functionNamed name := by
  rw [functionNamed, functionNamed, latest_cons_of_none hnames]

end

/-! ## Numbers of runners -/

/-- Runners are numbered from zero, and none of them is ever lost. -/
theorem size_le_cons (past : History) (step : Session.Step) :
    past.size ≤ size (step :: past) := by
  rw [size]
  split <;> omega

theorem size_le_append (newer older : History) : older.size ≤ size (newer ++ older) := by
  induction newer with
  | nil => exact Nat.le_refl _
  | cons step newer ih => exact Nat.le_trans ih (size_le_cons _ step)

theorem size_pos (past : History) : 0 < past.size := by
  have hstart := size_le_append past []
  rw [List.append_nil] at hstart
  exact hstart

theorem runnerNamed_lt {past : History} {label : String} {id : Nat}
    (hnamed : past.runnerNamed label = some id) :
    id < past.size := by
  unfold runnerNamed at hnamed
  split at hnamed
  · obtain rfl : 0 = id := Option.some.inj hnamed
    exact past.size_pos
  · obtain ⟨newer, step, older, rfl, hlabels, -⟩ := exists_of_latest_eq_some hnamed
    have hsize := size_le_append newer (step :: older)
    unfold labels? at hlabels
    split at hlabels
    next made hmade =>
      have hmore : size (step :: older) = size older + 1 := by
        rw [size, hmade]
      split at hlabels
      · obtain rfl : size older = id := Option.some.inj hlabels
        omega
      · contradiction
    · contradiction

theorem located_lt {past : History} {label : String} {target : Target}
    {id : Nat} {q : Query} (hlocated : past.located label target = some (id, q)) :
    id < past.size := by
  unfold located at hlocated
  split at hlocated
  next hnamed =>
    obtain ⟨rfl, rfl⟩ := Prod.mk.inj (Option.some.inj hlocated)
    exact runnerNamed_lt hnamed
  · contradiction

theorem mem_binds_lt {past : History} {step : Session.Step} {bound : Bound}
    (hbound : bound ∈ past.binds step) :
    bound.runner < past.size := by
  unfold binds at hbound
  split at hbound
  · split at hbound
    next hlocated =>
      obtain rfl := List.mem_singleton.mp hbound
      exact located_lt hlocated
    · cases hbound
  · split at hbound
    next hnamed =>
      obtain ⟨q, -, rfl⟩ := List.mem_map.mp hbound
      exact runnerNamed_lt hnamed
    · cases hbound
  · cases hbound

theorem mem_functions_lt {past : History} {bound : Bound} (hbound : bound ∈ past.functions) :
    bound.runner < past.size := by
  induction past with
  | nil => cases hbound
  | cons step past ih =>
      have hsize := size_le_cons past step
      rcases List.mem_append.mp hbound with hbound | hbound
      · have := ih hbound
        omega
      · have := mem_binds_lt hbound
        omega

/-! ## Numbers of functions -/

theorem functions_prefix_append (newer older : History) :
    older.functions <+: functions (newer ++ older) := by
  induction newer with
  | nil => exact List.prefix_refl _
  | cons step newer ih => exact ih.trans (List.prefix_append _ _)

/-- The functions that a step binds have the next numbers, and keep them. -/
theorem getElem?_functions_append {newer older : History} {step : Session.Step} {i : Nat}
    {bound : Bound} (hbound : (binds older step)[i]? = some bound) :
    (functions (newer ++ step :: older))[older.functions.length + i]? = some bound := by
  obtain ⟨later, hlater⟩ := functions_prefix_append newer (step :: older)
  obtain ⟨hi, -⟩ := List.getElem?_eq_some_iff.mp hbound
  rw [← hlater, functions, List.append_assoc, List.getElem?_append_right (Nat.le_add_right _ _),
    Nat.add_sub_cancel_left, List.getElem?_append_left hi, hbound]

end History

end QueryBook
