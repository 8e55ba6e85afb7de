import QueryBook.Proofs.History
import Mathlib.Data.List.Nodup

/-!
# What a session remembers

A session holds tables, and a history says without them what every name stands for.  The two
agree at the start, and every step keeps them in agreement.  A step that fails, or that only
uses a runner, changes no table, and its history answers no question.
-/

namespace QueryBook

namespace Session

theorem eq_ok_of_toOption {ε α : Type} {x : Except ε α} {a : α}
    (hfound : x.toOption = some a) :
    x = .ok a := by
  cases x with
  | error e => cases hfound
  | ok b => exact congrArg Except.ok (Option.some.inj hfound)

theorem exists_error_of_toOption {ε α : Type} {x : Except ε α}
    (hunknown : x.toOption = none) :
    ∃ e, x = .error e := by
  cases x with
  | error e => exact ⟨e, rfl⟩
  | ok a => cases hunknown

/-- The tables of a session say what its history says. -/
structure Remembers (s : Session) (past : History) : Prop where
  catalog : s.catalog = past.catalog
  adapters : ∀ label, s.adapters.lookup label = past.adapterNamed label
  size : s.runners.length = past.size
  labels : ∀ label, s.labels.lookup label = past.labelled label
  runners : ∀ id < past.size, s.runner? id = some (past.runnerOf id)
  functions : s.functions = past.functions
  names : ∀ name, s.names.lookup name = past.functionNamed name

theorem remembers_nil : Remembers {} [] := by
  constructor
  · rfl
  · intro label
    rfl
  · rfl
  · intro label
    rfl
  · intro id hid
    have hzero : id = 0 := by
      rw [History.size] at hid
      omega
    subst id
    rfl
  · rfl
  · intro name
    rfl

theorem lookup_bindName {α : Type} (name other : String) (a : α)
    (table : List (String × α)) :
    (bindName name a table).lookup other =
      if name = other then some a else table.lookup other := by
  rw [bindName, List.lookup_cons]
  by_cases hname : name = other
  · simp [hname]
  · have hother : (other == name) = false := by
      rw [beq_eq_false_iff_ne]
      exact fun h => hname h.symm
    rw [hother, if_neg hname]

/-- Names the functions of a row of queries after their queries. -/
def nameQueries (first : Nat) : List Query → List (String × Nat) → List (String × Nat)
  | [], table => table
  | q :: qs, table => nameQueries (first + 1) qs (bindName q.name first table)

theorem foldl_bindQuery (s : Session) (id : Nat) (qs : List Query) :
    qs.foldl (fun s q => s.bindQuery id q) s =
      { s with
        functions := s.functions ++ qs.map fun q => ⟨id, q⟩
        names := nameQueries s.functions.length qs s.names } := by
  induction qs generalizing s with
  | nil => simp [nameQueries]
  | cons q qs ih =>
      rw [List.foldl_cons, ih (s.bindQuery id q)]
      simp [bindQuery, nameQueries]

theorem lookup_nameQueries {qs : List Query} (hnodup : (qs.map Query.name).Nodup) (first : Nat)
    (table : List (String × Nat)) (name : String) :
    (nameQueries first qs table).lookup name =
      ((qs.findIdx? fun q => q.name = name).map fun i => first + i).or
        (table.lookup name) := by
  induction qs generalizing first table with
  | nil => rfl
  | cons q qs ih =>
      rw [List.map_cons, List.nodup_cons] at hnodup
      rw [nameQueries, ih hnodup.2, lookup_bindName, List.findIdx?_cons]
      by_cases hname : q.name = name
      · have hfresh : qs.findIdx? (fun q => q.name = name) = none := by
          rw [List.findIdx?_eq_none_iff]
          intro other hother
          rw [decide_eq_false_iff_not]
          intro heq
          exact hnodup.1 ((heq.trans hname.symm) ▸ List.mem_map_of_mem hother)
        simp [hfresh, hname]
      · simp [hname, Function.comp_def, Nat.add_assoc, Nat.add_comm 1]

namespace Remembers

variable {s : Session} {past : History} (hremembers : s.Remembers past)
include hremembers

theorem runnerId? (label : String) : s.runnerId? label = past.runnerNamed label := by
  unfold Session.runnerId? History.runnerNamed
  rw [hremembers.labels]

theorem adapterFor (adapter : Option String) :
    (s.adapterFor adapter).toOption = past.handed adapter := by
  cases adapter with
  | none => rfl
  | some label =>
      simp only [Session.adapterFor, History.handed, ← hremembers.adapters]
      cases s.adapters.lookup label <;> rfl

theorem queryFor (target : Target) :
    (s.queryFor target).toOption = past.queryFor target := by
  cases target with
  | given q => rfl
  | named name =>
      simp only [Session.queryFor, History.queryFor, ← hremembers.catalog]
      cases s.catalog.find? name <;> rfl

theorem locate (label : String) (target : Target) :
    (s.locate label target).toOption = past.located label target := by
  unfold Session.locate History.located
  rw [← hremembers.runnerId?, ← hremembers.queryFor]
  cases s.queryFor target <;> cases s.runnerId? label <;> rfl

theorem locateCall (label : String) (target : Target) :
    (s.locateCall label target).toOption = past.located label target := by
  rw [← hremembers.locate]
  unfold Session.locateCall
  cases hlabel : s.runnerId? label with
  | some id => rfl
  | none =>
      unfold Session.locate
      rw [hlabel]
      cases s.queryFor target <;> rfl

/-! ## Tables that a step leaves -/

section

variable {step : Step}

theorem catalog_cons (hcompiles : History.compiles? past step = none) :
    s.catalog = History.catalog (step :: past) := by
  rw [History.catalog_cons hcompiles, hremembers.catalog]

theorem adapters_cons (hadapter : ∀ label, History.adapterMade? label past step = none)
    (label : String) :
    s.adapters.lookup label = History.adapterNamed (step :: past) label := by
  rw [History.adapterNamed_cons (hadapter label), hremembers.adapters]

theorem size_cons (hmade : History.made? past step = none) :
    s.runners.length = History.size (step :: past) := by
  rw [History.size_cons hmade, hremembers.size]

theorem labels_cons (hmade : History.made? past step = none) (label : String) :
    s.labels.lookup label = History.labelled (step :: past) label := by
  rw [History.labelled_cons hmade, hremembers.labels]

theorem runners_cons (hmade : History.made? past step = none)
    (hsets : ∀ id, History.sets? id past step = none) :
    ∀ id < History.size (step :: past),
      s.runner? id = some (History.runnerOf (step :: past) id) := by
  intro id hid
  rw [History.size_cons hmade] at hid
  rw [History.runnerOf_cons hmade (hsets id), hremembers.runners id hid]

theorem functions_cons (hbinds : History.binds past step = []) :
    s.functions = History.functions (step :: past) := by
  rw [History.functions_cons hbinds, hremembers.functions]

theorem names_cons (hnames : ∀ name, History.names? name past step = none) (name : String) :
    s.names.lookup name = History.functionNamed (step :: past) name := by
  rw [History.functionNamed_cons (hnames name), hremembers.names]

end

/-! ## Single steps -/

/-- A step that bears on bound functions and their names only. -/
theorem cons_of_rebound {step : Step} {table : List (String × Nat)}
    (hadapter : ∀ label, History.adapterMade? label past step = none)
    (hmade : History.made? past step = none)
    (hsets : ∀ id, History.sets? id past step = none)
    (hcompiles : History.compiles? past step = none)
    (hnames : ∀ name, table.lookup name = History.functionNamed (step :: past) name) :
    Remembers { s with functions := s.functions ++ past.binds step, names := table }
      (step :: past) where
  catalog := hremembers.catalog_cons hcompiles
  adapters := hremembers.adapters_cons hadapter
  size := hremembers.size_cons hmade
  labels := hremembers.labels_cons hmade
  runners := hremembers.runners_cons hmade hsets
  functions := by rw [History.functions, ← hremembers.functions]
  names := hnames

/-- A step that answers no question changes nothing that is remembered. -/
theorem cons_of_idle {step : Step}
    (hadapter : ∀ label, History.adapterMade? label past step = none)
    (hmade : History.made? past step = none)
    (hsets : ∀ id, History.sets? id past step = none)
    (hcompiles : History.compiles? past step = none)
    (hbinds : History.binds past step = [])
    (hnames : ∀ name, History.names? name past step = none) :
    s.Remembers (step :: past) := by
  have hkept := hremembers.names_cons hnames
  have hrebound := hremembers.cons_of_rebound hadapter hmade hsets hcompiles hkept
  rwa [hbinds, List.append_nil] at hrebound

theorem compileStep (policy : Option Value) (warn : Option Bool) (text : String) :
    (s.compileStep policy warn text).1.Remembers (.compile policy warn text :: past) := by
  unfold Session.compileStep
  cases hoptions : CompileOptions.ofValues policy warn with
  | error e =>
      refine hremembers.cons_of_idle (fun _ => rfl) rfl (fun _ => rfl) ?_ rfl (fun _ => rfl)
      simp only [History.compiles?, hoptions]
  | ok options =>
      cases houtcome : (Catalog.compile options text).outcome with
      | error e =>
          simp only [houtcome]
          refine hremembers.cons_of_idle (fun _ => rfl) rfl (fun _ => rfl) ?_ rfl (fun _ => rfl)
          simp only [History.compiles?, hoptions, houtcome]
          rfl
      | ok c =>
          have hcompiles :
              History.compiles? past (.compile policy warn text) = some c := by
            simp only [History.compiles?, hoptions, houtcome]
            rfl
          simp only [houtcome]
          constructor
          · rw [History.catalog, History.latest_cons_of_some hcompiles]
            rfl
          · exact hremembers.adapters_cons fun _ => rfl
          · exact hremembers.size_cons rfl
          · exact hremembers.labels_cons rfl
          · exact hremembers.runners_cons rfl fun _ => rfl
          · exact hremembers.functions_cons rfl
          · exact hremembers.names_cons fun _ => rfl

theorem adapterStep (adapter : Adapter) :
    (s.step (.adapter adapter)).1.Remembers (.adapter adapter :: past) := by
  constructor
  · exact hremembers.catalog_cons rfl
  · intro label
    rw [Session.step, lookup_bindName, History.adapterNamed, History.latest,
      History.adapterMade?, hremembers.adapters]
    split <;> rfl
  · exact hremembers.size_cons rfl
  · exact hremembers.labels_cons rfl
  · exact hremembers.runners_cons rfl fun _ => rfl
  · exact hremembers.functions_cons rfl
  · exact hremembers.names_cons fun _ => rfl

theorem runnerStep (label : String) (adapter : Option String) (options : RunOptions) :
    (s.runnerStep label adapter options).1.Remembers
      (.runner label adapter options :: past) := by
  have hhanded := hremembers.adapterFor adapter
  unfold Session.runnerStep
  cases hadapter : past.handed adapter with
  | none =>
      obtain ⟨e, hunknown⟩ := exists_error_of_toOption (hhanded.trans hadapter)
      rw [hunknown]
      refine hremembers.cons_of_idle (fun _ => rfl) ?_ ?_ rfl rfl (fun _ => rfl)
      · rw [History.made?, hadapter]
        rfl
      · intro id
        rw [History.sets?, hadapter, ite_self]
  | some given =>
      rw [eq_ok_of_toOption (hhanded.trans hadapter)]
      have hmade : History.made? past (.runner label adapter options) =
          some (label, ⟨given, options⟩) := by
        rw [History.made?, hadapter]
        rfl
      have hsize : History.size (.runner label adapter options :: past) = past.size + 1 := by
        rw [History.size, hmade]
      constructor
      · exact hremembers.catalog_cons rfl
      · exact hremembers.adapters_cons fun _ => rfl
      · rw [hsize, ← hremembers.size]
        exact List.length_append
      · intro other
        simp only [lookup_bindName, hremembers.size, hremembers.labels, History.labelled,
          History.latest, History.labels?, hmade]
        split <;> rfl
      · intro id hid
        rw [hsize] at hid
        have hrunner : History.runnerOf (.runner label adapter options :: past) id =
            if past.size = id then ⟨given, options⟩ else past.runnerOf id := by
          by_cases hid : past.size = id
          · simp [History.runnerOf, History.adapterOf, History.optionsOf, History.latest,
              History.sets?, History.gives?, hmade, hadapter, hid]
          · simp [History.runnerOf, History.adapterOf, History.optionsOf, History.latest,
              History.sets?, History.gives?, hmade, hid]
        rw [hrunner, runner?, ← hremembers.size]
        by_cases hnew : s.runners.length = id
        · rw [if_pos hnew, ← hnew]
          exact List.getElem?_concat_length
        · have hold : id < s.runners.length := by
            rw [hremembers.size] at hnew ⊢
            omega
          rw [if_neg hnew, List.getElem?_append_left hold]
          exact hremembers.runners id (hremembers.size ▸ hold)
      · exact hremembers.functions_cons rfl
      · exact hremembers.names_cons fun _ => rfl

theorem registerStep (label : String) (adapter : Option String) :
    (s.registerStep label adapter).1.Remembers (.register label adapter :: past) := by
  have hhanded := hremembers.adapterFor adapter
  have hlabel := hremembers.runnerId? label
  unfold Session.registerStep
  cases hid : past.runnerNamed label with
  | none =>
      rw [hlabel.trans hid]
      refine hremembers.cons_of_idle (fun _ => rfl) rfl ?_ rfl rfl (fun _ => rfl)
      intro id
      rw [History.sets?, hid, if_neg (by simp)]
  | some target =>
      rw [hlabel.trans hid]
      cases hadapter : past.handed adapter with
      | none =>
          obtain ⟨e, hunknown⟩ := exists_error_of_toOption (hhanded.trans hadapter)
          rw [hunknown]
          refine hremembers.cons_of_idle (fun _ => rfl) rfl ?_ rfl rfl (fun _ => rfl)
          intro id
          rw [History.sets?, hadapter, ite_self]
      | some given =>
          rw [eq_ok_of_toOption (hhanded.trans hadapter)]
          constructor
          · exact hremembers.catalog_cons rfl
          · exact hremembers.adapters_cons fun _ => rfl
          · rw [History.size_cons rfl, ← hremembers.size]
            exact List.length_modify _ _ _
          · exact hremembers.labels_cons rfl
          · intro id hbound
            rw [History.size_cons rfl] at hbound
            have hrunner := hremembers.runners id hbound
            rw [runner?] at hrunner ⊢
            rw [List.getElem?_modify, hrunner, History.runnerOf, History.runnerOf,
              History.optionsOf_cons rfl]
            by_cases htarget : target = id
            · simp [History.adapterOf, History.latest, History.sets?, hid, hadapter, htarget]
            · simp [History.adapterOf, History.latest, History.sets?, hid, htarget]
          · exact hremembers.functions_cons rfl
          · exact hremembers.names_cons fun _ => rfl

theorem bindStep (label : String) (target : Target) :
    (s.step (.bind label target)).1.Remembers (.bind label target :: past) := by
  have hlocate := hremembers.locate label target
  simp only [Session.step]
  cases hlocated : past.located label target with
  | none =>
      obtain ⟨e, hunknown⟩ := exists_error_of_toOption (hlocate.trans hlocated)
      rw [hunknown]
      refine hremembers.cons_of_idle (fun _ => rfl) rfl (fun _ => rfl) rfl ?_ ?_
      · simp only [History.binds, hlocated]
      · intro name
        simp only [History.names?, hlocated]
  | some found =>
      rw [eq_ok_of_toOption (hlocate.trans hlocated)]
      have hbinds : past.binds (.bind label target) = [⟨found.1, found.2⟩] := by
        simp only [History.binds, hlocated]
      simp only [bindQuery, ← hbinds]
      refine hremembers.cons_of_rebound (fun _ => rfl) rfl (fun _ => rfl) rfl ?_
      intro name
      simp only [lookup_bindName, hremembers.names, hremembers.functions, History.functionNamed,
        History.latest, History.names?, hlocated]
      split <;> rfl

theorem bindAllStep (label : String) :
    (s.step (.bindAll label)).1.Remembers (.bindAll label :: past) := by
  have hlabel := hremembers.runnerId? label
  simp only [Session.step]
  cases hid : past.runnerNamed label with
  | none =>
      have hbinds : s.functions = s.functions ++ past.binds (.bindAll label) := by
        simp only [History.binds, hid, List.append_nil]
      rw [hlabel.trans hid, hbinds]
      refine hremembers.cons_of_rebound (fun _ => rfl) rfl (fun _ => rfl) rfl ?_
      intro name
      simp only [History.functionNamed, History.latest, History.names?, hid]
      rfl
  | some id =>
      have hbinds : (s.catalog.queries.map fun q => ⟨id, q⟩) = past.binds (.bindAll label) := by
        simp only [History.binds, hid, hremembers.catalog]
      rw [hlabel.trans hid]
      simp only [foldl_bindQuery, hbinds]
      refine hremembers.cons_of_rebound (fun _ => rfl) rfl (fun _ => rfl) rfl ?_
      intro name
      rw [lookup_nameQueries s.catalog.nodup, List.lookup_nil, Option.or_none]
      simp only [History.functionNamed, History.latest, History.names?, hid,
        ← hremembers.catalog, ← hremembers.functions]
      rfl

/-- Every step keeps a session in agreement with its history. -/
theorem step (taken : Step) : (s.step taken).1.Remembers (taken :: past) := by
  have hidle {other : Session} (hsame : other = s)
      (hadapter : ∀ label, History.adapterMade? label past taken = none)
      (hmade : History.made? past taken = none)
      (hsets : ∀ id, History.sets? id past taken = none)
      (hcompiles : History.compiles? past taken = none)
      (hbinds : History.binds past taken = [])
      (hnames : ∀ name, History.names? name past taken = none) :
      other.Remembers (taken :: past) :=
    hsame ▸ hremembers.cons_of_idle hadapter hmade hsets hcompiles hbinds hnames
  cases taken with
  | compile policy warn text => exact hremembers.compileStep policy warn text
  | adapter adapter => exact hremembers.adapterStep adapter
  | runner label adapter options => exact hremembers.runnerStep label adapter options
  | register label adapter => exact hremembers.registerStep label adapter
  | bind label target => exact hremembers.bindStep label target
  | bindAll label => exact hremembers.bindAllStep label
  | adapterOf label =>
      refine hidle ?_ (fun _ => rfl) rfl (fun _ => rfl) rfl rfl (fun _ => rfl)
      simp only [Session.step]
      split <;> rfl
  | execute label target args =>
      refine hidle ?_ (fun _ => rfl) rfl (fun _ => rfl) rfl rfl (fun _ => rfl)
      simp only [Session.step]
      split <;> rfl
  | call label target args =>
      refine hidle ?_ (fun _ => rfl) rfl (fun _ => rfl) rfl rfl (fun _ => rfl)
      simp only [Session.step]
      split <;> rfl
  | callBound name args =>
      refine hidle ?_ (fun _ => rfl) rfl (fun _ => rfl) rfl rfl (fun _ => rfl)
      simp only [Session.step]
      split <;> rfl
  | callFunction number args =>
      exact hidle rfl (fun _ => rfl) rfl (fun _ => rfl) rfl rfl (fun _ => rfl)

end Remembers

end Session

end QueryBook
