import QueryBook.Proofs.Reconfiguration

/-!
# Names of loggers

A name that begins like the name of the root logger is taken as a full name, and any other
name is put below the root.  So a logger lies in the tree of the root unless its name goes on
behind the root's name with something other than a point.  Loggers in the tree are heard as
soon as the journal is configured, and no others.
-/

namespace QueryBook.Log

/-- The root logger, or a logger with a point behind the name of the root. -/
def InTree (logger : String) : Prop :=
  logger = Notice.rootLogger ∨ ∃ branch, logger = Notice.rootLogger ++ "." ++ branch

/-- The name begins like the root's and goes on with something other than a point. -/
def RunsOn (name : String) : Prop :=
  ∃ c rest, c ≠ '.' ∧ name.toList = Notice.rootLogger.toList ++ c :: rest

theorem isBelowRoot_iff {logger : String} : isBelowRoot logger = true ↔ InTree logger := by
  rw [isBelowRoot, InTree, Bool.or_eq_true, decide_eq_true_iff, List.isPrefixOf_iff_prefix]
  refine or_congr_right ⟨?_, ?_⟩
  · rintro ⟨branch, hbranch⟩
    refine ⟨String.ofList branch, ?_⟩
    rw [← String.toList_inj, String.toList_append, String.toList_ofList, hbranch]
  · rintro ⟨branch, rfl⟩
    exact ⟨branch.toList, (String.toList_append ..).symm⟩

theorem not_inTree_of_runsOn {name : String} (hrunsOn : RunsOn name) : ¬InTree name := by
  obtain ⟨c, rest, hpoint, hname⟩ := hrunsOn
  rintro (rfl | ⟨branch, rfl⟩)
  · have hlength := congrArg List.length hname
    simp at hlength
  · simp only [String.toList_append, List.append_assoc, List.append_cancel_left_eq] at hname
    exact hpoint (List.cons.inj hname).1.symm

theorem inTree_or_runsOn {name : String}
    (hroot : Notice.rootLogger.toList <+: name.toList) :
    InTree name ∨ RunsOn name := by
  obtain ⟨rest, hname⟩ := hroot
  cases rest with
  | nil =>
      rw [List.append_nil, String.toList_inj] at hname
      exact .inl (.inl hname.symm)
  | cons c rest =>
      by_cases hpoint : c = '.'
      · refine .inl (.inr ⟨String.ofList rest, ?_⟩)
        rw [← String.toList_inj, ← hname, hpoint]
        simp
      · exact .inr ⟨c, rest, hpoint, hname.symm⟩

theorem inTree_loggerName_iff {given : Option String} :
    InTree (loggerName given) ↔ ∀ name, given = some name → ¬RunsOn name := by
  cases given with
  | none => simp [loggerName, InTree]
  | some name =>
      simp only [Option.some.injEq, forall_eq', loggerName, List.isPrefixOf_iff_prefix]
      split
      · next hroot =>
        refine ⟨fun hin hrunsOn => not_inTree_of_runsOn hrunsOn hin, fun hrunsOn => ?_⟩
        exact (inTree_or_runsOn hroot).resolve_right hrunsOn
      · next hroot =>
        refine ⟨fun _ => ?_, fun _ => .inr ⟨name, rfl⟩⟩
        rintro ⟨c, rest, -, hname⟩
        exact hroot ⟨c :: rest, hname.symm⟩

theorem rootLogger_prefix_loggerName (given : Option String) :
    Notice.rootLogger.toList <+: (loggerName given).toList := by
  cases given with
  | none => exact List.prefix_refl _
  | some name =>
      rw [loggerName]
      split
      · next hroot => exact List.isPrefixOf_iff_prefix.mp hroot
      · rw [String.toList_append, String.toList_append, List.append_assoc]
        exact List.prefix_append _ _

theorem loggerName_loggerName (given : Option String) :
    loggerName (some (loggerName given)) = loggerName given := by
  rw [loggerName, if_pos (List.isPrefixOf_iff_prefix.mpr (rootLogger_prefix_loggerName given))]

namespace Journal

/-- A journal that the handler has been installed in by the last successful configuration. -/
inductive ConfiguredWith (handler : Handler) : Journal → Prop where
  | configured {j j' : Journal} {name : String} {style : Style}
    (hrun : (configure name style).run j = (.ok handler, j')) : ConfiguredWith handler j'
  | step {j : Journal} (hconfigured : ConfiguredWith handler j) {step : Step}
    (hnone : step.settings? = none) : ConfiguredWith handler (j.step step).1

theorem level_nonneg_of_named {name : String} {level : Int}
    (hlevel : levelNamed? name = some level) : 0 ≤ level := by
  have hall : ∀ entry ∈ levelNames ++ otherLevelNames, 0 ≤ entry.1 := by
    decide
  obtain ⟨entry, hentry, rfl⟩ := Option.map_eq_some_iff.mp hlevel
  exact hall entry (List.mem_of_find?_eq_some hentry)

theorem step_of_settings?_eq_none {step : Step} (hnone : step.settings? = none) (j : Journal) :
    (j.step step).1 = j := by
  cases step with
  | configure name style =>
      have hlevel : levelNamed? name = none := Option.map_eq_none_iff.mp hnone
      obtain ⟨e, -, hstep⟩ := step_of_unnamed hlevel style j
      rw [hstep]
  | _ => exact step_of_other (fun _ _ heq => by cases heq) j

theorem ConfiguredWith.installed_level {handler : Handler} {j : Journal}
    (hconfigured : j.ConfiguredWith handler) : j.installed = [handler] ∧ 0 ≤ j.level := by
  induction hconfigured with
  | @configured j j' name style hrun =>
      cases hlevel : levelNamed? name with
      | none =>
          obtain ⟨e, hrefused⟩ := configure_of_unnamed hlevel style j
          rw [hrefused] at hrun
          cases hrun
      | some level =>
          rw [configure_of_named hlevel] at hrun
          obtain ⟨hhandler, rfl⟩ := Prod.mk.inj hrun
          obtain rfl := Except.ok.inj hhandler
          exact ⟨rfl, level_nonneg_of_named hlevel⟩
  | step _ hnone ih =>
      rw [step_of_settings?_eq_none hnone]
      exact ih

end Journal

theorem Record.exists_timestamp_of_line {r : Record} {style : Style} {line : Message}
    (hline : style.line r = .ok line) :
    ∃ timestamp, r.timestamp none = .ok timestamp := by
  cases style with
  | json =>
      obtain ⟨text, htext, -⟩ := map_eq_ok_iff.mp hline
      obtain ⟨timestamp, -, -, htime, -⟩ := Record.jsonLine_eq_ok_iff.mp htext
      exact ⟨timestamp, htime⟩
  | plain =>
      obtain ⟨-, timestamp, -, -, htime, -⟩ := Record.plainLine_eq_ok_iff.mp hline
      exact ⟨timestamp, htime⟩

namespace Journal

variable {handler : Handler} {j : Journal} {r : Record} {line : Message}

theorem ConfiguredWith.log_of_inTree (hconfigured : j.ConfiguredWith handler)
    (hin : InTree r.logger) (hfields : ∀ field ∈ r.fields, field.1 ∉ reservedAttributes)
    (hlevel : j.effectiveLevel r.logger ≤ r.level) (hline : handler.style.line r = .ok line) :
    j.log r = .ok line.rows := by
  have hbelow := isBelowRoot_iff.mpr hin
  obtain ⟨hinstalled, hnonneg⟩ := hconfigured.installed_level
  rw [j.effectiveLevel_of_isBelowRoot hbelow] at hlevel
  have hpositive : 0 < threshold j.level := by
    unfold threshold defaultLevel
    split <;> omega
  have hcalled : r.Called :=
    ⟨Int.lt_of_lt_of_le hpositive hlevel, hbelow, hfields, Record.exists_timestamp_of_line hline⟩
  rw [hcalled.log_eq, if_pos hlevel, Journal.handlers, hinstalled, List.map_singleton,
    List.flatMap_singleton, printed, hline]

/-- Loggers outside the tree have no handler. -/
theorem log_of_not_inTree (hout : ¬InTree r.logger)
    (hfields : ∀ field ∈ r.fields, field.1 ∉ reservedAttributes) (j : Journal) :
    j.log r = .ok [] := by
  rw [← isBelowRoot_iff] at hout
  rw [j.log_of_unreserved hfields, Journal.output, if_neg hout, ite_self]

end Journal

/-- The logger of a name lies in the tree of the root, and its records are printed once by the
handler that is installed, exactly if the name does not run on behind the root's name.  Taking
the logger's own name gives the same logger in every case. -/
theorem inTree_and_heard_iff (given : Option String) :
    (InTree (loggerName given) ↔ ∀ name, given = some name → ¬RunsOn name) ∧
      loggerName (some (loggerName given)) = loggerName given ∧
      ∀ (handler : Handler) (j : Journal), j.ConfiguredWith handler →
        j.installed = [handler] ∧
          ∀ (r : Record) (line : Message), r.logger = loggerName given →
            (∀ field ∈ r.fields, field.1 ∉ reservedAttributes) →
            j.effectiveLevel r.logger ≤ r.level → handler.style.line r = .ok line →
              ((∀ name, given = some name → ¬RunsOn name) →
                j.log r = .ok line.rows ∧ (handler.style = .json → line.rows = [line])) ∧
              (∀ name, given = some name → RunsOn name → j.log r = .ok []) := by
  refine ⟨inTree_loggerName_iff, loggerName_loggerName given, ?_⟩
  intro handler j hconfigured
  refine ⟨hconfigured.installed_level.1, ?_⟩
  intro r line hlogger hfields hlevel hline
  constructor
  · intro hgiven
    have hin : InTree r.logger := hlogger ▸ inTree_loggerName_iff.mpr hgiven
    refine ⟨hconfigured.log_of_inTree hin hfields hlevel hline, fun hjson => ?_⟩
    rw [hjson] at hline
    exact rows_of_json hline
  · intro name hname hrunsOn
    have hout : ¬InTree r.logger := by
      rw [hlogger, inTree_loggerName_iff]
      exact fun hgiven => hgiven name hname hrunsOn
    exact Journal.log_of_not_inTree hout hfields j

/-- A journal that shows everything from level 10 on, after one more name that is no level. -/
def verboseJournal : Journal :=
  Journal.after {} [.configure "Debug" .plain, .configure "loud" .json]

theorem configuredWith_verboseJournal : verboseJournal.ConfiguredWith ⟨0, .plain⟩ := by
  have hlevel : levelNamed? "Debug" = some 10 := by
    decide
  have hnone : (Journal.Step.configure "loud" .json).settings? = none := by
    decide
  exact .step (.configured (Journal.configure_of_named hlevel .plain {})) hnone

def branchCall : Record where
  level := 10
  logger := "sqltags.x.sqltags"
  template := "m"

/-- The root's name behind a point is a name like any other, and is put below the root. -/
theorem inTree_and_heard_iff_relative :
    InTree (loggerName (some "x.sqltags")) ∧
      branchCall.logger = loggerName (some "x.sqltags") ∧
      verboseJournal.ConfiguredWith ⟨0, .plain⟩ ∧
      verboseJournal.effectiveLevel branchCall.logger ≤ branchCall.level ∧
      ∃ line, Style.plain.line branchCall = .ok line ∧
        verboseJournal.log branchCall = .ok line.rows := by
  have hgiven : ∀ name, some "x.sqltags" = some name → ¬RunsOn name := by
    rintro name ⟨⟩ ⟨c, rest, -, hname⟩
    simp [Notice.rootLogger] at hname
  have hlogger : branchCall.logger = loggerName (some "x.sqltags") := by
    decide
  have hlevel : verboseJournal.effectiveLevel branchCall.logger ≤ branchCall.level := by
    decide
  obtain ⟨line, hline⟩ : ∃ line, Style.plain.line branchCall = .ok line := ⟨_, rfl⟩
  obtain ⟨hin, -, hheard⟩ := inTree_and_heard_iff (some "x.sqltags")
  obtain ⟨-, hlog⟩ := hheard ⟨0, .plain⟩ verboseJournal configuredWith_verboseJournal
  have hprinted := (hlog branchCall line hlogger (by simp [branchCall]) hlevel hline).1 hgiven
  exact ⟨hin.mpr hgiven, hlogger, configuredWith_verboseJournal, hlevel, line, hline, hprinted.1⟩

def strayCall : Record where
  level := 30
  logger := "sqltagsx"
  template := "m"

/-- A name that runs on is kept as it is.  Its logger lies outside the tree, and no record of
it is printed. -/
theorem loggerName_runs_on :
    loggerName (some "sqltagsx") = "sqltagsx" ∧ ¬InTree (loggerName (some "sqltagsx")) ∧
      strayCall.logger = loggerName (some "sqltagsx") ∧
      verboseJournal.ConfiguredWith ⟨0, .plain⟩ ∧
      verboseJournal.effectiveLevel strayCall.logger ≤ strayCall.level ∧
      (∃ line, Style.plain.line strayCall = .ok line) ∧
      verboseJournal.log strayCall = .ok [] := by
  have hname : loggerName (some "sqltagsx") = "sqltagsx" := by
    decide
  have hout : ¬InTree "sqltagsx" := by
    rw [← isBelowRoot_iff]
    decide
  refine ⟨hname, hname ▸ hout, hname.symm, configuredWith_verboseJournal, by decide,
    ⟨_, rfl⟩, ?_⟩
  exact Journal.log_of_not_inTree hout (by simp [strayCall]) verboseJournal

end QueryBook.Log
