import QueryBook.Log.Session
import QueryBook.Proofs.ControlCharacters
import QueryBook.Proofs.RecordLines

/-!
# Reconfiguring the journal

The newest step that configured the journal with a name of a level settles its level and its
only handler; a step with another name leaves everything as it was.  Records are printed as
these settings say, once each.
-/

namespace QueryBook.Log

/-! ## Names of levels -/

/-- Two levels have a second name. -/
def otherLevelNames : List (Int × String) :=
  [(30, "WARN"), (50, "FATAL")]

/-- The level that a name means, in whatever case its letters are. -/
def levelNamed? (name : String) : Option Int :=
  let capitals := String.ofList (Text.upper name.toList)
  ((levelNames ++ otherLevelNames).find? fun entry => entry.2 = capitals).map Prod.fst

theorem find?_levelNames (capitals : String) :
    ((levelNames ++ otherLevelNames).find? fun entry => entry.2 = capitals).map Prod.fst =
      (knownNames.lookup capitals).bind fun known => known.asLevel.toOption := by
  by_cases hknown : capitals ∈ knownNames.map Prod.fst
  · simp only [knownNames, List.map_cons, List.map_nil, List.mem_cons, List.not_mem_nil,
      or_false] at hknown
    rcases hknown with rfl | rfl | rfl | rfl | rfl | rfl | rfl | rfl | rfl | rfl <;> rfl
  · have hsubset : (levelNames ++ otherLevelNames).map Prod.snd ⊆ knownNames.map Prod.fst := by
      decide
    have hunknown : knownNames.lookup capitals = none := by
      rw [List.lookup_eq_none_iff]
      intro entry hentry
      rw [bne_iff_ne]
      rintro rfl
      exact hknown (List.mem_map_of_mem hentry)
    have hunnamed :
        (levelNames ++ otherLevelNames).find? (fun entry => entry.2 = capitals) = none := by
      rw [List.find?_eq_none]
      intro entry hentry hname
      obtain rfl := of_decide_eq_true hname
      exact hknown (hsubset (List.mem_map_of_mem hentry))
    rw [hunknown, hunnamed]
    rfl

theorem asLevel_findName (name : String) :
    ((findName name).bind KnownName.asLevel).toOption = levelNamed? name := by
  rw [levelNamed?, find?_levelNames, findName]
  cases knownNames.lookup (String.ofList (Text.upper name.toList)) with
  | none => rfl
  | some known => rfl

theorem findName_of_named {name : String} {level : Int} (hlevel : levelNamed? name = some level) :
    ∃ known, findName name = .ok known ∧ known.asLevel = .ok level := by
  rw [← asLevel_findName] at hlevel
  cases hfound : findName name with
  | error e => simp [hfound, Except.bind, Except.toOption] at hlevel
  | ok known =>
      cases hknown : known.asLevel with
      | error e => simp [hfound, hknown, Except.bind, Except.toOption] at hlevel
      | ok n =>
          simp only [hfound, hknown, Except.bind, Except.toOption, Option.some.injEq] at hlevel
          exact ⟨known, rfl, hlevel ▸ hknown⟩

theorem findName_of_unnamed {name : String} (hlevel : levelNamed? name = none) :
    (∃ e, findName name = .error e) ∨
      ∃ known e, findName name = .ok known ∧ known.asLevel = .error e := by
  rw [← asLevel_findName] at hlevel
  cases hfound : findName name with
  | error e => exact .inl ⟨e, rfl⟩
  | ok known =>
      cases hknown : known.asLevel with
      | error e => exact .inr ⟨known, e, rfl, hknown⟩
      | ok n => simp [hfound, hknown, Except.bind, Except.toOption] at hlevel

namespace Journal

variable {j : Journal} {name : String} {style : Style} {level : Int}

/-! ## Configuring -/

theorem setLevel_of_ok {known : KnownName} (hknown : known.asLevel = .ok level) (j : Journal) :
    (setLevel known).run j = (.ok (), { j with level := level }) := by
  rw [setLevel, hknown]
  rfl

theorem setLevel_of_error {known : KnownName} {e : LevelError}
    (hknown : known.asLevel = .error e) (j : Journal) :
    (setLevel known).run j = (.error e, j) := by
  rw [setLevel, hknown]
  rfl

theorem Change.run_bind_of_ok {α β : Type} {change : Change α} {a : α} {j' : Journal}
    (hchange : change.run j = (.ok a, j')) (next : α → Change β) :
    Change.run (change >>= next) j = (next a).run j' := by
  unfold Change.run at hchange ⊢
  rw [ExceptT.run_bind, StateT.run_bind, hchange]
  rfl

theorem Change.run_bind_of_error {α β : Type} {change : Change α} {e : LevelError} {j' : Journal}
    (hchange : change.run j = (.error e, j')) (next : α → Change β) :
    Change.run (change >>= next) j = (.error e, j') := by
  unfold Change.run at hchange ⊢
  rw [ExceptT.run_bind, StateT.run_bind, hchange]
  rfl

/-- With the name of a level, configuring leaves one new handler alone and nothing else. -/
theorem configure_of_named (hlevel : levelNamed? name = some level) (style : Style)
    (j : Journal) :
    (configure name style).run j =
      (.ok ⟨j.made, style⟩, ⟨level, [⟨j.made, style⟩], false, j.made + 1⟩) := by
  obtain ⟨known, hfound, hknown⟩ := findName_of_named hlevel
  rw [configure, hfound]
  refine (Change.run_bind_of_ok rfl _).trans ?_
  exact Change.run_bind_of_ok (setLevel_of_ok hknown j) _

/-- With another name it changes nothing, since both checks of the name come first. -/
theorem configure_of_unnamed (hlevel : levelNamed? name = none) (style : Style)
    (j : Journal) :
    ∃ e, (configure name style).run j = (.error e, j) := by
  rcases findName_of_unnamed hlevel with ⟨e, hfound⟩ | ⟨known, e, hfound, hknown⟩
  · rw [configure, hfound]
    exact ⟨e, rfl⟩
  · rw [configure, hfound]
    refine ⟨e, (Change.run_bind_of_ok rfl _).trans ?_⟩
    exact Change.run_bind_of_error (setLevel_of_error hknown j) _

/-! ## Settings -/

/-- The settings that a step makes. -/
def Step.settings? : Step → Option (Int × Style)
  | .configure name style => (levelNamed? name).map fun level => (level, style)
  | _ => none

/-- The settings in force after some steps, of which the newest comes first. -/
def settings? (past : List Step) : Option (Int × Style) :=
  past.findSome? Step.settings?

/-- The journal is as it was at the start, or as its settings say. -/
structure Keeps (j : Journal) (past : List Step) : Prop where
  unset : settings? past = none → j = {}
  set : ∀ level style, settings? past = some (level, style) →
    ∃ number, j = ⟨level, [⟨number, style⟩], false, number + 1⟩

theorem keeps_nil : Keeps {} [] :=
  ⟨fun _ => rfl, fun _ _ hset => by cases hset⟩

variable {past : List Step}

theorem step_of_named (hlevel : levelNamed? name = some level) (style : Style)
    (j : Journal) :
    j.step (.configure name style) =
      (⟨level, [⟨j.made, style⟩], false, j.made + 1⟩,
        { outcome := .ok (.state ⟨level, [⟨j.made, style⟩], false, j.made + 1⟩) }) := by
  rw [step, configure_of_named hlevel]

theorem step_of_unnamed (hlevel : levelNamed? name = none) (style : Style) (j : Journal) :
    ∃ e, (configure name style).run j = (.error e, j) ∧
      j.step (.configure name style) = (j, { outcome := .error (.level e) }) := by
  obtain ⟨e, hrefused⟩ := configure_of_unnamed hlevel style j
  exact ⟨e, hrefused, by rw [step, hrefused]⟩

theorem step_of_other {step : Step} (hother : ∀ name style, step ≠ .configure name style)
    (j : Journal) :
    (j.step step).1 = j := by
  cases step with
  | configure name style => exact absurd rfl (hother name style)
  | state => rfl
  | log r =>
      rw [Journal.step]
      split <;> rfl
  | compile policy warn text =>
      rw [Journal.step]
      split <;> rfl
  | execute q args => rfl
  | load env => rfl

theorem settings?_cons_of_none {step : Step} (hnone : step.settings? = none) :
    settings? (step :: past) = settings? past := by
  rw [settings?, List.findSome?_cons, hnone, settings?]

theorem Keeps.cons_of_none {step : Step} (hkeeps : j.Keeps past) (hnone : step.settings? = none) :
    j.Keeps (step :: past) := by
  constructor <;> rw [settings?_cons_of_none hnone]
  · exact hkeeps.unset
  · exact hkeeps.set

theorem Keeps.step (hkeeps : j.Keeps past) (step : Step) :
    (j.step step).1.Keeps (step :: past) := by
  cases step with
  | configure name style =>
      cases hlevel : levelNamed? name with
      | none =>
          obtain ⟨e, -, hstep⟩ := step_of_unnamed hlevel style j
          rw [hstep]
          exact hkeeps.cons_of_none (by rw [Step.settings?, hlevel, Option.map_none])
      | some level =>
          have hset : settings? (.configure name style :: past) = some (level, style) := by
            rw [settings?, List.findSome?_cons, Step.settings?, hlevel]
            rfl
          rw [step_of_named hlevel]
          constructor
          · intro hunset
            rw [hset] at hunset
            cases hunset
          · intro level' style' hset'
            obtain ⟨rfl, rfl⟩ := Prod.mk.inj (Option.some.inj (hset.symm.trans hset'))
            exact ⟨j.made, rfl⟩
  | _ =>
      rw [step_of_other fun _ _ heq => by cases heq]
      exact hkeeps.cons_of_none rfl

/-- The number of a handler that is made next belongs to no handler that is installed. -/
theorem Keeps.fresh (hkeeps : j.Keeps past) (style : Style) :
    ⟨j.made, style⟩ ∉ j.installed := by
  cases hsettings : settings? past with
  | none =>
      rw [hkeeps.unset hsettings]
      exact List.not_mem_nil
  | some settings =>
      obtain ⟨number, rfl⟩ := hkeeps.set settings.1 settings.2 hsettings
      simp

/-- The journal that a row of steps leaves. -/
def after (j : Journal) (steps : List Step) : Journal :=
  steps.foldl (fun j step => (j.step step).1) j

theorem Keeps.after (hkeeps : j.Keeps past) (steps : List Step) :
    (j.after steps).Keeps (steps.reverse ++ past) := by
  induction steps generalizing j past with
  | nil => exact hkeeps
  | cons step steps ih =>
      rw [List.reverse_cons, List.append_assoc]
      exact ih (hkeeps.step step)

theorem after_append_singleton (j : Journal) (steps : List Step) (step : Step) :
    j.after (steps ++ [step]) = ((j.after steps).step step).1 := by
  rw [Journal.after, List.foldl_append]
  rfl

theorem getElem?_run (j : Journal) (before : List Step) (step : Step) (rest : List Step) :
    (j.run (before ++ step :: rest))[before.length]? = some ((j.after before).step step).2 := by
  induction before generalizing j with
  | nil => rfl
  | cons earlier before ih => exact ih (j.step earlier).1

end Journal

/-! ## Printing -/

/-- A record as a call makes it, of a logger that is the root or below it. -/
structure Record.Called (r : Record) : Prop where
  level_pos : 0 < r.level
  belowRoot : isBelowRoot r.logger = true
  unreserved : ∀ field ∈ r.fields, field.1 ∉ reservedAttributes
  exists_timestamp : ∃ timestamp, r.timestamp none = .ok timestamp

/-- The least level that is shown under a level. -/
def threshold (level : Int) : Int :=
  if level = 0 then defaultLevel else level

theorem Journal.effectiveLevel_of_isBelowRoot {logger : String}
    (hbelow : isBelowRoot logger = true) (j : Journal) :
    j.effectiveLevel logger = threshold j.level := by
  rw [effectiveLevel, hbelow, threshold]
  by_cases hlevel : j.level = 0 <;> simp [hlevel]

theorem Journal.log_of_unreserved {r : Record}
    (hfields : ∀ field ∈ r.fields, field.1 ∉ reservedAttributes) (j : Journal) :
    j.log r = .ok (if j.isEnabled r.logger r.level then j.output r else []) := by
  have hreserved :
      r.fields.find? (fun field => reservedAttributes.contains field.1) = none := by
    rw [List.find?_eq_none]
    intro field hfield
    simpa using hfields field hfield
  rw [log, hreserved]
  split <;> rfl

/-- The message of a record gets through: it can be put together, and so can the exception if
there is one, the level is high enough, and for an object the message is a text. -/
structure Record.Passes (r : Record) (settings : Int × Style) (message : Message) : Prop where
  threshold_le : threshold settings.1 ≤ r.level
  message_eq : r.message = .ok message
  exists_failureLine : ∃ failure, r.failureLine = .ok failure
  isText : settings.2 = .json → ∃ s : String, message = .ofChars s.toList

namespace Record.Called

variable {r : Record} (hcalled : r.Called)

include hcalled

theorem exists_line_iff (style : Style) :
    (∃ line, style.line r = .ok line) ↔
      ∃ message, r.message = .ok message ∧ (∃ failure, r.failureLine = .ok failure) ∧
        (style = .json → ∃ s : String, message = .ofChars s.toList) := by
  obtain ⟨timestamp, htime⟩ := hcalled.exists_timestamp
  cases style with
  | json =>
      simp only [Style.line, map_eq_ok_iff, jsonLine_eq_ok_iff, htime]
      constructor
      · rintro ⟨-, -, ⟨-, s, failure, -, hmessage, hfailure, -⟩, -⟩
        exact ⟨_, hmessage, ⟨failure, hfailure⟩, fun _ => ⟨s, rfl⟩⟩
      · rintro ⟨message, hmessage, ⟨failure, hfailure⟩, htext⟩
        obtain ⟨s, rfl⟩ := htext trivial
        exact ⟨_, _, ⟨timestamp, s, failure, rfl, hmessage, hfailure, rfl⟩, rfl⟩
  | plain =>
      simp only [Style.line, plainLine_eq_ok_iff, htime]
      constructor
      · rintro ⟨-, message, -, failure, hmessage, -, hfailure, -⟩
        exact ⟨message, hmessage, ⟨failure, hfailure⟩, fun hstyle => by cases hstyle⟩
      · rintro ⟨message, hmessage, ⟨failure, hfailure⟩, -⟩
        exact ⟨_, message, timestamp, failure, hmessage, rfl, hfailure, rfl⟩

theorem log_eq (j : Journal) :
    j.log r =
      .ok (if threshold j.level ≤ r.level then j.handlers.flatMap (Journal.printed r) else []) := by
  rw [j.log_of_unreserved hcalled.unreserved, Journal.isEnabled,
    j.effectiveLevel_of_isBelowRoot hcalled.belowRoot, Journal.output, if_pos hcalled.belowRoot]
  simp only [hcalled.level_pos, decide_true, Bool.true_and, decide_eq_true_eq]

end Record.Called

theorem rows_of_forall {α : Type} {isFeed : α → Bool} {row : List α}
    (hrow : ∀ a ∈ row, isFeed a = false) :
    Text.rows isFeed row = [row] := by
  induction row with
  | nil => rfl
  | cons a row ih =>
      rw [Text.rows, hrow a (List.mem_cons_self ..), if_neg Bool.false_ne_true,
        ih fun b hb => hrow b (List.mem_cons_of_mem _ hb)]
      rfl

theorem rows_of_json {r : Record} {line : Message} (hline : Style.json.line r = .ok line) :
    line.rows = [line] := by
  obtain ⟨text, htext, rfl⟩ := map_eq_ok_iff.mp hline
  obtain ⟨-, -, -, -, -, -, rfl⟩ := Record.jsonLine_eq_ok_iff.mp htext
  apply rows_of_forall
  intro p hp
  obtain ⟨c, hc, rfl⟩ := List.mem_map.mp hp
  rw [Json.print, String.toList_ofList] at hc
  have hvisible := Json.uncontrolled_compact _ c hc
  rw [decide_eq_false_iff_not, CodePoint.char.injEq]
  rintro rfl
  revert hvisible
  decide

/-- What is printed of a record: the line of its message if that gets through the settings, an
object being on a single row, and otherwise nothing. -/
def Prints (settings : Option (Int × Style)) (r : Record) (output : List Message) : Prop :=
  (∃ level style message line, settings = some (level, style) ∧
      r.Passes (level, style) message ∧ style.line r = .ok line ∧ output = line.rows ∧
      (style = .json → output = [line])) ∨
    (output = [] ∧ ∀ inForce message, settings = some inForce → ¬r.Passes inForce message)

namespace Journal

theorem Keeps.prints_log {j : Journal} {past : List Step} (hkeeps : j.Keeps past) {r : Record}
    (hcalled : r.Called) :
    ∃ output, j.log r = .ok output ∧ Prints (settings? past) r output := by
  rw [hcalled.log_eq]
  refine ⟨_, rfl, ?_⟩
  cases hsettings : settings? past with
  | none =>
      rw [hkeeps.unset hsettings]
      refine .inr ⟨?_, fun _ _ hset => by cases hset⟩
      split <;> rfl
  | some inForce =>
      obtain ⟨level, style⟩ := inForce
      obtain ⟨number, rfl⟩ := hkeeps.set level style hsettings
      by_cases hlevel : threshold level ≤ r.level
      · rw [if_pos hlevel, Journal.handlers, List.map_singleton, List.flatMap_singleton, printed]
        cases hline : style.line r with
        | ok line =>
            obtain ⟨message, hmessage, hfailure, htext⟩ :=
              (hcalled.exists_line_iff style).mp ⟨line, hline⟩
            refine .inl ⟨level, style, message, line, rfl, ⟨hlevel, hmessage, hfailure, htext⟩,
              hline, rfl, ?_⟩
            rintro rfl
            exact rows_of_json hline
        | error e =>
            refine .inr ⟨rfl, ?_⟩
            rintro - message ⟨⟩ hpasses
            obtain ⟨line, hshown⟩ :=
              (hcalled.exists_line_iff style).mpr
                ⟨message, hpasses.message_eq, hpasses.exists_failureLine, hpasses.isText⟩
            rw [hline] at hshown
            cases hshown
      · rw [if_neg hlevel]
        refine .inr ⟨rfl, ?_⟩
        rintro - message ⟨⟩ hpasses
        exact hlevel hpasses.threshold_le

/-- What a step does to a journal and shows, told by the settings in force before it. -/
structure FollowsSettings (past : List Step) (j : Journal) (step : Step) (next : Journal)
    (entry : Entry) : Prop where
  keeps : j.Keeps past
  configures : ∀ name style level, step = .configure name style →
    levelNamed? name = some level →
      ∃ handler, (configure name style).run j = (.ok handler, next) ∧
        handler.style = style ∧ handler ∉ j.installed ∧ next.installed = [handler] ∧
        next.level = level ∧ next.propagate = false ∧
        entry = { outcome := .ok (.state next) }
  refuses : ∀ name style, step = .configure name style → levelNamed? name = none →
    ∃ e, (configure name style).run j = (.error e, next) ∧ next = j ∧
      entry = { outcome := .error (.level e) }
  leaves : (∀ name style, step ≠ .configure name style) → next = j
  prints : ∀ r, step = .log r → r.Called →
    ∃ output, entry = { output := output, outcome := .ok .done } ∧
      Prints (settings? past) r output

theorem Keeps.followsSettings {j : Journal} {past : List Step} (hkeeps : j.Keeps past)
    (step : Step) :
    FollowsSettings past j step (j.step step).1 (j.step step).2 := by
  constructor
  · exact hkeeps
  · rintro name style level rfl hlevel
    rw [step_of_named hlevel]
    exact ⟨_, configure_of_named hlevel style j, rfl, hkeeps.fresh style, rfl, rfl, rfl, rfl⟩
  · rintro name style rfl hlevel
    obtain ⟨e, hrefused, hstep⟩ := step_of_unnamed hlevel style j
    rw [hstep]
    exact ⟨e, hrefused, rfl, rfl⟩
  · exact fun hother => step_of_other hother j
  · rintro r rfl hcalled
    obtain ⟨output, hlog, hprints⟩ := hkeeps.prints_log hcalled
    exact ⟨output, by rw [Journal.step, hlog], hprints⟩

/-- Names that are no level, unknown or not, leave the second handler in its place. -/
example :
    ((run {} [.configure "info" .json, .configure "Fatal" .plain, .configure "verbose" .json,
      .configure "basic_format" .json, .state]).getLast?.map Entry.outcome) =
        some (.ok (.state ⟨50, [⟨1, .plain⟩], false, 2⟩)) := by
  rfl

/-- A call whose message is a surrogate by itself. -/
def surrogateCall : Record where
  level := 30
  logger := "sqltags"
  template := "%c"
  arguments := [.int 0xD800]

/-- A call that passes on an exception whose place cannot be shown. -/
def misplacedCall : Record where
  level := 30
  logger := "sqltags"
  template := "m"
  failure := some (.located ⟨.text "f", .int 1, .int 1, .int 5, .null⟩ "SyntaxError" "m")

end Journal

end QueryBook.Log
