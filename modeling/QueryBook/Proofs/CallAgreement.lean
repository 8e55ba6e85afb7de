import QueryBook.Proofs.RunRefusal

/-!
# Three ways to run a query

A query is executed with its arguments in a bundle, called with the arguments given directly,
or called through a function bound to it.  The last two are always the same.  They agree with
the first one for all keyword arguments but those of the two names that a call binds itself:
such a call is refused before anything happens, where an execution goes on.
-/

namespace QueryBook

namespace Arguments

/-- No keyword argument has the name of a parameter of the call. -/
def ClashFree (args : Arguments) : Prop :=
  ∀ entry ∈ args.keyword, entry.1 ≠ "self" ∧ entry.1 ≠ "query"

/-- The first keyword argument that has the name of a parameter of the call. -/
def FirstClash (args : Arguments) (keyword : String) : Prop :=
  (keyword = "self" ∨ keyword = "query") ∧
    ∃ front v back, args.keyword = front ++ (keyword, v) :: back ∧
      ∀ entry ∈ front, entry.1 ≠ "self" ∧ entry.1 ≠ "query"

def clash? (args : Arguments) : Option String :=
  (args.keyword.find? fun entry => Runner.boundKeywords.contains entry.1).map Prod.fst

theorem boundKeywords_contains_iff {keyword : String} :
    Runner.boundKeywords.contains keyword = true ↔ keyword = "self" ∨ keyword = "query" := by
  simp [Runner.boundKeywords]

theorem boundKeywords_contains_eq_false_iff {keyword : String} :
    Runner.boundKeywords.contains keyword = false ↔ keyword ≠ "self" ∧ keyword ≠ "query" := by
  rw [← Bool.not_eq_true, boundKeywords_contains_iff, not_or]

theorem clash?_eq_none_iff {args : Arguments} : args.clash? = none ↔ args.ClashFree := by
  rw [clash?, Option.map_eq_none_iff, List.find?_eq_none]
  simp only [Bool.not_eq_true, boundKeywords_contains_eq_false_iff]
  exact Iff.rfl

theorem clash?_eq_some_iff {args : Arguments} {keyword : String} :
    args.clash? = some keyword ↔ args.FirstClash keyword := by
  rw [clash?, Option.map_eq_some_iff]
  simp only [List.find?_eq_some_iff_append, Bool.not_eq_true',
    boundKeywords_contains_eq_false_iff, boundKeywords_contains_iff]
  constructor
  · rintro ⟨⟨_, v⟩, ⟨hbound, front, back, hkeyword, hfront⟩, rfl⟩
    exact ⟨hbound, front, v, back, hkeyword, hfront⟩
  · rintro ⟨hbound, front, v, back, hkeyword, hfront⟩
    exact ⟨(keyword, v), ⟨hbound, front, back, hkeyword, hfront⟩, rfl⟩

end Arguments

namespace Runner

variable {r : Runner} {q : Query} {args : Arguments}

theorem call_eq (r : Runner) (q : Query) (args : Arguments) :
    r.call q args =
      match args.clash? with
      | some keyword => .refused (.boundKeyword keyword)
      | none => r.execute q args := by
  unfold call Arguments.clash?
  cases args.keyword.find? fun entry => boundKeywords.contains entry.1 <;> rfl

theorem call_of_clashFree (hfree : args.ClashFree) : r.call q args = r.execute q args := by
  rw [call_eq, Arguments.clash?_eq_none_iff.mpr hfree]

theorem call_of_firstClash {keyword : String} (hclash : args.FirstClash keyword) :
    r.call q args = .refused (.boundKeyword keyword) := by
  rw [call_eq, Arguments.clash?_eq_some_iff.mpr hclash]

/-- No execution is refused for a keyword. -/
theorem execute_ne_boundKeyword (r : Runner) (q : Query) (args : Arguments) (keyword : String) :
    r.execute q args ≠ .refused (.boundKeyword keyword) := by
  intro hsame
  rcases r.refuses_or_sends q args with ⟨e, hrefuses⟩ | ⟨call, hsends⟩
  · have houtcome := (execute_of_refuses hrefuses).2
    rw [hsame] at houtcome
    obtain rfl : RunError.boundKeyword keyword = e := Except.error.inj houtcome
    cases hrefuses
  · have hcalls := execute_of_sends hsends
    rw [hsame] at hcalls
    cases hcalls

theorem call_eq_execute_iff : r.call q args = r.execute q args ↔ args.ClashFree := by
  refine ⟨?_, call_of_clashFree⟩
  intro hsame
  cases hclash : args.clash? with
  | none => exact Arguments.clash?_eq_none_iff.mp hclash
  | some keyword =>
      rw [call_of_firstClash (Arguments.clash?_eq_some_iff.mp hclash)] at hsame
      exact absurd hsame.symm (execute_ne_boundKeyword r q args keyword)

end Runner

namespace Session

theorem Entry.ofRun_injective : Function.Injective Entry.ofRun := by
  intro a b hsame
  obtain ⟨calls, notices, outcome⟩ := a
  obtain ⟨calls', notices', outcome'⟩ := b
  have hcalls : calls = calls' := congrArg Entry.calls hsame
  have hnotices : notices = notices' := congrArg Entry.notices hsame
  have houtcome := congrArg Entry.outcome hsame
  subst hcalls hnotices
  cases outcome <;> cases outcome' <;> simp_all [Entry.ofRun]

/-- A direct call and a call through the bound function agree with each other, and with an
execution exactly if no keyword argument is named like a parameter of the call.  Otherwise the
first keyword argument of that kind is the reason for a refusal that leaves no trace. -/
theorem call_agrees_iff
    {s : Session} {label : String} {id : Nat} {r : Runner}
    (hlabel : s.runnerId? label = some id) (hrunner : s.runner? id = some r)
    (q : Query) (args : Arguments) :
    let executed := (s.step (.execute label (.given q) args)).2
    let called := (s.step (.call label (.given q) args)).2
    let calledBound := ((s.step (.bind label (.given q))).1.step (.callBound q.name args)).2
    (called = executed ↔ args.ClashFree) ∧ (calledBound = executed ↔ args.ClashFree) ∧
      calledBound = called ∧
      ∀ keyword, args.FirstClash keyword →
        called.calls = [] ∧ called.notices = [] ∧
          called.outcome = .error (.run (.boundKeyword keyword)) := by
  have hexecuted : (s.step (.execute label (.given q) args)).2 = .ofRun (r.execute q args) := by
    simp only [step, locate, queryFor, hlabel, useRunner, hrunner]
  have hcalled : (s.step (.call label (.given q) args)).2 = .ofRun (r.call q args) := by
    simp only [step, locateCall, locate, queryFor, hlabel, useRunner, hrunner]
  have hbind : s.step (.bind label (.given q)) = (s.bindQuery id q, .ok (.bound q)) := by
    simp only [step, locate, queryFor, hlabel]
  have hbound :
      ((s.step (.bind label (.given q))).1.step (.callBound q.name args)).2 =
        .ofRun (r.call q args) := by
    have hlookup : (s.bindQuery id q).names.lookup q.name = some s.functions.length :=
      List.lookup_cons_self
    have hfunction : (s.bindQuery id q).functions[s.functions.length]? = some ⟨id, q⟩ :=
      List.getElem?_concat_length
    have hkept : (s.bindQuery id q).runner? id = some r := hrunner
    rw [hbind]
    simp only [step, hlookup, useFunction, hfunction, useRunner, hkept]
  intro executed called calledBound
  have hiff : called = executed ↔ args.ClashFree := by
    simp only [called, executed, hcalled, hexecuted, Entry.ofRun_injective.eq_iff]
    exact Runner.call_eq_execute_iff
  have hsame : calledBound = called := hbound.trans hcalled.symm
  refine ⟨hiff, hsame ▸ hiff, hsame, ?_⟩
  intro keyword hclash
  simp only [called, hcalled, Runner.call_of_firstClash hclash]
  exact ⟨rfl, rfl, rfl⟩

/-- Placeholders and keyword arguments with ordinary names. -/
theorem call_agrees_iff_ordinary :
    let r : Runner := { adapter := some (.echo "A") }
    let s : Session := { runners := [r] }
    let q : Query :=
      { name := "find"
        operation := .operation .select
        body := "select ?, :b"
        docs := ""
        params := [.positional, .named "b"] }
    let args : Arguments := { positional := [.int 1], keyword := [("b", .int 2)] }
    let executed := (s.step (.execute defaultLabel (.given q) args)).2
    let called := (s.step (.call defaultLabel (.given q) args)).2
    let calledBound :=
      ((s.step (.bind defaultLabel (.given q))).1.step (.callBound q.name args)).2
    s.runnerId? defaultLabel = some 0 ∧ s.runner? 0 = some r ∧
      (called = executed ↔ args.ClashFree) ∧ (calledBound = executed ↔ args.ClashFree) ∧
      calledBound = called ∧
      ∀ keyword, args.FirstClash keyword →
        called.calls = [] ∧ called.notices = [] ∧
          called.outcome = .error (.run (.boundKeyword keyword)) := by
  intro r s q args executed called calledBound
  exact ⟨rfl, rfl, call_agrees_iff rfl rfl q args⟩

/-- The value of a placeholder that is named like a parameter of the call can be handed to an
execution only. -/
theorem call_refuses_query_placeholder :
    let s : Session := { runners := [{ adapter := some (.echo "A") }] }
    let q : Query :=
      { name := "search"
        operation := .operation .select
        body := "select :query"
        docs := ""
        params := [.named "query"] }
    let args : Arguments := { keyword := [("query", .int 1)] }
    let executed := (s.step (.execute defaultLabel (.given q) args)).2
    let called := (s.step (.call defaultLabel (.given q) args)).2
    let calledBound :=
      ((s.step (.bind defaultLabel (.given q))).1.step (.callBound q.name args)).2
    executed.outcome = .ok (.value (.list [.int 1])) ∧
      called ≠ executed ∧ calledBound ≠ executed := by
  intro s q args executed called calledBound
  have hexecuted : executed.outcome = .ok (.value (.list [.int 1])) := rfl
  have hcalled : called.outcome = .error (.run (.boundKeyword "query")) := rfl
  have hbound : calledBound.outcome = .error (.run (.boundKeyword "query")) := rfl
  refine ⟨hexecuted, ?_, ?_⟩
  · intro hsame
    rw [hsame, hexecuted] at hcalled
    cases hcalled
  · intro hsame
    rw [hsame, hexecuted] at hbound
    cases hbound

end Session

end QueryBook
