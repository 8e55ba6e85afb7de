import QueryBook.Problem
import Mathlib.Tactic.Common

/-!
# Where the detail of a problem comes from

A problem can be given its detail by name or as the first of its arguments, and it is the same
problem either way.  Arguments that count as absent may stand anywhere, because they are passed
over before the first one is taken.  The detail that the kind of problem brings along is the
last resort: it is taken if no detail is given and every argument is absent, and has no
influence otherwise.
-/

namespace QueryBook

namespace Problem

/-- The second list has the arguments of the first one in their order, and absent ones anywhere
between them. -/
inductive Padded : List Value → List Value → Prop
  | nil : Padded [] []
  | keep {v : Value} {args args' : List Value} (hrest : Padded args args') :
      Padded (v :: args) (v :: args')
  | absent {v : Value} {args args' : List Value} (habsent : v.isPresent = false)
      (hrest : Padded args args') : Padded args (v :: args')

theorem wordsOf_cons_of_present {v : Value} (hpresent : v.isPresent = true)
    (args : List Value) :
    wordsOf (v :: args) = String.ofList v.plain :: wordsOf args := by
  rw [wordsOf, List.filter_cons_of_pos hpresent, List.map_cons, ← wordsOf]

theorem wordsOf_cons_of_absent {v : Value} (habsent : v.isPresent = false)
    (args : List Value) :
    wordsOf (v :: args) = wordsOf args := by
  rw [wordsOf, List.filter_cons_of_neg (by simp [habsent]), ← wordsOf]

theorem wordsOf_eq_nil_iff {args : List Value} :
    wordsOf args = [] ↔ ∀ v ∈ args, v.isPresent = false := by
  simp [wordsOf]

theorem Padded.wordsOf_eq {args args' : List Value} (hpadded : Padded args args') :
    wordsOf args' = wordsOf args := by
  induction hpadded with
  | nil => rfl
  | @keep v args args' _ ih =>
      cases hpresent : v.isPresent with
      | true => rw [wordsOf_cons_of_present hpresent, wordsOf_cons_of_present hpresent, ih]
      | false => rw [wordsOf_cons_of_absent hpresent, wordsOf_cons_of_absent hpresent, ih]
  | absent habsent _ ih => rw [wordsOf_cons_of_absent habsent, ih]

section

variable {label : String} {own : Option String} {args : List Value} {detail : String}

theorem ofArguments_congr {args' : List Value} (hwords : wordsOf args' = wordsOf args) :
    ofArguments label own args' detail = ofArguments label own args detail := by
  rw [ofArguments, ofArguments, hwords]

theorem ofArguments_of_given (hgiven : detail ≠ "") :
    ofArguments label own args detail = ⟨label, wordsOf args, detail⟩ := by
  rw [ofArguments, if_pos hgiven]

theorem ofArguments_of_words {first : String} {rest : List String}
    (hwords : wordsOf args = first :: rest) :
    ofArguments label own args "" = ⟨label, rest, first⟩ := by
  simp [ofArguments, hwords]

theorem ofArguments_of_no_words (hwords : wordsOf args = []) :
    ofArguments label own args "" = ⟨label, [], own.getD ""⟩ := by
  simp [ofArguments, hwords]

end

/-- The detail that a kind of problem has of its own becomes the detail of the problem. -/
def TakesOwn (args : List Value) (detail : String) : Prop :=
  ∀ label own, ofArguments label (some own) args detail = ⟨label, [], own⟩

/-- The detail that a kind of problem has of its own, if any, does not matter. -/
def IgnoresOwn (args : List Value) (detail : String) : Prop :=
  ∀ label own own', ofArguments label own args detail = ofArguments label own' args detail

def Unsaid (args : List Value) (detail : String) : Prop :=
  detail = "" ∧ ∀ v ∈ args, v.isPresent = false

variable {args : List Value} {detail : String}

theorem takesOwn_of_unsaid (hunsaid : Unsaid args detail) : TakesOwn args detail := by
  obtain ⟨rfl, habsent⟩ := hunsaid
  intro label own
  rw [ofArguments_of_no_words (wordsOf_eq_nil_iff.mpr habsent), Option.getD_some]

theorem ignoresOwn_of_said (hsaid : ¬Unsaid args detail) : IgnoresOwn args detail := by
  intro label own own'
  by_cases hgiven : detail = ""
  · subst hgiven
    obtain ⟨first, rest, hwords⟩ : ∃ first rest, wordsOf args = first :: rest := by
      apply List.exists_cons_of_ne_nil
      rw [ne_eq, wordsOf_eq_nil_iff]
      exact fun habsent => hsaid ⟨rfl, habsent⟩
    rw [ofArguments_of_words hwords, ofArguments_of_words hwords]
  · rw [ofArguments_of_given hgiven, ofArguments_of_given hgiven]

theorem TakesOwn.not_ignoresOwn (htakes : TakesOwn args detail) : ¬IgnoresOwn args detail := by
  intro hignores
  have hsame := hignores "" (some "") (some "detail")
  rw [htakes, htakes] at hsame
  exact absurd hsame (by decide)

namespace Kind

variable {kind : Kind} (hgeneral : kind.parameter? = none)
include hgeneral

theorem handedOn_of_general (args : List Value) : kind.handedOn args = args := by
  cases kind with
  | general | improperConfiguration | missingParameter => rfl
  | invalidName | duplicateName | noAdapter | unsupportedOperation => cases hgeneral

/-- Kinds that put no sentence of their own together keep the general way of being made. -/
theorem make?_of_general (args : List Value) (detail custom : Option String) :
    kind.make? args detail custom =
      .ok (ofArguments (if custom.isSome then "Custom" else kind.label) custom args
        (detail.getD "")) := by
  have hrefusal : kind.refusal? args.length detail.isSome = none := by
    rw [refusal?, hgeneral]
  rw [make?, hrefusal, make, handedOn_of_general hgeneral]

end Kind

/-- A detail given by name and one given as the first argument make the same problem, for every
label and with or without a detail that the kind brings along.  Absent arguments change nothing.
The kind's own detail is taken if nothing else says anything, and is ignored otherwise. -/
theorem ofArguments_either_way (label : String) (own : Option String) :
    (∀ x rest, x.isPresent = true → x.plain ≠ [] →
        ofArguments label own (x :: rest) "" =
            ⟨label, wordsOf rest, String.ofList x.plain⟩ ∧
          ofArguments label own rest (String.ofList x.plain) =
            ⟨label, wordsOf rest, String.ofList x.plain⟩) ∧
      (∀ args args' detail, Padded args args' →
        ofArguments label own args' detail = ofArguments label own args detail) ∧
      (∀ args detail, (TakesOwn args detail ↔ Unsaid args detail) ∧
        (IgnoresOwn args detail ↔ ¬Unsaid args detail)) ∧
      ∀ kind : Kind, kind.parameter? = none → ∀ args detail custom,
        kind.make? args detail custom =
          .ok (ofArguments (if custom.isSome then "Custom" else kind.label) custom args
            (detail.getD "")) := by
  refine ⟨?_, ?_, ?_, fun kind hgeneral => Kind.make?_of_general hgeneral⟩
  · intro x rest hpresent hplain
    refine ⟨ofArguments_of_words (wordsOf_cons_of_present hpresent rest), ?_⟩
    exact ofArguments_of_given (by simpa using hplain)
  · intro args args' detail hpadded
    exact ofArguments_congr hpadded.wordsOf_eq
  · intro args detail
    refine ⟨⟨fun htakes => ?_, takesOwn_of_unsaid⟩, ?_, ignoresOwn_of_said⟩
    · by_contra hsaid
      exact htakes.not_ignoresOwn (ignoresOwn_of_said hsaid)
    · exact fun hignores hunsaid => (takesOwn_of_unsaid hunsaid).not_ignoresOwn hignores

/-- Absent arguments stand in front of the detail, between the words and behind them, and the
kind has a detail of its own that is not asked for. -/
theorem ofArguments_either_way_scattered :
    (Value.text "gone").isPresent = true ∧ (Value.text "gone").plain ≠ [] ∧
      Padded [.text "gone", .text "extra"]
        [.int 0, .text "gone", .list [], .text "extra", .null] ∧
      Padded [.text "extra"] [.null, .text "extra"] ∧
      Kind.missingParameter.parameter? = none ∧
      Kind.missingParameter.make? [.int 0, .text "gone", .list [], .text "extra", .null] none
          (some "own") = .ok ⟨"Custom", ["extra"], "gone"⟩ ∧
      Kind.missingParameter.make? [.null, .text "extra"] (some "gone") (some "own") =
        .ok ⟨"Custom", ["extra"], "gone"⟩ := by
  have hpresent : (Value.text "gone").isPresent = true := by
    decide
  have hplain : (Value.text "gone").plain ≠ [] := by
    decide
  have hlong : Padded [.text "gone", .text "extra"]
      [.int 0, .text "gone", .list [], .text "extra", .null] :=
    .absent rfl (.keep (.absent rfl (.keep (.absent rfl .nil))))
  have hshort : Padded [.text "extra"] [.null, .text "extra"] :=
    .absent rfl (.keep .nil)
  have hgeneral : Kind.missingParameter.parameter? = none := rfl
  obtain ⟨heither, hpadded, -, hmake⟩ := ofArguments_either_way "Custom" (some "own")
  obtain ⟨hfirst, hnamed⟩ := heither _ [.text "extra"] hpresent hplain
  refine ⟨hpresent, hplain, hlong, hshort, hgeneral, ?_, ?_⟩
  · rw [hmake .missingParameter hgeneral]
    exact congrArg Except.ok ((hpadded _ _ "" hlong).trans hfirst)
  · rw [hmake .missingParameter hgeneral]
    exact congrArg Except.ok ((hpadded _ _ "gone" hshort).trans hnamed)

end Problem

end QueryBook
