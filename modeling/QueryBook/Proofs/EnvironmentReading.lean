import QueryBook.Environment
import QueryBook.Proofs.LetterCase

/-!
# Options read from the environment

A policy is named by its label, whatever the case of its ASCII letters and whatever white space
is around it.  A switch is on for any of its words in the same sense, but only without white
space around it: a padded word turns the switch off.  So environments that differ in case and
in white space around their values are read alike, except for switches with a word that is
padded in one of them and not in the other.
-/

namespace QueryBook

namespace Text

/-- The same but for the case of ASCII letters and the white space around it. -/
def LooselySame (s t : String) : Prop :=
  (trim s.toList).map Char.toLower = (trim t.toList).map Char.toLower

instance (s t : String) : Decidable (LooselySame s t) :=
  inferInstanceAs (Decidable (_ = _))

variable {s t word : String}

theorem Keyword.looselySame_iff (hword : Keyword word.toList) :
    LooselySame s word ↔ (trim s.toList).map Char.toLower = word.toList := by
  rw [LooselySame, hword.trimmed.trim_eq, hword.map_toLower]

theorem Keyword.trim_lower_eq_iff (hword : Keyword word.toList) :
    trim (lower s.toList) = word.toList ↔ LooselySame s word := by
  rw [trim_lower, hword.lower_eq_iff, hword.looselySame_iff]

theorem Keyword.lower_eq_iff_looselySame (hword : Keyword word.toList) :
    lower s.toList = word.toList ↔ Trimmed s.toList ∧ LooselySame s word := by
  rw [← hword.trim_lower_eq_iff]
  constructor
  · intro hlower
    have htrimmed := trimmed_of_trimmed_lower (hlower ▸ hword.trimmed)
    exact ⟨htrimmed, by rw [hlower, hword.trimmed.trim_eq]⟩
  · rintro ⟨htrimmed, htrim⟩
    rwa [htrimmed.lower.trim_eq] at htrim

theorem LooselySame.lower_trim_eq (hsame : LooselySame s t) :
    trim (lower s.toList) = trim (lower t.toList) := by
  rw [trim_lower, trim_lower, lower_congr hsame]

end Text

theorem DuplicatePolicy.keyword_label (p : DuplicatePolicy) : Text.Keyword p.label.toList := by
  cases p <;> decide

theorem DuplicatePolicy.ofValue?_text_eq_some_iff {s : String} {p : DuplicatePolicy} :
    ofValue? (.text s) = some p ↔ s = p.label := by
  simp only [ofValue?]
  split
  · next hlabel => cases p <;> simp [hlabel, label]
  · split
    · next hlabel => cases p <;> simp [hlabel, label]
    · next hoverwrite herror => cases p <;> simp [hoverwrite, herror]

namespace Environment

open Text

/-! ## Policies and switches -/

theorem keyword_of_mem_onWords : ∀ word ∈ onWords, Keyword word.toList := by
  decide

/-- No policy is given, or one by its label. -/
def NamesPolicy (given : Option String) : Prop :=
  ∀ s ∈ given, ∃ p : DuplicatePolicy, LooselySame s p.label

def NamesWord (s : String) : Prop :=
  ∃ word ∈ onWords, LooselySame s word

instance (s : String) : Decidable (NamesWord s) :=
  inferInstanceAs (Decidable (∃ word ∈ onWords, _))

/-- Where a switch is given a word in both environments, there is white space around both words
or around neither. -/
def PaddedAlike (given given' : Option String) : Prop :=
  ∀ s ∈ given, ∀ s' ∈ given', NamesWord s → (Trimmed s.toList ↔ Trimmed s'.toList)

variable {given given' : Option String}

theorem namesPolicy_iff :
    NamesPolicy given ↔ ∃ p, DuplicatePolicy.ofValue? (.text (policy given)) = some p := by
  simp only [DuplicatePolicy.ofValue?_text_eq_some_iff]
  cases given with
  | none =>
      have hdefault : policy none = DuplicatePolicy.overwrite.label := by
        decide +kernel
      simpa [NamesPolicy] using ⟨DuplicatePolicy.overwrite, hdefault⟩
  | some s =>
      simp only [NamesPolicy, Option.mem_some_iff, forall_eq']
      refine exists_congr fun p => ?_
      rw [← p.keyword_label.trim_lower_eq_iff, policy, Option.getD_some, ← String.toList_inj,
        String.toList_ofList]

theorem policy_eq_of_looselySame (hsame : Option.Rel LooselySame given given') :
    policy given = policy given' := by
  cases hsame with
  | none => rfl
  | some hsame => rw [policy, policy, Option.getD_some, Option.getD_some, hsame.lower_trim_eq]

theorem switch_eq_true_iff {s : String} (default : Bool) :
    switch default (some s) = true ↔ Trimmed s.toList ∧ NamesWord s := by
  simp only [switch, List.contains_iff_mem]
  constructor
  · intro hmem
    have hword := keyword_of_mem_onWords _ hmem
    obtain ⟨htrimmed, hsame⟩ :=
      hword.lower_eq_iff_looselySame.mp (String.toList_ofList ..).symm
    exact ⟨htrimmed, _, hmem, hsame⟩
  · rintro ⟨htrimmed, word, hmem, hsame⟩
    have hword := keyword_of_mem_onWords word hmem
    rw [hword.lower_eq_iff_looselySame.mpr ⟨htrimmed, hsame⟩, String.ofList_toList]
    exact hmem

theorem namesWord_congr {s s' : String} (hsame : LooselySame s s') :
    NamesWord s ↔ NamesWord s' :=
  exists_congr fun _ => and_congr_right fun _ =>
    ⟨fun hword => hsame.symm.trans hword, fun hword => hsame.trans hword⟩

theorem switch_eq_iff (hsame : Option.Rel LooselySame given given') (default : Bool) :
    switch default given = switch default given' ↔ PaddedAlike given given' := by
  cases hsame with
  | none => simp [PaddedAlike]
  | @some s s' hsame =>
      simp only [PaddedAlike, Option.mem_some_iff, forall_eq']
      rw [Bool.eq_iff_iff, switch_eq_true_iff, switch_eq_true_iff, ← namesWord_congr hsame]
      exact and_congr_left_iff

/-! ## Reading an environment -/

theorem load_of_policy {env : Environment} {p : DuplicatePolicy}
    (hpolicy : DuplicatePolicy.ofValue? (.text (policy env.onDuplicate)) = some p) :
    env.load =
      ⟨[.loaded ⟨p, switch true env.warnNonAscii⟩ ⟨switch true env.strictParameters⟩],
        .ok (⟨p, switch true env.warnNonAscii⟩, ⟨switch true env.strictParameters⟩)⟩ := by
  simp [load, options, CompileOptions.ofValues, CompileOptions.replace, hpolicy]

theorem load_of_no_policy {env : Environment}
    (hpolicy : DuplicatePolicy.ofValue? (.text (policy env.onDuplicate)) = none) :
    env.load = ⟨[], .error (.unknownPolicy (.text (policy env.onDuplicate)))⟩ := by
  simp [load, options, CompileOptions.ofValues, CompileOptions.replace, hpolicy]

/-- The same variables are given, with values that are the same but for the case of ASCII
letters and the white space around them. -/
structure LooselySame (env env' : Environment) : Prop where
  onDuplicate : Option.Rel Text.LooselySame env.onDuplicate env'.onDuplicate
  warnNonAscii : Option.Rel Text.LooselySame env.warnNonAscii env'.warnNonAscii
  strictParameters : Option.Rel Text.LooselySame env.strictParameters env'.strictParameters

/-- Both environments are refused, or both give the same options. -/
inductive Agree : (outcome outcome' : Except OptionError (CompileOptions × RunOptions)) → Prop
  | refused (e e' : OptionError) : Agree (.error e) (.error e')
  | read (options : CompileOptions × RunOptions) : Agree (.ok options) (.ok options)

theorem agree_ok_iff {options options' : CompileOptions × RunOptions} :
    Agree (.ok options) (.ok options') ↔ options = options' := by
  constructor
  · rintro ⟨⟩
    rfl
  · rintro rfl
    exact .read options

/-- Environments that are the same but for case and padding are read alike exactly if their
policy is refused or each of their switches is padded alike.  Then nothing at all tells them
apart, their errors and notices included.  Otherwise a switch is on in one of them only, as a
padded word turns it off. -/
theorem load_agree_iff {env env' : Environment} (hsame : env.LooselySame env') :
    (Agree env.load.outcome env'.load.outcome ↔
        (NamesPolicy env.onDuplicate →
          PaddedAlike env.warnNonAscii env'.warnNonAscii ∧
            PaddedAlike env.strictParameters env'.strictParameters)) ∧
      (Agree env.load.outcome env'.load.outcome → env.load = env'.load) ∧
      ∀ default s, switch default (some s) = true ↔ Trimmed s.toList ∧ NamesWord s := by
  have hpolicy := policy_eq_of_looselySame hsame.onDuplicate
  have hwarn := switch_eq_iff hsame.warnNonAscii true
  have hstrict := switch_eq_iff hsame.strictParameters true
  rw [← and_assoc, ← hwarn, ← hstrict, namesPolicy_iff]
  refine ⟨?_, fun default s => switch_eq_true_iff default⟩
  cases hgiven : DuplicatePolicy.ofValue? (.text (policy env.onDuplicate)) with
  | none =>
      have hgiven' := hpolicy ▸ hgiven
      rw [load_of_no_policy hgiven, load_of_no_policy hgiven', hpolicy]
      simpa using Agree.refused _ _
  | some p =>
      have hgiven' := hpolicy ▸ hgiven
      rw [load_of_policy hgiven, load_of_policy hgiven', agree_ok_iff]
      simp

/-- The words of an environment, shouted in the other one. -/
theorem load_agree_shouted :
    let env : Environment := ⟨some "error", some "no", some "on"⟩
    let shouted : Environment := ⟨some "\tERROR ", some " nO\n", some "ON"⟩
    env.LooselySame shouted ∧ Agree env.load.outcome shouted.load.outcome ∧
      env.load = shouted.load := by
  have hsame : LooselySame ⟨some "error", some "no", some "on"⟩
      ⟨some "\tERROR ", some " nO\n", some "ON"⟩ :=
    ⟨.some (by decide +kernel), .some (by decide +kernel), .some (by decide +kernel)⟩
  obtain ⟨hagree, hload, -⟩ := load_agree_iff hsame
  have hwarn : PaddedAlike (some "no") (some " nO\n") := by
    rintro _ ⟨⟩ _ ⟨⟩ hword
    exact absurd hword (by decide +kernel)
  have hstrict : PaddedAlike (some "on") (some "ON") := by
    rintro _ ⟨⟩ _ ⟨⟩ -
    decide +kernel
  have halike := hagree.mpr fun _ => ⟨hwarn, hstrict⟩
  exact ⟨hsame, halike, hload halike⟩

/-- White space around the word of a switch turns it off. -/
theorem padded_switch_not_agree :
    let env : Environment := { strictParameters := some "true" }
    let padded : Environment := { strictParameters := some " true " }
    env.LooselySame padded ∧ ¬Agree env.load.outcome padded.load.outcome := by
  intro env padded
  have hsame : env.LooselySame padded := ⟨.none, .none, .some (by decide +kernel)⟩
  have hpolicy : DuplicatePolicy.ofValue? (.text (policy env.onDuplicate)) = some .overwrite := by
    decide +kernel
  have hswitches : switch true env.strictParameters ≠ switch true padded.strictParameters := by
    decide +kernel
  have hpolicy' : DuplicatePolicy.ofValue? (.text (policy padded.onDuplicate)) = some .overwrite :=
    hpolicy
  refine ⟨hsame, fun hagree => ?_⟩
  rw [load_of_policy hpolicy, load_of_policy hpolicy', agree_ok_iff] at hagree
  exact hswitches (congrArg (·.2.strict) hagree)

end Environment

end QueryBook
