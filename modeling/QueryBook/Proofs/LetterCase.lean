import QueryBook.Text.Case
import QueryBook.Proofs.CharacterClasses
import QueryBook.Proofs.Trimming
import Mathlib

/-!
# Small letters

The small letters of a text do not depend on the case of its ASCII letters, nor on the white
space around it, although a capital sigma looks at its neighbours: white space neither has a
case nor is looked through, so it stands for the end of the text.  Only one character beyond
ASCII has a small form in ASCII, the Kelvin sign.  A word without a `k` is therefore read from
its own letters and from no others.
-/

namespace QueryBook.Text

/-! ## Single characters -/

/-- What holds of the ASCII letters of both cases holds of all characters, since the others are
kept as they are. -/
theorem apply_toLower {α : Type} (f : Char → α)
    (hascii : ∀ n < 0x80, f (Char.ofNat n).toLower = f (Char.ofNat n)) (c : Char) :
    f c.toLower = f c := by
  by_cases hbound : c.toNat < 0x80
  · have hc := hascii c.toNat hbound
    rwa [Char.ofNat_toNat] at hc
  · have hlower : ¬c.isUpper = true := by
      intro hupper
      have halphanum : c.isAlphanum = true := by
        simp [Char.isAlphanum, Char.isAlpha, hupper]
      have := le_of_isAlphanum halphanum
      omega
    rw [Char.toLower_eq_of_not_isUpper hlower]

theorem isCased_toLower (c : Char) : isCased c.toLower = isCased c :=
  apply_toLower isCased (by decide +kernel) c

theorem isCaseNeutral_toLower (c : Char) : isCaseNeutral c.toLower = isCaseNeutral c :=
  apply_toLower isCaseNeutral (by decide +kernel) c

theorem lowerChar_toLower (c : Char) : lowerChar c.toLower = lowerChar c :=
  apply_toLower lowerChar (by decide +kernel) c

theorem toLower_toNat_eq_sigma_iff (c : Char) : c.toLower.toNat = 0x3A3 ↔ c.toNat = 0x3A3 := by
  have hsame := apply_toLower (fun c => decide (c.toNat = 0x3A3)) (by decide +kernel) c
  simpa using hsame

theorem lowerChar_of_ascii {c : Char} (hascii : c.toNat < 0x80) : lowerChar c = [c.toLower] := by
  have htable : ∀ n < 0x80, lowerChar (Char.ofNat n) = [(Char.ofNat n).toLower] := by
    decide +kernel
  have hc := htable c.toNat hascii
  rwa [Char.ofNat_toNat] at hc

/-- White space has no case, is not looked through and is its own small form. -/
theorem caseless_of_isSpace {c : Char} (hspace : isSpace c = true) :
    c.toNat ≠ 0x3A3 ∧ isCaseNeutral c = false ∧ isCased c = false ∧ lowerChar c = [c] := by
  have htable : ∀ n ∈ spaceRanges.codePoints,
      n ≠ 0x3A3 ∧ caseNeutralRanges.covers n = false ∧ casedRanges.covers n = false ∧
        n ≠ 0x130 ∧ CaseRun.image lowerRuns n = n := by
    decide +kernel
  obtain ⟨hsigma, hneutral, hcased, hdotted, himage⟩ := htable _ (Ranges.mem_codePoints hspace)
  refine ⟨hsigma, hneutral, hcased, ?_⟩
  rw [lowerChar, if_neg hdotted, himage, Char.ofNat_toNat]

theorem CaseRun.image_cases (runs : List CaseRun) (n : Nat) :
    image runs n = n ∨
      ∃ run ∈ runs, run.first ≤ n ∧ n ≤ run.last ∧ image runs n = run.target + (n - run.first) := by
  induction runs with
  | nil => exact .inl rfl
  | cons run rest ih =>
      rw [image]
      split
      · exact .inl rfl
      · next hfirst =>
        split
        · next hlast =>
          exact .inr ⟨run, List.mem_cons_self, by omega, hlast.1, rfl⟩
        · refine ih.imp_right ?_
          rintro ⟨run', hrun, hrest⟩
          exact ⟨run', List.mem_cons_of_mem _ hrun, hrest⟩

/-- What a run of small letters leads to: characters, none of them a space, and none in ASCII
but for runs within ASCII and the Kelvin sign. -/
structure CaseRun.Sound (run : CaseRun) : Prop where
  valid : run.target + (run.last - run.first) < 0xD800 ∨
    0xDFFF < run.target ∧ run.target + (run.last - run.first) < 0x110000
  visible : ∀ n ∈ spaceRanges.codePoints,
    n < run.target ∨ run.target + (run.last - run.first) < n
  beyond : run.last < 0x80 ∨ 0x80 ≤ run.target ∨ run.first = run.last ∧ run.target = 0x6B

instance (run : CaseRun) : Decidable run.Sound :=
  decidable_of_iff
    ((run.target + (run.last - run.first) < 0xD800 ∨
        0xDFFF < run.target ∧ run.target + (run.last - run.first) < 0x110000) ∧
      (∀ n ∈ spaceRanges.codePoints,
        n < run.target ∨ run.target + (run.last - run.first) < n) ∧
      (run.last < 0x80 ∨ 0x80 ≤ run.target ∨ run.first = run.last ∧ run.target = 0x6B))
    ⟨fun h => ⟨h.1, h.2.1, h.2.2⟩, fun h => ⟨h.valid, h.visible, h.beyond⟩⟩

theorem sound_of_mem_lowerRuns : ∀ run ∈ lowerRuns, run.Sound := by
  decide +kernel

/-- A character in a run of small letters. -/
theorem CaseRun.Sound.toNat_image {run : CaseRun} (hsound : run.Sound) {n : Nat}
    (hlast : n ≤ run.last) :
    (Char.ofNat (run.target + (n - run.first))).toNat = run.target + (n - run.first) := by
  have hvalid := hsound.valid
  rw [Char.toNat_ofNat, if_pos]
  simp only [Nat.isValidChar]
  omega

theorem lowerChar_cases (c : Char) :
    lowerChar c = [c] ∨ lowerChar c = ['i', Char.ofNat 0x307] ∨
      ∃ run ∈ lowerRuns, run.first ≤ c.toNat ∧ c.toNat ≤ run.last ∧
        lowerChar c = [Char.ofNat (run.target + (c.toNat - run.first))] := by
  rw [lowerChar]
  split
  · exact .inr (.inl rfl)
  · obtain himage | ⟨run, hrun, hfirst, hlast, himage⟩ := CaseRun.image_cases lowerRuns c.toNat
    · rw [himage, Char.ofNat_toNat]
      exact .inl rfl
    · rw [himage]
      exact .inr (.inr ⟨run, hrun, hfirst, hlast, rfl⟩)

/-- What a character can become.  Only the capital sigma has a choice. -/
inductive SmallForm : Char → List Char → Prop
  | usual (c : Char) : SmallForm c (lowerChar c)
  | final : SmallForm 'Σ' ['ς']

namespace SmallForm

variable {c : Char} {small : List Char} (hsmall : SmallForm c small)
include hsmall

theorem ne_nil : small ≠ [] := by
  cases hsmall with
  | usual =>
      obtain hkeep | hdotted | ⟨run, -, -, -, himage⟩ := lowerChar_cases c
      · simp [hkeep]
      · simp [hdotted]
      · simp [himage]
  | final => simp

theorem not_isSpace (hspace : isSpace c = false) : ∀ d ∈ small, isSpace d = false := by
  cases hsmall with
  | usual =>
      obtain hkeep | hdotted | ⟨run, hrun, -, hlast, himage⟩ := lowerChar_cases c
      · simpa [hkeep] using hspace
      · rw [hdotted, List.forall_mem_cons, List.forall_mem_singleton]
        exact ⟨by decide, by decide⟩
      · have hsound := sound_of_mem_lowerRuns run hrun
        have hnat := hsound.toNat_image hlast
        rw [himage, List.forall_mem_singleton, ← Bool.not_eq_true]
        intro himageSpace
        have hvisible := hsound.visible _ (Ranges.mem_codePoints himageSpace)
        omega
  | final =>
      rw [List.forall_mem_singleton]
      decide

/-- A character beyond ASCII leaves something beyond ASCII behind, or is the Kelvin sign. -/
theorem exists_beyond (hbeyond : 0x80 ≤ c.toNat) : ∃ d ∈ small, 0x80 ≤ d.toNat ∨ d = 'k' := by
  cases hsmall with
  | usual =>
      obtain hkeep | hdotted | ⟨run, hrun, hfirst, hlast, himage⟩ := lowerChar_cases c
      · exact ⟨c, by simp [hkeep], .inl hbeyond⟩
      · exact ⟨Char.ofNat 0x307, by simp [hdotted], .inl (by decide)⟩
      · have hsound := sound_of_mem_lowerRuns run hrun
        refine ⟨_, himage ▸ List.mem_singleton_self _, ?_⟩
        obtain hlow | hhigh | ⟨hsingle, hkelvin⟩ := hsound.beyond
        · omega
        · left
          rw [hsound.toNat_image hlast]
          omega
        · right
          have hplace : run.target + (c.toNat - run.first) = 0x6B := by
            omega
          rw [hplace]
  | final => exact ⟨'ς', by simp, .inl (by decide)⟩

end SmallForm

/-! ## Texts -/

theorem exists_smallForm_append (afterCased : Bool) (c : Char) (rest : List Char) :
    ∃ small afterCased', SmallForm c small ∧
      lowerFrom afterCased (c :: rest) = small ++ lowerFrom afterCased' rest := by
  rw [lowerFrom]
  refine ⟨_, _, ?_, rfl⟩
  split
  · next hsigma =>
    obtain rfl : c = 'Σ' := by
      rw [← Char.ofNat_toNat c, hsigma]
    split
    · exact .final
    · have husual : lowerChar 'Σ' = ['σ'] := by
        decide +kernel
      exact husual ▸ .usual 'Σ'
  · exact .usual c

/-- The small letters of a text are put together from small forms of its characters. -/
theorem exists_smallForms (afterCased : Bool) (cs : List Char) :
    ∃ smalls, List.Forall₂ SmallForm cs smalls ∧ lowerFrom afterCased cs = smalls.flatten := by
  induction cs generalizing afterCased with
  | nil => exact ⟨[], .nil, rfl⟩
  | cons c rest ih =>
      obtain ⟨small, afterCased', hsmall, hlower⟩ := exists_smallForm_append afterCased c rest
      obtain ⟨smalls, hsmalls, hrest⟩ := ih afterCased'
      exact ⟨small :: smalls, .cons hsmall hsmalls, by rw [hlower, hrest, List.flatten_cons]⟩

theorem beginsCased_cons (c : Char) (rest : List Char) :
    beginsCased (c :: rest) = if isCaseNeutral c then beginsCased rest else isCased c := by
  cases hneutral : isCaseNeutral c <;> simp [beginsCased, hneutral]

theorem beginsCased_map_toLower (cs : List Char) :
    beginsCased (cs.map Char.toLower) = beginsCased cs := by
  induction cs with
  | nil => rfl
  | cons c rest ih =>
      rw [List.map_cons, beginsCased_cons, beginsCased_cons, ih, isCased_toLower,
        isCaseNeutral_toLower]

theorem lowerFrom_map_toLower (afterCased : Bool) (cs : List Char) :
    lowerFrom afterCased (cs.map Char.toLower) = lowerFrom afterCased cs := by
  induction cs generalizing afterCased with
  | nil => rfl
  | cons c rest ih =>
      rw [List.map_cons, lowerFrom, lowerFrom, ih, isCased_toLower, isCaseNeutral_toLower,
        lowerChar_toLower, beginsCased_map_toLower]
      simp only [toLower_toNat_eq_sigma_iff]

/-- Texts that differ in the case of ASCII letters only have the same small letters. -/
theorem lower_congr {cs ds : List Char} (hsame : cs.map Char.toLower = ds.map Char.toLower) :
    lower cs = lower ds := by
  rw [lower, lower, ← lowerFrom_map_toLower, hsame, lowerFrom_map_toLower]

theorem beginsCased_append_of_isBlank {blank : List Char} (hblank : isBlank blank = true)
    (cs : List Char) : beginsCased (cs ++ blank) = beginsCased cs := by
  induction cs with
  | nil =>
      cases blank with
      | nil => rfl
      | cons c rest =>
          rw [isBlank, List.all_cons, Bool.and_eq_true] at hblank
          obtain ⟨-, hneutral, hcased, -⟩ := caseless_of_isSpace hblank.1
          rw [List.nil_append, beginsCased_cons, hneutral, hcased]
          rfl
  | cons c rest ih => rw [List.cons_append, beginsCased_cons, beginsCased_cons, ih]

theorem lowerFrom_cons_of_isSpace {c : Char} (hspace : isSpace c = true) (afterCased : Bool)
    (rest : List Char) :
    lowerFrom afterCased (c :: rest) = c :: lowerFrom false rest := by
  obtain ⟨hsigma, hneutral, hcased, hlower⟩ := caseless_of_isSpace hspace
  simp [lowerFrom, hsigma, hneutral, hcased, hlower]

theorem lowerFrom_append_of_isBlank {blank : List Char} (hblank : isBlank blank = true)
    (afterCased : Bool) (cs : List Char) :
    lowerFrom afterCased (cs ++ blank) = lowerFrom afterCased cs ++ blank := by
  induction cs generalizing afterCased with
  | nil =>
      induction blank generalizing afterCased with
      | nil => rfl
      | cons c rest ih =>
          rw [isBlank, List.all_cons, Bool.and_eq_true] at hblank
          have hrest := ih hblank.2 false
          rw [List.nil_append] at hrest
          rw [List.nil_append, lowerFrom_cons_of_isSpace hblank.1, hrest]
          rfl
  | cons c rest ih =>
      rw [List.cons_append, lowerFrom, lowerFrom, ih, beginsCased_append_of_isBlank hblank,
        List.append_assoc]

/-- White space around a text stays as it is, and what lies between it does not see it. -/
theorem lower_padded {front back : List Char} (hfront : isBlank front = true)
    (hback : isBlank back = true) (cs : List Char) :
    lower (front ++ (cs ++ back)) = front ++ (lower cs ++ back) := by
  induction front with
  | nil => exact lowerFrom_append_of_isBlank hback false cs
  | cons c front ih =>
      rw [isBlank, List.all_cons, Bool.and_eq_true] at hfront
      rw [List.cons_append, lower, lowerFrom_cons_of_isSpace hfront.1, ← lower, ih hfront.2]
      rfl

theorem head_lower {cs : List Char} {d : Char} (hd : d ∈ (lower cs).head?) :
    ∃ c ∈ cs.head?, ∃ small, SmallForm c small ∧ d ∈ small := by
  obtain ⟨smalls, hsmalls, hlower⟩ := exists_smallForms false cs
  rw [lower, hlower] at hd
  cases hsmalls with
  | nil => simp at hd
  | @cons c small cs smalls hsmall _ =>
      rw [List.flatten_cons, List.head?_append_of_ne_nil _ hsmall.ne_nil] at hd
      exact ⟨c, rfl, small, hsmall, List.mem_of_mem_head? hd⟩

theorem last_lower {cs : List Char} {d : Char} (hd : d ∈ (lower cs).getLast?) :
    ∃ c ∈ cs.getLast?, ∃ small, SmallForm c small ∧ d ∈ small := by
  obtain ⟨smalls, hsmalls, hlower⟩ := exists_smallForms false cs
  rw [lower, hlower] at hd
  clear hlower
  induction hsmalls with
  | nil => simp at hd
  | @cons c small cs smalls hsmall hrest ih =>
      cases hrest with
      | nil =>
          rw [List.flatten_singleton] at hd
          exact ⟨c, rfl, small, hsmall, List.mem_of_mem_getLast? hd⟩
      | @cons c' small' cs smalls hsmall' hrest =>
          have hne : (small' :: smalls).flatten ≠ [] := by
            simp [hsmall'.ne_nil]
          rw [List.flatten_cons, List.getLast?_append_of_ne_nil _ hne] at hd
          rw [List.getLast?_cons_cons]
          exact ih hd

theorem Trimmed.lower {cs : List Char} (htrimmed : Trimmed cs) : Trimmed (lower cs) := by
  constructor
  · intro d hd
    obtain ⟨c, hc, small, hsmall, hmem⟩ := head_lower hd
    exact hsmall.not_isSpace (htrimmed.head c hc) d hmem
  · intro d hd
    obtain ⟨c, hc, small, hsmall, hmem⟩ := last_lower hd
    exact hsmall.not_isSpace (htrimmed.last c hc) d hmem

/-- Around its trimmed part a text is blank, and its small letters are blank in the same
places. -/
theorem exists_padded_trim (cs : List Char) :
    ∃ front back, isBlank front = true ∧ isBlank back = true ∧
      cs = front ++ (trim cs ++ back) ∧ lower cs = front ++ (lower (trim cs) ++ back) := by
  obtain ⟨front, hfront, hblank⟩ := exists_eq_append_trimStart cs
  obtain ⟨back, hback, hblank'⟩ := exists_eq_trimEnd_append (trimStart cs)
  have hcs : cs = front ++ (trim cs ++ back) := by
    rw [trim, ← hback, ← hfront]
  refine ⟨front, back, hblank, hblank', hcs, ?_⟩
  rw [← lower_padded hblank hblank', ← hcs]

theorem trim_lower (cs : List Char) : trim (lower cs) = lower (trim cs) := by
  obtain ⟨front, back, hfront, hback, -, hlower⟩ := exists_padded_trim cs
  rw [hlower, trim, trimStart_append_of_isBlank _ hfront, ← trim, trim_append_of_isBlank _ hback,
    (trimmed_trim cs).lower.trim_eq]

theorem trimmed_of_trimmed_lower {cs : List Char} (htrimmed : Trimmed (lower cs)) :
    Trimmed cs := by
  obtain ⟨front, back, -, -, hcs, hlower⟩ := exists_padded_trim cs
  have hlength := congrArg List.length hlower
  rw [← trim_lower, htrimmed.trim_eq, List.length_append, List.length_append] at hlength
  obtain rfl : front = [] := List.eq_nil_of_length_eq_zero (by omega)
  obtain rfl : back = [] := List.eq_nil_of_length_eq_zero (by omega)
  rw [hcs, List.nil_append, List.append_nil]
  exact trimmed_trim cs

/-! ## Keywords -/

/-- A word that texts are compared with once they are in small letters.  A `k` is left out, as
it is the small letter of a character beyond ASCII too. -/
structure Keyword (word : List Char) : Prop where
  trimmed : Trimmed word
  small : ∀ c ∈ word, c.toLower = c
  ascii : ∀ c ∈ word, c.toNat < 0x80
  unmixed : 'k' ∉ word

instance (word : List Char) : Decidable (Keyword word) :=
  decidable_of_iff
    (Trimmed word ∧
      word.all (fun c => c.toLower == c && decide (c.toNat < 0x80) && c != 'k') = true)
    <| by
  simp only [List.all_eq_true, Bool.and_eq_true, beq_iff_eq, decide_eq_true_eq, bne_iff_ne]
  constructor
  · rintro ⟨htrimmed, hword⟩
    exact ⟨htrimmed, fun c hc => (hword c hc).1.1, fun c hc => (hword c hc).1.2,
      fun hk => (hword 'k' hk).2 rfl⟩
  · rintro ⟨htrimmed, hsmall, hascii, hunmixed⟩
    refine ⟨htrimmed, fun c hc => ⟨⟨hsmall c hc, hascii c hc⟩, ?_⟩⟩
    rintro rfl
    exact hunmixed hc

theorem Keyword.map_toLower {word : List Char} (hword : Keyword word) :
    word.map Char.toLower = word :=
  (List.map_congr_left hword.small).trans (List.map_id' word)

theorem SmallForm.eq_of_ascii {c : Char} {small : List Char} (hsmall : SmallForm c small)
    (hascii : c.toNat < 0x80) : small = [c.toLower] := by
  cases hsmall with
  | usual => exact lowerChar_of_ascii hascii
  | final => exact absurd hascii (by decide)

theorem flatten_eq_map_of_ascii {cs : List Char} {smalls : List (List Char)}
    (hsmalls : List.Forall₂ SmallForm cs smalls) (hascii : ∀ c ∈ cs, c.toNat < 0x80) :
    smalls.flatten = cs.map Char.toLower := by
  induction hsmalls with
  | nil => rfl
  | cons hsmall _ ih =>
      obtain ⟨hc, hrest⟩ := List.forall_mem_cons.mp hascii
      rw [List.flatten_cons, hsmall.eq_of_ascii hc, ih hrest]
      rfl

theorem lower_of_ascii {cs : List Char} (hascii : ∀ c ∈ cs, c.toNat < 0x80) :
    lower cs = cs.map Char.toLower := by
  obtain ⟨smalls, hsmalls, hlower⟩ := exists_smallForms false cs
  rw [lower, hlower, flatten_eq_map_of_ascii hsmalls hascii]

theorem ascii_of_flatten {cs : List Char} {smalls : List (List Char)}
    (hsmalls : List.Forall₂ SmallForm cs smalls)
    (hplain : ∀ d ∈ smalls.flatten, d.toNat < 0x80 ∧ d ≠ 'k') :
    ∀ c ∈ cs, c.toNat < 0x80 := by
  induction hsmalls with
  | nil => simp
  | cons hsmall _ ih =>
      rw [List.flatten_cons, List.forall_mem_append] at hplain
      refine List.forall_mem_cons.mpr ⟨?_, ih hplain.2⟩
      by_contra hbeyond
      obtain ⟨d, hd, hout⟩ := hsmall.exists_beyond (Nat.le_of_not_lt hbeyond)
      have hin := hplain.1 d hd
      rcases hout with hout | hout
      · omega
      · exact hin.2 hout

/-- A text has the small letters of a keyword exactly if it is the keyword but for the case of
its ASCII letters. -/
theorem Keyword.lower_eq_iff {word cs : List Char} (hword : Keyword word) :
    lower cs = word ↔ cs.map Char.toLower = word := by
  have hself := hword.map_toLower
  constructor
  · intro hlower
    obtain ⟨smalls, hsmalls, hflatten⟩ := exists_smallForms false cs
    rw [← lower, hlower] at hflatten
    have hascii : ∀ c ∈ cs, c.toNat < 0x80 := by
      apply ascii_of_flatten hsmalls
      rw [← hflatten]
      intro d hd
      refine ⟨hword.ascii d hd, ?_⟩
      rintro rfl
      exact hword.unmixed hd
    rw [← lower_of_ascii hascii, hlower]
  · intro hmap
    rw [lower_congr (hmap.trans hself.symm), lower_of_ascii hword.ascii, hself]

end QueryBook.Text
