import QueryBook.Proofs.CommentSeparation

/-!
# Comment lines and the others

A line is a comment if it goes on with two dashes behind white space and if no line feed
stands in its text, which begins behind the dashes and all the white space that follows; one
line feed may close the line.  A line may hold line breaks of its own.

The same lines are found by a pattern that is tried from the front: white space, two dashes,
white space, characters other than line feeds, and the end.  Each part first takes all that it
can and gives characters back as long as the parts behind it do not fit.  That never helps:
the dashes are no white space, and what is given back stays in front of the line feed that is
in the way.
-/

namespace QueryBook

namespace Comment

/-! ## What a comment is -/

/-- The rest of a line is a text, behind which one line feed may stand. -/
structure Bears (rest text : List Char) : Prop where
  feed_not_mem : '\n' ∉ text
  eq_or_eq : rest = text ∨ rest = text ++ ['\n']

def IsComment (line text : List Char) : Prop :=
  ∃ behind, Text.trimStart line = '-' :: '-' :: behind ∧ Bears (Text.trimStart behind) text

theorem bears_iff {rest text : List Char} :
    Bears rest text ↔ withoutFinalBreak rest = text ∧ '\n' ∉ text := by
  constructor
  · rintro ⟨hfeed, rfl | rfl⟩
    · exact ⟨withoutFinalBreak_of_not_mem hfeed, hfeed⟩
    · refine ⟨?_, hfeed⟩
      rw [withoutFinalBreak, List.getLast?_concat, if_pos rfl, List.dropLast_concat]
  · rintro ⟨rfl, hfeed⟩
    refine ⟨hfeed, ?_⟩
    rw [withoutFinalBreak]
    split
    · next hlast => exact .inr (List.dropLast_append_getLast? _ hlast).symm
    · exact .inl rfl

theorem text?_eq_some_iff {line text : List Char} :
    text? line = some text ↔ IsComment line text := by
  unfold text? IsComment
  split
  · next behind hdashes =>
    simp only [hdashes, List.cons.injEq, true_and, exists_eq_left', bears_iff]
    by_cases hfeed : '\n' ∈ withoutFinalBreak (Text.trimStart behind)
    · simp only [if_pos hfeed, reduceCtorEq, false_iff]
      rintro ⟨rfl, hnone⟩
      exact hnone hfeed
    · simp only [if_neg hfeed, Option.some.injEq, iff_self_and]
      rintro rfl
      exact hfeed
  · next hother =>
    constructor
    · intro hsome
      cases hsome
    · rintro ⟨behind, hdashes, -⟩
      exact absurd hdashes (hother behind)

/-! ## The pattern -/

/-- The ways to take characters of a class from the front of a text, each with what it leaves.
The longest one comes first. -/
def takings (inClass : Char → Bool) : List Char → List (List Char × List Char)
  | [] => [([], [])]
  | c :: cs =>
    if inClass c then
      ((takings inClass cs).map fun way => (c :: way.1, way.2)) ++ [([], c :: cs)]
    else [([], c :: cs)]

/-- Characters other than line feeds, and then the end or the line feed that closes the
line. -/
def matchText? (cs : List Char) : Option (List Char) :=
  (takings (fun c => c != '\n') cs).findSome? fun way =>
    if way.2 = [] ∨ way.2 = ['\n'] then some way.1 else none

def matchDashes? : List Char → Option (List Char)
  | '-' :: '-' :: behind => (takings Text.isSpace behind).findSome? fun way => matchText? way.2
  | _ => none

/-- The text of the first match of the pattern. -/
def matched? (line : List Char) : Option (List Char) :=
  (takings Text.isSpace line).findSome? fun way => matchDashes? way.2

theorem takings_eq_cons (inClass : Char → Bool) (cs : List Char) :
    ∃ shorter, takings inClass cs = (cs.takeWhile inClass, cs.dropWhile inClass) :: shorter ∧
      ∀ way ∈ shorter, (∃ c ∈ way.2.head?, inClass c = true) ∧ cs.dropWhile inClass <:+ way.2 := by
  induction cs with
  | nil => exact ⟨[], rfl, by simp⟩
  | cons c cs ih =>
      cases hc : inClass c with
      | false => exact ⟨[], by simp [takings, hc], by simp⟩
      | true =>
          obtain ⟨shorter, htakings, hshorter⟩ := ih
          refine ⟨(shorter.map fun way => (c :: way.1, way.2)) ++ [([], c :: cs)], ?_, ?_⟩
          · simp [takings, hc, htakings]
          · rw [List.dropWhile_cons_of_pos hc]
            intro way hway
            rcases List.mem_append.mp hway with hearlier | hlast
            · obtain ⟨way', hway', rfl⟩ := List.mem_map.mp hearlier
              exact hshorter way' hway'
            · obtain rfl := List.mem_singleton.mp hlast
              refine ⟨⟨c, rfl, hc⟩, ?_⟩
              exact (List.dropWhile_suffix _).trans (List.suffix_cons c cs)

/-- If giving back does not help, the longest way decides. -/
theorem findSome?_takings {α : Type} {inClass : Char → Bool} {cs : List Char}
    {f : List Char × List Char → Option α}
    (hshorter : ∀ way : List Char × List Char, (∃ c ∈ way.2.head?, inClass c = true) →
      cs.dropWhile inClass <:+ way.2 → f (cs.takeWhile inClass, cs.dropWhile inClass) = none →
        f way = none) :
    (takings inClass cs).findSome? f = f (cs.takeWhile inClass, cs.dropWhile inClass) := by
  obtain ⟨shorter, htakings, hways⟩ := takings_eq_cons inClass cs
  rw [htakings, List.findSome?_cons]
  split
  · next hfirst => exact hfirst.symm
  · next hfirst =>
    rw [hfirst, List.findSome?_eq_none_iff]
    intro way hway
    obtain ⟨hhead, hsuffix⟩ := hways way hway
    exact hshorter way hhead hsuffix hfirst

theorem matchText?_eq (cs : List Char) :
    matchText? cs =
      if cs.dropWhile (fun c => c != '\n') = [] ∨ cs.dropWhile (fun c => c != '\n') = ['\n'] then
        some (cs.takeWhile fun c => c != '\n')
      else none := by
  apply findSome?_takings
  -- a shorter way stops in front of a character that is no line feed
  rintro ⟨taken, left⟩ ⟨c, hhead, hc⟩ - -
  rw [if_neg]
  rintro (rfl | rfl)
  · cases hhead
  · obtain rfl := Option.some.inj hhead
    cases hc

theorem matchText?_eq_some_iff {cs text : List Char} :
    matchText? cs = some text ↔ Bears cs text := by
  have hother {text : List Char} (hfeed : '\n' ∉ text) : ∀ c ∈ text, (c != '\n') = true := by
    intro c hc
    rw [bne_iff_ne]
    rintro rfl
    exact hfeed hc
  rw [matchText?_eq]
  constructor
  · intro hsome
    split at hsome
    · next hend =>
      obtain rfl := Option.some.inj hsome
      have hcut := List.takeWhile_append_dropWhile (p := fun c => c != '\n') (l := cs)
      refine ⟨fun hfeed => ?_, ?_⟩
      · have himp := List.mem_takeWhile_imp hfeed
        cases himp
      · rcases hend with hend | hend
        · rw [hend, List.append_nil] at hcut
          exact .inl hcut.symm
        · rw [hend] at hcut
          exact .inr hcut.symm
    · cases hsome
  · rintro ⟨hfeed, rfl | rfl⟩
    · rw [List.takeWhile_eq_self_iff.mpr (hother hfeed),
        List.dropWhile_eq_nil_iff.mpr (hother hfeed), if_pos (.inl rfl)]
    · rw [List.takeWhile_append_of_pos (hother hfeed), List.dropWhile_append_of_pos (hother hfeed)]
      simp

/-- A line feed that is in the way of the end stays in the way of more text in front. -/
theorem matchText?_eq_none_of_suffix {cs cs' : List Char} (hsuffix : cs <:+ cs')
    (hnone : matchText? cs = none) :
    matchText? cs' = none := by
  cases hsome : matchText? cs' with
  | none => rfl
  | some text =>
      obtain ⟨hfeed, hcs'⟩ := matchText?_eq_some_iff.mp hsome
      have hbears : ∃ text', Bears cs text' := by
        rcases hcs' with rfl | rfl
        · exact ⟨cs, fun hmem => hfeed (hsuffix.mem hmem), .inl rfl⟩
        · rcases List.suffix_concat_iff.mp hsuffix with rfl | ⟨front, rfl, hfront⟩
          · exact ⟨[], List.not_mem_nil, .inl rfl⟩
          · exact ⟨front, fun hmem => hfeed (hfront.mem hmem), .inr rfl⟩
      obtain ⟨text', hbears⟩ := hbears
      rw [matchText?_eq_some_iff.mpr hbears] at hnone
      cases hnone

theorem matchDashes?_dashes (behind : List Char) :
    matchDashes? ('-' :: '-' :: behind) = matchText? (Text.trimStart behind) :=
  findSome?_takings fun _ _ => matchText?_eq_none_of_suffix

theorem matchDashes?_of_isSpace {cs : List Char} (hhead : ∃ c ∈ cs.head?, Text.isSpace c = true) :
    matchDashes? cs = none := by
  unfold matchDashes?
  split
  · obtain ⟨c, hc, hspace⟩ := hhead
    obtain rfl := Option.some.inj hc
    have hdash : Text.isSpace '-' = false := by
      decide
    rw [hdash] at hspace
    cases hspace
  · rfl

/-- The pattern matches the comments and gives their texts. -/
theorem matched?_eq_some_iff {line text : List Char} :
    matched? line = some text ↔ IsComment line text := by
  have hindent : matched? line = matchDashes? (Text.trimStart line) :=
    findSome?_takings fun _ hhead _ _ => matchDashes?_of_isSpace hhead
  rw [hindent, IsComment]
  constructor
  · intro hsome
    unfold matchDashes? at hsome
    split at hsome
    · next behind hdashes =>
      refine ⟨behind, hdashes, ?_⟩
      rw [← matchText?_eq_some_iff, ← matchDashes?_dashes]
      exact hsome
    · cases hsome
  · rintro ⟨behind, hdashes, hbears⟩
    rw [hdashes, matchDashes?_dashes, matchText?_eq_some_iff]
    exact hbears

/-! ## Dividing a block -/

/-- Each line of a block goes to one side: of a comment its text, any other line as it is. -/
inductive Divides : List (List Char) → List (List Char) → List (List Char) → Prop where
  | nil : Divides [] [] []
  | comment {line text : List Char} {ls texts others : List (List Char)}
    (hcomment : IsComment line text) (hrest : Divides ls texts others) :
    Divides (line :: ls) (text :: texts) others
  | other {line : List Char} {ls texts others : List (List Char)}
    (hother : ∀ text, ¬IsComment line text) (hrest : Divides ls texts others) :
    Divides (line :: ls) texts (line :: others)

theorem text?_eq_none_iff_forall {line : List Char} :
    text? line = none ↔ ∀ text, ¬IsComment line text := by
  simp only [Option.eq_none_iff_forall_ne_some, ne_eq, text?_eq_some_iff]

theorem divides_iff {ls texts others : List (List Char)} :
    Divides ls texts others ↔
      texts = ls.filterMap text? ∧ others = ls.filter fun line => (text? line).isNone := by
  constructor
  · intro hdivides
    induction hdivides with
    | nil => exact ⟨rfl, rfl⟩
    | comment hcomment _ ih =>
        have htext := text?_eq_some_iff.mpr hcomment
        obtain ⟨rfl, rfl⟩ := ih
        simp [htext]
    | other hother _ ih =>
        have htext := text?_eq_none_iff_forall.mpr hother
        obtain ⟨rfl, rfl⟩ := ih
        simp [htext]
  · rintro ⟨rfl, rfl⟩
    induction ls with
    | nil => exact .nil
    | cons line ls ih =>
        cases htext : text? line with
        | some text =>
            rw [List.filterMap_cons_some htext, List.filter_cons_of_neg (by simp [htext])]
            exact .comment (text?_eq_some_iff.mp htext) ih
        | none =>
            rw [List.filterMap_cons_none htext, List.filter_cons_of_pos (by simp [htext])]
            exact .other (text?_eq_none_iff_forall.mp htext) ih

end Comment

/-- The lines of a block can be divided in one way, whatever breaks they hold.  The texts of
the comments make the documentation and the other lines make the body, each side in the order
of the block.  The comments are what the pattern matches. -/
theorem Block.ofLines_divides (ls : List (List Char)) :
    ∃ texts others, Comment.Divides ls texts others ∧
      (∀ texts' others', Comment.Divides ls texts' others' →
        texts' = texts ∧ others' = others) ∧
      ofLines ls =
        ⟨String.ofList (Text.unlines texts),
          String.ofList (Text.trim (Text.unlines others))⟩ ∧
      ∀ line ∈ ls, ∀ text, Comment.matched? line = some text ↔ Comment.IsComment line text := by
  refine ⟨_, _, Comment.divides_iff.mpr ⟨rfl, rfl⟩, ?_, ?_, ?_⟩
  · intro texts' others' hdivides
    exact Comment.divides_iff.mp hdivides
  · rw [ofLines, Comment.separate_eq]
  · exact fun line _ text => Comment.matched?_eq_some_iff

/-- A line feed inside a text makes a line no comment; one at its end, or in the white space in
front of it, does not. -/
example :
    Block.ofLines
        ["-- a\n".toList, "\n--\n\tb ".toList, "--c\nd".toList, "--\n".toList, "e\n".toList] =
      ⟨"a\nb \n\n", "--c\nd\ne"⟩ := by
  decide

end QueryBook
