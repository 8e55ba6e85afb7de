import QueryBook.Marker
import QueryBook.Proofs.Trimming
import Mathlib.Data.List.Infix

/-!
# Markers at a seam

Two texts are joined, and the question is which markers the joined text has.  No marker
reaches across the seam when the second text opens with two dashes or, past its white space,
with a character that no marker holds behind its dashes.  In particular a text that opens
with a marker can follow any text: the joined text is cut at the markers of the two parts.
-/

namespace QueryBook

namespace Marker

/-- The characters that a marker holds besides dashes and white space. -/
def letters : List Char :=
  ['n', 'a', 'm', 'e', ':']

theorem after?_eq (cs : List Char) :
    after? cs =
      (cs.dropPrefix? ['-', '-']).bind fun rest =>
        ((Text.trimStart rest).dropPrefix? ['n', 'a', 'm', 'e']).bind fun rest =>
          ((Text.trimStart rest).dropPrefix? [':']).map Text.trimStart := by
  unfold after?
  split
  · next rest =>
    simp only [List.dropPrefix?, BEq.rfl, if_true, Option.bind_some]
    split
    · next rest hname =>
      simp only [hname, List.dropPrefix?, BEq.rfl, if_true, Option.bind_some]
      split
      · next rest hcolon => simp [hcolon, List.dropPrefix?]
      · next hcolon =>
        cases hrest : Text.trimStart rest with
        | nil => simp [List.dropPrefix?]
        | cons c rest =>
            have hne : c ≠ ':' := fun h => hcolon rest (h ▸ hrest)
            simp [List.dropPrefix?, hne]
    · next hname =>
      cases hprefix : (Text.trimStart rest).dropPrefix? ['n', 'a', 'm', 'e'] with
      | none => rfl
      | some left =>
          rw [List.dropPrefix?_eq_some_iff] at hprefix
          obtain ⟨name, hrest, heq⟩ := hprefix
          obtain rfl := eq_of_beq heq
          exact absurd hrest (hname left)
  · next hdashes =>
    cases hprefix : cs.dropPrefix? ['-', '-'] with
    | none => rfl
    | some left =>
        rw [List.dropPrefix?_eq_some_iff] at hprefix
        obtain ⟨dashes, hrest, heq⟩ := hprefix
        obtain rfl := eq_of_beq heq
        exact absurd hrest (hdashes left)

theorem dashes_of_after? {cs left : List Char} (hafter : after? cs = some left) :
    ∃ rest, cs = '-' :: '-' :: rest := by
  unfold after? at hafter
  split at hafter
  · next rest => exact ⟨rest, rfl⟩
  · contradiction

theorem suffix_of_dropPrefix? {word cs left : List Char}
    (hdrop : cs.dropPrefix? word = some left) :
    left <:+ cs := by
  rw [List.dropPrefix?_eq_some_iff] at hdrop
  obtain ⟨front, rfl, -⟩ := hdrop
  exact List.suffix_append front left

/-- A marker takes its two dashes and leaves an end of the text. -/
theorem exists_append_of_after? {cs left : List Char} (hafter : after? cs = some left) :
    ∃ marker, marker ≠ [] ∧ cs = marker ++ left := by
  obtain ⟨tail, rfl⟩ := dashes_of_after? hafter
  have hsuffix : left <:+ tail := by
    rw [after?_eq] at hafter
    simp only [Option.bind_eq_some_iff, Option.map_eq_some_iff] at hafter
    obtain ⟨rest, hdashes, rest', hname, rest'', hcolon, rfl⟩ := hafter
    obtain rfl : tail = rest := by
      simpa [List.dropPrefix?] using hdashes
    have hspace (cs : List Char) : Text.trimStart cs <:+ cs := List.dropWhile_suffix _
    calc
      Text.trimStart rest'' <:+ rest'' := hspace rest''
      _ <:+ Text.trimStart rest' := suffix_of_dropPrefix? hcolon
      _ <:+ rest' := hspace rest'
      _ <:+ Text.trimStart tail := suffix_of_dropPrefix? hname
      _ <:+ tail := hspace tail
  obtain ⟨front, rfl⟩ := hsuffix
  exact ⟨'-' :: '-' :: front, List.cons_ne_nil _ _, rfl⟩

theorem not_isSpace_head_after? {cs left : List Char} (hafter : after? cs = some left) :
    ∀ c ∈ left.head?, Text.isSpace c = false := by
  rw [after?_eq] at hafter
  simp only [Option.bind_eq_some_iff, Option.map_eq_some_iff] at hafter
  obtain ⟨rest, -, rest', -, rest'', -, rfl⟩ := hafter
  exact fun _ => Text.not_isSpace_head_trimStart

/-- A text that no marker begun in front of it can reach into. -/
structure Bars (b : List Char) : Prop where
  dashes : ∀ rest, b = '-' :: rest → rest.head? = some '-'
  letters : ∀ c ∈ (Text.trimStart b).head?, c ∉ Marker.letters

theorem Bars.not_mem_head {b : List Char} (hbars : Bars b) :
    ∀ c ∈ b.head?, c ∉ Marker.letters := by
  intro c hc
  by_cases hspace : Text.isSpace c = true
  · intro hmem
    have htable : Marker.letters.all (fun d => !Text.isSpace d) = true := by
      decide
    have hletter := List.all_eq_true.mp htable c hmem
    rw [hspace] at hletter
    contradiction
  · apply hbars.letters
    rw [Text.trimStart_eq_self]
    · exact hc
    · intro d hd
      obtain rfl : d = c := Option.mem_unique hd hc
      simpa using hspace

theorem bars_of_after? {b left : List Char} (hafter : after? b = some left) :
    Bars b := by
  obtain ⟨rest, rfl⟩ := dashes_of_after? hafter
  constructor
  · intro tail htail
    obtain rfl : '-' :: rest = tail := by simpa using htail
    rfl
  · rw [Text.trimStart_eq_self (by simp; decide)]
    simp [Marker.letters]

theorem dropPrefix?_append {word t b : List Char}
    (hhead : ∀ c ∈ b.head?, c ∉ word) :
    (t ++ b).dropPrefix? word = (t.dropPrefix? word).map (· ++ b) := by
  induction t generalizing word with
  | nil =>
      cases word with
      | nil => simp
      | cons w word =>
          cases b with
          | nil => simp [List.dropPrefix?]
          | cons c b =>
              have hne : c ≠ w := by
                rintro rfl
                exact hhead c (by simp) (by simp)
              simp [List.dropPrefix?, hne]
  | cons a t ih =>
      cases word with
      | nil => simp
      | cons w word =>
          have hrest := ih fun c hc hmem => hhead c hc (List.mem_cons_of_mem w hmem)
          by_cases heq : a = w
          · simp [List.dropPrefix?, heq, hrest]
          · simp [List.dropPrefix?, heq]

/-- A word of letters is found in front of the seam or not at all. -/
theorem Bars.dropPrefix?_trimStart {b : List Char} (hbars : Bars b) {word : List Char}
    (hne : word ≠ []) (hword : word ⊆ Marker.letters) (r : List Char) :
    (Text.trimStart (r ++ b)).dropPrefix? word =
      ((Text.trimStart r).dropPrefix? word).map (· ++ b) := by
  cases hblank : Text.isBlank r with
  | false =>
      rw [Text.trimStart_append_of_not_isBlank b hblank]
      exact dropPrefix?_append fun c hc hmem => hbars.not_mem_head c hc (hword hmem)
  | true =>
      obtain ⟨w, word, rfl⟩ := List.exists_cons_of_ne_nil hne
      rw [Text.trimStart_append_of_isBlank b hblank, Text.trimStart_eq_nil_iff.mpr hblank]
      cases htrim : Text.trimStart b with
      | nil => rfl
      | cons c rest =>
          have hc : c ≠ w := by
            rintro rfl
            exact hbars.letters c (by simp [htrim]) (hword List.mem_cons_self)
          simp [List.dropPrefix?, hc]

/-- The two dashes are found in front of the seam, or else no name follows them. -/
theorem Bars.after?_append {a b : List Char} (hbars : Bars b) (hne : a ≠ []) :
    after? (a ++ b) = (after? a).map fun left => Text.trimStart (left ++ b) := by
  obtain ⟨c, a, rfl⟩ := List.exists_cons_of_ne_nil hne
  by_cases hc : c = '-'
  · subst c
    cases a with
    | nil =>
        have hnone : after? ['-'] = none := rfl
        rw [hnone, Option.map_none]
        cases b with
        | nil => rfl
        | cons d rest =>
            by_cases hd : d = '-'
            · subst d
              have hdash := hbars.dashes rest rfl
              obtain ⟨rest, rfl⟩ : ∃ tail, rest = '-' :: tail := by
                cases rest with
                | nil => simp at hdash
                | cons e tail => exact ⟨tail, by simpa using hdash⟩
              rfl
            · simp [after?_eq, List.dropPrefix?, hd]
    | cons d a =>
        by_cases hd : d = '-'
        · subst d
          simp only [after?_eq, List.cons_append, List.dropPrefix?, BEq.rfl, if_true,
            Option.bind_some]
          rw [hbars.dropPrefix?_trimStart (by simp) (by simp [Marker.letters])]
          cases (Text.trimStart a).dropPrefix? ['n', 'a', 'm', 'e'] with
          | none => rfl
          | some rest =>
              simp only [Option.map_some, Option.bind_some]
              rw [hbars.dropPrefix?_trimStart (by simp) (by simp [Marker.letters])]
              cases (Text.trimStart rest).dropPrefix? [':'] with
              | none => rfl
              | some rest =>
                  simp only [Option.map_some]
                  rw [Text.trimStart_trimStart_append]
        · simp [after?_eq, List.dropPrefix?, hd]
  · simp [after?_eq, List.dropPrefix?, hc]

theorem after?_append_of_after? {a b left : List Char}
    (hafter : after? b = some left) (hne : a ≠ []) :
    after? (a ++ b) = (after? a).map (· ++ b) := by
  rw [(bars_of_after? hafter).after?_append hne]
  cases hfront : after? a with
  | none => rfl
  | some rest =>
      obtain ⟨tail, rfl⟩ := dashes_of_after? hafter
      have hrest := Text.trimStart_eq_self (not_isSpace_head_after? hfront)
      rw [Option.map_some, Option.map_some,
        Text.trimStart_append_of_head (by simp; decide), hrest]

def occurs (cs : List Char) : Bool :=
  cs.tails.any fun rest => (after? rest).isSome

theorem occurs_eq_false_iff {cs : List Char} :
    occurs cs = false ↔ ∀ rest, rest <:+ cs → after? rest = none := by
  simp [occurs]

/-- What stands in front of the first dash does not matter. -/
theorem occurs_append_eq_false {a b : List Char}
    (hdash : '-' ∉ a) (hnone : occurs b = false) :
    occurs (a ++ b) = false := by
  induction a with
  | nil => exact hnone
  | cons c a ih =>
      rw [List.mem_cons, not_or] at hdash
      have htail := ih hdash.2
      rw [occurs_eq_false_iff] at htail ⊢
      intro rest hsuffix
      rw [List.cons_append, List.suffix_cons_iff] at hsuffix
      rcases hsuffix with rfl | hsuffix
      · cases hafter : after? (c :: (a ++ b)) with
        | none => rfl
        | some left =>
            obtain ⟨rest, heq⟩ := dashes_of_after? hafter
            exact absurd (List.cons.inj heq).1.symm hdash.1
      · exact htail rest hsuffix

theorem bars_feed : Bars ['\n'] := by
  constructor
  · intro rest hrest
    cases hrest
  · have hblank : Text.trimStart ['\n'] = [] := by
      decide
    simp [hblank]

theorem occurs_append_feed_eq_false {cs : List Char} (hnone : occurs cs = false) :
    occurs (cs ++ ['\n']) = false := by
  rw [occurs_eq_false_iff] at hnone ⊢
  intro rest hsuffix
  rw [List.suffix_concat_iff] at hsuffix
  rcases hsuffix with rfl | ⟨front, rfl, hfront⟩
  · rfl
  · by_cases hne : front = []
    · subst front
      rfl
    · rw [bars_feed.after?_append hne, hnone front hfront]
      rfl

end Marker

namespace Segmentation

theorem cutAfter_of_none {c : Char} {rest : List Char}
    (hafter : Marker.after? (c :: rest) = none) :
    cutAfter 0 (c :: rest) = (cutAfter 0 rest).consOpening c := by
  rw [cutAfter, hafter]

theorem cutAfter_of_some {c : Char} {rest left : List Char}
    (hafter : Marker.after? (c :: rest) = some left) :
    cutAfter 0 (c :: rest) =
      (cutAfter (rest.length - left.length) rest).openWith
        (c :: rest.take (rest.length - left.length)) := by
  rw [cutAfter, hafter]

def followedBy (s t : Segmentation) : Segmentation :=
  ⟨s.opening, s.segments ++ t.segments⟩

theorem opening_of_after? {b left : List Char} (hafter : Marker.after? b = some left) :
    (ofText b).opening = [] := by
  obtain ⟨rest, rfl⟩ := Marker.dashes_of_after? hafter
  rw [ofText, cutAfter_of_some hafter]
  rfl

theorem cutAfter_append {a b left : List Char} {skip : Nat}
    (hafter : Marker.after? b = some left) (hskip : skip ≤ a.length) :
    cutAfter skip (a ++ b) = (cutAfter skip a).followedBy (ofText b) := by
  induction a generalizing skip with
  | nil =>
      obtain rfl : skip = 0 := by simpa using hskip
      have hopening := opening_of_after? hafter
      rw [List.nil_append, cutAfter, followedBy, List.nil_append, ← hopening]
      rfl
  | cons c a ih =>
      cases skip with
      | succ skip =>
          have hrest : skip ≤ a.length := by
            simpa using hskip
          exact ih hrest
      | zero =>
          have hseam : Marker.after? (c :: (a ++ b)) = _ :=
            Marker.after?_append_of_after? hafter (List.cons_ne_nil c a)
          cases hfront : Marker.after? (c :: a) with
          | none =>
              rw [hfront, Option.map_none] at hseam
              rw [List.cons_append, cutAfter_of_none hseam, cutAfter_of_none hfront,
                ih (Nat.zero_le _)]
              rfl
          | some rest =>
              rw [hfront, Option.map_some] at hseam
              have hlength : (a ++ b).length - (rest ++ b).length = a.length - rest.length := by
                simp only [List.length_append]
                omega
              have hbound : a.length - rest.length ≤ a.length := Nat.sub_le _ _
              rw [List.cons_append, cutAfter_of_some hseam, cutAfter_of_some hfront, hlength,
                ih hbound, List.take_append_of_le_length hbound]
              rfl

/-- A text that opens with a marker is cut as if it stood alone, whatever stands in front of
it. -/
theorem ofText_append {a b left : List Char} (hafter : Marker.after? b = some left) :
    ofText (a ++ b) = (ofText a).followedBy (ofText b) :=
  cutAfter_append hafter (Nat.zero_le _)

theorem cutAfter_drop (skip : Nat) (cs : List Char) :
    cutAfter skip cs = ofText (cs.drop skip) := by
  induction cs generalizing skip with
  | nil => cases skip <;> rfl
  | cons c rest ih =>
      cases skip with
      | zero => rfl
      | succ skip => exact ih skip

theorem ofText_of_occurs_eq_false {cs : List Char} (hnone : Marker.occurs cs = false) :
    ofText cs = ⟨cs, []⟩ := by
  induction cs with
  | nil => rfl
  | cons c rest ih =>
      rw [Marker.occurs_eq_false_iff] at hnone
      have hrest : Marker.occurs rest = false := by
        rw [Marker.occurs_eq_false_iff]
        intro tail hsuffix
        exact hnone tail (hsuffix.trans (List.suffix_cons c rest))
      rw [ofText, cutAfter_of_none (hnone _ (List.suffix_refl _))]
      exact congrArg (consOpening c) (ih hrest)

theorem ofText_marker_append {marker body : List Char}
    (hafter : Marker.after? (marker ++ body) = some body) (hne : marker ≠ []) :
    ofText (marker ++ body) = (ofText body).openWith marker := by
  obtain ⟨c, marker, rfl⟩ := List.exists_cons_of_ne_nil hne
  have hskip : (marker ++ body).length - body.length = marker.length := by
    simp
  rw [List.cons_append] at hafter
  rw [ofText, List.cons_append, cutAfter_of_some hafter, hskip, cutAfter_drop,
    List.drop_left, List.take_left]

/-- A text that opens with a marker is that marker and what is left behind it. -/
theorem ofText_of_after? {cs left : List Char} (hafter : Marker.after? cs = some left) :
    ∃ marker, marker ≠ [] ∧ cs = marker ++ left ∧ ofText cs = (ofText left).openWith marker := by
  obtain ⟨marker, hne, rfl⟩ := Marker.exists_append_of_after? hafter
  exact ⟨marker, hne, rfl, ofText_marker_append hafter hne⟩

end Segmentation

end QueryBook
