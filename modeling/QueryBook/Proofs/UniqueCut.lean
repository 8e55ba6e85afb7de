import QueryBook.Proofs.MarkerLine

/-!
# The only way to cut a text

A text can be taken apart into segments with whole markers between them so that no segment
holds a marker and none behind a marker begins with white space.  There is one way to do this,
and cutting the text finds it: a marker that begins in a text cannot be joined by anything in
front of it, and the white space behind its colon is all its own.  So the markers of the cut
stand at the places where a marker begins, and at no others.
-/

namespace QueryBook

namespace Marker

/-- A marker with some white space behind its colon. -/
inductive Whole : List Char → Prop
  | intro {core gap : List Char} (hcore : Spells core) (hgap : Text.isBlank gap = true) :
      Whole (core ++ gap)

def Opens (cs : List Char) : Prop :=
  ∃ marker back, Whole marker ∧ cs = marker ++ back

def Within (cs : List Char) : Prop :=
  ∃ front marker back, Whole marker ∧ cs = front ++ (marker ++ back)

theorem Opens.append {cs : List Char} (hopens : Opens cs) (back : List Char) :
    Opens (cs ++ back) := by
  obtain ⟨marker, rest, hmarker, rfl⟩ := hopens
  exact ⟨marker, rest ++ back, hmarker, List.append_assoc ..⟩

theorem Whole.exists_cons {marker : List Char} (hmarker : Whole marker) :
    ∃ tail, marker = '-' :: tail := by
  obtain ⟨⟨-, -⟩, -⟩ := hmarker
  exact ⟨_, rfl⟩

/-- A whole marker is taken up to a character that is no space. -/
theorem Whole.after?_append {marker rest : List Char} (hmarker : Whole marker)
    (hhead : ∀ c ∈ rest.head?, Text.isSpace c = false) :
    after? (marker ++ rest) = some rest := by
  obtain ⟨hcore, hgap⟩ := hmarker
  exact after?_eq_some_iff.mpr ⟨_, _, hcore, hgap, rfl, hhead⟩

theorem whole_of_after? {marker rest : List Char}
    (hafter : after? (marker ++ rest) = some rest) : Whole marker := by
  obtain ⟨core, gap, hcore, hgap, hsplit, -⟩ := after?_eq_some_iff.mp hafter
  obtain rfl := List.append_cancel_right hsplit
  exact .intro hcore hgap

theorem opens_iff {cs : List Char} : Opens cs ↔ ∃ left, after? cs = some left := by
  constructor
  · rintro ⟨_, back, @⟨core, gap, hcore, hgap⟩, rfl⟩
    -- the marker that is taken may be longer than the one that was found
    obtain ⟨blank, hback, hblank⟩ := Text.exists_eq_append_trimStart back
    have hspace : Text.isBlank (gap ++ blank) = true := by
      rw [Text.isBlank, List.all_append, ← Text.isBlank, ← Text.isBlank, hgap, hblank]
      rfl
    refine ⟨Text.trimStart back, after?_eq_some_iff.mpr ⟨core, gap ++ blank, hcore, hspace, ?_, ?_⟩⟩
    · conv_lhs => rw [hback]
      simp only [List.append_assoc]
    · exact fun _ => Text.not_isSpace_head_trimStart
  · rintro ⟨left, hafter⟩
    obtain ⟨marker, -, rfl⟩ := exists_append_of_after? hafter
    exact ⟨marker, left, whole_of_after? hafter, rfl⟩

theorem not_opens_iff {cs : List Char} : ¬Opens cs ↔ after? cs = none := by
  rw [opens_iff, not_exists, Option.eq_none_iff_forall_ne_some]

theorem within_cons_iff {c : Char} {cs : List Char} :
    Within (c :: cs) ↔ Opens (c :: cs) ∨ Within cs := by
  constructor
  · rintro ⟨front, marker, back, hmarker, hsplit⟩
    cases front with
    | nil => exact .inl ⟨marker, back, hmarker, hsplit⟩
    | cons d front =>
        obtain ⟨-, hsplit⟩ := List.cons.inj hsplit
        exact .inr ⟨front, marker, back, hmarker, hsplit⟩
  · rintro (⟨marker, back, hmarker, hsplit⟩ | ⟨front, marker, back, hmarker, rfl⟩)
    · exact ⟨[], marker, back, hmarker, hsplit⟩
    · exact ⟨c :: front, marker, back, hmarker, rfl⟩

theorem not_within_iff {cs : List Char} : ¬Within cs ↔ occurs cs = false := by
  rw [occurs_eq_false_iff]
  constructor
  · rintro hfree _ ⟨front, rfl⟩
    rw [← not_opens_iff]
    rintro ⟨marker, back, hmarker, rfl⟩
    exact hfree ⟨front, marker, back, hmarker, rfl⟩
  · rintro hnone ⟨front, marker, back, hmarker, rfl⟩
    have hclosed := not_opens_iff.mpr (hnone _ (List.suffix_append front _))
    exact hclosed ⟨marker, back, hmarker, rfl⟩

end Marker

namespace Segmentation

/-- Whole markers stand between segments that hold no marker, and the white space behind a
marker is all in the marker. -/
structure Separated (s : Segmentation) : Prop where
  markers : ∀ segment ∈ s.segments, Marker.Whole segment.marker
  opening_free : ¬Marker.Within s.opening
  bodies_free : ∀ segment ∈ s.segments, ¬Marker.Within segment.body
  bodies_tight : ∀ segment ∈ s.segments, ∀ c ∈ segment.body.head?, Text.isSpace c = false

theorem separated_ofText (text : List Char) : (ofText text).Separated := by
  induction text using ofText_induction with
  | nil =>
      refine ⟨by simp [ofText, cutAfter], ?_, by simp [ofText, cutAfter],
        by simp [ofText, cutAfter]⟩
      exact Marker.not_within_iff.mpr rfl
  | plain c rest hafter ih =>
      rw [ofText_cons_of_none hafter]
      refine ⟨ih.markers, ?_, ih.bodies_free, ih.bodies_tight⟩
      obtain ⟨back, hrest, -⟩ := exists_opening_append rest
      rw [consOpening, Marker.within_cons_iff, not_or]
      refine ⟨fun hopens => ?_, ih.opening_free⟩
      -- a marker that begins in the opening also begins in the text
      have hwhole := hopens.append back
      rw [List.cons_append, ← hrest, Marker.opens_iff] at hwhole
      obtain ⟨left, hsome⟩ := hwhole
      rw [hafter] at hsome
      cases hsome
  | marked marker left hne hafter ih =>
      rw [ofText_marker_append hafter hne]
      obtain ⟨back, hleft, -⟩ := exists_opening_append left
      have htight : ∀ c ∈ (ofText left).opening.head?, Text.isSpace c = false := by
        intro c hc
        apply Marker.not_isSpace_head_after? hafter
        rw [hleft]
        exact List.mem_head?_append_of_mem_head? hc
      constructor
      · exact List.forall_mem_cons.mpr ⟨Marker.whole_of_after? hafter, ih.markers⟩
      · exact Marker.not_within_iff.mpr rfl
      · exact List.forall_mem_cons.mpr ⟨ih.opening_free, ih.bodies_free⟩
      · exact List.forall_mem_cons.mpr ⟨htight, ih.bodies_tight⟩

/-- The text behind a marker is set off from it, even where the segment is empty and the next
marker follows. -/
theorem Separated.not_isSpace_head_text {s : Segmentation} (hseparated : s.Separated)
    (htight : ∀ c ∈ s.opening.head?, Text.isSpace c = false) :
    ∀ c ∈ s.text.head?, Text.isSpace c = false := by
  obtain ⟨opening, segments⟩ := s
  cases opening with
  | cons d opening => exact htight
  | nil =>
      cases segments with
      | nil => simp [text]
      | cons segment segments =>
          obtain ⟨hmarker, -⟩ := List.forall_mem_cons.mp hseparated.markers
          obtain ⟨tail, hdash⟩ := hmarker.exists_cons
          have hspace : Text.isSpace '-' = false := by
            decide
          simp [text, hdash, hspace]

theorem Separated.ofText_text {s : Segmentation} (hseparated : s.Separated) :
    ofText s.text = s := by
  obtain ⟨opening, segments⟩ := s
  have hopening : ofText opening = ⟨opening, []⟩ :=
    ofText_of_occurs_eq_false (Marker.not_within_iff.mp hseparated.opening_free)
  induction segments generalizing opening with
  | nil => rw [text, List.flatMap_nil, List.append_nil, hopening]
  | cons segment segments ih =>
      obtain ⟨hmarker, hmarkers⟩ := List.forall_mem_cons.mp hseparated.markers
      obtain ⟨hfree, hbodies⟩ := List.forall_mem_cons.mp hseparated.bodies_free
      obtain ⟨htight, htights⟩ := List.forall_mem_cons.mp hseparated.bodies_tight
      have hinner : Separated ⟨segment.body, segments⟩ := ⟨hmarkers, hfree, hbodies, htights⟩
      have hbody : ofText segment.body = ⟨segment.body, []⟩ :=
        ofText_of_occurs_eq_false (Marker.not_within_iff.mp hfree)
      have hrest := ih segment.body hinner hbody
      have hafter := hmarker.after?_append (hinner.not_isSpace_head_text htight)
      obtain ⟨tail, hdash⟩ := hmarker.exists_cons
      have htext : text ⟨opening, segment :: segments⟩ =
          opening ++ (segment.marker ++ text ⟨segment.body, segments⟩) := by
        simp [text]
      rw [htext, ofText_append hafter, ofText_marker_append hafter (by simp [hdash]), hrest,
        hopening]
      rfl

/-- A marker begins behind a part of the text exactly if a segment of the cut begins there. -/
theorem exists_opens_iff {cs front : List Char} :
    (∃ rest, cs = front ++ rest ∧ Marker.Opens rest) ↔
      ∃ before segment after, (ofText cs).segments = before ++ segment :: after ∧
        front = text ⟨(ofText cs).opening, before⟩ := by
  constructor
  · rintro ⟨rest, rfl, hopens⟩
    obtain ⟨left, hafter⟩ := Marker.opens_iff.mp hopens
    obtain ⟨marker, -, -, hcut⟩ := ofText_of_after? hafter
    rw [ofText_append hafter, hcut]
    exact ⟨(ofText front).segments, _, _, rfl, (text_ofText front).symm⟩
  · rintro ⟨before, segment, after, hsegments, rfl⟩
    have hmember : segment ∈ (ofText cs).segments := by
      simp [hsegments]
    have hmarker := (separated_ofText cs).markers segment hmember
    refine ⟨segment.marker ++ text ⟨segment.body, after⟩, ?_, segment.marker, _, hmarker, rfl⟩
    conv_lhs => rw [← text_ofText cs]
    simp [text, hsegments]

/-- The cut of a text is the one way to take it apart into segments without markers and whole
markers between them, the white space behind a marker being the marker's own.  Its markers
stand wherever one begins in the text. -/
theorem ofText_eq_iff_separated (cs : List Char) :
    (∀ s, ofText cs = s ↔ s.text = cs ∧ s.Separated) ∧
      ∀ front, (∃ rest, cs = front ++ rest ∧ Marker.Opens rest) ↔
        ∃ before segment after, (ofText cs).segments = before ++ segment :: after ∧
          front = text ⟨(ofText cs).opening, before⟩ := by
  refine ⟨fun s => ⟨?_, ?_⟩, fun front => exists_opens_iff⟩
  · rintro rfl
    exact ⟨text_ofText cs, separated_ofText cs⟩
  · rintro ⟨rfl, hseparated⟩
    exact hseparated.ofText_text

/-- A third dash belongs to the text in front, a segment may be empty, and a marker may take up
several lines. -/
example :
    ofText "a---name:--name \n:\n b--\n-- name".toList =
      ⟨"a-".toList, [⟨"--name:".toList, []⟩,
        ⟨"--name \n:\n ".toList, "b--\n-- name".toList⟩]⟩ := by
  decide

end Segmentation

end QueryBook
