import QueryBook.Proofs.EntryReading
import QueryBook.Proofs.SourceConcatenation

/-!
# Names beside their markers

A query takes its name from what stands behind a marker.  White space behind the colon of a
marker belongs to the marker, line breaks included, so the name need not stand on the line of
the colon.  It does exactly if some definition of the name has a marker that breaks no line
behind its colon.
-/

namespace QueryBook

namespace Definition

/-- A definition that opens within a line declares the header of that line. -/
theorem declares_append_iff {line rest : List Char} (hline : Text.Unbroken line)
    (hne : line ≠ []) (hhead : ∀ c ∈ line.head?, Text.isSpace c = false)
    (hrest : ∀ c ∈ rest.head?, Text.isLineBreak c = true) {h : Header} :
    Declares (line ++ rest) h ↔
      Header.isName h.name.toList = true ∧ Text.trimEnd line = h.line.toList := by
  have htrim : Text.trim line = Text.trimEnd line := by
    rw [Text.trim, Text.trimStart_eq_self hhead]
  have hwhole : Text.trim (line ++ rest) = Text.trimEnd (line ++ rest) := by
    rw [Text.trim, Text.trimStart_eq_self]
    rwa [List.head?_append_of_ne_nil _ hne]
  have hfirst : Text.trim (split (line ++ rest)).1 = Text.trimEnd line := by
    rw [split, hwhole]
    cases hblank : Text.isBlank rest with
    | true =>
        have hunbroken : Text.Unbroken (Text.trimEnd line) :=
          fun c hc => hline c (Text.mem_of_mem_trimEnd hc)
        rw [Text.trimEnd_append_of_isBlank _ hblank]
        by_cases hnil : Text.trimEnd line = []
        · rw [hnil]
          rfl
        · rw [Text.lines_of_unbroken hunbroken hnil, ← htrim]
          exact (Text.trimmed_trim line).trim_eq
    | false =>
        obtain ⟨blank, hsplit, -⟩ := Text.exists_eq_trimEnd_append rest
        have hbreak : ∀ c ∈ (Text.trimEnd rest).head?, Text.isLineBreak c = true := by
          intro c hc
          apply hrest
          rw [hsplit]
          exact List.mem_head?_append_of_mem_head? hc
        obtain ⟨ls, hls⟩ := Text.exists_lines_append hline hne hbreak
        rw [Text.trimEnd_append_of_not_isBlank _ hblank, hls, htrim]
  constructor
  · rintro ⟨hname, hdeclared⟩
    exact ⟨hname, hfirst.symm.trans hdeclared⟩
  · rintro ⟨hname, hdeclared⟩
    exact ⟨hname, hfirst.trans hdeclared⟩

end Definition

namespace Marker

/-- The characters of a marker up to its colon. -/
inductive Spells : List Char → Prop
  | intro {gap gap' : List Char} (hgap : Text.isBlank gap = true)
      (hgap' : Text.isBlank gap' = true) :
      Spells (['-', '-'] ++ gap ++ ['n', 'a', 'm', 'e'] ++ gap' ++ [':'])

theorem exists_of_dropPrefix? {word cs left : List Char}
    (hdrop : (Text.trimStart cs).dropPrefix? word = some left) :
    ∃ gap, Text.isBlank gap = true ∧ cs = gap ++ word ++ left := by
  rw [List.dropPrefix?_eq_some_iff] at hdrop
  obtain ⟨found, hcs, hsame⟩ := hdrop
  obtain rfl := eq_of_beq hsame
  obtain ⟨gap, hgap, hblank⟩ := Text.exists_eq_append_trimStart cs
  exact ⟨gap, hblank, by rw [List.append_assoc, ← hcs, ← hgap]⟩

theorem dropPrefix?_trimStart {gap word : List Char} (hgap : Text.isBlank gap = true)
    (hhead : ∀ c ∈ word.head?, Text.isSpace c = false) (hne : word ≠ []) (left : List Char) :
    (Text.trimStart (gap ++ word ++ left)).dropPrefix? word = some left := by
  rw [List.append_assoc, Text.trimStart_append_of_isBlank _ hgap, Text.trimStart_eq_self,
    List.dropPrefix?_eq_some_iff]
  · exact ⟨word, rfl, BEq.rfl⟩
  · rwa [List.head?_append_of_ne_nil _ hne]

theorem after?_eq_some_iff {cs left : List Char} :
    after? cs = some left ↔
      ∃ marker gap, Spells marker ∧ Text.isBlank gap = true ∧ cs = marker ++ gap ++ left ∧
        ∀ c ∈ left.head?, Text.isSpace c = false := by
  constructor
  · intro hafter
    have hhead := not_isSpace_head_after? hafter
    rw [after?_eq] at hafter
    simp only [Option.bind_eq_some_iff, Option.map_eq_some_iff] at hafter
    obtain ⟨rest, hdashes, rest', hname, rest'', hcolon, rfl⟩ := hafter
    obtain ⟨dashes, rfl, hsame⟩ := List.dropPrefix?_eq_some_iff.mp hdashes
    obtain rfl := eq_of_beq hsame
    obtain ⟨gap, hgap, rfl⟩ := exists_of_dropPrefix? hname
    obtain ⟨gap', hgap', rfl⟩ := exists_of_dropPrefix? hcolon
    obtain ⟨tail, htail, hblank⟩ := Text.exists_eq_append_trimStart rest''
    refine ⟨_, tail, .intro hgap hgap', hblank, ?_, hhead⟩
    simp only [List.append_assoc, ← htail]
  · rintro ⟨_, tail, ⟨hgap, hgap'⟩, htail, rfl, hhead⟩
    rename_i gap gap'
    have hdashes : (['-', '-'] ++ (gap ++ ['n', 'a', 'm', 'e'] ++
        (gap' ++ [':'] ++ (tail ++ left)))).dropPrefix? ['-', '-'] =
          some (gap ++ ['n', 'a', 'm', 'e'] ++ (gap' ++ [':'] ++ (tail ++ left))) :=
      List.dropPrefix?_eq_some_iff.mpr ⟨['-', '-'], rfl, rfl⟩
    have hspaces : (Text.isSpace 'n' = false) ∧ Text.isSpace ':' = false := by
      decide
    have hcs : ['-', '-'] ++ gap ++ ['n', 'a', 'm', 'e'] ++ gap' ++ [':'] ++ tail ++ left =
        ['-', '-'] ++ (gap ++ ['n', 'a', 'm', 'e'] ++ (gap' ++ [':'] ++ (tail ++ left))) := by
      simp only [List.append_assoc]
    rw [hcs, after?_eq, hdashes, Option.bind_some,
      dropPrefix?_trimStart hgap (by simpa using hspaces.1) (by simp), Option.bind_some,
      dropPrefix?_trimStart hgap' (by simpa using hspaces.2) (by simp), Option.map_some,
      Text.trimStart_append_of_isBlank _ htail, Text.trimStart_eq_self hhead]

end Marker

/-- White space behind the colon of a segment's marker. -/
def Segment.gap (segment : Segment) : List Char :=
  (segment.marker.reverse.takeWhile Text.isSpace).reverse

theorem Segment.gap_of_spells {marker gap : List Char} (hmarker : Marker.Spells marker)
    (hgap : Text.isBlank gap = true) (body : List Char) :
    Segment.gap ⟨marker ++ gap, body⟩ = gap := by
  obtain ⟨hfront, hback⟩ := hmarker
  have hcolon : Text.isSpace ':' = false := by
    decide
  rw [← Text.isBlank_reverse, Text.isBlank, List.all_eq_true] at hgap
  simp [Segment.gap, List.takeWhile_append_of_pos hgap, hcolon]

namespace Segmentation

/-- A text is empty, opens with a character that begins no marker, or opens with a marker. -/
theorem ofText_induction {motive : List Char → Prop} (nil : motive [])
    (plain : ∀ c rest, Marker.after? (c :: rest) = none → motive rest → motive (c :: rest))
    (marked : ∀ marker left, marker ≠ [] → Marker.after? (marker ++ left) = some left →
      motive left → motive (marker ++ left))
    (cs : List Char) : motive cs := by
  induction hsize : cs.length using Nat.strong_induction_on generalizing cs with
  | _ size ih =>
    subst hsize
    cases hafter : Marker.after? cs with
    | none =>
        cases cs with
        | nil => exact nil
        | cons c rest => exact plain c rest hafter (ih _ (Nat.lt_succ_self _) rest rfl)
    | some left =>
        obtain ⟨marker, hne, rfl⟩ := Marker.exists_append_of_after? hafter
        have hshorter : left.length < (marker ++ left).length := by
          have := List.length_pos_of_ne_nil hne
          rw [List.length_append]
          omega
        exact marked marker left hne hafter (ih _ hshorter left rfl)

theorem ofText_cons_of_none {c : Char} {rest : List Char}
    (hafter : Marker.after? (c :: rest) = none) :
    ofText (c :: rest) = (ofText rest).consOpening c :=
  cutAfter_of_none hafter

/-- In front of the first dash no marker begins. -/
theorem opening_append_of_not_mem {front : List Char} (hdash : '-' ∉ front)
    (rest : List Char) :
    (ofText (front ++ rest)).opening = front ++ (ofText rest).opening := by
  induction front with
  | nil => rfl
  | cons c front ih =>
      rw [List.mem_cons, not_or] at hdash
      have hafter : Marker.after? (c :: (front ++ rest)) = none := by
        cases hsome : Marker.after? (c :: (front ++ rest)) with
        | none => rfl
        | some left =>
            obtain ⟨tail, heq⟩ := Marker.dashes_of_after? hsome
            exact absurd (List.cons.inj heq).1.symm hdash.1
      rw [List.cons_append, ofText_cons_of_none hafter, consOpening, ih hdash.2,
        List.cons_append]

/-- The opening ends with the text or at the first marker. -/
theorem exists_opening_append (cs : List Char) :
    ∃ back, cs = (ofText cs).opening ++ back ∧
      (back = [] ∨ (Marker.after? back).isSome) := by
  induction cs using ofText_induction with
  | nil => exact ⟨[], rfl, .inl rfl⟩
  | plain c rest hafter ih =>
      obtain ⟨back, hrest, hback⟩ := ih
      rw [ofText_cons_of_none hafter]
      exact ⟨back, congrArg (c :: ·) hrest, hback⟩
  | marked marker left hne hafter ih =>
      rw [ofText_marker_append hafter hne]
      exact ⟨marker ++ left, rfl, .inr (hafter ▸ rfl)⟩

/-- A segment lies in the text from its marker up to the next one. -/
theorem exists_of_mem_segments {cs : List Char} {segment : Segment}
    (hsegment : segment ∈ (ofText cs).segments) :
    ∃ front back, cs = front ++ (segment.marker ++ (segment.body ++ back)) ∧
      Marker.after? (segment.marker ++ (segment.body ++ back)) = some (segment.body ++ back) ∧
        (back = [] ∨ (Marker.after? back).isSome) := by
  induction cs using ofText_induction with
  | nil => cases hsegment
  | plain c rest hafter ih =>
      rw [ofText_cons_of_none hafter] at hsegment
      obtain ⟨front, back, hrest, hmarker, hback⟩ := ih hsegment
      exact ⟨c :: front, back, congrArg (c :: ·) hrest, hmarker, hback⟩
  | marked marker left hne hafter ih =>
      rw [ofText_marker_append hafter hne, openWith, List.mem_cons] at hsegment
      rcases hsegment with rfl | hsegment
      · obtain ⟨back, hleft, hback⟩ := exists_opening_append left
        refine ⟨[], back, ?_, ?_, hback⟩
        · rw [List.nil_append, ← hleft]
        · rwa [← hleft]
      · obtain ⟨front, back, hleft, hmarker, hback⟩ := ih hsegment
        refine ⟨marker ++ front, back, ?_, hmarker, hback⟩
        rw [List.append_assoc, ← hleft]

end Segmentation

namespace Source

/-- Here a line ends, the text ends, or a marker begins. -/
def Closes (rest : List Char) : Prop :=
  (∀ c ∈ rest.head?, Text.isLineBreak c = true) ∨ (Marker.after? rest).isSome

/-- The text has a marker with the name behind it, the given space between them.  The name has
the suffix of an operation or none, and only white space follows on its line, up to the next
marker if there is one. -/
def NamedBehind (text : List Char) (name : String) (gap : List Char) : Prop :=
  ∃ front marker op pad rest,
    text = front ++ (marker ++ gap ++ (name.toList ++ Operation.suffix op ++ (pad ++ rest))) ∧
      Marker.Spells marker ∧ Text.isBlank gap = true ∧
        Text.isBlank pad = true ∧ Text.Unbroken pad ∧ Closes rest

/-- The name stands on the line of the colon of a marker. -/
def NamedBeside (text : List Char) (name : String) : Prop :=
  ∃ gap, NamedBehind text name gap ∧ Text.Unbroken gap

end Source

def Segment.Names (segment : Segment) (name : String) : Prop :=
  ∃ op, Definition.Declares segment.body ⟨name, op⟩

namespace Source

variable {text : List Char} {name : String}

theorem Closes.append_of_closes {rest back : List Char}
    (hrest : ∀ c ∈ rest.head?, Text.isLineBreak c = true)
    (hback : back = [] ∨ (Marker.after? back).isSome) :
    Closes (rest ++ back) := by
  cases rest with
  | nil =>
      rcases hback with rfl | hback
      · exact .inl (by simp)
      · exact .inr hback
  | cons c rest => exact .inl (by simpa using hrest)

theorem Closes.opening {rest : List Char} (hcloses : Closes rest) :
    ∀ c ∈ (Segmentation.ofText rest).opening.head?, Text.isLineBreak c = true := by
  rcases hcloses with hbreak | hmarker
  · cases rest with
    | nil => simp [Segmentation.ofText, Segmentation.cutAfter]
    | cons d rest =>
        have hd : Text.isLineBreak d = true := hbreak d (by simp)
        have hdash : '-' ∉ [d] := by
          rw [List.mem_singleton]
          rintro rfl
          exact absurd hd (by decide)
        have hopening := Segmentation.opening_append_of_not_mem hdash rest
        rw [List.singleton_append] at hopening
        rw [hopening]
        simpa using hd
  · obtain ⟨left, hafter⟩ := Option.isSome_iff_exists.mp hmarker
    rw [Segmentation.opening_of_after? hafter]
    simp

theorem exists_segment_of_namedBehind (hname : Header.isName name.toList = true)
    {gap : List Char} (hnamed : NamedBehind text name gap) :
    ∃ segment ∈ (Segmentation.ofText text).segments,
      segment.gap = gap ∧ segment.Names name := by
  obtain ⟨front, marker, op, pad, rest, rfl, hmarker, hgap, hpad, hunbroken, hcloses⟩ := hnamed
  let h : Header := ⟨name, op⟩
  have hvalid : Header.isName h.name.toList = true := hname
  have hhead := Header.not_isSpace_head_line_append hvalid
  rw [← Header.toList_line h]
  have hafter : Marker.after? (marker ++ gap ++ (h.line.toList ++ (pad ++ rest))) =
      some (h.line.toList ++ (pad ++ rest)) :=
    Marker.after?_eq_some_iff.mpr ⟨marker, gap, hmarker, hgap, rfl, hhead (pad ++ rest)⟩
  have hne : marker ++ gap ≠ [] := by
    obtain ⟨-, -⟩ := hmarker
    simp
  have hdash : '-' ∉ h.line.toList ++ pad := by
    rw [List.mem_append, not_or]
    refine ⟨Header.dash_not_mem_line hvalid, ?_⟩
    intro hmem
    exact absurd (List.all_eq_true.mp hpad _ hmem) (by decide)
  have hopening : (Segmentation.ofText (h.line.toList ++ (pad ++ rest))).opening =
      h.line.toList ++ pad ++ (Segmentation.ofText rest).opening := by
    rw [← List.append_assoc, Segmentation.opening_append_of_not_mem hdash]
  refine ⟨⟨marker ++ gap, (Segmentation.ofText (h.line.toList ++ (pad ++ rest))).opening⟩, ?_,
    Segment.gap_of_spells hmarker hgap _, op, ?_⟩
  · rw [Segmentation.ofText_append hafter, Segmentation.ofText_marker_append hafter hne]
    simp [Segmentation.followedBy, Segmentation.openWith]
  · have hline : Text.Unbroken (h.line.toList ++ pad) := by
      intro c hc
      rcases List.mem_append.mp hc with hc | hc
      · exact Text.not_isLineBreak_of_not_isSpace (Header.not_isSpace_of_mem_line hvalid hc)
      · exact hunbroken c hc
    have hnil : h.line.toList ++ pad ≠ [] :=
      List.append_ne_nil_of_left_ne_nil (Header.line_ne_nil hvalid) pad
    rw [hopening, Definition.declares_append_iff hline hnil (hhead pad) hcloses.opening,
      Text.trimEnd_append_of_isBlank _ hpad,
      Text.trimEnd_eq_self (Header.trimmed_line hvalid).last]
    exact ⟨hvalid, rfl⟩

theorem namedBehind_of_segment {segment : Segment}
    (hsegment : segment ∈ (Segmentation.ofText text).segments) (hnames : segment.Names name) :
    NamedBehind text name segment.gap := by
  obtain ⟨marker, body⟩ := segment
  obtain ⟨op, hdeclares⟩ := hnames
  obtain ⟨front, back, rfl, hafter, hback⟩ := Segmentation.exists_of_mem_segments hsegment
  obtain ⟨front', gap, hmarker, hgap, hsame, hhead⟩ := Marker.after?_eq_some_iff.mp hafter
  obtain rfl : marker = front' ++ gap := List.append_cancel_right hsame
  have hne : body ≠ [] := by
    rintro rfl
    exact Header.line_ne_nil hdeclares.name hdeclares.line.symm
  rw [List.head?_append_of_ne_nil _ hne] at hhead
  -- the first line of the body holds the header and nothing else but white space
  let line := body.takeWhile fun c => !Text.isLineBreak c
  let rest := body.dropWhile fun c => !Text.isLineBreak c
  have hbody : body = line ++ rest := List.takeWhile_append_dropWhile.symm
  have hline : Text.Unbroken line := by
    intro c hc
    simpa using List.mem_takeWhile_imp hc
  have hrest : ∀ c ∈ rest.head?, Text.isLineBreak c = true := by
    intro c hc
    have hhead := List.head?_dropWhile_not (fun c => !Text.isLineBreak c) body
    rw [Option.mem_def.mp hc] at hhead
    simpa using hhead
  have hopen : ∀ c ∈ line.head?, Text.isSpace c = false := by
    intro c hc
    apply hhead
    rw [hbody]
    exact List.mem_head?_append_of_mem_head? hc
  have hnil : line ≠ [] := by
    intro hnil
    rw [hnil, List.nil_append] at hbody
    obtain ⟨c, tail, rfl⟩ := List.exists_cons_of_ne_nil hne
    have hspace := Text.isSpace_of_isLineBreak (hrest c (by rw [← hbody]; rfl))
    rw [hhead c rfl] at hspace
    contradiction
  rw [hbody, Definition.declares_append_iff hline hnil hopen hrest] at hdeclares
  obtain ⟨pad, hsplit, hpad⟩ := Text.exists_eq_trimEnd_append line
  rw [hdeclares.2, Header.toList_line] at hsplit
  refine ⟨front, front', op, pad, rest ++ back, ?_, hmarker, ?_, hpad, ?_,
    .append_of_closes hrest hback⟩
  · rw [Segment.gap_of_spells hmarker hgap, hbody, hsplit]
    simp only [List.append_assoc]
  · rwa [Segment.gap_of_spells hmarker hgap]
  · intro c hc
    apply hline
    rw [hsplit]
    exact List.mem_append_right _ hc

/-- The names behind the markers of a text are those that its segments declare. -/
theorem namedBehind_iff (hname : Header.isName name.toList = true) {gap : List Char} :
    NamedBehind text name gap ↔
      ∃ segment ∈ (Segmentation.ofText text).segments,
        segment.gap = gap ∧ segment.Names name := by
  constructor
  · exact exists_segment_of_namedBehind hname
  · rintro ⟨segment, hsegment, rfl, hnames⟩
    exact namedBehind_of_segment hsegment hnames

theorem namedBeside_iff (hname : Header.isName name.toList = true) :
    NamedBeside text name ↔
      ∃ segment ∈ (Segmentation.ofText text).segments,
        segment.Names name ∧ Text.Unbroken segment.gap := by
  constructor
  · rintro ⟨gap, hnamed, hunbroken⟩
    obtain ⟨segment, hsegment, rfl, hnames⟩ := (namedBehind_iff hname).mp hnamed
    exact ⟨segment, hsegment, hnames, hunbroken⟩
  · rintro ⟨segment, hsegment, hnames, hunbroken⟩
    exact ⟨segment.gap, namedBehind_of_segment hsegment hnames, hunbroken⟩

end Source

namespace Catalog

/-- A name of a compiled text that opens with a marker is declared by one of its segments. -/
theorem exists_segment_of_compile {options : CompileOptions} {text : String}
    {left : List Char} (hmarker : Marker.after? text.toList = some left) {c : Catalog}
    (hcompiled : (compile options text).outcome = .ok c) {name : String}
    (hname : name ∈ c.names) :
    Header.isName name.toList = true ∧
      ∃ segment ∈ (Segmentation.ofText text.toList).segments, segment.Names name := by
  obtain ⟨qs, hqs, rfl⟩ := exists_queries_of_compile hcompiled
  rw [ofQueries, mem_names_foldl_put] at hname
  obtain ⟨q, hq, rfl⟩ : ∃ q ∈ qs, q.name = name := by simpa [empty, names] using hname
  obtain ⟨definition, hdefinition, hok⟩ := Query.exists_of_mem_ofDefinitions hqs hq
  obtain ⟨h, hdeclares, rfl⟩ := Query.ofDefinition_eq_ok_iff_declares.mp hok
  have hopening : Source.hasCode (Segmentation.ofText text.toList).opening = false := by
    rw [Segmentation.opening_of_after? hmarker]
    rfl
  rw [Source.definitions, hopening] at hdefinition
  obtain ⟨segment, hsegment, rfl⟩ :
      ∃ segment ∈ (Segmentation.ofText text.toList).segments, segment.body = definition := by
    simpa using (List.mem_filter.mp hdefinition).1
  exact ⟨hdeclares.name, segment, hsegment, h.operation, hdeclares⟩

/-- Every name of a compiled text that opens with a marker stands behind the marker of a
segment, past white space only.  It stands on the line of a marker exactly if some segment
that declares it has a marker which breaks no line behind its colon. -/
theorem compile_namedBeside_iff {options : CompileOptions} {text : String}
    {left : List Char} (hmarker : Marker.after? text.toList = some left) {c : Catalog}
    (hcompiled : (compile options text).outcome = .ok c) {name : String}
    (hname : name ∈ c.names) :
    (∃ segment ∈ (Segmentation.ofText text.toList).segments,
        segment.Names name ∧ Source.NamedBehind text.toList name segment.gap) ∧
      (Source.NamedBeside text.toList name ↔
        ∃ segment ∈ (Segmentation.ofText text.toList).segments,
          segment.Names name ∧ Text.Unbroken segment.gap) := by
  obtain ⟨hvalid, segment, hsegment, hnames⟩ :=
    exists_segment_of_compile hmarker hcompiled hname
  have hbehind := Source.namedBehind_of_segment hsegment hnames
  exact ⟨⟨segment, hsegment, hnames, hbehind⟩, Source.namedBeside_iff hvalid⟩

/-- The first name stands beside its marker, with a tab and a wide blank between them, and the
second one below an empty line. -/
theorem compile_namedBeside_iff_wideBlank :
    let text := "--name :\t\u3000add! \r\n-- name:\n\nlist -- name: drop#"
    ∃ left c, Marker.after? text.toList = some left ∧
      (compile {} text).outcome = .ok c ∧ "add" ∈ c.names ∧
      (∃ segment ∈ (Segmentation.ofText text.toList).segments,
          segment.Names "add" ∧ Source.NamedBehind text.toList "add" segment.gap) ∧
        (Source.NamedBeside text.toList "add" ↔
          ∃ segment ∈ (Segmentation.ofText text.toList).segments,
            segment.Names "add" ∧ Text.Unbroken segment.gap) := by
  intro text
  obtain ⟨left, hmarker⟩ : ∃ left, Marker.after? text.toList = some left :=
    Option.isSome_iff_exists.mp (by decide)
  have haccepted :
      ∃ c,
        (compile {} "--name :\t\u3000add! \r\n-- name:\n\nlist -- name: drop#").outcome = .ok c ∧
          c.names = ["add", "list", "drop"] :=
    ⟨_, rfl, rfl⟩
  obtain ⟨c, hcompiled, hnames⟩ := haccepted
  have hname : "add" ∈ c.names := by
    rw [hnames]
    decide
  exact ⟨left, c, hmarker, hcompiled, hname, compile_namedBeside_iff hmarker hcompiled hname⟩

/-- A marker with nothing behind its colon takes the statement on the next line for a name. -/
theorem compile_names_line_below :
    let text := "-- name:\ncommit"
    (Marker.after? text.toList).isSome = true ∧
      (∃ c, (compile {} text).outcome = .ok c ∧ c.names = ["commit"]) ∧
      ¬Source.NamedBeside text.toList "commit" := by
  intro text
  have haccepted :
      ∃ c, (compile {} "-- name:\ncommit").outcome = .ok c ∧ c.names = ["commit"] :=
    ⟨_, rfl, rfl⟩
  have hvalid : Header.isName "commit".toList = true := by
    decide
  have hgaps : ∀ segment ∈ (Segmentation.ofText text.toList).segments,
      ¬Text.Unbroken segment.gap := by
    decide
  refine ⟨by decide, haccepted, ?_⟩
  rw [Source.namedBeside_iff hvalid]
  rintro ⟨segment, hsegment, -, hunbroken⟩
  exact hgaps segment hsegment hunbroken

end Catalog

end QueryBook
