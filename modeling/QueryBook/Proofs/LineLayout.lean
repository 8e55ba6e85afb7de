import QueryBook.Text.Lines
import QueryBook.Proofs.CharacterClasses
import QueryBook.Proofs.Trimming

/-!
# Lines laid out and read back

A line without breaks that is closed by a line feed is read back as it was.  A text whose
only breaks are line feeds falls into its rows, and closing every row by a line feed gives
the text with one more at its end.
-/

namespace QueryBook.Text

def Unbroken (line : List Char) : Prop :=
  ∀ c ∈ line, isLineBreak c = false

instance (line : List Char) : Decidable (Unbroken line) :=
  List.decidableBAll (fun c => isLineBreak c = false) line

theorem isLineBreak_feed : isLineBreak '\n' = true := by
  decide

theorem isLineBreak_return : isLineBreak '\r' = true := by
  decide

theorem lines_of_isLineBreak {c : Char} (rest : List Char)
    (hbreak : isLineBreak c = true) (hreturn : c ≠ '\r') :
    lines (c :: rest) = [] :: lines rest := by
  rw [lines, if_pos hbreak]
  rintro tail rfl -
  exact hreturn rfl

theorem exists_lines_of_isLineBreak {c : Char} (rest : List Char)
    (hbreak : isLineBreak c = true) :
    ∃ ls, lines (c :: rest) = [] :: ls := by
  by_cases hpair : c = '\r' ∧ ∃ tail, rest = '\n' :: tail
  · obtain ⟨rfl, tail, rfl⟩ := hpair
    exact ⟨lines tail, by rw [lines]⟩
  · refine ⟨lines rest, ?_⟩
    rw [lines, if_pos hbreak]
    rintro tail rfl rfl
    exact hpair ⟨rfl, tail, rfl⟩

theorem lines_of_not_isLineBreak {c : Char} (rest : List Char)
    (hbreak : isLineBreak c = false) :
    lines (c :: rest) = consLine c (lines rest) := by
  rw [lines, if_neg (by simp [hbreak])]
  rintro tail rfl -
  rw [isLineBreak_return] at hbreak
  contradiction

theorem lines_append_feed {line : List Char} (hline : Unbroken line) (rest : List Char) :
    lines (line ++ '\n' :: rest) = line :: lines rest := by
  induction line with
  | nil => exact lines_of_isLineBreak rest isLineBreak_feed (by decide)
  | cons c line ih =>
      have hc : isLineBreak c = false := hline c List.mem_cons_self
      have htail : Unbroken line := fun d hd => hline d (List.mem_cons_of_mem c hd)
      rw [List.cons_append, lines_of_not_isLineBreak _ hc, ih htail]
      rfl

theorem lines_of_unbroken {line : List Char} (hline : Unbroken line) (hne : line ≠ []) :
    lines line = [line] := by
  induction line with
  | nil => exact absurd rfl hne
  | cons c line ih =>
      have hc : isLineBreak c = false := hline c List.mem_cons_self
      have htail : Unbroken line := fun d hd => hline d (List.mem_cons_of_mem c hd)
      rw [lines_of_not_isLineBreak _ hc]
      cases line with
      | nil => rfl
      | cons d line =>
          rw [ih htail (List.cons_ne_nil d line)]
          rfl

/-- A row of unbroken characters up to a break or to the end of the text is its first line. -/
theorem exists_lines_append {line rest : List Char} (hline : Unbroken line) (hne : line ≠ [])
    (hrest : ∀ c ∈ rest.head?, isLineBreak c = true) :
    ∃ ls, lines (line ++ rest) = line :: ls := by
  induction line with
  | nil => exact absurd rfl hne
  | cons c line ih =>
      obtain ⟨hc, htail⟩ := List.forall_mem_cons.mp hline
      rw [List.cons_append, lines_of_not_isLineBreak _ hc]
      by_cases hnil : line = []
      · subst line
        cases rest with
        | nil => exact ⟨[], rfl⟩
        | cons d rest =>
            obtain ⟨ls, hls⟩ := exists_lines_of_isLineBreak rest (hrest d rfl)
            exact ⟨ls, by rw [List.nil_append, hls]; rfl⟩
      · obtain ⟨ls, hls⟩ := ih htail hnil
        exact ⟨ls, by rw [hls]; rfl⟩

theorem unbroken_sublist_of_mem_consLine {c : Char} {rest : List Char}
    {ls : List (List Char)} (hc : isLineBreak c = false)
    (hls : ∀ line ∈ ls, Unbroken line ∧ line.Sublist rest) :
    ∀ line ∈ consLine c ls, Unbroken line ∧ line.Sublist (c :: rest) := by
  cases ls with
  | nil => simpa [consLine, Unbroken] using hc
  | cons first others =>
      rw [List.forall_mem_cons] at hls
      obtain ⟨⟨hunbroken, hsublist⟩, hothers⟩ := hls
      have hfirst : Unbroken (c :: first) := List.forall_mem_cons.mpr ⟨hc, hunbroken⟩
      rw [consLine, List.forall_mem_cons]
      refine ⟨⟨hfirst, hsublist.cons_cons c⟩, ?_⟩
      intro line hline
      exact ⟨(hothers line hline).1, (hothers line hline).2.cons c⟩

/-- The lines of a text hold characters of the text only, and no break. -/
theorem unbroken_sublist_of_mem_lines (cs : List Char) :
    ∀ line ∈ lines cs, Unbroken line ∧ line.Sublist cs := by
  have hempty (rest : List Char) : Unbroken [] ∧ [].Sublist rest :=
    ⟨by simp [Unbroken], List.nil_sublist rest⟩
  fun_induction lines cs with
  | case1 => simp
  | case2 rest ih =>
      rw [List.forall_mem_cons]
      refine ⟨hempty _, fun line hline => ?_⟩
      exact ⟨(ih line hline).1, ((ih line hline).2.cons _).cons _⟩
  | case3 c rest _ hbreak ih =>
      rw [List.forall_mem_cons]
      refine ⟨hempty _, fun line hline => ?_⟩
      exact ⟨(ih line hline).1, (ih line hline).2.cons c⟩
  | case4 c rest _ hbreak ih =>
      exact unbroken_sublist_of_mem_consLine (by simpa using hbreak) ih

theorem Unbroken.feed_not_mem {line : List Char} (hline : Unbroken line) : '\n' ∉ line := by
  intro hfeed
  have hbreak := hline _ hfeed
  rw [isLineBreak_feed] at hbreak
  contradiction

theorem unlines_cons (line : List Char) (ls : List (List Char)) :
    unlines (line :: ls) = line ++ '\n' :: unlines ls := by
  simp [unlines]

theorem lines_unlines {ls : List (List Char)} (hls : ∀ line ∈ ls, Unbroken line) :
    lines (unlines ls) = ls := by
  induction ls with
  | nil => rfl
  | cons line ls ih =>
      obtain ⟨hline, hrest⟩ := List.forall_mem_cons.mp hls
      rw [unlines_cons, lines_append_feed hline, ih hrest]

theorem isBlank_unlines_iff {ls : List (List Char)} :
    isBlank (unlines ls) = true ↔ ∀ line ∈ ls, isBlank line = true := by
  have hfeed : isSpace '\n' = true := isSpace_of_isLineBreak isLineBreak_feed
  induction ls with
  | nil => simp [unlines, isBlank]
  | cons line ls ih =>
      have hsplit :
          isBlank (unlines (line :: ls)) = (isBlank line && isBlank (unlines ls)) := by
        rw [unlines_cons, isBlank, List.all_append, List.all_cons, hfeed, Bool.true_and]
        rfl
      rw [hsplit, Bool.and_eq_true, List.forall_mem_cons]
      exact and_congr_right' ih

theorem getLast?_consLine {ls : List (List Char)} {line : List Char} {c : Char} (d : Char)
    (hline : ls.getLast? = some line) (hlast : line.getLast? = some c) :
    ∃ line', (consLine d ls).getLast? = some line' ∧ line'.getLast? = some c := by
  cases ls with
  | nil => cases hline
  | cons first others =>
      cases others with
      | nil =>
          obtain rfl : first = line := by simpa using hline
          exact ⟨d :: first, rfl, List.mem_getLast?_cons hlast⟩
      | cons second others => exact ⟨line, by simpa [consLine] using hline, hlast⟩

/-- The last line of a text ends like the text if that ends within a line. -/
theorem getLast?_lines {cs : List Char} {c : Char}
    (hlast : cs.getLast? = some c) (hbreak : isLineBreak c = false) :
    ∃ line, (lines cs).getLast? = some line ∧ line.getLast? = some c := by
  -- a break does not end the text, so the last line is one of the rest
  have hbehind {d : Char} {rest : List Char} {ls : List (List Char)}
      (hd : isLineBreak d = true) (hrest : (d :: rest).getLast? = some c)
      (ih : rest.getLast? = some c →
        ∃ line, ls.getLast? = some line ∧ line.getLast? = some c) :
      ∃ line, ([] :: ls).getLast? = some line ∧ line.getLast? = some c := by
    cases rest with
    | nil =>
        obtain rfl : d = c := by simpa using hrest
        rw [hd] at hbreak
        contradiction
    | cons e rest =>
        obtain ⟨line, hline, hend⟩ := ih (by simpa using hrest)
        exact ⟨line, List.mem_getLast?_cons hline, hend⟩
  fun_induction lines cs with
  | case1 => contradiction
  | case2 rest ih =>
      have hfeed : ('\n' :: rest).getLast? = some c := by simpa using hlast
      exact hbehind isLineBreak_feed hfeed ih
  | case3 d rest _ hd ih => exact hbehind hd hlast ih
  | case4 d rest _ hd ih =>
      cases rest with
      | nil => exact ⟨[d], rfl, hlast⟩
      | cons e rest =>
          obtain ⟨line, hline, hend⟩ := ih (by simpa using hlast)
          exact getLast?_consLine d hline hend

/-- The only breaks of lines laid out are the feeds that close them. -/
theorem eq_feed_of_mem_unlines {ls : List (List Char)} (hls : ∀ line ∈ ls, Unbroken line)
    {c : Char} (hc : c ∈ unlines ls) (hbreak : isLineBreak c = true) :
    c = '\n' := by
  simp only [unlines, List.mem_flatMap, List.mem_append, List.mem_singleton] at hc
  obtain ⟨line, hline, hmem | rfl⟩ := hc
  · have hunbroken := hls line hline c hmem
    rw [hbreak] at hunbroken
    contradiction
  · rfl

/-- Trimming the end of a text trims the first line only if nothing but white space follows
it. -/
theorem lines_trimEnd_append_feed {line : List Char} (hline : Unbroken line)
    (hblank : isBlank line = false) (rest : List Char) :
    lines (trimEnd (line ++ '\n' :: rest)) =
      (if isBlank rest then trimEnd line else line) :: lines (trimEnd rest) := by
  have hfeed : isSpace '\n' = true := isSpace_of_isLineBreak isLineBreak_feed
  cases hrest : isBlank rest with
  | true =>
      have htail : isBlank ('\n' :: rest) = true := by
        rw [isBlank] at hrest
        rw [isBlank, List.all_cons, hfeed, hrest]
        rfl
      have hfront : Unbroken (trimEnd line) :=
        fun c hc => hline c (mem_of_mem_trimEnd hc)
      have hne : trimEnd line ≠ [] := by
        rw [Ne, trimEnd_eq_nil_iff, hblank]
        exact Bool.false_ne_true
      rw [trimEnd_append_of_isBlank line htail, lines_of_unbroken hfront hne,
        trimEnd_eq_nil_iff.mpr hrest]
      rfl
  | false =>
      have hsplit : line ++ '\n' :: rest = (line ++ ['\n']) ++ rest := by
        rw [List.append_assoc]
        rfl
      rw [hsplit, trimEnd_append_of_not_isBlank _ hrest, List.append_assoc,
        List.singleton_append, lines_append_feed hline]
      rfl

abbrev feedRows (cs : List Char) : List (List Char) :=
  rows (fun c => c == '\n') cs

theorem feedRows_cons_feed (rest : List Char) :
    feedRows ('\n' :: rest) = [] :: feedRows rest := by
  rfl

theorem feedRows_cons_of_ne {c : Char} (hc : c ≠ '\n') (rest : List Char) :
    feedRows (c :: rest) = consLine c (feedRows rest) := by
  simp [feedRows, rows, hc]

theorem unlines_consLine (c : Char) (line : List Char) (ls : List (List Char)) :
    unlines (consLine c (line :: ls)) = c :: unlines (line :: ls) := by
  rfl

theorem feedRows_ne_nil (cs : List Char) : feedRows cs ≠ [] := by
  cases cs with
  | nil => simp [feedRows, rows]
  | cons c rest =>
      by_cases hc : c = '\n'
      · subst c
        simp [feedRows_cons_feed]
      · rw [feedRows_cons_of_ne hc]
        cases feedRows rest <;> simp [consLine]

theorem unlines_feedRows (cs : List Char) : unlines (feedRows cs) = cs ++ ['\n'] := by
  induction cs with
  | nil => rfl
  | cons c rest ih =>
      by_cases hc : c = '\n'
      · subst c
        rw [feedRows_cons_feed, unlines, List.flatMap_cons]
        exact congrArg ('\n' :: ·) ih
      · obtain ⟨line, ls, hrows⟩ := List.exists_cons_of_ne_nil (feedRows_ne_nil rest)
        rw [feedRows_cons_of_ne hc, hrows, unlines_consLine, ← hrows, ih]
        rfl

/-- A text whose only breaks are line feeds, with no feed at its end, is read as its rows. -/
theorem lines_eq_feedRows {cs : List Char}
    (hbreaks : ∀ c ∈ cs, isLineBreak c = true → c = '\n')
    (hne : cs ≠ []) (hlast : cs.getLast? ≠ some '\n') :
    lines cs = feedRows cs := by
  induction cs with
  | nil => exact absurd rfl hne
  | cons c rest ih =>
      have hrest : ∀ d ∈ rest, isLineBreak d = true → d = '\n' :=
        fun d hd => hbreaks d (List.mem_cons_of_mem c hd)
      have htail : lines rest = feedRows rest ∨ rest = [] ∧ c ≠ '\n' := by
        cases rest with
        | nil => exact Or.inr ⟨rfl, by simpa using hlast⟩
        | cons d rest =>
            left
            apply ih hrest (List.cons_ne_nil d rest)
            simpa using hlast
      by_cases hc : c = '\n'
      · subst c
        rcases htail with htail | ⟨-, hfeed⟩
        · rw [lines_of_isLineBreak rest isLineBreak_feed (by decide), htail,
            feedRows_cons_feed]
        · exact absurd rfl hfeed
      · have hbreak : isLineBreak c = false := by
          by_contra hbreak
          exact hc (hbreaks c List.mem_cons_self (by simpa using hbreak))
        rw [lines_of_not_isLineBreak rest hbreak, feedRows_cons_of_ne hc]
        rcases htail with htail | ⟨rfl, -⟩
        · rw [htail]
        · rfl

theorem Trimmed.lines_eq_feedRows {cs : List Char} (htrimmed : Trimmed cs)
    (hbreaks : ∀ c ∈ cs, isLineBreak c = true → c = '\n') (hne : cs ≠ []) :
    lines cs = feedRows cs := by
  apply Text.lines_eq_feedRows hbreaks hne
  intro hlast
  have hbreak := not_isLineBreak_of_not_isSpace (htrimmed.last _ hlast)
  rw [isLineBreak_feed] at hbreak
  contradiction

/-- Rows and lines differ for the empty text only, which has one empty row. -/
theorem Trimmed.forall_mem_feedRows_iff {cs : List Char} (htrimmed : Trimmed cs)
    (hbreaks : ∀ c ∈ cs, isLineBreak c = true → c = '\n')
    {p : List Char → Prop} (hnil : p []) :
    (∀ row ∈ feedRows cs, p row) ↔ ∀ line ∈ lines cs, p line := by
  by_cases hne : cs = []
  · subst cs
    simp [feedRows, rows, lines, hnil]
  · rw [htrimmed.lines_eq_feedRows hbreaks hne]

end QueryBook.Text
