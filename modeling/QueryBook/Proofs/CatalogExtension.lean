import QueryBook.Proofs.CatalogUpdate
import QueryBook.Proofs.CompiledDefinition
import Mathlib.Data.List.Forall2

/-!
# Extending a catalog

Definitions enter a catalog one by one, and the first that is refused ends the row.  A row is
thus admitted as a whole or up to one definition, and this alone settles its notices and its
outcome.  Where names may be redefined the outcome is that of compiling every definition by
itself and putting all the queries in.  Where they may not, the row succeeds exactly if every
definition is valid and no name comes twice, the names of the catalog at the start included.
-/

namespace QueryBook

/-- The queries of a row of definitions, or the first error among them. -/
def Query.ofDefinitions (texts : List (List Char)) : Except CompileError (List Query) :=
  texts.mapM Query.ofDefinition

namespace Query

theorem ofDefinitions_cons_of_error {text : List Char} {e : CompileError}
    (hfailed : ofDefinition text = .error e) (rest : List (List Char)) :
    ofDefinitions (text :: rest) = .error e := by
  rw [ofDefinitions, List.mapM_cons, hfailed]
  rfl

theorem ofDefinitions_cons_of_ok {text : List Char} {q : Query}
    (hcompiled : ofDefinition text = .ok q) (rest : List (List Char)) :
    ofDefinitions (text :: rest) = (ofDefinitions rest).map (q :: ·) := by
  rw [ofDefinitions, List.mapM_cons, hcompiled]
  unfold ofDefinitions
  cases rest.mapM ofDefinition <;> rfl

theorem ofDefinitions_cons_eq_ok_iff
    {text : List Char} {rest : List (List Char)} {qs : List Query} :
    ofDefinitions (text :: rest) = .ok qs ↔
      ∃ q tail, ofDefinition text = .ok q ∧ ofDefinitions rest = .ok tail ∧
        qs = q :: tail := by
  cases hcompiled : ofDefinition text with
  | error e => simp [ofDefinitions_cons_of_error hcompiled]
  | ok q =>
      rw [ofDefinitions_cons_of_ok hcompiled]
      cases ofDefinitions rest with
      | error e => simp [Except.map]
      | ok tail => simp [Except.map, eq_comm]

theorem length_ofDefinitions {texts : List (List Char)} {qs : List Query}
    (hcompiled : ofDefinitions texts = .ok qs) :
    qs.length = texts.length := by
  induction texts generalizing qs with
  | nil =>
      obtain rfl : [] = qs := Except.ok.inj hcompiled
      rfl
  | cons text rest ih =>
      obtain ⟨q, tail, -, htail, rfl⟩ := ofDefinitions_cons_eq_ok_iff.mp hcompiled
      rw [List.length_cons, List.length_cons, ih htail]

theorem exists_of_mem_ofDefinitions {texts : List (List Char)} {qs : List Query}
    (hcompiled : ofDefinitions texts = .ok qs) {q : Query} (hq : q ∈ qs) :
    ∃ text ∈ texts, ofDefinition text = .ok q := by
  induction texts generalizing qs with
  | nil =>
      obtain rfl : [] = qs := Except.ok.inj hcompiled
      contradiction
  | cons text rest ih =>
      obtain ⟨p, tail, hp, htail, rfl⟩ := ofDefinitions_cons_eq_ok_iff.mp hcompiled
      rcases List.mem_cons.mp hq with rfl | hmem
      · exact ⟨text, List.mem_cons_self, hp⟩
      · obtain ⟨other, hother, hcompiled⟩ := ih htail hmem
        exact ⟨other, List.mem_cons_of_mem _ hother, hcompiled⟩

theorem ofDefinitions_append (texts rest : List (List Char)) :
    ofDefinitions (texts ++ rest) =
      match ofDefinitions texts, ofDefinitions rest with
      | .error e, _ => .error e
      | .ok _, .error e => .error e
      | .ok qs, .ok qs' => .ok (qs ++ qs') := by
  unfold ofDefinitions
  rw [List.mapM_append]
  cases texts.mapM ofDefinition with
  | error e => rfl
  | ok qs => cases rest.mapM ofDefinition <;> rfl

end Query

namespace Catalog

variable {options : CompileOptions} {c : Catalog}

/-! ## One definition -/

theorem extend_nil (options : CompileOptions) (c : Catalog) :
    extend options c [] = ⟨[.compiled c.size], .ok c⟩ :=
  rfl

theorem extend_cons_of_error
    {text : List Char} {e : CompileError} (hfailed : Query.ofDefinition text = .error e)
    (rest : List (List Char)) :
    extend options c (text :: rest) = ⟨[], .error e⟩ := by
  unfold extend
  simp only [compileDefinition_of_error hfailed]

theorem extend_cons_of_ok
    {text : List Char} {q : Query} (hcompiled : Query.ofDefinition text = .ok q)
    (rest : List (List Char)) :
    extend options c (text :: rest) =
      if options.onDuplicate = .error ∧ c.contains q.name then
        ⟨options.nameNotices q.name, .error (.duplicateName q.name)⟩
      else
        ⟨options.nameNotices q.name ++ c.entryNotices q.name ++
            (extend options (c.put q) rest).notices,
          (extend options (c.put q) rest).outcome⟩ := by
  rw [extend.eq_def]
  simp only [compileDefinition_of_ok hcompiled]

theorem extend_cons_of_enters
    {text : List Char} {q : Query} (hcompiled : Query.ofDefinition text = .ok q)
    (henters : options.onDuplicate = .error → q.name ∉ c.names) (rest : List (List Char)) :
    extend options c (text :: rest) =
      ⟨options.nameNotices q.name ++ c.entryNotices q.name ++
          (extend options (c.put q) rest).notices,
        (extend options (c.put q) rest).outcome⟩ := by
  rw [extend_cons_of_ok hcompiled]
  refine if_neg ?_
  rintro ⟨hpolicy, hcontains⟩
  exact henters hpolicy (contains_eq_true_iff.mp hcontains)

/-- Definitions enter alike if they compile alike one by one. -/
theorem extend_congr {texts others : List (List Char)}
    (hsame : List.Forall₂ (fun text other => Query.ofDefinition text = Query.ofDefinition other)
      texts others) :
    extend options c texts = extend options c others := by
  induction hsame generalizing c with
  | nil => rfl
  | @cons text other texts others hsame _ ih =>
      cases hcompiled : Query.ofDefinition text with
      | error e =>
          rw [extend_cons_of_error hcompiled, extend_cons_of_error (hsame ▸ hcompiled)]
      | ok q =>
          rw [extend_cons_of_ok hcompiled, extend_cons_of_ok (hsame ▸ hcompiled), ih]

/-! ## Rows of definitions -/

/-- The notices of queries that enter a catalog one by one. -/
def enteringNotices (options : CompileOptions) : Catalog → List Query → List Notice
  | _, [] => []
  | c, q :: qs =>
    options.nameNotices q.name ++ c.entryNotices q.name ++
      enteringNotices options (c.put q) qs

/-- Every definition of a row enters the catalog that holds the earlier ones. -/
structure Admits (options : CompileOptions) (c : Catalog) (texts : List (List Char))
    (qs : List Query) : Prop where
  compiled : Query.ofDefinitions texts = .ok qs
  fresh : options.onDuplicate = .error → (c.names ++ qs.map Query.name).Nodup

/-- Why a definition may not enter behind names that are taken. -/
inductive Refuses (options : CompileOptions) (taken : List String) (text : List Char) :
    CompileError → Prop where
  | invalid {name : String} (hfailed : Query.ofDefinition text = .error (.invalidName name)) :
      Refuses options taken text (.invalidName name)
  | taken {q : Query} (hpolicy : options.onDuplicate = .error)
      (hcompiled : Query.ofDefinition text = .ok q) (htaken : q.name ∈ taken) :
      Refuses options taken text (.duplicateName q.name)

theorem admits_nil (options : CompileOptions) (c : Catalog) : Admits options c [] [] where
  compiled := rfl
  fresh _ := by
    rw [List.map_nil, List.append_nil]
    exact c.nodup

theorem Admits.of_cons {text : List Char} {rest : List (List Char)} {qs : List Query}
    (hadmits : Admits options c (text :: rest) qs) :
    ∃ q tail, qs = q :: tail ∧ Query.ofDefinition text = .ok q ∧
      (options.onDuplicate = .error → q.name ∉ c.names) ∧
        Admits options (c.put q) rest tail := by
  obtain ⟨q, tail, hq, htail, rfl⟩ := Query.ofDefinitions_cons_eq_ok_iff.mp hadmits.compiled
  have henters : options.onDuplicate = .error → q.name ∉ c.names := by
    intro hpolicy htaken
    have hnodup := hadmits.fresh hpolicy
    rw [List.map_cons, List.nodup_append] at hnodup
    exact hnodup.2.2 _ htaken q.name List.mem_cons_self rfl
  refine ⟨q, tail, rfl, hq, henters, htail, ?_⟩
  intro hpolicy
  rw [names_put, if_neg (henters hpolicy)]
  simpa using hadmits.fresh hpolicy

theorem Admits.append_singleton {texts : List (List Char)} {qs : List Query}
    (hadmits : Admits options c texts qs) {text : List Char} {q : Query}
    (hcompiled : Query.ofDefinition text = .ok q)
    (henters : options.onDuplicate = .error → q.name ∉ c.names ++ qs.map Query.name) :
    Admits options c (texts ++ [text]) (qs ++ [q]) where
  compiled := by
    rw [Query.ofDefinitions_append, hadmits.compiled, Query.ofDefinitions_cons_of_ok hcompiled]
    rfl
  fresh hpolicy := by
    rw [List.map_append, ← List.append_assoc, List.map_singleton, ← List.concat_eq_append]
    exact (hadmits.fresh hpolicy).concat (henters hpolicy)

/-- A row is admitted as a whole, or up to the first definition that is refused. -/
theorem admits_or_refuses (options : CompileOptions) (c : Catalog) (texts : List (List Char)) :
    (∃ qs, Admits options c texts qs) ∨
      ∃ front failing back qs e, texts = front ++ failing :: back ∧
        Admits options c front qs ∧
          Refuses options (c.names ++ qs.map Query.name) failing e := by
  -- from the back, since a refusal stands whatever follows it
  induction texts using List.reverseRecOn with
  | nil => exact Or.inl ⟨[], admits_nil options c⟩
  | append_singleton texts text ih =>
      rcases ih with ⟨qs, hadmits⟩ | ⟨front, failing, back, qs, e, rfl, hadmits, hrefuses⟩
      · cases hcompiled : Query.ofDefinition text with
        | error e =>
            obtain ⟨name, rfl⟩ := Query.eq_invalidName_of_ofDefinition hcompiled
            exact Or.inr ⟨texts, text, [], qs, _, rfl, hadmits, .invalid hcompiled⟩
        | ok q =>
            by_cases htaken :
                options.onDuplicate = .error ∧ q.name ∈ c.names ++ qs.map Query.name
            · exact Or.inr ⟨texts, text, [], qs, _, rfl, hadmits,
                .taken htaken.1 hcompiled htaken.2⟩
            · exact Or.inl ⟨_, hadmits.append_singleton hcompiled fun hpolicy hmem =>
                htaken ⟨hpolicy, hmem⟩⟩
      · exact Or.inr ⟨front, failing, back ++ [text], qs, e, by simp, hadmits, hrefuses⟩

/-- Definitions that are admitted put their queries in, and the rest goes on from there. -/
theorem extend_append_of_admits {texts : List (List Char)} {qs : List Query}
    (hadmits : Admits options c texts qs) (rest : List (List Char)) :
    extend options c (texts ++ rest) =
      ⟨enteringNotices options c qs ++ (extend options (qs.foldl put c) rest).notices,
        (extend options (qs.foldl put c) rest).outcome⟩ := by
  induction texts generalizing c qs with
  | nil =>
      obtain rfl : [] = qs := Except.ok.inj hadmits.compiled
      rfl
  | cons text texts ih =>
      obtain ⟨q, tail, rfl, hcompiled, henters, hrest⟩ := hadmits.of_cons
      rw [List.cons_append, extend_cons_of_enters hcompiled henters, ih hrest]
      simp only [enteringNotices, List.append_assoc, List.foldl_cons]

theorem extend_of_admits {texts : List (List Char)} {qs : List Query}
    (hadmits : Admits options c texts qs) :
    extend options c texts =
      ⟨enteringNotices options c qs ++ [.compiled (qs.foldl put c).size],
        .ok (qs.foldl put c)⟩ := by
  have hwhole := extend_append_of_admits hadmits []
  rwa [List.append_nil, extend_nil] at hwhole

theorem mem_names_foldl_put {qs : List Query} {name : String} :
    name ∈ (qs.foldl put c).names ↔ name ∈ c.names ++ qs.map Query.name := by
  induction qs generalizing c with
  | nil => simp
  | cons q qs ih =>
      rw [List.foldl_cons, ih]
      simp only [List.mem_append, mem_names_put, List.map_cons, List.mem_cons, or_assoc]

/-- The first definition that is refused ends the row, and nothing behind it bears on what is
said or answered. -/
theorem extend_of_refuses
    {front back : List (List Char)} {failing : List Char} {qs : List Query} {e : CompileError}
    (hadmits : Admits options c front qs)
    (hrefuses : Refuses options (c.names ++ qs.map Query.name) failing e) :
    extend options c (front ++ failing :: back) =
      ⟨enteringNotices options c qs ++ (compileDefinition options failing).notices,
        .error e⟩ := by
  rw [extend_append_of_admits hadmits]
  cases hrefuses with
  | invalid hfailed =>
      rw [extend_cons_of_error hfailed, compileDefinition_of_error hfailed]
  | taken hpolicy hcompiled htaken =>
      have hcontains : (qs.foldl put c).contains _ :=
        contains_eq_true_iff.mpr (mem_names_foldl_put.mpr htaken)
      rw [extend_cons_of_ok hcompiled, if_pos ⟨hpolicy, hcontains⟩,
        compileDefinition_of_ok hcompiled]

theorem extend_eq_ok_iff {texts : List (List Char)} {d : Catalog} :
    (extend options c texts).outcome = .ok d ↔
      ∃ qs, Admits options c texts qs ∧ d = qs.foldl put c := by
  constructor
  · intro hok
    rcases admits_or_refuses options c texts with
      ⟨qs, hadmits⟩ | ⟨front, failing, back, qs, e, rfl, hadmits, hrefuses⟩
    · rw [extend_of_admits hadmits] at hok
      exact ⟨qs, hadmits, (Except.ok.inj hok).symm⟩
    · rw [extend_of_refuses hadmits hrefuses] at hok
      cases hok
  · rintro ⟨qs, hadmits, rfl⟩
    rw [extend_of_admits hadmits]

theorem extend_eq_error_iff {texts : List (List Char)} {e : CompileError} :
    (extend options c texts).outcome = .error e ↔
      ∃ front failing back qs, texts = front ++ failing :: back ∧
        Admits options c front qs ∧
          Refuses options (c.names ++ qs.map Query.name) failing e := by
  constructor
  · intro herror
    rcases admits_or_refuses options c texts with
      ⟨qs, hadmits⟩ | ⟨front, failing, back, qs, e', rfl, hadmits, hrefuses⟩
    · rw [extend_of_admits hadmits] at herror
      cases herror
    · rw [extend_of_refuses hadmits hrefuses] at herror
      obtain rfl := Except.error.inj herror
      exact ⟨front, failing, back, qs, rfl, hadmits, hrefuses⟩
  · rintro ⟨front, failing, back, qs, rfl, hadmits, hrefuses⟩
    rw [extend_of_refuses hadmits hrefuses]

/-! ## The two policies -/

theorem extend_overwrite (hpolicy : options.onDuplicate = .overwrite)
    (c : Catalog) (texts : List (List Char)) :
    (extend options c texts).outcome =
      (Query.ofDefinitions texts).map fun qs => qs.foldl put c := by
  have hlenient : options.onDuplicate ≠ .error := by
    rw [hpolicy]
    decide
  rcases admits_or_refuses options c texts with
    ⟨qs, hadmits⟩ | ⟨front, failing, back, qs, e, rfl, hadmits, hrefuses⟩
  · rw [extend_of_admits hadmits, hadmits.compiled]
    rfl
  · rw [extend_of_refuses hadmits hrefuses, Query.ofDefinitions_append, hadmits.compiled]
    cases hrefuses with
    | invalid hfailed =>
        rw [Query.ofDefinitions_cons_of_error hfailed]
        rfl
    | taken hstrict => exact absurd hstrict hlenient

theorem extend_error_eq_ok_iff (hpolicy : options.onDuplicate = .error)
    {d : Catalog} {texts : List (List Char)} :
    (extend options c texts).outcome = .ok d ↔
      ∃ qs, Query.ofDefinitions texts = .ok qs ∧
        (c.names ++ qs.map Query.name).Nodup ∧ d = qs.foldl put c := by
  rw [extend_eq_ok_iff]
  constructor
  · rintro ⟨qs, hadmits, rfl⟩
    exact ⟨qs, hadmits.compiled, hadmits.fresh hpolicy, rfl⟩
  · rintro ⟨qs, hcompiled, hnodup, rfl⟩
    exact ⟨qs, ⟨hcompiled, fun _ => hnodup⟩, rfl⟩

theorem compile_overwrite (hpolicy : options.onDuplicate = .overwrite)
    (text : String) :
    (compile options text).outcome =
      (Query.ofDefinitions (Source.definitions text.toList)).map ofQueries :=
  extend_overwrite hpolicy empty _

theorem compile_error_eq_ok_iff (hpolicy : options.onDuplicate = .error) {text : String} :
    (compile options text).outcome = .ok c ↔
      ∃ qs, Query.ofDefinitions (Source.definitions text.toList) = .ok qs ∧
        (qs.map Query.name).Nodup ∧ c = ofQueries qs :=
  extend_error_eq_ok_iff hpolicy

/-- Under either policy a compiled catalog holds queries of the text's definitions. -/
theorem exists_queries_of_compile {text : String}
    (hcompiled : (compile options text).outcome = .ok c) :
    ∃ qs, Query.ofDefinitions (Source.definitions text.toList) = .ok qs ∧
      c = ofQueries qs := by
  obtain ⟨qs, hadmits, rfl⟩ := extend_eq_ok_iff.mp hcompiled
  exact ⟨qs, hadmits.compiled, rfl⟩

end Catalog

end QueryBook
