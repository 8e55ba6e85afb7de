import QueryBook.Proofs.CatalogExtension

/-!
# What compiling reports

The notices of a text are settled by the names of its definitions.  Every name that enters the
catalog is reported for letters beyond ASCII, for an earlier definition of the same name, and
for an attribute of catalogs that hides it, in this order.  A text that is accepted ends with a
count of its queries, and every definition is either counted there or reported as defined
again.  A refusal leaves the notices of the definitions in front of it.
-/

namespace QueryBook

namespace Notice

/-- Catalogs have attributes of these names. -/
def shadowedNames : List String :=
  ["available_queries", "get", "items", "keys", "values"]

def ExceedsAscii (name : String) : Prop :=
  ∃ c ∈ name.toList, 0x7F < c.toNat

instance (name : String) : Decidable (ExceedsAscii name) :=
  List.decidableBEx (fun c : Char => 0x7F < c.toNat) name.toList

def dueToLetters (options : CompileOptions) (name : String) : List Notice :=
  if options.warnNonAscii ∧ ExceedsAscii name then [.nonAsciiName name] else []

/-- The notices due to a name that is defined behind others. -/
def dueToName (options : CompileOptions) (earlier : List String) (name : String) :
    List Notice :=
  dueToLetters options name ++
    (if name ∈ earlier then [.redefined name] else []) ++
    if name ∈ shadowedNames then [.shadowed name] else []

/-- The notices due to a row of names that are defined one by one. -/
def dueToNames (options : CompileOptions) : List String → List String → List Notice
  | _, [] => []
  | earlier, name :: later =>
    dueToName options earlier name ++ dueToNames options (earlier ++ [name]) later

def isRedefinition : Notice → Bool
  | redefined _ => true
  | _ => false

/-- A notice that serves tracing and warns of nothing. -/
def isTrace (notice : Notice) : Bool :=
  notice.level = 10

theorem filter_isTrace_dueToLetters (options : CompileOptions) (name : String) :
    (dueToLetters options name).filter isTrace = [] := by
  rw [dueToLetters]
  split <;> rfl

theorem filter_isTrace_dueToName (options : CompileOptions) (earlier : List String)
    (name : String) :
    (dueToName options earlier name).filter isTrace = [] := by
  rw [dueToName, List.filter_append, List.filter_append, filter_isTrace_dueToLetters]
  split <;> split <;> rfl

theorem filter_isTrace_dueToNames (options : CompileOptions) (earlier names : List String) :
    (dueToNames options earlier names).filter isTrace = [] := by
  induction names generalizing earlier with
  | nil => rfl
  | cons name later ih =>
      rw [dueToNames, List.filter_append, filter_isTrace_dueToName, ih]
      rfl

end Notice

/-! ## Names -/

theorem isAsciiName_eq_false_iff {name : String} (hname : Header.isName name.toList = true) :
    isAsciiName name = false ↔ Notice.ExceedsAscii name := by
  have hword := (Header.isName_iff.mp hname).2
  rw [isAsciiName, List.all_eq_false, Notice.ExceedsAscii]
  refine exists_congr fun c => and_congr_right fun hmem => ?_
  rw [Bool.or_eq_true, decide_eq_true_iff, Text.isAlphanum_or_underscore_iff (hword c hmem),
    Nat.not_le]

theorem nameNotices_eq_dueToLetters {name : String} (hname : Header.isName name.toList = true)
    (options : CompileOptions) :
    options.nameNotices name = Notice.dueToLetters options name := by
  rw [CompileOptions.nameNotices, Notice.dueToLetters]
  refine if_congr ?_ rfl rfl
  rw [Bool.and_eq_true, Bool.not_eq_true', isAsciiName_eq_false_iff hname]

theorem isName_of_ofDefinition {text : List Char} {q : Query}
    (hcompiled : Query.ofDefinition text = .ok q) :
    Header.isName q.name.toList = true := by
  obtain ⟨h, hdeclares, rfl⟩ := Query.ofDefinition_eq_ok_iff_declares.mp hcompiled
  exact hdeclares.name

namespace Catalog

theorem isReserved_iff {name : String} :
    isReserved name = true ↔ name ∈ Notice.shadowedNames := by
  have hnames : reservedNames = Notice.shadowedNames := by
    decide +kernel
  rw [isReserved, hnames, List.contains_iff_mem]

theorem entryNotices_eq (c : Catalog) (name : String) :
    c.entryNotices name =
      (if name ∈ c.names then [.redefined name] else []) ++
        if name ∈ Notice.shadowedNames then [.shadowed name] else [] := by
  simp only [entryNotices, contains_eq_true_iff, isReserved_iff]

/-! ## Rows of queries -/

theorem enteringNotices_eq_dueToNames (options : CompileOptions) {qs : List Query}
    (hnames : ∀ q ∈ qs, Header.isName q.name.toList = true)
    {c : Catalog} {earlier : List String}
    (hearlier : ∀ name, name ∈ earlier ↔ name ∈ c.names) :
    enteringNotices options c qs =
      Notice.dueToNames options earlier (qs.map Query.name) := by
  -- the earlier names may repeat, but they are the names of the catalog throughout
  induction qs generalizing c earlier with
  | nil => rfl
  | cons q qs ih =>
      obtain ⟨hname, hrest⟩ := List.forall_mem_cons.mp hnames
      have hput : ∀ name, name ∈ earlier ++ [q.name] ↔ name ∈ (c.put q).names := by
        intro name
        rw [mem_names_put, List.mem_append, List.mem_singleton, hearlier]
      rw [enteringNotices, List.map_cons, Notice.dueToNames, Notice.dueToName,
        ih hrest hput, nameNotices_eq_dueToLetters hname, entryNotices_eq]
      simp only [hearlier, List.append_assoc]

theorem size_put (c : Catalog) (q : Query) :
    (c.put q).size = if q.name ∈ c.names then c.size else c.size + 1 := by
  have hsize (c : Catalog) : c.size = c.names.length := (List.length_map Query.name).symm
  rw [hsize, names_put, hsize]
  split
  · rfl
  · exact List.length_append

theorem countP_nameNotices (options : CompileOptions) (name : String) :
    (options.nameNotices name).countP Notice.isRedefinition = 0 := by
  rw [CompileOptions.nameNotices]
  split <;> rfl

theorem countP_entryNotices (c : Catalog) (name : String) :
    (c.entryNotices name).countP Notice.isRedefinition = if name ∈ c.names then 1 else 0 := by
  rw [entryNotices_eq]
  split <;> split <;> rfl

/-- Every query that enters either makes the catalog larger or is reported as defined again. -/
theorem size_add_length (options : CompileOptions) (c : Catalog) (qs : List Query) :
    c.size + qs.length =
      (qs.foldl put c).size + (enteringNotices options c qs).countP Notice.isRedefinition := by
  induction qs generalizing c with
  | nil => rfl
  | cons q qs ih =>
      have hrest := ih (c.put q)
      rw [size_put] at hrest
      rw [enteringNotices, List.countP_append, List.countP_append, countP_nameNotices,
        countP_entryNotices, List.foldl_cons, List.length_cons]
      split at hrest
      · next htaken =>
        rw [if_pos htaken]
        omega
      · next hfresh =>
        rw [if_neg hfresh]
        omega

/-! ## Texts -/

/-- What is reported of a row of definitions. -/
structure Reports (options : CompileOptions) (texts : List (List Char))
    (compiled : Noted CompileError Catalog) : Prop where
  accepted : ∀ c, compiled.outcome = .ok c →
    ∃ qs, Query.ofDefinitions texts = .ok qs ∧
      compiled.notices =
        Notice.dueToNames options [] (qs.map Query.name) ++ [.compiled c.size]
  counted : ∀ c, compiled.outcome = .ok c →
    texts.length = c.size + compiled.notices.countP Notice.isRedefinition
  refused : ∀ e, compiled.outcome = .error e →
    ∃ front failing back qs, texts = front ++ failing :: back ∧
      Query.ofDefinitions front = .ok qs ∧
      (options.onDuplicate = .error → (qs.map Query.name).Nodup) ∧
        ((Query.ofDefinition failing = .error e ∧
            compiled.notices = Notice.dueToNames options [] (qs.map Query.name)) ∨
          ∃ q, options.onDuplicate = .error ∧ Query.ofDefinition failing = .ok q ∧
            q.name ∈ qs.map Query.name ∧ e = .duplicateName q.name ∧
              compiled.notices =
                Notice.dueToNames options [] (qs.map Query.name) ++
                  Notice.dueToLetters options q.name)
  traced : compiled.notices.filter Notice.isTrace =
    match compiled.outcome with
    | .ok c => [.compiled c.size]
    | .error _ => []

theorem enteringNotices_empty (options : CompileOptions) {texts : List (List Char)}
    {qs : List Query} (hcompiled : Query.ofDefinitions texts = .ok qs) :
    enteringNotices options empty qs =
      Notice.dueToNames options [] (qs.map Query.name) := by
  refine enteringNotices_eq_dueToNames options ?_ fun _ => Iff.rfl
  intro q hq
  obtain ⟨text, -, htext⟩ := Query.exists_of_mem_ofDefinitions hcompiled hq
  exact isName_of_ofDefinition htext

theorem reports_of_admits {options : CompileOptions} {texts : List (List Char)}
    {qs : List Query} (hadmits : Admits options empty texts qs) :
    Reports options texts (extend options empty texts) := by
  have hnotices := enteringNotices_empty options hadmits.compiled
  rw [extend_of_admits hadmits, hnotices]
  constructor
  case accepted =>
    intro c hc
    obtain rfl := Except.ok.inj hc
    exact ⟨qs, hadmits.compiled, rfl⟩
  case counted =>
    intro c hc
    obtain rfl := Except.ok.inj hc
    have hsize := size_add_length options empty qs
    have hlength := Query.length_ofDefinitions hadmits.compiled
    have hempty : empty.size = 0 := rfl
    have hcount : [Notice.compiled (qs.foldl put empty).size].countP Notice.isRedefinition = 0 :=
      rfl
    rw [List.countP_append, hcount, ← hnotices, ← hlength]
    omega
  case refused =>
    intro e he
    cases he
  case traced =>
    rw [List.filter_append, Notice.filter_isTrace_dueToNames]
    rfl

theorem reports_of_refuses {options : CompileOptions} {front back : List (List Char)}
    {failing : List Char} {qs : List Query} {e : CompileError}
    (hadmits : Admits options empty front qs)
    (hrefuses : Refuses options (qs.map Query.name) failing e) :
    Reports options (front ++ failing :: back)
      (extend options empty (front ++ failing :: back)) := by
  have hnotices := enteringNotices_empty options hadmits.compiled
  rw [extend_of_refuses hadmits hrefuses, hnotices]
  constructor
  case accepted =>
    intro c hc
    cases hc
  case counted =>
    intro c hc
    cases hc
  case refused =>
    intro e' he
    obtain rfl := Except.error.inj he
    refine ⟨front, failing, back, qs, rfl, hadmits.compiled, hadmits.fresh, ?_⟩
    cases hrefuses with
    | invalid hfailed =>
        left
        rw [compileDefinition_of_error hfailed]
        exact ⟨hfailed, List.append_nil _⟩
    | taken hpolicy hcompiled htaken =>
        right
        refine ⟨_, hpolicy, hcompiled, htaken, rfl, ?_⟩
        rw [compileDefinition_of_ok hcompiled,
          nameNotices_eq_dueToLetters (isName_of_ofDefinition hcompiled)]
  case traced =>
    rw [List.filter_append, Notice.filter_isTrace_dueToNames]
    cases hrefuses with
    | invalid hfailed =>
        rw [compileDefinition_of_error hfailed]
        rfl
    | taken _ hcompiled _ =>
        rw [compileDefinition_of_ok hcompiled,
          nameNotices_eq_dueToLetters (isName_of_ofDefinition hcompiled)]
        exact Notice.filter_isTrace_dueToLetters options _

/-- The second definition has a letter beyond ASCII and comes again, and the last one is named
like an attribute. -/
example :
    (compile {} "-- name: a\n-- name: né\n-- name: né!\n-- name: get").notices =
      [.nonAsciiName "né", .nonAsciiName "né", .redefined "né", .shadowed "get",
        .compiled 3] := by
  decide +kernel

end Catalog

end QueryBook
