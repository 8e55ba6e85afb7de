import QueryBook.Proofs.ArgumentResolution
import QueryBook.Proofs.CompiledDefinition
import QueryBook.Proofs.PlaceholderScan

/-!
# Binding by position

A body can be bound in two ways.  Each placeholder can be replaced where it stands by the
value it asks for, or the body can be rewritten for positional binding and its question marks
filled from the resolved list.  The two give the same characters and values in the same
order, so no value drifts to the place of another.

Both ways are compared with a third one, which fills the pieces of the body.
-/

namespace QueryBook

inductive BoundPiece where
  | literal (c : Char)
  | value (v : Value)

/-- Puts the given values in place of the question marks, from left to right. -/
def fillMarks : List Value → List Char → Option (List BoundPiece)
  | _, [] => some []
  | values, c :: rest =>
      if c = '?' then
        match values with
        | [] => none
        | v :: values => (fillMarks values rest).map (BoundPiece.value v :: ·)
      else (fillMarks values rest).map (BoundPiece.literal c :: ·)

namespace Arguments

/-- Replaces each placeholder that opens in what is left of a body by its own value.  The
rank of a question mark is the number of question marks passed. -/
def fillFrom (args : Arguments) : Nat → List Char → List Char → Option (List BoundPiece)
  | _, _, [] => some []
  | skip + 1, passed, c :: rest => args.fillFrom skip (c :: passed) rest
  | 0, passed, c :: rest =>
      match Placeholder.at? passed (c :: rest) with
      | none =>
          (args.fillFrom 0 (c :: passed) rest).map (BoundPiece.literal c :: ·)
      | some p =>
          match args.value? (passed.count '?') p with
          | none => none
          | some v =>
              (args.fillFrom p.tailLength (c :: passed) rest).map (BoundPiece.value v :: ·)

def fill (args : Arguments) (body : String) : Option (List BoundPiece) :=
  args.fillFrom 0 [] body.toList

def fillPieces (args : Arguments) : Nat → List Piece → Option (List BoundPiece)
  | _, [] => some []
  | marks, .plain c :: rest =>
      (args.fillPieces marks rest).map (BoundPiece.literal c :: ·)
  | marks, .slot p :: rest =>
      match args.value? marks p with
      | none => none
      | some v => (args.fillPieces (advance marks p) rest).map (BoundPiece.value v :: ·)

end Arguments

/-! ## The body filled in place -/

theorem Placeholder.count_cons_of_at?
    {passed rest : List Char} {c : Char} {p : Placeholder}
    (hsome : Placeholder.at? passed (c :: rest) = some p) :
    (c :: passed).count '?' = Arguments.advance (passed.count '?') p := by
  rcases Placeholder.at?_eq_some hsome with ⟨rfl, rfl⟩ | ⟨rfl, -, -, rfl⟩
  · exact List.count_cons_self
  · exact List.count_cons_of_ne (by decide)

theorem Arguments.fillFrom_eq_fillPieces
    (args : Arguments) {cursor : Cursor} {skip : Nat} {passed left : List Char}
    (haligned : cursor.Aligned skip passed left) :
    args.fillFrom skip passed left =
      args.fillPieces (passed.count '?') (Piece.read cursor left) := by
  induction left generalizing cursor skip passed with
  | nil => cases skip <;> simp [fillFrom, Piece.read, fillPieces]
  | cons c rest ih =>
      cases skip with
      | succ skip =>
          have hname := haligned.isNameChar
          obtain ⟨hread, hnext⟩ := Piece.read_skip haligned
          have hcount : (c :: passed).count '?' = passed.count '?' := by
            apply List.count_cons_of_ne
            rintro rfl
            simp [Placeholder.isNameChar_mark] at hname
          rw [fillFrom, ih hnext, hcount, hread]
      | zero =>
          cases hopen : Placeholder.at? passed (c :: rest) with
          | none =>
              obtain ⟨next, hread, hnext⟩ := Piece.read_plain haligned hopen
              have hcount : (c :: passed).count '?' = passed.count '?' := by
                apply List.count_cons_of_ne
                rintro rfl
                simp at hopen
              rw [fillFrom, hopen, hread, fillPieces, ← hcount, ← ih hnext]
          | some p =>
              obtain ⟨next, hread, hnext⟩ := Piece.read_slot haligned hopen
              rw [fillFrom, hopen, hread, fillPieces,
                ← Placeholder.count_cons_of_at? hopen, ← ih hnext]

theorem Arguments.fill_eq_fillPieces (args : Arguments) (body : String) :
    args.fill body = args.fillPieces 0 (Piece.ofBody body) :=
  args.fillFrom_eq_fillPieces (Cursor.initial_aligned body.toList)

/-! ## The positional body filled from a resolved list -/

theorem Arguments.fillMarks_eq_fillPieces
    {args : Arguments} {marks : Nat} {pieces : List Piece} {values : List Value}
    (hplain : ∀ c, Piece.plain c ∈ pieces → c ≠ '?')
    (hresolved :
      args.resolveFrom true marks (pieces.filterMap Piece.slot?) = .ok values) :
    ∃ filled,
      fillMarks values (pieces.map Piece.positionalChar) = some filled ∧
        args.fillPieces marks pieces = some filled := by
  induction pieces generalizing marks values with
  | nil => exact ⟨[], by simp [fillMarks], by simp [fillPieces]⟩
  | cons piece rest ih =>
      have hrest : ∀ c, Piece.plain c ∈ rest → c ≠ '?' :=
        fun c hmem => hplain c (List.mem_cons_of_mem _ hmem)
      cases piece with
      | plain c =>
          have hmark : c ≠ '?' := hplain c List.mem_cons_self
          obtain ⟨filled, hleft, hright⟩ := ih hrest hresolved
          refine ⟨.literal c :: filled, ?_, ?_⟩
          · simp [fillMarks, Piece.positionalChar, hmark, hleft]
          · simp [fillPieces, hright]
      | slot p =>
          obtain ⟨v, vs, hvalue, hvs, rfl⟩ := resolveFrom_cons_ok hresolved
          obtain ⟨filled, hleft, hright⟩ := ih hrest hvs
          refine ⟨.value v :: filled, ?_, ?_⟩
          · simp [fillMarks, Piece.positionalChar, hleft]
          · simp [fillPieces, hvalue, hright]

theorem Piece.count_positionalChar {pieces : List Piece}
    (hplain : ∀ c, plain c ∈ pieces → c ≠ '?') :
    (pieces.map positionalChar).count '?' = (pieces.filterMap slot?).length := by
  induction pieces with
  | nil => rfl
  | cons piece rest ih =>
      have hrest := ih fun c hmem => hplain c (List.mem_cons_of_mem _ hmem)
      cases piece with
      | plain c =>
          have hmark : c ≠ '?' := hplain c List.mem_cons_self
          rw [List.map_cons, positionalChar, List.count_cons_of_ne hmark, hrest]
          rfl
      | slot p =>
          rw [List.map_cons, positionalChar, List.count_cons_self, hrest]
          rfl

theorem count_positionalBody (body : String) :
    (positionalBody body).toList.count '?' = (placeholders body).length := by
  rw [positionalBody, String.toList_ofList]
  exact Piece.count_positionalChar fun _ hmem => Piece.read_plain_ne_mark hmem

/-- A compiled query that is bound by position shows the values that its placeholders name,
each in its own place. -/
theorem fillMarks_positionalBody
    {options : CompileOptions} {text : List Char} {q : Query}
    {args : Arguments} {values : List Value}
    (hcompiled : (compileDefinition options text).outcome = .ok q)
    (hresolved : args.resolve q.params true = .ok values) :
    (positionalBody q.body).toList.count '?' = values.length ∧
      ∃ filled,
        fillMarks values (positionalBody q.body).toList = some filled ∧
          args.fill q.body = some filled := by
  have hparams : q.params = placeholders q.body := by
    rw [compileDefinition_outcome] at hcompiled
    exact Query.params_of_ofDefinition hcompiled
  rw [hparams] at hresolved
  constructor
  · rw [count_positionalBody, Arguments.length_resolveFrom hresolved]
  · rw [positionalBody, String.toList_ofList, args.fill_eq_fillPieces]
    exact Arguments.fillMarks_eq_fillPieces
      (fun _ hmem => Piece.read_plain_ne_mark hmem) hresolved

/-- Adjacent names, a cast behind a question mark, and a name that comes twice. -/
theorem fillMarks_positionalBody_mixed :
    let q : Query :=
      { name := "pick"
        operation := .operation .select
        body := ":x:y ?::c, ? :x"
        docs := ""
        params := [.named "x", .named "y", .positional, .positional, .named "x"] }
    let args : Arguments :=
      { positional := [.int 1, .int 2]
        keyword := [("x", .int 10), ("y", .int 20)] }
    let values : List Value := [.int 10, .int 20, .int 1, .int 2, .int 10]
    (compileDefinition {} "pick\n:x:y ?::c, ? :x".toList).outcome = .ok q ∧
      args.resolve q.params true = .ok values ∧
        (positionalBody q.body).toList.count '?' = values.length ∧
          ∃ filled,
            fillMarks values (positionalBody q.body).toList = some filled ∧
              args.fill q.body = some filled := by
  intro q args values
  have hcompiled :
      (compileDefinition {} "pick\n:x:y ?::c, ? :x".toList).outcome = .ok q := by
    rfl
  have hresolved : args.resolve q.params true = .ok values := by
    rfl
  exact ⟨hcompiled, hresolved, fillMarks_positionalBody hcompiled hresolved⟩

end QueryBook
