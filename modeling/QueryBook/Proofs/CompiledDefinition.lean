import QueryBook.Compile
import QueryBook.Proofs.HeaderReading

/-!
# Compiled definitions

What one definition compiles to.  The notices do not bear on the outcome, and a query that
comes out carries its header over the block below it, with the placeholders of its own body.
A definition is refused for nothing but a first line that declares no header.
-/

namespace QueryBook

theorem compileDefinition_of_error {text : List Char} {e : CompileError}
    (hfailed : Query.ofDefinition text = .error e) (options : CompileOptions) :
    compileDefinition options text = ⟨[], .error e⟩ := by
  unfold compileDefinition
  rw [hfailed]

theorem compileDefinition_of_ok {text : List Char} {q : Query}
    (hcompiled : Query.ofDefinition text = .ok q) (options : CompileOptions) :
    compileDefinition options text = ⟨options.nameNotices q.name, .ok q⟩ := by
  unfold compileDefinition
  rw [hcompiled]

@[simp] theorem compileDefinition_outcome (options : CompileOptions) (text : List Char) :
    (compileDefinition options text).outcome = Query.ofDefinition text := by
  cases hcompiled : Query.ofDefinition text with
  | error e => rw [compileDefinition_of_error hcompiled]
  | ok q => rw [compileDefinition_of_ok hcompiled]

theorem Query.ofDefinition_eq_ok_iff {text : List Char} {q : Query} :
    Query.ofDefinition text = .ok q ↔
      ∃ header, Header.read (String.ofList (Definition.split text).1) = .ok header ∧
        q = Query.ofBlock header (Block.ofLines (Definition.split text).2) := by
  unfold Query.ofDefinition
  cases hheader : Header.read (String.ofList (Definition.split text).1) with
  | error e => simp [hheader]
  | ok header => simp [hheader, eq_comm]

theorem Query.params_ofBlock (header : Header) (block : Block) :
    (Query.ofBlock header block).params =
      placeholders (Query.ofBlock header block).body :=
  rfl

theorem Query.params_of_ofDefinition {text : List Char} {q : Query}
    (hcompiled : Query.ofDefinition text = .ok q) :
    q.params = placeholders q.body := by
  obtain ⟨header, -, rfl⟩ := Query.ofDefinition_eq_ok_iff.mp hcompiled
  exact Query.params_ofBlock header _

namespace Definition

/-- The first line is the line of a header, the space around it left aside. -/
structure Declares (text : List Char) (h : Header) : Prop where
  name : Header.isName h.name.toList = true
  line : Text.trim (split text).1 = h.line.toList

end Definition

namespace Query

def ofDeclared (text : List Char) (h : Header) : Query :=
  ofBlock h (Block.ofLines (Definition.split text).2)

variable {text : List Char}

theorem ofDefinition_eq_ok_iff_declares {q : Query} :
    ofDefinition text = .ok q ↔ ∃ h, Definition.Declares text h ∧ q = ofDeclared text h := by
  simp only [ofDefinition_eq_ok_iff, Header.read_eq_ok_iff, String.toList_ofList]
  constructor
  · rintro ⟨h, ⟨hname, hline⟩, hq⟩
    exact ⟨h, ⟨hname, hline⟩, hq⟩
  · rintro ⟨h, hdeclares, hq⟩
    exact ⟨h, ⟨hdeclares.name, hdeclares.line⟩, hq⟩

theorem eq_invalidName_of_ofDefinition {e : CompileError}
    (hfailed : ofDefinition text = .error e) :
    ∃ name, e = .invalidName name := by
  unfold ofDefinition at hfailed
  simp only at hfailed
  split at hfailed
  · next e' hread =>
    obtain rfl := Except.error.inj hfailed
    exact Header.eq_invalidName_of_read hread
  · cases hfailed

theorem ofDefinition_congr {other : List Char}
    (hsplit : Definition.split text = Definition.split other) :
    ofDefinition text = ofDefinition other := by
  unfold ofDefinition
  rw [hsplit]

/-- White space behind a definition does not count. -/
theorem ofDefinition_append_of_isBlank (text : List Char) {blank : List Char}
    (hblank : Text.isBlank blank = true) :
    ofDefinition (text ++ blank) = ofDefinition text := by
  apply ofDefinition_congr
  rw [Definition.split, Definition.split, Text.trim_append_of_isBlank text hblank]

theorem ofDefinition_of_declares {h : Header} (hdeclares : Definition.Declares text h) :
    ofDefinition text = .ok (ofDeclared text h) :=
  ofDefinition_eq_ok_iff_declares.mpr ⟨h, hdeclares, rfl⟩

theorem ofDefinition_of_not_declares (hnone : ∀ h, ¬Definition.Declares text h) :
    ∃ name, ofDefinition text = .error (.invalidName name) := by
  cases hcompiled : ofDefinition text with
  | ok q =>
      obtain ⟨h, hdeclares, -⟩ := ofDefinition_eq_ok_iff_declares.mp hcompiled
      exact absurd hdeclares (hnone h)
  | error e =>
      obtain ⟨name, rfl⟩ := eq_invalidName_of_ofDefinition hcompiled
      exact ⟨name, rfl⟩

end Query

end QueryBook
