import QueryBook.Proofs.JsonReading

/-!
# Control characters

A printed document holds no control character below the blank, whatever its texts hold, and so
it stands on one line.
-/

namespace QueryBook

namespace Text

/-- A text without the control characters below the blank. -/
def Uncontrolled (cs : List Char) : Prop :=
  ∀ c ∈ cs, 0x20 ≤ c.toNat

@[simp] theorem uncontrolled_nil : Uncontrolled [] := by
  simp [Uncontrolled]

@[simp] theorem uncontrolled_cons {c : Char} {cs : List Char} :
    Uncontrolled (c :: cs) ↔ 0x20 ≤ c.toNat ∧ Uncontrolled cs :=
  List.forall_mem_cons

@[simp] theorem uncontrolled_append {cs cs' : List Char} :
    Uncontrolled (cs ++ cs') ↔ Uncontrolled cs ∧ Uncontrolled cs' :=
  List.forall_mem_append

theorem uncontrolled_decimal (n : Nat) : Uncontrolled (decimal n) := by
  intro c hc
  have hdigit := isDigit_of_mem_decimal hc
  rw [Char.isDigit, Bool.and_eq_true, decide_eq_true_eq] at hdigit
  exact Nat.le_trans (by decide) hdigit.1

theorem uncontrolled_replicate {c : Char} (hc : 0x20 ≤ c.toNat) (n : Nat) :
    Uncontrolled (List.replicate n c) := by
  intro d hd
  rwa [List.eq_of_mem_replicate hd]

theorem uncontrolled_signed (n : Int) : Uncontrolled (signed n) := by
  unfold signed
  split <;> simp [uncontrolled_decimal]

theorem Uncontrolled.take {cs : List Char} (hcs : Uncontrolled cs) (n : Nat) :
    Uncontrolled (cs.take n) :=
  fun c hc => hcs c (List.mem_of_mem_take hc)

theorem Uncontrolled.drop {cs : List Char} (hcs : Uncontrolled cs) (n : Nat) :
    Uncontrolled (cs.drop n) :=
  fun c hc => hcs c (List.mem_of_mem_drop hc)

theorem uncontrolled_hex (width n : Nat) : Uncontrolled (hex width n) := by
  induction width generalizing n with
  | zero => exact uncontrolled_nil
  | succ width ih =>
      have hdigit : ∀ d < 16, 0x20 ≤ d.digitChar.toNat := by
        decide
      rw [hex, uncontrolled_append, uncontrolled_cons]
      exact ⟨ih _, hdigit _ (Nat.mod_lt n (by decide)), uncontrolled_nil⟩

end Text

theorem Decimal.uncontrolled_text (style : PointStyle) (d : Decimal) :
    Text.Uncontrolled (d.text style) := by
  have hdigits := Text.uncontrolled_decimal d.digits
  have hexponent (e : Int) : Text.Uncontrolled (exponentText style e) := by
    have hpadded : Text.Uncontrolled
        (Text.padded style.exponentDigits (Text.decimal e.natAbs)) := by
      simp [Text.padded, Text.uncontrolled_replicate, Text.uncontrolled_decimal]
    unfold exponentText
    split
    · simp [hpadded]
    · split <;> simp [hpadded]
  have hmagnitude : Text.Uncontrolled (d.magnitude style) := by
    unfold magnitude
    dsimp only
    split
    · simp
    · split
      · split
        · simp [hdigits, Text.uncontrolled_replicate]
        · split
          · simp [hdigits, Text.uncontrolled_replicate]
          · simp [hdigits.take, hdigits.drop]
      · split
        · simp [hdigits.take, hexponent]
        · simp [-List.drop_one, hdigits.take, hdigits.drop, hexponent]
  unfold text
  split
  · simp [hmagnitude]
  · exact hmagnitude

namespace Json

theorem uncontrolled_escape (c : Char) : Text.Uncontrolled (escape c) := by
  rcases escape_cases c with ⟨letter, hescape, -, hmeaning⟩ | ⟨-, hescape⟩ |
    ⟨hvisible, -, -, hescape⟩
  · have hletter : 0x20 ≤ letter.toNat := by
      unfold escaped? at hmeaning
      split at hmeaning <;> first | decide | cases hmeaning
    simp [hescape, hletter]
  · simp [hescape, Text.uncontrolled_hex]
  · simp [hescape, hvisible]

theorem uncontrolled_quote (s : String) : Text.Uncontrolled (quote s) := by
  have hescaped : Text.Uncontrolled (s.toList.flatMap escape) := by
    intro c hc
    obtain ⟨d, -, hd⟩ := List.mem_flatMap.mp hc
    exact uncontrolled_escape d c hd
  simp [quote, hescaped]

mutual

theorem uncontrolled_compact : ∀ j : Json, Text.Uncontrolled (compact j)
  | null => by simp [compact]
  | bool b => by cases b <;> simp [compact]
  | int n => Text.uncontrolled_signed n
  | decimal d => d.uncontrolled_text numberStyle
  | text s => uncontrolled_quote s
  | list [] => by simp [compact]
  | list (item :: items) => by
    simp [compact, uncontrolled_compact item, uncontrolled_compactItems items]
  | object [] => by simp [compact]
  | object ((key, item) :: members) => by
    simp [compact, uncontrolled_quote, uncontrolled_compact item,
      uncontrolled_compactMembers members]

theorem uncontrolled_compactItems : ∀ items : List Json, Text.Uncontrolled (compactItems items)
  | [] => by simp [compactItems]
  | item :: items => by
    simp [compactItems, uncontrolled_compact item, uncontrolled_compactItems items]

theorem uncontrolled_compactMembers :
    ∀ members : List (String × Json), Text.Uncontrolled (compactMembers members)
  | [] => by simp [compactMembers]
  | (key, item) :: members => by
    simp [compactMembers, uncontrolled_quote, uncontrolled_compact item,
      uncontrolled_compactMembers members]

end

end Json

end QueryBook
