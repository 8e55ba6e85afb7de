import QueryBook.Json.Reader
import Mathlib.Data.List.TakeWhile

/-!
# Reading printed documents

A document without fractions is read back from what is printed of it.  What follows a
document may be anything that does not go on with a number.
-/

namespace QueryBook

namespace Text

theorem isDigit_of_mem_decimal {n : Nat} {c : Char} (hc : c ∈ decimal n) : c.isDigit = true :=
  Nat.isDigit_of_mem_toDigits (by decide) (by decide) hc

theorem ofDigitChars_decimal (n : Nat) : Nat.ofDigitChars 10 (decimal n) 0 = n :=
  Nat.ofDigitChars_toDigits (by decide) (by decide)

theorem head?_decimal_ne_zero {n : Nat} (hn : 0 < n) : (decimal n).head? ≠ some '0' := by
  induction n using Nat.strongRecOn with
  | ind n ih =>
      by_cases hsmall : n < 10
      · rw [decimal, Nat.toDigits_of_lt_base hsmall]
        have hdigit : ∀ d < 10, 0 < d → d.digitChar ≠ '0' := by
          decide
        simpa using hdigit n hsmall hn
      · have htens : 0 < n / 10 := Nat.div_pos (Nat.le_of_not_lt hsmall) (by decide)
        have hfront : (Nat.toDigits 10 (n / 10)).head?.isSome = true :=
          List.isSome_head?.mpr Nat.toDigits_ne_nil
        rw [decimal, Nat.toDigits_of_base_le (by decide) (Nat.le_of_not_lt hsmall),
          List.head?_append, Option.or_of_isSome hfront]
        exact ih (n / 10) (Nat.div_lt_self hn (by decide)) htens

/-- A number of several digits begins with a digit other than zero. -/
theorem decimal_ne_zero_cons (n : Nat) (c : Char) (cs : List Char) :
    decimal n ≠ '0' :: c :: cs := by
  rcases Nat.eq_zero_or_pos n with rfl | hn
  · exact fun hzero => by cases hzero
  · exact fun hzero => head?_decimal_ne_zero hn (by rw [hzero, List.head?_cons])

end Text

namespace Json

/-- A text that does not go on with a number that stands in front of it. -/
def EndsNumber (rest : List Char) : Prop :=
  ∀ c ∈ rest.head?, c.isDigit = false ∧ c ≠ '.' ∧ c ≠ 'e' ∧ c ≠ 'E'

theorem endsNumber_nil : EndsNumber [] := by
  simp [EndsNumber]

/-! ## Numbers -/

theorem readNumeral_decimal (n : Nat) {rest : List Char} (hrest : EndsNumber rest) :
    Decimal.readNumeral (Text.decimal n ++ rest) = some ⟨Text.decimal n, none, none, rest⟩ := by
  have hdigits : ∀ c ∈ Text.decimal n, c.isDigit = true := fun _ => Text.isDigit_of_mem_decimal
  have hstop : rest.takeWhile Char.isDigit = [] ∧ rest.dropWhile Char.isDigit = rest := by
    cases rest with
    | nil => exact ⟨rfl, rfl⟩
    | cons c rest => simp [(hrest c rfl).1]
  have htake : (Text.decimal n ++ rest).takeWhile Char.isDigit = Text.decimal n := by
    rw [List.takeWhile_append_of_pos hdigits, hstop.1, List.append_nil]
  have hdrop : (Text.decimal n ++ rest).dropWhile Char.isDigit = rest := by
    rw [List.dropWhile_append_of_pos hdigits, hstop.2]
  have hfraction : Decimal.readFraction rest = (none, rest) := by
    unfold Decimal.readFraction
    split
    · exact absurd rfl (hrest '.' rfl).2.1
    · rfl
  unfold Decimal.readNumeral
  rw [htake, hdrop, hfraction]
  split
  · exact absurd ‹_› Nat.toDigits_ne_nil
  · dsimp only
    split
    · exact absurd rfl (hrest 'e' rfl).2.2.1
    · exact absurd rfl (hrest 'E' rfl).2.2.2
    · rfl

theorem readUnsigned_decimal (negative : Bool) (n : Nat) {rest : List Char}
    (hrest : EndsNumber rest) :
    readUnsigned negative (Text.decimal n ++ rest) =
      some (int (if negative then -n else n), rest) := by
  rw [readUnsigned, readNumeral_decimal n hrest]
  dsimp only
  split
  · next c cs hzero => exact absurd hzero (Text.decimal_ne_zero_cons n c cs)
  · simp only [ofNumeral, Text.ofDigitChars_decimal]

theorem exists_decimal_cons (n : Nat) :
    ∃ c cs, Text.decimal n = c :: cs ∧ c.isDigit = true := by
  cases hdigits : Text.decimal n with
  | nil => exact absurd hdigits Nat.toDigits_ne_nil
  | cons c cs =>
      exact ⟨c, cs, rfl, Text.isDigit_of_mem_decimal (hdigits ▸ List.mem_cons_self ..)⟩

theorem readNumber_signed (n : Int) {rest : List Char} (hrest : EndsNumber rest) :
    readNumber (Text.signed n ++ rest) = some (int n, rest) := by
  unfold Text.signed
  split
  · next hnegative =>
      rw [List.cons_append, readNumber, readUnsigned_decimal _ _ hrest, if_pos rfl]
      congr
      omega
  · next hpositive =>
      have hsize : ((n.natAbs : Nat) : Int) = n := by
        omega
      have hunsigned := readUnsigned_decimal false n.natAbs hrest
      obtain ⟨c, cs, hdigits, hdigit⟩ := exists_decimal_cons n.natAbs
      rw [hdigits, List.cons_append] at hunsigned ⊢
      rw [readNumber, hunsigned, if_neg Bool.false_ne_true, hsize]
      rintro rest' ⟨⟩
      cases hdigit

/-! ## Texts -/

theorem hexValue?_digitChar {d : Nat} (hd : d < 16) : hexValue? d.digitChar = some d := by
  have hall : ∀ d < 16, hexValue? d.digitChar = some d := by
    decide
  exact hall d hd

theorem readUnit_hex {n : Nat} (hn : n < 65536) (rest : List Char) :
    readUnit (Text.hex 4 n ++ rest) = some (n, rest) := by
  have hdigit (m : Nat) : hexValue? (m % 16).digitChar = some (m % 16) :=
    hexValue?_digitChar (Nat.mod_lt m (by decide))
  simp only [Text.hex, List.nil_append, List.cons_append, readUnit, hdigit]
  congr
  omega

/-- A character is written with a letter, with its number or as it is. -/
theorem escape_cases (c : Char) :
    (∃ letter, escape c = ['\\', letter] ∧ letter ≠ 'u' ∧ escaped? letter = some c) ∨
      (c.toNat < 0x20 ∧ escape c = '\\' :: 'u' :: Text.hex 4 c.toNat) ∨
      (0x20 ≤ c.toNat ∧ c ≠ '"' ∧ c ≠ '\\' ∧ escape c = [c]) := by
  by_cases hlettered : c ∈ ['"', '\\', '\n', '\r', '\t', Char.ofNat 8, Char.ofNat 12]
  · refine .inl ?_
    simp only [List.mem_cons, List.not_mem_nil, or_false] at hlettered
    rcases hlettered with rfl | rfl | rfl | rfl | rfl | rfl | rfl <;>
      exact ⟨_, rfl, by decide, rfl⟩
  · refine .inr ?_
    simp only [List.mem_cons, List.not_mem_nil, or_false, not_or] at hlettered
    obtain ⟨hquote, hbackslash, hfeed, hreturn, htab, hback, hform⟩ := hlettered
    simp only [escape, hquote, hbackslash, hfeed, hreturn, htab, hback, hform, or_self,
      if_false]
    by_cases hcontrol : c.toNat < 0x20
    · exact .inl ⟨hcontrol, if_pos hcontrol⟩
    · exact .inr ⟨Nat.le_of_not_lt hcontrol, hquote, hbackslash, if_neg hcontrol⟩

theorem readText_escape (steps : Nat) (read : List Char) (c : Char) (rest : List Char) :
    readText (steps + 1) read (escape c ++ rest) = readText steps (c :: read) rest := by
  rcases escape_cases c with ⟨letter, hescape, hletter, hmeaning⟩ | ⟨hcontrol, hescape⟩ |
    ⟨hvisible, hquote, hbackslash, hescape⟩
  · rw [hescape, List.cons_append, List.cons_append, List.nil_append, readText, hmeaning]
    exact hletter
  · have hunit := readUnit_hex (n := c.toNat) (by omega) rest
    rw [hescape, List.cons_append, List.cons_append, readText, readCodePoint, hunit]
    dsimp only
    rw [if_pos (.inl (by omega)), Char.ofNat_toNat]
  · have hplain : ¬(c.toNat < 0x20 ∨ c = '\\') :=
      not_or.mpr ⟨Nat.not_lt_of_le hvisible, hbackslash⟩
    rw [hescape, List.cons_append, List.nil_append, readText, if_neg hplain]
    · exact hquote
    · exact fun _ heq _ => hbackslash heq
    · exact fun _ _ heq _ => hbackslash heq

theorem readText_flatMap_escape {cs : List Char} {steps : Nat} (hsteps : cs.length < steps)
    (read rest : List Char) :
    readText steps read (cs.flatMap escape ++ '"' :: rest) =
      some (String.ofList (read.reverse ++ cs), rest) := by
  induction cs generalizing steps read with
  | nil =>
      cases steps with
      | zero => cases hsteps
      | succ steps =>
          rw [List.flatMap_nil, List.nil_append, readText, List.append_nil]
          exact Nat.succ_ne_zero steps
  | cons c cs ih =>
      cases steps with
      | zero => cases hsteps
      | succ steps =>
          rw [List.flatMap_cons, List.append_assoc, readText_escape,
            ih (Nat.lt_of_succ_lt_succ hsteps), List.reverse_cons, List.append_assoc,
            List.singleton_append]

theorem length_le_length_flatMap_escape (cs : List Char) :
    cs.length ≤ (cs.flatMap escape).length := by
  induction cs with
  | nil => exact Nat.le_refl 0
  | cons c cs ih =>
      have hone : 1 ≤ (escape c).length := by
        rcases escape_cases c with ⟨_, hescape, -⟩ | ⟨-, hescape⟩ | ⟨-, -, -, hescape⟩ <;>
          simp [hescape]
      rw [List.flatMap_cons, List.length_append, List.length_cons]
      omega

theorem quote_append (s : String) (rest : List Char) :
    quote s ++ rest = '"' :: (s.toList.flatMap escape ++ '"' :: rest) := by
  rw [quote, List.append_assoc, List.cons_append, List.singleton_append]

theorem length_quote (s : String) :
    (quote s).length = (s.toList.flatMap escape).length + 2 := by
  rw [quote, List.length_append, List.length_cons, List.length_singleton]

theorem readText_quote {s : String} {steps : Nat} (hsteps : (quote s).length ≤ steps + 1)
    (rest : List Char) :
    readText steps [] (s.toList.flatMap escape ++ '"' :: rest) = some (s, rest) := by
  have hescaped := length_le_length_flatMap_escape s.toList
  rw [length_quote] at hsteps
  rw [readText_flatMap_escape (by omega), List.reverse_nil, List.nil_append,
    String.ofList_toList]

/-! ## Documents -/

/-- A document without a number that has a fraction or an exponent. -/
inductive Exact : Json → Prop where
  | null : Exact null
  | bool (b : Bool) : Exact (bool b)
  | int (n : Int) : Exact (int n)
  | text (s : String) : Exact (text s)
  | list {items : List Json} (hitems : ∀ item ∈ items, Exact item) : Exact (list items)
  | object {members : List (String × Json)} (hmembers : ∀ member ∈ members, Exact member.2) :
    Exact (object members)

/-- What is printed of the document is read as the document, whatever follows. -/
def Reads (j : Json) : Prop :=
  ∀ ⦃steps : Nat⦄ ⦃rest : List Char⦄, (compact j).length ≤ steps → EndsNumber rest →
    readValue steps (compact j ++ rest) = some (j, rest)

theorem reads_null : Reads null := by
  intro steps rest hsteps _
  cases steps with
  | zero => cases hsteps
  | succ steps => rfl

theorem reads_bool (b : Bool) : Reads (bool b) := by
  intro steps rest hsteps _
  cases steps with
  | zero => cases b <;> cases hsteps
  | succ steps => cases b <;> rfl

theorem exists_signed_cons (n : Int) :
    ∃ c cs, Text.signed n = c :: cs ∧ (c = '-' ∨ c.isDigit = true) := by
  unfold Text.signed
  split
  · exact ⟨_, _, rfl, .inl rfl⟩
  · obtain ⟨c, cs, hdigits, hdigit⟩ := exists_decimal_cons n.natAbs
    exact ⟨c, cs, hdigits, .inr hdigit⟩

theorem reads_int (n : Int) : Reads (int n) := by
  intro steps rest hsteps hrest
  have hnumber := readNumber_signed n hrest
  obtain ⟨c, cs, hsigned, hc⟩ := exists_signed_cons n
  rw [hsigned] at hnumber
  rw [compact, hsigned] at hsteps ⊢
  cases steps with
  | zero => cases hsteps
  | succ steps => exact (readValue_of_number hc steps _).trans hnumber

theorem reads_text (s : String) : Reads (text s) := by
  intro steps rest hsteps _
  rw [compact] at hsteps ⊢
  cases steps with
  | zero => 
      rw [length_quote] at hsteps
      cases hsteps
  | succ steps =>
      rw [quote_append]
      exact readValue_text (readText_quote hsteps rest)

theorem endsNumber_compactItems (items : List Json) (rest : List Char) :
    EndsNumber (compactItems items ++ rest) := by
  cases items <;> simp [compactItems, EndsNumber]

theorem endsNumber_compactMembers (members : List (String × Json)) (rest : List Char) :
    EndsNumber (compactMembers members ++ rest) := by
  cases members <;> simp [compactMembers, EndsNumber]

/-- The items of a list behind the first one. -/
theorem readItems_compactItems {items : List Json} (hitems : ∀ item ∈ items, Reads item)
    {steps : Nat} (hsteps : (compactItems items).length ≤ steps) (rest : List Char) :
    readItems steps (compactItems items ++ rest) = some (items, rest) := by
  induction items generalizing steps with
  | nil =>
      cases steps with
      | zero => cases hsteps
      | succ steps => rfl
  | cons item items ih =>
      rw [compactItems, List.length_append, List.length_cons] at hsteps
      cases steps with
      | zero => omega
      | succ steps =>
          -- The comma pays for the step, and the others suffice for the item and the rest.
          rw [compactItems, List.append_assoc, List.cons_append]
          apply readItems_comma
          · exact hitems item (List.mem_cons_self ..) (by omega) (endsNumber_compactItems _ _)
          · exact ih (fun other hother => hitems other (List.mem_cons_of_mem _ hother)) (by omega)

theorem readMember_entry {key : String} {item : Json} (hitem : Reads item) {steps : Nat}
    (hsteps : (quote key).length + (compact item).length < steps) {rest : List Char}
    (hrest : EndsNumber rest) :
    readMember steps (quote key ++ ':' :: (compact item ++ rest)) = some ((key, item), rest) := by
  cases steps with
  | zero => cases hsteps
  | succ steps =>
      rw [quote_append]
      exact readMember_quote (readText_quote (by omega) _) (hitem (by omega) hrest)

/-- The members of an object behind the first one. -/
theorem readMembers_compactMembers {members : List (String × Json)}
    (hmembers : ∀ member ∈ members, Reads member.2) {steps : Nat}
    (hsteps : (compactMembers members).length ≤ steps) (rest : List Char) :
    readMembers steps (compactMembers members ++ rest) = some (members, rest) := by
  induction members generalizing steps with
  | nil =>
      cases steps with
      | zero => cases hsteps
      | succ steps => rfl
  | cons member members ih =>
      obtain ⟨key, item⟩ := member
      have hitem : Reads item := hmembers (key, item) (List.mem_cons_self ..)
      simp only [compactMembers, List.length_append, List.length_cons] at hsteps
      cases steps with
      | zero => omega
      | succ steps =>
          simp only [compactMembers, List.append_assoc, List.cons_append]
          apply readMembers_comma
          · exact readMember_entry hitem (by omega) (endsNumber_compactMembers _ _)
          · exact ih (fun other hother => hmembers other (List.mem_cons_of_mem _ hother))
              (by omega)

theorem reads_list {items : List Json} (hitems : ∀ item ∈ items, Reads item) :
    Reads (list items) := by
  intro steps rest hsteps _
  cases steps with
  | zero => cases items <;> cases hsteps
  | succ steps =>
      cases items with
      | nil => rfl
      | cons item items =>
          rw [compact, List.length_append, List.length_cons] at hsteps
          rw [compact, List.append_assoc, List.cons_append]
          apply readValue_list
          · exact hitems item (List.mem_cons_self ..) (by omega) (endsNumber_compactItems _ _)
          · exact readItems_compactItems
              (fun other hother => hitems other (List.mem_cons_of_mem _ hother)) (by omega) rest

theorem reads_object {members : List (String × Json)}
    (hmembers : ∀ member ∈ members, Reads member.2) :
    Reads (object members) := by
  intro steps rest hsteps _
  cases steps with
  | zero => rcases members with - | ⟨⟨key, item⟩, members⟩ <;> cases hsteps
  | succ steps =>
      cases members with
      | nil => rfl
      | cons member members =>
          obtain ⟨key, item⟩ := member
          have hitem : Reads item := hmembers (key, item) (List.mem_cons_self ..)
          simp only [compact, List.length_append, List.length_cons] at hsteps
          simp only [compact, List.append_assoc, List.cons_append]
          apply readValue_object
          · exact readMember_entry hitem (by omega) (endsNumber_compactMembers _ _)
          · exact readMembers_compactMembers
              (fun other hother => hmembers other (List.mem_cons_of_mem _ hother)) (by omega) rest

theorem Exact.reads {j : Json} (hexact : Exact j) : Reads j := by
  induction hexact with
  | null => exact reads_null
  | bool b => exact reads_bool b
  | int n => exact reads_int n
  | text s => exact reads_text s
  | list _ ih => exact reads_list ih
  | object _ ih => exact reads_object ih

/-- What is printed of an exact document is read as that document. -/
theorem read?_print {j : Json} (hexact : Exact j) : read? (print j) = some j := by
  have hread := hexact.reads (Nat.le_succ j.compact.length) endsNumber_nil
  rw [List.append_nil] at hread
  rw [read?, print, String.toList_ofList, readAll, hread]
  rfl

end Json

end QueryBook
