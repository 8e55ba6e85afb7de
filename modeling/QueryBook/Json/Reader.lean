import QueryBook.Json.Basic

/-!
# Reading JSON

A reader of the whole grammar: blanks between tokens, escapes with surrogate pairs, numbers
with fraction and exponent.  It keeps the order of members, and it refuses control characters
and lone surrogates in strings, leading zeros, and anything behind the document.

Each reading function returns what it read with the text that follows.  The nesting is
bounded by a count of steps, of which a text never needs more than it has characters.
-/

namespace QueryBook

namespace Json

def isBlank (c : Char) : Bool :=
  c = ' ' || c = '\t' || c = '\n' || c = '\r'

def skipBlanks (cs : List Char) : List Char :=
  cs.dropWhile isBlank

def hexValue? (c : Char) : Option Nat :=
  if c.isDigit then some (c.toNat - 48)
  else if 'a' ≤ c ∧ c ≤ 'f' then some (c.toNat - 87)
  else if 'A' ≤ c ∧ c ≤ 'F' then some (c.toNat - 55)
  else none

def readUnit : List Char → Option (Nat × List Char)
  | a :: b :: c :: d :: rest =>
    match hexValue? a, hexValue? b, hexValue? c, hexValue? d with
    | some a, some b, some c, some d => some (((a * 16 + b) * 16 + c) * 16 + d, rest)
    | _, _, _, _ => none
  | _ => none

/-- Reads what follows the backslash and the letter of a numbered escape: one unit, or a high
surrogate with the low one behind it. -/
def readCodePoint (cs : List Char) : Option (Char × List Char) :=
  match readUnit cs with
  | none => none
  | some (unit, rest) =>
    if unit < 0xD800 ∨ 0xDFFF < unit then some (Char.ofNat unit, rest)
    else if unit < 0xDC00 then
      match rest with
      | '\\' :: 'u' :: rest =>
        match readUnit rest with
        | some (low, rest) =>
          if 0xDC00 ≤ low ∧ low ≤ 0xDFFF then
            some (Char.ofNat (0x10000 + (unit - 0xD800) * 0x400 + (low - 0xDC00)), rest)
          else none
        | none => none
      | _ => none
    else none

/-- The character that a letter behind a backslash stands for. -/
def escaped? : Char → Option Char
  | '"' => some '"'
  | '\\' => some '\\'
  | '/' => some '/'
  | 'b' => some (Char.ofNat 8)
  | 'f' => some (Char.ofNat 12)
  | 'n' => some '\n'
  | 'r' => some '\r'
  | 't' => some '\t'
  | _ => none

/-- Reads the rest of a string behind the characters read so far, the last one first. -/
def readText : Nat → List Char → List Char → Option (String × List Char)
  | 0, _, _ => none
  | _, _, [] => none
  | _, read, '"' :: rest => some (String.ofList read.reverse, rest)
  | steps + 1, read, '\\' :: 'u' :: rest =>
    match readCodePoint rest with
    | some (c, rest) => readText steps (c :: read) rest
    | none => none
  | steps + 1, read, '\\' :: letter :: rest =>
    match escaped? letter with
    | some c => readText steps (c :: read) rest
    | none => none
  | steps + 1, read, c :: rest =>
    if c.toNat < 0x20 ∨ c = '\\' then none else readText steps (c :: read) rest

/-- The number that a numeral stands for: whole unless it has a fraction or an exponent. -/
def ofNumeral (negative : Bool) (n : Decimal.Numeral) : Json :=
  match n.fraction, n.exponent with
  | none, none =>
    let size : Int := Nat.ofDigitChars 10 n.whole 0
    int (if negative then -size else size)
  | fraction, exponent =>
    decimal (Decimal.ofDigits negative n.whole (fraction.getD []) (exponent.getD 0))

def readUnsigned (negative : Bool) (cs : List Char) : Option (Json × List Char) :=
  match Decimal.readNumeral cs with
  | none => none
  | some n =>
    match n.whole with
    | '0' :: _ :: _ => none
    | _ => some (ofNumeral negative n, n.rest)

def readNumber : List Char → Option (Json × List Char)
  | '-' :: rest => readUnsigned true rest
  | cs => readUnsigned false cs

mutual

def readValue : Nat → List Char → Option (Json × List Char)
  | 0, _ => none
  | steps + 1, cs =>
    match skipBlanks cs with
    | 'n' :: 'u' :: 'l' :: 'l' :: rest => some (null, rest)
    | 't' :: 'r' :: 'u' :: 'e' :: rest => some (bool true, rest)
    | 'f' :: 'a' :: 'l' :: 's' :: 'e' :: rest => some (bool false, rest)
    | '"' :: rest =>
      match readText steps [] rest with
      | some (s, rest) => some (text s, rest)
      | none => none
    | '[' :: rest =>
      match skipBlanks rest with
      | ']' :: rest => some (list [], rest)
      | rest =>
        match readValue steps rest with
        | some (item, rest) =>
          match readItems steps rest with
          | some (items, rest) => some (list (item :: items), rest)
          | none => none
        | none => none
    | '\x7b' :: rest =>
      match skipBlanks rest with
      | '\x7d' :: rest => some (object [], rest)
      | rest =>
        match readMember steps rest with
        | some (member, rest) =>
          match readMembers steps rest with
          | some (members, rest) => some (object (member :: members), rest)
          | none => none
        | none => none
    | rest => readNumber rest

def readItems : Nat → List Char → Option (List Json × List Char)
  | 0, _ => none
  | steps + 1, cs =>
    match skipBlanks cs with
    | ']' :: rest => some ([], rest)
    | ',' :: rest =>
      match readValue steps rest with
      | some (item, rest) =>
        match readItems steps rest with
        | some (items, rest) => some (item :: items, rest)
        | none => none
      | none => none
    | _ => none

def readMember : Nat → List Char → Option ((String × Json) × List Char)
  | 0, _ => none
  | steps + 1, cs =>
    match skipBlanks cs with
    | '"' :: rest =>
      match readText steps [] rest with
      | some (key, rest) =>
        match skipBlanks rest with
        | ':' :: rest =>
          match readValue steps rest with
          | some (item, rest) => some ((key, item), rest)
          | none => none
        | _ => none
      | none => none
    | _ => none

def readMembers : Nat → List Char → Option (List (String × Json) × List Char)
  | 0, _ => none
  | steps + 1, cs =>
    match skipBlanks cs with
    | '\x7d' :: rest => some ([], rest)
    | ',' :: rest =>
      match readMember steps rest with
      | some (member, rest) =>
        match readMembers steps rest with
        | some (members, rest) => some (member :: members, rest)
        | none => none
      | none => none
    | _ => none

end

def readAll (cs : List Char) : Option Json :=
  match readValue (cs.length + 1) cs with
  | some (j, rest) => if (skipBlanks rest).isEmpty then some j else none
  | none => none

def read? (s : String) : Option Json :=
  readAll s.toList

/-! ## Steps of the reader -/

theorem skipBlanks_cons {c : Char} (hc : isBlank c = false) (cs : List Char) :
    skipBlanks (c :: cs) = c :: cs := by
  rw [skipBlanks, List.dropWhile_cons_of_neg (by simp [hc])]

theorem skipBlanks_skipBlanks (cs : List Char) : skipBlanks (skipBlanks cs) = skipBlanks cs := by
  induction cs with
  | nil => rfl
  | cons c cs ih =>
      cases hc : isBlank c with
      | true =>
          have hskip : skipBlanks (c :: cs) = skipBlanks cs := List.dropWhile_cons_of_pos hc
          rw [hskip, ih]
      | false => rw [skipBlanks_cons hc, skipBlanks_cons hc]

variable {steps : Nat} {cs middle rest : List Char}

theorem readValue_skipBlanks (steps : Nat) (cs : List Char) :
    readValue steps (skipBlanks cs) = readValue steps cs := by
  cases steps with
  | zero => rfl
  | succ steps => rw [readValue, readValue, skipBlanks_skipBlanks]

theorem readMember_skipBlanks (steps : Nat) (cs : List Char) :
    readMember steps (skipBlanks cs) = readMember steps cs := by
  cases steps with
  | zero => rfl
  | succ steps => rw [readMember, readMember, skipBlanks_skipBlanks]

theorem readValue_of_number {c : Char} (hc : c = '-' ∨ c.isDigit = true) (steps : Nat)
    (cs : List Char) :
    readValue (steps + 1) (c :: cs) = readNumber (c :: cs) := by
  have hother (d : Char) (hd : ¬(d = '-' ∨ d.isDigit = true)) : c ≠ d := by
    rintro rfl
    exact hd hc
  have hblank : isBlank c = false := by
    simp [isBlank, hother]
  rw [readValue, skipBlanks_cons hblank]
  split
  · next heq => exact absurd (List.cons.inj heq).1 (hother 'n' (by decide))
  · next heq => exact absurd (List.cons.inj heq).1 (hother 't' (by decide))
  · next heq => exact absurd (List.cons.inj heq).1 (hother 'f' (by decide))
  · next heq => exact absurd (List.cons.inj heq).1 (hother '"' (by decide))
  · next heq => exact absurd (List.cons.inj heq).1 (hother '[' (by decide))
  · next heq => exact absurd (List.cons.inj heq).1 (hother '\x7b' (by decide))
  · rfl

theorem readValue_bracket (steps : Nat) (cs : List Char) : readValue steps (']' :: cs) = none := by
  cases steps <;> rfl

theorem readMember_brace (steps : Nat) (cs : List Char) :
    readMember steps ('\x7d' :: cs) = none := by
  cases steps <;> rfl

theorem readValue_text {s : String} (htext : readText steps [] cs = some (s, rest)) :
    readValue (steps + 1) ('"' :: cs) = some (text s, rest) := by
  have hstep : readValue (steps + 1) ('"' :: cs) =
      match readText steps [] cs with
      | some (s, rest) => some (text s, rest)
      | none => none := rfl
  rw [hstep, htext]

theorem readValue_list {item : Json} {items : List Json}
    (hitem : readValue steps cs = some (item, middle))
    (hitems : readItems steps middle = some (items, rest)) :
    readValue (steps + 1) ('[' :: cs) = some (list (item :: items), rest) := by
  have hstep : readValue (steps + 1) ('[' :: cs) =
      match skipBlanks cs with
      | ']' :: rest => some (list [], rest)
      | rest =>
        match readValue steps rest with
        | some (item, rest) =>
          match readItems steps rest with
          | some (items, rest) => some (list (item :: items), rest)
          | none => none
        | none => none := rfl
  rw [← readValue_skipBlanks] at hitem
  rw [hstep]
  split
  · next hclosed =>
      -- An item has been read, so the list is not closed at once.
      rw [hclosed, readValue_bracket] at hitem
      cases hitem
  · rw [hitem]
    dsimp only
    rw [hitems]

theorem readValue_object {member : String × Json} {members : List (String × Json)}
    (hmember : readMember steps cs = some (member, middle))
    (hmembers : readMembers steps middle = some (members, rest)) :
    readValue (steps + 1) ('\x7b' :: cs) = some (object (member :: members), rest) := by
  have hstep : readValue (steps + 1) ('\x7b' :: cs) =
      match skipBlanks cs with
      | '\x7d' :: rest => some (object [], rest)
      | rest =>
        match readMember steps rest with
        | some (member, rest) =>
          match readMembers steps rest with
          | some (members, rest) => some (object (member :: members), rest)
          | none => none
        | none => none := rfl
  rw [← readMember_skipBlanks] at hmember
  rw [hstep]
  split
  · next hclosed =>
      rw [hclosed, readMember_brace] at hmember
      cases hmember
  · rw [hmember]
    dsimp only
    rw [hmembers]

theorem readItems_comma {item : Json} {items : List Json}
    (hitem : readValue steps cs = some (item, middle))
    (hitems : readItems steps middle = some (items, rest)) :
    readItems (steps + 1) (',' :: cs) = some (item :: items, rest) := by
  have hstep : readItems (steps + 1) (',' :: cs) =
      match readValue steps cs with
      | some (item, rest) =>
        match readItems steps rest with
        | some (items, rest) => some (item :: items, rest)
        | none => none
      | none => none := rfl
  rw [hstep, hitem]
  dsimp only
  rw [hitems]

theorem readMembers_comma {member : String × Json} {members : List (String × Json)}
    (hmember : readMember steps cs = some (member, middle))
    (hmembers : readMembers steps middle = some (members, rest)) :
    readMembers (steps + 1) (',' :: cs) = some (member :: members, rest) := by
  have hstep : readMembers (steps + 1) (',' :: cs) =
      match readMember steps cs with
      | some (member, rest) =>
        match readMembers steps rest with
        | some (members, rest) => some (member :: members, rest)
        | none => none
      | none => none := rfl
  rw [hstep, hmember]
  dsimp only
  rw [hmembers]

theorem readMember_quote {key : String} {item : Json}
    (hkey : readText steps [] cs = some (key, ':' :: middle))
    (hitem : readValue steps middle = some (item, rest)) :
    readMember (steps + 1) ('"' :: cs) = some ((key, item), rest) := by
  have hstep : readMember (steps + 1) ('"' :: cs) =
      match readText steps [] cs with
      | some (key, rest) =>
        match skipBlanks rest with
        | ':' :: rest =>
          match readValue steps rest with
          | some (item, rest) => some ((key, item), rest)
          | none => none
        | _ => none
      | none => none := rfl
  have hcolon :
      (match skipBlanks (':' :: middle) with
        | ':' :: rest =>
          match readValue steps rest with
          | some (item, rest) => some ((key, item), rest)
          | none => none
        | _ => none) =
      match readValue steps middle with
      | some (item, rest) => some ((key, item), rest)
      | none => none := rfl
  rw [hstep, hkey]
  dsimp only
  rw [hcolon, hitem]

end Json

end QueryBook
