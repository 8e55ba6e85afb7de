import QueryBook.Log.Directive

/-!
# Message templates

A template with arguments becomes a message: each directive takes the next argument, or the
entry of its key, and two percent signs are one.  All arguments must be used up, unless they
come as one value in which keys or places can be looked up.  Without arguments a template is
the message as it stands.
-/

namespace QueryBook.Log

/-- What a template is filled with: the arguments not taken yet, and the value in which keys
are looked up. -/
structure Supply where
  source : Option Value := none
  left : List Value

namespace Supply

/-- A row of arguments.  A single dictionary that is not empty is looked up in as well. -/
def ofArguments : List Value → Option Supply
  | [] => none
  | [.dictionary (entry :: entries)] =>
    some ⟨some (.dictionary (entry :: entries)), [.dictionary (entry :: entries)]⟩
  | args => some { left := args }

/-- A single value in place of the arguments.  A tuple is a row of them. -/
def ofOperand (v : Value) : Option Supply :=
  if v.isPresent then
    match v with
    | .tuple items => some { left := items }
    | .list _ | .bytes _ | .byteArray _ | .range _ | .dictionary _ => some ⟨some v, [v]⟩
    | v => some { left := [v] }
  else none

def next (supply : Supply) : Except TemplateError (Value × Supply) :=
  match supply.left with
  | [] => .error .tooFewArguments
  | v :: left => .ok (v, { supply with left := left })

def entry (source : Value) (name : String) : Except TemplateError Value :=
  match source with
  | .dictionary entries =>
    match entries.lookup name with
    | some v => .ok v
    | none => .error (.missingKey name)
  | .bytes _ => .error (.noIndex "byte")
  | v => .error (.noIndex v.kindName)

def select (supply : Supply) : Key → Except TemplateError Supply
  | .absent => .ok supply
  | key =>
    match supply.source, key with
    | none, _ => .error .noMapping
    | some source, .named name =>
      (entry source name).map fun v => { supply with left := [v] }
    | some _, _ => .error .unclosedKey

def nextInteger (supply : Supply) : Except TemplateError (Int × Supply) :=
  match supply.next with
  | .error e => .error e
  | .ok (v, supply) =>
    match integer? v with
    | some n => .ok (n, supply)
    | none => .error .starNoInteger

/-- Settles the width; a negative one from the arguments asks for the left side, and the
least of them, which has no counterpart, for nothing more. -/
def settleWidth (supply : Supply) (form : Form) :
    Measure → Except TemplateError (Form × Supply)
  | .absent => .ok (form, supply)
  | .digits n =>
    if n < Nat.pow 2 63 then .ok ({ form with width := n }, supply) else .error .widthTooBig
  | .argument =>
    match supply.nextInteger with
    | .error e => .error e
    | .ok (n, supply) =>
      if n < -Nat.pow 2 63 ∨ Nat.pow 2 63 ≤ n then .error .starWidthTooBig
      else if n < 0 then
        .ok ({ form with flags := '-' :: form.flags, width := n.natAbs % Nat.pow 2 63 }, supply)
      else .ok ({ form with width := n.toNat }, supply)

/-- Settles the precision; a negative one from the arguments counts as zero. -/
def settlePrecision (supply : Supply) (form : Form) :
    Measure → Except TemplateError (Form × Supply)
  | .absent => .ok (form, supply)
  | .digits n =>
    if n < Nat.pow 2 31 then .ok ({ form with precision := some n }, supply)
    else .error .precisionTooBig
  | .argument =>
    match supply.nextInteger with
    | .error e => .error e
    | .ok (n, supply) =>
      if n < -Nat.pow 2 31 ∨ Nat.pow 2 31 ≤ n then .error .starPrecisionTooBig
      else .ok ({ form with precision := some n.toNat }, supply)

/-- Carries out a directive whose percent sign stands at an index. -/
def carryOut (supply : Supply) (index : Nat) (d : Directive) :
    Except TemplateError (Message × Supply) := do
  let supply ← supply.select d.key
  let (form, supply) ← supply.settleWidth { flags := d.flags } d.width
  let (form, supply) ← supply.settlePrecision form d.precision
  match d.letter with
  | none => .error .incomplete
  | some letter =>
    let (v, supply) ← supply.next
    let shown ← form.convert letter (index + d.size) v
    let message ← form.place? shown
    pure (message, supply)

end Supply

/-- The message for the template from an index on, once a number of characters, the tail of
a directive, is passed over; and what is left of the supply. -/
def fillFrom (supply : Supply) (index : Nat) :
    Nat → List Char → Except TemplateError (Message × Supply)
  | _, [] => .ok ([], supply)
  | skip + 1, _ :: rest => fillFrom supply (index + 1) skip rest
  | 0, c :: rest =>
    if c ≠ '%' then prepend [.char c] (fillFrom supply (index + 1) 0 rest)
    else if rest.head? = some '%' then prepend [.char '%'] (fillFrom supply (index + 1) 1 rest)
    else
      let d := Directive.read rest
      match supply.carryOut index d with
      | .ok (shown, supply) => prepend shown (fillFrom supply (index + 1) d.size rest)
      | .error e => .error e
where
  /-- Puts a message in front of another. -/
  prepend (shown : Message) :
      Except TemplateError (Message × Supply) → Except TemplateError (Message × Supply)
    | .ok (message, left) => .ok (shown ++ message, left)
    | .error e => .error e

def fill (template : List Char) : Option Supply → Except TemplateError Message
  | none => .ok (.ofChars template)
  | some supply =>
    match fillFrom supply 0 0 template with
    | .ok (message, supply) =>
      if supply.left.isEmpty || supply.source.isSome then .ok message
      else .error .argumentsLeft
    | .error e => .error e

end QueryBook.Log
