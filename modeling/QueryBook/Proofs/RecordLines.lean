import QueryBook.Log.Journal
import Mathlib.Data.List.TakeWhile

/-!
# Lines of records

A record has a line if its time and its exception can be shown and its message can be put
together.  As one JSON object the message must be a text besides.
-/

namespace QueryBook.Log

theorem bind_eq_ok_iff {ε α β : Type} {x : Except ε α} {next : α → Except ε β} {b : β} :
    (x >>= next) = .ok b ↔ ∃ a, x = .ok a ∧ next a = .ok b := by
  cases x with
  | error e => simp [bind, Except.bind]
  | ok a => simp [bind, Except.bind]

theorem map_eq_ok_iff {ε α β : Type} {x : Except ε α} {f : α → β} {b : β} :
    x.map f = .ok b ↔ ∃ a, x = .ok a ∧ f a = b := by
  cases x with
  | error e => simp [Except.map]
  | ok a => simp [Except.map]

namespace Message

theorem eq_ofChars_of_isChar {m : Message} (hchars : ∀ p ∈ m, p.isChar = true) :
    m = ofChars (m.filterMap CodePoint.char?) := by
  induction m with
  | nil => rfl
  | cons p m ih =>
      have hrest := ih fun q hq => hchars q (List.mem_cons_of_mem _ hq)
      cases p with
      | char c => exact congrArg (CodePoint.char c :: ·) hrest
      | surrogate n => cases hchars (.surrogate n) (List.mem_cons_self ..)

/-- A message is a text exactly if it is made of characters. -/
theorem text_eq_ok_iff {m : Message} {s : String} :
    m.text = .ok s ↔ m = ofChars s.toList := by
  constructor
  · intro htext
    unfold text at htext
    split at htext
    · cases htext
    · next hnone =>
        have hdrop : m.dropWhile CodePoint.isChar = [] := by
          cases hleft : m.dropWhile CodePoint.isChar with
          | nil => rfl
          | cons p rest =>
              cases p with
              | surrogate n => exact absurd hleft (hnone n rest)
              | char c =>
                  have hstop := List.head?_dropWhile_not CodePoint.isChar m
                  rw [hleft] at hstop
                  cases hstop
        have hchars := List.dropWhile_eq_nil_iff.mp hdrop
        rw [← Except.ok.inj htext, String.toList_ofList]
        exact eq_ofChars_of_isChar hchars
  · rintro rfl
    rw [text_ofChars, String.ofList_toList]

end Message

namespace Record

variable {r : Record} {pattern : Option String}

theorem written_eq_ok_iff {m : Message} {s : String} :
    written m = .ok s ↔ m = .ofChars s.toList := by
  rw [← Message.text_eq_ok_iff, written]
  cases m.text with
  | error e => simp
  | ok found => simp

/-- The members of a record's object, from the parts that may fail to be shown. -/
def members (r : Record) (timestamp message : String) (failure : Option String) :
    List (String × Json) :=
  [("timestamp", .text timestamp), ("level", r.levelShown.toJson),
      ("logger", r.loggerShown.toJson), ("message", .text message)] ++
    r.carriedFields ++ (failure.map fun line => ("exception", Json.text line)).toList

theorem toJson_eq_ok_iff {j : Json} :
    r.toJson pattern = .ok j ↔
      ∃ timestamp message failure, r.timestamp pattern = .ok timestamp ∧
        r.message = .ok (.ofChars message.toList) ∧ r.failureLine = .ok failure ∧
        j = .object (r.members timestamp message failure) := by
  unfold toJson
  simp only [bind_eq_ok_iff, written_eq_ok_iff]
  constructor
  · rintro ⟨timestamp, htime, m, hmessage, failure, hfailure, message, rfl, hj⟩
    exact ⟨timestamp, message, failure, htime, hmessage, hfailure, (Except.ok.inj hj).symm⟩
  · rintro ⟨timestamp, message, failure, htime, hmessage, hfailure, rfl⟩
    exact ⟨timestamp, htime, _, hmessage, failure, hfailure, message, rfl, rfl⟩

theorem jsonLine_eq_ok_iff {line : String} :
    r.jsonLine pattern = .ok line ↔
      ∃ timestamp message failure, r.timestamp pattern = .ok timestamp ∧
        r.message = .ok (.ofChars message.toList) ∧ r.failureLine = .ok failure ∧
        line = Json.print (.object (r.members timestamp message failure)) := by
  simp only [jsonLine, map_eq_ok_iff, toJson_eq_ok_iff]
  constructor
  · rintro ⟨j, ⟨timestamp, message, failure, htime, hmessage, hfailure, rfl⟩, rfl⟩
    exact ⟨timestamp, message, failure, htime, hmessage, hfailure, rfl⟩
  · rintro ⟨timestamp, message, failure, htime, hmessage, hfailure, rfl⟩
    exact ⟨_, ⟨timestamp, message, failure, htime, hmessage, hfailure, rfl⟩, rfl⟩

theorem plainLine_eq_ok_iff {line : Message} :
    r.plainLine = .ok line ↔
      ∃ message timestamp failure, r.message = .ok message ∧ r.timestamp none = .ok timestamp ∧
        r.failureLine = .ok failure ∧
        line = withFailure (.ofChars (r.plainHead timestamp) ++ message) failure := by
  simp only [plainLine, bind_eq_ok_iff]
  constructor
  · rintro ⟨message, hmessage, timestamp, htime, failure, hfailure, hline⟩
    exact ⟨message, timestamp, failure, hmessage, htime, hfailure, (Except.ok.inj hline).symm⟩
  · rintro ⟨message, timestamp, failure, hmessage, htime, hfailure, rfl⟩
    exact ⟨message, hmessage, timestamp, htime, failure, hfailure, rfl⟩

end Record

end QueryBook.Log
