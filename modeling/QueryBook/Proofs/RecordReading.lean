import QueryBook.Proofs.ControlCharacters
import QueryBook.Proofs.DataReading
import QueryBook.Proofs.RecordLines

/-!
# Reading records back

The line of a record is one line, and reading it gives the members of the record and no
others, whatever the texts in it hold.
-/

namespace QueryBook.Log

namespace Record

variable {r : Record} {pattern : Option String}

/-! ## What a line should tell -/

/-- The record has an exception to tell of. -/
def tellsFailure (r : Record) : Bool :=
  match r.fields.lookup "exc_info" with
  | none => r.failure.isSome
  | some v => v.isPresent

/-- The keys of a record, each of which is there once. -/
def keys (r : Record) : List String :=
  ["timestamp", "level", "logger", "message"] ++
    queryFields.filter (fun key => (r.fields.lookup key).isSome) ++
      if r.tellsFailure then ["exception"] else []

/-- What a record has to say under a key. -/
def valueOf? (r : Record) (pattern : Option String) : String → Option Value
  | "timestamp" => (r.timestamp pattern).toOption.map Value.text
  | "level" => some r.levelShown
  | "logger" => some r.loggerShown
  | "message" => (r.message.toOption.bind fun m => m.text.toOption).map Value.text
  | "exception" => r.failureLine.toOption.join.map Value.text
  | key => r.fields.lookup key

/-- The parts of a record that may fail to be shown can be shown. -/
structure Showable (r : Record) (pattern : Option String) : Prop where
  exists_timestamp : ∃ timestamp, r.timestamp pattern = .ok timestamp
  exists_message : ∃ message : String, r.message = .ok (.ofChars message.toList)
  exists_failureLine : ∃ failure, r.failureLine = .ok failure

/-- The values that the line of a record shows as they are, are plain data. -/
def ShowsData (r : Record) : Prop :=
  ∀ key ∈ "levelname" :: "name" :: queryFields, ∀ v, r.fields.lookup key = some v → v.IsData

/-- A document tells what a record has to say, each thing once and nothing else. -/
structure ToldBy (r : Record) (pattern : Option String) (members : List (String × Json)) :
    Prop where
  keys_eq : members.map Prod.fst = r.keys
  nodup_keys : (members.map Prod.fst).Nodup
  valueOf_eq : ∀ member ∈ members, r.valueOf? pattern member.1 = some member.2.toValue

/-! ## The members of a record -/

theorem isSome_of_failureLine {failure : Option String} (hfailure : r.failureLine = .ok failure) :
    failure.isSome = r.tellsFailure := by
  unfold failureLine at hfailure
  unfold tellsFailure
  cases hlookup : r.fields.lookup "exc_info" with
  | none =>
      cases hown : r.failure with
      | none =>
          simp only [hlookup, hown, Option.map_none, Except.ok.injEq] at hfailure
          rw [← hfailure]
          rfl
      | some own =>
          cases hline : own.line with
          | error e => simp [hlookup, hown, hline] at hfailure
          | ok line =>
              simp only [hlookup, hown, hline, Option.map_some, Except.ok.injEq] at hfailure
              rw [← hfailure]
              rfl
  | some v =>
      simp only [hlookup] at hfailure
      cases hpresent : v.isPresent with
      | false =>
          rw [hpresent, if_neg Bool.false_ne_true, Except.ok.injEq] at hfailure
          rw [← hfailure]
          exact hpresent.symm
      | true =>
          rw [hpresent, if_pos rfl, map_eq_ok_iff] at hfailure
          obtain ⟨line, -, rfl⟩ := hfailure
          exact hpresent.symm

theorem keys_carriedFields (r : Record) :
    r.carriedFields.map Prod.fst =
      queryFields.filter fun key => (r.fields.lookup key).isSome := by
  unfold carriedFields
  induction queryFields with
  | nil => rfl
  | cons key keys ih =>
      cases hlookup : r.fields.lookup key with
      | none => simp [hlookup, ih]
      | some v => simp [hlookup, ih]

theorem nodup_keys (r : Record) : r.keys.Nodup := by
  have hall :
      (["timestamp", "level", "logger", "message"] ++ queryFields ++ ["exception"]).Nodup := by
    decide
  refine hall.sublist ?_
  rw [keys]
  refine List.Sublist.append (List.Sublist.append_left List.filter_sublist _) ?_
  split
  · exact List.Sublist.refl _
  · exact List.nil_sublist _

theorem keys_members {failure : Option String} (hfailure : r.failureLine = .ok failure)
    (timestamp message : String) :
    (r.members timestamp message failure).map Prod.fst = r.keys := by
  rw [members, keys, List.map_append, List.map_append, keys_carriedFields,
    ← isSome_of_failureLine hfailure]
  cases failure <;> rfl

theorem ShowsData.property (hdata : r.ShowsData) {key : String}
    (hkey : key ∈ ["levelname", "name"]) (s : String) :
    (r.property key (.text s)).IsData := by
  unfold Record.property
  cases hlookup : r.fields.lookup key with
  | none => exact .text s
  | some v => exact hdata key (List.mem_append_left queryFields hkey) v hlookup

theorem showsData_of_fields (hfields : ∀ field ∈ r.fields, field.2.IsData) : r.ShowsData := by
  intro key _ v hlookup
  obtain ⟨before, behind, hsplit, -⟩ := List.lookup_eq_some_iff.mp hlookup
  exact hfields (key, v) (hsplit ▸ List.mem_append_right before (List.mem_cons_self ..))

theorem mem_carriedFields {member : String × Json} (hmember : member ∈ r.carriedFields) :
    member.1 ∈ queryFields ∧
      ∃ v, r.fields.lookup member.1 = some v ∧ member.2 = v.toJson := by
  obtain ⟨key, hkey, hshown⟩ := List.mem_filterMap.mp hmember
  obtain ⟨v, hlookup, rfl⟩ := Option.map_eq_some_iff.mp hshown
  exact ⟨hkey, v, hlookup, rfl⟩

theorem valueOf?_of_mem_queryFields {key : String} (hkey : key ∈ queryFields) :
    r.valueOf? pattern key = r.fields.lookup key := by
  simp only [queryFields, List.mem_cons, List.not_mem_nil, or_false] at hkey
  rcases hkey with rfl | rfl | rfl | rfl <;> rfl

/-- A member shows what the record has to say under its key. -/
theorem exists_data_of_mem_members (hdata : r.ShowsData) {timestamp message : String}
    {failure : Option String} (htime : r.timestamp pattern = .ok timestamp)
    (hmessage : r.message = .ok (.ofChars message.toList))
    (hfailure : r.failureLine = .ok failure) {member : String × Json}
    (hmember : member ∈ r.members timestamp message failure) :
    ∃ v : Value, v.IsData ∧ member.2 = v.toJson ∧ r.valueOf? pattern member.1 = some v := by
  rw [members, List.mem_append, List.mem_append] at hmember
  rcases hmember with (hfixed | hcarried) | hexception
  · simp only [List.mem_cons, List.not_mem_nil, or_false] at hfixed
    rcases hfixed with rfl | rfl | rfl | rfl
    · exact ⟨.text timestamp, .text _, rfl, by rw [valueOf?, htime]; rfl⟩
    · exact ⟨r.levelShown, hdata.property (by decide) _, rfl, rfl⟩
    · exact ⟨r.loggerShown, hdata.property (by decide) _, rfl, rfl⟩
    · have htext : (Message.ofChars message.toList).text = .ok message :=
        Message.text_eq_ok_iff.mpr rfl
      exact ⟨.text message, .text _, rfl, by simp [valueOf?, hmessage, htext, Except.toOption]⟩
  · obtain ⟨hkey, v, hlookup, hshown⟩ := mem_carriedFields hcarried
    exact ⟨v, hdata _ (List.mem_append_right ["levelname", "name"] hkey) v hlookup, hshown,
      (valueOf?_of_mem_queryFields hkey).trans hlookup⟩
  · cases failure with
    | none => cases hexception
    | some line =>
        obtain rfl := List.mem_singleton.mp hexception
        exact ⟨.text line, .text _, rfl, by rw [valueOf?, hfailure]; rfl⟩

theorem toldBy_members (hdata : r.ShowsData) {timestamp message : String}
    {failure : Option String} (htime : r.timestamp pattern = .ok timestamp)
    (hmessage : r.message = .ok (.ofChars message.toList))
    (hfailure : r.failureLine = .ok failure) :
    r.ToldBy pattern (r.members timestamp message failure) := by
  have hkeys := keys_members hfailure timestamp message
  refine ⟨hkeys, hkeys ▸ nodup_keys r, ?_⟩
  intro member hmember
  obtain ⟨v, hv, hshown, hvalue⟩ :=
    exists_data_of_mem_members hdata htime hmessage hfailure hmember
  rw [hvalue, hshown, hv.toValue_toJson]

theorem showable_iff :
    r.Showable pattern ↔ ∃ line, r.jsonLine pattern = .ok line := by
  simp only [jsonLine_eq_ok_iff]
  constructor
  · rintro ⟨⟨timestamp, htime⟩, ⟨message, hmessage⟩, ⟨failure, hfailure⟩⟩
    exact ⟨_, timestamp, message, failure, htime, hmessage, hfailure, rfl⟩
  · rintro ⟨-, timestamp, message, failure, htime, hmessage, hfailure, -⟩
    exact ⟨⟨timestamp, htime⟩, ⟨message, hmessage⟩, ⟨failure, hfailure⟩⟩

/-- A message with a member of its own, and quotes, backslashes and line breaks. -/
def embeddedMember : Record where
  level := 20
  logger := "sqltags.\"x\""
  template := "%s\",\"level\":\"ERROR"
  arguments := [.text "a\r\n\u2028b\\"]
  fields :=
    [("message", .text "m"), ("query_count", .int (-3)),
      ("query", .dictionary [("\n", .list [.null, .bool true, .text "\t"])])]
  failure := some (.described "ValueError" "c\nd")

end Record

end QueryBook.Log
