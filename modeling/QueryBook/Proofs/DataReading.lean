import QueryBook.Proofs.JsonReading
import QueryBook.Value.Json

/-!
# Reading values back

Plain data are null, truth values, whole numbers, texts, and lists and dictionaries of plain
data.  Nothing of them is lost in a document.
-/

namespace QueryBook

inductive Value.IsData : Value → Prop where
  | null : IsData null
  | bool (b : Bool) : IsData (bool b)
  | int (n : Int) : IsData (int n)
  | text (s : String) : IsData (text s)
  | list {items : List Value} (hitems : ∀ item ∈ items, IsData item) : IsData (list items)
  | dictionary {entries : List (String × Value)} (hentries : ∀ entry ∈ entries, IsData entry.2) :
    IsData (dictionary entries)

namespace Json

mutual

/-- The value that a document stands for. -/
def toValue : Json → Value
  | null => .null
  | bool b => .bool b
  | int n => .int n
  | decimal d => .float (.finite d)
  | text s => .text s
  | list items => .list (toValues items)
  | object members => .dictionary (toEntries members)

def toValues : List Json → List Value
  | [] => []
  | item :: items => toValue item :: toValues items

def toEntries : List (String × Json) → List (String × Value)
  | [] => []
  | (key, item) :: members => (key, toValue item) :: toEntries members

end

theorem toValues_eq_map (items : List Json) : toValues items = items.map toValue := by
  induction items with
  | nil => rfl
  | cons item items ih => rw [toValues, ih, List.map_cons]

theorem toEntries_eq_map (members : List (String × Json)) :
    toEntries members = members.map fun member => (member.1, member.2.toValue) := by
  induction members with
  | nil => rfl
  | cons member members ih => rw [toEntries, ih, List.map_cons]

end Json

namespace Value

theorem toJsons_eq_map (items : List Value) : toJsons items = items.map toJson := by
  induction items with
  | nil => rfl
  | cons item items ih => rw [toJsons, ih, List.map_cons]

theorem toMembers_eq_map (entries : List (String × Value)) :
    toMembers entries = entries.map fun entry => (entry.1, entry.2.toJson) := by
  induction entries with
  | nil => rfl
  | cons entry entries ih => rw [toMembers, ih, List.map_cons]

theorem IsData.exact_toJson {v : Value} (hdata : v.IsData) : v.toJson.Exact := by
  induction hdata with
  | null => exact .null
  | bool b => exact .bool b
  | int n => exact .int n
  | text s => exact .text s
  | list _ ih =>
      rw [toJson, toJsons_eq_map]
      exact .list (List.forall_mem_map.mpr ih)
  | dictionary _ ih =>
      rw [toJson, toMembers_eq_map]
      exact .object (List.forall_mem_map.mpr ih)

/-- Plain data are what their document stands for. -/
theorem IsData.toValue_toJson {v : Value} (hdata : v.IsData) : v.toJson.toValue = v := by
  induction hdata with
  | null => rfl
  | bool b => rfl
  | int n => rfl
  | text s => rfl
  | @list items _ ih =>
      have hsame : items.map (Json.toValue ∘ toJson) = items :=
        (List.map_congr_left ih).trans (List.map_id' items)
      rw [toJson, toJsons_eq_map, Json.toValue, Json.toValues_eq_map, List.map_map, hsame]
  | @dictionary entries _ ih =>
      have hsame :
          entries.map (fun entry => (entry.1, entry.2.toJson.toValue)) = entries :=
        (List.map_congr_left fun entry hentry => by rw [ih entry hentry]).trans
          (List.map_id' entries)
      rw [toJson, toMembers_eq_map, Json.toValue, Json.toEntries_eq_map, List.map_map]
      exact congrArg Value.dictionary hsame

end Value

end QueryBook
