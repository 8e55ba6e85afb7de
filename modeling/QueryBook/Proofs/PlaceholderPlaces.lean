import QueryBook.Proofs.PlaceholderOccurrences
import Mathlib.Data.List.Forall2
import Mathlib.Data.List.Sort

/-!
# Places of placeholders

Whether a placeholder opens at a place of a text, and which one, is settled by the character
there, the one in front and the run of name characters behind.  This is said here by places
alone, without a reader and without what was read before.  The placeholders of a body are
those of its open places from left to right, and no other list has this property.  In
particular a placeholder is never passed over because a name in front of it was read first.
-/

namespace QueryBook

namespace Placeholder

/-- A name stands at a place of a text and cannot be made longer. -/
structure NameAt (text : List Char) (place : Nat) (name : List Char) : Prop where
  ne_nil : name ≠ []
  chars : ∀ c ∈ name, isNameChar c = true
  stands : ∃ front back, text = front ++ (name ++ back) ∧ front.length = place ∧
    ∀ c ∈ back.head?, isNameChar c = false

/-- A placeholder opens at a place of a text. -/
inductive OpensAt (text : List Char) (place : Nat) : Placeholder → Prop where
  | mark (hmark : text[place]? = some '?') : OpensAt text place .positional
  | colon {name : List Char}
      (hcolon : text[place]? = some ':')
      (hcast : ∀ before, before + 1 = place → text[before]? ≠ some ':')
      (hname : NameAt text (place + 1) name) :
      OpensAt text place (.named (String.ofList name))

/-- Placeholders open at the given places of a text, one at each from left to right, and
nothing opens at any other place. -/
structure ListedAt (text : List Char) (places : List Nat) (params : List Placeholder) :
    Prop where
  increasing : places.SortedLT
  complete : ∀ place, place ∈ places ↔ ∃ p, OpensAt text place p
  each : List.Forall₂ (OpensAt text) places params

/-! ## What opens at a place -/

theorem nameAt_iff {text : List Char} {place : Nat} {name : List Char} :
    NameAt text place name ↔
      name = (text.drop place).takeWhile isNameChar ∧ name ≠ [] := by
  constructor
  · rintro ⟨hne, hall, front, back, rfl, rfl, hback⟩
    refine ⟨?_, hne⟩
    have hstop : back.takeWhile isNameChar = [] := by
      cases back with
      | nil => rfl
      | cons c back => simp [hback c rfl]
    rw [List.drop_left, List.takeWhile_append_of_pos hall, hstop, List.append_nil]
  · rintro ⟨rfl, hne⟩
    have hplace : place ≤ text.length := by
      by_contra hlong
      rw [List.drop_eq_nil_of_le (by omega)] at hne
      exact hne rfl
    refine ⟨hne, fun c hmem => List.mem_takeWhile_imp hmem, text.take place,
      (text.drop place).dropWhile isNameChar, ?_, ?_, ?_⟩
    · rw [List.takeWhile_append_dropWhile, List.take_append_drop]
    · exact List.length_take_of_le hplace
    · intro c hc
      have hstop := List.head?_dropWhile_not isNameChar (text.drop place)
      rwa [hc] at hstop

theorem head?_reverse_take_eq_colon_iff {text : List Char} {place : Nat}
    (hplace : place ≤ text.length) :
    (text.take place).reverse.head? = some ':' ↔
      ∃ before, before + 1 = place ∧ text[before]? = some ':' := by
  rw [List.head?_reverse]
  cases place with
  | zero => simp
  | succ before =>
      have hlast : (text.take (before + 1)).getLast? = text[before]? := by
        rw [List.getLast?_eq_getElem?, List.length_take_of_le hplace, Nat.add_sub_cancel,
          List.getElem?_take_of_lt before.lt_succ_self]
      rw [hlast]
      constructor
      · intro hcolon
        exact ⟨before, rfl, hcolon⟩
      · rintro ⟨other, hother, hcolon⟩
        obtain rfl : other = before := by omega
        exact hcolon

theorem atPlace?_eq_some_iff {text : List Char} {place : Nat} {p : Placeholder} :
    atPlace? text place = some p ↔ OpensAt text place p := by
  by_cases hplace : place < text.length
  · have hdrop : text.drop place = text[place] :: text.drop (place + 1) :=
      List.drop_eq_getElem_cons hplace
    have hget : text[place]? = some text[place] := List.getElem?_eq_getElem hplace
    have hhead := head?_reverse_take_eq_colon_iff hplace.le
    rw [atPlace?, hdrop]
    constructor
    · intro hsome
      rcases at?_eq_some hsome with ⟨hmark, rfl⟩ | ⟨hcolon, hcast, hname, rfl⟩
      · exact .mark (by rw [hget, hmark])
      · refine .colon (by rw [hget, hcolon]) ?_ (nameAt_iff.mpr ⟨rfl, hname⟩)
        intro before hbefore hother
        exact hcast (hhead.mpr ⟨before, hbefore, hother⟩)
    · rintro (hmark | ⟨hcolon, hcast, hname⟩)
      · obtain hmark : text[place] = '?' := by simpa [hget] using hmark
        rw [hmark, at?_mark]
      · obtain hcolon : text[place] = ':' := by simpa [hget] using hcolon
        obtain ⟨rfl, hne⟩ := nameAt_iff.mp hname
        rw [hcolon, at?_colon, if_neg]
        rw [hhead, not_or]
        exact ⟨fun ⟨before, hbefore, hother⟩ => hcast before hbefore hother, hne⟩
  · have hget : text[place]? = none := List.getElem?_eq_none (by omega)
    rw [atPlace?, List.drop_eq_nil_of_le (by omega), at?]
    constructor
    · intro hsome
      contradiction
    · rintro (hmark | ⟨hcolon, -, -⟩)
      · simp [hget] at hmark
      · simp [hget] at hcolon

/-! ## The open places -/

def openPlaces (text : List Char) : List Nat :=
  (List.range text.length).filter fun place => (atPlace? text place).isSome

theorem mem_openPlaces_iff {text : List Char} {place : Nat} :
    place ∈ openPlaces text ↔ ∃ p, OpensAt text place p := by
  simp only [openPlaces, List.mem_filter, List.mem_range, Option.isSome_iff_exists,
    atPlace?_eq_some_iff, and_iff_right_iff_imp]
  rintro ⟨p, hmark | ⟨hcolon, -, -⟩⟩
  · exact (List.getElem?_eq_some_iff.mp hmark).1
  · exact (List.getElem?_eq_some_iff.mp hcolon).1

theorem sortedLT_openPlaces (text : List Char) : (openPlaces text).SortedLT :=
  (List.pairwise_lt_range.filter _).sortedLT

theorem map_atPlace?_openPlaces (text : List Char) :
    (openPlaces text).map (atPlace? text) = (occurrences text).map some := by
  rw [openPlaces, occurrences]
  induction List.range text.length with
  | nil => rfl
  | cons place rest ih =>
      cases hopen : atPlace? text place <;> simp [hopen, ih]

theorem forall₂_opensAt_iff {text : List Char} {places : List Nat}
    {params : List Placeholder} :
    List.Forall₂ (OpensAt text) places params ↔
      places.map (atPlace? text) = params.map some := by
  rw [← List.forall₂_eq_eq_eq, List.forall₂_map_left_iff, List.forall₂_map_right_iff]
  simp only [atPlace?_eq_some_iff]

theorem listedAt_iff {text : List Char} {places : List Nat} {params : List Placeholder} :
    ListedAt text places params ↔
      places = openPlaces text ∧ params = occurrences text := by
  constructor
  · rintro ⟨hincreasing, hcomplete, heach⟩
    obtain rfl : places = openPlaces text := by
      apply hincreasing.eq_of_mem_iff (sortedLT_openPlaces text)
      intro place
      rw [hcomplete, mem_openPlaces_iff]
    rw [forall₂_opensAt_iff, map_atPlace?_openPlaces] at heach
    exact ⟨rfl, (List.map_injective_iff.mpr (Option.some_injective _) heach).symm⟩
  · rintro ⟨rfl, rfl⟩
    refine ⟨sortedLT_openPlaces text, fun place => mem_openPlaces_iff, ?_⟩
    rw [forall₂_opensAt_iff, map_atPlace?_openPlaces]

end Placeholder

/-- The placeholders of a body are the ones that open at its places, from left to right. -/
theorem placeholders_eq_iff_listedAt (body : String) (params : List Placeholder) :
    placeholders body = params ↔
      ∃ places, Placeholder.ListedAt body.toList places params := by
  rw [Placeholder.placeholders_eq_occurrences]
  constructor
  · rintro rfl
    exact ⟨_, Placeholder.listedAt_iff.mpr ⟨rfl, rfl⟩⟩
  · rintro ⟨places, hlisted⟩
    exact (Placeholder.listedAt_iff.mp hlisted).2.symm

example : placeholders "::t :a:b-c?:?" =
    [.named "a", .named "b-c", .positional, .positional] := by
  decide

end QueryBook
