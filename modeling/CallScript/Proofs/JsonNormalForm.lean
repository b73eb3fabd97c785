import CallScript.Value.Json
import CallScript.Proofs.DoubleRange

/-!
# Values and documents as each other's normal forms

A value becomes a document and a document a value, and each way loses something: names, comments,
errors and undecoded documents have no document of their own, and truth values and large whole
numbers have no value of their own. What is lost is lost at once. The value of a document holds only
absent values, integers, finite doubles, strings, lists and maps, and these are the values that the
way over a document leaves as they are.
-/

namespace CallScript.Value

theorem itemsToJson_eq_map (items : List Value) : itemsToJson items = items.map toJson := by
  induction items with
  | nil => rfl
  | cons v items ih => rw [itemsToJson, ih, List.map_cons]

theorem entriesToJson_eq_map (entries : List (String × Value)) :
    entriesToJson entries = entries.map fun e => (e.1, e.2.toJson) := by
  induction entries with
  | nil => rfl
  | cons e entries ih =>
    obtain ⟨k, v⟩ := e
    rw [entriesToJson, ih, List.map_cons]

theorem ofItems_eq_map (docs : List Json) : ofItems docs = docs.map ofJson := by
  induction docs with
  | nil => rfl
  | cons doc docs ih => rw [ofItems, ih, List.map_cons]

theorem ofMembers_eq_map (members : List (String × Json)) :
    ofMembers members = members.map fun m => (m.1, ofJson m.2) := by
  induction members with
  | nil => rfl
  | cons m members ih =>
    obtain ⟨k, doc⟩ := m
    rw [ofMembers, ih, List.map_cons]

/-- Values built of absent values, integers, finite doubles, strings, lists and maps. -/
inductive IsDecoded : Value → Prop where
  | nil : IsDecoded .nil
  | int (n : Int64) : IsDecoded (.int n)
  | float {x : Float} (finite : x.isFinite = true) : IsDecoded (.float x)
  | string (s : String) : IsDecoded (.string s)
  | list {items : List Value} (parts : ∀ v ∈ items, IsDecoded v) : IsDecoded (.list items)
  | map {entries : List (String × Value)} (parts : ∀ e ∈ entries, IsDecoded e.2) :
      IsDecoded (.map entries)

/-- A number is an integer or a finite double, also beyond the signed range. -/
theorem isDecoded_ofNumber (n : Json.Number) : (ofNumber n).IsDecoded := by
  cases n with
  | whole n fits =>
    rw [ofNumber]
    split
    · exact .int _
    · next hlarge => exact .float (Decimal.isFinite_ofInt (Int.not_lt.mp hlarge) fits.2)
  | real x finite => exact .float finite

mutual

/-- Documents have decoded values. -/
theorem isDecoded_ofJson (doc : Json) : (ofJson doc).IsDecoded := by
  cases doc with
  | null => exact .nil
  | bool b => exact .int _
  | number n => exact isDecoded_ofNumber n
  | string s => exact .string s
  | array items => exact .list (isDecoded_ofItems items)
  | object members => exact .map (isDecoded_ofMembers members)

theorem isDecoded_ofItems (items : List Json) : ∀ v ∈ ofItems items, v.IsDecoded := by
  match items with
  | [] => exact nofun
  | doc :: items => exact List.forall_mem_cons.mpr ⟨isDecoded_ofJson doc, isDecoded_ofItems items⟩

theorem isDecoded_ofMembers (members : List (String × Json)) :
    ∀ e ∈ ofMembers members, e.2.IsDecoded := by
  match members with
  | [] => exact nofun
  | (_, doc) :: members =>
    exact List.forall_mem_cons.mpr ⟨isDecoded_ofJson doc, isDecoded_ofMembers members⟩

end

/-- Nothing of a decoded value is lost in its document. -/
theorem IsDecoded.ofJson_toJson {v : Value} (h : v.IsDecoded) : ofJson v.toJson = v := by
  induction h with
  | nil => rfl
  | int n =>
    have hlt : n.toInt < 0x8000000000000000 := n.toInt_lt
    change (if n.toInt < 0x8000000000000000 then _ else _) = _
    rw [if_pos hlt, Int64.ofInt_toInt]
  | float finite =>
    rw [toJson, Json.ofFloat, dif_pos finite]
    rfl
  | string s => rfl
  | @list items _ ih =>
    have hitems : items.map (ofJson ∘ toJson) = items.map id := List.map_congr_left ih
    rw [toJson, ofJson, itemsToJson_eq_map, ofItems_eq_map, List.map_map, hitems, List.map_id]
  | @map entries _ ih =>
    have hentries : entries.map ((fun m => (m.1, ofJson m.2)) ∘ fun e => (e.1, e.2.toJson)) =
        entries.map id := List.map_congr_left fun e he => Prod.ext rfl (ih e he)
    rw [toJson, ofJson, entriesToJson_eq_map, ofMembers_eq_map, List.map_map, hentries, List.map_id]

/-- Lists are equal as data to themselves if all their items are. -/
theorem sameItems_self {items : List Value} (h : ∀ v ∈ items, v.same v = true) :
    sameItems items items = true := by
  induction items with
  | nil => rfl
  | cons v items ih =>
    obtain ⟨hv, hitems⟩ := List.forall_mem_cons.mp h
    rw [sameItems, hv, ih hitems]
    rfl

/-- Maps are equal as data to themselves if all their values are. -/
theorem sameEntries_self {entries : List (String × Value)}
    (h : ∀ e ∈ entries, e.2.same e.2 = true) :
    sameEntries entries entries = true := by
  induction entries with
  | nil => rfl
  | cons e entries ih =>
    obtain ⟨he, hentries⟩ := List.forall_mem_cons.mp h
    rw [sameEntries, he, ih hentries, beq_self_eq_true]
    rfl

/-- A decoded value is equal as data to itself, since no part of it is a double that is not a
number. -/
theorem IsDecoded.same_self {v : Value} (h : v.IsDecoded) : v.same v = true := by
  induction h with
  | nil => rfl
  | int n => exact beq_self_eq_true n
  | float finite => exact Decimal.beq_self_of_isFinite finite
  | string s => exact beq_self_eq_true s
  | list _ ih => exact sameItems_self ih
  | map _ ih => exact sameEntries_self ih

/-- The way over a document ends after one step. The values built of absent values, integers, finite
doubles, strings, lists and maps are exactly those that it leaves as they are, every document has
such a value, and so whatever a value holds, the second time changes nothing more. -/
theorem json_conversion_settles :
    (∀ v : Value, v.IsDecoded ↔ ofJson v.toJson = v) ∧
    (∀ doc : Json, (ofJson doc).IsDecoded) ∧
    ∀ v : Value, ofJson (ofJson v.toJson).toJson = ofJson v.toJson ∧
      (ofJson (ofJson v.toJson).toJson).same (ofJson v.toJson) = true := by
  refine ⟨fun v => ⟨IsDecoded.ofJson_toJson, ?_⟩, isDecoded_ofJson, fun v => ?_⟩
  · intro h
    rw [← h]
    exact isDecoded_ofJson v.toJson
  · have hdecoded := isDecoded_ofJson v.toJson
    rw [hdecoded.ofJson_toJson]
    exact ⟨rfl, hdecoded.same_self⟩

end CallScript.Value
