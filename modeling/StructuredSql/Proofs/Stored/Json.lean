-- Columns that hold JSON. Every value has a normal form, the value that its JSON text says, and
-- a column of JSON gives the normal form of the value that was stored in it.
import StructuredSql.Projection
import StructuredSql.Proofs.Json.ReadBack
import StructuredSql.Proofs.Stored.Cell
import StructuredSql.Proofs.Stored.Structured

namespace StructuredSql

namespace Value

/-! ## The normal form -/

mutual

/-- The value that the JSON text of a value says: null in place of floats that are not finite,
base64 text in place of bytes, and the text of the SQL in place of fragments. -/
def jsonNormal : Value → Value
  | .null => .null
  | .bool b => .bool b
  | .int i => .int i
  | .float x => if x.isFinite then .float x else .null
  | .string s => .string s
  | .bytes bs => .string (Text.Base64.encode bs)
  | .raw ⟨sql, _⟩ => .string sql
  | .array items => .array (itemsJsonNormal items)
  | .object fields => .object (fieldsJsonNormal fields)
termination_by structural v => v

def itemsJsonNormal : List Value → List Value
  | [] => []
  | v :: rest => v.jsonNormal :: itemsJsonNormal rest
termination_by structural items => items

def fieldsJsonNormal : List (String × Value) → List (String × Value)
  | [] => []
  | (k, v) :: rest => (k, v.jsonNormal) :: fieldsJsonNormal rest
termination_by structural fields => fields

end

mutual

/-- How many arrays and objects stand inside each other. -/
def depth : Value → Nat
  | .array items => itemsDepth items + 1
  | .object fields => fieldsDepth fields + 1
  | _ => 0
termination_by structural v => v

def itemsDepth : List Value → Nat
  | [] => 0
  | v :: rest => max v.depth (itemsDepth rest)
termination_by structural items => items

def fieldsDepth : List (String × Value) → Nat
  | [] => 0
  | (_, v) :: rest => max v.depth (fieldsDepth rest)
termination_by structural fields => fields

end

theorem keys_fieldsJsonNormal (fields : Fields) :
    Entries.keys (fieldsJsonNormal fields) = Entries.keys fields := by
  induction fields with
  | nil => rfl
  | cons e rest ih => exact congrArg (e.1 :: ·) ih

/-! ## The document of a value -/

open Structured (DistinctKeys)

mutual

/-- A value comes back from its document as its normal form. -/
theorem ofJson_toJson : ∀ {v : Value}, v.Everywhere DistinctKeys → ofJson v.toJson = v.jsonNormal
  | .null, _ => rfl
  | .bool _, _ => rfl
  | .int i, _ => by
    rw [toJson, ofJson, if_pos (Text.fitsInt64_toInt i), Int64.ofInt_toInt, jsonNormal]
  | .float x, _ => by
    rw [toJson, jsonNormal]
    split <;> rfl
  | .string _, _ => rfl
  | .bytes _, _ => rfl
  | .raw ⟨_, _⟩, _ => rfl
  | .array items, h => by rw [toJson, ofJson, itemsOfJson_itemsToJson h.2, jsonNormal]
  | .object fields, h => by
    have hdistinct : Entries.Distinct (fieldsJsonNormal fields) := by
      rw [Entries.Distinct, keys_fieldsJsonNormal]
      exact h.1
    rw [toJson, ofJson, fieldsOfJson_fieldsToJson h.2, Entries.ofPairs_of_nodup hdistinct,
      jsonNormal]
termination_by structural v => v

theorem itemsOfJson_itemsToJson : ∀ {items : List Value}, ItemsEverywhere DistinctKeys items →
    itemsOfJson (itemsToJson items) = itemsJsonNormal items
  | [], _ => rfl
  | v :: rest, h => by
    rw [itemsToJson, itemsOfJson, ofJson_toJson h.1, itemsOfJson_itemsToJson h.2, itemsJsonNormal]
termination_by structural items => items

theorem fieldsOfJson_fieldsToJson : ∀ {fields : List (String × Value)},
    FieldsEverywhere DistinctKeys fields →
    fieldsOfJson (fieldsToJson fields) = fieldsJsonNormal fields
  | [], _ => rfl
  | (k, v) :: rest, h => by
    rw [fieldsToJson, fieldsOfJson, ofJson_toJson h.1, fieldsOfJson_fieldsToJson h.2,
      fieldsJsonNormal]
termination_by structural fields => fields

end

mutual

/-- The normal form has the document of the value. -/
theorem toJson_jsonNormal : ∀ v : Value, v.jsonNormal.toJson = v.toJson
  | .null => rfl
  | .bool _ => rfl
  | .int _ => rfl
  | .float x => by
    rw [jsonNormal, toJson]
    split
    · rename_i hx
      rw [toJson, if_pos hx]
    · rfl
  | .string _ => rfl
  | .bytes _ => rfl
  | .raw ⟨_, _⟩ => rfl
  | .array items => by rw [jsonNormal, toJson, itemsToJson_itemsJsonNormal items, toJson]
  | .object fields => by rw [jsonNormal, toJson, fieldsToJson_fieldsJsonNormal fields, toJson]
termination_by structural v => v

theorem itemsToJson_itemsJsonNormal : ∀ items : List Value,
    itemsToJson (itemsJsonNormal items) = itemsToJson items
  | [] => rfl
  | v :: rest => by
    rw [itemsJsonNormal, itemsToJson, toJson_jsonNormal v, itemsToJson_itemsJsonNormal rest,
      itemsToJson]
termination_by structural items => items

theorem fieldsToJson_fieldsJsonNormal : ∀ fields : List (String × Value),
    fieldsToJson (fieldsJsonNormal fields) = fieldsToJson fields
  | [] => rfl
  | (k, v) :: rest => by
    rw [fieldsJsonNormal, fieldsToJson, toJson_jsonNormal v, fieldsToJson_fieldsJsonNormal rest,
      fieldsToJson]
termination_by structural fields => fields

end

/-- A finite float is what its text in JSON reads as. -/
def JsonFloatReadsBack (floats : Json.FloatReader) : Value → Prop
  | .float x => x.isFinite = true → floats.Restores x
  | _ => True

section

variable {floats : Json.FloatReader}

mutual

/-- The document of a value holds no number that is out of range, and nests as the value does. -/
theorem legible_toJson : ∀ v : Value, v.Everywhere (JsonFloatReadsBack floats) →
    v.toJson.Legible floats ∧ v.toJson.depth = v.depth
  | .null, _ => ⟨trivial, rfl⟩
  | .bool _, _ => ⟨trivial, rfl⟩
  | .int i, _ => by
    have hlow : -2 ^ 63 ≤ i.toInt := Int64.minValue_le_toInt i
    have hhigh : i.toInt ≤ 2 ^ 63 - 1 := Int64.toInt_le i
    exact ⟨⟨hlow, by omega⟩, rfl⟩
  | .float x, h => by
    rw [toJson]
    split
    · rename_i hx
      exact ⟨⟨hx, h hx⟩, rfl⟩
    · exact ⟨trivial, rfl⟩
  | .string _, _ => ⟨trivial, rfl⟩
  | .bytes _, _ => ⟨trivial, rfl⟩
  | .raw ⟨_, _⟩, _ => ⟨trivial, rfl⟩
  | .array items, h => by
    obtain ⟨hitems, hdepth⟩ := itemsLegible_itemsToJson items h.2
    exact ⟨hitems, congrArg (· + 1) hdepth⟩
  | .object fields, h => by
    obtain ⟨hfields, hdepth⟩ := membersLegible_fieldsToJson fields h.2
    exact ⟨hfields, congrArg (· + 1) hdepth⟩
termination_by structural v => v

theorem itemsLegible_itemsToJson : ∀ items : List Value,
    ItemsEverywhere (JsonFloatReadsBack floats) items →
    Json.ItemsLegible floats (itemsToJson items) ∧
      Json.itemsDepth (itemsToJson items) = itemsDepth items
  | [], _ => ⟨trivial, rfl⟩
  | v :: rest, h => by
    obtain ⟨hv, hdepth⟩ := legible_toJson v h.1
    obtain ⟨hrest, hdepth'⟩ := itemsLegible_itemsToJson rest h.2
    exact ⟨⟨hv, hrest⟩, congrArg₂ max hdepth hdepth'⟩
termination_by structural items => items

theorem membersLegible_fieldsToJson : ∀ fields : List (String × Value),
    FieldsEverywhere (JsonFloatReadsBack floats) fields →
    Json.MembersLegible floats (fieldsToJson fields) ∧
      Json.membersDepth (fieldsToJson fields) = fieldsDepth fields
  | [], _ => ⟨trivial, rfl⟩
  | (_, v) :: rest, h => by
    obtain ⟨hv, hdepth⟩ := legible_toJson v h.1
    obtain ⟨hrest, hdepth'⟩ := membersLegible_fieldsToJson rest h.2
    exact ⟨⟨hv, hrest⟩, congrArg₂ max hdepth hdepth'⟩
termination_by structural fields => fields

end

/-- The JSON text of a value is the text of its document, and reads back as that. -/
theorem parseBy?_jsonText {v : Value} (hdepth : v.depth ≤ 127)
    (hfloats : v.Everywhere (JsonFloatReadsBack floats)) :
    Json.parseBy? floats Json.maxDepth v.jsonText = some v.toJson := by
  obtain ⟨hlegible, hnests⟩ := legible_toJson v hfloats
  exact Json.parseBy?_print hlegible (by rw [hnests]; exact hdepth)

end

/-- Rounding to the nearest float reads every float back. -/
theorem nearest_reads_floats_back (v : Value) :
    v.Everywhere (JsonFloatReadsBack Json.nearest) := by
  refine everywhere_of_forall (fun w => ?_) v
  cases w with
  | float x => exact Json.nearest_restores
  | _ => trivial

end Value

/-! ## Columns of JSON -/

theorem Cell.encode_jsonMarker (stem : String) (v : Value) :
    encode (stem ++ jsonMarker) v = v.jsonText := by
  have hends : wantsJson (stem ++ jsonMarker) = true := by
    unfold wantsJson
    rw [Option.isSome_iff_exists]
    exact ⟨stem.toList, beforeTail?_eq_some.2 String.toList_append⟩
  unfold encode
  rw [if_pos hends]

namespace Leaf

open Structured (DistinctKeys)

/-- What was stored under a key that asks for JSON is given by a column of JSON in its normal
form, with every reader of floats that reads back those of the value. The normal form is stored
as the same text. -/
theorem json_reads_back_in_normal_form (floats : Json.FloatReader) (stem : String) {v : Value}
    (hkeys : v.Everywhere DistinctKeys) (hdepth : v.depth ≤ 127)
    (hfloats : v.Everywhere (Value.JsonFloatReadsBack floats)) {leaf : Leaf}
    (htype : leaf.type? = some .json) (hcomputed : leaf.computed = false) {row : Fields}
    (hrow : Entries.get? row leaf.key = some (.string (Cell.encode (stem ++ Cell.jsonMarker) v))) :
    leaf.readBy? floats row = some v.jsonNormal ∧
      Cell.encode (stem ++ Cell.jsonMarker) v.jsonNormal =
        Cell.encode (stem ++ Cell.jsonMarker) v := by
  rw [Cell.encode_jsonMarker] at hrow
  constructor
  · unfold readBy?
    rw [htype, hcomputed, hrow]
    show some (((Json.parseBy? floats Json.maxDepth v.jsonText).map Value.ofJson).getD .null) = _
    rw [Value.parseBy?_jsonText hdepth hfloats, Option.map_some, Value.ofJson_toJson hkeys,
      Option.getD_some]
  · rw [Cell.encode_jsonMarker, Cell.encode_jsonMarker, Value.jsonText, Value.toJson_jsonNormal]
    rfl

/-- Whole numbers at the ends of their range and a float that is one, minus zero, what is no
number, octets and a fragment, under keys that are not in order. -/
def mixed : Value :=
  .object [("b", .array [.int Int64.minValue, .int Int64.maxValue, .float (Double.ofInt 3)]),
    ("a", .object [("z", .float (Double.zero true)), ("n", .float Double.nan)]),
    ("0", .array [.bytes [0x80, 0x3b], .raw ⟨"NOW()", []⟩, .object []])]

/-- Null stands for what is no number, and text for the octets and the fragment. -/
def mixedRead : Value :=
  .object [("b", .array [.int Int64.minValue, .int Int64.maxValue, .float (Double.ofInt 3)]),
    ("a", .object [("z", .float (Double.zero true)), ("n", .null)]),
    ("0", .array [.string "gDs=", .string "NOW()", .object []])]

theorem mixed_reads_back :
    (Leaf.mk "meta" (some .json) false).read?
        [("meta", .string (Cell.encode ("meta " ++ Cell.jsonMarker) mixed))] = some mixedRead ∧
      Cell.encode ("meta " ++ Cell.jsonMarker) mixedRead =
        Cell.encode ("meta " ++ Cell.jsonMarker) mixed := by
  have hkeys : mixed.Everywhere DistinctKeys := by
    simp [mixed, Value.Everywhere, FieldsEverywhere, ItemsEverywhere, DistinctKeys,
      Entries.Distinct, Entries.keys]
  have hdepth : mixed.depth ≤ 127 := by decide
  have hfloats : mixed.Everywhere (Value.JsonFloatReadsBack Json.bestEffort) := by
    have hthree : Json.bestEffort.Restores (Double.ofInt 3) := by rfl
    have hzero : Json.bestEffort.Restores (Double.zero true) := by rfl
    have hnan : ¬ Double.nan.isFinite = true := by decide
    simp [mixed, Value.Everywhere, FieldsEverywhere, ItemsEverywhere, Value.JsonFloatReadsBack,
      hthree, hzero, hnan]
  have hread : mixed.jsonNormal = mixedRead := by rfl
  rw [← hread]
  exact json_reads_back_in_normal_form Json.bestEffort "meta " hkeys hdepth hfloats rfl rfl rfl

end Leaf

end StructuredSql
