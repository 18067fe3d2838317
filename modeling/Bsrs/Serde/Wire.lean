import Bsrs.Core.Json
import Bsrs.Library.Table

namespace Bsrs.Core.Json

mutual

/-- Every object inside has distinct keys, as in every value a parser built. -/
def isDistinct : Json → Bool
  | .array items => itemsDistinct items
  | .object fields => decide (fields.map Prod.fst).Nodup && fieldsDistinct fields
  | _ => true

def itemsDistinct : List Json → Bool
  | [] => true
  | item :: rest => isDistinct item && itemsDistinct rest

def fieldsDistinct : List (String × Json) → Bool
  | [] => true
  | (_, value) :: rest => isDistinct value && fieldsDistinct rest

end

theorem itemsDistinct_iff (items : List Json) :
    itemsDistinct items = true ↔ ∀ item ∈ items, item.isDistinct = true := by
  induction items with
  | nil => simp [itemsDistinct]
  | cons item rest ih => simp [itemsDistinct, ih]

theorem fieldsDistinct_iff (fields : List (String × Json)) :
    fieldsDistinct fields = true ↔ ∀ field ∈ fields, field.2.isDistinct = true := by
  induction fields with
  | nil => simp [fieldsDistinct]
  | cons field rest ih => simp [fieldsDistinct, ih]

@[simp]
theorem isDistinct_array (items : List Json) :
    (Json.array items).isDistinct = true ↔ ∀ item ∈ items, item.isDistinct = true := by
  rw [isDistinct, itemsDistinct_iff]

@[simp]
theorem isDistinct_object (fields : List (String × Json)) :
    (Json.object fields).isDistinct = true ↔
      (fields.map Prod.fst).Nodup ∧ ∀ field ∈ fields, field.2.isDistinct = true := by
  simp [isDistinct, fieldsDistinct_iff]

/-- How serde names a value it did not expect. -/
def unexpected : Json → String
  | .null => "null"
  | .bool value => s!"boolean `{value}`"
  | .number (.int value) => s!"integer `{value}`"
  | .number (.float text) => s!"floating point `{text}`"
  | .string value => s!"string {value.quote}"
  | .array _ => "sequence"
  | .object _ => "map"

/-- `de::Error::invalid_type`. -/
def invalidType (json : Json) (expected : String) : String :=
  s!"invalid type: {json.unexpected}, expected {expected}"

/-- `de::Error::invalid_value`. -/
def invalidValue (json : Json) (expected : String) : String :=
  s!"invalid value: {json.unexpected}, expected {expected}"

end Bsrs.Core.Json

namespace Bsrs.Serde

open Bsrs.Core (Json Number)
open Bsrs.Library (Table)

/-- A type with serde's two derived sides, and the law that they agree. -/
class Wire (α : Type) where
  encode : α → Json
  decode : Json → Except String α
  distinct : ∀ value, (encode value).isDistinct = true
  decodes : ∀ value, decode (encode value) = .ok value

attribute [simp] Wire.distinct Wire.decodes

/-- A type no value of which is written as `null`, so an `Option` of it is not ambiguous. -/
class Solid (α : Type) [Wire α] : Prop where
  nonnull : ∀ value : α, Wire.encode value ≠ Json.null

/-! ## Scalars -/

instance : Wire String where
  encode := .string
  decode
    | .string value => .ok value
    | other => .error (other.invalidType "a string")
  distinct _ := rfl
  decodes _ := rfl

instance : Solid String where
  nonnull _ := nofun

/-- A finite `f64`, by the text `serde_json` prints for it. -/
structure Double where
  text : String
  deriving Repr, DecidableEq

/-- `as f64` of an integer below 2^53, where nothing is rounded. -/
def Double.ofInt (value : Int) : Double where
  text := s!"{value}.0"

instance : Wire Double where
  encode value := .number (.float value.text)
  decode
    | .number (.float text) => .ok ⟨text⟩
    | .number (.int value) => .ok (.ofInt value)
    | other => .error (other.invalidType "f64")
  distinct _ := rfl
  decodes _ := rfl

instance : Solid Double where
  nonnull _ := nofun

/-- An integer read from a JSON number, or refused in serde's words. -/
def decodeInteger (read : Number → Option α) (expected : String) : Json → Except String α
  | .number (.int value) =>
      match read (.int value) with
      | some held => .ok held
      | none => .error ((Json.number (.int value)).invalidValue expected)
  | other => .error (other.invalidType expected)

theorem asU64_toNat (value : UInt64) : (Number.int value.toNat).asU64 = some value.toNat := by
  have bound := value.toNat_lt
  rw [Number.asU64, if_pos (by omega), Int.toNat_natCast]

theorem asI64_toInt (value : Int64) : (Number.int value.toInt).asI64 = some value.toInt := by
  rw [Number.asI64, if_pos ⟨value.le_toInt, value.toInt_lt⟩]

theorem decodeInteger_some {read : Number → Option α} (held : read (.int value) = some result) :
    decodeInteger read expected (.number (.int value)) = .ok result := by
  rw [decodeInteger, held]

instance : Wire UInt64 where
  encode value := .number (.int value.toNat)
  decode := decodeInteger (fun number => number.asU64.map UInt64.ofNat) "u64"
  distinct _ := by simp [Json.isDistinct]
  decodes value := decodeInteger_some (by rw [asU64_toNat, Option.map_some, UInt64.ofNat_toNat])

instance : Solid UInt64 where
  nonnull _ := nofun

instance : Wire Int64 where
  encode value := .number (.int value.toInt)
  decode := decodeInteger (fun number => number.asI64.map Int64.ofInt) "i64"
  distinct _ := by simp [Json.isDistinct]
  decodes value := decodeInteger_some (by rw [asI64_toInt, Option.map_some, Int64.ofInt_toInt])

instance : Solid Int64 where
  nonnull _ := nofun

/-! ## Values and collections -/

/-- `serde_json::Value`: a parsed value, so no object in it holds a key twice. -/
structure Value where
  json : Json
  distinct : json.isDistinct = true

instance : Wire Value where
  encode value := value.json
  decode json :=
    if distinct : json.isDistinct = true then .ok ⟨json, distinct⟩ else .error "duplicate key"
  distinct value := value.distinct
  decodes value := dif_pos value.distinct

/-- The items decoded one by one are the items encoded. -/
theorem mapM_map_ok {encode : α → β} {decode : β → Except String α} (items : List α)
    (decoded : ∀ item, decode (encode item) = .ok item) :
    (items.map encode).mapM decode = .ok items := by
  induction items with
  | nil => rfl
  | cons item rest ih =>
      rw [List.map_cons, List.mapM_cons, decoded item, ih]
      rfl

instance [Wire α] : Wire (List α) where
  encode items := .array (items.map Wire.encode)
  decode
    | .array items => items.mapM Wire.decode
    | other => .error (other.invalidType "a sequence")
  distinct items := by simp
  decodes items := mapM_map_ok items Wire.decodes

instance [Wire α] : Solid (List α) where
  nonnull _ := nofun

/-- The map an object's fields make. -/
def ofPairs (pairs : List (String × α)) : Table String α :=
  pairs.foldr (fun pair table => table.insert pair.1 pair.2) ∅

theorem entries_ofPairs (pairs : List (String × α)) (unique : (pairs.map Prod.fst).Nodup) :
    (ofPairs pairs).entries = pairs.map fun pair => ⟨pair.1, pair.2⟩ := by
  induction pairs with
  | nil => rfl
  | cons pair rest ih =>
      rw [List.map_cons, List.nodup_cons] at unique
      have held := ih unique.2
      have fresh : pair.1 ∉ ofPairs rest := by
        rw [AList.mem_keys, AList.keys, held]
        simpa [List.keys, Function.comp_def] using unique.1
      change ((ofPairs rest).insert pair.1 pair.2).entries = _
      rw [AList.entries_insert_of_notMem fresh, held]
      rfl

theorem ofPairs_pairs (table : Table String α) : ofPairs table.pairs = table := by
  apply AList.ext
  rw [entries_ofPairs table.pairs table.nodup_pairs]
  simp [Table.pairs, Function.comp_def]

theorem mem_ofPairs {pairs : List (String × α)} :
    key ∈ ofPairs pairs ↔ key ∈ pairs.map Prod.fst := by
  induction pairs with
  | nil => simp [ofPairs]
  | cons pair rest ih =>
      change key ∈ (ofPairs rest).insert pair.1 pair.2 ↔ _
      rw [AList.mem_insert, ih, List.map_cons, List.mem_cons]

/-- One entry of an object, its value decoded. -/
def decodeEntry [Wire α] (field : String × Json) : Except String (String × α) :=
  (Wire.decode field.2).map fun value => (field.1, value)

theorem decodeEntry_encode [Wire α] (pair : String × α) :
    decodeEntry (pair.1, Wire.encode pair.2) = .ok pair := by
  rw [decodeEntry, Wire.decodes]
  rfl

theorem keys_decoded [Wire α] {fields : List (String × Json)} {pairs : List (String × α)}
    (decoded : fields.mapM decodeEntry = .ok pairs) :
    pairs.map Prod.fst = fields.map Prod.fst := by
  induction fields generalizing pairs with
  | nil =>
      cases decoded
      rfl
  | cons field rest ih =>
      rw [List.mapM_cons] at decoded
      cases first : (Wire.decode field.2 : Except String α) with
      | error _ => simp [decodeEntry, first, Except.map, bind, Except.bind] at decoded
      | ok value =>
          cases others : (rest.mapM decodeEntry : Except String (List (String × α))) with
          | error _ =>
              simp [decodeEntry, first, others, Except.map, bind, Except.bind] at decoded
          | ok entries =>
              simp only [decodeEntry, first, others, Except.map, bind, Except.bind, pure,
                Except.pure, Except.ok.injEq] at decoded
              subst decoded
              rw [List.map_cons, List.map_cons, ih others]

instance [Wire α] : Wire (Table String α) where
  encode table := .object (table.pairs.map fun pair => (pair.1, Wire.encode pair.2))
  decode
    | .object fields => (fields.mapM decodeEntry).map ofPairs
    | other => .error (other.invalidType "a map")
  distinct table := by
    simp only [Json.isDistinct_object, List.map_map, List.mem_map]
    refine ⟨table.nodup_pairs, ?_⟩
    rintro field ⟨pair, -, rfl⟩
    exact Wire.distinct pair.2
  decodes table := by
    have decoded := mapM_map_ok table.pairs decodeEntry_encode
    simp only [decoded, Except.map, ofPairs_pairs]

instance [Wire α] : Solid (Table String α) where
  nonnull _ := nofun

instance [Wire α] [Wire β] : Wire (α × β) where
  encode pair := .array [Wire.encode pair.1, Wire.encode pair.2]
  decode
    | .array [first, second] => do
        let first ← Wire.decode first
        let second ← Wire.decode second
        .ok (first, second)
    | .array items => .error s!"invalid length {items.length}, expected a tuple of size 2"
    | other => .error (other.invalidType "a tuple of size 2")
  distinct pair := by simp
  decodes pair := by
    simp only [Wire.decodes]
    rfl

instance [Wire α] [Solid α] : Wire (Option α) where
  encode
    | none => .null
    | some value => Wire.encode value
  decode
    | .null => .ok none
    | json => (Wire.decode json).map some
  distinct held := by
    cases held with
    | none => rfl
    | some value => exact Wire.distinct value
  decodes held := by
    cases held with
    | none => rfl
    | some value =>
        have nonnull := Solid.nonnull value
        split
        · contradiction
        · rw [Wire.decodes]
          rfl

/-! ## Enums -/

/-- A derived enum of unit variants: its name, or an object of that one key and `null`. -/
def decodeVariant (variants : List (String × α)) : Json → Except String α
  | .string name => named name
  | .object [(name, payload)] => do
      let value ← named name
      if payload.isNull then .ok value else .error (payload.invalidType "unit")
  | .object fields => .error ((Json.object fields).invalidValue "map with a single key")
  | other => .error (other.invalidType "string or map")
where
  named (name : String) : Except String α :=
    match variants.lookup name with
    | some value => .ok value
    | none =>
        let expected := ", ".intercalate (variants.map fun variant => s!"`{variant.1}`")
        .error s!"unknown variant `{name}`, expected one of {expected}"

/-- An untagged enum of two variants: the first that decodes. -/
def decodeUntagged (name : String) (first second : Except String α) : Except String α :=
  match first, second with
  | .ok value, _ => .ok value
  | .error _, .ok value => .ok value
  | .error _, .error _ =>
      .error s!"data did not match any variant of untagged enum {name}"

end Bsrs.Serde
