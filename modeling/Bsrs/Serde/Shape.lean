import Bsrs.Serde.Wire

namespace Bsrs.Serde

open Bsrs.Core (Json)
open Bsrs.Library (Table)

/-- What serde derives for a record: the keys it declares, and how each side treats them.
`fits` holds of the records that come back; every record read has it. -/
structure Shape (ρ : Type) where
  keys : List String
  write : ρ → List (String × Json)
  read : List (String × Json) → Except String ρ
  fits : ρ → Prop
  unique : keys.Nodup
  declared : ∀ value, ((write value).map Prod.fst).Sublist keys
  distinct : ∀ value, ∀ field ∈ write value, field.2.isDistinct = true
  reads : ∀ value fields, fits value →
    (∀ key ∈ keys, fields.lookup key = (write value).lookup key) → read fields = .ok value
  sound : ∀ fields value, read fields = .ok value → fits value

/-- A type with an empty value, which a field of it may leave out. -/
class Blank (α : Type) where
  empty : α
  isEmpty : α → Bool
  only : ∀ value, isEmpty value = true → value = empty

instance : Blank String where
  empty := ""
  isEmpty value := value == ""
  only value blank := by simpa using blank

instance : Blank (List α) where
  empty := []
  isEmpty := List.isEmpty
  only _ blank := List.isEmpty_iff.mp blank

instance : Blank (Table String α) where
  empty := ∅
  isEmpty table := table.entries.isEmpty
  only _ blank := AList.ext (List.isEmpty_iff.mp blank)

namespace Shape

theorem lookup_absent {fields : List (String × Json)} (absent : key ∉ fields.map Prod.fst) :
    fields.lookup key = none := by
  rw [List.lookup_eq_none_iff]
  intro field member
  rw [bne_iff_ne]
  rintro rfl
  exact absent (List.mem_map_of_mem member)

/-! ## Fields -/

/-- One field: `written` is its value on the wire, if any, and `back` reads what is there. -/
def field (key : String) (written : α → Option Json) (back : Option Json → Except String α)
    (fits : α → Prop) (distinct : ∀ value, ∀ json ∈ written value, json.isDistinct = true)
    (reads : ∀ value, fits value → back (written value) = .ok value)
    (sound : ∀ held value, back held = .ok value → fits value) : Shape α where
  keys := [key]
  write value := ((written value).map fun json => (key, json)).toList
  read fields := back (fields.lookup key)
  fits := fits
  unique := List.nodup_singleton key
  declared value := by
    cases written value with
    | none => exact List.nil_sublist _
    | some json => exact List.Sublist.refl _
  distinct value field member := by
    cases held : written value with
    | none => simp [held] at member
    | some json =>
        simp only [held, Option.map_some, Option.toList_some, List.mem_singleton] at member
        subst member
        exact distinct value json held
  reads value fields fitting same := by
    have found : fields.lookup key = written value := by
      rw [same key List.mem_cons_self]
      cases written value with
      | none => rfl
      | some json => simp
    rw [found]
    exact reads value fitting
  sound fields value result := sound _ value result

/-- A field with no attribute. -/
def required (key : String) [Wire α] : Shape α :=
  field key (fun value => some (Wire.encode value))
    (fun
      | none => .error s!"missing field `{key}`"
      | some json => Wire.decode json)
    (fun _ => True) (by simp) (by simp) (by simp)

/-- `default` alone: always written, `blank` where absent. -/
def kept (key : String) (blank : α) [Wire α] : Shape α :=
  field key (fun value => some (Wire.encode value))
    (fun
      | none => .ok blank
      | some json => Wire.decode json)
    (fun _ => True) (by simp) (by simp) (by simp)

/-- `skip_serializing_if = "Option::is_none", default`. -/
def skipNone (key : String) [Wire α] [Solid α] : Shape (Option α) :=
  field key (fun value => value.map Wire.encode)
    (fun
      | none => .ok none
      | some json => Wire.decode json)
    (fun _ => True) (by simp)
    (by
      intro value _
      cases value with
      | none => rfl
      | some value => exact Wire.decodes (some value))
    (by simp)

/-- What an `Option<Value>` field is read as; `null` is `None`. -/
def readValue : Option Json → Except String (Option Value)
  | none | some .null => .ok none
  | some json => (Wire.decode json).map some

theorem readValue_json (value : Value) (solid : value.json ≠ .null) :
    readValue (some value.json) = .ok (some value) := by
  have decoded : Wire.decode value.json = .ok value := Wire.decodes value
  unfold readValue
  split
  · contradiction
  · rename_i same
    exact absurd (Option.some.inj same) solid
  · rename_i json _ same
    cases same
    rw [decoded]
    rfl

theorem readValue_solid (result : readValue held = .ok (some value)) : value.json ≠ .null := by
  unfold readValue at result
  split at result
  · cases result
  · cases result
  · rename_i json notNull
    change Except.map some (dite _ _ _) = _ at result
    split at result
    · cases result
      exact notNull
    · cases result

/-- `skip_serializing_if = "…::is_empty", default`. -/
def skipEmpty (key : String) [Wire α] [Blank α] : Shape α :=
  field key (fun value => if Blank.isEmpty value then none else some (Wire.encode value))
    (fun
      | none => .ok Blank.empty
      | some json => Wire.decode json)
    (fun _ => True)
    (by
      intro value json held
      split at held
      · cases held
      · cases held
        exact Wire.distinct value)
    (by
      intro value _
      by_cases blank : Blank.isEmpty value = true
      · rw [if_pos blank, ← Blank.only value blank]
      · simp [blank])
    (by simp)

/-- The same on `Option<Value>`, whose `Some(null)` is written as `null` and read as `None`. -/
def skipNoneValue (key : String) : Shape (Option Value) :=
  field key (fun value => value.map Value.json) readValue
    (fun value => ∀ held ∈ value, held.json ≠ .null)
    (by
      rintro value json held
      obtain ⟨value, rfl, rfl⟩ := Option.map_eq_some_iff.mp held
      exact value.distinct)
    (by
      intro value solid
      cases value with
      | none => rfl
      | some value => exact readValue_json value (solid value rfl))
    (by
      rintro held value result _ rfl
      exact readValue_solid result)

/-- Two groups of fields with no key in common. -/
def beside (left : Shape α) (right : Shape β)
    (apart : ∀ key ∈ left.keys, key ∉ right.keys := by decide) : Shape (α × β) where
  keys := left.keys ++ right.keys
  write value := left.write value.1 ++ right.write value.2
  read fields := do
    let first ← left.read fields
    let second ← right.read fields
    .ok (first, second)
  fits value := left.fits value.1 ∧ right.fits value.2
  unique := List.Nodup.append left.unique right.unique fun key one other => apart key one other
  declared value := by
    rw [List.map_append]
    exact (left.declared value.1).append (right.declared value.2)
  distinct value field member := by
    rcases List.mem_append.mp member with first | second
    · exact left.distinct value.1 field first
    · exact right.distinct value.2 field second
  reads value fields fitting same := by
    have first : left.read fields = .ok value.1 := by
      refine left.reads value.1 fields fitting.1 fun key member => ?_
      have absent : key ∉ (right.write value.2).map Prod.fst := fun written =>
        apart key member ((right.declared value.2).subset written)
      rw [same key (List.mem_append_left _ member), List.lookup_append, lookup_absent absent,
        Option.or_none]
    have second : right.read fields = .ok value.2 := by
      refine right.reads value.2 fields fitting.2 fun key member => ?_
      have absent : key ∉ (left.write value.1).map Prod.fst := fun written =>
        apart key ((left.declared value.1).subset written) member
      rw [same key (List.mem_append_right _ member), List.lookup_append, lookup_absent absent,
        Option.none_or]
    rw [first, second]
    rfl
  sound fields value result := by
    cases first : left.read fields with
    | error _ => simp [first, bind, Except.bind] at result
    | ok one =>
        cases second : right.read fields with
        | error _ => simp [first, second, bind, Except.bind] at result
        | ok two =>
            simp only [first, second, bind, Except.bind, Except.ok.injEq] at result
            subst result
            exact ⟨left.sound fields one first, right.sound fields two second⟩

/-- The record whose fields are the shape's, given by its constructor and its fields. -/
def record (shape : Shape α) (pack : α → β) (fields : β → α)
    (packed : ∀ value, pack (fields value) = value)
    (unpacked : ∀ value, fields (pack value) = value) : Shape β where
  keys := shape.keys
  write value := shape.write (fields value)
  read pairs := (shape.read pairs).map pack
  fits value := shape.fits (fields value)
  unique := shape.unique
  declared value := shape.declared (fields value)
  distinct value := shape.distinct (fields value)
  reads value pairs fitting same := by
    rw [shape.reads (fields value) pairs fitting same, Except.map, packed]
  sound pairs value result := by
    cases read : shape.read pairs with
    | error _ => simp [read, Except.map] at result
    | ok held =>
        simp only [read, Except.map, Except.ok.injEq] at result
        subst result
        rw [unpacked]
        exact shape.sound pairs held read

@[simp]
theorem fits_required [Wire α] (value : α) : (required key).fits value ↔ True := Iff.rfl

@[simp]
theorem fits_kept [Wire α] (blank value : α) : (kept key blank).fits value ↔ True := Iff.rfl

@[simp]
theorem fits_skipNone [Wire α] [Solid α] (value : Option α) :
    (skipNone key).fits value ↔ True := Iff.rfl

@[simp]
theorem fits_skipEmpty [Wire α] [Blank α] (value : α) : (skipEmpty key).fits value ↔ True := Iff.rfl

@[simp]
theorem fits_skipNoneValue (value : Option Value) :
    (skipNoneValue key).fits value ↔ ∀ held ∈ value, held.json ≠ .null := Iff.rfl

@[simp]
theorem fits_beside (left : Shape α) (right : Shape β)
    (apart : ∀ key ∈ left.keys, key ∉ right.keys) (value : α × β) :
    (left.beside right apart).fits value ↔ left.fits value.1 ∧ right.fits value.2 := Iff.rfl

@[simp]
theorem fits_record (shape : Shape α) (pack : α → β) (fields : β → α)
    (packed : ∀ value, pack (fields value) = value)
    (unpacked : ∀ value, fields (pack value) = value) (value : β) :
    (shape.record pack fields packed unpacked).fits value ↔ shape.fits (fields value) := Iff.rfl

/-! ## Records on the wire -/

theorem write_unique (shape : Shape ρ) (value : ρ) : ((shape.write value).map Prod.fst).Nodup :=
  (shape.declared value).nodup shape.unique

/-- A derived record all of whose values come back. -/
@[reducible]
def wire (shape : Shape ρ) (name : String) (total : ∀ value, shape.fits value) : Wire ρ where
  encode value := .object (shape.write value)
  decode
    | .object fields => shape.read fields
    | other => .error (other.invalidType s!"struct {name}")
  distinct value := (Json.isDistinct_object _).mpr ⟨shape.write_unique value, shape.distinct value⟩
  decodes value := shape.reads value _ (total value) fun _ _ => rfl

/-! ## Records with a flattened map -/

/-- A record and the `#[serde(flatten)]` map that shares its object. -/
def writeFlat (shape : Shape ρ) (value : ρ) (extra : Table String Value) : Json :=
  .object (shape.write value ++ extra.pairs.map fun pair => (pair.1, Wire.encode pair.2))

/-- The declared keys are read off first; the map takes what is left. -/
def readFlat (shape : Shape ρ) (name : String) : Json → Except String (ρ × Table String Value)
  | .object fields => do
      let value ← shape.read fields
      let rest ← (fields.filter fun field => field.1 ∉ shape.keys).mapM decodeEntry
      .ok (value, ofPairs rest)
  | other => .error (other.invalidType s!"struct {name}")

/-- The record comes back, and no key of the map is one the record declares. -/
def FitsFlat (shape : Shape ρ) (value : ρ) (extra : Table String Value) : Prop :=
  shape.fits value ∧ ∀ key ∈ shape.keys, key ∉ extra

theorem mem_extra_keys {extra : Table String Value} :
    key ∈ (extra.pairs.map fun pair => (pair.1, Wire.encode pair.2)).map Prod.fst ↔
      key ∈ extra := by
  rw [List.map_map]
  change key ∈ extra.pairs.map Prod.fst ↔ _
  rw [← mem_ofPairs, ofPairs_pairs]

theorem writeFlat_distinct {shape : Shape ρ} (fits : shape.FitsFlat value extra) :
    (shape.writeFlat value extra).isDistinct = true := by
  refine (Json.isDistinct_object _).mpr ⟨?_, ?_⟩
  · rw [List.map_append]
    refine List.Nodup.append (shape.write_unique value) ?_ fun key written held => ?_
    · rw [List.map_map]
      exact extra.nodup_pairs
    · exact fits.2 key ((shape.declared value).subset written) (mem_extra_keys.mp held)
  · intro field member
    rcases List.mem_append.mp member with written | held
    · exact shape.distinct value field written
    · obtain ⟨pair, -, rfl⟩ := List.mem_map.mp held
      exact Wire.distinct pair.2

/-- What the declared keys leave of the object is the map. -/
theorem filter_undeclared {shape : Shape ρ} (fits : shape.FitsFlat value extra) :
    (shape.write value ++ extra.pairs.map fun pair => (pair.1, Wire.encode pair.2)).filter
        (fun field => field.1 ∉ shape.keys) =
      extra.pairs.map fun pair => (pair.1, Wire.encode pair.2) := by
  have written : (shape.write value).filter (fun field => field.1 ∉ shape.keys) = [] := by
    rw [List.filter_eq_nil_iff]
    intro field member
    have declared := (shape.declared value).subset (List.mem_map_of_mem member)
    simpa using declared
  rw [List.filter_append, written, List.nil_append, List.filter_eq_self]
  intro field member
  have held := mem_extra_keys.mp (List.mem_map_of_mem member)
  simpa using fun declared => fits.2 field.1 declared held

theorem readFlat_writeFlat {shape : Shape ρ} (fits : shape.FitsFlat value extra) :
    shape.readFlat name (shape.writeFlat value extra) = .ok (value, extra) := by
  have read : shape.read
      (shape.write value ++ extra.pairs.map fun pair => (pair.1, Wire.encode pair.2)) =
        .ok value := by
    refine shape.reads value _ fits.1 fun key declared => ?_
    have absent := mt mem_extra_keys.mp (fits.2 key declared)
    rw [List.lookup_append, lookup_absent absent, Option.or_none]
  have rest := mapM_map_ok extra.pairs decodeEntry_encode
  simp only [writeFlat, readFlat, filter_undeclared fits, read, rest, bind, Except.bind,
    ofPairs_pairs]

/-- No record read has a declared key in its map. -/
theorem readFlat_fits {shape : Shape ρ} (result : shape.readFlat name json = .ok (value, extra)) :
    shape.FitsFlat value extra := by
  cases json with
  | object fields =>
      unfold readFlat at result
      cases read : shape.read fields with
      | error _ => simp [read, bind, Except.bind] at result
      | ok held =>
          cases decoded : ((fields.filter fun field => field.1 ∉ shape.keys).mapM decodeEntry :
              Except String (List (String × Value))) with
          | error _ =>
              simp only [read, decoded, bind, Except.bind, reduceCtorEq] at result
          | ok rest =>
              simp only [read, decoded, bind, Except.bind, Except.ok.injEq,
                Prod.mk.injEq] at result
              obtain ⟨rfl, rfl⟩ := result
              refine ⟨shape.sound fields held read, fun key declared present => ?_⟩
              rw [mem_ofPairs, keys_decoded decoded] at present
              obtain ⟨field, member, rfl⟩ := List.mem_map.mp present
              simpa [declared] using (List.mem_filter.mp member).2
  | _ => cases result

end Shape

end Bsrs.Serde
