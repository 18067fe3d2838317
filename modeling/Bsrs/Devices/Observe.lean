import Bsrs.Library.Double
import Bsrs.Library.Splice
import Mathlib.Data.List.Perm.Subperm

/-! Waiting for a value, and when two JSON values are one. -/

namespace Bsrs.Devices

open Bsrs.Library (Double exists_first exists_first_prop)

/-! ## Values -/

/-- `serde_json::Number`: an integer of 64 bits, or a finite double. -/
inductive JsonNumber where
  | posInt (value : Nat) (fits : value < 2 ^ 64)
  | negInt (value : Int) (fits : -2 ^ 63 ≤ value ∧ value < 0)
  | float (value : Double)

namespace JsonNumber

def isF64 : JsonNumber → Bool
  | .float _ => true
  | .posInt _ _ | .negInt _ _ => false

def asI64 : JsonNumber → Option Int
  | .posInt value _ => if value < 2 ^ 63 then some value else none
  | .negInt value _ => some value
  | .float _ => none

def asU64 : JsonNumber → Option Nat
  | .posInt value _ => some value
  | .negInt _ _ | .float _ => none

/-- `as_f64`, which is always some: integers are rounded. -/
def asF64 : JsonNumber → Double
  | .posInt value fits => .ofInt value (by simp only [Int.natAbs_natCast]; omega)
  | .negInt value fits => .ofInt value (by omega)
  | .float value => value

/-- The number it is. -/
def exact : JsonNumber → ℚ
  | .posInt value _ => value
  | .negInt value _ => value
  | .float value => value.value

end JsonNumber

/-- `serde_json::Value`, with its numbers. -/
inductive JsonValue where
  | null
  | bool (value : Bool)
  | number (value : JsonNumber)
  | string (value : String)
  | array (items : List JsonValue)
  | object (fields : List (String × JsonValue))

namespace JsonValue

/-- The keys of every object within are distinct, as in a `Map`. -/
inductive Keyed : JsonValue → Prop where
  | null : Keyed .null
  | bool (value) : Keyed (.bool value)
  | number (value) : Keyed (.number value)
  | string (value) : Keyed (.string value)
  | array {items} (each : ∀ item ∈ items, Keyed item) : Keyed (.array items)
  | object {fields : List (String × JsonValue)} (distinct : (fields.map Prod.fst).Nodup)
      (each : ∀ field ∈ fields, Keyed field.2) : Keyed (.object fields)

/-- Induction through arrays and objects. -/
@[elab_as_elim, induction_eliminator]
theorem induct {holds : JsonValue → Prop} (null : holds .null) (bool : ∀ value, holds (.bool value))
    (number : ∀ value, holds (.number value)) (string : ∀ value, holds (.string value))
    (array : ∀ items, (∀ item ∈ items, holds item) → holds (.array items))
    (object : ∀ fields, (∀ field ∈ fields, holds field.2) → holds (.object fields))
    (value : JsonValue) : holds value :=
  JsonValue.rec (motive_1 := holds) (motive_2 := fun items => ∀ item ∈ items, holds item)
    (motive_3 := fun fields => ∀ field ∈ fields, holds field.2) (motive_4 := fun field => holds field.2)
    null bool number string array object
    (by simp) (fun _ _ head tail => List.forall_mem_cons.mpr ⟨head, tail⟩)
    (by simp) (fun _ _ head tail => List.forall_mem_cons.mpr ⟨head, tail⟩)
    (fun _ _ value => value) value

end JsonValue

/-- A JSON value as it is built and parsed. -/
structure ObservedValue where
  value : JsonValue
  keyed : value.Keyed

/-! ## Equality -/

mutual

/-- `py_eq`. -/
def pyEq : JsonValue → JsonValue → Bool
  | .number x, .number y =>
      if x.isF64 || y.isF64 then x.asF64.eq y.asF64
      else decide (x.asI64 = y.asI64) && decide (x.asU64 = y.asU64)
  | .array x, .array y => decide (x.length = y.length) && pyEqItems x y
  | .object x, .object y => decide (x.length = y.length) && pyEqFields x y
  | .null, .null => true
  | .bool x, .bool y => x == y
  | .string x, .string y => x == y
  | _, _ => false

/-- `x.iter().zip(y).all(|(x, y)| py_eq(x, y))`. -/
def pyEqItems : List JsonValue → List JsonValue → Bool
  | x :: xs, y :: ys => pyEq x y && pyEqItems xs ys
  | _, _ => true

/-- `x.iter().all(|(k, v)| y.get(k).is_some_and(|w| py_eq(v, w)))`. -/
def pyEqFields : List (String × JsonValue) → List (String × JsonValue) → Bool
  | [], _ => true
  | (k, v) :: rest, y =>
      (match y.lookup k with
        | some w => pyEq v w
        | none => false) && pyEqFields rest y

end

/-- The number a value is to Python, where a boolean is an integer. -/
def numeric : JsonValue → Option ℚ
  | .bool value => some (if value then 1 else 0)
  | .number value => some value.exact
  | _ => none

/-- Python `==`: numbers by what they are, lists item by item, dictionaries key by key. -/
inductive PythonEq : JsonValue → JsonValue → Prop where
  | numeric {a b number} (first : numeric a = some number) (second : numeric b = some number) :
      PythonEq a b
  | null : PythonEq .null .null
  | string (value) : PythonEq (.string value) (.string value)
  | array {x y : List JsonValue} (long : x.length = y.length)
      (each : ∀ (i : Nat) a b, x[i]? = some a → y[i]? = some b → PythonEq a b) :
      PythonEq (.array x) (.array y)
  | object {x y : List (String × JsonValue)}
      (keys : ∀ key, (x.lookup key).isSome = (y.lookup key).isSome)
      (each : ∀ key a b, x.lookup key = some a → y.lookup key = some b → PythonEq a b) :
      PythonEq (.object x) (.object y)

/-- Somewhere within, at one place of both, there is such a pair. -/
inductive Somewhere (pair : JsonValue → JsonValue → Prop) : JsonValue → JsonValue → Prop where
  | here {a b} (found : pair a b) : Somewhere pair a b
  | item {x y : List JsonValue} {i : Nat} {a b} (first : x[i]? = some a) (second : y[i]? = some b)
      (within : Somewhere pair a b) : Somewhere pair (.array x) (.array y)
  | field {x y : List (String × JsonValue)} {key a b} (first : x.lookup key = some a)
      (second : y.lookup key = some b) (within : Somewhere pair a b) :
      Somewhere pair (.object x) (.object y)

/-- One is an integer and the other a double that is not this integer but the nearest one to it. -/
def Rounded : JsonValue → JsonValue → Prop
  | .number x, .number y => x.isF64 ≠ y.isF64 ∧ x.asF64.value = y.asF64.value ∧ x.exact ≠ y.exact
  | _, _ => False

/-- One is a boolean and the other the number it is to Python. -/
def Disguised : JsonValue → JsonValue → Prop
  | .bool value, .number number | .number number, .bool value =>
      numeric (.bool value) = some number.exact
  | _, _ => False

/-- Python tells the two apart without looking into them. -/
def Apart : JsonValue → JsonValue → Prop
  | .array x, .array y => x.length ≠ y.length
  | .object x, .object y => ∃ key, (x.lookup key).isSome ≠ (y.lookup key).isSome
  | .null, .null => False
  | .string x, .string y => x ≠ y
  | a, b => numeric a = none ∨ numeric a ≠ numeric b

/-- The two differ here, and not by rounding alone. -/
def Mismatched (a b : JsonValue) : Prop :=
  (Apart a b ∧ ¬ Rounded a b) ∨ Disguised a b

/-- Where the two hold an integer and the double next to it, they differ elsewhere besides, and so they do
where they hold a boolean and its number. -/
structure Told (a b : JsonValue) : Prop where
  rounded : Somewhere Rounded a b → Somewhere Mismatched a b
  disguised : Somewhere Disguised a b → Somewhere Apart a b

/-! ## Numbers -/

theorem JsonNumber.asF64_of_exact {x : JsonNumber} {double : Double} (same : double.value = x.exact) :
    x.asF64.value = x.exact := by
  cases x with
  | posInt value fits =>
      have equals : double.value = ((value : Int) : ℚ) := by rw [same]; simp [exact]
      rw [asF64, Double.value_ofInt_of_value _ equals]
      simp [exact]
  | negInt value fits => exact Double.value_ofInt_of_value _ same
  | float value => rfl

/-- One number converts to one double, where some value of the two is a double. -/
theorem JsonNumber.asF64_congr {x y : JsonNumber} (double : x.isF64 || y.isF64)
    (same : x.exact = y.exact) : x.asF64.value = y.asF64.value := by
  obtain ⟨value, equals⟩ : ∃ value : Double, value.value = x.exact := by
    cases x with
    | float value => exact ⟨value, rfl⟩
    | posInt _ _ | negInt _ _ =>
        cases y with
        | float value => exact ⟨value, same.symm⟩
        | posInt _ _ | negInt _ _ => cases double
  rw [asF64_of_exact equals, asF64_of_exact (equals.trans same), same]

theorem integer_eq_iff {x y : JsonNumber} (first : x.isF64 = false) (second : y.isF64 = false) :
    (x.asI64 = y.asI64 ∧ x.asU64 = y.asU64) ↔ x.exact = y.exact := by
  cases x with
  | float value => cases first
  | posInt n small =>
      cases y with
      | float value => cases second
      | posInt m also =>
          simp only [JsonNumber.asI64, JsonNumber.asU64, JsonNumber.exact, Option.some.injEq, Nat.cast_inj]
          refine ⟨fun same => same.2, ?_⟩
          rintro rfl
          exact ⟨rfl, rfl⟩
      | negInt m also =>
          have differ : (n : ℚ) ≠ m := by
            intro same
            have integral : (n : Int) = m := by exact_mod_cast same
            omega
          simp [JsonNumber.asU64, JsonNumber.exact, differ]
  | negInt n small =>
      cases y with
      | float value => cases second
      | posInt m also =>
          have differ : (n : ℚ) ≠ m := by
            intro same
            have integral : n = (m : Int) := by exact_mod_cast same
            omega
          simp [JsonNumber.asU64, JsonNumber.exact, differ]
      | negInt m also => simp [JsonNumber.asI64, JsonNumber.asU64, JsonNumber.exact]

/-- Two numbers match if they are one number, or one is an integer that rounds to the other. -/
theorem pyEq_number {x y : JsonNumber} :
    pyEq (.number x) (.number y) = true ↔
      x.exact = y.exact ∨ Rounded (.number x) (.number y) := by
  rw [pyEq]
  by_cases doubles : x.isF64 || y.isF64
  · rw [if_pos doubles, Double.eq, decide_eq_true_iff]
    constructor
    · intro same
      by_cases equal : x.exact = y.exact
      · exact .inl equal
      · refine .inr ⟨fun both => equal ?_, same, equal⟩
        cases x <;> cases y <;> simp_all [JsonNumber.isF64, JsonNumber.asF64, JsonNumber.exact]
    · rintro (equal | ⟨_, same, _⟩)
      · exact JsonNumber.asF64_congr doubles equal
      · exact same
  · rw [if_neg doubles]
    simp only [Bool.or_eq_true, not_or, Bool.not_eq_true] at doubles
    rw [Bool.and_eq_true, decide_eq_true_iff, decide_eq_true_iff, integer_eq_iff doubles.1 doubles.2]
    refine ⟨.inl, ?_⟩
    rintro (equal | ⟨kinds, _⟩)
    · exact equal
    · exact absurd (doubles.1.trans doubles.2.symm) kinds

/-! ## Containers -/

theorem pyEqItems_iff {x y : List JsonValue} :
    pyEqItems x y = true ↔ ∀ (i : Nat) a b, x[i]? = some a → y[i]? = some b → pyEq a b = true := by
  induction x generalizing y with
  | nil => simp [pyEqItems]
  | cons head tail ih =>
      cases y with
      | nil => simp [pyEqItems]
      | cons other rest =>
          rw [pyEqItems, Bool.and_eq_true, ih]
          constructor
          · rintro ⟨first, later⟩ i a b
            cases i with
            | zero =>
                rintro ⟨⟩ ⟨⟩
                exact first
            | succ i => exact later i a b
          · intro each
            exact ⟨each 0 head other rfl rfl, fun i a b => each (i + 1) a b⟩

theorem pyEqFields_iff {x y : List (String × JsonValue)} :
    pyEqFields x y = true ↔
      ∀ field ∈ x, ∃ other, y.lookup field.1 = some other ∧ pyEq field.2 other = true := by
  induction x with
  | nil => simp [pyEqFields]
  | cons field rest ih =>
      obtain ⟨key, value⟩ := field
      rw [pyEqFields, Bool.and_eq_true, ih, List.forall_mem_cons]
      refine and_congr_left fun _ => ?_
      cases y.lookup key with
      | none => simp
      | some other => simp

section Keys

variable {x y : List (String × JsonValue)}

theorem lookup_of_mem {key : String} {value : JsonValue} (distinct : (x.map Prod.fst).Nodup)
    (member : (key, value) ∈ x) : x.lookup key = some value := by
  induction x with
  | nil => cases member
  | cons field rest ih =>
      obtain ⟨other, held⟩ := field
      rw [List.map_cons, List.nodup_cons] at distinct
      rcases List.mem_cons.mp member with same | later
      · cases same
        simp
      · have differ : key ≠ other := by
          rintro rfl
          exact distinct.1 (List.mem_map.mpr ⟨_, later, rfl⟩)
        rw [List.lookup_cons, beq_eq_false_iff_ne.mpr differ]
        exact ih distinct.2 later

theorem mem_of_lookup {key : String} {value : JsonValue} (found : x.lookup key = some value) :
    (key, value) ∈ x := by
  obtain ⟨before, after, split, _⟩ := List.lookup_eq_some_iff.mp found
  rw [split]
  simp

theorem isSome_lookup {key : String} : (x.lookup key).isSome = true ↔ key ∈ x.map Prod.fst := by
  rw [List.lookup_isSome_iff, List.mem_map]
  refine exists_congr fun field => and_congr_right fun _ => ?_
  rw [beq_iff_eq, eq_comm]

/-- Every key of an object is one of the other's, as many as that has: they have the same keys. -/
theorem same_keys (long : x.length = y.length) (first : (x.map Prod.fst).Nodup)
    (within : ∀ field ∈ x, (y.lookup field.1).isSome = true) (key : String) :
    (x.lookup key).isSome = (y.lookup key).isSome := by
  have subset : x.map Prod.fst ⊆ y.map Prod.fst := by
    intro key member
    obtain ⟨field, among, rfl⟩ := List.mem_map.mp member
    exact isSome_lookup.mp (within field among)
  have perm : (x.map Prod.fst).Perm (y.map Prod.fst) :=
    (first.subperm subset).perm_of_length_le (by simp [long])
  rw [Bool.eq_iff_iff, isSome_lookup, isSome_lookup]
  exact perm.mem_iff

theorem length_of_same_keys (first : (x.map Prod.fst).Nodup) (second : (y.map Prod.fst).Nodup)
    (same : ∀ key, (x.lookup key).isSome = (y.lookup key).isSome) : x.length = y.length := by
  have perm : (x.map Prod.fst).Perm (y.map Prod.fst) := by
    rw [List.perm_ext_iff_of_nodup first second]
    intro key
    rw [← isSome_lookup, same key, isSome_lookup]
  simpa using perm.length_eq

/-- Two objects match if they have the same keys and match at each of them. -/
theorem pyEq_object (first : (x.map Prod.fst).Nodup) (second : (y.map Prod.fst).Nodup) :
    pyEq (.object x) (.object y) = true ↔
      (∀ key, (x.lookup key).isSome = (y.lookup key).isSome) ∧
        ∀ key a b, x.lookup key = some a → y.lookup key = some b → pyEq a b = true := by
  rw [pyEq, Bool.and_eq_true, decide_eq_true_iff, pyEqFields_iff]
  constructor
  · rintro ⟨long, each⟩
    refine ⟨same_keys long first fun field member => ?_, fun key a b here there => ?_⟩
    · obtain ⟨other, found, _⟩ := each field member
      rw [found]
      rfl
    · obtain ⟨other, found, equal⟩ := each (key, a) (mem_of_lookup here)
      cases there.symm.trans found
      exact equal
  · rintro ⟨keys, each⟩
    refine ⟨length_of_same_keys first second keys, fun field member => ?_⟩
    have here := lookup_of_mem first member
    have there := keys field.1
    rw [here] at there
    obtain ⟨other, found⟩ := Option.isSome_iff_exists.mp there.symm
    exact ⟨other, found, each field.1 _ other here found⟩

end Keys

theorem pyEq_array {x y : List JsonValue} :
    pyEq (.array x) (.array y) = true ↔
      x.length = y.length ∧ ∀ (i : Nat) a b, x[i]? = some a → y[i]? = some b → pyEq a b = true := by
  rw [pyEq, Bool.and_eq_true, decide_eq_true_iff, pyEqItems_iff]

/-! ## Places -/

section Places

variable {pair : JsonValue → JsonValue → Prop}

theorem somewhere_array {x y : List JsonValue} :
    ¬ Somewhere pair (.array x) (.array y) ↔
      ¬ pair (.array x) (.array y) ∧
        ∀ (i : Nat) a b, x[i]? = some a → y[i]? = some b → ¬ Somewhere pair a b := by
  constructor
  · intro nowhere
    exact ⟨fun found => nowhere (.here found), fun i a b here there within =>
      nowhere (.item here there within)⟩
  · rintro ⟨not, each⟩ somewhere
    cases somewhere with
    | here found => exact not found
    | item here there within => exact each _ _ _ here there within

theorem somewhere_object {x y : List (String × JsonValue)} :
    ¬ Somewhere pair (.object x) (.object y) ↔
      ¬ pair (.object x) (.object y) ∧
        ∀ key a b, x.lookup key = some a → y.lookup key = some b → ¬ Somewhere pair a b := by
  constructor
  · intro nowhere
    exact ⟨fun found => nowhere (.here found), fun key a b here there within =>
      nowhere (.field here there within)⟩
  · rintro ⟨not, each⟩ somewhere
    cases somewhere with
    | here found => exact not found
    | field here there within => exact each _ _ _ here there within

/-- The two are containers of one kind. -/
def Nested : JsonValue → JsonValue → Prop
  | .array _, .array _ | .object _, .object _ => True
  | _, _ => False

theorem somewhere_flat {a b : JsonValue} (flat : ¬ Nested a b) : Somewhere pair a b ↔ pair a b := by
  refine ⟨fun somewhere => ?_, .here⟩
  cases somewhere with
  | here found => exact found
  | item _ _ _ | field _ _ _ => exact absurd trivial flat

theorem Somewhere.mono {other : JsonValue → JsonValue → Prop} (implies : ∀ a b, pair a b → other a b)
    {a b : JsonValue} (somewhere : Somewhere pair a b) : Somewhere other a b := by
  induction somewhere with
  | here found => exact .here (implies _ _ found)
  | item first second _ within => exact .item first second within
  | field first second _ within => exact .field first second within

/-- Of two kinds of pairs, one is somewhere. -/
theorem Somewhere.or {other : JsonValue → JsonValue → Prop} {a b : JsonValue}
    (somewhere : Somewhere (fun a b => pair a b ∨ other a b) a b) :
    Somewhere pair a b ∨ Somewhere other a b := by
  induction somewhere with
  | here found => exact found.imp .here .here
  | item first second _ within => exact within.imp (.item first second) (.item first second)
  | field first second _ within => exact within.imp (.field first second) (.field first second)

end Places

/-! ## Equality by places -/

theorem pyEq_flat {a b : JsonValue} (flat : ¬ Nested a b) : pyEq a b = true ↔ ¬ Mismatched a b := by
  cases a with
  | number x =>
      cases b with
      | number y =>
          have apart : Apart (.number x) (.number y) ↔ x.exact ≠ y.exact := by simp [Apart, numeric]
          have plain : ¬ Disguised (.number x) (.number y) := id
          rw [pyEq_number, Mismatched, apart]
          tauto
      | bool y =>
          have kinds : pyEq (.number x) (.bool y) = true ↔ False := by simp [pyEq]
          have mismatched : Mismatched (.number x) (.bool y) := by
            by_cases same : numeric (.bool y) = some x.exact
            · exact .inr same
            · exact .inl ⟨.inr fun equal => same equal.symm, id⟩
          rw [kinds]
          exact ⟨False.elim, fun not => not mismatched⟩
      | _ => simp [pyEq, Mismatched, Apart, Rounded, Disguised, numeric]
  | bool x =>
      cases b with
      | number y =>
          have kinds : pyEq (.bool x) (.number y) = true ↔ False := by simp [pyEq]
          have mismatched : Mismatched (.bool x) (.number y) := by
            by_cases same : numeric (.bool x) = some y.exact
            · exact .inr same
            · exact .inl ⟨.inr same, id⟩
          rw [kinds]
          exact ⟨False.elim, fun not => not mismatched⟩
      | bool y => cases x <;> cases y <;> simp [pyEq, Mismatched, Apart, Rounded, Disguised, numeric]
      | _ => simp [pyEq, Mismatched, Apart, Rounded, Disguised, numeric]
  | array x =>
      cases b with
      | array y => exact absurd trivial flat
      | _ => simp [pyEq, Mismatched, Apart, Rounded, Disguised, numeric]
  | object x =>
      cases b with
      | object y => exact absurd trivial flat
      | _ => simp [pyEq, Mismatched, Apart, Rounded, Disguised, numeric]
  | null | string x => cases b <;> simp [pyEq, Mismatched, Apart, Rounded, Disguised, numeric]

theorem pythonEq_numeric {a b : JsonValue} (first : numeric a ≠ none) :
    PythonEq a b ↔ numeric a = numeric b := by
  constructor
  · intro equal
    cases equal with
    | numeric here there => rw [here, there]
    | null | string _ | array _ _ | object _ _ => rfl
  · intro same
    obtain ⟨number, found⟩ := Option.ne_none_iff_exists'.mp first
    exact .numeric found (same ▸ found)

theorem pythonEq_flat {a b : JsonValue} (flat : ¬ Nested a b) : PythonEq a b ↔ ¬ Apart a b := by
  cases a with
  | number x =>
      rw [pythonEq_numeric (by simp [numeric])]
      cases b <;> simp [Apart, numeric]
  | bool x =>
      rw [pythonEq_numeric (by simp [numeric])]
      cases b <;> simp [Apart, numeric]
  | null =>
      have numbers : ∀ {b}, PythonEq .null b ↔ b = .null := by
        intro b
        refine ⟨fun equal => ?_, fun same => same ▸ .null⟩
        cases equal with
        | numeric here _ => cases here
        | null => rfl
      rw [numbers]
      cases b <;> simp [Apart, numeric]
  | string x =>
      have numbers : ∀ {b}, PythonEq (.string x) b ↔ b = .string x := by
        intro b
        refine ⟨fun equal => ?_, fun same => same ▸ .string x⟩
        cases equal with
        | numeric here _ => cases here
        | string _ => rfl
      rw [numbers]
      cases b <;> simp [Apart, numeric, eq_comm]
  | array x =>
      cases b with
      | array y => exact absurd trivial flat
      | _ =>
          refine ⟨fun equal => ?_, fun alike => absurd (.inl rfl) alike⟩
          cases equal with
          | numeric here _ => cases here
  | object x =>
      cases b with
      | object y => exact absurd trivial flat
      | _ =>
          refine ⟨fun equal => ?_, fun alike => absurd (.inl rfl) alike⟩
          cases equal with
          | numeric here _ => cases here

theorem pythonEq_array {x y : List JsonValue} :
    PythonEq (.array x) (.array y) ↔
      x.length = y.length ∧ ∀ (i : Nat) a b, x[i]? = some a → y[i]? = some b → PythonEq a b := by
  refine ⟨fun equal => ?_, fun ⟨long, each⟩ => .array long each⟩
  cases equal with
  | numeric here _ => cases here
  | array long each => exact ⟨long, each⟩

theorem pythonEq_object {x y : List (String × JsonValue)} :
    PythonEq (.object x) (.object y) ↔
      (∀ key, (x.lookup key).isSome = (y.lookup key).isSome) ∧
        ∀ key a b, x.lookup key = some a → y.lookup key = some b → PythonEq a b := by
  refine ⟨fun equal => ?_, fun ⟨keys, each⟩ => .object keys each⟩
  cases equal with
  | numeric here _ => cases here
  | object keys each => exact ⟨keys, each⟩

/-- Python finds two values equal if it can tell them apart nowhere. -/
theorem pythonEq_iff (a b : JsonValue) : PythonEq a b ↔ ¬ Somewhere Apart a b := by
  induction a generalizing b with
  | null | bool _ | number _ | string _ => rw [pythonEq_flat (by simp [Nested]), somewhere_flat (by simp [Nested])]
  | array items ih =>
      cases b with
      | array others =>
          rw [pythonEq_array, somewhere_array]
          refine and_congr (by simp [Apart]) ?_
          refine forall_congr' fun i => forall_congr' fun a => forall_congr' fun b => forall_congr' fun here =>
            forall_congr' fun _ => ih a (List.mem_of_getElem? here) b
      | _ => rw [pythonEq_flat (by simp [Nested]), somewhere_flat (by simp [Nested])]
  | object fields ih =>
      cases b with
      | object others =>
          rw [pythonEq_object, somewhere_object]
          refine and_congr (by simp [Apart]) ?_
          refine forall_congr' fun key => forall_congr' fun a => forall_congr' fun b => forall_congr' fun here =>
            forall_congr' fun _ => ih (key, a) (mem_of_lookup here) b
      | _ => rw [pythonEq_flat (by simp [Nested]), somewhere_flat (by simp [Nested])]

/-- `py_eq` finds two values equal if they are mismatched nowhere. -/
theorem pyEq_iff {a b : JsonValue} (first : a.Keyed) (second : b.Keyed) :
    pyEq a b = true ↔ ¬ Somewhere Mismatched a b := by
  induction a generalizing b with
  | null | bool _ | number _ | string _ => rw [pyEq_flat (by simp [Nested]), somewhere_flat (by simp [Nested])]
  | array items ih =>
      cases b with
      | array others =>
          cases first with
          | array each =>
              cases second with
              | array also =>
                  rw [pyEq_array, somewhere_array]
                  refine and_congr (by simp [Mismatched, Apart, Rounded, Disguised]) ?_
                  refine forall_congr' fun i => forall_congr' fun a => forall_congr' fun b =>
                    forall_congr' fun here => forall_congr' fun there =>
                      ih a (List.mem_of_getElem? here) (each a (List.mem_of_getElem? here))
                        (also b (List.mem_of_getElem? there))
      | _ => rw [pyEq_flat (by simp [Nested]), somewhere_flat (by simp [Nested])]
  | object fields ih =>
      cases b with
      | object others =>
          cases first with
          | object distinct each =>
              cases second with
              | object differ also =>
                  rw [pyEq_object distinct differ, somewhere_object]
                  refine and_congr (by simp [Mismatched, Apart, Rounded, Disguised]) ?_
                  refine forall_congr' fun key => forall_congr' fun a => forall_congr' fun b =>
                    forall_congr' fun here => forall_congr' fun there =>
                      ih (key, a) (mem_of_lookup here) (each _ (mem_of_lookup here))
                        (also _ (mem_of_lookup there))
      | _ => rw [pyEq_flat (by simp [Nested]), somewhere_flat (by simp [Nested])]

/-! ## Python equality is one -/

theorem PythonEq.symm {a b : JsonValue} (equal : PythonEq a b) : PythonEq b a := by
  induction equal with
  | numeric first second => exact .numeric second first
  | null => exact .null
  | string value => exact .string value
  | array long _ ih => exact .array long.symm fun i a b here there => ih i b a there here
  | object keys _ ih =>
      exact .object (fun key => (keys key).symm) fun key a b here there => ih key b a there here

theorem PythonEq.trans {a b c : JsonValue} (first : PythonEq a b) (second : PythonEq b c) :
    PythonEq a c := by
  induction first generalizing c with
  | @numeric a b number here there =>
      have known : Devices.numeric b ≠ none := by rw [there]; simp
      rw [pythonEq_numeric known, there] at second
      exact .numeric here second.symm
  | null => exact second
  | string value => exact second
  | @array x y long each ih =>
      cases second with
      | numeric here _ => cases here
      | @array _ z also later =>
          refine .array (long.trans also) fun i a c here there => ?_
          obtain ⟨b, between⟩ : ∃ b, y[i]? = some b := by
            have bound := (List.getElem?_eq_some_iff.mp here).1
            exact ⟨_, List.getElem?_eq_getElem (long ▸ bound)⟩
          exact ih i a b here between (later i b c between there)
  | @object x y keys each ih =>
      cases second with
      | numeric here _ => cases here
      | @object _ z also later =>
          refine .object (fun key => (keys key).trans (also key)) fun key a c here there => ?_
          obtain ⟨b, between⟩ : ∃ b, y.lookup key = some b := by
            have present := keys key
            rw [here] at present
            exact Option.isSome_iff_exists.mp present.symm
          exact ih key a b here between (later key b c between there)

/-! ## `py_eq` against Python -/

theorem rounded_apart {a b : JsonValue} (rounded : Rounded a b) : Apart a b := by
  cases a with
  | number x =>
      cases b with
      | number y => exact .inr fun same => rounded.2.2 (Option.some.inj same)
      | _ => exact rounded.elim
  | _ => cases b <;> exact rounded.elim

/-- `py_eq` is Python equality of two values if and only if the two are told apart as Python does. -/
theorem pyEq_iff_pythonEq {a b : JsonValue} (first : a.Keyed) (second : b.Keyed) :
    (pyEq a b = true ↔ PythonEq a b) ↔ Told a b := by
  rw [pyEq_iff first second, pythonEq_iff, not_iff_not]
  constructor
  · intro same
    exact ⟨fun rounded => same.mpr (rounded.mono fun _ _ => rounded_apart),
      fun disguised => same.mp (disguised.mono fun _ _ => .inr)⟩
  · intro told
    constructor
    · intro mismatched
      rcases mismatched.or with apart | disguised
      · exact apart.mono fun _ _ => And.left
      · exact told.disguised disguised
    · intro apart
      have either : Somewhere (fun a b => Rounded a b ∨ (Apart a b ∧ ¬ Rounded a b)) a b :=
        apart.mono fun a b found => (em (Rounded a b)).imp_right fun not => ⟨found, not⟩
      rcases either.or with rounded | plain
      · exact told.rounded rounded
      · exact plain.mono fun _ _ => .inl

/-- What is asked of `py_eq` at three values. -/
structure PythonEquality (a b c : ObservedValue) : Prop where
  refl : pyEq a.value a.value = true
  symm : pyEq a.value b.value = pyEq b.value a.value
  trans : pyEq a.value b.value = true → pyEq b.value c.value = true → pyEq a.value c.value = true
  first : pyEq a.value b.value = true ↔ PythonEq a.value b.value
  second : pyEq b.value c.value = true ↔ PythonEq b.value c.value
  both : pyEq a.value c.value = true ↔ PythonEq a.value c.value

theorem Apart.symm {a b : JsonValue} (apart : Apart a b) : Apart b a := by
  by_cases nested : Nested a b
  · cases a with
    | array x =>
        cases b with
        | array y => exact Ne.symm apart
        | _ => exact nested.elim
    | object x =>
        cases b with
        | object y =>
            obtain ⟨key, differ⟩ := apart
            exact ⟨key, differ.symm⟩
        | _ => exact nested.elim
    | _ => cases b <;> exact nested.elim
  · have other : ¬ Nested b a := fun both => nested (by cases a <;> cases b <;> exact both)
    by_contra equal
    exact (pythonEq_flat nested).mp ((pythonEq_flat other).mpr equal).symm apart

theorem Rounded.symm {a b : JsonValue} (rounded : Rounded a b) : Rounded b a := by
  cases a with
  | number x =>
      cases b with
      | number y => exact ⟨rounded.1.symm, rounded.2.1.symm, rounded.2.2.symm⟩
      | _ => exact rounded
  | _ => cases b <;> exact rounded.elim

theorem Disguised.symm {a b : JsonValue} (disguised : Disguised a b) : Disguised b a := by
  cases a <;> cases b <;> exact disguised

theorem Mismatched.symm {a b : JsonValue} (mismatched : Mismatched a b) : Mismatched b a :=
  mismatched.imp (fun ⟨apart, not⟩ => ⟨apart.symm, fun rounded => not rounded.symm⟩) Disguised.symm

theorem Somewhere.symm {pair : JsonValue → JsonValue → Prop} (swaps : ∀ a b, pair a b → pair b a)
    {a b : JsonValue} (somewhere : Somewhere pair a b) : Somewhere pair b a := by
  induction somewhere with
  | here found => exact .here (swaps _ _ found)
  | item first second _ within => exact .item second first within
  | field first second _ within => exact .field second first within

theorem pyEq_symm (a b : ObservedValue) : pyEq a.value b.value = pyEq b.value a.value := by
  rw [Bool.eq_iff_iff, pyEq_iff a.keyed b.keyed, pyEq_iff b.keyed a.keyed, not_iff_not]
  exact ⟨Somewhere.symm fun _ _ => Mismatched.symm, Somewhere.symm fun _ _ => Mismatched.symm⟩

theorem not_somewhere_self {pair : JsonValue → JsonValue → Prop} (never : ∀ a, ¬ pair a a)
    (a : JsonValue) : ¬ Somewhere pair a a := by
  induction a with
  | null | bool _ | number _ | string _ => rw [somewhere_flat (by simp [Nested])]; exact never _
  | array items ih =>
      rw [somewhere_array]
      refine ⟨never _, fun i a b here there => ?_⟩
      cases here.symm.trans there
      exact ih a (List.mem_of_getElem? here)
  | object fields ih =>
      rw [somewhere_object]
      refine ⟨never _, fun key a b here there => ?_⟩
      cases here.symm.trans there
      exact ih (key, a) (mem_of_lookup here)

theorem not_mismatched_self (a : JsonValue) : ¬ Mismatched a a := by
  cases a <;> simp [Mismatched, Apart, Rounded, Disguised, numeric]

theorem pyEq_refl (a : ObservedValue) : pyEq a.value a.value = true :=
  (pyEq_iff a.keyed a.keyed).mpr (not_somewhere_self not_mismatched_self a.value)

theorem pythonEquality_iff (a b c : ObservedValue) :
    PythonEquality a b c ↔
      Told a.value b.value ∧ Told b.value c.value ∧ Told a.value c.value := by
  constructor
  · intro equality
    exact ⟨(pyEq_iff_pythonEq a.keyed b.keyed).mp equality.first,
      (pyEq_iff_pythonEq b.keyed c.keyed).mp equality.second,
      (pyEq_iff_pythonEq a.keyed c.keyed).mp equality.both⟩
  · rintro ⟨first, second, both⟩
    have one := (pyEq_iff_pythonEq a.keyed b.keyed).mpr first
    have two := (pyEq_iff_pythonEq b.keyed c.keyed).mpr second
    have three := (pyEq_iff_pythonEq a.keyed c.keyed).mpr both
    exact ⟨pyEq_refl a, pyEq_symm a b, fun here there => three.mpr ((one.mp here).trans (two.mp there)),
      one, two, three⟩

/-! ## Waiting -/

/-- What a value matcher is made of; a float can be none of the finite ones. -/
inductive Awaited where
  | bool (value : Bool)
  | signed (value : Int) (fits : -2 ^ 63 ≤ value ∧ value < 2 ^ 63)
  | unsigned (value : Nat) (fits : value < 2 ^ 64)
  | float (value : Double)
  | infinite (negative : Bool)
  | nan
  | string (value : String)
  | json (value : ObservedValue)

namespace Awaited

/-- `serde_json::to_value`. -/
def toValue : Awaited → ObservedValue
  | .bool value => ⟨.bool value, .bool value⟩
  | .signed value fits =>
      if small : value < 0 then ⟨.number (.negInt value ⟨fits.1, small⟩), .number _⟩
      else ⟨.number (.posInt value.toNat (by omega)), .number _⟩
  | .unsigned value fits => ⟨.number (.posInt value fits), .number _⟩
  | .float value => ⟨.number (.float value), .number _⟩
  | .infinite _ | .nan => ⟨.null, .null⟩
  | .string value => ⟨.string value, .string value⟩
  | .json value => value

/-- A JSON value, which an infinity and a NaN are not. -/
def isJson : Awaited → Bool
  | .infinite _ | .nan => false
  | _ => true

end Awaited

/-- `ReadingValue`. -/
structure Reading where
  value : ObservedValue
  timestamp : String
  alarmSeverity : Option Int
  message : Option String

/-- `Matcher`. -/
structure Matcher where
  matching : Reading → Bool
  name : String

/-- The matcher of a value. -/
def valueMatcher (repr : Awaited → String) (awaited : Awaited) : Matcher where
  matching reading := pyEq reading.value.value awaited.toValue.value
  name := repr awaited

/-- Why a wait ended without a value. -/
inductive WaitError where
  | backend (reason : String)
  | valueTimeout (name matcher : String) (timeout : Nat) (last : Option ObservedValue)

/-- What comes behind the last value, if anything: the channel closes, or the time set in nanoseconds is
up. -/
inductive Ending where
  | closed
  | elapsed (timeout : Nat)

/-- `next_match` over the values that come: the one that matches, or the last one. -/
def nextMatch (matcher : Matcher) : List Reading → Option Reading → Except (Option Reading) Reading
  | [], last => .error last
  | reading :: rest, _ =>
      if matcher.matching reading then .ok reading else nextMatch matcher rest (some reading)

/-- `wait_for_value` on a subscription of that key; none while it waits. -/
def waitForValue (key : String) (matcher : Matcher) (readings : List Reading) (ending : Option Ending) :
    Option (Except WaitError Reading) :=
  match nextMatch matcher readings none with
  | .ok reading => some (.ok reading)
  | .error last => ending.map fun
      | .closed => .error (.backend "subscription channel closed")
      | .elapsed timeout => .error (.valueTimeout key matcher.name timeout (last.map Reading.value))

/-- The reading equals the awaited value, to Python. -/
def Equals (awaited : Awaited) (reading : Reading) : Prop :=
  awaited.isJson = true ∧ PythonEq reading.value.value awaited.toValue.value

/-- The reading is told from the awaited value as Python does. -/
def ToldFrom (awaited : Awaited) (reading : Reading) : Prop :=
  if awaited.isJson then Told reading.value.value awaited.toValue.value
  else reading.value.value ≠ .null

/-- The wait ended on a reading if that is the first one equal to the awaited value, and only then. -/
def EndsOnFirst (awaited : Awaited) (readings : List Reading)
    (outcome : Option (Except WaitError Reading)) : Prop :=
  ∀ reading, outcome = some (.ok reading) ↔
    ∃ earlier later, readings = earlier ++ reading :: later ∧ Equals awaited reading ∧
      ∀ other ∈ earlier, ¬ Equals awaited other

theorem pyEq_null {a : JsonValue} : pyEq a .null = true ↔ a = .null := by
  cases a <;> simp [pyEq]

theorem matching_iff (repr : Awaited → String) {awaited : Awaited} {reading : Reading} :
    ((valueMatcher repr awaited).matching reading = true ↔ Equals awaited reading) ↔
      ToldFrom awaited reading := by
  have json : awaited.isJson = true → (((valueMatcher repr awaited).matching reading = true ↔
      Equals awaited reading) ↔ ToldFrom awaited reading) := by
    intro finite
    rw [ToldFrom, if_pos finite, ← pyEq_iff_pythonEq reading.value.keyed awaited.toValue.keyed]
    simp only [valueMatcher, Equals, finite, true_and]
  cases awaited with
  | infinite _ | nan =>
      have never : pyEq reading.value.value .null = true ↔ reading.value.value = .null := pyEq_null
      simp only [valueMatcher, Awaited.toValue, Equals, ToldFrom, Awaited.isJson, Bool.false_eq_true,
        false_and, if_false, iff_false, never]
  | _ => exact json rfl

theorem nextMatch_ok {matcher : Matcher} {readings : List Reading} {last : Option Reading}
    {reading : Reading} :
    nextMatch matcher readings last = .ok reading ↔
      ∃ earlier later, readings = earlier ++ reading :: later ∧ matcher.matching reading = true ∧
        ∀ other ∈ earlier, matcher.matching other = false := by
  induction readings generalizing last with
  | nil => simp [nextMatch]
  | cons head rest ih =>
      rw [nextMatch]
      by_cases found : matcher.matching head = true
      · rw [if_pos found]
        constructor
        · rintro ⟨⟩
          exact ⟨[], rest, rfl, found, by simp⟩
        · rintro ⟨earlier, later, split, _, before⟩
          cases earlier with
          | nil =>
              cases split
              rfl
          | cons first others =>
              cases split
              have unmatched := before head List.mem_cons_self
              rw [found] at unmatched
              cases unmatched
      · rw [if_neg found, ih]
        constructor
        · rintro ⟨earlier, later, rfl, matches_, before⟩
          exact ⟨head :: earlier, later, rfl, matches_,
            List.forall_mem_cons.mpr ⟨Bool.not_eq_true _ ▸ found, before⟩⟩
        · rintro ⟨earlier, later, split, matches_, before⟩
          cases earlier with
          | nil =>
              cases split
              exact absurd matches_ found
          | cons first others =>
              cases split
              exact ⟨others, later, rfl, matches_, (List.forall_mem_cons.mp before).2⟩

theorem waitForValue_ok {key : String} {matcher : Matcher} {readings : List Reading}
    {ending : Option Ending} {reading : Reading} :
    waitForValue key matcher readings ending = some (.ok reading) ↔
      nextMatch matcher readings none = .ok reading := by
  unfold waitForValue
  cases nextMatch matcher readings none with
  | ok found => simp
  | error last =>
      cases ending with
      | none => simp
      | some ending => cases ending <;> simp

/-- The wait ends on the first equal reading if and only if every reading up to there is told from the
awaited value. -/
theorem endsOnFirst_iff (repr : Awaited → String) (key : String) (awaited : Awaited)
    (readings : List Reading) (ending : Option Ending) :
    EndsOnFirst awaited readings (waitForValue key (valueMatcher repr awaited) readings ending) ↔
      ∀ earlier reading later, readings = earlier ++ reading :: later →
        (∀ other ∈ earlier, ¬ Equals awaited other) → ToldFrom awaited reading := by
  have agree : ∀ reading, ((valueMatcher repr awaited).matching reading = true ↔ Equals awaited reading) ↔
      ToldFrom awaited reading := fun _ => matching_iff repr
  simp only [EndsOnFirst, waitForValue_ok, nextMatch_ok, Bool.eq_false_iff]
  generalize (valueMatcher repr awaited).matching = matching at agree
  constructor
  · intro ends earlier reading later split before
    rw [← agree]
    constructor
    · intro matched
      -- the wait ends there or before, so on an equal reading, and there is none before
      obtain ⟨sooner, first, between, within, found, unmatched⟩ :=
        exists_first ⟨reading, List.mem_append_right earlier (List.mem_singleton_self reading), matched⟩
      have whole : readings = sooner ++ first :: (between ++ later) := by
        rw [split, ← List.cons_append, ← List.append_assoc, ← within]
        simp
      obtain ⟨_, _, _, equal, _⟩ := (ends first).mp
        ⟨sooner, _, whole, found, fun other among => Bool.eq_false_iff.mp (unmatched other among)⟩
      have among : first ∈ earlier ++ [reading] := by
        rw [within]
        simp
      rcases List.mem_append.mp among with past | last
      · exact absurd equal (before first past)
      · rwa [← List.mem_singleton.mp last]
    · intro equal
      obtain ⟨_, _, _, matched, _⟩ := (ends reading).mpr ⟨earlier, later, split, equal, before⟩
      exact matched
  · intro told reading
    refine exists_congr fun earlier => exists_congr fun later => and_congr_right fun split => ?_
    have before : (∀ other ∈ earlier, ¬ matching other = true) ↔
        ∀ other ∈ earlier, ¬ Equals awaited other := by
      constructor
      · intro unmatched
        by_contra! some
        obtain ⟨sooner, first, between, within, equal, none⟩ := exists_first_prop some
        have whole : readings = sooner ++ first :: (between ++ reading :: later) := by
          rw [split, within]
          simp
        have matched := ((agree first).mpr (told sooner first _ whole none)).mpr equal
        exact unmatched first (by rw [within]; simp) matched
      · intro none other member matched
        obtain ⟨sooner, between, within⟩ := List.append_of_mem member
        have whole : readings = sooner ++ other :: (between ++ reading :: later) := by
          rw [split, within]
          simp
        have earliest : ∀ another ∈ sooner, ¬ Equals awaited another := fun another among =>
          none another (by rw [within]; exact List.mem_append_left _ among)
        exact none other member (((agree other).mpr (told sooner other _ whole earliest)).mp matched)
    rw [before]
    exact and_congr_left fun none => (agree reading).mpr (told earlier reading later split none)

/-- `py_eq` is Python equality, and a wait for a value ends on the first reading equal to it, if and only
if the values are told apart as Python does. -/
theorem value_matching (a b c : ObservedValue) (repr : Awaited → String) (key : String)
    (awaited : Awaited) (readings : List Reading) (ending : Option Ending) :
    (PythonEquality a b c ↔
      Told a.value b.value ∧ Told b.value c.value ∧ Told a.value c.value) ∧
    (EndsOnFirst awaited readings (waitForValue key (valueMatcher repr awaited) readings ending) ↔
      ∀ earlier reading later, readings = earlier ++ reading :: later →
        (∀ other ∈ earlier, ¬ Equals awaited other) → ToldFrom awaited reading) :=
  ⟨pythonEquality_iff a b c, endsOnFirst_iff repr key awaited readings ending⟩

/-- 2^53 and the integer after it, and the double they both round to. -/
private def evenInteger : JsonValue := .number (.posInt 9007199254740992 (by decide))

private def oddInteger : JsonValue := .number (.posInt 9007199254740993 (by decide))

private def evenDouble : JsonValue := .number (.float ⟨4503599627370496, 1, by decide, by decide⟩)

private def one : JsonValue := .number (.posInt 1 (by decide))

/-- The integer after 2^53 equals the double 2^53 and this the integer 2^53, but that is not the integer
after it; and `true` does not equal 1, as it does in Python. -/
theorem value_mismatching :
    (pyEq oddInteger evenDouble = true ∧ ¬ PythonEq oddInteger evenDouble) ∧
    (pyEq evenDouble evenInteger = true ∧ pyEq oddInteger evenInteger = false) ∧
    pyEq (.bool true) one = false ∧ PythonEq (.bool true) one := by
  refine ⟨⟨by decide +kernel, ?_⟩, ⟨by decide +kernel, by decide +kernel⟩, by decide +kernel,
    .numeric rfl (by simp [one, numeric, JsonNumber.exact])⟩
  rw [oddInteger, evenDouble, pythonEq_numeric (by simp [numeric])]
  simp only [numeric, JsonNumber.exact, Option.some.injEq]
  decide +kernel

end Bsrs.Devices
