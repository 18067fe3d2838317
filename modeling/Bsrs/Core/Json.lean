import Mathlib.Algebra.Group.Int.Defs
import Mathlib.Data.List.Basic

namespace Bsrs.Core

/-- A JSON number as `serde_json` keeps it: an integer, or a double by its text. -/
inductive Number where
  | int (value : Int)
  | float (text : String)
  deriving Repr, DecidableEq

/-- `Number::as_i64`. -/
def Number.asI64 : Number → Option Int
  | .int value => if -2 ^ 63 ≤ value ∧ value < 2 ^ 63 then some value else none
  | .float _ => none

/-- `Number::as_u64`. -/
def Number.asU64 : Number → Option Nat
  | .int value => if 0 ≤ value ∧ value < 2 ^ 64 then some value.toNat else none
  | .float _ => none

/-- `serde_json::Value`; the keys of an object are distinct where the parser built it. -/
inductive Json where
  | null
  | bool (value : Bool)
  | number (value : Number)
  | string (value : String)
  | array (items : List Json)
  | object (fields : List (String × Json))
  deriving Repr

namespace Json

/-- `Value::get` by key: `none` on anything but an object. -/
def get : Json → String → Option Json
  | .object fields, key => fields.lookup key
  | _, _ => none

def asStr : Json → Option String
  | .string value => some value
  | _ => none

def asBool : Json → Option Bool
  | .bool value => some value
  | _ => none

def asArray : Json → Option (List Json)
  | .array items => some items
  | _ => none

def asObject : Json → Option (List (String × Json))
  | .object fields => some fields
  | _ => none

def isNull : Json → Bool
  | .null => true
  | _ => false

/-- `get(key).and_then(as_str)`, the way every handler reads a text parameter. -/
def text (json : Json) (key : String) : Option String :=
  (json.get key).bind asStr

mutual

/-- `serde_json::to_string`, the compact form. -/
def print : Json → String
  | .null => "null"
  | .bool value => if value then "true" else "false"
  | .number (.int value) => toString value
  | .number (.float text) => text
  | .string value => value.quote
  | .array items => "[" ++ ",".intercalate (printItems items) ++ "]"
  | .object fields => "\x7b" ++ ",".intercalate (printFields fields) ++ "\x7d"

def printItems : List Json → List String
  | [] => []
  | item :: rest => print item :: printItems rest

def printFields : List (String × Json) → List String
  | [] => []
  | (key, value) :: rest => (key.quote ++ ":" ++ print value) :: printFields rest

end

def flag (json : Json) (key : String) : Option Bool :=
  (json.get key).bind asBool

end Json

end Bsrs.Core
