import RequestBinding.Json.Basic
import RequestBinding.Text.Utf8

/-!
Plain data that flows between requests, parameters and handlers, and its exchange with JSON.  A
value may hold what JSON cannot: bytes, a number that is none, an object that repeats a key.
-/
namespace RequestBinding

/-- Plain data.  An object keeps its pairs in order and may repeat a key. -/
inductive Value where
  | null
  | bool (b : Bool)
  | int (i : Int64)
  | float (x : Float)
  | string (s : String)
  | bytes (bs : Bytes)
  | list (items : List Value)
  | object (pairs : List (String × Value))

namespace Value

instance : Inhabited Value := ⟨.null⟩

def typeName : Value → String
  | .null => "null"
  | .bool _ => "boolean"
  | .int _ => "integer"
  | .float _ => "float"
  | .string _ => "string"
  | .bytes _ => "bytes"
  | .list _ => "array"
  | .object _ => "object"

def isNull : Value → Bool
  | .null => true
  | _ => false

def text? : Value → Option String
  | .string s => some s
  | _ => none

def int? : Value → Option Int64
  | .int i => some i
  | _ => none

/-- The member of an object under a key: of several pairs the first. -/
def get? (v : Value) (key : String) : Option Value :=
  match v with
  | .object pairs => pairs.lookup key
  | _ => none

/-- The pair that counts when a schema reads an object: of several the last. -/
def lastMember? (pairs : List (String × Value)) (key : String) : Option Value :=
  pairs.reverse.lookup key

mutual

/-- Equality of data.  Doubles compare as numbers, so that a number that is none differs from
itself. -/
def equal : Value → Value → Bool
  | .null, .null => true
  | .bool a, .bool b => a == b
  | .int a, .int b => a == b
  | .float a, .float b => a == b
  | .string a, .string b => a == b
  | .bytes a, .bytes b => a == b
  | .list a, .list b => equalItems a b
  | .object a, .object b => equalPairs a b
  | _, _ => false

def equalItems : List Value → List Value → Bool
  | [], [] => true
  | a :: r, b :: s => equal a b && equalItems r s
  | _, _ => false

def equalPairs : List (String × Value) → List (String × Value) → Bool
  | [], [] => true
  | (k, a) :: r, (l, b) :: s => k == l && equal a b && equalPairs r s
  | _, _ => false

end

instance : BEq Value := ⟨equal⟩

mutual

/-- The JSON document of a value.  Bytes become text, a double that JSON has no number for becomes
null, and of several pairs with one key the last stays. -/
def toJson : Value → Json
  | .null => .null
  | .bool b => .bool b
  | .int i => .number (.whole i.toInt)
  | .float x => if x.isFinite then .number (.double x) else .null
  | .string s => .string s
  | .bytes bs => .string (Text.Utf8.decodeLossy bs)
  | .list items => .array (toJsonItems items)
  | .object pairs => Json.ofMembers (toJsonPairs pairs)

def toJsonItems : List Value → List Json
  | [] => []
  | v :: r => toJson v :: toJsonItems r

def toJsonPairs : List (String × Value) → List (String × Json)
  | [] => []
  | (k, v) :: r => (k, toJson v) :: toJsonPairs r

end

/-- A JSON number: an integer where 64 bits with sign hold it, and the nearest double elsewhere. -/
def ofNumber : Json.Number → Value
  | .whole i =>
    if Int64.minValue.toInt ≤ i ∧ i ≤ Int64.maxValue.toInt then .int (Int64.ofInt i)
    else .float (Float.ofInt i)
  | .double x => .float x

mutual

def ofJson : Json → Value
  | .null => .null
  | .bool b => .bool b
  | .number n => ofNumber n
  | .string s => .string s
  | .array items => .list (ofJsonItems items)
  | .object members => .object (ofJsonMembers members)

def ofJsonItems : List Json → List Value
  | [] => []
  | j :: r => ofJson j :: ofJsonItems r

def ofJsonMembers : List (String × Json) → List (String × Value)
  | [] => []
  | (k, j) :: r => (k, ofJson j) :: ofJsonMembers r

end

theorem toJsonItems_eq_map (vs : List Value) : toJsonItems vs = vs.map toJson := by
  induction vs with
  | nil => rfl
  | cons v r ih => simp [toJsonItems, ih]

theorem toJsonPairs_eq_map (ps : List (String × Value)) :
    toJsonPairs ps = ps.map fun p => (p.1, toJson p.2) := by
  induction ps with
  | nil => rfl
  | cons p r ih => simp [toJsonPairs, ih]

theorem ofJsonItems_eq_map (js : List Json) : ofJsonItems js = js.map ofJson := by
  induction js with
  | nil => rfl
  | cons j r ih => simp [ofJsonItems, ih]

theorem ofJsonMembers_eq_map (ms : List (String × Json)) :
    ofJsonMembers ms = ms.map fun m => (m.1, ofJson m.2) := by
  induction ms with
  | nil => rfl
  | cons m r ih => simp [ofJsonMembers, ih]

end Value

end RequestBinding
