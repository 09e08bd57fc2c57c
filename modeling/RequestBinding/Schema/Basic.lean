import RequestBinding.Value
import RequestBinding.Violation
import RequestBinding.Pattern.Compile

/-!
Declared types of parameters.  A schema is looked at when a handler is registered, to choose where
its value comes from, and describes what a value must be.
-/
namespace RequestBinding

/-- A pattern with what an engine for regular expressions makes of it: why it is refused, or which
texts it is found in.  Any engine will do. -/
structure TextPattern where
  text : String
  compiled : Except String (String → Bool)

namespace TextPattern

/-- Patterns are equal when they are written alike. -/
instance : BEq TextPattern := ⟨fun p q => p.text == q.text⟩

def ofText (text : String) : TextPattern where
  text
  compiled := match Pattern.compile text with
    | .ok r => .ok r.search
    | .error refusal => .error (refusal.message text)

instance : Coe String TextPattern := ⟨ofText⟩

end TextPattern

structure TextLimits where
  /-- In characters. -/
  minLength : Option Nat := none
  /-- In characters. -/
  maxLength : Option Nat := none
  pattern : Option TextPattern := none
  format : Option Format := none
  deriving BEq

structure Bounds (α : Type) where
  minimum : Option α := none
  maximum : Option α := none

structure Member (σ : Type) where
  name : String
  /-- The key in incoming data, where it differs from the name. -/
  alias? : Option String
  schema : σ
  default? : Option Value

inductive Schema where
  | any
  | text (limits : TextLimits)
  | integer (bounds : Bounds Int64)
  | number (bounds : Bounds Float)
  | boolean
  | bytes
  | list (items : Schema)
  /-- Null is allowed, and an absent value is null. -/
  | optional (inner : Schema)
  | record (name : String) (members : List (Member Schema))
  /-- A handle to an uploaded file. -/
  | upload
  /-- The request itself. -/
  | request

def Member.key {σ : Type} (m : Member σ) : String := m.alias?.getD m.name

namespace Schema

instance : Inhabited Schema := ⟨.any⟩

def typeName : Schema → String
  | .any => "any"
  | .text _ => "string"
  | .integer _ => "integer"
  | .number _ => "float"
  | .boolean => "boolean"
  | .bytes => "bytes"
  | .list _ => "array"
  | .optional _ => "optional"
  | .record .. => "object"
  | .upload => "upload"
  | .request => "request"

/-- An absent value is null. -/
def isOptional : Schema → Bool
  | .optional _ => true
  | _ => false

/-- The schema with one level of `optional` removed. -/
def bare : Schema → Schema
  | .optional inner => inner
  | s => s

/-- The members of a record, perhaps an optional one. -/
def members? (s : Schema) : Option (List (Member Schema)) :=
  match s.bare with
  | .record _ ms => some ms
  | _ => none

/-- A record or a list of records, perhaps optional. -/
def isStructured (s : Schema) : Bool :=
  match s.bare with
  | .record .. => true
  | .list (.record ..) => true
  | _ => false

/-- A file or a list of files, perhaps optional. -/
def isUpload (s : Schema) : Bool :=
  match s.bare with
  | .upload => true
  | .list .upload => true
  | _ => false

def isList (s : Schema) : Bool :=
  match s.bare with
  | .list _ => true
  | _ => false

end Schema

/-- An absent member is a violation. -/
def Member.isRequired (m : Member Schema) : Bool := m.default?.isNone && !m.schema.isOptional

namespace Schema

structure InvalidPattern where
  pattern : String
  reason : String
  deriving DecidableEq, Repr

def checkPattern (pattern : TextPattern) : Except InvalidPattern Unit :=
  match pattern.compiled with
  | .ok _ => .ok ()
  | .error reason => .error ⟨pattern.text, reason⟩

mutual

/-- Every pattern in the schema must be a regular expression; the first that is not is reported. -/
def checkPatterns : Schema → Except InvalidPattern Unit
  | .text limits =>
    match limits.pattern with
    | some p => checkPattern p
    | none => .ok ()
  | .list items => checkPatterns items
  | .optional inner => checkPatterns inner
  | .record _ ms => checkMemberPatterns ms
  | _ => .ok ()

def checkMemberPatterns : List (Member Schema) → Except InvalidPattern Unit
  | [] => .ok ()
  | ⟨_, _, s, _⟩ :: r => do
    checkPatterns s
    checkMemberPatterns r

end

/-- Bounds are equal as numbers. -/
def sameBounds {α : Type} [BEq α] (a b : Bounds α) : Bool :=
  a.minimum == b.minimum && a.maximum == b.maximum

mutual

/-- Equality of declared types; bounds and defaults compare as data. -/
def equal : Schema → Schema → Bool
  | .any, .any => true
  | .text a, .text b => a == b
  | .integer a, .integer b => sameBounds a b
  | .number a, .number b => sameBounds a b
  | .boolean, .boolean => true
  | .bytes, .bytes => true
  | .list a, .list b => equal a b
  | .optional a, .optional b => equal a b
  | .record n a, .record m b => n == m && equalMembers a b
  | .upload, .upload => true
  | .request, .request => true
  | _, _ => false

def equalMembers : List (Member Schema) → List (Member Schema) → Bool
  | [], [] => true
  | ⟨n, a, s, d⟩ :: r, ⟨m, b, t, e⟩ :: q =>
    n == m && a == b && equal s t && d == e && equalMembers r q
  | _, _ => false

end

instance : BEq Schema := ⟨equal⟩

end Schema

end RequestBinding
