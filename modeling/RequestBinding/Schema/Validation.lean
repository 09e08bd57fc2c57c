import RequestBinding.Schema.Basic
import RequestBinding.Schema.Format

/-!
Checking a value against a schema.  A check goes on after a violation and collects all of them in
order; it also brings the value into the declared form: integers become doubles where numbers are
declared, text becomes bytes where bytes are, members take their declared names, and absent members
their defaults.
-/
namespace RequestBinding

structure Context where
  location : String
  /-- Keys and indexes that lead to the value. -/
  path : List String := []
  deriving DecidableEq, Repr

namespace Context

def push (ctx : Context) (segment : String) : Context :=
  { ctx with path := ctx.path ++ [segment] }

def field (ctx : Context) : String := ".".intercalate ctx.path

def violation (ctx : Context) (cause : Cause) : Violation := ⟨ctx.location, ctx.field, cause, none⟩

@[simp] theorem location_push (ctx : Context) (s : String) : (ctx.push s).location = ctx.location :=
  rfl

@[simp] theorem path_push (ctx : Context) (s : String) : (ctx.push s).path = ctx.path ++ [s] := rfl

end Context

/-- A check that adds to the violations found so far. -/
abbrev Checking (α : Type) := StateM (List Violation) α

namespace Checking

def report (ctx : Context) (cause : Cause) : StateM (List Violation) Unit :=
  modify (· ++ [ctx.violation cause])

def ensure (ctx : Context) (ok : Bool) (cause : Cause) : StateM (List Violation) Unit :=
  if ok then pure () else report ctx cause

end Checking

open Checking

namespace Schema

def checkText (limits : TextLimits) (ctx : Context) (s : String) :
    StateM (List Violation) Unit := do
  match limits.minLength with
  | some least => ensure ctx (least ≤ s.length) (.tooShort least s.length)
  | none => pure ()
  match limits.maxLength with
  | some most => ensure ctx (s.length ≤ most) (.tooLong most s.length)
  | none => pure ()
  match limits.pattern with
  | some p =>
    match p.compiled with
    | .ok finds => ensure ctx (finds s) (.patternMismatch p.text)
    | .error _ => report ctx (.patternInvalid p.text)
  | none => pure ()
  match limits.format with
  | some f => ensure ctx (f.accepts s) (.wrongFormat f)
  | none => pure ()

/-- A number within its bounds; `less` is the order and `quantity` the number in a message. -/
def checkBounds {α : Type} (less : α → α → Bool) (quantity : α → Quantity) (bounds : Bounds α)
    (ctx : Context) (x : α) : StateM (List Violation) Unit := do
  match bounds.minimum with
  | some least => ensure ctx (!less x least) (.below (quantity least) (quantity x))
  | none => pure ()
  match bounds.maximum with
  | some most => ensure ctx (!less most x) (.above (quantity most) (quantity x))
  | none => pure ()

/-- An integer as a double, rounded to the nearest. -/
def widen (i : Int64) : Float := Float.ofInt i.toInt

def checkItems (check : Context → Value → StateM (List Violation) Value) (ctx : Context) :
    Nat → List Value → StateM (List Violation) (List Value)
  | _, [] => pure []
  | i, v :: r => do
    let v' ← check (ctx.push (Decimal.natText i)) v
    let r' ← checkItems check ctx (i + 1) r
    return v' :: r'

def absentValue? (schema : Schema) (default? : Option Value) : Option Value :=
  default?.or (if schema.isOptional then some .null else none)

mutual

/-- Check a value and bring it into the declared form. -/
def check : Schema → Context → Value → StateM (List Violation) Value
  | .any, _, v => pure v
  | .text limits, ctx, v => do
    match v with
    | .string s => checkText limits ctx s
    | _ => report ctx (.wrongType "string" v.typeName)
    return v
  | .integer bounds, ctx, v => do
    match v with
    | .int i => checkBounds (fun a b => decide (a < b)) Quantity.int bounds ctx i
    | _ => report ctx (.wrongType "integer" v.typeName)
    return v
  | .number bounds, ctx, v => do
    match v with
    | .float x =>
      checkBounds (fun a b => decide (a < b)) Quantity.double bounds ctx x
      return .float x
    | .int i =>
      checkBounds (fun a b => decide (a < b)) Quantity.double bounds ctx (widen i)
      return .float (widen i)
    | _ =>
      report ctx (.wrongType "number" v.typeName)
      return v
  | .boolean, ctx, v => do
    match v with
    | .bool _ => pure ()
    | _ => report ctx (.wrongType "boolean" v.typeName)
    return v
  | .bytes, ctx, v =>
    match v with
    | .bytes _ => pure v
    | .string s => pure (.bytes (Text.Utf8.encode s))
    | _ => do
      report ctx (.wrongType "bytes" v.typeName)
      return v
  | .list items, ctx, v =>
    match v with
    | .list vs => do return .list (← checkItems (check items) ctx 0 vs)
    | _ => do
      report ctx (.wrongType "array" v.typeName)
      return v
  | .optional inner, ctx, v => if v.isNull then pure .null else check inner ctx v
  | .record _ ms, ctx, v =>
    match v with
    | .object pairs => do return .object (← checkMembers ms ctx pairs)
    | _ => do
      report ctx (.wrongType "object" v.typeName)
      return v
  | .upload, ctx, v => do
    report ctx (.wrongType "upload" v.typeName)
    return v
  | .request, ctx, v => do
    report ctx (.wrongType "request" v.typeName)
    return v

/-- Check the members of a record against the pairs of an object; pairs that no member asks for are
left out. -/
def checkMembers : List (Member Schema) → Context → List (String × Value) →
    StateM (List Violation) (List (String × Value))
  | [], _, _ => pure []
  | ⟨name, alias?, schema, default?⟩ :: r, ctx, pairs => do
    let here := ctx.push (alias?.getD name)
    let found ← match Value.lastMember? pairs (alias?.getD name) with
      | some v => do pure [(name, ← check schema here v)]
      | none =>
        match absentValue? schema default? with
        | some v => pure [(name, v)]
        | none => do
          report here .missing
          pure []
    let rest ← checkMembers r ctx pairs
    return found ++ rest

end

def validate (schema : Schema) (ctx : Context) (v : Value) : Except (List Violation) Value :=
  match (check schema ctx v).run [] with
  | (v', []) => .ok v'
  | (_, vs) => .error vs

end Schema

end RequestBinding
