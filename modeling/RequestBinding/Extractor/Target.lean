import RequestBinding.Argument
import RequestBinding.Schema.Coercion
import RequestBinding.Schema.Validation
import RequestBinding.Source.Basic

/-! What is bound to one parameter: a key, a schema and a value for when there is none. -/
namespace RequestBinding

abbrev Bound := Except (List Violation) Arg

structure Target where
  /-- The key that is looked up. -/
  key : String
  schema : Schema
  default? : Option Value

namespace Target

def isRequired (t : Target) : Bool := (t.schema.absentValue? t.default?).isNone

def absent (t : Target) (source : Source) : Bound :=
  match t.schema.absentValue? t.default? with
  | some v => .ok (.value v)
  | none => .error [.absent source.name t.key]

end Target

/-- The place of a value under a key; the empty key adds nothing to the path. -/
def Context.atKey (location key : String) : Context :=
  ⟨location, if key = "" then [] else [key]⟩

def Schema.bind (schema : Schema) (source : Source) (key : String) (v : Value) : Bound :=
  (schema.validate (.atKey source.name key) v).map .value

/-- A value for a list that is neither a list nor null is its only item. -/
def Schema.wrapped (schema : Schema) (v : Value) : Value :=
  match v with
  | .list _ | .null => v
  | _ => if schema.isList then .list [v] else v

end RequestBinding
