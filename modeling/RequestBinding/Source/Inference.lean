import RequestBinding.Config
import RequestBinding.Http.Method

/-!
Choosing the source of a parameter.  A marker decides; without one the name and the schema do, and
on methods without a body everything else is a query parameter.
-/
namespace RequestBinding

structure BodyNotAllowed where
  source : Source
  method : Method
  deriving DecidableEq, Repr

def BodyNotAllowed.message (e : BodyNotAllowed) : String :=
  s!"{e.source.name} parameters are not allowed on {e.method.name} requests"

namespace Source
variable {n : Nat}

def ofDeclaration (config : Config n) (routeNames : List String) (method : Method) (name : String)
    (schema : Schema) : Source :=
  if config.isRequestAlias name then .request
  else if schema matches .request then .request
  else if routeNames.contains name then .path
  else if schema.isUpload then .file
  else if method.allowsBody && schema.isStructured then .body
  else .query

/-- The source of a parameter; the body can be read only where the method allows one. -/
def infer (config : Config n) (routeNames : List String) (method : Method) (name : String)
    (schema : Schema) (marker? : Option (Marker n)) : Except BodyNotAllowed Source :=
  let source := match marker? with
    | some m => m.source
    | none => ofDeclaration config routeNames method name schema
  if source.readsBody && !method.allowsBody then .error ⟨source, method⟩ else .ok source

theorem infer_eq_ok_iff {config : Config n} {routeNames : List String} {method : Method}
    {name : String} {schema : Schema} {marker? : Option (Marker n)} {s : Source} :
    infer config routeNames method name schema marker? = .ok s ↔
      s = (marker?.map Marker.source).getD (ofDeclaration config routeNames method name schema)
        ∧ (s.readsBody → method.allowsBody) := by
  cases marker? <;> simp only [infer, Option.map, Option.getD] <;> split <;> grind

end Source

end RequestBinding
