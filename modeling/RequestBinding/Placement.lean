import RequestBinding.Field

/-!
The first pass over a handler: each parameter gets a source, and the declaration has to be legal on
the route.
-/
namespace RequestBinding
variable {n : Nat}

structure Placement (n : Nat) where
  param : Param n
  source : Source
  key : String

namespace Placement

/-- The key of a path parameter in the route: its own key if the route has that, else its name. -/
def routeKey? (route : RoutePattern) (p : Param n) : Option String :=
  [p.key, p.name].find? route.has

def keyIn (route : RoutePattern) (p : Param n) (source : Source) : Except ParamProblem String :=
  if source = .path then
    match routeKey? route p with
    | some key => .ok key
    | none => .error (.notInRoute route.text)
  else .ok p.key

/-- Files come from files and nothing else does; what is declared by other means is left alone. -/
def checkUpload (schema : Schema) (source : Source) : Except ParamProblem Unit :=
  match source with
  | .file => if schema.isUpload then .ok () else .error .notAnUpload
  | .dependency | .request => .ok ()
  | s => if schema.isUpload then .error (.uploadFrom s) else .ok ()

/-- The key of a parameter whose source is known, if the declaration is legal. -/
def legalKey (route : RoutePattern) (p : Param n) (source : Source) :
    Except ParamProblem String := do
  let key ← keyIn route p source
  checkUpload p.schema source
  p.schema.checkPatterns.mapError .invalidPattern
  return key

def ofParam (config : Config n) (route : RoutePattern) (method : Method) (handler : String)
    (p : Param n) : Except (DeclarationError n) (Placement n) := do
  let source ← (Source.infer config route.names method p.name p.schema p.marker?).mapError
    (.bodyNotAllowed handler p.name)
  let key ← (legalKey route p source).mapError (.invalidParameter handler p.name)
  return ⟨p, source, key⟩

/-- Place the parameters of a handler in order; `seen` are the names before them. -/
def ofParams (config : Config n) (route : RoutePattern) (method : Method) (handler : String) :
    List String → List (Param n) → Except (DeclarationError n) (List (Placement n))
  | _, [] => .ok []
  | seen, p :: ps => do
    if p.name ∈ seen then throw (.duplicateParameter handler p.name)
    let placed ← ofParam config route method handler p
    return placed :: (← ofParams config route method handler (p.name :: seen) ps)

/-- With more than one body parameter each takes a member of the payload. -/
def embedsBody (ps : List (Placement n)) : Bool := 1 < ps.countP (·.source == .body)

def target (p : Placement n) : Target := ⟨p.key, p.param.schema, p.param.default?⟩

def depends? (p : Placement n) : Option (Depends n) :=
  match p.param.marker? with
  | some (.depends d) => some d
  | _ => none

/-- The compiled parameter; its dependency comes compiled too. -/
def field {δ : Type} (p : Placement n) (config : Config n) (handler : String) (embed : Bool)
    (dependency? : Option δ) : Except (DeclarationError n) (Field δ) :=
  let extractor? := match dependency? with
    | some _ => none
    | none => Extractor.ofSource? config p.source p.target embed
  match Feed.ofParts p.source extractor? dependency? with
  | .ok feed => .ok {
      name := p.param.name, schema := p.param.schema, alias? := p.param.alias?,
      default? := p.param.default?, kind := p.param.kind, feed }
  | .error problem => .error (.invalidParameter handler p.param.name problem)

end Placement

end RequestBinding
