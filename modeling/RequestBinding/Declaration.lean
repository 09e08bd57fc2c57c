import RequestBinding.Http.RoutePattern
import RequestBinding.Source.Inference

/-! What can be wrong with the declaration of a handler on a route. -/
namespace RequestBinding

inductive ParamProblem where
  | notInRoute (route : String)
  | notAnUpload
  | uploadFrom (source : Source)
  | invalidPattern (e : Schema.InvalidPattern)
  | requestWithParts
  | noDependency
  | noExtractor (source : Source)
  deriving DecidableEq

/-- The problem in words that follow the name of the parameter. -/
def ParamProblem.message : ParamProblem → String
  | .notInRoute route => s!"is a path parameter but route '{route}' does not declare it"
  | .notAnUpload => "reads from file but is not declared as an upload"
  | .uploadFrom source => s!"is declared as an upload but reads from {source.name}"
  | .invalidPattern e => s!"has an invalid pattern '{e.pattern}': {e.reason}"
  | .requestWithParts => "binds the request and cannot have an extractor"
  | .noDependency => "is a dependency but has no compiled dependency"
  | .noExtractor source => s!"needs a {source.name} extractor"

inductive DeclarationError (n : Nat) where
  | bodyNotAllowed (handler param : String) (conflict : BodyNotAllowed)
  | duplicateParameter (handler param : String)
  | invalidParameter (handler param : String) (problem : ParamProblem)
  | invalidRoute (pattern : String) (problem : RoutePattern.Problem)
  /-- Handlers that depend on each other; the last name is the first one again. -/
  | circularDependency (names : List String)
  | duplicateRoute (handler : Fin n)
  deriving DecidableEq

def DeclarationError.message {n : Nat} : DeclarationError n → String
  | .bodyNotAllowed handler param conflict =>
    s!"handler '{handler}': parameter '{param}' reads from {conflict.source.name}, but "
      ++ s!"{conflict.method.name} requests cannot carry a body"
  | .duplicateParameter handler param =>
    s!"handler '{handler}': parameter '{param}' is declared more than once"
  | .invalidParameter handler param problem =>
    s!"handler '{handler}': parameter '{param}' {problem.message}"
  | .invalidRoute pattern problem =>
    s!"route pattern '{pattern}' is malformed: {problem.message}"
  | .circularDependency names =>
    "Circular dependency detected: " ++ " -> ".intercalate names
  | .duplicateRoute handler =>
    s!"handler #{Decimal.natText handler.val} is already registered"

end RequestBinding
