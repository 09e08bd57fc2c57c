import RequestBinding.Violation

/-! What stops a request: violations, which are the client's, and faults of handlers and of the
service. -/
namespace RequestBinding

inductive Fault where
  | validation (violations : List Violation)
  | handler (message : String)
  | serialization (message : String)
  | internal (message : String)
  deriving DecidableEq

def Violation.summary (vs : List Violation) : String :=
  s!"{Decimal.natText vs.length} validation error(s)"

namespace Fault

def message : Fault → String
  | .validation vs => s!"Validation error: {Violation.summary vs}"
  | .handler m => s!"Handler error: {m}"
  | .serialization m => s!"Serialization error: {m}"
  | .internal m => s!"Internal error: {m}"

def status : Fault → Nat
  | .validation _ => 422
  | _ => 500

/-- The client sent what the handler cannot take. -/
def isValidation : Fault → Bool
  | .validation _ => true
  | _ => false

end Fault

end RequestBinding
