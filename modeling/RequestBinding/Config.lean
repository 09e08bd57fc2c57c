import RequestBinding.Decoder
import RequestBinding.Handler
import RequestBinding.Upload

/-! Settings that all handlers of a service are compiled with. -/
namespace RequestBinding

/-- Settings of a service with `n` handlers. -/
structure Config (n : Nat) where
  decoder : Decoder := .json
  /-- Parameters of these names are the request. -/
  requestAliases : List String := ["request", "req"]
  limits : UploadLimits := {}
  /-- Dependencies that do not block are resolved side by side. -/
  concurrent : Bool := true
  /-- Handlers that stand in for others wherever those are depended on. -/
  overrides : Dictionary (Fin n) (Fin n) := ∅

namespace Config
variable {n : Nat}

def isRequestAlias (c : Config n) (name : String) : Bool := c.requestAliases.contains name

def withRequestAlias (c : Config n) (name : String) : Config n :=
  { c with requestAliases := c.requestAliases ++ [name] }

def withOverride (c : Config n) (handler replacement : Fin n) : Config n :=
  { c with overrides := c.overrides.insert handler replacement }

/-- The handler that is called for a dependency on another; a replacement is not replaced again. -/
def resolve (c : Config n) (handler : Fin n) : Fin n := (c.overrides.get? handler).getD handler

end Config

end RequestBinding
