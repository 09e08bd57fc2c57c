import RequestBinding.Resolution
import RequestBinding.Serializer

/-!
Serving one request: bind the arguments, call the handler, write the answer.  Files that were made
on the way are released in any case, those of a call that took place when it is over.
-/
namespace RequestBinding
variable {n : Nat}

namespace Compiled

def invoke (c : Compiled n) (catalogue : Catalogue n) (r : Request) :
    Routine (Session n) Resolved := do
  match ← (c.injector catalogue).inject r with
  | .error fault => return .error fault
  | .ok args =>
    let uploads ← Routine.act Session.takeUploads
    catalogue.callHolding c.binding.handler args uploads

/-- Serve a request on a scope of its own. -/
def dispatch (c : Compiled n) (catalogue : Catalogue n) (serializer : Serializer) (r : Request) :
    Routine (Session n) Response := do
  Routine.act Session.renewScope
  let result ← c.invoke catalogue r
  let _ ← Routine.act Session.releaseUploads
  return serializer.respond result

end Compiled

end RequestBinding
