import RequestBinding.Compilation
import RequestBinding.Dispatch

/-! Routes of a service: handlers are registered one by one, and then requests are served. -/
namespace RequestBinding
variable {n : Nat}

/-- Registered handlers; each can be registered for one route. -/
structure RouteTable (n : Nat) where
  routes : Dictionary (Fin n) (Compiled n) := ∅
  serializer : Serializer := .json

namespace RouteTable

def get? (t : RouteTable n) (id : Fin n) : Option (Compiled n) := t.routes.get? id

def size (t : RouteTable n) : Nat := t.routes.size

def isEmpty (t : RouteTable n) : Bool := t.routes.isEmpty

def ids (t : RouteTable n) : List (Fin n) := t.routes.keys.mergeSort

/-- Serve a request by a registered handler; none if the handler is not registered. -/
def dispatch (t : RouteTable n) (catalogue : Catalogue n) (id : Fin n) (r : Request) :
    Option (Routine (Session n) Response) :=
  (t.get? id).map fun c => c.dispatch catalogue t.serializer r

end RouteTable

/-- A table under construction, with the compiler that all routes share. -/
structure Registry (n : Nat) where
  compiler : Compiler n
  table : RouteTable n := {}

namespace Registry

def register (g : Registry n) (catalogue : Catalogue n) (method : Method) (pattern : String)
    (id : Fin n) : Except (DeclarationError n) Unit × Registry n :=
  if g.table.routes.contains id then (.error (.duplicateRoute id), g)
  else match g.compiler.compile catalogue id method pattern with
    | (.error e, compiler) => (.error e, { g with compiler })
    | (.ok c, compiler) =>
      (.ok (), { g with
        compiler
        table := { g.table with routes := g.table.routes.insert id c } })

end Registry

end RequestBinding
