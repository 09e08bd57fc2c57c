import RequestBinding.Field
import RequestBinding.Source.Shape

/-! Compiled handlers.  All about a handler that does not change from request to request. -/
namespace RequestBinding

universe u

/-- A handler on a route.  Its fields have the order of declaration; `δ` stands for dependencies. -/
structure Binding (n : Nat) (δ : Type u) where
  handler : Fin n
  name : String
  isAsync : Bool
  method : Method
  route : RoutePattern
  /-- Dependencies that do not block are resolved side by side. -/
  concurrent : Bool
  fields : List (Field δ)

namespace Binding
variable {n : Nat} {δ : Type u}

def counts (b : Binding n δ) : SourceCounts := .ofList (b.fields.map Field.source)

def shape (b : Binding n δ) : Shape := b.counts.shape

def needs (b : Binding n δ) : Needs := .ofCounts b.counts b.route.isStatic

/-- Equality of bindings; dependencies are equal when `same` holds of them. -/
def equal (same : δ → δ → Bool) (a b : Binding n δ) : Bool :=
  a.handler == b.handler && a.name == b.name && a.method == b.method && a.route == b.route
    && a.concurrent == b.concurrent && a.fields.length == b.fields.length
    && (a.fields.zip b.fields).all fun (f, g) => f.equal same g

end Binding

structure Need (β : Type u) where
  useCache : Bool
  target : β

/-- A handler compiled together with all handlers that it depends on. -/
inductive Compiled (n : Nat) where
  | mk (binding : Binding n (Need (Compiled n)))

namespace Compiled
variable {n : Nat}

def binding : Compiled n → Binding n (Need (Compiled n))
  | mk b => b

def sameNeed (a b : Need (Compiled n)) : Bool :=
  a.target.binding.handler == b.target.binding.handler && a.useCache == b.useCache

instance : BEq (Compiled n) := ⟨fun a b => a.binding.equal sameNeed b.binding⟩

end Compiled

end RequestBinding
