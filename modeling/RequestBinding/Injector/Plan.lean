import RequestBinding.Binding
import RequestBinding.Injector.Gathering
import RequestBinding.Routine.Schedule

/-!
Arguments step by step, one step for each field in the order of declaration.  A plan may resolve
dependencies that do not block side by side before it starts; what they came to is taken up in the
order of declaration all the same.
-/
namespace RequestBinding

abbrev Resolved := Except Fault Arg

abbrev Injected := Except Fault CallArgs

structure Link (n : Nat) where
  handler : Fin n
  name : String
  isAsync : Bool
  resolve : Request → Routine (Session n) Resolved

/-- A step makes one argument. -/
structure Step (n : Nat) where
  name : String
  pass : Pass
  feed : Feed (Link n)

namespace Step
variable {n : Nat}

def ofField (f : Field (Link n)) : Step n := ⟨f.name, f.pass, f.feed⟩

/-- The dependency of a step, if it has one that does not block. -/
def async? (s : Step n) : Option (Link n) := s.feed.dependency?.filter Link.isAsync

def describe (s : Step n) : String :=
  match s.feed with
  | .request => s!"{s.name}: request"
  | .extract e => s!"{s.name}: {e.source.name}"
  | .dependency link => s!"{s.name}: depends({link.name})"

end Step

structure Plan (n : Nat) where
  steps : List (Step n)
  concurrent : Bool
  needsForm : Bool

namespace Plan
variable {n : Nat}

def ofBinding (b : Binding n (Link n)) (concurrent : Bool) : Plan n where
  steps := b.fields.map .ofField
  concurrent
  needsForm := b.needs.form

/-- The dependencies that are resolved before the first step: with less than two there is nothing to
be gained. -/
def early (p : Plan n) : List (Link n) :=
  let links := p.steps.filterMap Step.async?
  if p.concurrent && 2 ≤ links.length then links else []

/-- Give each step what its dependency came to, as far as that is known. -/
def prepare : List (Step n) → List Resolved → List (Step n × Option Resolved)
  | [], _ => []
  | s :: ss, [] => (s, none) :: prepare ss []
  | s :: ss, x :: xs =>
    if s.async?.isSome then (s, some x) :: prepare ss xs else (s, none) :: prepare ss (x :: xs)

/-- Take the steps in order.  Violations of extractors are gathered; a dependency that fails ends
the plan, and violations it failed with join those gathered before. -/
def follow (r : Request) : List (Step n × Option Resolved) → Gathering →
    Routine (Session n) Injected
  | [], g => pure (g.finish.mapError .validation)
  | (s, known) :: rest, g =>
    match s.feed with
    | .request => follow r rest (g.push s.pass s.name (.request r))
    | .extract e => do
      let bound ← Routine.act (e.apply r)
      follow r rest (g.add s.pass s.name bound)
    | .dependency link => do
      let resolved ← match known with
        | some x => pure x
        | none => link.resolve r
      match resolved with
      | .ok arg => follow r rest (g.push s.pass s.name arg)
      | .error (.validation vs) => pure (.error (.validation (g.violations ++ vs)))
      | .error fault => pure (.error fault)

def execute (p : Plan n) (r : Request) : Routine (Session n) Injected := do
  if p.needsForm then
    let _ ← Routine.act (Session.form r)
  let results ← Routine.all (p.early.map fun link => link.resolve r)
  follow r (prepare p.steps results) {}

def describe (p : Plan n) : String :=
  "ExtractionPlan \x7b steps: " ++ Text.quotedList (p.steps.map Step.describe)
    ++ ", concurrent: " ++ (if p.concurrent then "true" else "false")
    ++ ", needs_form: " ++ (if p.needsForm then "true" else "false") ++ " \x7d"

end Plan

end RequestBinding
