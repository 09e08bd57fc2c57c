import RequestBinding.Injector.Direct
import RequestBinding.Injector.Plan

/-! The way in which a handler gets its arguments, chosen by the shape of the handler. -/
namespace RequestBinding

/-- How arguments are made: in one go or by a plan. -/
inductive Injector (n : Nat) where
  | direct (run : DirectInjector n)
  | plan (p : Plan n)

namespace Injector
variable {n : Nat}

def full (b : Binding n (Link n)) : Injector n := .plan (.ofBinding b false)

def direct? (b : Binding n (Link n)) : Option (DirectInjector n) :=
  match b.shape with
  | .noParams => some .noParams
  | .requestOnly => DirectInjector.requestOnly? b.fields
  | .pathOnly => DirectInjector.singleView? .path b.fields
  | .queryOnly => DirectInjector.singleView? .query b.fields
  | .bodyOnly => DirectInjector.bodyOnly? b.fields
  | .simple => DirectInjector.pathAndQuery? b.fields
  | .withDeps | .full => none

def ofBinding (b : Binding n (Link n)) : Injector n :=
  if b.shape = .withDeps then .plan (.ofBinding b b.concurrent)
  else match direct? b with
    | some run => .direct run
    | none => full b

def isPlan : Injector n → Bool
  | .plan _ => true
  | .direct _ => false

def inject (i : Injector n) (r : Request) : Routine (Session n) Injected :=
  match i with
  | .direct run => do return (← Routine.act (run r)).mapError .validation
  | .plan p => p.execute r

def describe : Injector n → String
  | .direct _ => "Injector::Sync"
  | .plan p => s!"Injector::Plan({p.describe})"

end Injector

end RequestBinding
