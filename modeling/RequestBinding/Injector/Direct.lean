import RequestBinding.Binding
import RequestBinding.Injector.Gathering

/-!
Arguments in one go, for handlers that only read a few parts of the request.  Each of these makes
arguments for fields of one shape and does not apply to others.
-/
namespace RequestBinding

universe u

/-- Arguments in one indivisible step. -/
abbrev DirectInjector (n : Nat) := Request → StateM (Session n) (Except (List Violation) CallArgs)

namespace DirectInjector
variable {n : Nat} {δ : Type u}

def noParams : DirectInjector n := fun _ => pure (.ok .empty)

def requestOnly? : List (Field δ) → Option (DirectInjector n)
  | [f] => some fun r => pure (.ok (CallArgs.empty.push f.pass f.name (.request r)))
  | _ => none

structure Entry where
  name : String
  pass : Pass
  source : Source
  target : Target

def Entry.ofField? (f : Field δ) : Option Entry :=
  match f.feed with
  | .extract (.path t) => some ⟨f.name, f.pass, .path, t⟩
  | .extract (.query t) => some ⟨f.name, f.pass, .query, t⟩
  | _ => none

/-- Bind entries in order, each from the parameters that `view` gives for it. -/
def bindEntries (view : Entry → Dictionary String Value) (entries : List Entry) :
    Except (List Violation) CallArgs :=
  (entries.foldl (fun g e =>
    g.add e.pass e.name (Extractor.bindTyped e.source (view e) e.target)) ({} : Gathering)).finish

def singleView? (source : Source) (fields : List (Field δ)) : Option (DirectInjector n) := do
  let entries ← fields.mapM fun f => if f.source = source then Entry.ofField? f else none
  return fun r =>
    let params := if source = .path then r.pathParams else r.query
    pure (bindEntries (fun _ => params) entries)

def pathAndQuery? (fields : List (Field δ)) : Option (DirectInjector n) := do
  let entries ← fields.mapM Entry.ofField?
  return fun r =>
    pure (bindEntries (fun e => if e.source = .path then r.pathParams else r.query) entries)

def bodyOnly? : List (Field δ) → Option (DirectInjector n)
  | [f] =>
    match f.feed with
    | .extract (.body t embed decoder) => some fun r => do
      match ← (Extractor.body t embed decoder).apply r with
      | .error vs => return .error vs
      | .ok arg =>
        match f.pass with
        | .positional => return .ok ⟨[arg], ∅⟩
        | .keyword => return .ok ⟨[], Dictionary.insert ∅ f.name arg⟩
    | _ => none
  | _ => none

end DirectInjector

end RequestBinding
