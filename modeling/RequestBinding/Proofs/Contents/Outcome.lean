import RequestBinding.Proofs.Compiled.Alike
import RequestBinding.Proofs.Contents.Reading
import RequestBinding.Proofs.Injector.Rule

/-!
What a compiled handler comes to, by contents and without a session.  The fields are gone through in
the order of declaration, and each dependency is computed anew wherever it is needed.  Main
statement: the outcome does not depend on how dependencies are to be resolved.
-/
namespace RequestBinding
variable {n : Nat}

/-- What the calls of a handler compute from the contents of their arguments. -/
abbrev Compute := CallContents → Except Fault Value

/-- The calls of a handler give plain data or a fault, and these depend on the contents of the
arguments only. -/
def Handler.Computes (h : Handler n) (compute : Compute) : Prop :=
  ∀ i, h.reply i = (compute (i.args.contents i.uploads)).map fun v => .arg (.value v)

/-- Whatever the calls of a handler give depends on the contents of the arguments only, and is plain
data or a fault. -/
def Handler.Deterministic (h : Handler n) : Prop := ∃ compute, h.Computes compute

section
variable {δ ε : Type}

def outcomeAfter (r : Request) (resolve : δ → Except Fault Value) :
    List (Field δ) → CallContents → List Violation → Except Fault CallContents
  | [], c, vs => if vs = [] then .ok c else .error (.validation vs)
  | f :: fs, c, vs =>
    match f.feed with
    | .request => outcomeAfter r resolve fs (c.push f.pass f.name (.request r)) vs
    | .extract e =>
      match e.reading r with
      | .ok content => outcomeAfter r resolve fs (c.push f.pass f.name content) vs
      | .error ws => outcomeAfter r resolve fs c (vs ++ ws)
    | .dependency d =>
      match resolve d with
      | .ok v => outcomeAfter r resolve fs (c.push f.pass f.name (.value v)) vs
      | .error fault => .error (fault.after vs)

theorem outcomeAfter_congr {r : Request} {R : δ → ε → Prop} {fs : List (Field δ)}
    {gs : List (Field ε)} (alike : List.Forall₂ (Field.Alike R) fs gs)
    {resolve : δ → Except Fault Value} {resolve' : ε → Except Fault Value}
    (h : ∀ f ∈ fs, ∀ g ∈ gs, ∀ d e, f.feed = .dependency d → g.feed = .dependency e → R d e →
      resolve d = resolve' e)
    (c : CallContents) (vs : List Violation) :
    outcomeAfter r resolve fs c vs = outcomeAfter r resolve' gs c vs := by
  induction alike generalizing c vs with
  | nil => rfl
  | @cons f g fs gs hfg _ ih =>
    have ih := ih fun f hf g hg => h f (List.mem_cons_of_mem _ hf) g (List.mem_cons_of_mem _ hg)
    have here := h f (by simp) g (by simp)
    obtain ⟨name, kind, feed⟩ := hfg
    simp only [outcomeAfter, name, Field.pass, kind, ih]
    generalize f.feed = x at feed here ⊢
    generalize g.feed = y at feed here ⊢
    cases feed with
    | request => rfl
    | extract e => rfl
    | dependency related => simp only [here _ _ rfl rfl related]

end

namespace Compiled

open Classical in
noncomputable def answer (compute : Fin n → Compute) (r : Request) (c : Compiled n) :
    Except Fault Value :=
  (outcomeAfter r
    (fun d => if d ∈ c.needs then answer compute r d.target else .error (.internal ""))
    c.binding.fields {} []).bind (compute c.binding.handler)
termination_by sizeOf c
decreasing_by exact sizeOf_target_lt ‹_›

noncomputable def outcome (compute : Fin n → Compute) (r : Request) (c : Compiled n) :
    Except Fault CallContents :=
  outcomeAfter r (fun d => d.target.answer compute r) c.binding.fields {} []

theorem answer_eq (compute : Fin n → Compute) (r : Request) (c : Compiled n) :
    c.answer compute r = (c.outcome compute r).bind (compute c.binding.handler) := by
  have alike : List.Forall₂ (Field.Alike Eq) c.binding.fields c.binding.fields :=
    List.forall₂_same.2 fun f _ => ⟨rfl, rfl, Feed.alike_refl (fun _ => rfl) f.feed⟩
  rw [answer, outcome, outcomeAfter_congr alike]
  rintro f hf _ _ d _ hd _ rfl
  exact if_pos (mem_needs_iff.2 ⟨f, hf, hd⟩)

/-- It makes no difference whether the settings let dependencies be resolved side by side. -/
theorem Faithful.outcome_eq {catalogue : Catalogue n} {config : Config n} {route : RoutePattern}
    {method : Method} {b : Bool} {x y : Compiled n}
    (hx : Faithful catalogue config route method x)
    (hy : Faithful catalogue (config.withConcurrent b) route method y)
    (same : x.binding.handler = y.binding.handler) (compute : Fin n → Compute) (r : Request) :
    x.outcome compute r = y.outcome compute r := by
  induction x using Compiled.induction generalizing y with
  | step x ih =>
    have alike := (hx x .root).alike (hy y .root) same
    refine outcomeAfter_congr alike (fun f hf g hg d e hd he depends => ?_) {} []
    have handler := congrArg Depends.handler depends
    have need := mem_needs_iff.2 ⟨f, hf, hd⟩
    have need' := mem_needs_iff.2 ⟨g, hg, he⟩
    rw [answer_eq, answer_eq, show d.target.binding.handler = e.target.binding.handler from handler]
    congr 1
    exact ih d need (hx.part (.need .root need)) (hy.part (.need .root need')) handler

end Compiled

end RequestBinding
