import RequestBinding.Proofs.Injector.Rule
import Mathlib.Algebra.Order.PUnit

/-!
What every step keeps.  Nobody has to hold anything for a property that no single step spoils.  Main
statement: what extractors, calls and cached values keep is kept while the arguments of a handler
are made, in whatever order the parts move.
-/
namespace RequestBinding
variable {n : Nat}

/-- A property of all states.  Nothing is said about waiting. -/
def Custody.invariant {σ : Type} (I : σ → Prop) : Custody σ PUnit := .ofKeeps fun _ s => I s

/-- No single step of a handler spoils the property. -/
structure Upkeep (root : Compiled n) (r : Request) (I : Session n → Prop) : Prop where
  form : ∀ s, I s → I (Session.form r s).2
  apply : ∀ x, root.Part x → ∀ f ∈ x.binding.fields, ∀ e, f.feed = .extract e → ∀ s, I s →
    I (e.apply r s).2
  beginCall : ∀ id args s, I s → I (Session.beginCall id args s).2
  accept : ∀ reply s, I s → I (Session.accept reply s).2
  enter : ∀ id s, I s → I (Session.enter id s).2
  leave : ∀ id ticket value s, I s → I (Session.leave id ticket value s).2

section
variable {I : Session n → Prop} {root : Compiled n} {catalogue : Catalogue n} {r : Request}
  {b : Nat} {α : Type}

theorem Custody.free_invariant {σ : Type} {I : σ → Prop} {g : PUnit} : (invariant I).Free g :=
  free_ofKeeps

theorem meets_kept {act : StateM (Session n) α} (h : ∀ s, I s → I (act s).2) :
    (Custody.invariant I).Meets (Routine.act act) b 0 fun a _ => ∃ s, I s ∧ (act s).1 = a :=
  Custody.meets_act fun _ s holds => ⟨0, h s holds, s, holds, rfl⟩

theorem meets_callKept (beginCall : ∀ id args s, I s → I (Session.beginCall id args s).2)
    (accept : ∀ reply s, I s → I (Session.accept reply s).2) (id : Fin n) (args : CallArgs) :
    (Custody.invariant I).Meets (catalogue.call id args) b 0 fun _ _ => True := by
  refine (Custody.meets_pauses _).bind fun _ _ _ => ?_
  refine (meets_kept (beginCall id args)).bind fun i _ _ => ?_
  refine (Custody.meets_pauses _).bind fun _ _ _ => ?_
  cases (catalogue id).reply i with
  | ok reply => exact (meets_kept (accept reply)).bind fun _ _ _ => trivial
  | error fault => exact trivial

namespace Upkeep

theorem meets_resolveCached (h : Upkeep root r I) (id : Fin n)
    {make : Routine (Session n) Resolved}
    (made : (Custody.invariant I).Meets make b 0 fun _ _ => True) :
    (Custody.invariant I).Meets (resolveCached id make) b 0 fun _ _ => True := by
  refine (meets_kept (h.enter id)).bind fun ticket _ _ => ?_
  have turned : (Custody.invariant I).Meets (Routine.await (Session.turn id ticket)) b 0
      fun _ _ => True := by
    refine fun _ s holds => ⟨fun _ orderly => orderly.elim, fun found t ht => ?_⟩
    obtain ⟨_, _, eq⟩ := Option.map_eq_some_iff.1 ht
    cases eq
    exact ⟨0, holds, trivial⟩
  refine turned.bind fun found _ _ => ?_
  cases found with
  | some a => exact trivial
  | none => exact made.bind fun out _ _ =>
      (meets_kept (h.leave id ticket out.toOption)).bind fun _ _ _ => trivial

theorem fares (h : Upkeep root r I) {x : Compiled n} (hx : root.Part x)
    (made : ∀ d ∈ x.needs,
      (Custody.invariant I).Meets (d.target.produce catalogue r) b 0 fun _ _ => True) :
    Fares (Custody.invariant I) catalogue r b 0 (fun e y _ => ∃ s, I s ∧ (e.apply r s).1 = y)
      (fun _ _ _ => True) x.binding.fields where
  form := (meets_kept h.form).mono fun _ _ _ => rfl
  extract f hf e he := meets_kept (h.apply x hx f hf e he)
  resolve f hf d hd := by
    have need := made d (Compiled.mem_needs_iff.2 ⟨f, hf, hd⟩)
    rw [resolve_linkNeed]
    refine Custody.Meets.mono ?_ fun _ _ => returns_zero.2
    split
    · exact h.meets_resolveCached _ need
    · exact need
  free_share := Custody.free_invariant
  free_bound _ _ _ _ := Custody.free_invariant
  free_resolved _ _ _ _ := Custody.free_invariant

theorem meets_produce (h : Upkeep root r I) {x : Compiled n} (hx : root.Part x) :
    (Custody.invariant I).Meets (x.produce catalogue r) b 0 fun _ _ => True := by
  induction x using Compiled.induction with
  | step x ih =>
    have made := (h.fares hx fun d hd => ih d hd (hx.need hd)).inject fun _ => rfl
    refine made.bind fun out _ _ => ?_
    cases out with
    | ok args => exact meets_callKept h.beginCall h.accept _ args
    | error fault => exact trivial

theorem fares_root (h : Upkeep root r I) (catalogue : Catalogue n) :
    Fares (Custody.invariant I) catalogue r b 0 (fun e y _ => ∃ s, I s ∧ (e.apply r s).1 = y)
      (fun _ _ _ => True) root.binding.fields :=
  h.fares .root fun _ hd => h.meets_produce (.need .root hd)

/-- At any moment while the arguments of the handler are made, the property holds. -/
theorem of_moves (h : Upkeep root r I) {q : Routine (Session n) Injected} {s t : Session n}
    (holds : I s) (moves : Routine.Moves ((root.injector catalogue).inject r) s q t) : I t := by
  have meets := (h.fares_root catalogue (b := 0)).inject fun _ => rfl
  obtain ⟨_, holds, _⟩ := meets.moves (f := 0) holds moves
  exact holds

end Upkeep

end

end RequestBinding
