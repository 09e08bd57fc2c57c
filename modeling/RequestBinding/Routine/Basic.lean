/-!
Work on a shared state in small steps.  A routine may wait for the state to allow its next step, may
give way, and may split into two that go on side by side.  A move is one piece of work somewhere in
a routine, and any order of moves is a way to carry the routine out.  Main statements: a move is
possible exactly where `movable` says so, and each move leaves less work in a well-founded order, so
that no order of moves goes on for ever.
-/
namespace RequestBinding

/-- Work on a state of type `σ` that ends with an `α`. -/
inductive Routine (σ : Type) : Type → Type 1 where
  | done {α : Type} (a : α) : Routine σ α
  /-- A step that the state may not allow yet. -/
  | step {α β : Type} (act : σ → Option (β × σ)) (next : β → Routine σ α) : Routine σ α
  /-- Give way once. -/
  | pause {α : Type} (next : Routine σ α) : Routine σ α
  /-- Two routines side by side. -/
  | both {α β γ : Type} (left : Routine σ β) (right : Routine σ γ) (next : β → γ → Routine σ α) :
      Routine σ α

/-- One of two routines side by side. -/
inductive Side where
  | left
  | right
  deriving DecidableEq, Repr

/-- Where a part of a routine stands, from the whole down. -/
abbrev Address := List Side

namespace Routine
variable {σ α β γ : Type}

def bind : Routine σ α → (α → Routine σ β) → Routine σ β
  | done a, f => f a
  | step act next, f => step act fun b => (next b).bind f
  | pause next, f => pause (next.bind f)
  | both left right next, f => both left right fun b c => (next b c).bind f

instance : Monad (Routine σ) where
  pure := done
  bind := bind

def await (act : σ → Option (α × σ)) : Routine σ α := step act done

def act (f : StateM σ α) : Routine σ α := await fun s => some (f s)

def pauses : Nat → Routine σ Unit
  | 0 => done ()
  | n + 1 => pause (pauses n)

/-- Routines side by side; their results in order. -/
def all : List (Routine σ α) → Routine σ (List α)
  | [] => done []
  | r :: rs => both r (all rs) fun a as => done (a :: as)

def result? : Routine σ α → Option α
  | done a => some a
  | _ => none

@[simp] theorem result?_done (a : α) : (done a : Routine σ α).result? = some a := rfl

theorem result?_eq_some_iff {r : Routine σ α} {a : α} : r.result? = some a ↔ r = done a := by
  cases r <;> simp [result?]

/-- One piece of work at an address: a step that the state allows, a pause, or going on after two
routines that have ended. -/
def move : {α : Type} → Routine σ α → Address → σ → Option (Routine σ α × σ)
  | _, step act next, [], s => (act s).map fun (b, s) => (next b, s)
  | _, pause next, [], s => some (next, s)
  | _, both left right next, [], s =>
    match left.result?, right.result? with
    | some b, some c => some (next b c, s)
    | _, _ => none
  | _, both left right next, .left :: p, s =>
    (left.move p s).map fun (left, s) => (both left right next, s)
  | _, both left right next, .right :: p, s =>
    (right.move p s).map fun (right, s) => (both left right next, s)
  | _, _, _, _ => none

def movable : {α : Type} → Routine σ α → σ → List Address
  | _, done _, _ => []
  | _, step act _, s => if (act s).isSome then [[]] else []
  | _, pause _, _ => [[]]
  | _, both left right _, s =>
    (if left.result?.isSome && right.result?.isSome then [[]] else [])
      ++ (left.movable s).map (.left :: ·) ++ (right.movable s).map (.right :: ·)

theorem mem_movable_iff {r : Routine σ α} {p : Address} {s : σ} :
    p ∈ r.movable s ↔ (r.move p s).isSome = true := by
  induction r generalizing p with
  | done a => cases p <;> simp [movable, move]
  | step act next _ =>
    cases p with
    | nil => by_cases h : (act s).isSome <;> simp [movable, move, h]
    | cons q p => by_cases h : (act s).isSome <;> simp [movable, move, h]
  | pause next _ => cases p <;> simp [movable, move]
  | both left right next ihl ihr _ =>
    cases p with
    | nil =>
      cases hl : left.result? <;> cases hr : right.result? <;> simp [movable, move, hl, hr]
    | cons q p =>
      cases q with
      | left => simp [movable, move, ihl]
      | right => simp [movable, move, ihr]

/-- One piece of work of the first routine is done, and the second is what remains. -/
inductive Rest : {α : Type} → Routine σ α → Routine σ α → Prop
  | step {α β : Type} (act : σ → Option (β × σ)) (next : β → Routine σ α) (b : β) :
      Rest (step act next) (next b)
  | pause {α : Type} (next : Routine σ α) : Rest (pause next) next
  | left {α β γ : Type} {l l' : Routine σ β} (r : Routine σ γ) (next : β → γ → Routine σ α) :
      Rest l l' → Rest (both l r next) (both l' r next)
  | right {α β γ : Type} (l : Routine σ β) {r r' : Routine σ γ} (next : β → γ → Routine σ α) :
      Rest r r' → Rest (both l r next) (both l r' next)
  | join {α β γ : Type} (b : β) (c : γ) (next : β → γ → Routine σ α) :
      Rest (both (done b) (done c) next) (next b c)

theorem rest_of_move {r r' : Routine σ α} {p : Address} {s s' : σ}
    (h : r.move p s = some (r', s')) : Rest r r' := by
  induction r generalizing p s' with
  | done a => cases p <;> simp [move] at h
  | step act next _ =>
    cases p with
    | nil =>
      simp only [move, Option.map_eq_some_iff, Prod.mk.injEq] at h
      obtain ⟨⟨b, _⟩, _, rfl, _⟩ := h
      exact .step act next b
    | cons q p => simp [move] at h
  | pause next _ =>
    cases p with
    | nil =>
      simp only [move, Option.some.injEq, Prod.mk.injEq] at h
      exact h.1 ▸ .pause next
    | cons q p => simp [move] at h
  | both left right next ihl ihr _ =>
    cases p with
    | nil =>
      simp only [move] at h
      split at h
      · next b c hb hc =>
        rw [result?_eq_some_iff] at hb hc
        simp only [Option.some.injEq, Prod.mk.injEq] at h
        rw [hb, hc, ← h.1]
        exact .join b c next
      · nomatch h
    | cons q p =>
      cases q with
      | left =>
        simp only [move, Option.map_eq_some_iff, Prod.mk.injEq] at h
        obtain ⟨⟨l, t⟩, hl, rfl, _⟩ := h
        exact .left right next (ihl hl)
      | right =>
        simp only [move, Option.map_eq_some_iff, Prod.mk.injEq] at h
        obtain ⟨⟨l, t⟩, hl, rfl, _⟩ := h
        exact .right left next (ihr hl)

/-- The order in which less work remains. -/
def Smaller (r' r : Routine σ α) : Prop := Rest r r'

theorem acc_done (a : α) : Acc Smaller (done a : Routine σ α) :=
  ⟨_, fun _ h => nomatch h⟩

theorem acc_both {l : Routine σ β} {r : Routine σ γ} {next : β → γ → Routine σ α}
    (hl : Acc Smaller l) (hr : Acc Smaller r) (hn : ∀ b c, Acc Smaller (next b c)) :
    Acc Smaller (both l r next) := by
  induction hl generalizing r with
  | intro l _ ihl =>
    induction hr with
    | intro r hr ihr =>
      refine ⟨_, fun q h => ?_⟩
      cases h with
      | left _ _ h => exact ihl _ h ⟨r, hr⟩
      | right _ _ h => exact ihr _ h
      | join b c => exact hn b c

theorem acc (r : Routine σ α) : Acc Smaller r := by
  induction r with
  | done a => exact acc_done a
  | step act next ih => exact ⟨_, fun q h => by cases h with | step _ _ b => exact ih b⟩
  | pause next ih => exact ⟨_, fun q h => by cases h with | pause => exact ih⟩
  | both l r next ihl ihr ihn => exact acc_both ihl ihr ihn

instance : WellFoundedRelation (Routine σ α) := ⟨Smaller, ⟨acc⟩⟩

inductive Moves : Routine σ α → σ → Routine σ α → σ → Prop
  | refl (r : Routine σ α) (s : σ) : Moves r s r s
  | head {r r' r'' : Routine σ α} {s s' s'' : σ} (p : Address) :
      r.move p s = some (r', s') → Moves r' s' r'' s'' → Moves r s r'' s''

end Routine

end RequestBinding
