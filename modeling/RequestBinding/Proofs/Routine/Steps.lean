import RequestBinding.Proofs.Routine.Ends

/-!
The steps that are carried out in a run.  Main statement: every one of them is a step that the
routine consists of, so that what these steps keep, of the state and of the steps before, holds at
the end of the run.
-/
namespace RequestBinding

structure Deed (σ : Type) where
  {β : Type}
  act : σ → Option (β × σ)
  before : σ

abbrev Steps (σ : Type) := ∀ β : Type, (σ → Option (β × σ)) → Prop

namespace Routine
variable {σ α β : Type}

/-- The step that a move at the address carries out. -/
def deed? : {α : Type} → Routine σ α → Address → σ → Option (Deed σ)
  | _, step act _, [], s => some ⟨act, s⟩
  | _, both left _ _, .left :: p, s => left.deed? p s
  | _, both _ right _, .right :: p, s => right.deed? p s
  | _, _, _, _ => none

inductive Runs : Routine σ α → σ → List (Deed σ) → Routine σ α → σ → Prop
  | refl (r : Routine σ α) (s : σ) : Runs r s [] r s
  | head {r r' r'' : Routine σ α} {s s' s'' : σ} {ds : List (Deed σ)} (p : Address) :
      r.move p s = some (r', s') → Runs r' s' ds r'' s'' →
      Runs r s ((r.deed? p s).toList ++ ds) r'' s''

theorem Moves.exists_runs {r q : Routine σ α} {s t : σ} (h : Moves r s q t) :
    ∃ ds, Runs r s ds q t := by
  induction h with
  | refl r s => exact ⟨[], .refl r s⟩
  | head p hp _ ih =>
    obtain ⟨ds, runs⟩ := ih
    exact ⟨_, .head p hp runs⟩

/-- A move changes the state by a step, or not at all. -/
theorem deed?_of_move {r r' : Routine σ α} {p : Address} {s t : σ}
    (h : r.move p s = some (r', t)) : (r.deed? p s = none ∧ t = s) ∨
      ∃ (β : Type) (act : σ → Option (β × σ)) (b : β),
        r.deed? p s = some ⟨act, s⟩ ∧ act s = some (b, t) := by
  induction r generalizing p t with
  | done a => cases p <;> simp [move] at h
  | @step α β act next _ =>
    cases p with
    | nil =>
      simp only [move, Option.map_eq_some_iff, Prod.mk.injEq] at h
      obtain ⟨⟨b, t'⟩, hb, _, rfl⟩ := h
      exact .inr ⟨β, act, b, rfl, hb⟩
    | cons q p => simp [move] at h
  | pause next _ =>
    cases p with
    | nil =>
      simp only [move, Option.some.injEq, Prod.mk.injEq] at h
      exact .inl ⟨rfl, h.2.symm⟩
    | cons q p => simp [move] at h
  | both left right next ihl ihr _ =>
    cases p with
    | nil =>
      simp only [move] at h
      split at h
      · simp only [Option.some.injEq, Prod.mk.injEq] at h
        exact .inl ⟨rfl, h.2.symm⟩
      · cases h
    | cons q p =>
      cases q with
      | left =>
        simp only [move, Option.map_eq_some_iff, Prod.mk.injEq] at h
        obtain ⟨⟨l, t'⟩, hl, _, rfl⟩ := h
        exact ihl hl
      | right =>
        simp only [move, Option.map_eq_some_iff, Prod.mk.injEq] at h
        obtain ⟨⟨r, t'⟩, hr, _, rfl⟩ := h
        exact ihr hr

/-- All steps of the routine, in whatever way it goes on, are of the class. -/
def Consists (P : Steps σ) : {α : Type} → Routine σ α → Prop
  | _, done _ => True
  | _, step act next => P _ act ∧ ∀ b, Consists P (next b)
  | _, pause next => Consists P next
  | _, both left right next =>
    Consists P left ∧ Consists P right ∧ ∀ b c, Consists P (next b c)

section
variable {P : Steps σ}

theorem Consists.mono {Q : Steps σ} {r : Routine σ α} (h : r.Consists P)
    (le : ∀ (β : Type) (act : σ → Option (β × σ)), P β act → Q β act) : r.Consists Q := by
  induction r with
  | done a => exact trivial
  | step act k ih => exact ⟨le _ act h.1, fun b => ih b (h.2 b)⟩
  | pause k ih => exact ih h
  | both left right k ihl ihr ih => exact ⟨ihl h.1, ihr h.2.1, fun b c => ih b c (h.2.2 b c)⟩

theorem Consists.bind {r : Routine σ α} {f : α → Routine σ β} (h : r.Consists P)
    (next : ∀ a, (f a).Consists P) : (r.bind f).Consists P := by
  induction r with
  | done a => exact next a
  | step act k ih => exact ⟨h.1, fun b => ih b (h.2 b) next⟩
  | pause k ih => exact ih h next
  | both left right k _ _ ih => exact ⟨h.1, h.2.1, fun b c => ih b c (h.2.2 b c) next⟩

theorem consists_await {act : σ → Option (α × σ)} (h : P α act) : (await act).Consists P :=
  ⟨h, fun _ => trivial⟩

theorem consists_act {f : StateM σ α} (h : P α fun s => some (f s)) : (act f).Consists P :=
  consists_await h

theorem consists_pauses (k : Nat) : (pauses k).Consists P := by
  induction k with
  | zero => exact trivial
  | succ k ih => exact ih

theorem consists_all {rs : List (Routine σ α)} (h : ∀ r ∈ rs, r.Consists P) :
    (all rs).Consists P := by
  induction rs with
  | nil => exact trivial
  | cons r rs ih =>
    exact ⟨h r (by simp), ih fun q hq => h q (by simp [hq]), fun _ _ => trivial⟩

theorem Consists.deed {r : Routine σ α} (h : r.Consists P) {p : Address} {s : σ} {d : Deed σ}
    (hd : r.deed? p s = some d) : P _ d.act := by
  induction r generalizing p with
  | done a => cases p <;> simp [deed?] at hd
  | step act next _ =>
    cases p with
    | nil =>
      cases hd
      exact h.1
    | cons q p => simp [deed?] at hd
  | pause next _ => cases p <;> simp [deed?] at hd
  | both left right next ihl ihr _ =>
    cases p with
    | nil => simp [deed?] at hd
    | cons q p =>
      cases q with
      | left => exact ihl h.1 hd
      | right => exact ihr h.2.1 hd

theorem Consists.move {r r' : Routine σ α} (h : r.Consists P) {p : Address} {s t : σ}
    (hp : r.move p s = some (r', t)) : r'.Consists P := by
  have rest := rest_of_move hp
  clear hp
  induction rest with
  | step act next b => exact h.2 b
  | pause next => exact h
  | left r next _ ih => exact ⟨ih h.1, h.2⟩
  | right l next _ ih => exact ⟨h.1, ih h.2.1, h.2.2⟩
  | join b c next => exact h.2.2 b c

/-- What each step keeps, of the state and of the steps before it, is kept in a run. -/
theorem Runs.keeps {J : List (Deed σ) → σ → Prop}
    (step : ∀ (ds : List (Deed σ)) (s t : σ) (β : Type) (act : σ → Option (β × σ)) (b : β),
      P β act → J ds s → act s = some (b, t) → J (ds ++ [⟨act, s⟩]) t)
    {r q : Routine σ α} {s t : σ} {before ds : List (Deed σ)} (h : Runs r s ds q t)
    (consists : r.Consists P) (start : J before s) : J (before ++ ds) t := by
  induction h generalizing before with
  | refl r s => simpa using start
  | @head r r' q s u t ds p hp _ ih =>
    rcases deed?_of_move hp with ⟨none, rfl⟩ | ⟨β, act, b, some, hb⟩
    · rw [none]
      exact ih (consists.move hp) start
    · have here := step before s u β act b (consists.deed some) start hb
      have rest := ih (consists.move hp) here
      rw [some]
      simpa using rest

theorem Consists.keeps {J : σ → Prop}
    (step : ∀ (s t : σ) (β : Type) (act : σ → Option (β × σ)) (b : β),
      P β act → J s → act s = some (b, t) → J t)
    {r q : Routine σ α} (h : r.Consists P) {s t : σ} (moves : Moves r s q t) (start : J s) :
    J t := by
  induction moves with
  | refl r s => exact start
  | head p hp _ ih =>
    refine ih (h.move hp) ?_
    rcases deed?_of_move hp with ⟨_, rfl⟩ | ⟨β, act, b, some, hb⟩
    · exact start
    · exact step _ _ β act b (h.deed some) start hb

end

end Routine

end RequestBinding
