import RequestBinding.Routine.Schedule

/-!
What a routine comes to in whatever order its parts move.  Main statements: a routine that is
followed by another ends when both do, and a routine ends if it never gets stuck.
-/
namespace RequestBinding.Routine
variable {σ α β : Type}

@[simp] theorem pure_eq_done (a : α) : (pure a : Routine σ α) = done a := rfl

@[simp] theorem bind_eq_bind (r : Routine σ α) (f : α → Routine σ β) : r >>= f = r.bind f := rfl

@[simp] theorem done_bind (a : α) (f : α → Routine σ β) : (done a).bind f = f a := rfl

@[simp] theorem step_bind {γ : Type} (act : σ → Option (γ × σ)) (next : γ → Routine σ α)
    (f : α → Routine σ β) : (step act next).bind f = step act fun c => (next c).bind f := rfl

@[simp] theorem pause_bind (next : Routine σ α) (f : α → Routine σ β) :
    (pause next).bind f = pause (next.bind f) := rfl

@[simp] theorem both_bind {γ δ : Type} (l : Routine σ γ) (r : Routine σ δ)
    (next : γ → δ → Routine σ α) (f : α → Routine σ β) :
    (both l r next).bind f = both l r fun c d => (next c d).bind f := rfl

theorem eq_done_of_movable {r : Routine σ α} {a : α} {s : σ} (h : r.result? = some a) :
    r.movable s = [] := by
  rw [result?_eq_some_iff] at h
  simp [h, movable]

theorem move_bind {r : Routine σ α} (h : r.result? = none) (f : α → Routine σ β) (p : Address)
    (s : σ) : (r.bind f).move p s = (r.move p s).map fun q => (q.1.bind f, q.2) := by
  cases r with
  | done a => simp at h
  | step act next =>
    cases p with
    | nil => cases ha : act s <;> simp [move, ha]
    | cons q p => simp [move]
  | pause next => cases p <;> simp [move]
  | both l r next =>
    cases p with
    | nil => cases hl : l.result? <;> cases hr : r.result? <;> simp [move, hl, hr]
    | cons side p =>
      cases side with
      | left => cases hl : l.move p s <;> simp [move, hl]
      | right => cases hr : r.move p s <;> simp [move, hr]

theorem movable_bind {r : Routine σ α} (h : r.result? = none) (f : α → Routine σ β) (s : σ) :
    (r.bind f).movable s = r.movable s := by
  cases r with
  | done a => simp at h
  | step act next => simp [movable]
  | pause next => simp [movable]
  | both l r next => simp [movable]

theorem bind_assoc {γ : Type} (r : Routine σ α) (f : α → Routine σ β) (g : β → Routine σ γ) :
    (r.bind f).bind g = r.bind fun a => (f a).bind g := by
  induction r with
  | done a => rfl
  | step act next ih => exact congrArg (step act) (funext fun c => ih c f)
  | pause next ih => exact congrArg pause (ih f)
  | both l r next _ _ ih => exact congrArg (both l r) (funext fun c => funext fun d => ih c d f)

/-- Moves of a routine that is followed by another are moves of the first one, or it has ended and
the others are moves of the second one. -/
theorem Moves.bind_cases {r : Routine σ α} {f : α → Routine σ β} {q : Routine σ β} {s t : σ}
    (h : Moves (r.bind f) s q t) : (∃ r', Moves r s r' t ∧ q = r'.bind f) ∨
      ∃ a u, Moves r s (done a) u ∧ Moves (f a) u q t := by
  generalize hb : r.bind f = b at h
  induction h generalizing r with
  | refl b s => exact .inl ⟨r, .refl r s, hb.symm⟩
  | @head b b' b'' s s' s'' p hp rest ih =>
    subst hb
    cases hr : r.result? with
    | some a =>
      obtain rfl := result?_eq_some_iff.1 hr
      exact .inr ⟨a, s, .refl _ s, .head p hp rest⟩
    | none =>
      rw [move_bind hr, Option.map_eq_some_iff] at hp
      obtain ⟨⟨r', u⟩, hp, eq⟩ := hp
      cases eq
      rcases ih rfl with ⟨r'', moves, rfl⟩ | ⟨a, u, moves, rest⟩
      · exact .inl ⟨r'', .head p hp moves, rfl⟩
      · exact .inr ⟨a, u, .head p hp moves, rest⟩

theorem Moves.eq_of_done {a : α} {q : Routine σ α} {s t : σ} (h : Moves (done a) s q t) :
    q = done a ∧ t = s := by
  cases h with
  | refl => exact ⟨rfl, rfl⟩
  | head p hp _ => cases p <;> simp [move] at hp

theorem Moves.of_act {f : StateM σ α} {q : Routine σ α} {s t : σ} (h : Moves (act f) s q t) :
    t = s ∨ q = done (f s).1 ∧ t = (f s).2 := by
  cases h with
  | refl => exact .inl rfl
  | head p hp rest =>
    cases p with
    | nil =>
      cases hp
      exact .inr rest.eq_of_done
    | cons q p => nomatch hp

theorem Moves.bind_answer {r : Routine σ α} {f : α → Routine σ β} {b : β} {s t : σ}
    (h : Moves (r.bind f) s (done b) t) :
    ∃ a u, Moves r s (done a) u ∧ Moves (f a) u (done b) t := by
  rcases h.bind_cases with ⟨r', moves, eq⟩ | answered
  · cases r' with
    | done a => exact ⟨a, t, moves, eq ▸ .refl _ t⟩
    | _ => nomatch eq
  · exact answered

/-- However the parts move, the routine comes to an end, and with an answer and in a state for which
`post` holds. -/
inductive Ends (post : α → σ → Prop) : Routine σ α → σ → Prop
  | ended (a : α) (s : σ) : post a s → Ends post (done a) s
  | going {r : Routine σ α} {s : σ} : r.movable s ≠ [] →
      (∀ p r' s', r.move p s = some (r', s') → Ends post r' s') → Ends post r s

def ComesTo (r : Routine σ α) (s : σ) (a : α) (t : σ) : Prop := r.Ends (fun b u => b = a ∧ u = t) s

theorem Ends.bind {mid : α → σ → Prop} {post : β → σ → Prop} {r : Routine σ α} {s : σ}
    {f : α → Routine σ β} (h : r.Ends mid s) (next : ∀ a t, mid a t → (f a).Ends post t) :
    (r.bind f).Ends post s := by
  induction h with
  | ended a s h => exact next a s h
  | @going r s hm _ ih =>
    have unended : r.result? = none := by
      cases hr : r.result? with
      | none => rfl
      | some a => exact absurd (eq_done_of_movable hr) hm
    refine .going (by rwa [movable_bind unended]) fun p q t hq => ?_
    rw [move_bind unended, Option.map_eq_some_iff] at hq
    obtain ⟨⟨r', t'⟩, hr, heq⟩ := hq
    cases heq
    exact ih p r' t' hr

theorem ends_step {γ : Type} {post : α → σ → Prop} {act : σ → Option (γ × σ)}
    {next : γ → Routine σ α} {s t : σ} {c : γ} (h : act s = some (c, t))
    (rest : (next c).Ends post t) : (step act next).Ends post s := by
  refine .going (by simp [movable, h]) fun p r' s' hp => ?_
  cases p with
  | nil =>
    simp only [move, h, Option.map_some, Option.some.injEq, Prod.mk.injEq] at hp
    obtain ⟨rfl, rfl⟩ := hp
    exact rest
  | cons q p => simp [move] at hp

theorem ends_act {post : α → σ → Prop} {f : StateM σ α} {s : σ} (h : post (f s).1 (f s).2) :
    (act f).Ends post s := by
  have allowed : (fun s => some (f s)) s = some ((f s).1, (f s).2) := rfl
  exact ends_step allowed (.ended _ _ h)

theorem ends_pauses (k : Nat) (s : σ) : (pauses k).Ends (fun _ t => t = s) s := by
  induction k with
  | zero => exact .ended _ s rfl
  | succ k ih =>
    refine .going (by simp [pauses, movable]) fun p r' t hp => ?_
    cases p with
    | nil =>
      cases hp
      exact ih
    | cons q p => simp [pauses, move] at hp

theorem comesTo_done (a : α) (s : σ) : (done a : Routine σ α).ComesTo s a s := .ended a s ⟨rfl, rfl⟩

theorem comesTo_act (f : StateM σ α) (s : σ) : (act f).ComesTo s (f s).1 (f s).2 :=
  ends_act ⟨rfl, rfl⟩

theorem ComesTo.bind {r : Routine σ α} {s t u : σ} {a : α} {f : α → Routine σ β} {b : β}
    (h : r.ComesTo s a t) (next : (f a).ComesTo t b u) : (r.bind f).ComesTo s b u := by
  refine Ends.bind h fun a' t' ⟨ha, ht⟩ => ?_
  rw [ha, ht]
  exact next

/-- Wherever some order of moves stops, the routine has ended. -/
theorem Ends.stops {post : α → σ → Prop} {r r' : Routine σ α} {s t : σ} (h : r.Ends post s)
    (moves : Moves r s r' t) (stuck : r'.movable t = []) : ∃ a, r' = done a ∧ post a t := by
  induction moves with
  | refl r s =>
    cases h with
    | ended a s h => exact ⟨a, rfl, h⟩
    | going hm _ => exact absurd stuck hm
  | head p hp _ ih =>
    cases h with
    | ended a s _ => cases p <;> simp [move] at hp
    | going _ next => exact ih (next _ _ _ hp) stuck

/-- An answer that some order of moves comes to satisfies what every order does. -/
theorem Ends.of_moves {post : α → σ → Prop} {r : Routine σ α} {s t : σ} {a : α}
    (h : r.Ends post s) (moves : Moves r s (done a) t) : post a t := by
  obtain ⟨b, eq, hb⟩ := h.stops moves rfl
  cases eq
  exact hb

/-- A run in the order of turns comes to an answer that satisfies what every order does. -/
theorem Ends.run {post : α → σ → Prop} {r : Routine σ α} {s : σ} (h : r.Ends post s) :
    ∃ a t, r.run s = some (a, t) ∧ post a t := by
  cases hr : r.run s with
  | some q => exact ⟨q.1, q.2, rfl, h.of_moves (moves_of_run hr)⟩
  | none =>
    obtain ⟨r', s', moves, unended, stuck⟩ := stuck_of_run hr
    obtain ⟨a, rfl, _⟩ := h.stops moves stuck
    simp at unended

/-- A routine ends if, wherever it stops, it has ended; each move leaves less work. -/
theorem ends_of_stops {post : α → σ → Prop} {r : Routine σ α} {s : σ}
    (h : ∀ r' s', Moves r s r' s' → r'.movable s' = [] → ∃ a, r' = done a ∧ post a s') :
    r.Ends post s := by
  induction acc r generalizing s with
  | intro r _ ih =>
    by_cases hm : r.movable s = []
    · obtain ⟨a, rfl, ha⟩ := h r s (.refl r s) hm
      exact .ended a s ha
    · refine .going hm fun p r' s' hp => ih r' (rest_of_move hp) fun q t moves => ?_
      exact h q t (.head p hp moves)

theorem Ends.of_answers {post post' : α → σ → Prop} {r : Routine σ α} {s : σ}
    (h : r.Ends post s) (answers : ∀ a t, Moves r s (done a) t → post' a t) : r.Ends post' s := by
  refine ends_of_stops fun r' t moves stuck => ?_
  obtain ⟨a, rfl, _⟩ := h.stops moves stuck
  exact ⟨a, rfl, answers a t moves⟩

theorem Ends.mono {post post' : α → σ → Prop} {r : Routine σ α} {s : σ} (h : r.Ends post s)
    (weaken : ∀ a t, post a t → post' a t) : r.Ends post' s :=
  h.of_answers fun a t moves => weaken a t (h.of_moves moves)

def along : List Address → Routine σ α → σ → Option (Routine σ α × σ)
  | [], r, s => some (r, s)
  | p :: ps, r, s => (r.move p s).bind fun q => along ps q.1 q.2

theorem moves_of_along {ps : List Address} {r r' : Routine σ α} {s s' : σ}
    (h : along ps r s = some (r', s')) : Moves r s r' s' := by
  induction ps generalizing r s with
  | nil =>
    simp only [along, Option.some.injEq, Prod.mk.injEq] at h
    obtain ⟨rfl, rfl⟩ := h
    exact .refl r s
  | cons p ps ih =>
    simp only [along, Option.bind_eq_some_iff] at h
    obtain ⟨⟨q, t⟩, hp, h⟩ := h
    exact .head p hp (ih h)

end RequestBinding.Routine
