import RequestBinding.Proofs.Routine.Ends
import Mathlib.Algebra.Group.Defs
import Mathlib.Order.WellFounded
import Mathlib.Tactic.Abel

/-!
Reasoning about routines whose parts share a state.  Each part holds a share; all shares together
say something about the state, and a part may rely on its own share whatever the others do.  Parts
that wait do so on levels, and whoever keeps others waiting on a level waits only on lower ones.
Main statements: shares are kept by every move, and if waiting is accounted for then a routine ends
in whatever order its parts move.
-/
namespace RequestBinding

/-- What shares say about a state. -/
structure Custody (σ M : Type) [AddCommMonoid M] where
  /-- All shares together fit the state. -/
  keeps : M → σ → Prop
  /-- Others may wait on the level until the holder of the share has moved. -/
  owes : M → σ → Nat → Prop
  /-- Waiting is accounted for. -/
  orderly : Prop
  not_owes_zero : ∀ s e, ¬owes 0 s e
  owes_add : ∀ g h s e, owes (g + h) s e ↔ owes g s e ∨ owes h s e

namespace Custody
variable {σ M α β ι : Type} [AddCommMonoid M] (L : Custody σ M)

/-- Nobody waits below the level for the holder of the share. -/
def Above (g : M) (b : Nat) : Prop := ∀ s e, L.owes g s e → b ≤ e

def Free (g : M) : Prop := ∀ s e, ¬L.owes g s e

/-- The holder of the share waits below the level, and below all levels where others wait for it. -/
def Stalls (own rest : M) (s : σ) (b : Nat) : Prop :=
  L.orderly → ∃ e < b, L.owes (own + rest) s e ∧ ∀ e', L.owes own s e' → e < e'

/-- Whoever carries out the routine with a share always has one that fits, ends with one that
satisfies `post`, and waits below the level only. -/
def Meets : {α : Type} → Routine σ α → Nat → M → (α → M → Prop) → Prop
  | _, .done a, _, g, post => post a g
  | _, .step act next, b, g, post => ∀ f s, L.keeps (g + f) s →
      (act s = none → L.Stalls g f s b) ∧
      ∀ c t, act s = some (c, t) → ∃ g', L.keeps (g' + f) t ∧ Meets (next c) b g' post
  | _, .pause next, b, g, post => Meets next b g post
  | _, .both l r next, b, g, post => ∃ b' ≤ b, ∃ gl gr h, g = gl + gr + h ∧ L.Above h b' ∧
      ∃ pl pr, (∀ c k, pl c k → L.Free k) ∧ (∀ d k, pr d k → L.Free k) ∧
        Meets l b' gl pl ∧ Meets r b' gr pr ∧
        ∀ c d kl kr, pl c kl → pr d kr → Meets (next c d) b (kl + kr + h) post

variable {L}

theorem Free.above {g : M} (h : L.Free g) (b : Nat) : L.Above g b := fun s e he => absurd he (h s e)

@[simp] theorem free_zero : L.Free 0 := L.not_owes_zero

theorem Free.add {g h : M} (hg : L.Free g) (hh : L.Free h) : L.Free (g + h) := fun s e he =>
  ((L.owes_add g h s e).1 he).elim (hg s e) (hh s e)

theorem Stalls.frame {g h f : M} {s : σ} {b b' : Nat} (stalls : L.Stalls g (h + f) s b')
    (above : L.Above h b') (le : b' ≤ b) : L.Stalls (g + h) f s b := by
  intro orderly
  obtain ⟨e, lt, owed, below⟩ := stalls orderly
  refine ⟨e, lt.trans_le le, by rwa [add_assoc], fun e' owes => ?_⟩
  rcases (L.owes_add g h s e').1 owes with own | other
  · exact below e' own
  · exact lt.trans_le (above s e' other)

/-- What the shares have to fit, where nothing is said about waiting. -/
def ofKeeps (keeps : M → σ → Prop) : Custody σ M where
  keeps := keeps
  owes _ _ _ := False
  orderly := False
  not_owes_zero := by simp
  owes_add := by simp

theorem free_ofKeeps {keeps : M → σ → Prop} {g : M} : (ofKeeps keeps).Free g := fun _ _ => id

theorem meets_done {a : α} {b : Nat} {g : M} {post : α → M → Prop} (h : post a g) :
    L.Meets (.done a) b g post := h

theorem Meets.mono {r : Routine σ α} {b : Nat} {g : M} {post post' : α → M → Prop}
    (h : L.Meets r b g post) (weaken : ∀ a k, post a k → post' a k) : L.Meets r b g post' := by
  induction r generalizing g with
  | done a => exact weaken a g h
  | step act next ih =>
    intro f s keeps
    refine ⟨(h f s keeps).1, fun c t hc => ?_⟩
    obtain ⟨g', keeps', h'⟩ := (h f s keeps).2 c t hc
    exact ⟨g', keeps', ih c h' weaken⟩
  | pause next ih => exact ih h weaken
  | both l r next _ _ ih =>
    obtain ⟨b', le, gl, gr, k, split, above, pl, pr, freel, freer, hl, hr, rest⟩ := h
    exact ⟨b', le, gl, gr, k, split, above, pl, pr, freel, freer, hl, hr,
      fun c d kl kr hc hd => ih c d (rest c d kl kr hc hd) weaken⟩

theorem Meets.bind {r : Routine σ α} {f : α → Routine σ β} {b : Nat} {g : M}
    {mid : α → M → Prop} {post : β → M → Prop} (h : L.Meets r b g mid)
    (next : ∀ a k, mid a k → L.Meets (f a) b k post) : L.Meets (r.bind f) b g post := by
  induction r generalizing g with
  | done a => exact next a g h
  | step act k ih =>
    intro e s keeps
    refine ⟨(h e s keeps).1, fun c t hc => ?_⟩
    obtain ⟨g', keeps', h'⟩ := (h e s keeps).2 c t hc
    exact ⟨g', keeps', ih c h' next⟩
  | pause k ih => exact ih h next
  | both l r k _ _ ih =>
    obtain ⟨b', le, gl, gr, q, split, above, pl, pr, freel, freer, hl, hr, rest⟩ := h
    exact ⟨b', le, gl, gr, q, split, above, pl, pr, freel, freer, hl, hr,
      fun c d kl kr hc hd => ih c d (rest c d kl kr hc hd) next⟩

theorem Meets.frame {r : Routine σ α} {b b' : Nat} {g h : M} {post : α → M → Prop}
    (meets : L.Meets r b' g post) (above : L.Above h b') (le : b' ≤ b) :
    L.Meets r b (g + h) fun a k => ∃ k', k = k' + h ∧ post a k' := by
  induction r generalizing g h b b' with
  | done a => exact ⟨g, rfl, meets⟩
  | step act next ih =>
    intro f s keeps
    rw [add_assoc] at keeps
    refine ⟨fun hs => ((meets (h + f) s keeps).1 hs).frame above le, fun c t hc => ?_⟩
    obtain ⟨g', keeps', meets'⟩ := (meets (h + f) s keeps).2 c t hc
    exact ⟨g' + h, by rwa [add_assoc], ih c meets' above le⟩
  | pause next ih => exact ih meets above le
  | both l r next _ _ ih =>
    obtain ⟨m, le', gl, gr, k, rfl, above', pl, pr, freel, freer, hl, hr, rest⟩ := meets
    refine ⟨m, le'.trans le, gl, gr, k + h, by abel, fun s e owes => ?_, pl, pr, freel, freer, hl,
      hr, fun c d kl kr hc hd => ?_⟩
    · rcases (L.owes_add k h s e).1 owes with own | other
      · exact above' s e own
      · exact le'.trans (above s e other)
    · have := ih c d (rest c d kl kr hc hd) above le
      rwa [add_assoc] at this

theorem meets_act {act : StateM σ α} {b : Nat} {g : M} {post : α → M → Prop}
    (h : ∀ f s, L.keeps (g + f) s → ∃ g', L.keeps (g' + f) (act s).2 ∧ post (act s).1 g') :
    L.Meets (Routine.act act) b g post := by
  intro f s keeps
  refine ⟨nofun, fun c t hc => ?_⟩
  obtain ⟨g', keeps', hg'⟩ := h f s keeps
  have eq : act s = (c, t) := Option.some.inj hc
  rw [eq] at keeps' hg'
  exact ⟨g', keeps', hg'⟩

theorem meets_act_iff {act : StateM σ α} {b : Nat} {g : M} {post : α → M → Prop} :
    L.Meets (Routine.act act) b g post ↔ ∀ f s, L.keeps (g + f) s →
      ∃ g', L.keeps (g' + f) (act s).2 ∧ post (act s).1 g' :=
  ⟨fun h f s keeps => (h f s keeps).2 _ _ rfl, meets_act⟩

theorem meets_act_bind {first : StateM σ α} {next : α → StateM σ β} {b : Nat} {g : M}
    {mid : α → M → Prop} {post : β → M → Prop} (h : L.Meets (Routine.act first) b g mid)
    (rest : ∀ a k, mid a k → L.Meets (Routine.act (next a)) b k post) :
    L.Meets (Routine.act (first >>= next)) b g post := by
  refine meets_act fun f s keeps => ?_
  obtain ⟨k, keeps', hk⟩ := meets_act_iff.1 h f s keeps
  exact meets_act_iff.1 (rest _ k hk) f _ keeps'

theorem meets_pauses (k : Nat) {b : Nat} {g : M} :
    L.Meets (Routine.pauses (σ := σ) k) b g fun _ h => h = g := by
  induction k with
  | zero => rfl
  | succ k ih => exact ih

/-- Answers of routines side by side, with the shares that they left. -/
inductive Gathered (post : ι → α → M → Prop) : List ι → List α → M → Prop
  | nil : Gathered post [] [] 0
  | cons {i : ι} {is : List ι} {a : α} {as : List α} {g h : M} :
      post i a g → Gathered post is as h → Gathered post (i :: is) (a :: as) (g + h)

theorem Gathered.free {post : ι → α → M → Prop} (free : ∀ i a g, post i a g → L.Free g)
    {is : List ι} {as : List α} {g : M} (h : Gathered post is as g) : L.Free g := by
  induction h with
  | nil => exact free_zero
  | cons h _ ih => exact (free _ _ _ h).add ih

theorem meets_all {post : ι → α → M → Prop} (free : ∀ i a g, post i a g → L.Free g)
    {f : ι → Routine σ α} {is : List ι} {b : Nat} (h : ∀ i ∈ is, L.Meets (f i) b 0 (post i)) :
    L.Meets (Routine.all (is.map f)) b 0 (Gathered post is) := by
  induction is with
  | nil => exact .nil
  | cons i is ih =>
    refine ⟨b, le_refl b, 0, 0, 0, by simp, free_zero.above b, post i, Gathered post is, free i,
      fun as k hk => hk.free free, h i (by simp), ih fun j hj => h j (by simp [hj]), ?_⟩
    intro a as k k' hk hk'
    rw [add_zero]
    exact .cons hk hk'

theorem Meets.move {r r' : Routine σ α} {b : Nat} {g f : M} {s t : σ} {post : α → M → Prop}
    {p : Address} (h : L.Meets r b g post) (keeps : L.keeps (g + f) s)
    (hp : r.move p s = some (r', t)) : ∃ g', L.keeps (g' + f) t ∧ L.Meets r' b g' post := by
  induction r generalizing p t g f b with
  | done a => cases p <;> simp [Routine.move] at hp
  | step act next _ =>
    cases p with
    | nil =>
      simp only [Routine.move, Option.map_eq_some_iff, Prod.mk.injEq] at hp
      obtain ⟨⟨c, t'⟩, hc, rfl, rfl⟩ := hp
      exact (h f s keeps).2 c _ hc
    | cons q p => simp [Routine.move] at hp
  | pause next _ =>
    cases p with
    | nil =>
      simp only [Routine.move, Option.some.injEq, Prod.mk.injEq] at hp
      obtain ⟨rfl, rfl⟩ := hp
      exact ⟨g, keeps, h⟩
    | cons q p => simp [Routine.move] at hp
  | both l r next ihl ihr _ =>
    obtain ⟨b', le, gl, gr, k, rfl, above, pl, pr, freel, freer, hl, hr, rest⟩ := h
    cases p with
    | nil =>
      simp only [Routine.move] at hp
      split at hp
      · next c d hc hd =>
        rw [Routine.result?_eq_some_iff] at hc hd
        subst hc hd
        simp only [Option.some.injEq, Prod.mk.injEq] at hp
        obtain ⟨rfl, rfl⟩ := hp
        exact ⟨_, keeps, rest c d gl gr hl hr⟩
      · cases hp
    | cons side p =>
      cases side with
      | left =>
        simp only [Routine.move, Option.map_eq_some_iff, Prod.mk.injEq] at hp
        obtain ⟨⟨l', t'⟩, hp, rfl, rfl⟩ := hp
        obtain ⟨g', keeps', h'⟩ := ihl (f := gr + k + f) hl (by convert keeps using 1; abel) hp
        exact ⟨g' + gr + k, by convert keeps' using 1; abel, b', le, g', gr, k, rfl, above, pl, pr,
          freel, freer, h', hr, rest⟩
      | right =>
        simp only [Routine.move, Option.map_eq_some_iff, Prod.mk.injEq] at hp
        obtain ⟨⟨r', t'⟩, hp, rfl, rfl⟩ := hp
        obtain ⟨g', keeps', h'⟩ := ihr (f := gl + k + f) hr (by convert keeps using 1; abel) hp
        exact ⟨gl + g' + k, by convert keeps' using 1; abel, b', le, gl, g', k, rfl, above, pl, pr,
          freel, freer, hl, h', rest⟩

theorem Meets.moves {r r' : Routine σ α} {b : Nat} {g f : M} {s t : σ} {post : α → M → Prop}
    (h : L.Meets r b g post) (keeps : L.keeps (g + f) s) (moves : Routine.Moves r s r' t) :
    ∃ g', L.keeps (g' + f) t ∧ L.Meets r' b g' post := by
  induction moves generalizing g with
  | refl => exact ⟨g, keeps, h⟩
  | head p hp _ ih =>
    obtain ⟨g', keeps', h'⟩ := h.move keeps hp
    exact ih h' keeps'

theorem Meets.answer {r : Routine σ α} {b : Nat} {g : M} {s t : σ} {a : α} {post : α → M → Prop}
    (h : L.Meets r b g post) (keeps : L.keeps g s) (moves : Routine.Moves r s (.done a) t) :
    ∃ g', L.keeps g' t ∧ post a g' := by
  obtain ⟨g', keeps', h'⟩ := h.moves (f := 0) (by simpa using keeps) moves
  exact ⟨g', by simpa using keeps', h'⟩

/-- A routine that cannot move has ended or waits on some levels; each of these is owed by somebody,
and below each level that the routine owes there is one of them. -/
theorem Meets.stopped {r : Routine σ α} {b : Nat} {g f : M} {s : σ} {post : α → M → Prop}
    (orderly : L.orderly) (h : L.Meets r b g post) (keeps : L.keeps (g + f) s)
    (stuck : r.movable s = []) :
    (∃ a, r = .done a ∧ post a g) ∨ ∃ S : Set Nat, S.Nonempty ∧
      (∀ e ∈ S, e < b ∧ L.owes (g + f) s e) ∧ ∀ e, L.owes g s e → ∃ e' ∈ S, e' < e := by
  induction r generalizing g f b with
  | done a => exact .inl ⟨a, rfl, h⟩
  | step act next _ =>
    have none : act s = none := by simpa [Routine.movable] using stuck
    obtain ⟨e, lt, owed, below⟩ := (h f s keeps).1 none orderly
    refine .inr ⟨{e}, ⟨e, rfl⟩, ?_, fun e' owes => ⟨e, rfl, below e' owes⟩⟩
    rintro _ rfl
    exact ⟨lt, owed⟩
  | pause next _ => simp [Routine.movable] at stuck
  | both l r next ihl ihr _ =>
    obtain ⟨b', le, gl, gr, k, rfl, above, pl, pr, freel, freer, hl, hr, _⟩ := h
    simp only [Routine.movable, List.append_eq_nil_iff, List.map_eq_nil_iff] at stuck
    obtain ⟨⟨unjoined, stuckl⟩, stuckr⟩ := stuck
    have total : gl + gr + k + f = gl + (gr + k + f) := by abel
    have total' : gl + gr + k + f = gr + (gl + k + f) := by abel
    have left := ihl hl (total ▸ keeps) stuckl
    have right := ihr hr (total' ▸ keeps) stuckr
    rw [← total] at left
    rw [← total'] at right
    -- what either side owes comes with a lower level of that side, what is held meanwhile is higher
    have owed {S : Set Nat} (ne : S.Nonempty) (lower : ∀ e ∈ S, e < b') (sidel : ∀ e,
        L.owes gl s e → ∃ e' ∈ S, e' < e) (sider : ∀ e, L.owes gr s e → ∃ e' ∈ S, e' < e) (e : Nat)
        (owes : L.owes (gl + gr + k) s e) : ∃ e' ∈ S, e' < e := by
      rcases (L.owes_add _ k s e).1 owes with sides | held
      · exact ((L.owes_add gl gr s e).1 sides).elim (sidel e) (sider e)
      · obtain ⟨e', he'⟩ := ne
        exact ⟨e', he', (lower e' he').trans_le (above s e held)⟩
    right
    rcases left with ⟨c, rfl, hc⟩ | ⟨S, ne, bound, side⟩ <;>
      rcases right with ⟨d, rfl, hd⟩ | ⟨T, ne', bound', side'⟩
    · simp at unjoined
    · exact ⟨T, ne', fun e he => ⟨(bound' e he).1.trans_le le, (bound' e he).2⟩,
        owed ne' (fun e he => (bound' e he).1) (fun e he => absurd he (freel c gl hc s e)) side'⟩
    · exact ⟨S, ne, fun e he => ⟨(bound e he).1.trans_le le, (bound e he).2⟩,
        owed ne (fun e he => (bound e he).1) side fun e he => absurd he (freer d gr hd s e)⟩
    · refine ⟨S ∪ T, ne.inl, ?_, owed ne.inl ?_ ?_ ?_⟩
      · rintro e (he | he)
        · exact ⟨(bound e he).1.trans_le le, (bound e he).2⟩
        · exact ⟨(bound' e he).1.trans_le le, (bound' e he).2⟩
      · rintro e (he | he)
        · exact (bound e he).1
        · exact (bound' e he).1
      · exact fun e he => (side e he).imp fun e' h => ⟨.inl h.1, h.2⟩
      · exact fun e he => (side' e he).imp fun e' h => ⟨.inr h.1, h.2⟩

/-- If waiting is accounted for, the lowest level that anybody waits on is owed by nobody. -/
theorem Meets.ends {r : Routine σ α} {b : Nat} {g : M} {s : σ} {post : α → M → Prop}
    (orderly : L.orderly) (h : L.Meets r b g post) (keeps : L.keeps g s) :
    r.Ends (fun a t => ∃ g', L.keeps g' t ∧ post a g') s := by
  refine Routine.ends_of_stops fun r' t moves stuck => ?_
  obtain ⟨g', keeps', h'⟩ := h.moves (f := 0) (by simpa using keeps) moves
  rcases h'.stopped orderly keeps' stuck with ⟨a, rfl, ha⟩ | ⟨S, ne, bound, owed⟩
  · exact ⟨a, rfl, g', by simpa using keeps', ha⟩
  · -- the lowest level in `S` is owed, but then there is a lower one in `S`
    have least := WellFounded.min_mem wellFounded_lt S ne
    obtain ⟨e', he', lt⟩ := owed _ (by simpa using (bound _ least).2)
    exact absurd lt (WellFounded.not_lt_min wellFounded_lt S he')

end Custody

end RequestBinding
