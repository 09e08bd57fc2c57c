import RequestBinding.Proofs.Extractor.Effects
import RequestBinding.Proofs.Resolution.Account
import RequestBinding.Proofs.Resolution.Tickets
import Mathlib.Algebra.Group.Prod
import Mathlib.Algebra.Order.Group.Multiset

/-!
What the parts of the work on a request hold between them: tickets, and what is left of calls.  Main
statements: together they account for all calls and cached values, and every step that is about
tickets keeps that so.
-/
namespace RequestBinding
variable {n : Nat}

/-- Tickets, and what is held of calls. -/
abbrev Share (n : Nat) := Multiset (Ticket n) × Multiset (Item n)

/-- Where one result serves all, the results that are held come with tickets. -/
def Ticketed (root : Compiled n) (tickets : Multiset (Ticket n)) (items : Multiset (Item n)) :
    Prop :=
  ∀ d, root.SharesAll d →
    items.countP (fun x => x.isMade d) ≤ tickets.countP fun x => x.serves d

theorem ticketed_cons_iff {root : Compiled n} {tickets : Multiset (Ticket n)}
    {items : Multiset (Item n)} {x : Ticket n} (h : x.stage ≠ .served) :
    Ticketed root (x ::ₘ tickets) items ↔ Ticketed root tickets items := by
  have idle : ∀ d, x.serves d = false := by simp [Ticket.serves, h]
  simp [Ticketed, idle]

theorem ticketed_read_iff {root : Compiled n} {tickets : Multiset (Ticket n)}
    {items : Multiset (Item n)} {d : Fin n} {a : Arg} :
    Ticketed root tickets (.read d a ::ₘ items) ↔ Ticketed root tickets items := by
  simp [Ticketed]

/-- The shares account for tickets and for all calls since those of `before`. -/
structure Accounts (root : Compiled n) (catalogue : Catalogue n) (solo : Bool)
    (before calls : List (Call n)) (g : Share n) (s : Session n) : Prop where
  logged : s.calls = before ++ calls
  queues : Queues g.1 s
  account : Account root catalogue solo calls g.2 s.scope.cached?
  ticketed : Ticketed root g.1 g.2

/-- The account of calls as something that parts of the work keep together.  Others wait for the
holder of a ticket that is first in its queue, on the level of the handler. -/
def ledger (root : Compiled n) (catalogue : Catalogue n) (solo : Bool) (before : List (Call n)) :
    Custody (Session n) (Share n) where
  keeps g s := ∃ calls, Accounts root catalogue solo before calls g s
  owes g s level := ∃ x ∈ g.1, (s.scope.slot x.handler).value = none ∧
    (s.scope.slot x.handler).queue.head? = some x.number ∧ sizeOf (root.part x.handler) = level
  orderly := True
  not_owes_zero := by simp
  owes_add g h s level := by simp [or_and_right, exists_or]

section
variable {root : Compiled n} {catalogue : Catalogue n} {solo : Bool} {before : List (Call n)}
  {r : Request} {b : Nat} {g : Share n} {s : Session n}

/-- Others can only wait for the holder of a ticket. -/
theorem free_iff : (ledger root catalogue solo before).Free g ↔ g.1 = 0 := by
  constructor
  · intro free
    refine Multiset.eq_zero_of_forall_notMem fun x hx => ?_
    let s : Session n :=
      { scope := Scope.setSlot {} x.handler { value := none, queue := [x.number] } }
    exact free s _ ⟨x, hx, by simp [s], by simp [s], rfl⟩
  · intro h s e owes
    obtain ⟨x, hx, _⟩ := owes
    simp [h] at hx

theorem above_of_tickets (coherent : root.Coherent) {x : Compiled n} (hx : root.Part x)
    (tickets : ∀ y ∈ g.1, y.handler = x.binding.handler) (le : b ≤ sizeOf x) :
    (ledger root catalogue solo before).Above g b := by
  intro s e owes
  obtain ⟨y, hy, _, _, rfl⟩ := owes
  rw [tickets y hy, Compiled.part_eq coherent hx]
  exact le

theorem Accounts.aside {calls : List (Call n)} {t : Session n}
    (h : Accounts root catalogue solo before calls g s) (same : t.calls = s.calls)
    (slots : t.scope.slots = s.scope.slots) (tickets : t.tickets = s.tickets) :
    Accounts root catalogue solo before calls g t where
  logged := same.trans h.logged
  queues := h.queues.congr slots tickets
  account := by
    have : t.scope.cached? = s.scope.cached? := by
      funext d
      simp [Scope.cached?, slots]
    rw [this]
    exact h.account
  ticketed := h.ticketed

theorem meets_aside {α : Type} {act : StateM (Session n) α} (aside : Aside act) {P : α → Prop}
    (h : ∀ s, P (act s).1) : (ledger root catalogue solo before).Meets (Routine.act act) b g
      fun a k => k = g ∧ P a :=
  Custody.meets_act fun _ s ⟨calls, accounts⟩ =>
    have ⟨same, slots, tickets⟩ := aside s
    ⟨g, ⟨calls, accounts.aside same slots tickets⟩, rfl, h s⟩

theorem meets_enter (d : Fin n) : (ledger root catalogue solo before).Meets
    (Routine.act (Session.enter d)) b 0 fun k g => g = ({⟨d, k, .waiting⟩}, 0) := by
  refine Custody.meets_act fun _ s ⟨calls, h⟩ => ⟨_, ⟨calls, ?_⟩, rfl⟩
  rw [zero_add] at h
  have values : (Session.enter d s).2.scope.cached? = s.scope.cached? := s.scope.cached?_enter d _
  constructor
  case logged => exact h.logged
  case queues => exact h.queues.enter d
  case account =>
    rw [values, Prod.snd_add, zero_add]
    exact h.account
  case ticketed =>
    rw [Prod.snd_add, zero_add]
    exact (ticketed_cons_iff (by simp)).2 h.ticketed

theorem meets_turn {d : Fin n} (below : sizeOf (root.part d) < b) (k : Nat) :
    (ledger root catalogue solo before).Meets (Routine.await (Session.turn d k)) b
      ({⟨d, k, .waiting⟩}, 0) fun found g =>
      match found with
      | some a => g = (0, {.read d a})
      | none => g = ({⟨d, k, .entitled⟩}, 0) := by
  intro f s ⟨calls, h⟩
  have queues : Queues (⟨d, k, .waiting⟩ ::ₘ f.1) s := h.queues
  have account : Account root catalogue solo calls f.2 s.scope.cached? := by
    simpa using h.account
  have line := queues.line d
  have waits := line.waits _ (Multiset.mem_cons_self _ _) rfl rfl
  constructor
  · -- whoever stands first in the line owes the result, and it is made below the present level
    intro blocked _
    have ⟨value, behind⟩ := Scope.turn?_eq_none_iff.1 (Option.map_eq_none_iff.1 blocked)
    have place := waits value
    obtain ⟨first, head⟩ : ∃ first, (s.scope.slot d).queue.head? = some first :=
      Option.isSome_iff_exists.1 (by simpa [List.isSome_head?] using List.ne_nil_of_mem place)
    obtain ⟨x, hx, same, number⟩ := line.owned first (List.mem_of_mem_head? (by simp [head]))
    refine ⟨_, below, ⟨x, hx, ?_⟩, ?_⟩
    · rw [same, number]
      exact ⟨value, head, rfl⟩
    · intro level owes
      obtain ⟨x, hx, _, own, _⟩ := owes
      rw [Multiset.mem_singleton.1 hx] at own
      exact absurd own behind
  · intro c t hc
    obtain ⟨found, turn, eq⟩ := Option.map_eq_some_iff.1 hc
    cases eq
    cases c with
    | some a =>
      have value := Scope.turn?_eq_some_some_iff.1 turn
      refine ⟨(0, {.read d a}), ⟨calls, h.logged, ?_, ?_, ?_⟩, Custody.meets_done rfl⟩
      · simpa using queues.discard (by simp [value])
      · exact account.look (by rw [Scope.cached?_eq, value])
      · have ticketed := (ticketed_cons_iff (by simp)).1 h.ticketed
        simpa [ticketed_read_iff] using ticketed
    | none =>
      have ⟨value, head⟩ := Scope.turn?_eq_some_none_iff.1 turn
      refine ⟨({⟨d, k, .entitled⟩}, 0), ⟨calls, h.logged, ?_, ?_, ?_⟩, Custody.meets_done rfl⟩
      · exact queues.advance (by simp) value head
      · simpa using account
      · exact (ticketed_cons_iff (by simp)).2 ((ticketed_cons_iff (by simp)).1 h.ticketed)

theorem meets_leave_some {d : Fin n} {k : Nat} {reply : Reply} {a : Arg} (shared : root.Shares d)
    (becomes : reply.Becomes a) : (ledger root catalogue solo before).Meets
    (Routine.act (Session.leave d k (some a))) b ({⟨d, k, .served⟩}, {.made d reply})
      fun _ g => g = (0, {.read d a}) := by
  refine Custody.meets_act fun f s ⟨calls, h⟩ => ⟨_, ⟨calls, h.logged, ?_, ?_, ?_⟩, rfl⟩
  · have queues : Queues (⟨d, k, .served⟩ ::ₘ f.1) s := h.queues
    simpa using queues.leave (by simp) (some a)
  · have values : (Session.leave d k (some a) s).2.scope.cached? =
        Function.update s.scope.cached? d (some a) := s.scope.cached?_leave_some d k a
    have account : Account root catalogue solo calls (.made d reply ::ₘ f.2) s.scope.cached? :=
      h.account
    have line := (h.queues.line d).first ⟨d, k, .served⟩ (by simp) rfl (by simp)
    rw [values]
    exact account.store (by rw [Scope.cached?_eq, line.1]) shared becomes
  · have ticketed : Ticketed root (⟨d, k, .served⟩ ::ₘ f.1) (.made d reply ::ₘ f.2) := h.ticketed
    intro e shared
    have le := ticketed e shared
    rw [Multiset.countP_cons, Multiset.countP_cons] at le
    by_cases he : d = e
    · simpa [he, Ticket.serves] using le
    · simpa [he, Ticket.serves] using le

theorem meets_leave_none (d : Fin n) (k : Nat) : (ledger root catalogue solo before).Meets
    (Routine.act (Session.leave d k none)) b ({⟨d, k, .entitled⟩}, 0) fun _ g => g = 0 := by
  refine Custody.meets_act fun f s ⟨calls, h⟩ => ⟨_, ⟨calls, h.logged, ?_, ?_, ?_⟩, rfl⟩
  · have queues : Queues (⟨d, k, .entitled⟩ ::ₘ f.1) s := h.queues
    simpa using queues.leave (by simp) none
  · have values : (Session.leave d k none s).2.scope.cached? = s.scope.cached? :=
      s.scope.cached?_leave_none d k
    rw [values]
    simpa using h.account
  · have ticketed := (ticketed_cons_iff (by simp)).1 h.ticketed
    simpa using ticketed

end

end RequestBinding
