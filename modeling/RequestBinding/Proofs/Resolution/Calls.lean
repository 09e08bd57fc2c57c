import RequestBinding.Proofs.Resolution.Ledger

/-!
Calls of handlers that others depend on.  Main statement: whoever may call a handler passes on what
was made for the call, and ends with a result or with a failure that is accounted for.
-/
namespace RequestBinding
variable {n : Nat} {root : Compiled n} {catalogue : Catalogue n} {solo : Bool}
  {before : List (Call n)} {b : Nat} {s : Session n}

/-- What it takes to call a handler: a ticket where one result serves all. -/
def MayCall (root : Compiled n) (d : Fin n) (tickets : Multiset (Ticket n)) : Prop :=
  (∃ k, tickets = {⟨d, k, .entitled⟩}) ∨ tickets = 0 ∧ ¬root.SharesAll d

def serve (tickets : Multiset (Ticket n)) : Multiset (Ticket n) :=
  tickets.map fun x => { x with stage := .served }

/-- Where one result serves all, nobody else has called with success. -/
theorem Accounts.unshared {calls : List (Call n)} {d : Fin n} {own others : Multiset (Ticket n)}
    {items : Multiset (Item n)}
    (h : Accounts root catalogue solo before calls (own + others, items) s)
    (may : MayCall root d own) (shared : root.SharesAll d) :
    s.scope.cached? d = none ∧ ∀ reply, .made d reply ∉ items := by
  rcases may with ⟨k, rfl⟩ | ⟨_, unshared⟩
  · have queues : Queues (⟨d, k, .entitled⟩ ::ₘ others) s := h.queues
    have line := (queues.line d).first _ (Multiset.mem_cons_self _ _) rfl (by simp)
    have none : ({⟨d, k, .entitled⟩} + others).countP (fun x => x.serves d) = 0 := by
      rw [Multiset.countP_eq_zero]
      intro x hx serves
      simp only [Ticket.serves, Bool.and_eq_true, decide_eq_true_eq] at serves
      rcases Multiset.mem_cons.1 hx with rfl | hx
      · cases serves.2
      · have waiting := queues.waiting_of_mem (by simp) hx serves.1
        rw [serves.2] at waiting
        cases waiting
    refine ⟨by rw [Scope.cached?_eq, line.1], fun reply made => ?_⟩
    have le := h.ticketed d shared
    rw [none, Nat.le_zero, Multiset.countP_eq_zero] at le
    exact le _ made (by simp)
  · exact absurd shared unshared

theorem queues_serve {d : Fin n} {own others : Multiset (Ticket n)} (may : MayCall root d own)
    (h : Queues (own + others) s) : Queues (serve own + others) s := by
  rcases may with ⟨k, rfl⟩ | ⟨rfl, _⟩
  · have queues : Queues (⟨d, k, .entitled⟩ ::ₘ others) s := h
    have ⟨value, head⟩ := (queues.line d).first _ (Multiset.mem_cons_self _ _) rfl (by simp)
    exact queues.advance (show Stage.served ≠ .waiting by simp) value head
  · exact h

theorem ticketed_succeed {d : Fin n} {own others : Multiset (Ticket n)} (may : MayCall root d own)
    {passed items : Multiset (Item n)} (h : Ticketed root (own + others) (passed + items))
    (reply : Reply) : Ticketed root (serve own + others) (.made d reply ::ₘ items) := by
  intro e shared
  have le := h e shared
  rw [Multiset.countP_add, Multiset.countP_add] at le
  rw [Multiset.countP_add, Multiset.countP_cons]
  rcases may with ⟨k, rfl⟩ | ⟨rfl, unshared⟩
  · have idle : ({⟨d, k, .entitled⟩} : Multiset (Ticket n)).countP (fun x => x.serves e) = 0 := by
      rw [Multiset.countP_eq_zero]
      simp [Ticket.serves]
    have serves : (serve {⟨d, k, .entitled⟩}).countP (fun x => x.serves e) =
        if (Item.made d reply).isMade e then 1 else 0 := by
      change Multiset.countP _ ((⟨d, k, .served⟩ : Ticket n) ::ₘ 0) = _
      rw [Multiset.countP_cons]
      simp [Ticket.serves]
    omega
  · have ne : d ≠ e := fun h => unshared (h ▸ shared)
    simp only [Item.isMade_made, ne, decide_false, Bool.false_eq_true, if_false]
    simp only [serve, Multiset.map_zero] at le ⊢
    omega

theorem meets_beginCall {x : Compiled n} (coherent : root.Coherent) (hx : root.Part x)
    {tickets : Multiset (Ticket n)} (may : MayCall root x.binding.handler tickets)
    {passed : Multiset (Item n)} {args : CallArgs} (passes : x.Passes passed args) :
    (ledger root catalogue solo before).Meets
      (Routine.act (Session.beginCall x.binding.handler args)) b
      (tickets, passed + Item.signs solo) fun i g =>
        match (catalogue x.binding.handler).reply i with
        | .ok reply => g = (serve tickets, .made x.binding.handler reply ::ₘ Item.signs solo)
        | .error _ => g = (tickets, {.failed x.binding.handler}) := by
  refine Custody.meets_act fun f s ⟨calls, h⟩ => ?_
  let k : Call n := ⟨x.binding.handler, s.callCount x.binding.handler + 1, args, s.uploads⟩
  have account : Account root catalogue solo calls (passed + (Item.signs solo + f.2))
      s.scope.cached? := by
    rw [← add_assoc]
    exact h.account
  have logged : (Session.beginCall x.binding.handler args s).2.calls =
      before ++ (calls ++ [k]) := by
    rw [← List.append_assoc, ← h.logged]
    rfl
  have queues : Queues (tickets + f.1) s := h.queues
  have ticketed : Ticketed root (tickets + f.1) (passed + (Item.signs solo + f.2)) := by
    rw [← add_assoc]
    exact h.ticketed
  change ∃ g', _ ∧ match (catalogue x.binding.handler).reply k.invocation with
    | .ok reply => g' = (serve tickets, .made x.binding.handler reply ::ₘ Item.signs solo)
    | .error _ => g' = (tickets, {.failed x.binding.handler})
  have unmade : root.SharesAll k.handler → s.scope.cached? k.handler = none ∧
      ∀ reply, .made k.handler reply ∉ passed + (Item.signs solo + f.2) := by
    intro shared
    have ⟨uncached, unmade⟩ := h.unshared may shared
    rw [← add_assoc]
    exact ⟨uncached, unmade⟩
  cases answer : (catalogue x.binding.handler).reply k.invocation with
  | ok reply =>
    have called := account.succeed (k := k) passes coherent hx rfl unmade (fun hs => by simp [hs])
      answer
    refine ⟨_, ⟨calls ++ [k], logged, ?_, ?_, ?_⟩, rfl⟩
    · exact (queues_serve may queues).congr rfl rfl
    · rw [Prod.snd_add, Multiset.cons_add]
      exact called
    · rw [Prod.snd_add, Multiset.cons_add]
      exact ticketed_succeed may ticketed reply
  | error fault =>
    have fails : catalogue.succeeds k = false := by
      unfold Catalogue.succeeds
      change ((catalogue x.binding.handler).reply k.invocation).isOk = false
      rw [answer]
      rfl
    refine ⟨_, ⟨calls ++ [k], logged, ?_, ?_, ?_⟩, rfl⟩
    · exact queues.congr rfl rfl
    · exact account.fail passes coherent hx rfl unmade fails
    · intro e shared
      have le := ticketed e shared
      rw [Multiset.countP_add, Multiset.countP_add] at le
      change Multiset.countP _ (.failed x.binding.handler ::ₘ f.2) ≤ _
      rw [Multiset.countP_cons_of_neg _ (by simp)]
      exact (by omega : Multiset.countP _ f.2 ≤ _).trans le

theorem becomes_accept (reply : Reply) (s : Session n) :
    reply.Becomes (Session.accept reply s).1 := by
  cases reply with
  | arg a => exact .arg a
  | object content => exact .object content s.objects

/-- What making a result leaves: the result itself, or the tickets it was to be made with. -/
def Answers (d : Fin n) (tickets : Multiset (Ticket n)) (solo : Bool) : Resolved → Share n → Prop
  | .ok a, g => ∃ reply, reply.Becomes a ∧ g = (serve tickets, .made d reply ::ₘ Item.signs solo)
  | .error _, g => ∃ items, g = (tickets, items)

theorem meets_call {x : Compiled n} (coherent : root.Coherent) (hx : root.Part x)
    {tickets : Multiset (Ticket n)} (may : MayCall root x.binding.handler tickets)
    {passed : Multiset (Item n)} {args : CallArgs} (passes : x.Passes passed args) :
    (ledger root catalogue solo before).Meets (catalogue.call x.binding.handler args) b
      (tickets, passed + Item.signs solo) (Answers x.binding.handler tickets solo) := by
  refine (Custody.meets_pauses _).bind fun _ g hg => ?_
  subst hg
  refine (meets_beginCall coherent hx may passes).bind fun i g hg => ?_
  refine (Custody.meets_pauses _).bind fun _ g' hg' => ?_
  subst hg'
  cases answer : (catalogue x.binding.handler).reply i with
  | ok reply =>
    rw [answer] at hg
    refine (meets_aside (Session.aside_accept reply) (becomes_accept reply)).bind
      fun a k ⟨hk, becomes⟩ => ?_
    exact Custody.meets_done ⟨reply, becomes, hk.trans hg⟩
  | error fault =>
    rw [answer] at hg
    exact Custody.meets_done ⟨_, hg⟩

end RequestBinding
