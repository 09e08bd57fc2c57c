import RequestBinding.Proofs.Compiled.Faithful
import RequestBinding.Proofs.Resolution.Calls

/-!
How results are made and shared, in whatever order the parts of the work move.  Main statement: the
injector of a compiled handler accounts for all calls, and what it ends with is concluded from
results that were made or read for it.
-/
namespace RequestBinding
variable {n : Nat} {root : Compiled n} {catalogue : Catalogue n} {solo : Bool}
  {config : Config n} {route : RoutePattern} {method : Method} {before : List (Call n)}
  {r : Request} {b : Nat} {g : Share n}

/-- What resolving a dependency leaves: a result of its own, or a shared one that was read. -/
def Resolves (e : Need (Compiled n)) : Resolved → Share n → Prop
  | .ok a, g =>
    if e.useCache then g = (0, {.read e.target.binding.handler a})
    else ∃ reply, reply.Becomes a ∧ g = (0, {.made e.target.binding.handler reply})
  | .error _, g => g.1 = 0

def Extracts (_ : Extractor) (bound : Bound) (g : Share n) : Prop := g = 0 ∧ bound ≠ .error []

theorem meets_resolveCached {e : Need (Compiled n)} (cached : e.useCache = true)
    (shared : root.Shares e.target.binding.handler)
    (below : sizeOf (root.part e.target.binding.handler) < b) {make : Routine (Session n) Resolved}
    (h : ∀ k, (ledger root catalogue solo before).Meets make b
      ({⟨e.target.binding.handler, k, .entitled⟩}, Item.signs solo)
      (Answers e.target.binding.handler {⟨e.target.binding.handler, k, .entitled⟩} solo)) :
    (ledger root catalogue solo before).Meets (resolveCached e.target.binding.handler make) b
      (0, Item.signs solo) (Returns (0, Item.signs solo) (Resolves e)) := by
  have freely (items : Multiset (Item n)) :
      (ledger root catalogue solo before).Above ((0, items) : Share n) b :=
    (free_iff.2 rfl).above b
  have entered := Custody.Meets.frame (L := ledger root catalogue solo before)
    (meets_enter e.target.binding.handler) (freely (Item.signs solo)) (le_refl b)
  rw [zero_add] at entered
  refine entered.bind fun k g ⟨_, hg, hk⟩ => ?_
  subst hk
  rw [hg]
  refine ((meets_turn below k).frame (freely (Item.signs solo)) (le_refl b)).bind
    fun found g ⟨g', hg, turn⟩ => ?_
  cases found with
  | some a =>
    subst turn
    exact Custody.meets_done ⟨_, hg, by simp [Resolves, cached]⟩
  | none =>
    subst turn
    simp only [Prod.mk_add_mk, add_zero, zero_add] at hg
    rw [hg]
    refine (h k).bind fun result g hr => ?_
    cases result with
    | ok a =>
      obtain ⟨reply, becomes, rfl⟩ := hr
      have left := Custody.Meets.frame (L := ledger root catalogue solo before)
        (meets_leave_some (k := k) shared becomes) (freely (Item.signs solo)) (le_refl b)
      simp only [Prod.mk_add_mk, add_zero, Multiset.singleton_add] at left
      refine left.bind fun _ g ⟨g', hg, read⟩ => ?_
      subst read
      exact Custody.meets_done ⟨_, hg, by simp [Resolves, cached]⟩
    | error fault =>
      obtain ⟨items, rfl⟩ := hr
      have left := Custody.Meets.frame (L := ledger root catalogue solo before)
        (meets_leave_none e.target.binding.handler k) (freely items) (le_refl b)
      simp only [Prod.mk_add_mk, add_zero, zero_add] at left
      refine left.bind fun _ g ⟨g', hg, gone⟩ => ?_
      subst gone
      exact Custody.meets_done (by rw [hg]; rfl)

structure Collected (fields : List (Field (Need (Compiled n)))) (as : List Arg) (g : Share n) :
    Prop where
  ticketless : g.1 = 0
  uses : ∀ d, g.2.countP (fun y => y.isMade d) =
    (fields.filterMap fun f => f.feed.dependency?).countP fun e =>
      !e.useCache && e.target.binding.handler = d
  kinds : ∀ y ∈ g.2, (∃ d reply, y = .made d reply) ∨ ∃ d a, y = .read d a
  read : ∀ (i : Nat) (f : Field (Need (Compiled n))) (e : Need (Compiled n)),
    fields[i]? = some f → f.feed = .dependency e → e.useCache = true →
      ∃ a, as[i]? = some a ∧ .read e.target.binding.handler a ∈ g.2

namespace Collected
variable {f : Field (Need (Compiled n))} {fs : List (Field (Need (Compiled n)))} {a : Arg}
  {as : List Arg} {e : Need (Compiled n)}

theorem cons (h : Collected fs as g) {item : Multiset (Item n)}
    (uses : ∀ d, item.countP (fun y => y.isMade d) =
      f.feed.dependency?.toList.countP fun e => !e.useCache && e.target.binding.handler = d)
    (kinds : ∀ y ∈ item, (∃ d reply, y = .made d reply) ∨ ∃ d a, y = .read d a)
    (read : ∀ e, f.feed = .dependency e → e.useCache = true →
      .read e.target.binding.handler a ∈ item) :
    Collected (f :: fs) (a :: as) ((0, item) + g) where
  ticketless := by simpa using h.ticketless
  uses d := by
    rw [Prod.snd_add, Multiset.countP_add, uses d, h.uses d]
    cases hf : f.feed.dependency? <;> simp [hf, List.countP_cons, add_comm]
  kinds y hy := (Multiset.mem_add.1 hy).elim (kinds y) (h.kinds y)
  read i f' e hf he shared := by
    cases i with
    | zero =>
      cases hf
      exact ⟨a, rfl, Multiset.mem_add.2 (.inl (read e he shared))⟩
    | succ i =>
      obtain ⟨a', ha, mem⟩ := h.read i f' e hf he shared
      exact ⟨a', ha, Multiset.mem_add.2 (.inr mem)⟩

end Collected

theorem collected_of_gathered {fields : List (Field (Need (Compiled n)))} {as : List Arg}
    (h : Custody.Gathered (Supplies Extracts Resolves r) fields as g) : Collected fields as g := by
  induction h with
  | nil => exact ⟨rfl, by simp, by simp, by simp⟩
  | @cons f fs a as k g hk _ ih =>
    unfold Supplies at hk
    cases hf : f.feed with
    | request =>
      rw [hf] at hk
      rw [hk.2]
      exact ih.cons (by simp [hf, Feed.dependency?]) (by simp) (by simp [hf])
    | extract e =>
      rw [hf] at hk
      rw [hk.1]
      exact ih.cons (by simp [hf, Feed.dependency?]) (by simp) (by simp [hf])
    | dependency e =>
      rw [hf] at hk
      simp only [Resolves] at hk
      split at hk
      · next cached =>
        rw [hk]
        refine ih.cons (fun d => ?_) (by simp) (by simp [hf])
        simp [Item.countP_singleton, hf, Feed.dependency?, cached]
      · next uncached =>
        obtain ⟨reply, _, rfl⟩ := hk
        refine ih.cons (fun d => ?_) (by simp) (by simp [hf, uncached])
        simp [Item.countP_singleton, hf, Feed.dependency?, uncached, List.countP_cons]

theorem Collected.passes {c : Compiled n} {as : List Arg}
    (h : Collected c.binding.fields as g) (nodup : (c.binding.fields.map Field.name).Nodup)
    (length : as.length = c.binding.fields.length) :
    c.Passes g.2 (CallArgs.pushAll {} c.binding.fields as) where
  uses := h.uses
  unfailed d mem := by rcases h.kinds _ mem with ⟨_, _, eq⟩ | ⟨_, _, eq⟩ <;> cases eq
  read i f e hf he shared := by
    obtain ⟨a, ha, mem⟩ := h.read i f e hf he shared
    refine ⟨a, ?_, mem⟩
    rw [CallArgs.taken_pushAll nodup length, List.getElem?_map, ha]
    rfl

/-- What making a result comes to, for a handler that may be called. -/
def Produces (root : Compiled n) (catalogue : Catalogue n) (solo : Bool) (before : List (Call n))
    (r : Request) (x : Compiled n) : Prop :=
  ∀ (b : Nat) (tickets : Multiset (Ticket n)), sizeOf x ≤ b →
    MayCall root x.binding.handler tickets →
      (ledger root catalogue solo before).Meets (x.produce catalogue r) b
        (tickets, Item.signs solo) (Answers x.binding.handler tickets solo)

theorem Produces.resolve (coherent : root.Coherent) {x : Compiled n} (hx : root.Part x)
    {e : Need (Compiled n)} (he : e ∈ x.needs) (h : Produces root catalogue solo before r e.target)
    (below : sizeOf e.target < b) : (ledger root catalogue solo before).Meets
      ((linkNeed catalogue e).resolve r) b (0, Item.signs solo)
      (Returns (0, Item.signs solo) (Resolves e)) := by
  have part := Compiled.part_eq coherent (hx.need he)
  rw [resolve_linkNeed]
  split
  · next cached =>
    exact meets_resolveCached cached ⟨x, hx, e, he, rfl, cached⟩ (by rwa [part]) fun k =>
      h b _ below.le (.inl ⟨k, rfl⟩)
  · next uncached =>
    have alone : ¬root.SharesAll e.target.binding.handler := fun shared =>
      uncached (shared x hx e he rfl)
    refine (h b 0 below.le (.inr ⟨rfl, alone⟩)).mono fun out g hg => ?_
    cases out with
    | ok a =>
      obtain ⟨reply, becomes, rfl⟩ := hg
      refine ⟨(0, {.made e.target.binding.handler reply}), ?_, ?_⟩
      · simp [serve]
      · simp only [Resolves, uncached]
        exact ⟨reply, becomes, rfl⟩
    | error fault =>
      obtain ⟨items, rfl⟩ := hg
      rfl

theorem fares (coherent : root.Coherent) {x : Compiled n} (hx : root.Part x)
    (h : ∀ e ∈ x.needs, Produces root catalogue solo before r e.target) :
    Fares (ledger root catalogue solo before) catalogue r (sizeOf x) (0, Item.signs solo) Extracts
      Resolves x.binding.fields where
  form := (meets_aside (P := fun _ => True) (Session.aside_form r) fun _ => trivial).mono
    fun _ _ hk => hk.1
  extract f _ e _ := (meets_aside (e.aside_apply r) (e.apply_ne_error_nil r)).mono fun _ _ hk => hk
  resolve f hf e he := by
    have need := Compiled.mem_needs_iff.2 ⟨f, hf, he⟩
    exact (h e need).resolve coherent hx need (Compiled.sizeOf_target_lt need)
  free_share := free_iff.2 rfl
  free_bound _ _ _ hk := by rw [hk.1]; exact Custody.free_zero
  free_resolved e out g hg := by
    refine free_iff.2 ?_
    cases out with
    | error fault => exact hg
    | ok a =>
      simp only [Resolves] at hg
      split at hg
      · rw [hg]
      · obtain ⟨_, _, rfl⟩ := hg
        rfl

abbrev Concluded (root : Compiled n) (catalogue : Catalogue n) (solo : Bool)
    (before : List (Call n)) (r : Request) (x : Compiled n) : Injected → Share n → Prop :=
  Concludes (ledger root catalogue solo before) Extracts Resolves r x.binding.fields {}

theorem Concluded.collected {x : Compiled n} {args : CallArgs}
    (h : Concluded root catalogue solo before r x (.ok args) g)
    (nodup : (x.binding.fields.map Field.name).Nodup) : g.1 = 0 ∧ x.Passes g.2 args := by
  obtain ⟨_, as, gathered, rfl⟩ := h.supplied fun _ _ h => h.2 rfl
  have collected := collected_of_gathered gathered
  exact ⟨collected.ticketless, collected.passes nodup gathered.length_eq⟩

theorem Concluded.ticketless {x : Compiled n} {out : Injected}
    (h : Concluded root catalogue solo before r x out g)
    (fares : Fares (ledger root catalogue solo before) catalogue r b (0, Item.signs solo) Extracts
      Resolves x.binding.fields) : g.1 = 0 :=
  free_iff.1 (h.free fares.free_bound fares.free_resolved)

/-- Making the arguments of a handler and calling it with them keeps the account. -/
theorem produces (faithful : root.Faithful catalogue config route method)
    (alone : config.concurrent = true → solo = false) {x : Compiled n} (hx : root.Part x) :
    Produces root catalogue solo before r x := by
  induction x using Compiled.induction with
  | step x ih =>
    intro b tickets le may
    have declared := faithful x hx
    have fares : Fares (ledger root catalogue solo before) catalogue r (sizeOf x)
        (0, Item.signs solo) Extracts Resolves x.binding.fields :=
      fares faithful.coherent hx fun e he => ih e he (hx.need he)
    have made := fares.inject fun concurrent => by
      simp [alone (declared.concurrent ▸ concurrent)]
    -- the arguments are made while the ticket for the call is held
    have own : ∀ y ∈ tickets, y.handler = x.binding.handler := by
      rcases may with ⟨k, rfl⟩ | ⟨rfl, _⟩ <;> simp
    have framed := made.frame (h := (tickets, 0))
      (above_of_tickets faithful.coherent hx own (le_refl _)) le
    simp only [Prod.mk_add_mk, add_zero, zero_add] at framed
    refine framed.bind fun out g ⟨g', hg, concluded⟩ => ?_
    subst hg
    cases out with
    | ok args =>
      obtain ⟨collected, rfl, concluded⟩ := concluded
      obtain ⟨ticketless, passes⟩ := Concluded.collected concluded declared.names_nodup
      have share : collected + (0, Item.signs solo) + (tickets, 0) =
          (tickets, collected.2 + Item.signs solo) := by
        ext1 <;> simp [ticketless]
      rw [share]
      exact meets_call faithful.coherent hx may passes
    | error fault =>
      have ticketless := Concluded.ticketless concluded fares
      exact Custody.meets_done ⟨g'.2, by ext1 <;> simp [ticketless]⟩

theorem fares_root (faithful : root.Faithful catalogue config route method)
    (alone : config.concurrent = true → solo = false) :
    Fares (ledger root catalogue solo before) catalogue r (sizeOf root) (0, Item.signs solo)
      Extracts Resolves root.binding.fields :=
  fares faithful.coherent .root fun _ he => produces faithful alone (.need .root he)

theorem meets_injector (faithful : root.Faithful catalogue config route method)
    (alone : config.concurrent = true → solo = false) :
    (ledger root catalogue solo before).Meets ((root.injector catalogue).inject r) (sizeOf root)
      (0, Item.signs solo)
      (Returns (0, Item.signs solo) (Concluded root catalogue solo before r root)) :=
  (fares_root faithful alone).inject fun concurrent => by
    simp [alone ((faithful root .root).concurrent ▸ concurrent)]

theorem keeps_fresh (root : Compiled n) (catalogue : Catalogue n) (solo : Bool) {s : Session n}
    (fresh : s.scope = {}) : (ledger root catalogue solo s.calls).keeps (0, Item.signs solo) s := by
  have empty : ∀ d, s.scope.slot d = {} := fun d => by rw [fresh]; rfl
  refine ⟨[], by simp, .nil empty, .start root catalogue solo ?_ ?_ ?_, ?_⟩
  · rw [Item.countP_isSign_signs]
    split <;> omega
  · exact fun x hx => (Item.mem_signs.1 hx).2
  · exact fun d => by rw [Scope.cached?_eq, empty]
  · intro d _
    simp

end RequestBinding
