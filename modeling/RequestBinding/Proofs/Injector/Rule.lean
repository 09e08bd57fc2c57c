import RequestBinding.Proofs.Injector.Direct
import RequestBinding.Proofs.Routine.Custody

/-!
How injectors keep shares.  What is known about the parts, that is about extractors and
dependencies, is put together to what is known about the arguments.  Main statement: in whatever way
the arguments of a handler are made, they are concluded from what its fields come to, in the order
of declaration.
-/
namespace RequestBinding
variable {n : Nat}

def Fault.after (vs : List Violation) : Fault → Fault
  | .validation ws => .validation (vs ++ ws)
  | fault => fault

section
variable {M : Type} [AddCommMonoid M] (L : Custody (Session n) M)

/-- Everything of `post`, and a share on top of it in case of success. -/
def Returns {α : Type} (share : M) (post : Except Fault α → M → Prop) : Except Fault α → M → Prop
  | .ok a, m => ∃ k, m = k + share ∧ post (.ok a) k
  | .error fault, m => post (.error fault) m

/-- Arguments, or why there are none, concluded from what fields come to one after another.  What
extractors and dependencies come to leaves shares, and a failure may leave others besides. -/
inductive Concludes {δ : Type} (bound : Extractor → Bound → M → Prop)
    (resolved : δ → Resolved → M → Prop) (r : Request) :
    List (Field δ) → Gathering → Injected → M → Prop
  | finished {g : Gathering} : g.violations = [] → Concludes bound resolved r [] g (.ok g.args) 0
  | refused {g : Gathering} {m : M} : g.violations ≠ [] → L.Free m →
      Concludes bound resolved r [] g (.error (.validation g.violations)) m
  | request {f : Field δ} {fs : List (Field δ)} {g : Gathering} {out : Injected} {m : M} :
      f.feed = .request →
      Concludes bound resolved r fs (g.push f.pass f.name (.request r)) out m →
      Concludes bound resolved r (f :: fs) g out m
  | extract {f : Field δ} {fs : List (Field δ)} {g : Gathering} {out : Injected} {k m : M}
      {e : Extractor} {x : Bound} : f.feed = .extract e → bound e x k →
      Concludes bound resolved r fs (g.add f.pass f.name x) out m →
      Concludes bound resolved r (f :: fs) g out (k + m)
  | dependency {f : Field δ} {fs : List (Field δ)} {g : Gathering} {out : Injected} {k m : M}
      {d : δ} {a : Arg} : f.feed = .dependency d → resolved d (.ok a) k →
      Concludes bound resolved r fs (g.push f.pass f.name a) out m →
      Concludes bound resolved r (f :: fs) g out (k + m)
  | stopped {f : Field δ} {fs : List (Field δ)} {g : Gathering} {k m : M} {d : δ} {fault : Fault} :
      f.feed = .dependency d → resolved d (.error fault) k → L.Free m →
      Concludes bound resolved r (f :: fs) g (.error (fault.after g.violations)) (k + m)

structure Fares (catalogue : Catalogue n) (r : Request) (b : Nat) (share : M)
    (bound : Extractor → Bound → M → Prop)
    (resolved : Need (Compiled n) → Resolved → M → Prop)
    (fields : List (Field (Need (Compiled n)))) : Prop where
  form : L.Meets (Routine.act (Session.form r)) b 0 fun _ k => k = 0
  extract : ∀ f ∈ fields, ∀ e, f.feed = .extract e →
    L.Meets (Routine.act (e.apply r)) b 0 (bound e)
  resolve : ∀ f ∈ fields, ∀ d, f.feed = .dependency d →
    L.Meets ((linkNeed catalogue d).resolve r) b share (Returns share (resolved d))
  free_share : L.Free share
  free_bound : ∀ e x k, bound e x k → L.Free k
  free_resolved : ∀ d x k, resolved d x k → L.Free k

/-- Some dependencies are resolved before the first step, and what they came to left shares. -/
inductive Prepared (catalogue : Catalogue n) (resolved : Need (Compiled n) → Resolved → M → Prop) :
    List (Field (Need (Compiled n))) → List (Step n × Option Resolved) → M → Prop
  | nil : Prepared catalogue resolved [] [] 0
  | unknown {f : Field (Need (Compiled n))} {fs : List (Field (Need (Compiled n)))}
      {ps : List (Step n × Option Resolved)} {m : M} : Prepared catalogue resolved fs ps m →
      Prepared catalogue resolved (f :: fs) ((.ofField (linkField catalogue f), none) :: ps) m
  | known {f : Field (Need (Compiled n))} {fs : List (Field (Need (Compiled n)))}
      {ps : List (Step n × Option Resolved)} {k m : M} {d : Need (Compiled n)} {x : Resolved} :
      f.feed = .dependency d → resolved d x k → Prepared catalogue resolved fs ps m →
      Prepared catalogue resolved (f :: fs) ((.ofField (linkField catalogue f), some x) :: ps)
        (k + m)

variable {L} {catalogue : Catalogue n} {r : Request} {b : Nat} {share : M}
  {bound : Extractor → Bound → M → Prop} {resolved : Need (Compiled n) → Resolved → M → Prop}
  {fields : List (Field (Need (Compiled n)))}

theorem Returns.add {α : Type} {post post' : Except Fault α → M → Prop} {out : Except Fault α}
    {k m : M} (h : Returns share post out m) (more : ∀ out m, post out m → post' out (k + m)) :
    Returns share post' out (m + k) := by
  cases out with
  | ok a =>
    obtain ⟨m, rfl, h⟩ := h
    exact ⟨k + m, by abel, more _ m h⟩
  | error fault =>
    rw [add_comm]
    exact more _ m h

theorem Returns.mono {α : Type} {post post' : Except Fault α → M → Prop} {out : Except Fault α}
    {m : M} (h : Returns share post out m) (weaken : ∀ out m, post out m → post' out m) :
    Returns share post' out m := by
  cases out with
  | ok a => exact h.imp fun m h => ⟨h.1, weaken _ m h.2⟩
  | error fault => exact weaken _ m h

@[simp] theorem returns_zero {α : Type} {post : Except Fault α → M → Prop} {out : Except Fault α}
    {m : M} : Returns 0 post out m ↔ post out m := by
  cases out <;> simp [Returns]

theorem Fares.tail {f : Field (Need (Compiled n))}
    (h : Fares L catalogue r b share bound resolved (f :: fields)) :
    Fares L catalogue r b share bound resolved fields :=
  { h with
    extract := fun g hg => h.extract g (List.mem_cons_of_mem f hg)
    resolve := fun g hg => h.resolve g (List.mem_cons_of_mem f hg) }

theorem Concludes.free {δ : Type} {resolved : δ → Resolved → M → Prop} {fields : List (Field δ)}
    {g : Gathering} {out : Injected} {m : M} (h : Concludes L bound resolved r fields g out m)
    (free_bound : ∀ e x k, bound e x k → L.Free k)
    (free_resolved : ∀ d x k, resolved d x k → L.Free k) : L.Free m := by
  induction h with
  | finished => exact Custody.free_zero
  | refused _ free => exact free
  | request _ _ ih => exact ih
  | extract _ hx _ ih => exact (free_bound _ _ _ hx).add ih
  | dependency _ hx _ ih => exact (free_resolved _ _ _ hx).add ih
  | stopped _ hx free => exact (free_resolved _ _ _ hx).add free

theorem Prepared.free {ps : List (Step n × Option Resolved)} {m : M}
    (h : Prepared catalogue resolved fields ps m)
    (free : ∀ d x k, resolved d x k → L.Free k) : L.Free m := by
  induction h with
  | nil => exact Custody.free_zero
  | unknown _ ih => exact ih
  | known _ hk _ ih => exact (free _ _ _ hk).add ih

theorem meets_rest {next : Routine (Session n) Injected} {m k : M} {out out' : Injected → M → Prop}
    (h : L.Meets next b (m + share) (Returns share out)) (free : L.Free k)
    (more : ∀ x l, out x l → out' x (k + l)) :
    L.Meets next b (k + (m + share)) (Returns share out') := by
  have framed := h.frame (free.above b) (le_refl b)
  rw [add_comm k]
  refine framed.mono fun x l ⟨l', hl, hx⟩ => ?_
  rw [hl]
  exact hx.add more

theorem Fares.concluded (h : Fares L catalogue r b share bound resolved []) (g : Gathering) :
    Returns share (Concludes L bound resolved r [] g) (g.finish.mapError .validation) share := by
  unfold Gathering.finish
  cases hv : g.violations with
  | nil => exact ⟨0, by rw [zero_add], .finished hv⟩
  | cons v vs =>
    have refused : Concludes L bound resolved r [] g (.error (.validation g.violations)) share :=
      .refused (by simp [hv]) h.free_share
    rwa [hv] at refused

theorem Fares.follow (h : Fares L catalogue r b share bound resolved fields)
    {ps : List (Step n × Option Resolved)} {m : M}
    (prepared : Prepared catalogue resolved fields ps m) (g : Gathering) :
    L.Meets (Plan.follow r ps g) b (m + share)
      (Returns share (Concludes L bound resolved r fields g)) := by
  induction prepared generalizing g with
  | nil =>
    rw [zero_add]
    exact h.concluded g
  | @unknown f fs ps m prepared ih =>
    have ih := ih h.tail
    have free := prepared.free h.free_resolved
    simp only [Plan.follow, Step.ofField, feed_linkField, name_linkField, pass_linkField]
    cases hf : f.feed with
    | request => exact (ih _).mono fun x k hx => hx.mono fun x k hx => .request hf hx
    | extract e =>
      have applied := (h.extract f (by simp) e hf).frame
        ((free.add h.free_share).above b) (le_refl b)
      rw [zero_add] at applied
      refine applied.bind fun x k ended => ?_
      obtain ⟨k', hk, hx⟩ := ended
      rw [hk]
      exact meets_rest (ih _) (h.free_bound e x k' hx) fun _ _ rest => .extract hf hx rest
    | dependency d =>
      have made := (h.resolve f (by simp) d hf).frame (free.above b) (le_refl b)
      rw [add_comm] at made
      refine made.bind fun x k ended => ?_
      obtain ⟨k', hk, hx⟩ := ended
      cases x with
      | ok a =>
        obtain ⟨k', rfl, hx⟩ := hx
        rw [hk, add_assoc, add_comm share]
        exact meets_rest (ih _) (h.free_resolved d _ k' hx) fun _ _ rest => .dependency hf hx rest
      | error fault =>
        have stopped : Concludes L bound resolved r (f :: fs) g
          (.error (fault.after g.violations)) (k' + m) := .stopped hf hx free
        rw [hk]
        cases fault <;> exact stopped
  | @known f fs ps k m d x hf hx prepared ih =>
    have ih := ih h.tail
    have free := prepared.free h.free_resolved
    simp only [Plan.follow, Step.ofField, feed_linkField, name_linkField, pass_linkField, hf,
      linkFeed]
    rw [add_assoc]
    cases x with
    | ok a =>
      exact meets_rest (ih _) (h.free_resolved d _ k hx) fun _ _ rest => .dependency hf hx rest
    | error fault =>
      have stopped : Concludes L bound resolved r (f :: fs) g
        (.error (fault.after g.violations)) (k + (m + share)) :=
        .stopped hf hx (free.add h.free_share)
      cases fault <;> exact stopped

theorem prepared_none (catalogue : Catalogue n) (resolved : Need (Compiled n) → Resolved → M → Prop)
    (fields : List (Field (Need (Compiled n)))) : Prepared catalogue resolved fields
      (Plan.prepare ((fields.map (linkField catalogue)).map .ofField) []) 0 := by
  induction fields with
  | nil => exact .nil
  | cons f fs ih => exact .unknown ih

/-- The dependency of a field, if it has one that does not block. -/
def asyncNeed? (f : Field (Need (Compiled n))) : Option (Need (Compiled n)) :=
  f.feed.dependency?.filter fun d => d.target.binding.isAsync

theorem feed_of_asyncNeed? {f : Field (Need (Compiled n))} {d : Need (Compiled n)}
    (h : asyncNeed? f = some d) : f.feed = .dependency d := by
  unfold asyncNeed? at h
  cases hf : f.feed <;> simp_all [Feed.dependency?]

theorem async?_ofField (catalogue : Catalogue n) (f : Field (Need (Compiled n))) :
    (Step.ofField (linkField catalogue f)).async? = (asyncNeed? f).map (linkNeed catalogue) := by
  simp only [Step.async?, Step.ofField, feed_linkField, asyncNeed?]
  cases f.feed with
  | dependency d =>
    simp only [linkFeed, Feed.dependency?, Option.filter_some, isAsync_linkNeed]
    split <;> rfl
  | request => rfl
  | extract e => rfl

theorem filterMap_async? (catalogue : Catalogue n) (fields : List (Field (Need (Compiled n)))) :
    ((fields.map (linkField catalogue)).map Step.ofField).filterMap Step.async? =
      (fields.filterMap asyncNeed?).map (linkNeed catalogue) := by
  simp [List.map_filterMap, List.filterMap_map, Function.comp_def, async?_ofField]

theorem Plan.prepare_of_not_async {s : Step n} (h : s.async? = none) (ss : List (Step n))
    (results : List Resolved) : prepare (s :: ss) results = (s, none) :: prepare ss results := by
  cases results <;> simp [prepare, h]

theorem prepared_of_gathered {results : List Resolved} {m : M}
    (h : Custody.Gathered resolved (fields.filterMap asyncNeed?) results m) :
    Prepared catalogue resolved fields
      (Plan.prepare ((fields.map (linkField catalogue)).map .ofField) results) m := by
  induction fields generalizing results m with
  | nil => cases h; exact .nil
  | cons f fs ih =>
    have async := async?_ofField catalogue f
    simp only [List.map_cons]
    cases hd : asyncNeed? f with
    | none =>
      rw [hd] at async
      rw [Plan.prepare_of_not_async async]
      rw [List.filterMap_cons_none hd] at h
      exact .unknown (ih h)
    | some d =>
      rw [hd] at async
      rw [List.filterMap_cons_some hd] at h
      cases h with
      | cons hx h =>
        simp only [Plan.prepare, async, Option.map_some, Option.isSome_some, if_true]
        exact .known (feed_of_asyncNeed? hd) hx (ih h)

theorem Plan.early_eq (plan : Plan n) : plan.early = [] ∨
    plan.concurrent = true ∧ plan.early = plan.steps.filterMap Step.async? := by
  unfold early
  dsimp only
  split
  · next h => exact .inr ⟨by simp_all, rfl⟩
  · exact .inl rfl

/-- A plan keeps shares, with or without an early start.  What dependencies share one after another
they cannot share side by side. -/
theorem Fares.execute (h : Fares L catalogue r b share bound resolved fields) {plan : Plan n}
    (steps : plan.steps = (fields.map (linkField catalogue)).map .ofField)
    (alone : plan.concurrent = true → share = 0) :
    L.Meets (plan.execute r) b share (Returns share (Concludes L bound resolved r fields {})) := by
  have main : L.Meets ((Routine.all (plan.early.map fun link => link.resolve r)).bind fun results =>
      Plan.follow r (Plan.prepare plan.steps results) {}) b share
      (Returns share (Concludes L bound resolved r fields {})) := by
    rcases plan.early_eq with early | ⟨concurrent, early⟩
    · rw [early, steps]
      have := h.follow (prepared_none catalogue resolved fields) {}
      rwa [zero_add] at this
    · have each : ∀ d ∈ fields.filterMap asyncNeed?,
          L.Meets ((linkNeed catalogue d).resolve r) b 0 (resolved d) := by
        intro d hd
        obtain ⟨f, hf, hd⟩ := List.mem_filterMap.1 hd
        have made := h.resolve f hf d (feed_of_asyncNeed? hd)
        rw [alone concurrent] at made
        exact made.mono fun x k hx => returns_zero.1 hx
      rw [alone concurrent, early, steps, filterMap_async?, List.map_map]
      refine (Custody.meets_all h.free_resolved each).bind fun results m hm => ?_
      have := h.follow (prepared_of_gathered hm) {}
      rwa [alone concurrent, add_zero] at this
  have opened (rest : Routine (Session n) Injected) (hr : L.Meets rest b share
      (Returns share (Concludes L bound resolved r fields {}))) :
      L.Meets ((Routine.act (Session.form r)).bind fun _ => rest) b share
        (Returns share (Concludes L bound resolved r fields {})) := by
    have read := h.form.frame (h.free_share.above b) (le_refl b)
    rw [zero_add] at read
    refine read.bind fun _ k ⟨k', hk, hk'⟩ => ?_
    rw [hk, hk', zero_add]
    exact hr
  unfold Plan.execute
  split
  · exact opened _ main
  · exact main

theorem Fares.gather (h : Fares L catalogue r b share bound resolved fields)
    (plain : ∀ f ∈ fields, f.source ≠ .dependency) (g : Gathering) :
    L.Meets (Routine.act (Gathering.gather r fields g)) b share fun g' m =>
      Returns share (Concludes L bound resolved r fields g) (g'.finish.mapError .validation) m := by
  induction fields generalizing g with
  | nil => exact Custody.meets_act fun f s keeps => ⟨share, keeps, h.concluded g⟩
  | cons f fs ih =>
    have ih := ih h.tail fun f hf => plain f (List.mem_cons_of_mem _ hf)
    unfold Gathering.gather
    cases hf : f.feed with
    | request => exact (ih _).mono fun x k hx => hx.mono fun x k hx => .request hf hx
    | extract e =>
      have applied := (h.extract f (by simp) e hf).frame (h.free_share.above b) (le_refl b)
      rw [zero_add] at applied
      refine Custody.meets_act_bind applied fun x k ended => ?_
      obtain ⟨k', hk, hx⟩ := ended
      rw [hk, add_comm]
      have framed := (ih (g.add f.pass f.name x)).frame ((h.free_bound e x k' hx).above b)
        (le_refl b)
      refine framed.mono fun g' l ended => ?_
      obtain ⟨l', hl, rest⟩ := ended
      rw [hl]
      exact rest.add fun _ _ rest => .extract hf hx rest
    | dependency d => exact absurd (by simp [Field.source, hf, Feed.source]) (plain f (by simp))

theorem Gathering.gather_linkField (catalogue : Catalogue n) (r : Request)
    (fields : List (Field (Need (Compiled n)))) (g : Gathering) :
    gather (n := n) r (fields.map (linkField catalogue)) g = gather r fields g := by
  induction fields generalizing g with
  | nil => rfl
  | cons f fs ih =>
    simp only [List.map_cons, gather, feed_linkField, name_linkField, pass_linkField, ih]
    cases f.feed <;> rfl

theorem Fares.direct (h : Fares L catalogue r b share bound resolved fields)
    (plain : ∀ f ∈ fields, f.source ≠ .dependency) {run : DirectInjector n}
    (gathers : run.Gathers fields) :
    L.Meets ((Injector.direct run).inject r) b share
      (Returns share (Concludes L bound resolved r fields {})) := by
  have acted : L.Meets (Routine.act (run r)) b share fun out m =>
      Returns share (Concludes L bound resolved r fields {}) (out.mapError .validation) m := by
    refine Custody.meets_act fun f s keeps => ?_
    rw [gathers r s]
    exact Custody.meets_act_iff.1 (h.gather plain {}) f s keeps
  exact acted.bind fun out m hm => hm

theorem Fares.plan {c : Compiled n}
    (h : Fares L catalogue r b share bound resolved c.binding.fields) (concurrent : Bool)
    (alone : concurrent = true → share = 0) :
    L.Meets ((Plan.ofBinding (c.link catalogue) concurrent).execute r) b share
      (Returns share (Concludes L bound resolved r c.binding.fields {})) :=
  h.execute (by simp [Plan.ofBinding]) alone

theorem Fares.inject {c : Compiled n}
    (h : Fares L catalogue r b share bound resolved c.binding.fields)
    (alone : c.binding.concurrent = true → share = 0) :
    L.Meets ((c.injector catalogue).inject r) b share
      (Returns share (Concludes L bound resolved r c.binding.fields {})) := by
  unfold Compiled.injector Injector.ofBinding
  split
  · exact h.plan _ (by simpa using alone)
  · next plain =>
    split
    · next run hd =>
      refine h.direct (Binding.shape_ne_withDeps_iff.1 (by simpa using plain)) fun r s => ?_
      have gathers := (Injector.gathers_of_direct? hd).1 r s
      rwa [Compiled.fields_link, Gathering.gather_linkField] at gathers
    · exact h.plan false nofun

end

end RequestBinding
