import RequestBinding.Proofs.Injector.Verdict
import RequestBinding.Proofs.Routine.Steps

/-!
The steps in which arguments are made.  Main statement: whichever injector a handler has, its work
consists of a few kinds of steps, and each of them is about a part of the handler.
-/
namespace RequestBinding
variable {n : Nat}

/-- What a handler and those that it depends on do, one step at a time, while arguments are made for
a request. -/
inductive Compiled.Does (root : Compiled n) (r : Request) : Steps (Session n)
  | form : Does root r _ fun s => some (Session.form r s)
  /-- What comes of the step is made from what a parameter is bound to. -/
  | extract {β : Type} {x : Compiled n} {f : Field (Need (Compiled n))} {e : Extractor}
      (g : Bound → β) : root.Part x → f ∈ x.binding.fields → f.feed = .extract e →
      Does root r β fun s => some (g (e.apply r s).1, (e.apply r s).2)
  /-- Path and query are looked at in one go. -/
  | look {β : Type} (b : β) : Does root r β fun s => some (b, s)
  | beginCall {x : Compiled n} (args : CallArgs) : root.Part x →
      Does root r _ fun s => some (Session.beginCall x.binding.handler args s)
  | accept (reply : Reply) : Does root r _ fun s => some (Session.accept reply s)
  | enter {x : Compiled n} : root.Part x →
      Does root r _ fun s => some (Session.enter x.binding.handler s)
  | turn {x : Compiled n} (ticket : Nat) : root.Part x →
      Does root r _ (Session.turn x.binding.handler ticket)
  | leave {x : Compiled n} (ticket : Nat) (value : Option Arg) : root.Part x →
      Does root r _ fun s => some (Session.leave x.binding.handler ticket value s)

section
variable {root x : Compiled n} {catalogue : Catalogue n} {r : Request}
  {fields : List (Field (Need (Compiled n)))}

theorem consists_call (hx : root.Part x) (args : CallArgs) :
    (catalogue.call x.binding.handler args).Consists (root.Does r) := by
  refine (Routine.consists_pauses _).bind fun _ => ?_
  refine (Routine.consists_act (.beginCall args hx)).bind fun i => ?_
  refine (Routine.consists_pauses _).bind fun _ => ?_
  cases (catalogue x.binding.handler).reply i with
  | ok reply => exact (Routine.consists_act (.accept reply)).bind fun _ => trivial
  | error fault => exact trivial

theorem consists_resolveCached (hx : root.Part x) {make : Routine (Session n) Resolved}
    (made : make.Consists (root.Does r)) :
    (resolveCached x.binding.handler make).Consists (root.Does r) := by
  refine (Routine.consists_act (.enter hx)).bind fun ticket => ?_
  refine (Routine.consists_await (.turn ticket hx)).bind fun found => ?_
  cases found with
  | some a => exact trivial
  | none => exact made.bind fun out =>
      (Routine.consists_act (.leave ticket out.toOption hx)).bind fun _ => trivial

structure Compiled.Parts (root : Compiled n) (catalogue : Catalogue n) (r : Request)
    (fields : List (Field (Need (Compiled n)))) : Prop where
  extract : ∀ f ∈ fields, ∀ e, f.feed = .extract e →
    root.Does r _ fun s => some (e.apply r s)
  resolve : ∀ f ∈ fields, ∀ d, f.feed = .dependency d →
    ((linkNeed catalogue d).resolve r).Consists (root.Does r)

theorem consists_resolved {P : Steps (Session n)} {resolved : Resolved}
    {next : Arg → Routine (Session n) Injected} {vs : List Violation}
    (rest : ∀ a, (next a).Consists P) : Routine.Consists P (match resolved with
      | .ok arg => next arg
      | .error (.validation vs') => pure (.error (.validation (vs ++ vs')))
      | .error fault => pure (.error fault)) := by
  rcases resolved with fault | a
  · cases fault <;> exact trivial
  · exact rest a

theorem consists_follow (parts : root.Parts catalogue r fields)
    {ps : List (Step n × Option Resolved)}
    (steps : ps.map Prod.fst = (fields.map (linkField catalogue)).map .ofField) (g : Gathering) :
    (Plan.follow r ps g).Consists (root.Does r) := by
  induction ps generalizing fields g with
  | nil => exact trivial
  | cons p ps ih =>
    obtain _ | ⟨f, fs⟩ := fields
    · simp at steps
    · obtain ⟨step, known⟩ := p
      simp only [List.map_cons, List.cons.injEq] at steps
      obtain ⟨rfl, steps⟩ := steps
      have tail : root.Parts catalogue r fs :=
        ⟨fun f hf => parts.extract f (by simp [hf]), fun f hf => parts.resolve f (by simp [hf])⟩
      have rest := ih tail steps
      simp only [Plan.follow, Step.ofField, feed_linkField]
      cases hf : f.feed with
      | request => exact rest _
      | extract e =>
        exact (Routine.consists_act (parts.extract f (by simp) e hf)).bind fun _ => rest _
      | dependency d =>
        cases known with
        | some x => exact consists_resolved fun _ => rest _
        | none =>
          exact (parts.resolve f (by simp) d hf).bind fun _ => consists_resolved fun _ => rest _

theorem consists_execute (parts : root.Parts catalogue r fields) {plan : Plan n}
    (steps : plan.steps = (fields.map (linkField catalogue)).map .ofField) :
    (plan.execute r).Consists (root.Does r) := by
  have early : (Routine.all (plan.early.map fun link => link.resolve r)).Consists
      (root.Does r) := by
    refine Routine.consists_all fun q hq => ?_
    obtain ⟨link, hlink, rfl⟩ := List.mem_map.1 hq
    rcases plan.early_eq with none | ⟨_, all⟩
    · simp [none] at hlink
    · rw [all, steps, filterMap_async?] at hlink
      obtain ⟨d, hd, rfl⟩ := List.mem_map.1 hlink
      obtain ⟨f, hf, asked⟩ := List.mem_filterMap.1 hd
      exact parts.resolve f hf d (feed_of_asyncNeed? asked)
  have main : Routine.Consists (root.Does r)
      ((Routine.all (plan.early.map fun link => link.resolve r)).bind fun results =>
        Plan.follow r (Plan.prepare plan.steps results) {}) :=
    early.bind fun results =>
      consists_follow parts ((Plan.map_fst_prepare _ _).trans steps) {}
  unfold Plan.execute
  split
  · exact (Routine.consists_act .form).bind fun _ => main
  · exact main

/-- Injectors in one go only look at path and query, or take the body alone. -/
theorem DirectInjector.looks_or_takes {b : Binding n (Link n)} {run : DirectInjector n}
    (h : Injector.direct? b = some run) (r : Request) :
    (∃ out, run r = pure out) ∨ ∃ f ∈ b.fields, ∃ e, f.feed = .extract e ∧
      ∃ g : Bound → Except (List Violation) CallArgs,
        ∀ s, run r s = (g (e.apply r s).1, (e.apply r s).2) := by
  unfold Injector.direct? at h
  split at h
  · cases h
    exact .inl ⟨_, rfl⟩
  · unfold requestOnly? at h
    split at h
    · cases h
      exact .inl ⟨_, rfl⟩
    · nomatch h
  · simp only [singleView?, Option.bind_eq_bind, Option.bind_eq_some_iff, Option.pure_def,
      Option.some.injEq] at h
    obtain ⟨entries, _, rfl⟩ := h
    exact .inl ⟨_, rfl⟩
  · simp only [singleView?, Option.bind_eq_bind, Option.bind_eq_some_iff, Option.pure_def,
      Option.some.injEq] at h
    obtain ⟨entries, _, rfl⟩ := h
    exact .inl ⟨_, rfl⟩
  · unfold bodyOnly? at h
    split at h
    · next f fields =>
      split at h
      · next t embed decoder feed =>
        cases h
        refine .inr ⟨f, by simp [fields], _, feed, fun bound => bound.bind fun arg =>
          .ok (if f.pass = .positional then ⟨[arg], ∅⟩
            else ⟨[], Dictionary.insert ∅ f.name arg⟩), fun s => ?_⟩
        simp only [bind, StateT.bind]
        rcases (Extractor.body t embed decoder).apply r s with ⟨_ | a, s'⟩
        · rfl
        · cases f.pass <;> rfl
      · nomatch h
    · nomatch h
  · simp only [pathAndQuery?, Option.bind_eq_bind, Option.bind_eq_some_iff, Option.pure_def,
      Option.some.injEq] at h
    obtain ⟨entries, _, rfl⟩ := h
    exact .inl ⟨_, rfl⟩
  · nomatch h
  · nomatch h

theorem feed_of_mem_fields_link {f : Field (Link n)} (hf : f ∈ (x.link catalogue).fields)
    {e : Extractor} (he : f.feed = .extract e) : ∃ g ∈ x.binding.fields, g.feed = .extract e := by
  rw [Compiled.fields_link] at hf
  obtain ⟨g, hg, rfl⟩ := List.mem_map.1 hf
  rw [feed_linkField] at he
  refine ⟨g, hg, ?_⟩
  cases feed : g.feed <;> simp_all [linkFeed]

theorem consists_direct (hx : root.Part x) {run : DirectInjector n}
    (h : Injector.direct? (x.link catalogue) = some run) :
    ((Injector.direct run).inject r).Consists (root.Does r) := by
  have once : root.Does r _ fun s => some (run r s) := by
    rcases DirectInjector.looks_or_takes h r with ⟨out, look⟩ | ⟨f, hf, e, he, g, take⟩
    · rw [look]
      exact .look out
    · obtain ⟨f, hf, he⟩ := feed_of_mem_fields_link hf he
      rw [show run r = fun s => (g (e.apply r s).1, (e.apply r s).2) from funext take]
      exact .extract g hx hf he
  exact (Routine.consists_act once).bind fun _ => trivial

theorem consists_injectPart (hx : root.Part x) (parts : root.Parts catalogue r x.binding.fields) :
    ((x.injector catalogue).inject r).Consists (root.Does r) := by
  unfold Compiled.injector Injector.ofBinding
  split
  · exact consists_execute parts (x.steps_ofBinding _)
  · split
    · next run hd => exact consists_direct hx hd
    · exact consists_execute parts (x.steps_ofBinding _)

theorem Compiled.parts (hx : root.Part x)
    (h : ∀ d ∈ x.needs, (d.target.produce catalogue r).Consists (root.Does r)) :
    root.Parts catalogue r x.binding.fields where
  extract _ hf _ he := .extract id hx hf he
  resolve f hf d hd := by
    have need := mem_needs_iff.2 ⟨f, hf, hd⟩
    rw [resolve_linkNeed]
    split
    · exact consists_resolveCached (hx.need need) (h d need)
    · exact h d need

theorem consists_produce (hx : root.Part x) :
    (x.produce catalogue r).Consists (root.Does r) := by
  induction x using Compiled.induction with
  | step x ih =>
    have parts : root.Parts catalogue r x.binding.fields :=
      Compiled.parts hx fun d hd => ih d hd (hx.need hd)
    refine (consists_injectPart hx parts).bind fun out => ?_
    cases out with
    | ok args => exact consists_call hx args
    | error fault => exact trivial

/-- The work of an injector consists of steps about the parts of its handler. -/
theorem Compiled.consists_inject (c : Compiled n) (catalogue : Catalogue n) (r : Request) :
    ((c.injector catalogue).inject r).Consists (c.Does r) :=
  consists_injectPart .root (Compiled.parts .root fun _ hd => consists_produce (.need .root hd))

end

end RequestBinding
