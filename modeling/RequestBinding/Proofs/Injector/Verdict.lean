import RequestBinding.Proofs.Contents.Reading
import RequestBinding.Proofs.Injector.Arguments
import RequestBinding.Proofs.Resolution.Counting
import RequestBinding.Proofs.Resolution.Upkeep

/-!
Which violations a request is answered with.  Fields come to arguments and violations in the order
of declaration, up to the first dependency that fails.  Main statement: whichever injector is used,
its answer is the verdict on what the fields came to, and the violations in it are theirs, in order.
-/
namespace RequestBinding
variable {n : Nat} {δ : Type}

namespace Plan

def collect (r : Request) : List (Step n × Option Resolved) → Routine (Session n) (List Resolved)
  | [] => pure []
  | (s, known) :: rest =>
    match s.feed with
    | .request => do return .ok (.request r) :: (← collect r rest)
    | .extract e => do
      let bound ← Routine.act (e.apply r)
      return bound.mapError .validation :: (← collect r rest)
    | .dependency link => do
      let resolved ← match known with
        | some x => pure x
        | none => link.resolve r
      match resolved with
      | .ok arg => return .ok arg :: (← collect r rest)
      | .error fault => return [.error fault]

def outcomes (p : Plan n) (r : Request) : Routine (Session n) (List Resolved) := do
  if p.needsForm then
    let _ ← Routine.act (Session.form r)
  let results ← Routine.all (p.early.map fun link => link.resolve r)
  collect r (prepare p.steps results)

end Plan

def Compiled.outcomes (c : Compiled n) (catalogue : Catalogue n) (r : Request) :
    Routine (Session n) (List Resolved) :=
  (Plan.ofBinding (c.link catalogue) c.binding.concurrent).outcomes r

/-- What fields can come to, given what extractors can be bound to.  Nothing comes after a
dependency that failed. -/
inductive Processed (bound : Extractor → Bound → Prop) (r : Request) :
    List (Field δ) → List Resolved → Prop
  | nil : Processed bound r [] []
  | request {f : Field δ} {fs : List (Field δ)} {xs : List Resolved} : f.feed = .request →
      Processed bound r fs xs → Processed bound r (f :: fs) (.ok (.request r) :: xs)
  | extract {f : Field δ} {fs : List (Field δ)} {xs : List Resolved} {e : Extractor} {x : Bound} :
      f.feed = .extract e → bound e x → Processed bound r fs xs →
      Processed bound r (f :: fs) (x.mapError .validation :: xs)
  | dependency {f : Field δ} {fs : List (Field δ)} {xs : List Resolved} {d : δ} {a : Arg} :
      f.feed = .dependency d → Processed bound r fs xs → Processed bound r (f :: fs) (.ok a :: xs)
  | failed {f : Field δ} {fs : List (Field δ)} {d : δ} {fault : Fault} :
      f.feed = .dependency d → Processed bound r (f :: fs) [.error fault]

theorem Processed.mono {bound bound' : Extractor → Bound → Prop} {r : Request}
    {fields : List (Field δ)} {xs : List Resolved} (h : Processed bound r fields xs)
    (weaken : ∀ f ∈ fields, ∀ e, f.feed = .extract e → ∀ x, bound e x → bound' e x) :
    Processed bound' r fields xs := by
  induction h with
  | nil => exact .nil
  | request hf _ ih => exact .request hf (ih fun g hg => weaken g (List.mem_cons_of_mem _ hg))
  | @extract f fs xs e x hf hx _ ih =>
    exact .extract hf (weaken f (by simp) e hf x hx)
      (ih fun g hg => weaken g (List.mem_cons_of_mem _ hg))
  | dependency hf _ ih =>
    exact .dependency hf (ih fun g hg => weaken g (List.mem_cons_of_mem _ hg))
  | failed hf => exact .failed hf

def Fault.violations : Fault → List Violation
  | .validation vs => vs
  | _ => []

def violationsOf (xs : List Resolved) : List Violation :=
  xs.flatMap fun
    | .ok _ => []
    | .error fault => fault.violations

def failed? : List (Field δ) → List Resolved → Option Fault
  | f :: fs, x :: xs =>
    match f.feed, x with
    | .dependency _, .error fault => some fault
    | _, _ => failed? fs xs
  | _, _ => none

/-- The arguments of fields that all came to one. -/
def args? (xs : List Resolved) : Option (List Arg) := xs.mapM Except.toOption

/-- The answer to what fields came to.  A dependency that failed is answered with its fault, and if
that is violations then with all violations up to it; else there are arguments if nothing failed,
and all violations if something did. -/
def verdict (fields : List (Field δ)) (xs : List Resolved) : Injected :=
  match failed? fields xs with
  | some (.validation _) => .error (.validation (violationsOf xs))
  | some fault => .error fault
  | none =>
    match args? xs with
    | some args => .ok (CallArgs.pushAll {} fields args)
    | none => .error (.validation (violationsOf xs))

/-- Go through what fields came to as a plan does, with the arguments and violations so far. -/
def Gathering.conclude : List (Field δ) → List Resolved → Gathering → Injected
  | f :: fs, .ok a :: xs, g => conclude fs xs (g.push f.pass f.name a)
  | f :: fs, .error fault :: xs, g =>
    match f.feed with
    | .dependency _ => .error (fault.after g.violations)
    | _ => conclude fs xs { g with violations := g.violations ++ fault.violations }
  | _, _, g => g.finish.mapError .validation

section
variable {bound : Extractor → Bound → Prop} {r : Request} {fields : List (Field δ)}
  {xs : List Resolved}

@[simp] theorem args?_nil : args? [] = some [] := rfl

@[simp] theorem args?_ok (a : Arg) : args? (.ok a :: xs) = (args? xs).map (a :: ·) := by
  rw [args?, List.mapM_cons]
  exact (Option.map_eq_bind ..).symm

@[simp] theorem args?_error (fault : Fault) : args? (.error fault :: xs) = none := rfl

@[simp] theorem violationsOf_nil : violationsOf [] = [] := rfl

@[simp] theorem violationsOf_ok (a : Arg) : violationsOf (.ok a :: xs) = violationsOf xs := rfl

@[simp] theorem violationsOf_error (fault : Fault) :
    violationsOf (.error fault :: xs) = fault.violations ++ violationsOf xs := rfl

@[simp] theorem failed?_nil : failed? fields [] = none := by cases fields <;> rfl

@[simp] theorem failed?_ok (f : Field δ) (a : Arg) :
    failed? (f :: fields) (.ok a :: xs) = failed? fields xs := by
  cases hf : f.feed <;> simp [failed?, hf]

theorem failed?_extract {f : Field δ} {e : Extractor} (hf : f.feed = .extract e) (x : Resolved) :
    failed? (f :: fields) (x :: xs) = failed? fields xs := by
  simp [failed?, hf]

namespace Gathering

def verdict (g : Gathering) (fields : List (Field δ)) (xs : List Resolved) : Injected :=
  match failed? fields xs with
  | some (.validation _) => .error (.validation (g.violations ++ violationsOf xs))
  | some fault => .error fault
  | none =>
    match g.violations, args? xs with
    | [], some args => .ok (g.args.pushAll fields args)
    | vs, _ => .error (.validation (vs ++ violationsOf xs))

theorem verdict_empty (fields : List (Field δ)) (xs : List Resolved) :
    verdict {} fields xs = RequestBinding.verdict fields xs := by
  unfold verdict RequestBinding.verdict
  cases args? xs <;> rfl

theorem verdict_ok (g : Gathering) (f : Field δ) (a : Arg) :
    g.verdict (f :: fields) (.ok a :: xs) = (g.push f.pass f.name a).verdict fields xs := by
  unfold verdict
  rw [failed?_ok, violationsOf_ok, args?_ok, push]
  cases g.violations <;> cases args? xs <;> rfl

theorem verdict_extract (g : Gathering) {f : Field δ} {e : Extractor} (hf : f.feed = .extract e)
    {vs : List Violation} (explained : vs ≠ []) :
    g.verdict (f :: fields) (.error (.validation vs) :: xs) =
      verdict { g with violations := g.violations ++ vs } fields xs := by
  obtain ⟨v, vs, rfl⟩ := List.exists_cons_of_ne_nil explained
  unfold verdict
  rw [failed?_extract hf, violationsOf_error, args?_error]
  simp only [Fault.violations, ← List.append_assoc]
  cases g.violations <;> rfl

theorem verdict_failed (g : Gathering) {f : Field δ} {d : δ} (hf : f.feed = .dependency d)
    (fault : Fault) :
    g.verdict (f :: fields) [.error fault] = .error (fault.after g.violations) := by
  have failed : failed? (f :: fields) [.error fault] = some fault := by simp [failed?, hf]
  unfold verdict
  rw [failed]
  cases fault <;> simp [Fault.after, Fault.violations]

theorem conclude_eq (explained : ∀ e, ¬bound e (.error [])) (h : Processed bound r fields xs)
    (g : Gathering) : g.conclude fields xs = g.verdict fields xs := by
  induction h generalizing g with
  | nil =>
    rcases g with ⟨args, _ | ⟨v, vs⟩⟩
    · rfl
    · simp [conclude, verdict, finish, Except.mapError]
  | request _ _ ih => rw [conclude, ih, verdict_ok]
  | dependency _ _ ih => rw [conclude, ih, verdict_ok]
  | @extract f fs xs e x hf hx _ ih =>
    cases x with
    | ok a =>
      rw [Except.mapError, conclude, ih, verdict_ok]
    | error vs =>
      have why : vs ≠ [] := fun none => explained e (none ▸ hx)
      simp only [Except.mapError, conclude, hf, Fault.violations]
      rw [ih, verdict_extract g hf why]
  | failed hf =>
    rw [verdict_failed g hf]
    simp only [conclude, hf]

end Gathering

end

section
variable {catalogue : Catalogue n} {r : Request} {fields : List (Field (Need (Compiled n)))}

/-- A plan concludes its arguments from what its steps come to. -/
theorem Plan.follow_eq {ps : List (Step n × Option Resolved)}
    (steps : ps.map Prod.fst = (fields.map (linkField catalogue)).map .ofField) (g : Gathering) :
    follow r ps g = (collect r ps).bind fun xs => .done (g.conclude fields xs) := by
  induction ps generalizing fields g with
  | nil =>
    obtain rfl : fields = [] := by simpa using steps.symm
    rfl
  | cons p ps ih =>
    obtain _ | ⟨f, fs⟩ := fields
    · simp at steps
    · obtain ⟨step, known⟩ := p
      simp only [List.map_cons, List.cons.injEq] at steps
      obtain ⟨rfl, steps⟩ := steps
      simp only [follow, collect, Step.ofField, feed_linkField, name_linkField, pass_linkField]
      cases hf : f.feed with
      | request =>
        simp only [linkFeed, Routine.bind_eq_bind, Routine.bind_assoc]
        exact ih steps _
      | extract e =>
        simp only [linkFeed, Routine.bind_eq_bind, Routine.bind_assoc]
        refine congrArg _ (funext fun x => ?_)
        rw [ih steps]
        cases x with
        | ok a => rfl
        | error vs =>
          simp only [Except.mapError, Gathering.add, Routine.pure_eq_done, Routine.done_bind,
            Gathering.conclude, hf, Fault.violations]
      | dependency d =>
        have made (a : Arg) : follow r ps (g.push f.pass f.name a) =
            ((collect r ps).bind fun xs => .done (.ok a :: xs)).bind fun xs =>
              .done (g.conclude (f :: fs) xs) := by
          rw [ih steps, Routine.bind_assoc]
          rfl
        have failed (fault : Fault) :
            (.done (g.conclude (f :: fs) [.error fault]) : Routine (Session n) Injected) =
              .done (.error (fault.after g.violations)) := by
          simp only [Gathering.conclude, hf]
        simp only [linkFeed, Routine.bind_eq_bind, Routine.pure_eq_done]
        cases known with
        | some x =>
          cases x with
          | ok a => exact made a
          | error fault =>
            refine Eq.trans ?_ (failed fault).symm
            cases fault <;> rfl
        | none =>
          let asked : Routine (Session n) Resolved := (linkNeed catalogue d).resolve r
          refine (congrArg asked.bind (funext fun x => ?_)).trans (asked.bind_assoc _ _).symm
          cases x with
          | ok a => exact made a
          | error fault =>
            refine Eq.trans ?_ (failed fault).symm
            cases fault <;> rfl

theorem Plan.map_fst_prepare (steps : List (Step n)) (results : List Resolved) :
    (prepare steps results).map Prod.fst = steps := by
  induction steps generalizing results with
  | nil => rfl
  | cons s ss ih =>
    cases results with
    | nil => simp [prepare, ih]
    | cons x xs =>
      unfold prepare
      split <;> simp [ih]

theorem Plan.execute_eq (p : Plan n)
    (steps : p.steps = (fields.map (linkField catalogue)).map .ofField) :
    p.execute r = (p.outcomes r).bind fun xs => .done (Gathering.conclude fields xs {}) := by
  have prepared (results : List Resolved) : follow r (prepare p.steps results) {} =
      (collect r (prepare p.steps results)).bind fun xs =>
        .done (Gathering.conclude fields xs {}) :=
    follow_eq ((map_fst_prepare _ _).trans steps) {}
  unfold execute outcomes
  split
  · simp only [Routine.bind_eq_bind, Routine.bind_assoc, prepared]
  · simp only [Routine.bind_eq_bind, Routine.bind_assoc, prepared]

theorem Plan.early_of_plain {p : Plan n}
    (steps : p.steps = (fields.map (linkField catalogue)).map .ofField)
    (plain : ∀ f ∈ fields, f.source ≠ .dependency) : p.early = [] := by
  have none : fields.filterMap asyncNeed? = [] := by
    rw [List.filterMap_eq_nil_iff]
    intro f hf
    have := plain f hf
    cases feed : f.feed <;> simp_all [asyncNeed?, Feed.dependency?, Field.source, Feed.source]
  unfold early
  rw [steps, filterMap_async?, none]
  simp

theorem Compiled.outcomes_of_moves {c : Compiled n} {s t : Session n} {out : Injected}
    (moves : Routine.Moves ((c.injector catalogue).inject r) s (.done out) t) :
    ∃ xs, Routine.Moves (c.outcomes catalogue r) s (.done xs) t ∧
      out = Gathering.conclude c.binding.fields xs {} := by
  have planned (concurrent : Bool) (moves : Routine.Moves
      ((Plan.ofBinding (c.link catalogue) concurrent).execute r) s (.done out) t) :
      ∃ xs, Routine.Moves ((Plan.ofBinding (c.link catalogue) concurrent).outcomes r) s
        (.done xs) t ∧ out = Gathering.conclude c.binding.fields xs {} := by
    rw [Plan.execute_eq _ (c.steps_ofBinding concurrent)] at moves
    obtain ⟨xs, u, outcomes, concluded⟩ := moves.bind_answer
    obtain ⟨eq, rfl⟩ := concluded.eq_of_done
    cases eq
    exact ⟨xs, outcomes, rfl⟩
  by_cases plain : (c.link catalogue).shape = .withDeps
  · simp only [injector, Injector.ofBinding, plain, if_true, Injector.inject] at moves
    simpa [outcomes] using planned _ moves
  · -- the plan comes to the same answer, and with nothing to resolve it can be concurrent as well
    obtain ⟨outcome, u, chosen, full⟩ := Injector.ofBinding_agrees plain r s
    obtain ⟨same, rfl⟩ := Routine.Ends.of_moves chosen moves
    obtain ⟨out', t', run, same', rfl⟩ := full.run
    obtain ⟨xs, collected, concluded⟩ := planned false (by
      rw [same, ← same']
      exact Routine.moves_of_run run)
    refine ⟨xs, ?_, concluded⟩
    have fields := Binding.shape_ne_withDeps_iff.1 (by simpa using plain)
    have early (concurrent : Bool) : (Plan.ofBinding (c.link catalogue) concurrent).early = [] :=
      Plan.early_of_plain (c.steps_ofBinding concurrent) fields
    unfold outcomes Plan.outcomes
    unfold Plan.outcomes at collected
    rw [early] at collected ⊢
    exact collected

section
variable {I : Session n → Prop} {b : Nat} {bound : Extractor → Bound → Prop}

theorem Fares.collect (h : Fares (Custody.invariant I) catalogue r b 0 (fun e x _ => bound e x)
      (fun _ _ _ => True) fields) {ps : List (Step n × Option Resolved)}
    (steps : ps.map Prod.fst = (fields.map (linkField catalogue)).map .ofField) :
    (Custody.invariant I).Meets (Plan.collect r ps) b 0 fun xs _ =>
      Processed bound r fields xs := by
  induction ps generalizing fields with
  | nil =>
    obtain rfl : fields = [] := by simpa using steps.symm
    exact Custody.meets_done .nil
  | cons p ps ih =>
    obtain _ | ⟨f, fs⟩ := fields
    · simp at steps
    · obtain ⟨step, known⟩ := p
      simp only [List.map_cons, List.cons.injEq] at steps
      obtain ⟨rfl, steps⟩ := steps
      have rest := ih h.tail steps
      simp only [Plan.collect, Step.ofField, feed_linkField]
      cases hf : f.feed with
      | request => exact rest.bind fun xs _ hxs => Custody.meets_done (.request hf hxs)
      | extract e =>
        exact (h.extract f (by simp) e hf).bind fun x _ hx =>
          rest.bind fun xs _ hxs => Custody.meets_done (.extract hf hx hxs)
      | dependency d =>
        have made (a : Arg) : (Custody.invariant I).Meets
            ((Plan.collect r ps).bind fun xs => .done (.ok a :: xs)) b 0 fun xs _ =>
              Processed bound r (f :: fs) xs :=
          rest.bind fun xs _ hxs => Custody.meets_done (.dependency hf hxs)
        have failed (fault : Fault) : (Custody.invariant I).Meets (.done [.error fault]) b 0
            fun xs _ => Processed bound r (f :: fs) xs := Custody.meets_done (.failed hf)
        cases known with
        | some x =>
          cases x with
          | ok a => exact made a
          | error fault => exact failed fault
        | none =>
          refine (h.resolve f (by simp) d hf).bind fun x _ _ => ?_
          cases x with
          | ok a => exact made a
          | error fault => exact failed fault

theorem Fares.outcomes (h : Fares (Custody.invariant I) catalogue r b 0 (fun e x _ => bound e x)
      (fun _ _ _ => True) fields) {p : Plan n}
    (steps : p.steps = (fields.map (linkField catalogue)).map .ofField) :
    (Custody.invariant I).Meets (p.outcomes r) b 0 fun xs _ => Processed bound r fields xs := by
  have early : (Custody.invariant I).Meets
      (Routine.all (p.early.map fun link => link.resolve r)) b 0 fun _ _ => True := by
    rcases p.early_eq with early | ⟨_, early⟩
    · rw [early]
      exact trivial
    · have each : ∀ d ∈ fields.filterMap asyncNeed?,
          (Custody.invariant I).Meets ((linkNeed catalogue d).resolve r) b 0 fun _ _ => True := by
        intro d hd
        obtain ⟨f, hf, hd⟩ := List.mem_filterMap.1 hd
        exact (h.resolve f hf d (feed_of_asyncNeed? hd)).mono fun _ _ _ => trivial
      rw [early, steps, filterMap_async?, List.map_map]
      exact (Custody.meets_all (fun _ _ _ _ => Custody.free_invariant) each).mono
        fun _ _ _ => trivial
  have main : (Custody.invariant I).Meets
      ((Routine.all (p.early.map fun link => link.resolve r)).bind fun results =>
        Plan.collect r (Plan.prepare p.steps results)) b 0 fun xs _ =>
          Processed bound r fields xs :=
    early.bind fun results _ _ => h.collect ((Plan.map_fst_prepare _ _).trans steps)
  unfold Plan.outcomes
  split
  · exact h.form.bind fun _ _ _ => main
  · exact main

end

/-- The answer of an injector is the verdict on what the fields came to; extractors were applied
where the property held. -/
theorem Compiled.verdict_of_moves {I : Session n → Prop} {c : Compiled n} (h : Upkeep c r I)
    {s t : Session n} (holds : I s) {out : Injected}
    (moves : Routine.Moves ((c.injector catalogue).inject r) s (.done out) t) :
    ∃ xs, Routine.Moves (c.outcomes catalogue r) s (.done xs) t ∧
      Processed (fun e x => ∃ u, I u ∧ (e.apply r u).1 = x) r c.binding.fields xs ∧
        out = verdict c.binding.fields xs := by
  obtain ⟨xs, collected, rfl⟩ := c.outcomes_of_moves moves
  have meets := (h.fares_root catalogue (b := 0)).outcomes (c.steps_ofBinding c.binding.concurrent)
  obtain ⟨_, _, processed⟩ := meets.answer holds collected
  refine ⟨xs, collected, processed, ?_⟩
  have explained (e : Extractor) : ¬∃ u, I u ∧ (e.apply r u).1 = .error [] :=
    fun ⟨u, _, hu⟩ => e.apply_ne_error_nil r u hu
  rw [Gathering.conclude_eq explained processed, Gathering.verdict_empty]

/-- No step but an extractor touches the body, and that decodes it as it is to be. -/
theorem Compiled.Faithful.upkeep_reads {config : Config n} {route : RoutePattern} {method : Method}
    {c : Compiled n} (faithful : c.Faithful catalogue config route method) :
    Upkeep c r fun s => s.Reads config.decoder r.body where
  form _ h := h
  apply x hx f hf e he s h :=
    (e.read_apply (fun _ _ _ hd => (faithful x hx).decoder hf (hd ▸ he)) h).reads
  beginCall _ _ _ h := h
  accept reply s h := by cases reply <;> exact h
  enter _ _ h := h
  leave _ _ _ _ h := h

/-- The violations of each extractor are those that it finds in the request. -/
theorem Compiled.Faithful.verdict_of_moves {config : Config n} {route : RoutePattern}
    {method : Method} {c : Compiled n} (faithful : c.Faithful catalogue config route method)
    {s t : Session n} (reads : s.Reads config.decoder r.body) {out : Injected}
    (moves : Routine.Moves ((c.injector catalogue).inject r) s (.done out) t) :
    ∃ xs, Routine.Moves (c.outcomes catalogue r) s (.done xs) t ∧
      Processed (fun e x => ∀ vs, x = .error vs ↔ e.reading r = .error vs) r c.binding.fields xs ∧
        out = verdict c.binding.fields xs := by
  obtain ⟨xs, collected, processed, eq⟩ := c.verdict_of_moves faithful.upkeep_reads reads moves
  refine ⟨xs, collected, processed.mono fun f hf e he x ⟨u, hu, applied⟩ vs => ?_, eq⟩
  have read := e.read_apply (fun _ _ _ hd => (faithful c .root).decoder hf (hd ▸ he)) hu
  rw [← read.content, applied]
  cases x <;> simp [Except.map]

theorem Session.reads_of_fresh {s : Session n} (fresh : s.scope = {}) (decoder : Decoder)
    (body : Bytes) : s.Reads decoder body := fun p hp => by simp [fresh] at hp

/-- Whatever an injector answers is the verdict on what the fields came to: the fault of the
dependency that failed, if one did, or else all violations in order, if there are any.  On a fresh
scope it does answer, and the violations of each extractor are those that it finds in the
request. -/
theorem Compiled.injected_eq_verdict {compiler : Compiler n} {id : Fin n} {method : Method}
    {pattern : String} {c : Compiled n}
    (compiled : (compiler.compile catalogue id method pattern).1 = .ok c) (r : Request)
    (s : Session n) :
    (∀ out t, Routine.Moves ((c.injector catalogue).inject r) s (.done out) t →
      ∃ xs, Routine.Moves (c.outcomes catalogue r) s (.done xs) t ∧
        Processed (fun e x => ∃ u : Session n, (e.apply r u).1 = x) r c.binding.fields xs ∧
          out = verdict c.binding.fields xs) ∧
    (s.scope = {} → ((c.injector catalogue).inject r).Ends (fun out t =>
      ∃ xs, Routine.Moves (c.outcomes catalogue r) s (.done xs) t ∧
        Processed (fun e x => ∀ vs, x = .error vs ↔ e.reading r = .error vs) r c.binding.fields xs ∧
          out = verdict c.binding.fields xs) s) := by
  obtain ⟨route, _, _, faithful⟩ := faithful_of_compile compiled
  refine ⟨fun out t moves => ?_, fun fresh => ?_⟩
  · have kept : Upkeep c r fun _ => True := by constructor <;> intros <;> trivial
    obtain ⟨xs, collected, processed, eq⟩ := c.verdict_of_moves kept trivial moves
    exact ⟨xs, collected, processed.mono fun _ _ e _ x ⟨u, _, hu⟩ => ⟨u, hu⟩, eq⟩
  · have ends := (meets_injector (r := r) faithful fun _ => rfl).ends trivial
      (keeps_fresh c catalogue false fresh)
    exact ends.of_answers fun out t moves =>
      faithful.verdict_of_moves (Session.reads_of_fresh fresh _ _) moves

end

def refusedSearch (refusal : List Violation) : Catalogue 2
  | 0 => { name := "check", work := .async 0 fun _ => .error (.validation refusal) }
  | 1 => {
      name := "search"
      params := [{ name := "q", marker? := some .query },
        { name := "access", marker? := some (.depends ⟨⟨0, Nat.two_pos⟩, true⟩) }]
      work := .async 0 fun _ => .ok (.arg (.value .null)) }

def checkedSearch (check : Invocation → Except Fault Reply) : Catalogue 2
  | 0 => { name := "check", work := .async 0 check }
  | 1 => refusedSearch [] 1

def compiledCheck : Compiled 2 := .mk ⟨⟨0, Nat.two_pos⟩, "check", true, .get, ⟨"/", []⟩, true, []⟩

def compiledSearch : Compiled 2 :=
  .mk ⟨⟨1, Nat.one_lt_two⟩, "search", true, .get, ⟨"/", []⟩, true,
    [{ name := "q", schema := .any, feed := .extract (.query ⟨"q", .any, none⟩) },
      { name := "access", schema := .any, feed := .dependency ⟨true, compiledCheck⟩ }]⟩

theorem compile_checkedSearch (check : Invocation → Except Fault Reply) :
    (({ config := {} } : Compiler 2).compile (checkedSearch check) 1 .get "/").1 =
      .ok compiledSearch := by
  have checked (underWay fresh) : compileHandler (checkedSearch check) {} ⟨"/", []⟩ .get underWay
      (({} : Config 2).resolve 0) fresh = pure compiledCheck := by
    rw [compileHandler_eq fresh [] rfl, compileFields]
    rfl
  rw [fst_compile_root, compileHandler_eq (by simp)
    [⟨{ name := "q", marker? := some .query }, .query, "q"⟩,
      ⟨{ name := "access", marker? := some (.depends ⟨0, true⟩) }, .dependency, "access"⟩] rfl]
  simp only [compileFields, Placement.depends?, checked]
  rfl

theorem refusedSearch_eq (refusal : List Violation) :
    refusedSearch refusal = checkedSearch fun _ => .error (.validation refusal) := by
  funext id
  match id with
  | 0 => rfl
  | 1 => rfl

theorem compile_refusedSearch (refusal : List Violation) :
    (({ config := {} } : Compiler 2).compile (refusedSearch refusal) 1 .get "/").1 =
      .ok compiledSearch :=
  refusedSearch_eq refusal ▸ compile_checkedSearch _

theorem moves_refusedSearch : ∃ t : Session 2,
    Routine.Moves
      ((compiledSearch.injector (refusedSearch [⟨"header", "token", .missing, none⟩])).inject
        { method := .get, path := "/" }) {} (.done (.error (.validation
          [⟨"query", "q", .missing, none⟩, ⟨"header", "token", .missing, none⟩]))) t :=
  ⟨_, Routine.moves_of_along
    (show Routine.along [[], [], [], [], [], []] _ _ = some (_, _) from rfl)⟩

theorem Compiled.injected_eq_verdict_refused :
    let catalogue := refusedSearch [⟨"header", "token", .missing, none⟩]
    let r : Request := { method := .get, path := "/" }
    let vs : List Violation := [⟨"query", "q", .missing, none⟩, ⟨"header", "token", .missing, none⟩]
    (({ config := {} } : Compiler 2).compile catalogue 1 .get "/").1 = .ok compiledSearch ∧
      ∃ (t : Session 2) (xs : List Resolved),
        Routine.Moves ((compiledSearch.injector catalogue).inject r) {}
          (.done (.error (.validation vs))) t ∧
        Routine.Moves (compiledSearch.outcomes catalogue r) {} (.done xs) t ∧
        Processed (fun e x => ∃ u : Session 2, (e.apply r u).1 = x) r
          compiledSearch.binding.fields xs ∧
        .error (.validation vs) = verdict compiledSearch.binding.fields xs := by
  intro catalogue r vs
  obtain ⟨t, moves⟩ := moves_refusedSearch
  obtain ⟨xs, verdict⟩ := (injected_eq_verdict (compile_refusedSearch _) r {}).1 _ t moves
  exact ⟨compile_refusedSearch _, t, xs, moves, verdict⟩

end RequestBinding
