import RequestBinding.Proofs.Compiled.Anew
import RequestBinding.Proofs.Dispatch.Refusal
import RequestBinding.Proofs.Resolution.Steps

/-!
Whom a request calls and how it is answered.  Main statement: a handler is called once if there are
arguments for it, with these and after all that it depends on, and otherwise not at all; its result
is written down, violations are told one by one, and of any other fault nothing is told.
-/
namespace RequestBinding
variable {n : Nat}

section
variable {c root : Compiled n} {catalogue : Catalogue n} {config : Config n}
  {route : RoutePattern} {method : Method} {r : Request} {s t : Session n}

/-- Steps that each keep a property keep it in whatever order they come. -/
theorem Routine.Consists.meets {σ α : Type} {P : Steps σ} {I : σ → Prop} {routine : Routine σ α}
    {b : Nat} (h : routine.Consists P)
    (step : ∀ (s t : σ) (β : Type) (act : σ → Option (β × σ)) (b : β),
      P β act → I s → act s = some (b, t) → I t) :
    (Custody.invariant I).Meets routine b 0 fun _ _ => True := by
  induction routine with
  | done a => exact trivial
  | step act next ih =>
    intro _ s holds
    refine ⟨fun _ orderly => orderly.elim, fun c t moved => ?_⟩
    exact ⟨0, step s t _ act c h.1 holds moved, ih c (h.2 c)⟩
  | pause next ih => exact ih h
  | both left right next ihl ihr ih =>
    refine ⟨b, le_refl b, 0, 0, 0, rfl, Custody.free_zero.above b, _, _,
      fun _ _ _ => Custody.free_invariant, fun _ _ _ => Custody.free_invariant, ihl h.1, ihr h.2.1,
      fun c d _ _ _ _ => ih c d (h.2.2 c d)⟩

/-- A step begins at most one call, and one of a part. -/
theorem Compiled.Does.calls_eq {β : Type} {act : Session n → Option (β × Session n)} {b : β}
    (h : root.Does r β act) (moved : act s = some (b, t)) : t.calls = s.calls ∨
      ∃ x k, root.Part x ∧ k.handler = x.binding.handler ∧ t.calls = s.calls ++ [k] := by
  cases h with
  | form | look | enter | leave =>
    cases moved
    exact .inl rfl
  | @extract _ _ _ e _ _ _ _ =>
    cases moved
    exact .inl (e.aside_apply r s).1
  | beginCall args hx =>
    cases moved
    exact .inr ⟨_, _, hx, rfl, rfl⟩
  | accept reply =>
    obtain rfl : (Session.accept reply s).2 = t := congrArg Prod.snd (Option.some.inj moved)
    exact .inl (Session.aside_accept reply s).1
  | turn ticket _ =>
    obtain ⟨_, _, eq⟩ := Option.map_eq_some_iff.1 moved
    cases eq
    exact .inl rfl

/-- Since the start, only handlers were called that some part of this one depends on. -/
def Compiled.OnlyReached (c : Compiled n) (start t : Session n) : Prop :=
  ∃ calls, t.calls = start.calls ++ calls ∧ ∀ k ∈ calls, c.Reaches k.handler

theorem Compiled.Part.reaches {x : Compiled n} {e : Need (Compiled n)} (he : e ∈ c.needs)
    (hx : e.target.Part x) : c.Reaches x.binding.handler := by
  cases hx with
  | root => exact ⟨c, .root, e, he, rfl⟩
  | @need y d hy hd => exact ⟨y, (Part.need .root he).trans hy, d, hd, rfl⟩

theorem Compiled.OnlyReached.does (h : c.OnlyReached s t) {e : Need (Compiled n)}
    (he : e ∈ c.needs) {β : Type} {act : Session n → Option (β × Session n)} {b : β}
    (does : e.target.Does r β act) {u : Session n} (moved : act t = some (b, u)) :
    c.OnlyReached s u := by
  obtain ⟨calls, logged, reached⟩ := h
  rcases does.calls_eq moved with same | ⟨x, k, hx, handler, more⟩
  · exact ⟨calls, same.trans logged, reached⟩
  · refine ⟨calls ++ [k], by rw [more, logged, List.append_assoc], fun l hl => ?_⟩
    rcases List.mem_append.1 hl with old | new
    · exact reached l old
    · rw [List.mem_singleton.1 new, handler]
      exact hx.reaches he

theorem Compiled.OnlyReached.aside {α : Type} {act : StateM (Session n) α} (h : c.OnlyReached s t)
    (aside : Aside act) : c.OnlyReached s (act t).2 :=
  h.imp fun _ ⟨logged, reached⟩ => ⟨(aside t).1.trans logged, reached⟩

/-- While the arguments of a handler are made, nobody calls the handler itself. -/
theorem Compiled.onlyReached_of_moves {q : Routine (Session n) Injected}
    (moves : Routine.Moves ((c.injector catalogue).inject r) s q t) : c.OnlyReached s t := by
  let I : Session n → Prop := c.OnlyReached s
  have fares : Fares (Custody.invariant I) catalogue r 0 0 (fun _ _ _ => True)
      (fun _ _ _ => True) c.binding.fields := {
    form := (meets_kept fun _ h => h.aside (Session.aside_form r)).mono fun _ _ _ => rfl
    extract := fun f hf e he =>
      (meets_kept fun _ h => h.aside (e.aside_apply r)).mono fun _ _ _ => trivial
    resolve := fun f hf d hd => by
      have need := mem_needs_iff.2 ⟨f, hf, hd⟩
      have consists : ((linkNeed catalogue d).resolve r).Consists (d.target.Does r) := by
        rw [resolve_linkNeed]
        split
        · exact consists_resolveCached .root (consists_produce .root)
        · exact consists_produce .root
      refine (consists.meets fun _ _ _ _ _ does h moved => h.does need does moved).mono ?_
      exact fun _ _ _ => returns_zero.2 trivial
    free_share := Custody.free_invariant
    free_bound := fun _ _ _ _ => Custody.free_invariant
    free_resolved := fun _ _ _ _ => Custody.free_invariant }
  obtain ⟨_, kept, _⟩ := (fares.inject fun _ => rfl).moves (f := 0) ⟨[], by simp⟩ moves
  exact kept

theorem Compiled.Faithful.ne_of_reaches (h : c.Faithful catalogue config route method) {d : Fin n}
    (reached : c.Reaches d) : d ≠ c.binding.handler := by
  rintro rfl
  obtain ⟨x, hx, e, he, same⟩ := reached
  have eq : e.target = c := h.coherent _ _ (hx.need he) .root same
  have lt : sizeOf c < sizeOf x := eq ▸ sizeOf_target_lt he
  exact absurd hx.sizeOf_le lt.not_ge

end

/-- What a handler comes to with what was made of its arguments, after some calls, and all calls
then.  If there are no arguments nobody calls it; otherwise it is called once, with these. -/
inductive Compiled.Invoked (c : Compiled n) (catalogue : Catalogue n) (before : List (Call n)) :
    Injected → Resolved → List (Call n) → Prop
  | refused (fault : Fault) : Invoked c catalogue before (.error fault) (.error fault) before
  | called {args : CallArgs} {k : Call n} {result : Resolved} :
      k.handler = c.binding.handler → k.invocation.args = args → catalogue.Replied k result →
      Invoked c catalogue before (.ok args) result (before ++ [k])

section
variable {c : Compiled n} {catalogue : Catalogue n} {r : Request} {s : Session n}

theorem Compiled.invoke_ends {config : Config n} {route : RoutePattern} {method : Method}
    (faithful : c.Faithful catalogue config route method) (fresh : s.scope = {}) :
    (c.invoke catalogue r).Ends (fun result t => ∃ out u,
      Routine.Moves ((c.injector catalogue).inject r) s (.done out) u ∧
      c.Invoked catalogue u.calls out result t.calls) s := by
  have injected := (meets_injector (r := r) faithful fun _ => rfl).ends trivial
    (keeps_fresh c catalogue false fresh)
  refine (injected.of_answers fun out t moves => moves).bind fun out u moves => ?_
  cases out with
  | error fault => exact .ended _ _ ⟨.error fault, u, moves, .refused fault⟩
  | ok args =>
    refine Routine.Ends.bind (Routine.comesTo_act _ u) fun held v ⟨_, taken⟩ => ?_
    subst taken
    refine (catalogue.call_ends _ args _).bind fun result w ⟨k, handler, passed, replied, log⟩ => ?_
    refine Routine.Ends.bind (Routine.comesTo_act _ w) fun _ x ⟨_, released⟩ => ?_
    subst released
    refine .ended _ _ ⟨.ok args, u, moves, ?_⟩
    change c.Invoked catalogue u.calls (.ok args) result w.calls
    rw [log]
    exact .called handler passed replied

end

/-- The one answer to all faults of the service. -/
def Response.internalError : Response :=
  .json 500 (.object [("detail", .string "Internal Server Error")])

/-- What a client is told of a fault: each violation in order, or always the same. -/
inductive Fault.Told : Fault → Response → Prop
  | violations (vs : List Violation) : Told (.validation vs)
      (.json 422 (.object [("detail", .array (vs.map Violation.sortedDetail))]))
  | concealed {fault : Fault} : fault.isValidation = false → Told fault .internalError

/-- The answer to a result is what is written, and that to a fault is what is told of it. -/
inductive Resolved.Answered (serialize : Arg → Except Fault Response) : Resolved → Response → Prop
  | written {a : Arg} {response : Response} : serialize a = .ok response →
      Answered serialize (.ok a) response
  | unwritten {a : Arg} {fault : Fault} {response : Response} : serialize a = .error fault →
      fault.Told response → Answered serialize (.ok a) response
  | fault {fault : Fault} {response : Response} : fault.Told response →
      Answered serialize (.error fault) response

theorem Fault.told_jsonFault (fault : Fault) : fault.Told (Serializer.jsonFault fault) := by
  cases fault with
  | validation vs => exact .violations vs
  | handler m => exact .concealed rfl
  | serialization m => exact .concealed rfl
  | internal m => exact .concealed rfl

theorem Resolved.answered_respond (serialize : Arg → Except Fault Response) (result : Resolved) :
    Answered serialize result
      ((⟨serialize, Serializer.jsonFault⟩ : Serializer).respond result) := by
  cases result with
  | error fault => exact .fault fault.told_jsonFault
  | ok a =>
    unfold Serializer.respond
    simp only [Except.bind]
    split
    · next response written => exact .written written
    · next fault unwritten => exact .unwritten unwritten fault.told_jsonFault

/-- Whatever the serializer writes, a request calls what the handler depends on, then the handler
itself if its arguments were made, and is answered with what came of it. -/
theorem Compiled.dispatch_answers {catalogue : Catalogue n} {compiler : Compiler n} {id : Fin n}
    {method : Method} {pattern : String} {c : Compiled n}
    (compiled : (compiler.compile catalogue id method pattern).1 = .ok c)
    (serialize : Arg → Except Fault Response) (r : Request) (s : Session n) :
    (c.dispatch catalogue ⟨serialize, Serializer.jsonFault⟩ r).Ends (fun response t =>
      ∃ out u result,
        Routine.Moves ((c.injector catalogue).inject r) (Session.renewScope s).2 (.done out) u ∧
        s.calls <+: u.calls ∧
        (∀ k ∈ u.callsSince s, c.Reaches k.handler ∧ k.handler ≠ c.binding.handler) ∧
        c.Invoked catalogue u.calls out result t.calls ∧
        Resolved.Answered serialize result response) s := by
  obtain ⟨route, _, _, faithful⟩ := faithful_of_compile compiled
  refine Routine.Ends.bind (Routine.comesTo_act Session.renewScope s) fun _ _ ⟨_, renewed⟩ => ?_
  subst renewed
  refine (invoke_ends faithful rfl).bind fun result v ⟨out, u, moves, invoked⟩ => ?_
  refine Routine.Ends.bind (Routine.comesTo_act Session.releaseUploads v) fun _ t ⟨_, left⟩ => ?_
  subst left
  obtain ⟨calls, logged, reached⟩ := onlyReached_of_moves moves
  have logged : u.calls = s.calls ++ calls := logged
  refine .ended _ _ ⟨out, u, result, moves, logged ▸ List.prefix_append _ _, fun k hk => ?_,
    invoked, Resolved.answered_respond serialize result⟩
  rw [Session.callsSince, logged, List.drop_left] at hk
  exact ⟨reached k hk, faithful.ne_of_reaches (reached k hk)⟩

theorem moves_crashedArchive : ∃ t : Session 1,
    Routine.Moves (compiledArchive.dispatch crashingArchive .json photoRequest) {}
      (.done .internalError) t :=
  ⟨_, Routine.moves_of_along
    (show Routine.along [[], [], [], [], [], [], [], []] _ _ = some (_, _) from rfl)⟩

theorem Compiled.dispatch_answers_crashed :
    let s : Session 1 := {}
    (({ config := {} } : Compiler 1).compile crashingArchive 0 .post "/").1 = .ok compiledArchive ∧
      ∃ t : Session 1,
        Routine.Moves (compiledArchive.dispatch crashingArchive .json photoRequest) s
          (.done .internalError) t ∧
        ∃ out u result,
          Routine.Moves ((compiledArchive.injector crashingArchive).inject photoRequest)
            (Session.renewScope s).2 (.done out) u ∧
          s.calls <+: u.calls ∧
          (∀ k ∈ u.callsSince s,
            compiledArchive.Reaches k.handler ∧ k.handler ≠ compiledArchive.binding.handler) ∧
          compiledArchive.Invoked crashingArchive u.calls out result t.calls ∧
          Resolved.Answered Serializer.jsonResult result .internalError := by
  intro s
  obtain ⟨t, moves⟩ := moves_crashedArchive
  have answers := Compiled.dispatch_answers compile_crashingArchive Serializer.jsonResult
    photoRequest s
  exact ⟨compile_crashingArchive, t, moves, answers.of_moves moves⟩

end RequestBinding
