import RequestBinding.Dispatch
import RequestBinding.Proofs.Compiled.Objection
import RequestBinding.Proofs.Resolution.Counting
import RequestBinding.Proofs.Resolution.Steps

/-!
Handlers that stand in for others.  Main statement: wherever a handler is depended on, the one that
stands in for it is compiled and called in its place; a handler that is replaced is called only if
it stands in for another one or is the handler that is asked for.
-/
namespace RequestBinding
variable {n : Nat}

def Config.StandsIn (config : Config n) (d : Fin n) : Prop := ∃ o, config.overrides.get? o = some d

/-- The field takes a result exactly if the parameter is declared so, and takes it from the handler
that stands in for the one that is named, or from that one if none does. -/
structure Param.Asks (config : Config n) (p : Param n) (f : Field (Need (Compiled n))) : Prop where
  name : f.name = p.name
  asked : ∀ d, p.marker? = some (.depends d) → ∃ target,
    f.feed = .dependency ⟨d.useCache, target⟩ ∧
      target.binding.handler = (config.overrides.get? d.handler).getD d.handler
  only : ∀ e, f.feed = .dependency e → ∃ d, p.marker? = some (.depends d)

def Compiled.Marks (x : Compiled n) (catalogue : Catalogue n) (d : Depends n)
    (f : Field (Need (Compiled n))) : Prop :=
  ∃ p, (p, f) ∈ (catalogue x.binding.handler).params.zip x.binding.fields ∧
    p.marker? = some (.depends d)

structure Compiled.Replaces (c : Compiled n) (catalogue : Catalogue n) (config : Config n) :
    Prop where
  asks : ∀ x, c.Part x →
    List.Forall₂ (Param.Asks config) (catalogue x.binding.handler).params x.binding.fields
  /-- Handlers that the same one stands in for come to one compiled handler and one slot. -/
  shared : ∀ x y, c.Part x → c.Part y → ∀ d e f g, x.Marks catalogue d f → y.Marks catalogue e g →
    ∀ h, config.overrides.get? d.handler = some h → config.overrides.get? e.handler = some h →
      ∃ target, f.feed = .dependency ⟨d.useCache, target⟩ ∧
        g.feed = .dependency ⟨e.useCache, target⟩ ∧
        ∀ r, (linkNeed catalogue ⟨true, target⟩).resolve r =
          resolveCached h (target.produce catalogue r)
  /-- A handler that is replaced is neither called nor asked for, unless it stands in for another
  one or is the handler itself. -/
  uncalled : ∀ d, (config.overrides.get? d).isSome → ¬config.StandsIn d →
    d ≠ c.binding.handler → ∀ r s,
      (∀ q t, Routine.Moves ((c.injector catalogue).inject r) s q t →
        t.callCount d = s.callCount d ∧ t.scope.slot d = s.scope.slot d) ∧
      ∀ serializer q t, Routine.Moves (c.dispatch catalogue serializer r) s q t →
        t.callCount d = s.callCount d
  /-- Arguments that can be shared are what is in the slots of the handlers that stand in. -/
  held : ∀ r s args t, s.scope = {} →
    Routine.Moves ((c.injector catalogue).inject r) s (.done (.ok args)) t →
      c.Holds t.scope.cached? args ∧
        ∀ l ∈ t.callsSince s, (c.part l.handler).Holds t.scope.cached? l.invocation.args

/-- A step while a request is served: one in which arguments are made, or one without a call. -/
inductive Compiled.Serves (root : Compiled n) (r : Request) : Steps (Session n)
  | does {β : Type} {act : Session n → Option (β × Session n)} :
      root.Does r β act → Serves root r β act
  | aside {β : Type} {act : StateM (Session n) β} :
      (∀ s, (act s).2.calls = s.calls) → Serves root r β fun s => some (act s)

section
variable {catalogue : Catalogue n} {config : Config n} {route : RoutePattern} {method : Method}
  {c x root : Compiled n} {r : Request} {d : Fin n} {s t : Session n}

theorem Placement.asks_of_makes {handler : String} {embed : Bool} {p : Placement n}
    {f : Field (Need (Compiled n))} (h : p.Makes config handler embed f) :
    p.param.Asks config f := by
  obtain ⟨need?, depends, field⟩ := h
  obtain ⟨name, _, feed⟩ := of_field_eq_ok field
  refine ⟨name, fun d marked => ?_, fun e he => ?_⟩
  · rw [depends?_eq_some_iff.2 marked] at depends
    obtain ⟨e, rfl, replaced⟩ := Option.map_eq_some_iff.1 depends
    obtain ⟨useCache, target⟩ := e
    obtain rfl : useCache = d.useCache := congrArg Depends.useCache replaced
    exact ⟨target, by simpa using feed, congrArg Depends.handler replaced⟩
  · obtain ⟨e', rfl, _⟩ | ⟨_, none | ⟨x, none, _⟩⟩ := feed
    · obtain ⟨d, hd, _⟩ := Option.map_eq_some_iff.1 depends.symm
      exact ⟨d, depends?_eq_some_iff.1 hd⟩
    · simp [none] at he
    · simp [none] at he

theorem Compiled.Declared.asks (h : Declared catalogue config route method x) :
    List.Forall₂ (Param.Asks config) (catalogue x.binding.handler).params x.binding.fields := by
  cases h with
  | @intro id placements fields placed made =>
  obtain ⟨params, _⟩ := Placement.mem_of_ofParams_eq_ok placed
  change List.Forall₂ _ (catalogue id).params fields
  rw [← params, List.forall₂_map_left_iff]
  exact made.imp fun _ _ => Placement.asks_of_makes

/-- A part is the whole handler, or somebody names a handler that it stands in for or that it is. -/
theorem Compiled.Faithful.part_resolved (h : c.Faithful catalogue config route method)
    (hx : c.Part x) : x = c ∨ ∃ o, config.resolve o = x.binding.handler := by
  cases hx with
  | root => exact .inl rfl
  | @need y e hy he =>
    obtain ⟨f, hf, feed⟩ := mem_needs_iff.1 he
    obtain ⟨p, _, asks⟩ := exists_of_forall₂ (h y hy).asks hf
    obtain ⟨m, marked⟩ := asks.only e feed
    obtain ⟨target, feed', handler⟩ := asks.asked m marked
    rw [feed] at feed'
    cases feed'
    exact .inr ⟨m.handler, handler.symm⟩

/-- No part is a handler that is replaced, unless this stands in or is the whole handler. -/
theorem Compiled.Faithful.handler_ne (h : c.Faithful catalogue config route method)
    (replaced : (config.overrides.get? d).isSome) (not : ¬config.StandsIn d)
    (other : d ≠ c.binding.handler) (hx : c.Part x) : x.binding.handler ≠ d := by
  rintro rfl
  obtain rfl | ⟨o, resolved⟩ := h.part_resolved hx
  · exact other rfl
  · unfold Config.resolve at resolved
    cases found : config.overrides.get? o with
    | some h =>
      rw [found] at resolved
      exact not ⟨o, resolved ▸ found⟩
    | none =>
      rw [found] at resolved
      obtain rfl : o = x.binding.handler := resolved
      simp [found] at replaced

/-- A step leaves alone the calls and the cached value of a handler that is no part. -/
theorem Compiled.Does.untouched {β : Type} {act : Session n → Option (β × Session n)} {b : β}
    (h : root.Does r β act) (other : ∀ x, root.Part x → x.binding.handler ≠ d)
    (moved : act s = some (b, t)) :
    t.callCount d = s.callCount d ∧ t.scope.slot d = s.scope.slot d := by
  cases h with
  | form =>
    cases moved
    exact ⟨rfl, rfl⟩
  | @extract _ _ _ e g _ _ _ =>
    cases moved
    obtain ⟨calls, slots, _⟩ := e.aside_apply r s
    simp only [Session.callCount, Scope.slot, calls, slots, and_self]
  | look _ =>
    cases moved
    exact ⟨rfl, rfl⟩
  | beginCall args hx =>
    cases moved
    refine ⟨?_, rfl⟩
    simp [Session.callCount, other _ hx]
  | accept reply =>
    cases reply with
    | arg a =>
      cases moved
      exact ⟨rfl, rfl⟩
    | object content =>
      cases moved
      exact ⟨rfl, rfl⟩
  | enter hx =>
    cases moved
    exact ⟨rfl, Scope.slot_enter_of_ne _ (other _ hx) _⟩
  | turn ticket _ =>
    obtain ⟨_, _, eq⟩ := Option.map_eq_some_iff.1 moved
    cases eq
    exact ⟨rfl, rfl⟩
  | leave ticket value hx =>
    cases moved
    exact ⟨rfl, Scope.slot_leave_of_ne _ (other _ hx) _ _⟩

theorem Compiled.untouched_of_moves (other : ∀ x, c.Part x → x.binding.handler ≠ d)
    {q : Routine (Session n) Injected}
    (moves : Routine.Moves ((c.injector catalogue).inject r) s q t) :
    t.callCount d = s.callCount d ∧ t.scope.slot d = s.scope.slot d := by
  refine (c.consists_inject catalogue r).keeps (J := fun u =>
    u.callCount d = s.callCount d ∧ u.scope.slot d = s.scope.slot d) ?_ moves ⟨rfl, rfl⟩
  intro u v β act b does ⟨calls, slot⟩ moved
  obtain ⟨calls', slot'⟩ := does.untouched other moved
  exact ⟨calls'.trans calls, slot'.trans slot⟩

theorem Compiled.consists_dispatch (c : Compiled n) (catalogue : Catalogue n)
    (serializer : Serializer) (r : Request) :
    (c.dispatch catalogue serializer r).Consists (c.Serves r) := by
  have does {α : Type} {routine : Routine (Session n) α} (h : routine.Consists (c.Does r)) :
      routine.Consists (c.Serves r) := h.mono fun _ _ => .does
  refine (Routine.consists_act (.aside fun _ => rfl)).bind fun _ => ?_
  have invoked : (c.invoke catalogue r).Consists (c.Serves r) := by
    refine (does (c.consists_inject catalogue r)).bind fun injected => ?_
    cases injected with
    | error fault => exact trivial
    | ok args =>
      refine (Routine.consists_act (.aside fun _ => rfl)).bind fun uploads => ?_
      refine (does (consists_call .root args)).bind fun _ => ?_
      exact (Routine.consists_act (.aside fun _ => rfl)).bind fun _ => trivial
  refine invoked.bind fun _ => ?_
  exact (Routine.consists_act (.aside fun _ => rfl)).bind fun _ => trivial

theorem Compiled.callCount_of_dispatch (other : ∀ x, c.Part x → x.binding.handler ≠ d)
    {serializer : Serializer} {q : Routine (Session n) Response}
    (moves : Routine.Moves (c.dispatch catalogue serializer r) s q t) :
    t.callCount d = s.callCount d := by
  refine (c.consists_dispatch catalogue serializer r).keeps
    (J := fun u => u.callCount d = s.callCount d) ?_ moves rfl
  intro u v β act b serves calls moved
  cases serves with
  | does h => exact (h.untouched other moved).1.trans calls
  | aside quiet =>
    have after : v = _ := congrArg Prod.snd (Option.some.inj moved).symm
    rw [after, Session.callCount, quiet]
    exact calls

theorem Compiled.Faithful.handler_of_marks (h : c.Faithful catalogue config route method)
    (hx : c.Part x) {m : Depends n} {f : Field (Need (Compiled n))} (marks : x.Marks catalogue m f)
    {e : Fin n} (replaced : config.overrides.get? m.handler = some e) :
    ∃ target, f.feed = .dependency ⟨m.useCache, target⟩ ∧ target.binding.handler = e ∧
      c.Part target := by
  obtain ⟨p, hp, marked⟩ := marks
  have asks := (List.forall₂_iff_zip.1 (h x hx).asks).2 hp
  obtain ⟨target, feed, handler⟩ := asks.asked m marked
  rw [replaced] at handler
  have need : ⟨m.useCache, target⟩ ∈ x.needs :=
    mem_needs_iff.2 ⟨f, (List.of_mem_zip hp).2, feed⟩
  exact ⟨target, feed, handler, hx.need need⟩

/-- In a compiled handler every dependency is on the handler that stands in for the one that is
named; a handler that is replaced is not called, and one result of the handler that stands in serves
all whom it stands in for. -/
theorem Compiled.replaces_of_compile {compiler : Compiler n} {id : Fin n} {pattern : String}
    (compiled : (compiler.compile catalogue id method pattern).1 = .ok c) :
    c.Replaces catalogue compiler.config := by
  obtain ⟨route, _, _, faithful⟩ := faithful_of_compile compiled
  refine ⟨fun x hx => (faithful x hx).asks, ?shared, ?uncalled, ?held⟩
  case shared =>
    intro x y hx hy d e f g df eg h hd he
    obtain ⟨target, feed, rfl, part⟩ := faithful.handler_of_marks hx df hd
    obtain ⟨target', feed', same, part'⟩ := faithful.handler_of_marks hy eg he
    obtain rfl : target' = target := faithful.coherent _ _ part' part same
    refine ⟨target', feed, feed', fun r => ?_⟩
    rw [resolve_linkNeed, if_pos rfl]
  case uncalled =>
    intro d replaced not other r s
    have others : ∀ x, c.Part x → x.binding.handler ≠ d :=
      fun x hx => faithful.handler_ne replaced not other hx
    exact ⟨fun q t moves => untouched_of_moves others moves,
      fun serializer q t moves => callCount_of_dispatch others moves⟩
  case held =>
    intro r s args t fresh moves
    obtain ⟨items, accounts, passes⟩ := accounts_of_injected faithful fresh moves
    exact ⟨accounts.holds passes, accounts.account.holds⟩

end

def storeReport : Catalogue 5
  | 4 => {
      name := "report"
      params := [{ name := "main", marker? := some (.depends ⟨0, true⟩) },
        { name := "copy", marker? := some (.depends ⟨1, true⟩) },
        { name := "stub", marker? := some (.depends ⟨2, true⟩) }]
      work := .async 0 fun _ => .ok (.arg (.value .null)) }
  | _ => { name := "store", params := [], work := .async 0 fun _ => .ok (.arg (.value .null)) }

/-- The first stub stands in for both stores, and the second one for the first. -/
def stubbed : Config 5 :=
  ((({ concurrent := false } : Config 5).withOverride 0 2).withOverride 1 2).withOverride 2 3

def compiledStub (id : Fin 5) : Compiled 5 := .mk ⟨id, "store", true, .get, ⟨"/", []⟩, false, []⟩

def compiledStoreReport : Compiled 5 := .mk ⟨4, "report", true, .get, ⟨"/", []⟩, false,
  [("main", 2), ("copy", 2), ("stub", 3)].map fun (name, id) =>
    { name, schema := .any, feed := .dependency ⟨true, compiledStub id⟩ }⟩

theorem compile_storeReport :
    (({ config := stubbed } : Compiler 5).compile storeReport 4 .get "/").1 =
      .ok compiledStoreReport := by
  have first (underWay fresh) : compileHandler storeReport stubbed ⟨"/", []⟩ .get underWay
      (stubbed.resolve 0) fresh = pure (compiledStub 2) := by
    rw [compileHandler_eq fresh [] rfl, compileFields]
    rfl
  have second (underWay fresh) : compileHandler storeReport stubbed ⟨"/", []⟩ .get underWay
      (stubbed.resolve 2) fresh = pure (compiledStub 3) := by
    rw [compileHandler_eq fresh [] rfl, compileFields]
    rfl
  rw [fst_compile_root, compileHandler_eq (by simp)
    ((storeReport 4).params.map fun p => ⟨p, .dependency, p.name⟩) rfl]
  simp only [storeReport, List.map, compileFields, Placement.depends?, first, second]
  rfl

theorem Compiled.replaces_of_compile_stubbed :
    let compiler : Compiler 5 := { config := stubbed }
    (compiler.compile storeReport 4 .get "/").1 = .ok compiledStoreReport ∧
      compiledStoreReport.Replaces storeReport stubbed ∧
      ∃ (args : CallArgs) (t : Session 5), Routine.Moves
        ((compiledStoreReport.injector storeReport).inject { method := .get, path := "/" }) {}
          (.done (.ok args)) t ∧
        t.callCount 0 = 0 ∧ t.callCount 1 = 0 ∧ t.callCount 2 = 1 ∧ t.callCount 3 = 1 :=
  ⟨compile_storeReport, Compiled.replaces_of_compile compile_storeReport, _, _,
    Routine.moves_of_along (show Routine.along (List.replicate 14 []) _ _ = some (_, _) from rfl),
    rfl, rfl, rfl, rfl⟩

end RequestBinding
