import RequestBinding.Proofs.Resolution.Production
import Mathlib.Algebra.Order.BigOperators.Group.List
import Mathlib.Algebra.Order.Ring.Nat

/-!
How often dependencies are called.  Main statements: where one result serves all, a handler is
called again only after a failure and never after a success; and once the arguments of a handler are
there, every result that was to be shared was made once and is held wherever it was asked for, and
every result that was not to be shared was made once for each parameter that asked for it.
-/
namespace RequestBinding
variable {n : Nat}

namespace Compiled

def Reaches (root : Compiled n) (d : Fin n) : Prop :=
  ∃ x, root.Part x ∧ ∃ e ∈ x.needs, e.target.binding.handler = d

def SharesNone (root : Compiled n) (d : Fin n) : Prop :=
  ∀ x, root.Part x → ∀ e ∈ x.needs, e.target.binding.handler = d → e.useCache = false

/-- Every parameter that takes a result of the handler has this one. -/
def Receives (c : Compiled n) (d : Fin n) (a : Arg) (args : CallArgs) : Prop :=
  ∀ (i : Nat) (f : Field (Need (Compiled n))) (e : Need (Compiled n)),
    c.binding.fields[i]? = some f → f.feed = .dependency e → e.target.binding.handler = d →
      (args.taken c.binding.fields)[i]? = some (some a)

end Compiled

/-- The calls of one session that the other one does not know yet. -/
def Session.callsSince (t s : Session n) : List (Call n) := t.calls.drop s.calls.length

section
variable {root : Compiled n} {catalogue : Catalogue n} {config : Config n} {route : RoutePattern}
  {method : Method} {r : Request} {s t : Session n}

theorem Accounts.callsSince {solo : Bool} {calls : List (Call n)} {g : Share n}
    (h : Accounts root catalogue solo s.calls calls g t) : t.callsSince s = calls := by
  rw [Session.callsSince, h.logged, List.drop_left]

/-- At any moment the calls since the start are accounted for. -/
theorem accounts_of_moves (faithful : root.Faithful catalogue config route method) (solo : Bool)
    (alone : config.concurrent = true → solo = false) (fresh : s.scope = {})
    {q : Routine (Session n) Injected}
    (moves : Routine.Moves ((root.injector catalogue).inject r) s q t) :
    ∃ g, Accounts root catalogue solo s.calls (t.callsSince s) g t ∧
      (ledger root catalogue solo s.calls).Meets q (sizeOf root) g
        (Returns (0, Item.signs solo) (Concluded root catalogue solo s.calls r root)) := by
  have meets : (ledger root catalogue solo s.calls).Meets ((root.injector catalogue).inject r)
      (sizeOf root) (0, Item.signs solo)
      (Returns (0, Item.signs solo) (Concluded root catalogue solo s.calls r root)) :=
    meets_injector faithful alone
  obtain ⟨g, ⟨calls, accounts⟩, rest⟩ := meets.moves (f := 0)
    (by simpa using keeps_fresh root catalogue solo fresh) moves
  rw [add_zero] at accounts
  exact ⟨g, accounts.callsSince ▸ accounts, rest⟩

/-- Where one result serves all, every call but the last one failed. -/
theorem fails_of_mem_dropLast (faithful : root.Faithful catalogue config route method)
    {d : Fin n} (shared : root.SharesAll d) (fresh : s.scope = {})
    {q : Routine (Session n) Injected}
    (moves : Routine.Moves ((root.injector catalogue).inject r) s q t) :
    ∀ k ∈ ((t.callsSince s).filter fun k => k.handler = d).dropLast,
      catalogue.succeeds k = false := by
  obtain ⟨g, accounts, _⟩ := accounts_of_moves faithful false (fun _ => rfl) fresh moves
  exact accounts.account.retried d shared

/-- Where dependencies are resolved one after another, every call but the last one succeeded. -/
theorem succeeds_of_mem_dropLast (faithful : root.Faithful catalogue config route method)
    (sequential : config.concurrent = false) (fresh : s.scope = {})
    {q : Routine (Session n) Injected}
    (moves : Routine.Moves ((root.injector catalogue).inject r) s q t) :
    ∀ k ∈ (t.callsSince s).dropLast, catalogue.succeeds k = true := by
  obtain ⟨g, accounts, _⟩ := accounts_of_moves faithful true (by simp [sequential])
    fresh moves
  exact accounts.account.last rfl

theorem mem_dropLast_of_filter {α : Type} {p : α → Bool} {l : List α} {a : α}
    (h : a ∈ (l.filter p).dropLast) : a ∈ l.dropLast := by
  rcases List.eq_nil_or_concat l with rfl | ⟨l, b, rfl⟩
  · simp at h
  · rw [List.concat_eq_append] at h ⊢
    rw [List.dropLast_concat]
    rw [List.filter_append] at h
    cases hb : p b with
    | true =>
      rw [List.filter_cons_of_pos hb, List.filter_nil, List.dropLast_concat] at h
      exact List.mem_of_mem_filter h
    | false =>
      rw [List.filter_cons_of_neg (by simp [hb]), List.filter_nil, List.append_nil] at h
      exact List.mem_of_mem_filter (List.dropLast_subset _ h)

theorem length_le_one_of_dropLast {α : Type} {p : α → Bool} {l : List α}
    (fails : ∀ a ∈ l.dropLast, p a = false) (succeeds : ∀ a ∈ l.dropLast, p a = true) :
    l.length ≤ 1 := by
  match l with
  | [] => simp
  | [a] => simp
  | a :: b :: l =>
    have failed := fails a (by simp)
    simp [succeeds a (by simp)] at failed

/-- Where one result serves all, every call but the last one failed.  So there is at most one call
exactly if none fails before another one begins, and this is so wherever dependencies are resolved
one after another. -/
theorem Compiled.shared_called_once_iff {compiler : Compiler n} {id : Fin n} {pattern : String}
    {c : Compiled n} (compiled : (compiler.compile catalogue id method pattern).1 = .ok c)
    {d : Fin n} (shared : c.SharesAll d) (fresh : s.scope = {}) {q : Routine (Session n) Injected}
    (moves : Routine.Moves ((c.injector catalogue).inject r) s q t) :
    let calls := (t.callsSince s).filter fun k => k.handler = d
    (∀ k ∈ calls.dropLast, catalogue.succeeds k = false) ∧
      (calls.length ≤ 1 ↔ ∀ k ∈ calls.dropLast, catalogue.succeeds k = true) ∧
      (compiler.config.concurrent = false → calls.length ≤ 1) := by
  intro calls
  obtain ⟨route, _, _, faithful⟩ := faithful_of_compile compiled
  have fails : ∀ k ∈ calls.dropLast, catalogue.succeeds k = false :=
    fails_of_mem_dropLast faithful shared fresh moves
  refine ⟨fails, ⟨fun le => ?_, length_le_one_of_dropLast fails⟩, fun sequential => ?_⟩
  · have none : calls.dropLast = [] := by
      rw [← List.length_eq_zero_iff, List.length_dropLast]
      omega
    simp [none]
  · exact length_le_one_of_dropLast fails fun k hk =>
      succeeds_of_mem_dropLast faithful sequential fresh moves k (mem_dropLast_of_filter hk)

def twoReaders (reply : Except Fault Reply) : Catalogue 2
  | 0 => { name := "db", work := .async 0 fun _ => reply }
  | 1 => {
      name := "report"
      params := ["reader", "writer"].map fun name => { name, marker? := some (.depends ⟨0, true⟩) }
      work := .async 0 fun _ => .ok (.arg (.value .null)) }

def compiledDb : Compiled 2 := .mk ⟨0, "db", true, .get, ⟨"/", []⟩, true, []⟩

def compiledReport : Compiled 2 :=
  .mk ⟨1, "report", true, .get, ⟨"/", []⟩, true, ["reader", "writer"].map fun name =>
    { name, schema := .any, feed := .dependency ⟨true, compiledDb⟩ }⟩

theorem compile_twoReaders (reply : Except Fault Reply) :
    (({ config := {} } : Compiler 2).compile (twoReaders reply) 1 .get "/").1 =
      .ok compiledReport := by
  have db (underWay fresh) : compileHandler (twoReaders reply) {} ⟨"/", []⟩ .get underWay
      (({} : Config 2).resolve 0) fresh = pure compiledDb := by
    rw [compileHandler_eq fresh [] rfl, compileFields]
    rfl
  rw [fst_compile_root, compileHandler_eq (by simp)
    ((twoReaders reply 1).params.map fun p => ⟨p, .dependency, p.name⟩) rfl]
  simp only [twoReaders, List.map, compileFields, Placement.depends?, db]
  rfl

theorem eq_of_mem_needs_compiledReport {x : Compiled 2} (hx : compiledReport.Part x)
    {e : Need (Compiled 2)} (he : e ∈ x.needs) : e = ⟨true, compiledDb⟩ := by
  have needs : compiledReport.needs = [⟨true, compiledDb⟩, ⟨true, compiledDb⟩] := rfl
  have leaf : compiledDb.needs = [] := rfl
  rcases hx.eq_or with rfl | ⟨d, hd, hx⟩
  · simpa [needs] using he
  · have target : d = ⟨true, compiledDb⟩ := by simpa [needs] using hd
    subst target
    rcases hx.eq_or with rfl | ⟨d, hd, _⟩
    · simp [leaf] at he
    · simp [leaf] at hd

theorem sharesAll_compiledReport (d : Fin 2) : compiledReport.SharesAll d :=
  fun _ hx _ he _ => by rw [eq_of_mem_needs_compiledReport hx he]

theorem moves_twoReaders_down : ∃ t : Session 2,
    Routine.Moves ((compiledReport.injector (twoReaders (.error (.handler "down")))).inject
      { method := .get, path := "/" }) {} (.done (.error (.handler "down"))) t ∧
    ((t.callsSince {}).filter fun k => k.handler = 0).length = 2 := by
  let left : Address := [.left]
  let right : Address := [.right, .left]
  exact ⟨_, Routine.moves_of_along (show Routine.along
    [left, right, left, left, left, left, right, right, right, right, [.right], []] _ _ =
      some (_, _) from rfl), rfl⟩

theorem Compiled.shared_called_once_iff_down :
    let compiler : Compiler 2 := { config := {} }
    let catalogue := twoReaders (.error (.handler "down"))
    ∃ s t : Session 2, ∃ q,
      (compiler.compile catalogue 1 .get "/").1 = .ok compiledReport ∧ compiledReport.SharesAll 0 ∧
      s.scope = {} ∧
      Routine.Moves
        ((compiledReport.injector catalogue).inject { method := .get, path := "/" }) s q t ∧
      let calls := (t.callsSince s).filter fun k => k.handler = 0
      (∀ k ∈ calls.dropLast, catalogue.succeeds k = false) ∧
        (calls.length ≤ 1 ↔ ∀ k ∈ calls.dropLast, catalogue.succeeds k = true) ∧
        (compiler.config.concurrent = false → calls.length ≤ 1) := by
  obtain ⟨t, moves, _⟩ := moves_twoReaders_down
  exact ⟨{}, t, _, compile_twoReaders _, sharesAll_compiledReport 0, rfl, moves,
    Compiled.shared_called_once_iff (compile_twoReaders _) (sharesAll_compiledReport 0) rfl moves⟩

/-- A result that is always shared is made twice when its handler fails. -/
theorem Compiled.shared_called_twice :
    let compiler : Compiler 2 := { config := {} }
    let catalogue := twoReaders (.error (.handler "down"))
    ∃ s t : Session 2, ∃ q,
      (compiler.compile catalogue 1 .get "/").1 = .ok compiledReport ∧ compiledReport.SharesAll 0 ∧
      s.scope = {} ∧
      Routine.Moves
        ((compiledReport.injector catalogue).inject { method := .get, path := "/" }) s q t ∧
      ¬((t.callsSince s).filter fun k => k.handler = 0).length ≤ 1 := by
  obtain ⟨t, moves, calls⟩ := moves_twoReaders_down
  exact ⟨{}, t, _, compile_twoReaders _, sharesAll_compiledReport 0, rfl, moves, by omega⟩

theorem accounts_of_injected (faithful : root.Faithful catalogue config route method)
    (fresh : s.scope = {}) {args : CallArgs}
    (moves : Routine.Moves ((root.injector catalogue).inject r) s (.done (.ok args)) t) :
    ∃ items, Accounts root catalogue false s.calls (t.callsSince s) (0, items) t ∧
      root.Passes items args := by
  obtain ⟨g, accounts, ended⟩ := accounts_of_moves faithful false (fun _ => rfl) fresh moves
  obtain ⟨g', hg, concluded⟩ := ended
  obtain ⟨ticketless, passes⟩ := Concluded.collected concluded (faithful root .root).names_nodup
  have share : g = (0, g'.2) := by
    rw [hg]
    ext1 <;> simp [ticketless]
  exact ⟨g'.2, share ▸ accounts, passes⟩

section
variable {before calls : List (Call n)} {items : Multiset (Item n)} {args : CallArgs} {d : Fin n}

theorem Accounts.succeeds (h : Accounts root catalogue false before calls (0, items) t)
    (passes : root.Passes items args) : ∀ k ∈ calls, catalogue.succeeds k = true := by
  intro k hk
  cases fails : catalogue.succeeds k with
  | true => rfl
  | false => exact absurd (h.account.failed k hk fails) (passes.unfailed k.handler)

/-- Each call passed on the results that were made for it, so that all results are known. -/
theorem Accounts.countP_handler (h : Accounts root catalogue false before calls (0, items) t)
    (passes : root.Passes items args) (d : Fin n) :
    calls.countP (fun k => k.handler = d) =
      root.uses d + (calls.map fun k => (root.part k.handler).uses d).sum +
        if (t.scope.cached? d).isSome then 1 else 0 := by
  have balance := h.account.balance d
  rw [passes.uses d] at balance
  rw [add_comm (root.uses d), ← balance]
  refine List.countP_congr fun k hk => ?_
  simp [h.succeeds passes k hk]

/-- The arguments of the part were made: it is the whole handler, or it was called. -/
def Made (root : Compiled n) (calls : List (Call n)) (x : Compiled n) : Prop :=
  x = root ∨ ∃ l ∈ calls, l.handler = x.binding.handler

theorem Accounts.holds (h : Accounts root catalogue false before calls (0, items) t)
    (passes : root.Passes items args) : root.Holds t.scope.cached? args := by
  have account : Account root catalogue false calls (items + 0) t.scope.cached? := by
    simpa using h.account
  exact account.holds_of_passes passes

theorem Accounts.of_made (h : Accounts root catalogue false before calls (0, items) t)
    (passes : root.Passes items args) (coherent : root.Coherent) {x : Compiled n}
    (hx : root.Part x) (made : Made root calls x) :
    (∃ args, x.Holds t.scope.cached? args) ∧
      ∀ d, x.uses d ≤ calls.countP fun k => k.handler = d := by
  rcases made with rfl | ⟨l, hl, handler⟩
  · exact ⟨⟨args, h.holds passes⟩, fun d => by rw [h.countP_handler passes]; omega⟩
  · have part : root.part l.handler = x := by rw [handler, Compiled.part_eq coherent hx]
    refine ⟨⟨l.invocation.args, part ▸ h.account.holds l hl⟩, fun d => ?_⟩
    have le : x.uses d ≤ (calls.map fun k => (root.part k.handler).uses d).sum :=
      List.le_sum_of_mem (List.mem_map.2 ⟨l, hl, by rw [part]⟩)
    rw [h.countP_handler passes]
    omega

theorem Accounts.cached_of_made (h : Accounts root catalogue false before calls (0, items) t)
    (passes : root.Passes items args) (coherent : root.Coherent) {x : Compiled n}
    (hx : root.Part x) (made : Made root calls x) {e : Need (Compiled n)} (he : e ∈ x.needs)
    (shared : e.useCache = true) : ∃ a, t.scope.cached? e.target.binding.handler = some a := by
  obtain ⟨args, holds⟩ := (h.of_made passes coherent hx made).1
  obtain ⟨f, hf, feed⟩ := Compiled.mem_needs_iff.1 he
  obtain ⟨i, hi⟩ := List.mem_iff_getElem?.1 hf
  exact (holds i f e hi feed shared).imp fun _ ha => ha.2

theorem Accounts.made_of_part (h : Accounts root catalogue false before calls (0, items) t)
    (passes : root.Passes items args) (coherent : root.Coherent) {x : Compiled n}
    (hx : root.Part x) : Made root calls x := by
  induction hx with
  | root => exact .inl rfl
  | @need x e hx he ih =>
    -- a shared result is cached, and so was made; any other one is counted as made for `x`
    cases shared : e.useCache with
    | true =>
      obtain ⟨a, ha⟩ := h.cached_of_made passes coherent hx ih he shared
      obtain ⟨_, k, hk, handler, _⟩ := h.account.cached _ a ha
      exact .inr ⟨k, hk, handler⟩
    | false =>
      have uses : 0 < x.uses e.target.binding.handler :=
        List.countP_pos_iff.2 ⟨e, he, by simp [shared]⟩
      have called := (h.of_made passes coherent hx ih).2 e.target.binding.handler
      obtain ⟨k, hk, handler⟩ := List.countP_pos_iff.1 (uses.trans_le called)
      exact .inr ⟨k, hk, by simpa using handler⟩

theorem Accounts.filter_eq_singleton (h : Accounts root catalogue false before calls (0, items) t)
    (passes : root.Passes items args) (coherent : root.Coherent) (shared : root.SharesAll d)
    {a : Arg} (ha : t.scope.cached? d = some a) :
    ∃ k reply, calls.filter (fun k => k.handler = d) = [k] ∧
      catalogue.answer k = .ok reply ∧ reply.Becomes a := by
  obtain ⟨_, k, hk, handler, reply, answer, becomes⟩ := h.account.cached d a ha
  have others : (calls.map fun k => (root.part k.handler).uses d).sum = 0 := by
    rw [List.sum_eq_zero_iff_forall_eq_nat]
    intro u hu
    obtain ⟨l, hl, rfl⟩ := List.mem_map.1 hu
    obtain ⟨x, hx, handler⟩ := h.account.part l hl
    rw [← handler, Compiled.part_eq coherent hx]
    exact Compiled.uses_eq_zero shared hx
  have one := h.countP_handler passes d
  rw [Compiled.uses_eq_zero shared .root, others, ha, List.countP_eq_length_filter] at one
  obtain ⟨l, hl⟩ := List.length_eq_one_iff.1 one
  have mem : k ∈ calls.filter fun k => k.handler = d :=
    List.mem_filter.2 ⟨hk, by simpa using handler⟩
  rw [hl, List.mem_singleton] at mem
  exact ⟨l, reply, hl, mem ▸ answer, becomes⟩

theorem receives_of_holds {x : Compiled n} {value : Fin n → Option Arg} {args : CallArgs}
    (holds : x.Holds value args) (shared : root.SharesAll d) (hx : root.Part x) {a : Arg}
    (ha : value d = some a) : x.Receives d a args := by
  intro i f e hf feed handler
  have used := shared x hx e (Compiled.mem_needs_iff.2 ⟨f, List.mem_of_getElem? hf, feed⟩) handler
  obtain ⟨b, taken, hb⟩ := holds i f e hf feed used
  rw [handler, ha] at hb
  rw [taken, Option.some.inj hb]

end

/-- How often handlers were called for the arguments of a handler, and what has become of their
results. -/
structure Compiled.CalledAsDeclared (c : Compiled n) (catalogue : Catalogue n) (args : CallArgs)
    (calls : List (Call n)) (value : Fin n → Option Arg) : Prop where
  /-- Only parts of the handler were called. -/
  parts : ∀ k ∈ calls, c.Part (c.part k.handler) ∧ (c.part k.handler).binding.handler = k.handler
  /-- A result that is always shared was made by one call, is cached, and is what every parameter
  has that takes it. -/
  shared : ∀ d, c.Reaches d → c.SharesAll d → ∃ k reply a,
    calls.filter (fun k => k.handler = d) = [k] ∧ catalogue.answer k = .ok reply ∧
    reply.Becomes a ∧ value d = some a ∧ c.Receives d a args ∧
    ∀ l ∈ calls, (c.part l.handler).Receives d a l.invocation.args
  /-- A result that is never shared was made once for each parameter that takes it, and is not
  cached. -/
  anew : ∀ d, c.SharesNone d → value d = none ∧
    (calls.filter fun k => k.handler = d).length =
      c.uses d + (calls.map fun k => (c.part k.handler).uses d).sum

/-- Once the arguments of a handler are there, every handler that it depends on was called as often
as declared. -/
theorem Compiled.calledAsDeclared_of_injected {compiler : Compiler n} {id : Fin n}
    {pattern : String} {c : Compiled n}
    (compiled : (compiler.compile catalogue id method pattern).1 = .ok c) (fresh : s.scope = {})
    {args : CallArgs}
    (moves : Routine.Moves ((c.injector catalogue).inject r) s (.done (.ok args)) t) :
    c.CalledAsDeclared catalogue args (t.callsSince s) t.scope.cached? := by
  obtain ⟨route, _, _, faithful⟩ := faithful_of_compile compiled
  obtain ⟨items, accounts, passes⟩ := accounts_of_injected faithful fresh moves
  have coherent := faithful.coherent
  have parts : ∀ k ∈ t.callsSince s,
      c.Part (c.part k.handler) ∧ (c.part k.handler).binding.handler = k.handler := by
    intro k hk
    obtain ⟨x, hx, handler⟩ := accounts.account.part k hk
    rw [← handler, part_eq coherent hx]
    exact ⟨hx, rfl⟩
  refine ⟨parts, fun d reaches shared => ?shared, fun d alone => ?anew⟩
  case shared =>
    obtain ⟨x, hx, e, he, rfl⟩ := reaches
    have made := accounts.made_of_part passes coherent hx
    obtain ⟨a, ha⟩ := accounts.cached_of_made passes coherent hx made he (shared x hx e he rfl)
    obtain ⟨k, reply, called, answer, becomes⟩ :=
      accounts.filter_eq_singleton passes coherent shared ha
    refine ⟨k, reply, a, called, answer, becomes, ha, ?_, fun l hl => ?_⟩
    · exact receives_of_holds (accounts.holds passes) shared .root ha
    · exact receives_of_holds (accounts.account.holds l hl) shared (parts l hl).1 ha
  case anew =>
    have uncached : t.scope.cached? d = none := by
      by_contra cached
      obtain ⟨a, ha⟩ := Option.ne_none_iff_exists'.1 cached
      obtain ⟨⟨x, hx, e, he, handler, shared⟩, _⟩ := accounts.account.cached d a ha
      simp [alone x hx e he handler] at shared
    have count := accounts.countP_handler passes d
    rw [uncached, List.countP_eq_length_filter] at count
    exact ⟨uncached, count⟩

theorem moves_twoReaders_up : ∃ (args : CallArgs) (t : Session 2),
    Routine.Moves ((compiledReport.injector (twoReaders (.ok (.arg (.value .null))))).inject
      { method := .get, path := "/" }) {} (.done (.ok args)) t := by
  let left : Address := [.left]
  let right : Address := [.right, .left]
  exact ⟨_, _, Routine.moves_of_along (show Routine.along
    [left, right, left, left, left, left, left, right, [.right], []] _ _ = some (_, _) from rfl)⟩

theorem Compiled.calledAsDeclared_of_injected_up :
    let catalogue := twoReaders (.ok (.arg (.value .null)))
    ∃ s t : Session 2, ∃ args,
      (({ config := {} } : Compiler 2).compile catalogue 1 .get "/").1 = .ok compiledReport ∧
      s.scope = {} ∧
      Routine.Moves ((compiledReport.injector catalogue).inject { method := .get, path := "/" }) s
        (.done (.ok args)) t ∧
      compiledReport.CalledAsDeclared catalogue args (t.callsSince s) t.scope.cached? := by
  obtain ⟨args, t, moves⟩ := moves_twoReaders_up
  exact ⟨{}, t, args, compile_twoReaders _, rfl, moves,
    Compiled.calledAsDeclared_of_injected (compile_twoReaders _) rfl moves⟩

end

end RequestBinding
