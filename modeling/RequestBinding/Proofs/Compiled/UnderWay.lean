import RequestBinding.Proofs.Compiled.Objection
import Mathlib.Data.List.Nodup

/-!
Compiling with a stack.  A compiler that pushes a handler when it begins it and pops it when it is
through, with success or without, needs no more than one level for each handler there is.  Main
statement: such a compiler comes to what compiling comes to, its stack never repeats a handler, and
a cycle that it reports is one.
-/
namespace RequestBinding
variable {n : Nat}

structure Workbench (n : Nat) where
  /-- The handlers under way, the outermost one first. -/
  underWay : List (Fin n) := []
  finished : Dictionary (Fin n) (Compiled n) := ∅
  /-- What was under way whenever a handler was begun, the newest first. -/
  history : List (List (Fin n)) := []

namespace Workbench

def push (w : Workbench n) (id : Fin n) : Workbench n :=
  { w with underWay := w.underWay ++ [id], history := (w.underWay ++ [id]) :: w.history }

def pop (w : Workbench n) : Workbench n := { w with underWay := w.underWay.dropLast }

end Workbench

/-- Compiling with a stack; an error without a reason means that the levels did not suffice. -/
abbrev Working (n : Nat) := ExceptT (Option (DeclarationError n)) (StateM (Workbench n))

/-- Work on a handler; whatever comes of it, the handler is popped. -/
def Working.within {α : Type} (id : Fin n) (m : Working n α) : Working n α :=
  ExceptT.mk do
    modify (·.push id)
    let result ← m.run
    modify Workbench.pop
    return result

/-- Compile the fields of the handler on top of the stack; `compile` is for handlers above it. -/
def workFields (catalogue : Catalogue n) (config : Config n)
    (compile : Fin n → Working n (Compiled n)) (name : String) (embed : Bool) :
    List (Placement n) → Working n (List (Field (Need (Compiled n))))
  | [] => return []
  | p :: ps => do
    let need? ← match p.depends? with
      | none => pure none
      | some d =>
        let id := config.resolve d.handler
        let w ← get
        if w.underWay.contains id then
          throw (some (.circularDependency (cycleNames catalogue w.underWay id)))
        else
          match w.finished.get? id with
          | some target => pure (some ⟨d.useCache, target⟩)
          | none =>
            let target ← compile id
            modify fun w => { w with finished := w.finished.insert id target }
            pure (some ⟨d.useCache, target⟩)
    let field ← (p.field config name embed need?).mapError some
    return field :: (← workFields catalogue config compile name embed ps)

def workHandler (catalogue : Catalogue n) (config : Config n) (route : RoutePattern)
    (method : Method) : Nat → Fin n → Working n (Compiled n)
  | 0, _ => throw none
  | levels + 1, id => do
    let handler := catalogue id
    let fields ← Working.within id do
      let placements ← (Placement.ofParams config route method handler.name []
        handler.params).mapError some
      workFields catalogue config (workHandler catalogue config route method levels) handler.name
        (Placement.embedsBody placements) placements
    return .mk {
      handler := id, name := handler.name, isAsync := handler.isAsync, method, route,
      concurrent := config.concurrent, fields }

/-- Compile a handler for a method and a route with a stack of as many levels. -/
def Compiler.work (compiler : Compiler n) (catalogue : Catalogue n) (id : Fin n) (method : Method)
    (pattern : String) (levels : Nat) :
    Except (Option (DeclarationError n)) (Compiled n) × Workbench n :=
  match RoutePattern.parse pattern with
  | .error problem =>
    (.error (some (.invalidRoute pattern problem)), { finished := compiler.finished })
  | .ok route => (workHandler catalogue compiler.config route method levels id).run {}

section
variable {catalogue : Catalogue n} {config : Config n} {route : RoutePattern} {method : Method}
  {underWay : List (Fin n)} {α β : Type}

namespace Workbench

/-- The handlers under way are these, and none was ever under way twice at once. -/
structure Tidy (underWay : List (Fin n)) (w : Workbench n) : Prop where
  underWay : w.underWay = underWay
  nodup : ∀ stack ∈ w.history, stack.Nodup

theorem Tidy.push {w : Workbench n} (h : w.Tidy underWay) {id : Fin n}
    (nodup : (underWay ++ [id]).Nodup) : (w.push id).Tidy (underWay ++ [id]) := by
  refine ⟨by rw [Workbench.push, h.underWay], fun stack mem => ?_⟩
  rcases List.mem_cons.1 mem with rfl | mem
  · rwa [h.underWay]
  · exact h.nodup stack mem

theorem Tidy.pop {w : Workbench n} {id : Fin n} (h : w.Tidy (underWay ++ [id])) :
    w.pop.Tidy underWay := by
  refine ⟨?_, h.nodup⟩
  have := h.underWay
  simp [Workbench.pop, this]

end Workbench

/-- What comes of working on a stack is what comes of compiling. -/
structure Agree (underWay : List (Fin n))
    (x : Except (Option (DeclarationError n)) α × Workbench n)
    (y : Except (DeclarationError n) α × Dictionary (Fin n) (Compiled n)) : Prop where
  result : x.1 = y.1.mapError some
  finished : x.2.finished = y.2
  tidy : x.2.Tidy underWay

/-- With these handlers under way, working on a stack goes as compiling does. -/
def Mirrors (underWay : List (Fin n)) (m : Working n α) (m' : Compiling n α) : Prop :=
  ∀ w : Workbench n, w.Tidy underWay → Agree underWay (m.run w) (m'.run w.finished)

namespace Mirrors

theorem pure (a : α) : Mirrors underWay (pure a) (Pure.pure a) := fun _ tidy => ⟨rfl, rfl, tidy⟩

theorem throw (e : DeclarationError n) :
    Mirrors underWay (throw (some e) : Working n α) (MonadExcept.throw e) :=
  fun _ tidy => ⟨rfl, rfl, tidy⟩

theorem lift (x : Except (DeclarationError n) α) :
    Mirrors underWay (liftM (x.mapError some)) (liftM x) := by
  intro w tidy
  cases x <;> exact ⟨rfl, rfl, tidy⟩

theorem get {f : Workbench n → Working n α} {f' : Dictionary (Fin n) (Compiled n) → Compiling n α}
    (h : ∀ w, w.Tidy underWay → Mirrors underWay (f w) (f' w.finished)) :
    Mirrors underWay (MonadState.get >>= f) (MonadState.get >>= f') :=
  fun w tidy => h w tidy w tidy

theorem peek {f : Workbench n → Working n α} {m' : Compiling n α}
    (h : ∀ w, w.Tidy underWay → Mirrors underWay (f w) m') :
    Mirrors underWay (MonadState.get >>= f) m' :=
  fun w tidy => h w tidy w tidy

theorem finish (id : Fin n) (c : Compiled n) :
    Mirrors underWay
      (modify fun w => { w with finished := w.finished.insert id c })
      (modify fun memo => memo.insert id c) :=
  fun _ tidy => ⟨rfl, rfl, tidy.underWay, tidy.nodup⟩

theorem bind {m : Working n α} {m' : Compiling n α} {f : α → Working n β} {f' : α → Compiling n β}
    (h : Mirrors underWay m m') (next : ∀ a, Mirrors underWay (f a) (f' a)) :
    Mirrors underWay (m >>= f) (m' >>= f') := by
  intro w tidy
  obtain ⟨result, finished, tidy'⟩ := h w tidy
  rw [run_bind, run_bind]
  match hm : m.run w, hm' : m'.run w.finished with
  | (x, w'), (.ok a, memo) =>
    rw [hm, hm'] at result finished
    rw [hm] at tidy'
    obtain rfl : x = .ok a := result
    obtain rfl : w'.finished = memo := finished
    exact next a w' tidy'
  | (x, w'), (.error e, memo) =>
    rw [hm, hm'] at result finished
    rw [hm] at tidy'
    obtain rfl : x = .error (some e) := result
    exact ⟨rfl, finished, tidy'⟩

/-- A handler is begun on top of the stack, and the stack is popped when the handler is through. -/
theorem within {id : Fin n} (nodup : (underWay ++ [id]).Nodup) {m : Working n α}
    {m' : Compiling n α} (h : Mirrors (underWay ++ [id]) m m') :
    Mirrors underWay (Working.within id m) m' := by
  intro w tidy
  obtain ⟨result, finished, tidy'⟩ := h (w.push id) (tidy.push nodup)
  exact ⟨result, finished, tidy'.pop⟩

end Mirrors

theorem Mirrors.field {handler : String} {embed : Bool} {p : Placement n}
    {need? : Option (Need (Compiled n))} {rest : Working n (List (Field (Need (Compiled n))))}
    {rest' : Compiling n (List (Field (Need (Compiled n))))} (h : Mirrors underWay rest rest') :
    Mirrors underWay
      (do
        let field ← liftM ((p.field config handler embed need?).mapError some)
        let fields ← rest
        return field :: fields)
      (do
        let field ← liftM (p.field config handler embed need?)
        let fields ← rest'
        return field :: fields) :=
  .bind (.lift _) fun _ => .bind h fun _ => .pure _

/-- With levels for all handlers that are not under way, working on a stack goes as compiling
does. -/
theorem mirrors_compile :
    (∀ underWay id fresh, underWay.Nodup → ∀ levels, unvisited underWay ≤ levels →
      Mirrors underWay (workHandler catalogue config route method levels id)
        (compileHandler catalogue config route method underWay id fresh)) ∧
    ∀ underWay name embed placements, underWay.Nodup → ∀ levels, unvisited underWay ≤ levels →
      Mirrors underWay
        (workFields catalogue config (workHandler catalogue config route method levels) name embed
          placements)
        (compileFields catalogue config route method underWay name embed placements) := by
  refine compileHandler.mutual_induct catalogue config route method _ _ ?handler ?nil ?plain ?cycle
    ?dependency
  case handler =>
    intro underWay id fresh handler ih nodup levels enough
    have fewer : unvisited (underWay ++ [id]) < unvisited underWay := unvisited_append_lt fresh
    have nodup' : (underWay ++ [id]).Nodup :=
      List.Nodup.append nodup (List.nodup_singleton id) (by simpa using fresh)
    obtain _ | levels := levels
    · omega
    rw [compileHandler, workHandler, ← bind_assoc]
    refine .bind (.within nodup' (.bind (.lift _) fun placements => ?_)) fun _ => .pure _
    exact ih placements nodup' levels (by omega)
  case nil =>
    intro underWay name embed _ levels _
    rw [compileFields, workFields]
    exact .pure _
  case plain =>
    intro underWay name embed p ps plain ih nodup levels enough
    rw [compileFields, workFields]
    simp only [plain, pure_bind]
    exact .field (ih nodup levels enough)
  case cycle =>
    intro underWay name embed p ps d hd id seen ih nodup levels enough
    rw [compileFields, workFields]
    simp only [hd]
    rw [dif_pos seen]
    refine .peek fun w tidy => ?_
    rw [tidy.underWay, if_pos (List.contains_iff_mem.2 seen)]
    exact .bind (.throw _) fun _ => .field (ih nodup levels enough)
  case dependency =>
    intro underWay name embed p ps d hd id fresh ih target nodup levels enough
    rw [compileFields, workFields]
    simp only [hd]
    rw [dif_neg fresh]
    refine .get fun w tidy => ?_
    rw [tidy.underWay, if_neg fun seen => fresh (List.contains_iff_mem.1 seen)]
    cases w.finished.get? id with
    | some c =>
      simp only [pure_bind]
      exact .field (ih nodup levels enough)
    | none =>
      refine .bind (target nodup levels enough) fun c => .bind (.finish id c) fun _ => ?_
      simp only [pure_bind]
      exact .field (ih nodup levels enough)

/-- The names are those of a path that leads from a handler back to it. -/
def Catalogue.IsCycle (catalogue : Catalogue n) (config : Config n) (root : Fin n)
    (names : List String) : Prop :=
  ∃ d ds, catalogue.Reaches config root d ∧ (d :: ds).IsChain (catalogue.DependsOn config) ∧
    ds.getLast? = some d ∧ names = (d :: ds).map fun i => (catalogue i).name

theorem Catalogue.Objects.isCycle {root : Fin n} {names : List String}
    (h : catalogue.Objects config route method root (.circularDependency names)) :
    catalogue.IsCycle config root names := by
  cases h with
  | cycle reached chain closed => exact ⟨_, _, reached, chain, closed, rfl⟩
  | illegal _ refused => cases Placement.refusal_of_ofParams_eq_error refused

theorem unvisited_nil : unvisited ([] : List (Fin n)) = n := by simp [unvisited]

/-- As many levels as there are handlers suffice for any of them. -/
theorem mirrors_root (id : Fin n) :
    Mirrors [] (workHandler catalogue config route method n id)
      (compileHandler catalogue config route method [] id (by simp)) :=
  mirrors_compile.1 [] id (by simp) .nil n unvisited_nil.le

theorem Compiler.agree_work (compiler : Compiler n) (catalogue : Catalogue n) (id : Fin n)
    (method : Method) (pattern : String) :
    Agree [] (compiler.work catalogue id method pattern n)
      ((compiler.compile catalogue id method pattern).1,
        (compiler.compile catalogue id method pattern).2.finished) := by
  unfold work compile
  cases RoutePattern.parse pattern with
  | error problem => exact ⟨rfl, rfl, rfl, by simp⟩
  | ok route => exact mirrors_root id {} ⟨rfl, by simp⟩

theorem Compiler.isCycle_of_compile {compiler : Compiler n} {id : Fin n} {pattern : String}
    {names : List String} (h : (compiler.compile catalogue id method pattern).1 =
      .error (.circularDependency names)) :
    catalogue.IsCycle compiler.config id names := by
  cases parsed : RoutePattern.parse pattern with
  | error problem =>
    rw [compile, parsed] at h
    cases h
  | ok route => exact (objects_of_compile parsed h).isCycle

/-- As many levels as there are handlers suffice to compile any of them.  This leaves nothing under
way and never has a handler under way twice at once, and a cycle that it reports leads from a
handler that is reached back to that handler. -/
theorem Compiler.compile_eq_work (compiler : Compiler n) (catalogue : Catalogue n) (id : Fin n)
    (method : Method) (pattern : String) :
    let work := compiler.work catalogue id method pattern n
    let compiled := compiler.compile catalogue id method pattern
    work.1 = compiled.1.mapError some ∧ work.2.finished = compiled.2.finished ∧
      work.2.underWay = [] ∧ (∀ stack ∈ work.2.history, stack.Nodup) ∧
      ∀ names, compiled.1 = .error (.circularDependency names) →
        catalogue.IsCycle compiler.config id names := by
  obtain ⟨result, finished, underWay, nodup⟩ := compiler.agree_work catalogue id method pattern
  exact ⟨result, finished, underWay, nodup, fun names => isCycle_of_compile⟩

end

/-- A report that is made from a store, which is made from a database. -/
def reportFromStore : Catalogue 3
  | 0 => {
      name := "report", params := [{ name := "store", marker? := some (.depends ⟨1, true⟩) }]
      work := .async 0 fun _ => .ok (.arg (.value .null)) }
  | 1 => {
      name := "store", params := [{ name := "db", marker? := some (.depends ⟨2, true⟩) }]
      work := .async 0 fun _ => .ok (.arg (.value .null)) }
  | 2 => { name := "db", work := .async 0 fun _ => .ok (.arg (.value .null)) }

theorem compile_reportFromStore :
    (({ config := ({} : Config 3).withOverride 2 0 } : Compiler 3).compile reportFromStore 0 .get
      "/").1 = .error (.circularDependency ["report", "store", "report"]) := by
  have store (fresh) : compileHandler reportFromStore (({} : Config 3).withOverride 2 0)
      ⟨"/", []⟩ .get [0] ((({} : Config 3).withOverride 2 0).resolve 1) fresh =
      throw (.circularDependency ["report", "store", "report"]) := by
    rw [compileHandler_eq fresh ((reportFromStore 1).params.map fun p => ⟨p, .dependency, p.name⟩)
      rfl]
    simp only [reportFromStore, List.map, compileFields, Placement.depends?]
    rfl
  rw [fst_compile_root, compileHandler_eq (by simp)
    ((reportFromStore 0).params.map fun p => ⟨p, .dependency, p.name⟩) rfl]
  simp only [reportFromStore, List.map, compileFields, Placement.depends?, List.nil_append, store]
  rfl

theorem Compiler.isCycle_reportFromStore :
    let config := ({} : Config 3).withOverride 2 0
    (({ config } : Compiler 3).compile reportFromStore 0 .get "/").1 =
        .error (.circularDependency ["report", "store", "report"]) ∧
      reportFromStore.IsCycle config 0 ["report", "store", "report"] :=
  ⟨compile_reportFromStore,
    (Compiler.compile_eq_work _ reportFromStore 0 .get "/").2.2.2.2 _ compile_reportFromStore⟩

end RequestBinding
