import RequestBinding.Proofs.Compiled.Anew
import RequestBinding.Proofs.Compiled.PathFields
import RequestBinding.Proofs.Compiled.UnderWay
import RequestBinding.RouteTable

/-!
One compiler for many endpoints.  Main statement: whatever a compiler was used for before, it gives
what a new one gives, so that a registry has each handler as its first endpoint that is legal has
it, with all that it depends on compiled for that endpoint.
-/
namespace RequestBinding
variable {n : Nat}

structure Endpoint (n : Nat) where
  handler : Fin n
  method : Method
  pattern : String

def Endpoint.compiled (e : Endpoint n) (catalogue : Catalogue n) (config : Config n) :
    Except (DeclarationError n) (Compiled n) :=
  (({ config } : Compiler n).compile catalogue e.handler e.method e.pattern).1

/-- The compiler once it was used for endpoints, whatever came of them. -/
def Compiler.after (compiler : Compiler n) (catalogue : Catalogue n) (es : List (Endpoint n)) :
    Compiler n :=
  es.foldl (fun c e => (c.compile catalogue e.handler e.method e.pattern).2) compiler

namespace Workbench

def clear (w : Workbench n) : Workbench n := { w with underWay := [], finished := ∅ }

/-- Compile for an endpoint with a stack.  The workbench is cleared unless the route is at fault. -/
def compile (w : Workbench n) (catalogue : Catalogue n) (config : Config n) (e : Endpoint n) :
    Except (Option (DeclarationError n)) (Compiled n) × Workbench n :=
  match RoutePattern.parse e.pattern with
  | .error problem => (.error (some (.invalidRoute e.pattern problem)), w)
  | .ok route => (workHandler catalogue config route e.method n e.handler).run w.clear

def after (w : Workbench n) (catalogue : Catalogue n) (config : Config n)
    (es : List (Endpoint n)) : Workbench n :=
  es.foldl (fun w e => (w.compile catalogue config e).2) w

end Workbench

/-- The registry once endpoints were registered, as far as they can be. -/
def Registry.after (g : Registry n) (catalogue : Catalogue n) (es : List (Endpoint n)) :
    Registry n :=
  es.foldl (fun g e => (g.register catalogue e.method e.pattern e.handler).2) g

section
variable {catalogue : Catalogue n} {config : Config n} {compiler : Compiler n} {w : Workbench n}
  {g : Registry n}

namespace Compiler

@[simp] theorem config_compile (compiler : Compiler n) (catalogue : Catalogue n) (id : Fin n)
    (method : Method) (pattern : String) :
    (compiler.compile catalogue id method pattern).2.config = compiler.config := by
  unfold compile
  cases RoutePattern.parse pattern <;> rfl

theorem fst_compile (compiler : Compiler n) (catalogue : Catalogue n) (e : Endpoint n) :
    (compiler.compile catalogue e.handler e.method e.pattern).1 =
      e.compiled catalogue compiler.config := by
  unfold Endpoint.compiled compile
  cases RoutePattern.parse e.pattern <;> rfl

@[simp] theorem config_after (es : List (Endpoint n)) :
    (compiler.after catalogue es).config = compiler.config := by
  induction es generalizing compiler with
  | nil => rfl
  | cons e es ih => exact ih.trans (config_compile compiler catalogue e.handler e.method e.pattern)

end Compiler

namespace Workbench

/-- A workbench with an empty stack and a compiler that have the same handlers finished agree on the
next endpoint, and they are left so. -/
theorem agree_compile (catalogue : Catalogue n) (tidy : w.Tidy [])
    (finished : w.finished = compiler.finished) (e : Endpoint n) :
    Agree [] (w.compile catalogue compiler.config e)
      ((compiler.compile catalogue e.handler e.method e.pattern).1,
        (compiler.compile catalogue e.handler e.method e.pattern).2.finished) := by
  unfold Workbench.compile Compiler.compile
  cases RoutePattern.parse e.pattern with
  | error problem => exact ⟨rfl, finished, tidy⟩
  | ok route => exact mirrors_root e.handler w.clear ⟨rfl, tidy.nodup⟩

theorem tidy_after (catalogue : Catalogue n) (tidy : w.Tidy [])
    (finished : w.finished = compiler.finished) (es : List (Endpoint n)) :
    (w.after catalogue compiler.config es).Tidy [] ∧
      (w.after catalogue compiler.config es).finished = (compiler.after catalogue es).finished := by
  induction es generalizing w compiler with
  | nil => exact ⟨tidy, finished⟩
  | cons e es ih =>
    have next := agree_compile catalogue tidy finished e
    have rest := ih next.tidy next.finished
    rwa [Compiler.config_compile] at rest

end Workbench

namespace Registry

theorem config_register (method : Method) (pattern : String) (id : Fin n) :
    (g.register catalogue method pattern id).2.compiler.config = g.compiler.config := by
  unfold register
  split
  · rfl
  · have config := g.compiler.config_compile catalogue id method pattern
    split <;> next eq => rwa [eq] at config

theorem get?_register (e : Endpoint n) (id : Fin n) :
    (g.register catalogue e.method e.pattern e.handler).2.table.get? id =
      (g.table.get? id).or
        (if e.handler = id then (e.compiled catalogue g.compiler.config).toOption else none) := by
  have compiled := g.compiler.fst_compile catalogue e
  unfold register
  split
  · next known =>
    by_cases same : e.handler = id
    · subst same
      obtain ⟨c, hc⟩ := Option.isSome_iff_exists.1 known
      simp [RouteTable.get?, hc]
    · simp [same]
  · next unknown =>
    have none : g.table.routes.get? e.handler = none := by
      simpa [Dictionary.contains] using unknown
    split
    · next error _ eq =>
      have failed : .error error = e.compiled catalogue g.compiler.config := by
        rwa [eq] at compiled
      rw [← failed]
      simp [Except.toOption]
    · next c _ eq =>
      have made : .ok c = e.compiled catalogue g.compiler.config := by rwa [eq] at compiled
      rw [← made]
      by_cases same : e.handler = id
      · subst same
        simp [RouteTable.get?, none, Except.toOption]
      · simp [RouteTable.get?, same]

/-- A registry keeps what it has and adds, for each other handler, its first endpoint that can be
compiled. -/
theorem get?_after (es : List (Endpoint n)) (id : Fin n) :
    (g.after catalogue es).table.get? id = (g.table.get? id).or
      ((es.filter (·.handler = id)).findSome? fun e =>
        (e.compiled catalogue g.compiler.config).toOption) := by
  induction es generalizing g with
  | nil => simp [after]
  | cons e es ih =>
    have step := ih (g := (g.register catalogue e.method e.pattern e.handler).2)
    rw [config_register, get?_register, Option.or_assoc] at step
    refine step.trans ?_
    by_cases same : e.handler = id
    · cases made : (e.compiled catalogue g.compiler.config).toOption <;> simp [same, made]
    · simp [same]

end Registry

theorem RoutePattern.text_of_parse {pattern : String} {route : RoutePattern}
    (h : RoutePattern.parse pattern = .ok route) : route.text = pattern := by
  unfold parse at h
  cases names : groups [] pattern.toList with
  | error problem =>
    rw [names] at h
    cases h
  | ok names' =>
    rw [names] at h
    cases h
    rfl

theorem eq_ok_of_toOption {ε α : Type} {x : Except ε α} {a : α} (h : x.toOption = some a) :
    x = .ok a := by
  cases x with
  | error e => cases h
  | ok b => exact congrArg _ (Option.some.inj h)

theorem Compiled.Declared.method_eq {route : RoutePattern} {method : Method} {c : Compiled n}
    (h : Declared catalogue config route method c) : c.binding.method = method := by
  cases h
  rfl

/-- A compiler, with or without a stack, compiles as a new one does, whatever it was used for
before.  A registry has each handler as its first endpoint that can be compiled has it, and all
parts of it are what a new compiler makes of them for the route of this endpoint. -/
theorem Compiler.compile_after (config : Config n) (catalogue : Catalogue n)
    (es : List (Endpoint n)) (e : Endpoint n) :
    let used := ({ config } : Compiler n).after catalogue es
    let bench := ({} : Workbench n).after catalogue config es
    let registry := ({ compiler := { config } } : Registry n).after catalogue es
    (used.compile catalogue e.handler e.method e.pattern).1 = e.compiled catalogue config ∧
      (bench.compile catalogue config e).1 = (e.compiled catalogue config).mapError some ∧
      bench.underWay = [] ∧
      (∀ id, registry.table.get? id = (es.filter (·.handler = id)).findSome? fun e =>
        (e.compiled catalogue config).toOption) ∧
      ∀ id c, registry.table.get? id = some c → ∃ e ∈ es, e.handler = id ∧ ∀ x, c.Part x →
        Endpoint.compiled ⟨x.binding.handler, e.method, e.pattern⟩ catalogue config = .ok x ∧
          x.binding.method = e.method ∧ x.binding.route.text = e.pattern := by
  intro used bench registry
  have tidy : ({} : Workbench n).Tidy [] := ⟨rfl, by simp⟩
  have finished : ({} : Workbench n).finished = ({ config } : Compiler n).finished := rfl
  have agree := Workbench.tidy_after catalogue tidy finished es
  have table : ∀ id, registry.table.get? id = (es.filter (·.handler = id)).findSome? fun e =>
      (e.compiled catalogue config).toOption := fun id => Registry.get?_after es id
  refine ⟨?_, ?_, agree.1.underWay, table, fun id c found => ?_⟩
  · rw [fst_compile, config_after]
  · have next := Workbench.agree_compile catalogue agree.1 agree.2 e
    rw [config_after] at next
    rw [next.result, fst_compile, config_after]
  · rw [table id] at found
    obtain ⟨e, he, made⟩ := List.exists_of_findSome?_eq_some found
    obtain ⟨mem, handler⟩ := List.mem_filter.1 he
    obtain ⟨route, parsed, _, faithful⟩ := faithful_of_compile (eq_ok_of_toOption made)
    refine ⟨e, mem, by simpa using handler, fun x hx => ⟨?_, ?_, ?_⟩⟩
    · exact (faithful.part hx).fst_compile_eq parsed
    · exact (faithful x hx).method_eq
    · rw [(faithful x hx).route_eq, RoutePattern.text_of_parse parsed]

end

/-- Two pages about an item, with the handler that finds the item, and a page that depends on
itself. -/
def itemPages : Catalogue 4
  | 0 => {
      name := "item", params := [{ name := "item" }]
      work := .async 0 fun _ => .ok (.arg (.value .null)) }
  | 1 => {
      name := "show", params := [{ name := "found", marker? := some (.depends ⟨0, true⟩) }]
      work := .async 0 fun _ => .ok (.arg (.value .null)) }
  | 2 => {
      name := "drop", params := [{ name := "found", marker? := some (.depends ⟨0, true⟩) }]
      work := .async 0 fun _ => .ok (.arg (.value .null)) }
  | 3 => {
      name := "loop"
      params := [{ name := "found", marker? := some (.depends ⟨0, true⟩) },
        { name := "again", marker? := some (.depends ⟨3, true⟩) }]
      work := .async 0 fun _ => .ok (.arg (.value .null)) }

def compiledPage (id : Fin 4) (name : String) (method : Method) (route : RoutePattern)
    (e : Extractor) : Compiled 4 :=
  .mk ⟨id, name, true, method, route, true, [{
    name := "found", schema := .any, feed := .dependency ⟨true, .mk ⟨0, "item", true, method, route,
      true, [{ name := "item", schema := .any, feed := .extract e }]⟩⟩ }]⟩

theorem compile_showPage :
    (({ config := {} } : Compiler 4).compile itemPages 1 .get "/items/\x7bitem\x7d").1 =
      .ok (compiledPage 1 "show" .get itemRoute (.path ⟨"item", .any, none⟩)) := by
  have item (underWay fresh) : compileHandler itemPages {} itemRoute .get underWay
      (({} : Config 4).resolve 0) fresh = pure (.mk ⟨0, "item", true, .get, itemRoute, true,
        [{ name := "item", schema := .any, feed := .extract (.path ⟨"item", .any, none⟩) }]⟩) := by
    rw [compileHandler_eq fresh [⟨{ name := "item" }, .path, "item"⟩] rfl]
    simp only [compileFields, Placement.depends?]
    rfl
  rw [fst_compile_eq parse_itemRoute, compileHandler_eq (by simp)
    ((itemPages 1).params.map fun p => ⟨p, .dependency, p.name⟩) rfl]
  simp only [itemPages, List.map, compileFields, Placement.depends?, item]
  rfl

theorem compileHandler_queriedItem {method : Method} {underWay : List (Fin 4)}
    (fresh : ({} : Config 4).resolve 0 ∉ underWay) :
    compileHandler itemPages {} ⟨"/", []⟩ method underWay (({} : Config 4).resolve 0) fresh =
      pure (.mk ⟨0, "item", true, method, ⟨"/", []⟩, true,
        [{ name := "item", schema := .any, feed := .extract (.query ⟨"item", .any, none⟩) }]⟩) := by
  rw [compileHandler_eq fresh [⟨{ name := "item" }, .query, "item"⟩] (by cases method <;> rfl)]
  simp only [compileFields, Placement.depends?]
  rfl

theorem compile_dropPage :
    (({ config := {} } : Compiler 4).compile itemPages 2 .delete "/").1 =
      .ok (compiledPage 2 "drop" .delete ⟨"/", []⟩ (.query ⟨"item", .any, none⟩)) := by
  rw [fst_compile_root, compileHandler_eq (by simp)
    ((itemPages 2).params.map fun p => ⟨p, .dependency, p.name⟩) rfl]
  simp only [itemPages, List.map, compileFields, Placement.depends?, compileHandler_queriedItem]
  rfl

/-- The pages share the handler that finds the item, and it is compiled for either of them, after it
was finished for a page that cannot be compiled. -/
theorem Compiler.compile_after_itemPages :
    let shown : Compiled 4 := compiledPage 1 "show" .get itemRoute (.path ⟨"item", .any, none⟩)
    let dropped : Compiled 4 :=
      compiledPage 2 "drop" .delete ⟨"/", []⟩ (.query ⟨"item", .any, none⟩)
    let es : List (Endpoint 4) := [⟨3, .get, "/items/\x7bitem\x7d"⟩,
      ⟨1, .get, "/items/\x7bitem\x7d"⟩, ⟨2, .delete, "/"⟩]
    let registry := ({ compiler := { config := {} } } : Registry 4).after itemPages es
    registry.table.get? 1 = some shown ∧ registry.table.get? 2 = some dropped ∧
      ∀ c ∈ [shown, dropped], ∃ e ∈ es, e.handler = c.binding.handler ∧ ∀ x, c.Part x →
        Endpoint.compiled ⟨x.binding.handler, e.method, e.pattern⟩ itemPages {} = .ok x ∧
          x.binding.method = e.method ∧ x.binding.route.text = e.pattern := by
  intro shown dropped es registry
  obtain ⟨_, _, _, table, parts⟩ := Compiler.compile_after {} itemPages es ⟨1, .get, "/"⟩
  have made : Endpoint.compiled ⟨1, .get, "/items/\x7bitem\x7d"⟩ itemPages {} = .ok shown :=
    compile_showPage
  have made' : Endpoint.compiled ⟨2, .delete, "/"⟩ itemPages {} = .ok dropped := compile_dropPage
  have first : registry.table.get? 1 = some shown :=
    (table 1).trans (by simp [es, made, Except.toOption])
  have second : registry.table.get? 2 = some dropped :=
    (table 2).trans (by simp [es, made', Except.toOption])
  refine ⟨first, second, fun c hc => ?_⟩
  rcases List.mem_pair.1 hc with rfl | rfl
  · exact parts 1 shown first
  · exact parts 2 dropped second

end RequestBinding
