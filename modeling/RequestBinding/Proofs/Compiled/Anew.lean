import RequestBinding.Proofs.Compiled.Objection

/-!
Compiling with nothing kept.  A handler is compiled anew wherever another one depends on it, below
the handlers that are under way there.  Main statement: this comes to what compiling comes to, for
a handler that is finished does not depend on anyone who can be under way when it is taken again.
-/
namespace RequestBinding
variable {n : Nat}

mutual

def anewHandler (catalogue : Catalogue n) (config : Config n) (route : RoutePattern)
    (method : Method) (underWay : List (Fin n)) (id : Fin n) (_fresh : id ∉ underWay) :
    Except (DeclarationError n) (Compiled n) := do
  let handler := catalogue id
  let placements ← Placement.ofParams config route method handler.name [] handler.params
  let fields ← anewFields catalogue config route method (underWay ++ [id]) handler.name
    (Placement.embedsBody placements) placements
  return .mk {
    handler := id, name := handler.name, isAsync := handler.isAsync, method, route,
    concurrent := config.concurrent, fields }
termination_by (unvisited underWay, 0)
decreasing_by exact Prod.Lex.left _ _ (unvisited_append_lt _fresh)

def anewFields (catalogue : Catalogue n) (config : Config n) (route : RoutePattern)
    (method : Method) (underWay : List (Fin n)) (name : String) (embed : Bool)
    (placements : List (Placement n)) :
    Except (DeclarationError n) (List (Field (Need (Compiled n)))) :=
  match placements with
  | [] => return []
  | p :: ps => do
    let need? ← match p.depends? with
      | none => pure none
      | some d =>
        let id := config.resolve d.handler
        if fresh : id ∈ underWay then throw (.circularDependency (cycleNames catalogue underWay id))
        else do
          let target ← anewHandler catalogue config route method underWay id fresh
          pure (some ⟨d.useCache, target⟩)
    let field ← p.field config name embed need?
    return field :: (← anewFields catalogue config route method underWay name embed ps)
termination_by (unvisited underWay, placements.length + 1)
decreasing_by
  · exact Prod.Lex.right _ (by simp)
  · exact Prod.Lex.right _ (by simp)

end

theorem not_mem_noneUnderWay (id : Fin n) : id ∉ [] := List.not_mem_nil

/-- Compile a handler for a method and a route with nothing kept. -/
def Compiler.compileAnew (compiler : Compiler n) (catalogue : Catalogue n) (id : Fin n)
    (method : Method) (pattern : String) : Except (DeclarationError n) (Compiled n) :=
  match RoutePattern.parse pattern with
  | .error problem => .error (.invalidRoute pattern problem)
  | .ok route =>
    anewHandler catalogue compiler.config route method [] id (not_mem_noneUnderWay id)

section
variable {catalogue : Catalogue n} {config : Config n} {route : RoutePattern} {method : Method}
  {root id : Fin n} {underWay : List (Fin n)} {c x : Compiled n}

namespace Compiled

theorem Part.sizeOf_le (h : Part c x) : sizeOf x ≤ sizeOf c := by
  induction h with
  | root => exact le_rfl
  | need _ hd ih => exact (sizeOf_target_lt hd).le.trans ih

/-- No part of a compiled handler depends on the handler. -/
theorem Faithful.not_transGen_part (h : Faithful catalogue config route method c) (hx : Part c x) :
    ¬Relation.TransGen (catalogue.DependsOn config) x.binding.handler c.binding.handler := by
  intro path
  obtain ⟨y, hy, same, lt⟩ := (h.part hx).exists_part_of_transGen path
  rw [h.coherent y c (hx.trans hy) .root same] at lt
  exact absurd hx.sizeOf_le lt.not_ge

end Compiled

theorem Catalogue.Path.transGen (h : catalogue.Path config root (underWay ++ [id])) {u : Fin n}
    (hu : u ∈ underWay) : Relation.TransGen (catalogue.DependsOn config) u id := by
  obtain ⟨before, after, rfl⟩ := List.append_of_mem hu
  have chain : (u :: (after ++ [id])).IsChain (catalogue.DependsOn config) :=
    h.chain.suffix ⟨before, by simp⟩
  exact transGen_of_isChain chain List.getLast?_concat

theorem Compiled.Faithful.part_not_underWay (h : Faithful catalogue config route method c)
    (path : catalogue.Path config root (underWay ++ [c.binding.handler])) (hx : Part c x) :
    x.binding.handler ∉ underWay :=
  fun seen => h.not_transGen_part hx (path.transGen seen)

theorem anewFields_eq {name : String} {embed : Bool} {placements : List (Placement n)}
    {fields : List (Field (Need (Compiled n)))}
    (made : List.Forall₂ (Placement.Makes config name embed) placements fields)
    (targets : ∀ f ∈ fields, ∀ d, f.feed = .dependency d → ∀ id, d.target.binding.handler = id →
      ∃ fresh : id ∉ underWay,
        anewHandler catalogue config route method underWay id fresh = .ok d.target) :
    anewFields catalogue config route method underWay name embed placements = .ok fields := by
  induction made with
  | nil =>
    rw [anewFields]
    rfl
  | @cons p f ps fs makes _ ih =>
    have rest := ih fun g hg => targets g (by simp [hg])
    obtain ⟨need?, depends, field⟩ := makes
    rw [anewFields, rest]
    cases asked : p.depends? with
    | none =>
      rw [asked] at depends
      obtain rfl : need? = none := Option.map_eq_none_iff.1 depends
      simp only [pure_bind, field]
      rfl
    | some d =>
      rw [asked] at depends
      obtain ⟨e, rfl, replaced⟩ := Option.map_eq_some_iff.1 depends
      have feed : f.feed = .dependency e := by simpa using (Placement.of_field_eq_ok field).2.2
      obtain ⟨fresh, anew⟩ := targets f (by simp) e feed (config.resolve d.handler)
        (congrArg Depends.handler replaced)
      obtain ⟨useCache, target⟩ := e
      obtain rfl : useCache = d.useCache := congrArg Depends.useCache replaced
      simp only [dif_neg fresh, anew]
      simp only [bind, Except.bind, pure, Except.pure, field]

theorem anewHandler_eq {placements : List (Placement n)}
    {fields : List (Field (Need (Compiled n)))} (fresh : id ∉ underWay)
    (placed : Placement.ofParams config route method (catalogue id).name [] (catalogue id).params =
      .ok placements)
    (made : anewFields catalogue config route method (underWay ++ [id]) (catalogue id).name
      (Placement.embedsBody placements) placements = .ok fields) :
    anewHandler catalogue config route method underWay id fresh =
      .ok (.mk ⟨id, (catalogue id).name, (catalogue id).isAsync, method, route, config.concurrent,
        fields⟩) := by
  rw [anewHandler, placed]
  change (anewFields .. >>= _) = _
  rw [made]
  rfl

/-- A finished handler comes out again where none of its parts is under way. -/
theorem Compiled.Faithful.anew_eq (h : Faithful catalogue config route method c)
    (apart : ∀ x, Part c x → x.binding.handler ∉ underWay) (id : Fin n)
    (same : c.binding.handler = id) : ∃ fresh : id ∉ underWay,
      anewHandler catalogue config route method underWay id fresh = .ok c := by
  induction c using Compiled.induction generalizing underWay id with
  | step c ih =>
    have needs : ∀ d ∈ c.needs, ∀ target, d.target.binding.handler = target →
        ∃ fresh : target ∉ underWay ++ [id], anewHandler catalogue config route method
          (underWay ++ [id]) target fresh = .ok d.target := by
      intro d hd
      have part : Part c d.target := .need .root hd
      refine ih d hd (h.part part) fun x hx seen => ?_
      rcases List.mem_append.1 seen with seen | own
      · exact apart x (part.trans hx) seen
      · have eq : x = c :=
          h.coherent x c (part.trans hx) .root ((List.mem_singleton.1 own).trans same.symm)
        have le : sizeOf c ≤ sizeOf d.target := eq ▸ hx.sizeOf_le
        exact absurd (sizeOf_target_lt hd) le.not_gt
    have fresh := same ▸ apart c .root
    refine ⟨fresh, ?_⟩
    cases h c .root with
    | @intro id' placements fields placed made =>
      obtain rfl : id' = id := same
      exact anewHandler_eq fresh placed <|
        anewFields_eq made fun f hf d hd => needs d (mem_needs_iff.2 ⟨f, hf, hd⟩)

namespace Compiling
variable {α β : Type}

/-- From finished handlers on, this is the result, and finished handlers are kept. -/
def Yields (keeps : Dictionary (Fin n) (Compiled n) → Prop) (m : Compiling n α)
    (result : Except (DeclarationError n) α) : Prop :=
  ∀ memo, keeps memo → (m.run memo).1 = result ∧ keeps (m.run memo).2

variable {keeps : Dictionary (Fin n) (Compiled n) → Prop}

theorem yields_pure (a : α) : Yields keeps (pure a : Compiling n α) (pure a) :=
  fun _ kept => ⟨rfl, kept⟩

theorem yields_throw (e : DeclarationError n) :
    Yields keeps (throw e : Compiling n α) (throw e) := fun _ kept => ⟨rfl, kept⟩

theorem yields_lift (x : Except (DeclarationError n) α) :
    Yields keeps (liftM x : Compiling n α) x := fun _ kept => ⟨rfl, kept⟩

theorem yields_get {f : Dictionary (Fin n) (Compiled n) → Compiling n α}
    {result : Except (DeclarationError n) α}
    (h : ∀ memo, keeps memo → Yields keeps (f memo) result) :
    Yields keeps (get >>= f) result := fun memo kept => h memo kept memo kept

theorem yields_modify {f : Dictionary (Fin n) (Compiled n) → Dictionary (Fin n) (Compiled n)}
    {g : Unit → Compiling n α} {result : Except (DeclarationError n) α}
    (keep : ∀ memo, keeps memo → keeps (f memo)) (h : Yields keeps (g ()) result) :
    Yields keeps (modify f >>= g) result := fun memo kept => h (f memo) (keep memo kept)

theorem Yields.bind {m : Compiling n α} {x : Except (DeclarationError n) α}
    {f : α → Compiling n β} {g : α → Except (DeclarationError n) β} (h : Yields keeps m x)
    (next : ∀ a, x = .ok a → Yields keeps (f a) (g a)) : Yields keeps (m >>= f) (x >>= g) := by
  intro memo kept
  obtain ⟨result, kept'⟩ := h memo kept
  rw [run_bind]
  match hm : m.run memo with
  | (.ok a, memo') =>
    rw [hm] at result kept'
    rw [← result]
    exact next a result.symm memo' kept'
  | (.error e, memo') =>
    rw [hm] at result kept'
    rw [← result]
    exact ⟨rfl, kept'⟩

end Compiling

theorem Compiling.yields_field {keeps : Dictionary (Fin n) (Compiled n) → Prop} {name : String}
    {embed : Bool} {p : Placement n} {need? : Option (Need (Compiled n))}
    {rest : Compiling n (List (Field (Need (Compiled n))))}
    {rest' : Except (DeclarationError n) (List (Field (Need (Compiled n))))}
    (h : Yields keeps rest rest') :
    Yields keeps
      (do
        let field ← liftM (p.field config name embed need?)
        let fields ← rest
        return field :: fields)
      (do
        let field ← p.field config name embed need?
        let fields ← rest'
        return field :: fields) :=
  .bind (yields_lift _) fun _ _ => .bind h fun _ _ => yields_pure _

/-- From any path of handlers under way on, compiling comes to what it comes to with nothing
kept. -/
theorem yields_compile :
    (∀ underWay id fresh, catalogue.Path config root (underWay ++ [id]) →
      Compiling.Yields (Finished catalogue config route method)
        (compileHandler catalogue config route method underWay id fresh)
        (anewHandler catalogue config route method underWay id fresh)) ∧
    ∀ underWay name embed placements,
      (∀ p ∈ placements, ∀ d, p.depends? = some d →
        catalogue.Path config root (underWay ++ [config.resolve d.handler])) →
      Compiling.Yields (Finished catalogue config route method)
        (compileFields catalogue config route method underWay name embed placements)
        (anewFields catalogue config route method underWay name embed placements) := by
  refine compileHandler.mutual_induct catalogue config route method _ _ ?handler ?nil ?plain ?cycle
    ?dependency
  case handler =>
    intro underWay id fresh handler ih path
    rw [compileHandler, anewHandler]
    refine .bind (Compiling.yields_lift _) fun placements placed => ?_
    obtain ⟨params, _⟩ := Placement.mem_of_ofParams_eq_ok placed
    refine .bind (ih placements fun p hp d hd => ?_) fun _ _ => Compiling.yields_pure _
    refine path.extend ⟨p.param, ?_, d, Placement.depends?_eq_some_iff.1 hd, rfl⟩
    exact params ▸ List.mem_map_of_mem hp
  case nil =>
    intro underWay name embed _
    rw [compileFields, anewFields]
    exact Compiling.yields_pure _
  case plain =>
    intro underWay name embed p ps plain ih paths
    rw [compileFields, anewFields]
    simp only [plain, pure_bind]
    exact Compiling.yields_field (ih fun q hq => paths q (by simp [hq]))
  case cycle =>
    intro underWay name embed p ps d hd id seen ih paths
    rw [compileFields, anewFields]
    simp only [hd]
    rw [dif_pos seen, dif_pos seen]
    exact .bind (Compiling.yields_throw _) fun _ thrown => by cases thrown
  case dependency =>
    intro underWay name embed p ps d hd id fresh ih target paths
    have rest := ih fun q hq => paths q (by simp [hq])
    have path := paths p (by simp) d hd
    rw [compileFields, anewFields]
    simp only [hd]
    rw [dif_neg fresh, dif_neg fresh]
    refine Compiling.yields_get fun memo kept => ?_
    cases hit : memo.get? id with
    | some c =>
      -- what is finished would come out again
      obtain ⟨same, faithful⟩ := kept _ c hit
      have here : catalogue.Path config root (underWay ++ [c.binding.handler]) := by rwa [same]
      have apart : ∀ x, Compiled.Part c x → x.binding.handler ∉ underWay :=
        fun x => faithful.part_not_underWay here
      obtain ⟨_, anew⟩ := faithful.anew_eq apart id same
      rw [anew]
      exact Compiling.yields_field rest
    | none =>
      refine .bind (target path) fun c compiled => ?_
      have gives : Compiling.Gives (Finished catalogue config route method) _ _ :=
        gives_compile.1 underWay id fresh
      obtain ⟨same, faithful⟩ := (gives ∅ finished_empty).2 c
        (((target path) ∅ finished_empty).1.trans compiled)
      refine Compiling.yields_modify (fun _ kept => Finished.insert kept same faithful) ?_
      simp only [pure_bind]
      exact Compiling.yields_field rest

theorem fst_compileHandler_eq (id : Fin n) :
    ((compileHandler catalogue config route method [] id (by simp)).run ∅).1 =
      anewHandler catalogue config route method [] id (by simp) :=
  (yields_compile.1 [] id (by simp) ⟨rfl, .singleton id⟩ ∅ finished_empty).1

theorem Compiled.Faithful.fst_compile_eq {compiler : Compiler n} {pattern : String}
    (h : Faithful catalogue compiler.config route method c)
    (parsed : RoutePattern.parse pattern = .ok route) :
    (compiler.compile catalogue c.binding.handler method pattern).1 = .ok c := by
  have apart : ∀ x, Part c x → x.binding.handler ∉ [] := fun _ _ => List.not_mem_nil
  obtain ⟨_, anew⟩ := h.anew_eq apart _ rfl
  rw [RequestBinding.fst_compile_eq parsed, fst_compileHandler_eq, anew]

/-- Keeping what is finished does not show: a handler that is compiled is the one that comes out
with nothing kept, and an error is the error that comes out then. -/
theorem Compiler.compile_eq_anew (compiler : Compiler n) (catalogue : Catalogue n) (id : Fin n)
    (method : Method) (pattern : String) :
    (compiler.compile catalogue id method pattern).1 =
      compiler.compileAnew catalogue id method pattern := by
  unfold compile compileAnew
  cases RoutePattern.parse pattern with
  | error problem => rfl
  | ok route => exact fst_compileHandler_eq id

end

end RequestBinding
