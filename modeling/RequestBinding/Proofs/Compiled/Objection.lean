import RequestBinding.Proofs.Compiled.Legality
import Mathlib.Data.List.Chain

/-!
Why a handler is not compiled.  The handlers under way form a path of dependencies from the handler
that was asked for, so that whoever turns up among them closes a cycle.  Main statements: every
error of the compiler names an illegal declaration or a cycle that can be reached, and a handler is
compiled exactly if there are none of these.
-/
namespace RequestBinding
variable {n : Nat}

/-- A parameter of the handler depends on the other one, or on a handler that this one stands in
for. -/
def Catalogue.DependsOn (catalogue : Catalogue n) (config : Config n) (d e : Fin n) : Prop :=
  ∃ p ∈ (catalogue d).params, ∃ x, p.marker? = some (.depends x) ∧ config.resolve x.handler = e

/-- The handler is the other one or one that this depends on in some steps. -/
abbrev Catalogue.Reaches (catalogue : Catalogue n) (config : Config n) : Fin n → Fin n → Prop :=
  Relation.ReflTransGen (catalogue.DependsOn config)

/-- Handlers, each of which depends on the next one. -/
structure Catalogue.Path (catalogue : Catalogue n) (config : Config n) (root : Fin n)
    (path : List (Fin n)) : Prop where
  head : path.head? = some root
  chain : path.IsChain (catalogue.DependsOn config)

/-- Why the handler cannot be compiled on a route. -/
inductive Catalogue.Objects (catalogue : Catalogue n) (config : Config n) (route : RoutePattern)
    (method : Method) (root : Fin n) : DeclarationError n → Prop
  | cycle {d : Fin n} {ds : List (Fin n)} : catalogue.Reaches config root d →
      (d :: ds).IsChain (catalogue.DependsOn config) → ds.getLast? = some d →
      Objects catalogue config route method root
        (.circularDependency ((d :: ds).map fun i => (catalogue i).name))
  | illegal {d : Fin n} {e : DeclarationError n} : catalogue.Reaches config root d →
      Placement.ofParams config route method (catalogue d).name [] (catalogue d).params = .error e →
      Objects catalogue config route method root e

section
variable {catalogue : Catalogue n} {config : Config n} {route : RoutePattern} {method : Method}
  {root id : Fin n} {underWay : List (Fin n)}

namespace Catalogue

theorem Path.reaches (h : catalogue.Path config root underWay) {d : Fin n} (hd : d ∈ underWay) :
    catalogue.Reaches config root d := by
  obtain ⟨before, after, rfl⟩ := List.append_of_mem hd
  have chain := (List.isChain_split.1 h.chain).1
  have head : (before ++ [d]).head? = some root := by
    have := h.head
    cases before <;> simpa using this
  obtain ⟨rest, eq⟩ := List.head?_eq_some_iff.1 head
  rw [eq] at chain
  refine List.relationReflTransGen_of_exists_isChain_cons rest chain ?_
  simp [← eq]

theorem dropWhile_ne_eq_cons {α : Type} [DecidableEq α] {a : α} {l : List α} (h : a ∈ l) :
    ∃ rest, l.dropWhile (· ≠ a) = a :: rest := by
  induction l with
  | nil => simp at h
  | cons b l ih =>
    by_cases hb : b = a
    · exact ⟨l, by simp [hb]⟩
    · obtain ⟨rest, eq⟩ := ih ((List.mem_cons.1 h).resolve_left (Ne.symm hb))
      exact ⟨rest, by rw [List.dropWhile_cons_of_pos (by simpa using hb), eq]⟩

theorem Path.cycle (h : catalogue.Path config root (underWay ++ [id])) (seen : id ∈ underWay) :
    catalogue.Objects config route method root
      (.circularDependency (cycleNames catalogue underWay id)) := by
  obtain ⟨rest, eq⟩ := dropWhile_ne_eq_cons seen
  have part : (id :: (rest ++ [id])) <:+ underWay ++ [id] := by
    have := List.dropWhile_suffix (l := underWay) (· ≠ id)
    rw [eq] at this
    obtain ⟨before, split⟩ := this
    exact ⟨before, by rw [← split, List.append_assoc, List.cons_append]⟩
  have names : cycleNames catalogue underWay id =
      (id :: (rest ++ [id])).map fun i => (catalogue i).name := by
    rw [cycleNames, eq, ← List.cons_append, List.map_append]
    rfl
  rw [names]
  exact .cycle (h.reaches (by simp)) (h.chain.suffix part) (by simp)

end Catalogue

namespace Compiling
variable {α β : Type}

/-- Whatever goes wrong satisfies `post`. -/
def Blames (m : Compiling n α) (post : DeclarationError n → Prop) : Prop :=
  ∀ memo e, (m.run memo).1 = .error e → post e

variable {post : DeclarationError n → Prop}

theorem blames_pure (a : α) : Blames (pure a) post := nofun

theorem blames_throw {e : DeclarationError n} (h : post e) :
    Blames (throw e : Compiling n α) post := by
  rintro _ _ ⟨⟩
  exact h

theorem blames_lift {x : Except (DeclarationError n) α} (h : ∀ e, x = .error e → post e) :
    Blames (liftM x : Compiling n α) post := fun _ e he => h e he

theorem blames_get : Blames (get : Compiling n _) post := nofun

theorem blames_modify (f : Dictionary (Fin n) (Compiled n) → Dictionary (Fin n) (Compiled n)) :
    Blames (modify f : Compiling n Unit) post := nofun

theorem Blames.bind {m : Compiling n α} {f : α → Compiling n β} (h : Blames m post)
    (next : ∀ a memo, (m.run memo).1 = .ok a → Blames (f a) post) : Blames (m >>= f) post := by
  intro memo e he
  rw [run_bind] at he
  split at he
  · next a memo' hm => exact next a memo (by rw [hm]) memo' e he
  · next e' memo' hm =>
    obtain rfl : e' = e := Except.error.inj he
    exact h memo e' (by rw [hm])

end Compiling

theorem Catalogue.Path.extend (h : catalogue.Path config root (underWay ++ [id])) {d : Fin n}
    (edge : catalogue.DependsOn config id d) :
    catalogue.Path config root ((underWay ++ [id]) ++ [d]) := by
  refine ⟨?_, h.chain.append (by simp) (by simpa using edge)⟩
  rw [List.head?_append, h.head, Option.some_or]

theorem Compiling.blames_field {post : DeclarationError n → Prop} {handler : String} {embed : Bool}
    {p : Placement n} {need? : Option (Need (Compiled n))}
    {rest : Compiling n (List (Field (Need (Compiled n))))}
    (source : p.source = p.param.source config route method)
    (asked : need?.isSome = p.depends?.isSome) (h : Blames rest post) :
    Blames (do
      let field ← liftM (p.field config handler embed need?)
      let fields ← rest
      return field :: fields) post := by
  obtain ⟨f, made⟩ := Placement.exists_field_eq_ok source handler embed asked
  refine .bind (blames_lift fun e he => ?_) fun f _ _ => .bind h fun fs _ _ => blames_pure _
  rw [made] at he
  cases he

/-- Whatever goes wrong from a path of handlers under way on is an illegal declaration or a cycle
that can be reached. -/
theorem blames_compile :
    (∀ underWay id fresh, catalogue.Path config root (underWay ++ [id]) →
      Compiling.Blames (compileHandler catalogue config route method underWay id fresh)
        (catalogue.Objects config route method root)) ∧
    ∀ underWay name embed placements,
      (∀ p ∈ placements, p.source = p.param.source config route method) →
      (∀ p ∈ placements, ∀ d, p.depends? = some d →
        catalogue.Path config root (underWay ++ [config.resolve d.handler])) →
      Compiling.Blames (compileFields catalogue config route method underWay name embed placements)
        (catalogue.Objects config route method root) := by
  refine compileHandler.mutual_induct catalogue config route method _ _ ?handler ?nil ?plain ?cycle
    ?dependency
  case handler =>
    intro underWay id fresh handler ih path
    rw [compileHandler]
    refine .bind (Compiling.blames_lift fun e he => .illegal (path.reaches (by simp)) he)
      fun placements _ placed => ?_
    obtain ⟨params, sources⟩ := Placement.mem_of_ofParams_eq_ok placed
    refine .bind (ih placements sources fun p hp d hd => ?_) fun _ _ _ => Compiling.blames_pure _
    refine path.extend ⟨p.param, ?_, d, Placement.depends?_eq_some_iff.1 hd, rfl⟩
    exact params ▸ List.mem_map_of_mem hp
  case nil =>
    intro underWay name embed _ _
    rw [compileFields]
    exact Compiling.blames_pure _
  case plain =>
    intro underWay name embed p ps plain ih sources paths
    rw [compileFields]
    simp only [plain, pure_bind]
    exact Compiling.blames_field (sources p (by simp)) (by simp [plain])
      (ih (fun q hq => sources q (by simp [hq])) fun q hq => paths q (by simp [hq]))
  case cycle =>
    intro underWay name embed p ps d hd id seen ih sources paths
    rw [compileFields]
    simp only [hd]
    rw [dif_pos seen]
    refine .bind (Compiling.blames_throw ((paths p (by simp) d hd).cycle seen)) fun _ _ thrown => ?_
    cases thrown
  case dependency =>
    intro underWay name embed p ps d hd id fresh ih target sources paths
    have rest := ih (fun q hq => sources q (by simp [hq])) fun q hq => paths q (by simp [hq])
    rw [compileFields]
    simp only [hd]
    rw [dif_neg fresh]
    refine .bind Compiling.blames_get fun memo _ _ => ?_
    split
    · rw [pure_bind]
      exact Compiling.blames_field (sources p (by simp)) (by simp [hd]) rest
    · refine .bind (target (paths p (by simp) d hd)) fun c _ _ =>
        .bind (Compiling.blames_modify _) fun _ _ _ => ?_
      rw [pure_bind]
      exact Compiling.blames_field (sources p (by simp)) (by simp [hd]) rest

namespace Compiled

theorem Declared.legal {c : Compiled n} (h : Declared catalogue config route method c) :
    (catalogue c.binding.handler).Legal config route method := by
  obtain ⟨placed, _⟩ := h
  obtain ⟨names, _, params⟩ := Placement.exists_ofParams_eq_ok_iff.1 ⟨_, placed⟩
  exact ⟨names, params⟩

theorem Declared.exists_need {c : Compiled n} (h : Declared catalogue config route method c)
    {e : Fin n} (edge : catalogue.DependsOn config c.binding.handler e) :
    ∃ d ∈ c.needs, d.target.binding.handler = e := by
  obtain ⟨placed, made⟩ := h
  obtain ⟨p, hp, x, marked, rfl⟩ := edge
  obtain ⟨params, _⟩ := Placement.mem_of_ofParams_eq_ok placed
  obtain ⟨q, hq, rfl⟩ := List.mem_map.1 (params.symm ▸ hp)
  obtain ⟨f, hf, need?, depends, hfield⟩ := exists_of_forall₂ made.flip hq
  rw [Placement.depends?_eq_some_iff.2 marked] at depends
  obtain ⟨d, rfl, hd⟩ := Option.map_eq_some_iff.1 depends
  refine ⟨d, mem_needs_iff.2 ⟨f, hf, ?_⟩, congrArg Depends.handler hd⟩
  simpa using (Placement.of_field_eq_ok hfield).2.2

/-- Each handler that depends on others is larger than these once they are compiled. -/
theorem Faithful.exists_part_of_transGen {c : Compiled n}
    (h : Faithful catalogue config route method c) {e : Fin n}
    (path : Relation.TransGen (catalogue.DependsOn config) c.binding.handler e) :
    ∃ x, Part c x ∧ x.binding.handler = e ∧ sizeOf x < sizeOf c := by
  induction path with
  | single edge =>
    obtain ⟨d, hd, rfl⟩ := (h c .root).exists_need edge
    exact ⟨d.target, .need .root hd, rfl, sizeOf_target_lt hd⟩
  | tail _ edge ih =>
    obtain ⟨x, part, rfl, lt⟩ := ih
    obtain ⟨d, hd, rfl⟩ := (h x part).exists_need edge
    exact ⟨d.target, part.need hd, rfl, (sizeOf_target_lt hd).trans lt⟩

theorem Faithful.exists_part_of_reaches {c : Compiled n}
    (h : Faithful catalogue config route method c) {e : Fin n}
    (path : catalogue.Reaches config c.binding.handler e) :
    ∃ x, Part c x ∧ x.binding.handler = e := by
  rcases Relation.reflTransGen_iff_eq_or_transGen.1 path with rfl | path
  · exact ⟨c, .root, rfl⟩
  · obtain ⟨x, part, same, _⟩ := h.exists_part_of_transGen path
    exact ⟨x, part, same⟩

end Compiled

/-- All handlers that can be reached are legal on the route, and none of them depends on itself. -/
structure Catalogue.Compilable (catalogue : Catalogue n) (config : Config n) (route : RoutePattern)
    (method : Method) (root : Fin n) : Prop where
  acyclic : ∀ d, catalogue.Reaches config root d →
    ¬Relation.TransGen (catalogue.DependsOn config) d d
  legal : ∀ d, catalogue.Reaches config root d → (catalogue d).Legal config route method

theorem Compiled.Faithful.compilable {c : Compiled n}
    (h : Faithful catalogue config route method c) :
    catalogue.Compilable config route method c.binding.handler where
  acyclic d reached cycle := by
    obtain ⟨x, part, rfl⟩ := h.exists_part_of_reaches reached
    obtain ⟨y, part', same, lt⟩ := (h.part part).exists_part_of_transGen cycle
    rw [h.coherent _ _ (part.trans part') part same] at lt
    exact lt.false
  legal d reached := by
    obtain ⟨x, part, rfl⟩ := h.exists_part_of_reaches reached
    exact (h x part).legal

namespace Catalogue

theorem transGen_of_isChain {d e : Fin n} {ds : List (Fin n)}
    (chain : (d :: ds).IsChain (catalogue.DependsOn config)) (last : ds.getLast? = some e) :
    Relation.TransGen (catalogue.DependsOn config) d e := by
  obtain _ | ⟨f, fs⟩ := ds
  · cases last
  · obtain ⟨edge, chain⟩ := List.isChain_cons_cons.1 chain
    refine .head' edge (List.relationReflTransGen_of_exists_isChain_cons fs chain ?_)
    rw [List.getLast?_eq_some_getLast (by simp)] at last
    exact Option.some.inj last

/-- There is no objection to what can be compiled. -/
theorem Objects.not_compilable {e : DeclarationError n}
    (h : catalogue.Objects config route method root e) :
    ¬catalogue.Compilable config route method root := by
  rintro ⟨acyclic, legal⟩
  cases h with
  | cycle reached chain closed => exact acyclic _ reached (transGen_of_isChain chain closed)
  | @illegal d _ reached refused =>
    have ⟨names, params⟩ := legal d reached
    obtain ⟨placements, placed⟩ := Placement.exists_ofParams_eq_ok_iff.2
      ⟨names, fun _ _ => List.not_mem_nil, params⟩
    rw [refused] at placed
    cases placed

end Catalogue

/-- Every error of the compiler is an objection to what was asked for. -/
theorem Compiler.objects_of_compile {compiler : Compiler n} {id : Fin n} {pattern : String}
    {e : DeclarationError n} (parsed : RoutePattern.parse pattern = .ok route)
    (h : (compiler.compile catalogue id method pattern).1 = .error e) :
    catalogue.Objects compiler.config route method id e := by
  unfold compile at h
  rw [parsed] at h
  exact blames_compile.1 [] id (by simp) ⟨rfl, .singleton id⟩ ∅ e h

/-- A handler is compiled exactly if the route is well-formed and every handler that can be reached
is legal and in no cycle. -/
theorem Compiler.exists_compile_eq_ok_iff {compiler : Compiler n} {id : Fin n} {pattern : String} :
    (∃ c, (compiler.compile catalogue id method pattern).1 = .ok c) ↔
      ∃ route, RoutePattern.parse pattern = .ok route ∧
        catalogue.Compilable compiler.config route method id := by
  constructor
  · rintro ⟨c, hc⟩
    obtain ⟨route, parsed, rfl, faithful⟩ := faithful_of_compile hc
    exact ⟨route, parsed, faithful.compilable⟩
  · rintro ⟨route, parsed, compilable⟩
    cases h : (compiler.compile catalogue id method pattern).1 with
    | ok c => exact ⟨c, rfl⟩
    | error e => exact absurd compilable (objects_of_compile parsed h).not_compilable

end

end RequestBinding
