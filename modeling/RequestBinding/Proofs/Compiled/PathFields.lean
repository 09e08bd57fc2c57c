import RequestBinding.Proofs.Compiled.Targets
import RequestBinding.Proofs.Extractor.Lacking
import RequestBinding.Proofs.Routine.Ends

/-!
Path parameters.  Main statement: on a route that matched, a path parameter is never missing unless
it is a record, for that is looked up by the keys of its members, which need not be in the route.
-/
namespace RequestBinding
variable {n : Nat} {catalogue : Catalogue n} {c x : Compiled n} {r : Request}
  {f : Field (Need (Compiled n))}

theorem Compiled.Declared.route_eq {config : Config n} {route : RoutePattern} {method : Method}
    (h : Declared catalogue config route method c) : c.binding.route = route := by
  cases h
  rfl

/-- A path parameter is bound from the path, under a key of the route. -/
theorem Compiled.Declared.path_target {config : Config n} {route : RoutePattern} {method : Method}
    (h : Declared catalogue config route method c) (hf : f ∈ c.binding.fields)
    (path : f.source = .path) : ∃ t : Target, f.feed = .extract (.path t) ∧ t.key ∈ route.names ∧
      t.schema = f.schema ∧ t.default? = f.default? := by
  cases he : f.feed with
  | request => simp [Field.source, he, Feed.source] at path
  | dependency d => simp [Field.source, he, Feed.source] at path
  | extract e =>
    obtain ⟨key, found, inRoute⟩ := h.extractor hf he
    rw [path] at found
    cases found
    exact ⟨_, rfl, h.route_eq ▸ inRoute path, rfl, rfl⟩

theorem Target.isRequired_eq {t : Target} (schema : t.schema = f.schema)
    (default : t.default? = f.default?) : t.isRequired = f.isRequired := by
  rw [isRequired, Schema.isNone_absentValue?, schema, default]
  rfl

/-- Among scalars a member of a record is missing if its key is. -/
theorem Member.lacksIn_iff_of_scalars {params : Dictionary String Value}
    (scalars : ∀ key v, params.get? key = some v → v.isScalar = true) (m : Member Schema) :
    m.lacksIn params = true ↔ params.get? m.key = none ∧ m.isRequired = true := by
  unfold lacksIn
  cases found : params.get? m.key with
  | some v => simp [m.schema.lacks_wrapped (scalars _ v found)]
  | none => simp

def Field.IsLookedInto (params : Dictionary String Value) (ms : List (Member Schema))
    (f : Field (Need (Compiled n))) : Prop :=
  f.isRequired = true ∨ ∃ m ∈ ms, (params.get? m.key).isSome = true

/-- On a route that matched, a path parameter that is no record is never missing; at most an object
inside its value lacks a member.  A record is missing if one of its members is, and for that it does
not matter that its own key is in the route. -/
theorem Compiled.path_missing_iff {compiler : Compiler n} {id : Fin n} {method : Method}
    {pattern : String} (compiled : (compiler.compile catalogue id method pattern).1 = .ok c)
    (matched : ∀ name ∈ c.binding.route.names, (r.pathParams.get? name).isSome = true)
    (part : c.Part x) (hf : f ∈ x.binding.fields) (path : f.source = .path) :
    ∃ t : Target, f.feed = .extract (.path t) ∧ t.key ∈ c.binding.route.names ∧ ∀ s : Session n,
      let missing := refusedAsMissing ((Extractor.path t).apply r s).1 = true
      (missing ↔ match f.schema.members? with
        | none => ∃ v, r.pathParams.get? t.key = some v ∧ f.schema.lacks (f.schema.wrapped v) = true
        | some ms => f.IsLookedInto r.pathParams ms ∧ ∃ m ∈ ms, m.lacksIn r.pathParams = true) ∧
      ((∀ key v, r.pathParams.get? key = some v → v.isScalar = true) →
        (missing ↔ ∃ ms, f.schema.members? = some ms ∧ f.IsLookedInto r.pathParams ms ∧
          ∃ m ∈ ms, r.pathParams.get? m.key = none ∧ m.isRequired = true)) := by
  obtain ⟨route, _, _, faithful⟩ := faithful_of_compile compiled
  have names := congrArg RoutePattern.names (faithful c .root).route_eq
  obtain ⟨t, feed, inRoute, schema, default⟩ := (faithful x part).path_target hf path
  refine ⟨t, feed, names ▸ inRoute, fun s => ?_⟩
  intro missing
  cases record : f.schema.members? with
  | none =>
    obtain ⟨v, found⟩ := Option.isSome_iff_exists.1 (matched t.key (names ▸ inRoute))
    have own : missing ↔ f.schema.lacks (f.schema.wrapped v) = true := by
      have bound : refusedAsMissing (Extractor.bindTyped .path r.pathParams t) = _ :=
        Extractor.refusedAsMissing_plain (schema ▸ record) .path
      rw [found, schema] at bound
      exact Bool.eq_iff_iff.1 bound
    constructor
    · simp [own, found]
    · intro scalars
      simp [own, f.schema.lacks_wrapped (scalars _ v found)]
  | some ms =>
    have members : missing ↔ f.IsLookedInto r.pathParams ms ∧
        ∃ m ∈ ms, m.lacksIn r.pathParams = true := by
      have bound : refusedAsMissing (Extractor.bindTyped .path r.pathParams t) = _ :=
        Extractor.refusedAsMissing_record (schema ▸ record) .path
      rw [t.isRequired_eq schema default] at bound
      refine (Bool.eq_iff_iff.1 bound).trans ?_
      simp [Field.IsLookedInto]
    refine ⟨members, fun scalars => ?_⟩
    simp [members, Member.lacksIn_iff_of_scalars scalars]

def itemSchema : Schema := .record "Item" [⟨"a", none, .integer {}, none⟩]

def itemReader : Catalogue 1 := fun _ => {
  name := "get_item"
  params := [{ name := "item", schema := itemSchema }]
  work := .async 0 fun _ => .ok (.arg (.value .null)) }

def itemRoute : RoutePattern := ⟨"/items/\x7bitem\x7d", ["item"]⟩

def compiledItemReader : Compiled 1 :=
  .mk ⟨0, "get_item", true, .get, itemRoute, true,
    [{ name := "item", schema := itemSchema, feed := .extract (.path ⟨"item", itemSchema, none⟩) }]⟩

theorem parse_itemRoute : RoutePattern.parse "/items/\x7bitem\x7d" = .ok itemRoute := by
  have rest : RoutePattern.groups ["item"] [] = .ok ["item"] := by
    rw [RoutePattern.groups]
    rfl
  have all : RoutePattern.groups [] "/items/\x7bitem\x7d".toList = RoutePattern.groups ["item"] [] := by
    rw [RoutePattern.groups]
    rfl
  rw [RoutePattern.parse, all, rest]
  rfl

theorem compile_itemReader :
    (({ config := {} } : Compiler 1).compile itemReader 0 .get "/items/\x7bitem\x7d").1 =
      .ok compiledItemReader := by
  rw [fst_compile_eq parse_itemRoute, compileHandler_eq (by simp)
    [⟨{ name := "item", schema := itemSchema }, .path, "item"⟩] rfl]
  simp only [compileFields, Placement.depends?]
  rfl

def fifthItem : Request :=
  ({ method := .get, path := "/items/5" } : Request).withPathParam "item" (.int 5)

theorem matches_fifthItem : ∀ name ∈ compiledItemReader.binding.route.names,
    (fifthItem.pathParams.get? name).isSome = true := by
  decide

theorem scalar_fifthItem {key : String} {v : Value} (h : fifthItem.pathParams.get? key = some v) :
    v.isScalar = true := by
  change (if "item" = key then some (Value.int 5) else none) = some v at h
  split at h
  · cases h
    rfl
  · cases h

theorem Compiled.path_missing_iff_item :
    (({ config := {} } : Compiler 1).compile itemReader 0 .get "/items/\x7bitem\x7d").1 =
        .ok compiledItemReader ∧
      ∃ (f : Field (Need (Compiled 1))) (t : Target), compiledItemReader.binding.fields = [f] ∧
        f.source = .path ∧ f.feed = .extract (.path t) ∧
        t.key ∈ compiledItemReader.binding.route.names ∧
        (refusedAsMissing ((Extractor.path t).apply fifthItem ({} : Session 1)).1 = true ↔
          ∃ ms, f.schema.members? = some ms ∧ f.IsLookedInto fifthItem.pathParams ms ∧
            ∃ m ∈ ms, fifthItem.pathParams.get? m.key = none ∧ m.isRequired = true) := by
  obtain ⟨t, feed, inRoute, missing⟩ := path_missing_iff compile_itemReader matches_fifthItem .root
    (List.mem_singleton.2 rfl) rfl
  exact ⟨compile_itemReader, _, t, rfl, rfl, feed, inRoute,
    (missing {}).2 fun _ _ => scalar_fifthItem⟩

/-- The item is in the route and in the path, but it is missing. -/
theorem Compiled.item_missing :
    (({ config := {} } : Compiler 1).compile itemReader 0 .get "/items/\x7bitem\x7d").1 =
        .ok compiledItemReader ∧
      (∀ name ∈ compiledItemReader.binding.route.names,
        (fifthItem.pathParams.get? name).isSome = true) ∧
      (∃ t : Session 1, Routine.Moves ((compiledItemReader.injector itemReader).inject fifthItem) {}
        (.done (.error (.validation [⟨"path", "a", .missing, none⟩]))) t) ∧
      ¬∀ f ∈ compiledItemReader.binding.fields, f.source = .path → ∀ e, f.feed = .extract e →
        ∀ s : Session 1, refusedAsMissing (e.apply fifthItem s).1 = false := by
  refine ⟨compile_itemReader, matches_fifthItem, ⟨_, Routine.moves_of_along
    (show Routine.along [[]] _ _ = some (_, _) from rfl)⟩, fun bound => ?_⟩
  have missing := bound _ (List.mem_singleton.2 rfl) rfl _ rfl {}
  cases missing

end RequestBinding
