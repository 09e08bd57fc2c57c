import RequestBinding.Proofs.Compiled.Reuse

/-!
What a history of registrations leaves.  Main statement: a table has each handler as its first
registration that compiled has it, and a registration that failed might as well not have been tried.
-/
namespace RequestBinding
variable {n : Nat}

namespace Dictionary
variable {κ α : Type} [DecidableEq κ]

theorem isSome_find?_iff {key : κ} {es : List (κ × α)} :
    (find? key es).isSome ↔ key ∈ es.map Prod.fst := by
  induction es with
  | nil => simp [find?]
  | cons e es ih =>
    by_cases same : e.1 = key
    · simp [find?, same]
    · simp [find?, same, Ne.symm same, ih]

theorem mem_keys_iff {d : Dictionary κ α} {key : κ} : key ∈ d.keys ↔ (d.get? key).isSome :=
  isSome_find?_iff.symm

end Dictionary

namespace RouteTable
variable {t : RouteTable n} {id : Fin n}

theorem mem_ids_iff : id ∈ t.ids ↔ (t.get? id).isSome :=
  List.mem_mergeSort.trans Dictionary.mem_keys_iff

theorem nodup_ids (t : RouteTable n) : t.ids.Nodup :=
  (List.mergeSort_perm t.routes.keys _).nodup_iff.2 t.routes.nodup

theorem length_ids (t : RouteTable n) : t.ids.length = t.size := by
  rw [ids, List.length_mergeSort, Dictionary.keys, List.length_map]
  rfl

end RouteTable

namespace Registry

/-- Registries that a client cannot tell apart.  What their compilers have finished may differ. -/
structure Alike (g g' : Registry n) : Prop where
  config : g.compiler.config = g'.compiler.config
  table : g.table = g'.table

section
variable {catalogue : Catalogue n} {g g' : Registry n} {e : Endpoint n}

theorem contains_routes (id : Fin n) : g.table.routes.contains id = (g.table.get? id).isSome :=
  rfl

theorem fst_register (catalogue : Catalogue n) (g : Registry n) (e : Endpoint n) :
    (g.register catalogue e.method e.pattern e.handler).1 =
      if (g.table.get? e.handler).isSome then .error (.duplicateRoute e.handler)
      else (e.compiled catalogue g.compiler.config).map fun _ => () := by
  have compiled := g.compiler.fst_compile catalogue e
  unfold register
  rw [contains_routes]
  split
  · rfl
  · rw [← compiled]
    split <;> next eq => simp [eq, Except.map]

theorem table_register (catalogue : Catalogue n) (g : Registry n) (e : Endpoint n) :
    (g.register catalogue e.method e.pattern e.handler).2.table =
      if (g.table.get? e.handler).isSome then g.table
      else match e.compiled catalogue g.compiler.config with
        | .ok c => { g.table with routes := g.table.routes.insert e.handler c }
        | .error _ => g.table := by
  have compiled := g.compiler.fst_compile catalogue e
  unfold register
  rw [contains_routes]
  split
  · rfl
  · rw [← compiled]
    split <;> next eq => simp [eq]

@[simp] theorem serializer_register :
    (g.register catalogue e.method e.pattern e.handler).2.table.serializer =
      g.table.serializer := by
  rw [table_register]
  split
  · rfl
  · split <;> rfl

theorem table_register_of_error {error : DeclarationError n}
    (failed : (g.register catalogue e.method e.pattern e.handler).1 = .error error) :
    (g.register catalogue e.method e.pattern e.handler).2.table = g.table := by
  rw [fst_register] at failed
  rw [table_register]
  split
  · rfl
  · next new =>
    rw [if_neg new] at failed
    cases made : e.compiled catalogue g.compiler.config with
    | error _ => rfl
    | ok c =>
      rw [made] at failed
      cases failed

/-- A registration that failed cannot be told from none. -/
theorem alike_register_of_error {error : DeclarationError n}
    (failed : (g.register catalogue e.method e.pattern e.handler).1 = .error error) :
    (g.register catalogue e.method e.pattern e.handler).2.Alike g :=
  ⟨config_register e.method e.pattern e.handler, table_register_of_error failed⟩

theorem Alike.fst_register_eq (same : g.Alike g') (e : Endpoint n) :
    (g.register catalogue e.method e.pattern e.handler).1 =
      (g'.register catalogue e.method e.pattern e.handler).1 := by
  rw [fst_register, fst_register, same.config, same.table]

theorem Alike.register (same : g.Alike g') (e : Endpoint n) :
    (g.register catalogue e.method e.pattern e.handler).2.Alike
      (g'.register catalogue e.method e.pattern e.handler).2 where
  config := by rw [config_register, config_register, same.config]
  table := by rw [table_register, table_register, same.config, same.table]

def told (catalogue : Catalogue n) (g : Registry n) :
    List (Endpoint n) → List (Except (DeclarationError n) Unit)
  | [] => []
  | e :: es =>
    let (result, g) := g.register catalogue e.method e.pattern e.handler
    result :: g.told catalogue es

theorem Alike.told_eq (same : g.Alike g') (es : List (Endpoint n)) :
    g.told catalogue es = g'.told catalogue es := by
  induction es generalizing g g' with
  | nil => rfl
  | cons e es ih =>
    simp only [told]
    rw [same.fst_register_eq e, ih (same.register e)]

theorem Alike.after (same : g.Alike g') (es : List (Endpoint n)) :
    (g.after catalogue es).Alike (g'.after catalogue es) := by
  induction es generalizing g g' with
  | nil => exact same
  | cons e es ih => exact ih (same.register e)

@[simp] theorem config_after (es : List (Endpoint n)) :
    (g.after catalogue es).compiler.config = g.compiler.config := by
  induction es generalizing g with
  | nil => rfl
  | cons e es ih => exact ih.trans (config_register e.method e.pattern e.handler)

@[simp] theorem serializer_after (es : List (Endpoint n)) :
    (g.after catalogue es).table.serializer = g.table.serializer := by
  induction es generalizing g with
  | nil => rfl
  | cons e es ih => exact ih.trans serializer_register

end

/-- The endpoint is compiled, and none before it of the same handler is. -/
structure First (catalogue : Catalogue n) (config : Config n) (es : List (Endpoint n))
    (e : Endpoint n) (c : Compiled n) : Prop where
  compiled : e.compiled catalogue config = .ok c
  split : ∃ before rest, es = before ++ e :: rest ∧
    ∀ x ∈ before, x.handler = e.handler → ∀ c, x.compiled catalogue config ≠ .ok c

/-- What a registry with an empty table comes to when endpoints are registered. -/
structure WriteOnce (catalogue : Catalogue n) (config : Config n) (serializer : Serializer)
    (es : List (Endpoint n)) (g : Registry n) : Prop where
  /-- The table has the handlers that some endpoint compiled for. -/
  mem_ids : ∀ id, id ∈ g.table.ids ↔
    ∃ e ∈ es, e.handler = id ∧ ∃ c, e.compiled catalogue config = .ok c
  nodup : g.table.ids.Nodup
  size : g.table.size = g.table.ids.length
  /-- A handler is there as its first endpoint that compiled has it. -/
  get?_eq_some_iff : ∀ id c, g.table.get? id = some c ↔
    ∃ e, e.handler = id ∧ First catalogue config es e c
  metadata : ∀ e c, First catalogue config es e c →
    c.binding.handler = e.handler ∧ c.binding.method = e.method ∧ c.binding.route.text = e.pattern
  /-- What is told of the next endpoint. -/
  next : ∀ e : Endpoint n, (g.register catalogue e.method e.pattern e.handler).1 =
    if (g.table.get? e.handler).isSome then .error (.duplicateRoute e.handler)
    else (e.compiled catalogue config).map fun _ => ()
  /-- If the next endpoint fails, then the table stays, and all that follows is as without it. -/
  atomic : ∀ (e : Endpoint n) (error : DeclarationError n) (left : Registry n),
    g.register catalogue e.method e.pattern e.handler = (.error error, left) →
      left.table = g.table ∧ ∀ later, left.told catalogue later = g.told catalogue later ∧
        (left.after catalogue later).table = (g.after catalogue later).table
  /-- Other handlers are not served. -/
  unserved : ∀ id r, id ∉ g.table.ids → g.table.dispatch catalogue id r = none
  /-- A handler is served as its first endpoint that compiled. -/
  served : ∀ e c r, First catalogue config es e c →
    g.table.dispatch catalogue e.handler r = some (c.dispatch catalogue serializer r)

section
variable {catalogue : Catalogue n} {config : Config n} {es : List (Endpoint n)} {id : Fin n}
  {c : Compiled n}

theorem toOption_eq_none_iff {e : Endpoint n} :
    (e.compiled catalogue config).toOption = none ↔
      ∀ c, e.compiled catalogue config ≠ .ok c := by
  cases e.compiled catalogue config <;> simp [Except.toOption]

theorem findSome?_eq_some_iff :
    ((es.filter (·.handler = id)).findSome? fun e =>
      (e.compiled catalogue config).toOption) = some c ↔
        ∃ e, e.handler = id ∧ First catalogue config es e c := by
  rw [List.findSome?_eq_some_iff]
  constructor
  · rintro ⟨before', e, rest', split', made, failed⟩
    obtain ⟨before, tail, rfl, rfl, split⟩ := List.filter_eq_append_iff.1 split'
    obtain ⟨others, rest, rfl, other, handler, -⟩ := List.filter_eq_cons_iff.1 split
    have same : e.handler = id := by simpa using handler
    refine ⟨e, same, eq_ok_of_toOption made, before ++ others, rest, by simp, fun x hx hid => ?_⟩
    rcases List.mem_append.1 hx with hx | hx
    · exact toOption_eq_none_iff.1 (failed x (List.mem_filter.2 ⟨hx, by simp [hid, same]⟩))
    · exact absurd (hid.trans same) (by simpa using other x hx)
  · rintro ⟨e, rfl, made, before, rest, rfl, failed⟩
    refine ⟨before.filter (·.handler = e.handler), e, rest.filter (·.handler = e.handler),
      by simp, congrArg _ made, fun x hx => ?_⟩
    obtain ⟨mem, handler⟩ := List.mem_filter.1 hx
    exact toOption_eq_none_iff.2 (failed x mem (by simpa using handler))

theorem isSome_findSome?_iff :
    ((es.filter (·.handler = id)).findSome? fun e =>
      (e.compiled catalogue config).toOption).isSome ↔
        ∃ e ∈ es, e.handler = id ∧ ∃ c, e.compiled catalogue config = .ok c := by
  rw [List.findSome?_isSome_iff]
  constructor
  · rintro ⟨e, he, made⟩
    obtain ⟨mem, handler⟩ := List.mem_filter.1 he
    obtain ⟨c, hc⟩ := Option.isSome_iff_exists.1 made
    exact ⟨e, mem, by simpa using handler, c, eq_ok_of_toOption hc⟩
  · rintro ⟨e, mem, handler, c, made⟩
    refine ⟨e, List.mem_filter.2 ⟨mem, by simpa using handler⟩, ?_⟩
    simp [made, Except.toOption]

/-- A table is written once for each handler, and a registration that fails changes nothing. -/
theorem writeOnce_after (catalogue : Catalogue n) (config : Config n) (serializer : Serializer)
    (es : List (Endpoint n)) :
    WriteOnce catalogue config serializer es
      (({ compiler := { config }, table := { serializer } } : Registry n).after catalogue es) := by
  generalize eq : ({ compiler := { config }, table := { serializer } } : Registry n) = start
  have same : start.compiler.config = config := by rw [← eq]
  have answers : start.table.serializer = serializer := by rw [← eq]
  have table (id : Fin n) : (start.after catalogue es).table.get? id =
      (es.filter (·.handler = id)).findSome? fun e => (e.compiled catalogue config).toOption := by
    rw [get?_after, ← eq]
    rfl
  have first {e : Endpoint n} {c : Compiled n} (h : First catalogue config es e c) :=
    (table e.handler).trans (findSome?_eq_some_iff.2 ⟨e, rfl, h⟩)
  refine {
    mem_ids := fun id => by rw [RouteTable.mem_ids_iff, table, isSome_findSome?_iff]
    nodup := RouteTable.nodup_ids _
    size := (RouteTable.length_ids _).symm
    get?_eq_some_iff := fun id c => by rw [table, findSome?_eq_some_iff]
    metadata := fun e c h => ?_
    next := fun e => by rw [fst_register, config_after, same]
    atomic := fun e error left failed => ?_
    unserved := fun id r absent => ?_
    served := fun e c r h => ?_ }
  · obtain ⟨route, parsed, handler, faithful⟩ := faithful_of_compile h.compiled
    refine ⟨handler, (faithful c .root).method_eq, ?_⟩
    rw [(faithful c .root).route_eq, RoutePattern.text_of_parse parsed]
  · have alike := alike_register_of_error (congrArg Prod.fst failed)
    rw [failed] at alike
    exact ⟨alike.table, fun later => ⟨alike.told_eq later, (alike.after later).table⟩⟩
  · have none := mt RouteTable.mem_ids_iff.2 absent
    rw [Option.not_isSome_iff_eq_none] at none
    rw [RouteTable.dispatch, none]
    rfl
  · rw [RouteTable.dispatch, first h, serializer_after, answers]
    rfl

end

theorem compile_loopPage : Endpoint.compiled ⟨3, .get, "/"⟩ itemPages {} =
    .error (.circularDependency ["loop", "loop"]) := by
  rw [Endpoint.compiled, fst_compile_root, compileHandler_eq (by simp)
    ((itemPages 3).params.map fun p => ⟨p, .dependency, p.name⟩) rfl]
  simp only [itemPages, List.map, compileFields, Placement.depends?, compileHandler_queriedItem]
  rfl

theorem compile_unclosedPage : Endpoint.compiled ⟨1, .get, "/items/\x7bitem"⟩ itemPages {} =
    .error (.invalidRoute "/items/\x7bitem" .unclosed) := by
  have unclosed : RoutePattern.parse "/items/\x7bitem" = .error .unclosed := by cbv
  simp only [Endpoint.compiled, Compiler.compile, unclosed]

theorem writeOnce_after_itemPages :
    let shown : Compiled 4 := compiledPage 1 "show" .get itemRoute (.path ⟨"item", .any, none⟩)
    let es : List (Endpoint 4) := [⟨3, .get, "/"⟩, ⟨1, .get, "/items/\x7bitem"⟩,
      ⟨1, .get, "/items/\x7bitem\x7d"⟩, ⟨1, .delete, "/"⟩]
    let g := ({ compiler := { config := {} }, table := {} } : Registry 4).after itemPages es
    First itemPages {} es ⟨1, .get, "/items/\x7bitem\x7d"⟩ shown ∧
      g.table.get? 1 = some shown ∧
      (∀ r, g.table.dispatch itemPages 1 r = some (shown.dispatch itemPages .json r)) ∧
      (∀ r, g.table.dispatch itemPages 3 r = none) ∧
      (g.register itemPages .get "/" 3).1 = .error (.circularDependency ["loop", "loop"]) ∧
      (g.register itemPages .get "/" 3).2.table = g.table ∧
      (g.register itemPages .delete "/" 1).1 = .error (.duplicateRoute 1) ∧
      (g.register itemPages .delete "/" 1).2.table = g.table := by
  intro shown es g
  have once := writeOnce_after itemPages {} .json es
  have made : Endpoint.compiled ⟨1, .get, "/items/\x7bitem\x7d"⟩ itemPages {} = .ok shown :=
    compile_showPage
  have first : First itemPages {} es ⟨1, .get, "/items/\x7bitem\x7d"⟩ shown := by
    refine ⟨made, [⟨3, .get, "/"⟩, ⟨1, .get, "/items/\x7bitem"⟩], [⟨1, .delete, "/"⟩], rfl, ?_⟩
    intro x hx handler c
    obtain rfl | rfl := List.mem_pair.1 hx
    · cases handler
    · rw [compile_unclosedPage]
      nofun
  have known : (1 : Fin 4) ∈ g.table.ids := (once.mem_ids 1).2 ⟨_, by simp [es], rfl, shown, made⟩
  have unknown : (3 : Fin 4) ∉ g.table.ids := by
    intro there
    obtain ⟨e, he, handler, c, loop⟩ := (once.mem_ids 3).1 there
    obtain rfl : e = ⟨3, .get, "/"⟩ := by
      simp only [es, List.mem_cons, List.not_mem_nil, or_false] at he
      rcases he with rfl | rfl | rfl | rfl
      · rfl
      all_goals cases handler
    rw [compile_loopPage] at loop
    cases loop
  have cycle : (g.register itemPages .get "/" 3).1 =
      .error (.circularDependency ["loop", "loop"]) := by
    rw [once.next ⟨3, .get, "/"⟩, if_neg (mt RouteTable.mem_ids_iff.2 unknown), compile_loopPage]
    rfl
  have again : (g.register itemPages .delete "/" 1).1 = .error (.duplicateRoute 1) :=
    (once.next ⟨1, .delete, "/"⟩).trans (if_pos (RouteTable.mem_ids_iff.1 known))
  exact ⟨first, (once.get?_eq_some_iff 1 shown).2 ⟨_, rfl, first⟩,
    fun r => once.served _ shown r first, fun r => once.unserved 3 r unknown,
    cycle, (once.atomic ⟨3, .get, "/"⟩ _ _ (Prod.ext cycle rfl)).1,
    again, (once.atomic ⟨1, .delete, "/"⟩ _ _ (Prod.ext again rfl)).1⟩

end Registry

end RequestBinding
