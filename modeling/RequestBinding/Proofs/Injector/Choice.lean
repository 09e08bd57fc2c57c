import RequestBinding.Proofs.Compiled.Reuse
import RequestBinding.Proofs.Feed
import RequestBinding.Proofs.Source.Shape

/-!
The choice of an injector.  The class of a handler decides how its arguments are made, and what makes
them in one go is for fields of one form only.  Main statement: the fields of compiled handlers are
put together from parts that fit, they have the form that the chosen injector is made for, and a plan
has a step for each of them.
-/
namespace RequestBinding

universe u v

theorem isSome_mapM_iff {α : Type u} {β : Type v} {f : α → Option β} {as : List α} :
    (as.mapM f).isSome = true ↔ ∀ a ∈ as, (f a).isSome = true := by
  induction as with
  | nil => simp
  | cons a as ih =>
    rw [List.forall_mem_cons, ← ih, List.mapM_cons]
    cases f a with
    | none => simp
    | some b => cases as.mapM f <;> simp

namespace DirectInjector
variable {n : Nat} {δ : Type u} {fields : List (Field δ)}

theorem isSome_requestOnly?_iff :
    (requestOnly? (n := n) fields).isSome = true ↔ ∃ f, fields = [f] := by
  unfold requestOnly?
  split <;> simp_all

theorem isSome_ofField?_iff {f : Field δ} :
    (Entry.ofField? f).isSome = true ↔ f.source = .path ∨ f.source = .query := by
  unfold Entry.ofField? Field.source
  cases f.feed with
  | extract e => cases e <;> simp [Feed.source, Extractor.source]
  | _ => simp [Feed.source]

theorem isSome_singleView?_iff {source : Source} (looked : source = .path ∨ source = .query) :
    (singleView? (n := n) source fields).isSome = true ↔ ∀ f ∈ fields, f.source = source := by
  have entered : (singleView? (n := n) source fields).isSome = true ↔
      (fields.mapM fun f => if f.source = source then Entry.ofField? f else none).isSome = true := by
    simp [singleView?, Option.isSome_bind]
  rw [entered, isSome_mapM_iff]
  refine forall₂_congr fun f _ => ?_
  split
  · next same => simpa [same, isSome_ofField?_iff] using looked
  · next other => simp [other]

theorem isSome_pathAndQuery?_iff : (pathAndQuery? (n := n) fields).isSome = true ↔
    ∀ f ∈ fields, f.source = .path ∨ f.source = .query := by
  have entered : (pathAndQuery? (n := n) fields).isSome = true ↔
      (fields.mapM Entry.ofField?).isSome = true := by
    simp [pathAndQuery?, Option.isSome_bind]
  rw [entered, isSome_mapM_iff]
  exact forall₂_congr fun f _ => isSome_ofField?_iff

theorem isSome_bodyOnly?_iff :
    (bodyOnly? (n := n) fields).isSome = true ↔ ∃ f, fields = [f] ∧ f.source = .body := by
  match fields with
  | [] => simp [bodyOnly?]
  | [f] =>
    have own : (bodyOnly? (n := n) [f]).isSome = true ↔ f.source = .body := by
      cases hf : f.feed with
      | extract e => cases e <;> simp [bodyOnly?, Field.source, hf, Feed.source, Extractor.source]
      | _ => simp [bodyOnly?, Field.source, hf, Feed.source]
    simp [own]
  | _ :: _ :: _ => simp [bodyOnly?]

end DirectInjector

namespace Injector
variable {n : Nat} {b : Binding n (Link n)}

theorem isSome_direct?_iff :
    (direct? b).isSome = true ↔ b.shape ≠ .withDeps ∧ b.shape ≠ .full := by
  -- each class admits just the sources that its injector asks the fields for
  have admits := Binding.shape_eq_iff.1 (rfl : b.shape = b.shape)
  unfold direct?
  split
  · next shape => simp [shape]
  · next shape =>
    rw [shape] at admits
    obtain ⟨f, fields, _⟩ := List.map_eq_singleton_iff.1 admits
    simp [shape, DirectInjector.isSome_requestOnly?_iff, fields]
  · next shape =>
    rw [shape] at admits
    simpa [shape, DirectInjector.isSome_singleView?_iff] using admits.2
  · next shape =>
    rw [shape] at admits
    simpa [shape, DirectInjector.isSome_singleView?_iff] using admits.2
  · next shape =>
    rw [shape] at admits
    simpa [shape, DirectInjector.isSome_bodyOnly?_iff] using List.map_eq_singleton_iff.1 admits
  · next shape =>
    rw [shape] at admits
    simpa [shape, DirectInjector.isSome_pathAndQuery?_iff] using admits.2.2
  · next shape => simp [shape]
  · next shape => simp [shape]

theorem ofBinding_of_withDeps (h : b.shape = .withDeps) :
    ofBinding b = .plan (.ofBinding b b.concurrent) := if_pos h

theorem ofBinding_of_full (h : b.shape = .full) : ofBinding b = full b := by
  simp [ofBinding, direct?, h]

/-- The injector in one go is chosen where there is one for the class. -/
theorem exists_direct?_eq_some (independent : b.shape ≠ .withDeps) (special : b.shape ≠ .full) :
    ∃ run, direct? b = some run ∧ ofBinding b = .direct run := by
  obtain ⟨run, applies⟩ := Option.isSome_iff_exists.1 (isSome_direct?_iff.2 ⟨independent, special⟩)
  exact ⟨run, applies, by simp [ofBinding, independent, applies]⟩

end Injector

section
variable {n : Nat}

/-- The step of a field from the parts that it has, if there is anything to take the argument from. -/
def Step.ofParts? (f : Field (Link n)) : Option (Step n) :=
  f.feed.parts.action?.map fun feed => ⟨f.name, f.pass, feed⟩

theorem Step.ofParts?_eq (f : Field (Link n)) : ofParts? f = some (ofField f) := by
  rw [ofParts?, Feed.action?_parts]
  rfl

theorem Plan.steps_eq_filterMap (b : Binding n (Link n)) (concurrent : Bool) :
    (ofBinding b concurrent).steps = b.fields.filterMap Step.ofParts? := by
  rw [funext Step.ofParts?_eq, List.filterMap_eq_map']
  rfl

structure Step.Serves (catalogue : Catalogue n) (s : Step n) (f : Field (Need (Compiled n))) :
    Prop where
  name : s.name = f.name
  pass : s.pass = f.pass
  feed : s.feed = linkFeed catalogue f.feed

theorem Compiled.serves_steps (c : Compiled n) (catalogue : Catalogue n) (concurrent : Bool) :
    List.Forall₂ (Step.Serves catalogue) (Plan.ofBinding (c.link catalogue) concurrent).steps
      c.binding.fields := by
  rw [steps_ofBinding, List.map_map, List.forall₂_map_left_iff, List.forall₂_same]
  intro f _
  exact ⟨name_linkField catalogue f, pass_linkField catalogue f, feed_linkField catalogue f⟩

end

namespace Placement
variable {n : Nat} {δ : Type}

/-- The parts that are at hand for a placed parameter, with its compiled dependency.  An extractor is
made only if there is no dependency. -/
def parts (q : Placement n) (config : Config n) (embed : Bool) (dependency? : Option δ) :
    Feed.Parts δ where
  source := q.source
  extractor? := match dependency? with
    | some _ => none
    | none => Extractor.ofSource? config q.source q.target embed
  dependency?

variable {config : Config n} {handler : String} {embed : Bool} {q : Placement n}

theorem build_of_field_eq_ok {dependency? : Option δ} {f : Field δ}
    (h : q.field config handler embed dependency? = .ok f) :
    (q.parts config embed dependency?).build = .ok f.feed := by
  unfold field at h
  simp only at h
  split at h
  · next feed built =>
    cases h
    exact built
  · cases h

/-- Whatever the dependency is compiled to, there is never a part too many or too few. -/
theorem fit_parts {route : RoutePattern} {method : Method}
    (source : q.source = q.param.source config route method) {dependency? : Option δ}
    (asked : dependency?.isSome = q.depends?.isSome) : (q.parts config embed dependency?).Fit := by
  obtain ⟨f, made⟩ := exists_field_eq_ok source "" embed asked
  exact Feed.Parts.exists_build_eq_ok_iff.1 ⟨_, build_of_field_eq_ok made⟩

/-- The field was built from the parts that were at hand for the parameter, and they fit. -/
def Supplies (config : Config n) (handler : String) (embed : Bool) (q : Placement n)
    (f : Field (Need (Compiled n))) : Prop :=
  ∃ need?, need?.map Need.depends = q.depends?.map config.replace ∧
    q.field config handler embed need? = .ok f ∧ (q.parts config embed need?).Fit ∧
      (q.parts config embed need?).build = .ok f.feed ∧ q.parts config embed need? = f.feed.parts

theorem Makes.supplies {f : Field (Need (Compiled n))} (h : q.Makes config handler embed f) :
    q.Supplies config handler embed f := by
  obtain ⟨need?, depends, made⟩ := h
  have built := build_of_field_eq_ok made
  exact ⟨need?, depends, made, Feed.Parts.exists_build_eq_ok_iff.1 ⟨_, built⟩, built,
    Feed.Parts.build_eq_ok_iff.1 built⟩

end Placement

section
variable {n : Nat} {catalogue : Catalogue n} {route : RoutePattern} {method : Method}

theorem Placement.not_isMisfit_of_legalKey {p : Param n} {source : Source} {problem : ParamProblem}
    (h : legalKey route p source = .error problem) : ¬problem.IsMisfit := by
  rcases bind_eq_error_iff.1 h with h | ⟨key, _, h⟩
  · unfold keyIn at h
    split at h
    · split at h
      · cases h
      · cases h
        exact id
    · cases h
  · rcases bind_eq_error_iff.1 h with h | ⟨_, _, h⟩
    · unfold checkUpload at h
      split at h
      · split at h
        · cases h
        · cases h
          exact id
      · cases h
      · cases h
      · split at h
        · cases h
          exact id
        · cases h
    · rcases bind_eq_error_iff.1 h with h | ⟨_, _, h⟩
      · obtain ⟨_, _, rfl⟩ := mapError_eq_error_iff.1 h
        exact id
      · cases h

theorem Compiler.not_isMisfit_of_compile {compiler : Compiler n} {id : Fin n}
    {pattern handler param : String} {problem : ParamProblem}
    (h : (compiler.compile catalogue id method pattern).1 =
      .error (.invalidParameter handler param problem)) : ¬problem.IsMisfit := by
  cases parsed : RoutePattern.parse pattern with
  | error problem =>
    unfold compile at h
    rw [parsed] at h
    cases h
  | ok route =>
    cases objects_of_compile parsed h with
    | illegal _ refused =>
      cases Placement.refusal_of_ofParams_eq_error refused with
      | key refused => exact Placement.not_isMisfit_of_legalKey refused

/-- Whatever is wrong with a declaration, fields are never built from parts that they cannot be built
from. -/
theorem Compiler.compile_ne_of_build {compiler : Compiler n} {id : Fin n} {δ : Type}
    {parts : Feed.Parts δ} {problem : ParamProblem} (failed : parts.build = .error problem)
    (pattern handler param : String) : (compiler.compile catalogue id method pattern).1 ≠
      .error (.invalidParameter handler param problem) :=
  fun h => not_isMisfit_of_compile h (Feed.Parts.isMisfit_of_build_eq_error failed)

end

namespace Compiled
variable {n : Nat}

/-- What the handler was put together from fits, and so does its injector. -/
structure Fitted (catalogue : Catalogue n) (config : Config n) (route : RoutePattern)
    (method : Method) (c : Compiled n) : Prop where
  /-- No parameter could have had other parts at hand than its source needs, and the fields were built
  from these, in the order of declaration. -/
  built : ∃ placements,
    Placement.ofParams config route method (catalogue c.binding.handler).name []
        (catalogue c.binding.handler).params = .ok placements ∧
      placements.map Placement.param = (catalogue c.binding.handler).params ∧
      (∀ q ∈ placements, ∀ need? : Option (Need (Compiled n)), need?.isSome = q.depends?.isSome →
        (q.parts config (Placement.embedsBody placements) need?).Fit) ∧
      List.Forall₂ (Placement.Supplies config (catalogue c.binding.handler).name
        (Placement.embedsBody placements)) placements c.binding.fields
  /-- The fields have the form of their class. -/
  admitted : c.binding.shape.Admits (c.binding.fields.map Field.source)
  /-- Where there is an injector in one go for the class, it applies. -/
  direct : c.binding.shape ≠ .withDeps → c.binding.shape ≠ .full →
    ∃ run, Injector.direct? (c.link catalogue) = some run ∧ c.injector catalogue = .direct run
  withDeps : c.binding.shape = .withDeps →
    c.injector catalogue = .plan (.ofBinding (c.link catalogue) c.binding.concurrent)
  full : c.binding.shape = .full → c.injector catalogue = .plan (.ofBinding (c.link catalogue) false)
  /-- A plan has a step for each field in the order of declaration, and leaves none out. -/
  steps (concurrent : Bool) :
    (Plan.ofBinding (c.link catalogue) concurrent).steps =
        (c.link catalogue).fields.filterMap Step.ofParts? ∧
      List.Forall₂ (Step.Serves catalogue) (Plan.ofBinding (c.link catalogue) concurrent).steps
        c.binding.fields

variable {catalogue : Catalogue n} {config : Config n} {route : RoutePattern} {method : Method}

theorem Declared.fitted {c : Compiled n} (h : Declared catalogue config route method c) :
    c.Fitted catalogue config route method where
  built := by
    obtain ⟨placed, made⟩ := h
    obtain ⟨params, sources⟩ := Placement.mem_of_ofParams_eq_ok placed
    exact ⟨_, placed, params, fun q hq _ => Placement.fit_parts (sources q hq),
      made.imp fun _ _ => Placement.Makes.supplies⟩
  admitted := Binding.shape_eq_iff.1 rfl
  direct independent special :=
    Injector.exists_direct?_eq_some (by simpa using independent) (by simpa using special)
  withDeps shape := by
    have chosen : (c.link catalogue).shape = .withDeps := by simpa using shape
    rw [injector, Injector.ofBinding_of_withDeps chosen, concurrent_link]
  full shape := Injector.ofBinding_of_full (by simpa using shape)
  steps concurrent := ⟨Plan.steps_eq_filterMap _ _, c.serves_steps catalogue concurrent⟩

/-- Every part of a compiled handler was put together from parts that fit, its fields have the form
that the injector of its class is made for, and a plan has a step for each of them. -/
theorem fitted_of_compile {compiler : Compiler n} {id : Fin n} {pattern : String} {c : Compiled n}
    (h : (compiler.compile catalogue id method pattern).1 = .ok c) :
    ∃ route, RoutePattern.parse pattern = .ok route ∧
      ∀ x, c.Part x → x.Fitted catalogue compiler.config route method := by
  obtain ⟨route, parsed, _, faithful⟩ := faithful_of_compile h
  exact ⟨route, parsed, fun x hx => (faithful x hx).fitted⟩

theorem fitted_of_compile_show :
    let c : Compiled 4 := compiledPage 1 "show" .get itemRoute (.path ⟨"item", .any, none⟩)
    (({ config := {} } : Compiler 4).compile itemPages 1 .get "/items/\x7bitem\x7d").1 = .ok c ∧
      ∃ route, RoutePattern.parse "/items/\x7bitem\x7d" = .ok route ∧
        ∀ x, c.Part x → x.Fitted itemPages {} route .get :=
  ⟨compile_showPage, fitted_of_compile compile_showPage⟩

end Compiled

end RequestBinding
