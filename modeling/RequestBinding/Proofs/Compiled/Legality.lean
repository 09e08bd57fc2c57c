import RequestBinding.Proofs.Compiled.Faithful
import Mathlib.Logic.Relation

/-!
Legal declarations.  Main statements: the parameters of a handler can be placed exactly if the
handler is declared legally, and what is placed has a field once its dependency is compiled.
-/
namespace RequestBinding
variable {n : Nat}

theorem bind_eq_ok_iff {ε α β : Type} {x : Except ε α} {f : α → Except ε β} {b : β} :
    (x >>= f) = .ok b ↔ ∃ a, x = .ok a ∧ f a = .ok b := by
  refine ⟨eq_ok_of_bind, ?_⟩
  rintro ⟨a, rfl, h⟩
  exact h

theorem mapError_eq_ok_iff {ε ε' α : Type} {x : Except ε α} {f : ε → ε'} {a : α} :
    x.mapError f = .ok a ↔ x = .ok a := by
  cases x <;> simp [Except.mapError]

theorem bind_eq_error_iff {ε α β : Type} {x : Except ε α} {f : α → Except ε β} {e : ε} :
    (x >>= f) = .error e ↔ x = .error e ∨ ∃ a, x = .ok a ∧ f a = .error e := by
  refine ⟨fun h => ?_, ?_⟩
  · cases x with
    | error e' => exact .inl (Except.error.inj h ▸ rfl)
    | ok a => exact .inr ⟨a, rfl, h⟩
  · rintro (rfl | ⟨a, rfl, h⟩)
    · rfl
    · exact h

theorem mapError_eq_error_iff {ε ε' α : Type} {x : Except ε α} {f : ε → ε'} {e : ε'} :
    x.mapError f = .error e ↔ ∃ e', x = .error e' ∧ f e' = e := by
  cases x <;> simp [Except.mapError]

namespace Schema

mutual

def patterns : Schema → List TextPattern
  | .text limits => limits.pattern.toList
  | .list items => patterns items
  | .optional inner => patterns inner
  | .record _ ms => memberPatterns ms
  | _ => []

def memberPatterns : List (Member Schema) → List TextPattern
  | [] => []
  | ⟨_, _, s, _⟩ :: r => patterns s ++ memberPatterns r

end

/-- The engine does not refuse the pattern. -/
def IsRegular (pattern : TextPattern) : Prop := ∃ finds, pattern.compiled = .ok finds

theorem checkPattern_eq_ok_iff {pattern : TextPattern} :
    checkPattern pattern = .ok () ↔ IsRegular pattern := by
  unfold checkPattern IsRegular
  cases pattern.compiled <;> simp

theorem checkPatterns_eq_ok_iff (s : Schema) :
    s.checkPatterns = .ok () ↔ ∀ p ∈ s.patterns, IsRegular p := by
  have whole : (∀ s : Schema, s.checkPatterns = .ok () ↔ ∀ p ∈ s.patterns, IsRegular p) ∧
      ∀ ms, checkMemberPatterns ms = .ok () ↔ ∀ p ∈ memberPatterns ms, IsRegular p := by
    refine checkPatterns.mutual_induct _ _ ?_ ?_ ?_ ?_ ?_ ?_ ?_ ?_
    case refine_1 =>
      intro limits p hp
      simp [checkPatterns, patterns, hp, checkPattern_eq_ok_iff]
    case refine_2 =>
      intro limits none
      simp [checkPatterns, patterns, none]
    case refine_3 => exact fun items ih => by simpa [checkPatterns, patterns] using ih
    case refine_4 => exact fun inner ih => by simpa [checkPatterns, patterns] using ih
    case refine_5 => exact fun _ ms ih => by simpa [checkPatterns, patterns] using ih
    case refine_6 =>
      intro s text list optional record
      cases s <;> simp_all [checkPatterns, patterns]
    case refine_7 => simp [checkMemberPatterns, memberPatterns]
    case refine_8 =>
      intro _ _ s _ r here rest
      simp only [checkMemberPatterns, memberPatterns, List.mem_append, or_imp, forall_and,
        ← here, ← rest, bind_eq_ok_iff]
      exact ⟨fun ⟨_, hs, hr⟩ => ⟨hs, hr⟩, fun ⟨hs, hr⟩ => ⟨(), hs, hr⟩⟩
  exact whole.1 s

end Schema

def Param.source (config : Config n) (route : RoutePattern) (method : Method) (p : Param n) :
    Source :=
  (p.marker?.map Marker.source).getD
    (Source.ofDeclaration config route.names method p.name p.schema)

structure Param.Legal (config : Config n) (route : RoutePattern) (method : Method) (p : Param n) :
    Prop where
  /-- The body is read only where the method allows one. -/
  body : (p.source config route method).readsBody = true → method.allowsBody = true
  /-- A path parameter is in the route, by its alias or by its name. -/
  path : p.source config route method = .path →
    (∃ a, p.alias? = some a ∧ route.has a = true) ∨ route.has p.name = true
  /-- Files come from files, and nothing else does. -/
  files : p.source config route method ≠ .dependency → p.source config route method ≠ .request →
    (p.source config route method = .file ↔ p.schema.isUpload = true)
  patterns : ∀ t ∈ p.schema.patterns, Schema.IsRegular t

structure Handler.Legal (config : Config n) (route : RoutePattern) (method : Method)
    (h : Handler n) : Prop where
  names : (h.params.map Param.name).Nodup
  params : ∀ p ∈ h.params, p.Legal config route method

section
variable {config : Config n} {route : RoutePattern} {method : Method} {p : Param n}

theorem Source.ofDeclaration_ne_dependency (routeNames : List String) (name : String)
    (schema : Schema) : ofDeclaration config routeNames method name schema ≠ .dependency := by
  unfold ofDeclaration
  repeat' split
  all_goals simp

theorem Param.source_eq_dependency_iff :
    p.source config route method = .dependency ↔ ∃ d, p.marker? = some (.depends d) := by
  unfold source
  cases p.marker? with
  | none => simp [Source.ofDeclaration_ne_dependency]
  | some m => cases m <;> simp [Marker.source]

namespace Placement

theorem exists_keyIn_eq_ok_iff {source : Source} : (∃ key, keyIn route p source = .ok key) ↔
    (source = .path →
      (∃ a, p.alias? = some a ∧ route.has a = true) ∨ route.has p.name = true) := by
  unfold keyIn routeKey? Param.key
  by_cases path : source = .path
  · simp only [path, if_true, true_imp_iff, List.find?]
    cases p.alias? with
    | none => cases named : route.has p.name <;> simp [named]
    | some a =>
      cases keyed : route.has a <;> simp [keyed]
      cases route.has p.name <;> simp
  · simp [path]

theorem checkUpload_eq_ok_iff {schema : Schema} {source : Source} :
    checkUpload schema source = .ok () ↔ (source ≠ .dependency → source ≠ .request →
      (source = .file ↔ schema.isUpload = true)) := by
  cases source <;> cases h : schema.isUpload <;> simp [checkUpload, h]

theorem exists_legalKey_eq_ok_iff {source : Source} :
    (∃ key, legalKey route p source = .ok key) ↔
      (∃ key, keyIn route p source = .ok key) ∧ checkUpload p.schema source = .ok () ∧
        p.schema.checkPatterns = .ok () := by
  unfold legalKey
  simp only [bind_eq_ok_iff, mapError_eq_ok_iff]
  constructor
  · rintro ⟨_, key, hkey, ⟨⟩, hfile, ⟨⟩, hpatterns, _⟩
    exact ⟨⟨key, hkey⟩, hfile, hpatterns⟩
  · rintro ⟨⟨key, hkey⟩, hfile, hpatterns⟩
    exact ⟨key, key, hkey, (), hfile, (), hpatterns, rfl⟩

theorem ofParam_eq_ok {handler : String} {placed : Placement n}
    (h : ofParam config route method handler p = .ok placed) :
    placed.param = p ∧ placed.source = p.source config route method := by
  obtain ⟨source, hs, h⟩ := bind_eq_ok_iff.1 h
  obtain ⟨key, _, h⟩ := bind_eq_ok_iff.1 h
  cases h
  exact ⟨rfl, (Source.infer_eq_ok_iff.1 (mapError_eq_ok_iff.1 hs)).1⟩

theorem exists_ofParam_eq_ok_iff {handler : String} :
    (∃ placed, ofParam config route method handler p = .ok placed) ↔
      p.Legal config route method := by
  unfold ofParam
  simp only [bind_eq_ok_iff, mapError_eq_ok_iff, Source.infer_eq_ok_iff]
  constructor
  · rintro ⟨_, source, ⟨rfl, body⟩, key, hkey, _⟩
    obtain ⟨hkey, hfile, hpatterns⟩ := exists_legalKey_eq_ok_iff.1 ⟨key, hkey⟩
    exact ⟨body, exists_keyIn_eq_ok_iff.1 hkey, checkUpload_eq_ok_iff.1 hfile,
      p.schema.checkPatterns_eq_ok_iff.1 hpatterns⟩
  · rintro ⟨body, path, files, patterns⟩
    obtain ⟨key, hkey⟩ := exists_legalKey_eq_ok_iff.2 ⟨exists_keyIn_eq_ok_iff.2 path,
      checkUpload_eq_ok_iff.2 files, p.schema.checkPatterns_eq_ok_iff.2 patterns⟩
    exact ⟨_, _, ⟨rfl, body⟩, key, hkey, rfl⟩

/-- The parameters of a handler can be placed exactly if each of them is legal and none has a name
that was seen before. -/
theorem exists_ofParams_eq_ok_iff {handler : String} {seen : List String}
    {params : List (Param n)} :
    (∃ placements, ofParams config route method handler seen params = .ok placements) ↔
      (params.map Param.name).Nodup ∧ (∀ p ∈ params, p.name ∉ seen) ∧
        ∀ p ∈ params, p.Legal config route method := by
  induction params generalizing seen with
  | nil => simp [ofParams]
  | cons p ps ih =>
    by_cases named : p.name ∈ seen
    · have refused : ofParams config route method handler seen (p :: ps) =
          .error (.duplicateParameter handler p.name) := by
        rw [ofParams, if_pos named]
        rfl
      simp [refused, named]
    · have placed : (∃ placements, ofParams config route method handler seen (p :: ps) =
          .ok placements) ↔ (∃ q, ofParam config route method handler p = .ok q) ∧
            ∃ qs, ofParams config route method handler (p.name :: seen) ps = .ok qs := by
        rw [ofParams, if_neg named]
        simp only [bind_eq_ok_iff]
        constructor
        · rintro ⟨_, q, hq, qs, hqs, _⟩
          exact ⟨⟨q, hq⟩, qs, hqs⟩
        · rintro ⟨⟨q, hq⟩, qs, hqs⟩
          exact ⟨_, q, hq, qs, hqs, rfl⟩
      rw [placed, exists_ofParam_eq_ok_iff, ih]
      simp only [List.map_cons, List.nodup_cons, List.mem_cons, forall_eq_or_imp, not_or,
        List.mem_map, not_exists, not_and]
      constructor
      · rintro ⟨legal, nodup, unseen, legals⟩
        exact ⟨⟨fun q hq => (unseen q hq).1, nodup⟩, ⟨named, fun q hq => (unseen q hq).2⟩, legal,
          legals⟩
      · rintro ⟨⟨fresh, nodup⟩, ⟨_, unseen⟩, legal, legals⟩
        exact ⟨legal, nodup, fun q hq => ⟨fresh q hq, unseen q hq⟩, legals⟩

theorem mem_of_ofParams_eq_ok {handler : String} {seen : List String} {params : List (Param n)}
    {placements : List (Placement n)}
    (h : ofParams config route method handler seen params = .ok placements) :
    placements.map Placement.param = params ∧
      ∀ q ∈ placements, q.source = q.param.source config route method := by
  induction params generalizing seen placements with
  | nil => cases h; simp
  | cons p ps ih =>
    by_cases named : p.name ∈ seen
    · rw [ofParams, if_pos named] at h
      cases h
    · rw [ofParams, if_neg named] at h
      obtain ⟨q, hq, h⟩ := bind_eq_ok_iff.1 h
      obtain ⟨qs, hqs, h⟩ := bind_eq_ok_iff.1 h
      cases h
      obtain ⟨param, source⟩ := ofParam_eq_ok hq
      obtain ⟨params, sources⟩ := ih hqs
      refine ⟨by rw [List.map_cons, param, params], fun x hx => ?_⟩
      rcases List.mem_cons.1 hx with rfl | hx
      · rw [source, param]
      · exact sources x hx

/-- What the parameters of a handler are refused for: a name, the body that is read, or a parameter
without a legal key on the route. -/
inductive Refusal (route : RoutePattern) (handler : String) : DeclarationError n → Prop
  | name (param : String) : Refusal route handler (.duplicateParameter handler param)
  | body (param : String) (conflict : BodyNotAllowed) :
      Refusal route handler (.bodyNotAllowed handler param conflict)
  | key {p : Param n} {source : Source} {problem : ParamProblem} :
      legalKey route p source = .error problem →
      Refusal route handler (.invalidParameter handler p.name problem)

theorem refusal_of_ofParam_eq_error {handler : String} {e : DeclarationError n}
    (h : ofParam config route method handler p = .error e) : Refusal route handler e := by
  rcases bind_eq_error_iff.1 h with h | ⟨source, _, h⟩
  · obtain ⟨conflict, _, rfl⟩ := mapError_eq_error_iff.1 h
    exact .body p.name conflict
  · rcases bind_eq_error_iff.1 h with h | ⟨key, _, h⟩
    · obtain ⟨problem, refused, rfl⟩ := mapError_eq_error_iff.1 h
      exact .key refused
    · cases h

theorem refusal_of_ofParams_eq_error {handler : String} {seen : List String}
    {params : List (Param n)} {e : DeclarationError n}
    (h : ofParams config route method handler seen params = .error e) :
    Refusal route handler e := by
  induction params generalizing seen with
  | nil => cases h
  | cons q params ih =>
    by_cases named : q.name ∈ seen
    · rw [ofParams, if_pos named] at h
      cases h
      exact .name q.name
    · rw [ofParams, if_neg named] at h
      rcases bind_eq_error_iff.1 h with h | ⟨placed, _, h⟩
      · exact refusal_of_ofParam_eq_error h
      · rcases bind_eq_error_iff.1 h with h | ⟨rest, _, h⟩
        · exact ih h
        · cases h

end Placement

theorem Feed.exists_ofParts_eq_ok {δ : Type} (config : Config n) {source : Source}
    (h : source ≠ .dependency) (t : Target) (embed : Bool) :
    ∃ feed : Feed δ,
      ofParts source (Extractor.ofSource? config source t embed) none = .ok feed := by
  cases source with
  | dependency => exact absurd rfl h
  | request => exact ⟨.request, rfl⟩
  | _ => exact ⟨.extract _, rfl⟩

namespace Placement

theorem depends?_eq_some_iff {q : Placement n} {d : Depends n} :
    q.depends? = some d ↔ q.param.marker? = some (.depends d) := by
  unfold depends?
  split
  · next e he => simp [he]
  · next other =>
    refine iff_of_false nofun fun h => ?_
    exact other _ h

theorem exists_field_eq_ok {δ : Type} {q : Placement n}
    (source : q.source = q.param.source config route method) (handler : String) (embed : Bool)
    {need? : Option δ} (asked : need?.isSome = q.depends?.isSome) :
    ∃ f, q.field config handler embed need? = .ok f := by
  have depends : q.source = .dependency ↔ ∃ d, q.depends? = some d := by
    simp only [depends?_eq_some_iff, source, Param.source_eq_dependency_iff]
  unfold field
  cases need? with
  | some d =>
    have dependency : q.source = .dependency :=
      depends.2 (Option.isSome_iff_exists.1 asked.symm)
    simp [dependency, Feed.ofParts]
  | none =>
    have none : q.source ≠ .dependency := fun h => by
      obtain ⟨d, hd⟩ := depends.1 h
      simp [hd] at asked
    obtain ⟨feed, hfeed⟩ := Feed.exists_ofParts_eq_ok (δ := δ) config none q.target embed
    exact ⟨_, by simp only [hfeed]; rfl⟩

end Placement

end

end RequestBinding
