import RequestBinding.Field

/-!
What feeds are put together from.  A compiler brings together a source and, as far as there are any,
an extractor and a dependency.  Main statement: there is a feed exactly for the parts that the source
needs, and the feed has just these parts.
-/
namespace RequestBinding

universe u

/-- The problem is that the parts at hand are not those that the source needs. -/
def ParamProblem.IsMisfit : ParamProblem → Prop
  | .requestWithParts | .noDependency | .noExtractor _ => True
  | _ => False

namespace Feed
variable {δ : Type u}

structure Parts (δ : Type u) where
  source : Source
  extractor? : Option Extractor
  dependency? : Option δ

def parts (feed : Feed δ) : Parts δ := ⟨feed.source, feed.extractor?, feed.dependency?⟩

namespace Parts

/-- There is an extractor of the source if it needs one, a dependency if the source is one, and
nothing else. -/
structure Fit (p : Parts δ) : Prop where
  extractor : p.extractor?.map Extractor.source =
    if p.source.hasExtractor then some p.source else none
  dependency : p.dependency?.isSome = true ↔ p.source = .dependency

def build (p : Parts δ) : Except ParamProblem (Feed δ) :=
  ofParts p.source p.extractor? p.dependency?

/-- What a plan can do with the parts, whether they fit or not; nothing if there is no part to take
the argument from. -/
def action? (p : Parts δ) : Option (Feed δ) :=
  match p.source, p.extractor?, p.dependency? with
  | .request, _, _ => some .request
  | _, _, some d => some (.dependency d)
  | _, some e, none => some (.extract e)
  | _, none, none => none

end Parts

variable {feed : Feed δ} {p : Parts δ}

theorem fit_parts (feed : Feed δ) : feed.parts.Fit := by
  cases feed with
  | request => exact ⟨rfl, by simp [parts, source, dependency?]⟩
  | dependency d => exact ⟨rfl, by simp [parts, source, dependency?]⟩
  | extract e =>
    refine ⟨?_, ?_⟩
    · simp [parts, source, extractor?, e.hasExtractor_source]
    · cases e <;> simp [parts, source, dependency?, Extractor.source]

theorem build_parts (feed : Feed δ) : feed.parts.build = .ok feed := by
  cases feed with
  | request => rfl
  | dependency d => rfl
  | extract e => cases e <;> rfl

theorem action?_parts (feed : Feed δ) : feed.parts.action? = some feed := by
  cases feed with
  | request => rfl
  | dependency d => rfl
  | extract e => cases e <;> rfl

theorem ofParts_eq_ok_iff {source : Source} {extractor? : Option Extractor} {dependency? : Option δ} :
    ofParts source extractor? dependency? = .ok feed ↔ source = feed.source ∧
      extractor? = feed.extractor? ∧ dependency? = feed.dependency? := by
  constructor
  · intro h
    unfold ofParts at h
    split at h
    · cases h; exact ⟨rfl, rfl, rfl⟩
    · cases h
    · cases h; exact ⟨rfl, rfl, rfl⟩
    · cases h
    · split at h
      · next same => cases h; exact ⟨same.symm, rfl, rfl⟩
      · cases h
    · cases h
  · rintro ⟨rfl, rfl, rfl⟩
    exact feed.build_parts

namespace Parts

theorem Fit.exists_eq_parts (h : p.Fit) : ∃ feed : Feed δ, p = feed.parts := by
  obtain ⟨source, extractor?, dependency?⟩ := p
  obtain ⟨extractor, dependency⟩ := h
  cases dependency? with
  | some d =>
    obtain rfl : source = .dependency := dependency.1 rfl
    obtain rfl : extractor? = none := Option.map_eq_none_iff.1 extractor
    exact ⟨.dependency d, rfl⟩
  | none =>
    -- what is left needs an extractor, unless it is the request
    have independent : source ≠ .dependency := by simpa using dependency
    cases extractor? with
    | none =>
      obtain rfl : source = .request := by cases source <;> simp_all [Source.hasExtractor]
      exact ⟨.request, rfl⟩
    | some e =>
      obtain rfl : e.source = source := by
        simp only [Option.map_some] at extractor
        split at extractor
        · exact Option.some.inj extractor
        · cases extractor
      exact ⟨.extract e, rfl⟩

theorem build_eq_ok_iff : p.build = .ok feed ↔ p = feed.parts := by
  rw [build, ofParts_eq_ok_iff, parts, ← mk.injEq]

/-- Parts are put together exactly if they fit. -/
theorem exists_build_eq_ok_iff : (∃ feed : Feed δ, p.build = .ok feed) ↔ p.Fit := by
  constructor
  · rintro ⟨feed, built⟩
    exact build_eq_ok_iff.1 built ▸ feed.fit_parts
  · intro fit
    obtain ⟨feed, rfl⟩ := fit.exists_eq_parts
    exact ⟨feed, feed.build_parts⟩

theorem isMisfit_of_build_eq_error {problem : ParamProblem} (h : p.build = .error problem) :
    problem.IsMisfit := by
  obtain ⟨source, extractor?, dependency?⟩ := p
  simp only [build] at h
  unfold ofParts at h
  split at h
  · cases h
  · cases h; trivial
  · cases h
  · cases h; trivial
  · split at h
    · cases h
    · cases h; trivial
  · cases h; trivial

/-- A plan would leave out a query parameter without an extractor, and this is never built. -/
example : (⟨.query, none, none⟩ : Parts Unit).action? = none ∧
    (⟨.query, none, none⟩ : Parts Unit).build = .error (.noExtractor .query) := ⟨rfl, rfl⟩

end Parts

end Feed

end RequestBinding
