import RequestBinding.Binding

/-!
Classes of handlers.  A class is chosen by counting the parameters of each source.  Main statement:
each class stands for certain sequences of sources, and the class that is chosen is the one that
stands for the sources of the parameters.
-/
namespace RequestBinding

universe u

/-- The sources that the parameters of a handler of the class can have, in order. -/
def Shape.Admits : Shape → List Source → Prop
  | .noParams, ss => ss = []
  | .requestOnly, ss => ss = [.request]
  | .pathOnly, ss => ss ≠ [] ∧ ∀ s ∈ ss, s = .path
  | .queryOnly, ss => ss ≠ [] ∧ ∀ s ∈ ss, s = .query
  | .bodyOnly, ss => ss = [.body]
  | .simple, ss => .path ∈ ss ∧ .query ∈ ss ∧ ∀ s ∈ ss, s = .path ∨ s = .query
  | .withDeps, ss => .dependency ∈ ss
  | .full, ss =>
    .dependency ∉ ss ∧ ss ≠ [.request] ∧ ss ≠ [.body] ∧ ∃ s ∈ ss, s ≠ .path ∧ s ≠ .query

theorem Shape.exists_admits (ss : List Source) : ∃ k : Shape, k.Admits ss := by
  by_cases dependency : .dependency ∈ ss
  · exact ⟨.withDeps, dependency⟩
  by_cases none : ss = []
  · exact ⟨.noParams, none⟩
  by_cases request : ss = [.request]
  · exact ⟨.requestOnly, request⟩
  by_cases body : ss = [.body]
  · exact ⟨.bodyOnly, body⟩
  by_cases other : ∃ s ∈ ss, s ≠ .path ∧ s ≠ .query
  · exact ⟨.full, dependency, request, body, other⟩
  have known : ∀ s ∈ ss, s = .path ∨ s = .query := by grind
  by_cases path : .path ∈ ss
  · by_cases query : .query ∈ ss
    · exact ⟨.simple, path, query, known⟩
    · exact ⟨.pathOnly, none, by grind⟩
  · exact ⟨.queryOnly, none, by grind⟩

namespace SourceCounts

theorem total_ofList (sources : List Source) : (ofList sources).total = sources.length := by
  induction sources with
  | nil => rfl
  | cons s sources ih =>
    rw [List.length_cons, ← ih]
    cases s <;> simp [total, ofList, Source.all, List.count_cons] <;> omega

section
variable {ss : List Source} {s : Source}

theorem ofList_pos_iff : 0 < ofList ss s ↔ s ∈ ss := List.count_pos_iff

theorem ofList_eq_zero_iff : ofList ss s = 0 ↔ s ∉ ss := List.count_eq_zero

theorem total_ofList_eq_zero_iff : (ofList ss).total = 0 ↔ ss = [] := by
  rw [total_ofList, List.length_eq_zero_iff]

theorem ofList_alone_iff : ofList ss s = 1 ∧ (ofList ss).total = 1 ↔ ss = [s] := by
  rw [total_ofList]
  constructor
  · rintro ⟨one, length⟩
    obtain ⟨t, rfl⟩ := List.length_eq_one_iff.1 length
    have same : t = s := by simpa [ofList, List.count_singleton] using one
    rw [same]
  · rintro rfl
    simp [ofList]

theorem needsForm_ofList_iff : (ofList ss).needsForm = true ↔ .form ∈ ss ∨ .file ∈ ss := by
  simp [needsForm, ofList_pos_iff]

theorem shape_ofList_of_admits {k : Shape} (h : k.Admits ss) : (ofList ss).shape = k := by
  unfold shape
  simp only [ofList_pos_iff, ofList_eq_zero_iff, total_ofList_eq_zero_iff, ofList_alone_iff,
    needsForm_ofList_iff]
  have request : ss = [.request] → .request ∈ ss := by simp +contextual
  have body : ss = [.body] → .body ∈ ss := by simp +contextual
  cases k with
  | noParams | requestOnly | bodyOnly =>
    obtain rfl := h
    rfl
  | withDeps => exact if_pos h
  | pathOnly | queryOnly =>
    obtain ⟨filled, all⟩ := h
    obtain ⟨s, hs⟩ := List.exists_mem_of_ne_nil ss filled
    grind
  | simple =>
    obtain ⟨path, query, all⟩ := h
    grind
  | full =>
    obtain ⟨plain, request, body, s, hs, path, query⟩ := h
    cases s <;> grind

theorem shape_ofList_eq_iff {k : Shape} : (ofList ss).shape = k ↔ k.Admits ss := by
  refine ⟨?_, shape_ofList_of_admits⟩
  rintro rfl
  obtain ⟨k, admits⟩ := Shape.exists_admits ss
  exact shape_ofList_of_admits admits ▸ admits

end

end SourceCounts

namespace Binding
variable {n : Nat} {δ : Type u} {b : Binding n δ}

/-- A handler is known to its class by the sources of its parameters. -/
theorem shape_eq_iff {k : Shape} : b.shape = k ↔ k.Admits (b.fields.map Field.source) :=
  SourceCounts.shape_ofList_eq_iff

theorem shape_ne_withDeps_iff : b.shape ≠ .withDeps ↔ ∀ f ∈ b.fields, f.source ≠ .dependency := by
  rw [Ne, shape_eq_iff]
  simp [Shape.Admits]

/-- Handlers that read the form have dependencies or belong to no special class. -/
theorem shape_of_needs_form (h : b.needs.form = true) : b.shape = .withDeps ∨ b.shape = .full := by
  have reads : Source.form ∈ b.fields.map Field.source ∨ Source.file ∈ b.fields.map Field.source :=
    SourceCounts.needsForm_ofList_iff.1 h
  have stands := shape_eq_iff.1 (rfl : b.shape = b.shape)
  cases hk : b.shape with
  | withDeps => exact .inl rfl
  | full => exact .inr rfl
  | _ =>
    rw [hk] at stands
    simp only [Shape.Admits] at stands
    grind

end Binding

end RequestBinding
