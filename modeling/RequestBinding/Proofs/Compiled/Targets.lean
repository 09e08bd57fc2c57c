import RequestBinding.Proofs.Compiled.Legality

/-!
What the extractors of a compiled handler are bound to.  Main statement: the extractor of a field is
the one for its source, with the type and the default that are declared, and a path parameter is
looked up by a name that is in the route.
-/
namespace RequestBinding
variable {n : Nat}

def Compiled.bodies (c : Compiled n) : Nat :=
  c.binding.fields.countP fun f => f.source == .body

section
variable {catalogue : Catalogue n} {config : Config n} {route : RoutePattern} {method : Method}

namespace Placement
variable {handler : String} {embed : Bool} {p : Placement n} {f : Field (Need (Compiled n))}

theorem Makes.declared (h : p.Makes config handler embed f) :
    f.source = p.source ∧ f.schema = p.param.schema ∧ f.default? = p.param.default? := by
  obtain ⟨_, _, h⟩ := h
  simp only [field] at h
  split at h
  · next feed hfeed =>
    cases h
    exact ⟨(Feed.ofParts_eq_ok_iff.1 hfeed).1.symm, rfl, rfl⟩
  · cases h

theorem mem_names_of_keyIn_eq_ok {q : Param n} {source : Source} {key : String}
    (h : keyIn route q source = .ok key) (path : source = .path) : key ∈ route.names := by
  simp only [keyIn, path, if_true] at h
  split at h
  · next found =>
    cases h
    have := List.find?_some found
    simpa [RoutePattern.has] using this
  · cases h

theorem key_of_ofParam_eq_ok {q : Param n} (h : ofParam config route method handler q = .ok p)
    (path : p.source = .path) : p.key ∈ route.names := by
  obtain ⟨source, _, h⟩ := bind_eq_ok_iff.1 h
  obtain ⟨key, legal, h⟩ := bind_eq_ok_iff.1 h
  cases h
  obtain ⟨_, keyed, rest⟩ := bind_eq_ok_iff.1 (mapError_eq_ok_iff.1 legal)
  obtain ⟨_, _, rest⟩ := bind_eq_ok_iff.1 rest
  obtain ⟨_, _, rest⟩ := bind_eq_ok_iff.1 rest
  cases rest
  exact mem_names_of_keyIn_eq_ok keyed path

theorem key_of_ofParams_eq_ok {seen : List String} {params : List (Param n)}
    {placements : List (Placement n)}
    (h : ofParams config route method handler seen params = .ok placements) :
    ∀ q ∈ placements, q.source = .path → q.key ∈ route.names := by
  induction params generalizing seen placements with
  | nil =>
    cases h
    simp
  | cons q params ih =>
    by_cases named : q.name ∈ seen
    · rw [ofParams, if_pos named] at h
      cases h
    · rw [ofParams, if_neg named] at h
      obtain ⟨p, hp, h⟩ := bind_eq_ok_iff.1 h
      obtain ⟨ps, hps, h⟩ := bind_eq_ok_iff.1 h
      cases h
      intro x hx path
      rcases List.mem_cons.1 hx with rfl | hx
      · exact key_of_ofParam_eq_ok hp path
      · exact ih hps x hx path

theorem embedsBody_eq {placements : List (Placement n)} {fields : List (Field (Need (Compiled n)))}
    (made : List.Forall₂ (Placement.Makes config handler embed) placements fields) :
    embedsBody placements = decide (1 < fields.countP fun f => f.source == .body) := by
  have same : placements.countP (fun p => p.source == .body) =
      fields.countP fun f => f.source == .body := by
    induction made with
    | nil => rfl
    | cons h _ ih => rw [List.countP_cons, List.countP_cons, ih, h.declared.1]
  rw [embedsBody, same]

end Placement

/-- The extractor of a field is the one for its source, type and default.  It takes a member of the
payload if other parameters take the body too, and a path parameter is looked up by a name in the
route. -/
theorem Compiled.Declared.extractor {c : Compiled n}
    (h : Declared catalogue config route method c) {f : Field (Need (Compiled n))}
    (hf : f ∈ c.binding.fields) {e : Extractor} (he : f.feed = .extract e) :
    ∃ key, Extractor.ofSource? config f.source ⟨key, f.schema, f.default?⟩ (1 < c.bodies) =
      some e ∧ (f.source = .path → key ∈ c.binding.route.names) := by
  obtain ⟨placed, made⟩ := h
  obtain ⟨p, hp, makes⟩ := exists_of_forall₂ made hf
  obtain ⟨source, schema, default⟩ := makes.declared
  have key := Placement.key_of_ofParams_eq_ok placed p hp
  obtain ⟨_, _, field⟩ := makes
  refine ⟨p.key, ?_, source ▸ key⟩
  rcases (Placement.of_field_eq_ok field).2.2 with ⟨d, _, hd⟩ | ⟨_, hr | ⟨e', hx, found⟩⟩
  · simp [hd] at he
  · simp [hr] at he
  · rw [hx] at he
    cases he
    rw [source, schema, default, ← found, Placement.embedsBody_eq made]
    rfl

end

end RequestBinding
