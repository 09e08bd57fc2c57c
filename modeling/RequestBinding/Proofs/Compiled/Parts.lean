import RequestBinding.Resolution

/-!
The handlers that a compiled handler is put together from, and what linking makes of each of them.
-/
namespace RequestBinding
variable {n : Nat}

namespace Compiled

def needs (c : Compiled n) : List (Need (Compiled n)) :=
  c.binding.fields.filterMap fun f => f.feed.dependency?

theorem mem_needs_iff {c : Compiled n} {d : Need (Compiled n)} :
    d ∈ c.needs ↔ ∃ f ∈ c.binding.fields, f.feed = .dependency d := by
  simp only [needs, List.mem_filterMap]
  refine exists_congr fun f => and_congr_right fun _ => ?_
  cases f.feed <;> simp [Feed.dependency?]

theorem sizeOf_target_lt {c : Compiled n} {d : Need (Compiled n)} (h : d ∈ c.needs) :
    sizeOf d.target < sizeOf c := by
  obtain ⟨f, hf, hd⟩ := mem_needs_iff.1 h
  obtain ⟨b⟩ := c
  obtain ⟨id, name, isAsync, method, route, concurrent, fields⟩ := b
  obtain ⟨fname, schema, alias?, default?, kind, feed⟩ := f
  obtain ⟨useCache, target⟩ := d
  simp only at hd
  subst hd
  change _ ∈ fields at hf
  have hlt := List.sizeOf_lt_of_mem hf
  simp only [Field.mk.sizeOf_spec, Feed.dependency.sizeOf_spec, Need.mk.sizeOf_spec] at hlt
  simp only [mk.sizeOf_spec, Binding.mk.sizeOf_spec]
  omega

theorem induction {P : Compiled n → Prop} (step : ∀ c, (∀ d ∈ c.needs, P d.target) → P c)
    (c : Compiled n) : P c := by
  induction h : sizeOf c using Nat.strongRecOn generalizing c with
  | ind k ih =>
    subst h
    exact step c fun d hd => ih _ (sizeOf_target_lt hd) d.target rfl

/-- A handler is the root itself or a dependency of another part. -/
inductive Part (root : Compiled n) : Compiled n → Prop
  | root : Part root root
  | need {c : Compiled n} {d : Need (Compiled n)} : Part root c → d ∈ c.needs → Part root d.target

theorem Part.trans {root c x : Compiled n} (h : Part root c) (hx : Part c x) : Part root x := by
  induction hx with
  | root => exact h
  | need _ hd ih => exact ih.need hd

theorem Part.eq_or {c x : Compiled n} (h : Part c x) :
    x = c ∨ ∃ d ∈ c.needs, Part d.target x := by
  induction h with
  | root => exact .inl rfl
  | @need y e _ he ih =>
    rcases ih with rfl | ⟨d, hd, hy⟩
    · exact .inr ⟨e, he, .root⟩
    · exact .inr ⟨d, hd, hy.need he⟩

/-- A handler has one compiled form in all places where it occurs. -/
def Coherent (root : Compiled n) : Prop :=
  ∀ x y, Part root x → Part root y → x.binding.handler = y.binding.handler → x = y

def produce (c : Compiled n) (catalogue : Catalogue n) (r : Request) :
    Routine (Session n) Resolved :=
  (c.injector catalogue).thenCall catalogue c.binding.handler r

end Compiled

section
variable (catalogue : Catalogue n)

@[simp] theorem name_linkField (f : Field (Need (Compiled n))) :
    (linkField catalogue f).name = f.name := by cases f; rfl

@[simp] theorem pass_linkField (f : Field (Need (Compiled n))) :
    (linkField catalogue f).pass = f.pass := by cases f; rfl

@[simp] theorem feed_linkField (f : Field (Need (Compiled n))) :
    (linkField catalogue f).feed = linkFeed catalogue f.feed := by cases f; rfl

@[simp] theorem source_linkFeed (feed : Feed (Need (Compiled n))) :
    (linkFeed catalogue feed).source = feed.source := by cases feed <;> rfl

@[simp] theorem source_linkField (f : Field (Need (Compiled n))) :
    (linkField catalogue f).source = f.source := by simp [Field.source]

theorem isAsync_linkNeed (d : Need (Compiled n)) :
    (linkNeed catalogue d).isAsync = d.target.binding.isAsync := by cases d; rfl

theorem resolve_linkNeed (d : Need (Compiled n)) (r : Request) :
    (linkNeed catalogue d).resolve r =
      if d.useCache then resolveCached d.target.binding.handler (d.target.produce catalogue r)
      else d.target.produce catalogue r := by cases d; rfl

namespace Compiled
variable (c : Compiled n)

@[simp] theorem fields_link :
    (c.link catalogue).fields = c.binding.fields.map (linkField catalogue) := by
  cases c
  exact linkFields_eq_map catalogue _

@[simp] theorem concurrent_link : (c.link catalogue).concurrent = c.binding.concurrent := by
  cases c; rfl

@[simp] theorem counts_link : (c.link catalogue).counts = c.binding.counts := by
  simp [Binding.counts, Function.comp_def]

@[simp] theorem shape_link : (c.link catalogue).shape = c.binding.shape := by
  simp [Binding.shape]

variable {catalogue} in
theorem steps_ofBinding (concurrent : Bool) :
    (Plan.ofBinding (c.link catalogue) concurrent).steps =
      (c.binding.fields.map (linkField catalogue)).map .ofField := by simp [Plan.ofBinding]

end Compiled

end

end RequestBinding
