import RequestBinding.Proofs.Compiled.Faithful

/-!
Handlers that are compiled with settings that differ in nothing but whether dependencies are
resolved side by side.  Main statement: their fields are alike, all the way down.
-/
namespace RequestBinding
variable {n : Nat}

section
variable {δ ε : Type}

inductive Feed.Alike (R : δ → ε → Prop) : Feed δ → Feed ε → Prop
  | request : Alike R .request .request
  | extract (e : Extractor) : Alike R (.extract e) (.extract e)
  | dependency {d : δ} {e : ε} : R d e → Alike R (.dependency d) (.dependency e)

theorem Feed.alike_refl {R : δ → δ → Prop} (h : ∀ d, R d d) (feed : Feed δ) :
    feed.Alike R feed := by
  cases feed with
  | request => exact .request
  | extract e => exact .extract e
  | dependency d => exact .dependency (h d)

structure Field.Alike (R : δ → ε → Prop) (f : Field δ) (g : Field ε) : Prop where
  name : f.name = g.name
  kind : f.kind = g.kind
  feed : f.feed.Alike R g.feed

end

section
open Compiled
variable {catalogue : Catalogue n} {config : Config n} {route : RoutePattern} {method : Method}
  {b : Bool}

/-- The settings but for whether dependencies are resolved side by side. -/
def Config.withConcurrent (config : Config n) (b : Bool) : Config n :=
  { config with concurrent := b }

theorem Placement.alike_of_makes {handler : String} {embed : Bool} {p : Placement n}
    {f g : Field (Need (Compiled n))} (hf : p.Makes config handler embed f)
    (hg : p.Makes (config.withConcurrent b) handler embed g) :
    f.Alike (fun d e => d.depends = e.depends) g := by
  obtain ⟨d?, hd, hf⟩ := hf
  obtain ⟨e?, he, hg⟩ := hg
  have needs : d?.map Need.depends = e?.map Need.depends := hd.trans he.symm
  have ⟨namef, kindf, feedf⟩ := of_field_eq_ok hf
  have ⟨nameg, kindg, feedg⟩ := of_field_eq_ok hg
  refine ⟨namef.trans nameg.symm, kindf.trans kindg.symm, ?_⟩
  cases d? with
  | none =>
    -- without a dependency the settings that differ are not read at all
    obtain rfl : e? = none := Option.map_eq_none_iff.1 needs.symm
    obtain rfl : f = g := Except.ok.inj (hf.symm.trans hg)
    refine Feed.alike_refl (fun d => ?_) f.feed
    rfl
  | some d =>
    obtain ⟨e, rfl, depends⟩ := Option.map_eq_some_iff.1 needs.symm
    rw [show f.feed = .dependency d by simpa using feedf,
      show g.feed = .dependency e by simpa using feedg]
    exact .dependency depends.symm

theorem Placement.ofParams_withConcurrent (handler : String) (seen : List String)
    (params : List (Param n)) :
    ofParams (config.withConcurrent b) route method handler seen params =
      ofParams config route method handler seen params := by
  induction params generalizing seen with
  | nil => rfl
  | cons p ps ih =>
    simp only [ofParams, ih]
    rfl

theorem Feed.Alike.exists_dependency {δ ε : Type} {R : δ → ε → Prop} {x : Feed δ} {y : Feed ε}
    (h : x.Alike R y) {e : ε} (he : y = .dependency e) : ∃ d, x = .dependency d ∧ R d e := by
  cases h with
  | dependency related =>
    cases he
    exact ⟨_, rfl, related⟩
  | _ => nomatch he

namespace Compiled

theorem alike_of_forall₂_makes {handler : String} {embed : Bool} {ps : List (Placement n)}
    {fs gs : List (Field (Need (Compiled n)))}
    (hf : List.Forall₂ (Placement.Makes config handler embed) ps fs)
    (hg : List.Forall₂ (Placement.Makes (config.withConcurrent b) handler embed) ps gs) :
    List.Forall₂ (Field.Alike fun d e => d.depends = e.depends) fs gs := by
  induction hf generalizing gs with
  | nil => cases hg; exact .nil
  | cons hpf _ ih =>
    cases hg with
    | cons hpg hg => exact .cons (Placement.alike_of_makes hpf hpg) (ih hg)

theorem Declared.alike {x y : Compiled n} (hx : Declared catalogue config route method x)
    (hy : Declared catalogue (config.withConcurrent b) route method y)
    (same : x.binding.handler = y.binding.handler) :
    List.Forall₂ (Field.Alike fun d e => d.depends = e.depends) x.binding.fields
      y.binding.fields := by
  cases hx with
  | @intro id placements fields hp hf =>
    cases hy with
    | @intro id' placements' fields' hp' hf' =>
      obtain rfl : id = id' := same
      rw [Placement.ofParams_withConcurrent] at hp'
      obtain rfl : placements = placements' := Except.ok.inj (hp.symm.trans hp')
      exact alike_of_forall₂_makes hf hf'

theorem Faithful.exists_need {x y w z : Compiled n} (hx : Faithful catalogue config route method x)
    (hy : Faithful catalogue (config.withConcurrent b) route method y) (hw : Part x w)
    (hz : Part y z) (same : w.binding.handler = z.binding.handler) {e : Need (Compiled n)}
    (he : e ∈ z.needs) : ∃ d ∈ w.needs, d.depends = e.depends := by
  obtain ⟨g, hg, feed⟩ := mem_needs_iff.1 he
  obtain ⟨f, hf, alike⟩ := exists_of_forall₂ ((hx w hw).alike (hy z hz) same) hg
  obtain ⟨d, hd, depends⟩ := alike.feed.exists_dependency feed
  exact ⟨d, mem_needs_iff.2 ⟨f, hf, hd⟩, depends⟩

theorem Faithful.exists_part {x y z : Compiled n} (hx : Faithful catalogue config route method x)
    (hy : Faithful catalogue (config.withConcurrent b) route method y)
    (same : x.binding.handler = y.binding.handler) (hz : Part y z) :
    ∃ w, Part x w ∧ w.binding.handler = z.binding.handler := by
  induction hz with
  | root => exact ⟨x, .root, same⟩
  | @need z e hz he ih =>
    obtain ⟨w, hw, handler⟩ := ih
    obtain ⟨d, hd, depends⟩ := hx.exists_need hy hw hz handler he
    exact ⟨d.target, hw.need hd, congrArg Depends.handler depends⟩

end Compiled

end

end RequestBinding
