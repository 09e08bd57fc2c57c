import RequestBinding.Compilation
import RequestBinding.Proofs.Compiled.Parts
import RequestBinding.Proofs.Feed
import Mathlib.Data.List.Forall2

/-!
What compiling gives.  Handlers that are finished are taken as they are, and still every part of a
compiled handler is put together as its handler is declared.  Main statements: compiling gives
faithful handlers, and in a faithful handler a part is known by the handler that it stands for.
-/
namespace RequestBinding
variable {n : Nat}

def Need.depends (d : Need (Compiled n)) : Depends n := ⟨d.target.binding.handler, d.useCache⟩

def Config.replace (config : Config n) (d : Depends n) : Depends n :=
  ⟨config.resolve d.handler, d.useCache⟩

/-- The field is made from the placement of a parameter. -/
def Placement.Makes (config : Config n) (handler : String) (embed : Bool) (p : Placement n)
    (f : Field (Need (Compiled n))) : Prop :=
  ∃ need? : Option (Need (Compiled n)),
    need?.map Need.depends = p.depends?.map config.replace ∧
      p.field config handler embed need? = .ok f

namespace Compiled

/-- The handler is put together as it is declared. -/
inductive Declared (catalogue : Catalogue n) (config : Config n) (route : RoutePattern)
    (method : Method) : Compiled n → Prop
  | intro {id : Fin n} {placements : List (Placement n)}
      {fields : List (Field (Need (Compiled n)))} :
      Placement.ofParams config route method (catalogue id).name [] (catalogue id).params =
        .ok placements →
      List.Forall₂ (Placement.Makes config (catalogue id).name (Placement.embedsBody placements))
        placements fields →
      Declared catalogue config route method (.mk {
        handler := id, name := (catalogue id).name, isAsync := (catalogue id).isAsync, method,
        route, concurrent := config.concurrent, fields })

def Faithful (catalogue : Catalogue n) (config : Config n) (route : RoutePattern) (method : Method)
    (c : Compiled n) : Prop :=
  ∀ x, Part c x → Declared catalogue config route method x

end Compiled

section
open Compiled
variable {catalogue : Catalogue n} {config : Config n} {route : RoutePattern} {method : Method}

theorem eq_ok_of_bind {ε α β : Type} {x : Except ε α} {f : α → Except ε β} {b : β}
    (h : (x >>= f) = .ok b) : ∃ a, x = .ok a ∧ f a = .ok b := by
  cases x with
  | error e => cases h
  | ok a => exact ⟨a, rfl, h⟩

theorem exists_of_forall₂ {α β : Type} {R : α → β → Prop} {as : List α} {bs : List β}
    (h : List.Forall₂ R as bs) {b : β} (hb : b ∈ bs) : ∃ a ∈ as, R a b := by
  induction h with
  | nil => simp at hb
  | cons hab _ ih =>
    rcases List.mem_cons.1 hb with rfl | hb
    · exact ⟨_, by simp, hab⟩
    · obtain ⟨a, ha, hr⟩ := ih hb
      exact ⟨a, by simp [ha], hr⟩

theorem Feed.ofParts_some_eq_ok {δ : Type} {source : Source} {extractor? : Option Extractor} {d : δ}
    {feed : Feed δ} (h : ofParts source extractor? (some d) = .ok feed) : feed = .dependency d := by
  obtain ⟨_, _, dependency⟩ := ofParts_eq_ok_iff.1 h
  cases feed with
  | request => cases dependency
  | extract e => cases dependency
  | dependency d => cases dependency; rfl

theorem Feed.ofParts_none_eq_ok {δ : Type} {source : Source} {extractor? : Option Extractor}
    {feed : Feed δ} (h : ofParts source extractor? none = .ok feed) :
    feed = .request ∨ ∃ e, extractor? = some e ∧ feed = .extract e := by
  obtain ⟨_, extractor, dependency⟩ := ofParts_eq_ok_iff.1 h
  cases feed with
  | request => exact .inl rfl
  | extract e => exact .inr ⟨e, extractor, rfl⟩
  | dependency d => cases dependency

namespace Placement
variable {handler : String} {embed : Bool} {p : Placement n} {need? : Option (Need (Compiled n))}
  {f : Field (Need (Compiled n))}

theorem of_field_eq_ok (h : p.field config handler embed need? = .ok f) :
    f.name = p.param.name ∧ f.kind = p.param.kind ∧
      ((∃ d, need? = some d ∧ f.feed = .dependency d) ∨
      need? = none ∧ (f.feed = .request ∨ ∃ e, f.feed = .extract e ∧
        Extractor.ofSource? config p.source p.target embed = some e)) := by
  simp only [field] at h
  cases need? with
  | some d =>
    split at h
    · next feed hfeed =>
      cases h
      exact ⟨rfl, rfl, .inl ⟨d, rfl, Feed.ofParts_some_eq_ok hfeed⟩⟩
    · cases h
  | none =>
    split at h
    · next feed hfeed =>
      cases h
      refine ⟨rfl, rfl, .inr ⟨rfl, (Feed.ofParts_none_eq_ok hfeed).imp_right ?_⟩⟩
      rintro ⟨e, he, rfl⟩
      exact ⟨e, rfl, he⟩
    · cases h

theorem eq_of_makes {g : Field (Need (Compiled n))} (hf : p.Makes config handler embed f)
    (hg : p.Makes config handler embed g)
    (same : ∀ d e, f.feed = .dependency d → g.feed = .dependency e →
      d.target.binding.handler = e.target.binding.handler → d.target = e.target) : f = g := by
  obtain ⟨d?, hd, hf⟩ := hf
  obtain ⟨e?, he, hg⟩ := hg
  have needs : d?.map Need.depends = e?.map Need.depends := hd.trans he.symm
  have eq : d? = e? := by
    cases d? with
    | none => exact (Option.map_eq_none_iff.1 needs.symm).symm
    | some d =>
      obtain ⟨e, rfl, depends⟩ := Option.map_eq_some_iff.1 needs.symm
      have target := same d e (by simpa using (of_field_eq_ok hf).2.2)
        (by simpa using (of_field_eq_ok hg).2.2) (congrArg Depends.handler depends).symm
      obtain ⟨_, x⟩ := d
      obtain ⟨_, y⟩ := e
      obtain rfl : x = y := target
      obtain rfl := congrArg Depends.useCache depends
      rfl
  subst eq
  exact Except.ok.inj (hf.symm.trans hg)

theorem param_of_ofParam_eq_ok {q : Param n}
    (h : ofParam config route method handler q = .ok p) : p.param = q := by
  obtain ⟨source, _, h⟩ := eq_ok_of_bind h
  obtain ⟨key, _, h⟩ := eq_ok_of_bind h
  cases h
  rfl

theorem names_of_ofParams_eq_ok {seen : List String} {params : List (Param n)}
    {placements : List (Placement n)}
    (h : ofParams config route method handler seen params = .ok placements) :
    (placements.map fun p => p.param.name).Nodup ∧ ∀ p ∈ placements, p.param.name ∉ seen := by
  induction params generalizing seen placements with
  | nil => cases h; simp
  | cons q params ih =>
    by_cases hq : q.name ∈ seen
    · simp only [ofParams, hq, if_true] at h
      cases h
    · simp only [ofParams, hq, if_false] at h
      obtain ⟨p, hp, h⟩ := eq_ok_of_bind h
      obtain ⟨ps, hps, h⟩ := eq_ok_of_bind h
      cases h
      have param := param_of_ofParam_eq_ok hp
      have ⟨nodup, unseen⟩ := ih hps
      refine ⟨?_, ?_⟩
      · simp only [List.map_cons, List.nodup_cons, List.mem_map, not_exists, not_and]
        exact ⟨fun x hx same => unseen x hx (by simp [same, param]), nodup⟩
      · intro x hx
        rcases List.mem_cons.1 hx with rfl | hx
        · rwa [param]
        · exact fun mem => unseen x hx (by simp [mem])

end Placement

namespace Compiled

theorem Faithful.part {c x : Compiled n} (h : Faithful catalogue config route method c)
    (hx : Part c x) : Faithful catalogue config route method x := fun y hy => h y (hx.trans hy)

theorem faithful_iff {c : Compiled n} : Faithful catalogue config route method c ↔
    Declared catalogue config route method c ∧
      ∀ d ∈ c.needs, Faithful catalogue config route method d.target := by
  refine ⟨fun h => ⟨h c .root, fun d hd => h.part (.need .root hd)⟩, fun ⟨hc, hd⟩ x hx => ?_⟩
  rcases hx.eq_or with rfl | ⟨d, mem, hx⟩
  · exact hc
  · exact hd d mem x hx

theorem eq_of_forall₂_makes {handler : String} {embed : Bool} {ps : List (Placement n)}
    {fs gs : List (Field (Need (Compiled n)))}
    (hf : List.Forall₂ (Placement.Makes config handler embed) ps fs)
    (hg : List.Forall₂ (Placement.Makes config handler embed) ps gs)
    (same : ∀ f ∈ fs, ∀ g ∈ gs, ∀ d e, f.feed = .dependency d → g.feed = .dependency e →
      d.target.binding.handler = e.target.binding.handler → d.target = e.target) : fs = gs := by
  induction hf generalizing gs with
  | nil => cases hg; rfl
  | @cons p f ps fs hpf _ ih =>
    cases hg with
    | @cons _ g _ gs hpg hg =>
      rw [Placement.eq_of_makes hpf hpg (same f (by simp) g (by simp)),
        ih hg fun f hf g hg => same f (by simp [hf]) g (by simp [hg])]

/-- Handlers that are compiled for the same route differ only if they stand for different ones. -/
theorem Faithful.eq {x y : Compiled n} (hx : Faithful catalogue config route method x)
    (hy : Faithful catalogue config route method y)
    (same : x.binding.handler = y.binding.handler) : x = y := by
  induction x using Compiled.induction generalizing y with
  | step x ih =>
    have ⟨declaredx, needsx⟩ := faithful_iff.1 hx
    have ⟨declaredy, needsy⟩ := faithful_iff.1 hy
    cases declaredx with
    | @intro id placements fields hp hf =>
      cases declaredy with
      | @intro id' placements' fields' hp' hf' =>
        obtain rfl : id = id' := same
        obtain rfl : placements = placements' := Except.ok.inj (hp.symm.trans hp')
        obtain rfl : fields = fields' := by
          refine eq_of_forall₂_makes hf hf' fun f mem g mem' d e hd he same => ?_
          exact ih d (mem_needs_iff.2 ⟨f, mem, hd⟩) (needsx d (mem_needs_iff.2 ⟨f, mem, hd⟩))
            (needsy e (mem_needs_iff.2 ⟨g, mem', he⟩)) same
        rfl

theorem Faithful.coherent {c : Compiled n} (h : Faithful catalogue config route method c) :
    Coherent c := fun _ _ hx hy => (h.part hx).eq (h.part hy)

theorem names_of_forall₂_makes {handler : String} {embed : Bool} {ps : List (Placement n)}
    {fs : List (Field (Need (Compiled n)))}
    (h : List.Forall₂ (Placement.Makes config handler embed) ps fs) :
    ps.map (fun p => p.param.name) = fs.map Field.name := by
  rw [← List.forall₂_eq_eq_eq, List.forall₂_map_left_iff, List.forall₂_map_right_iff]
  exact h.imp fun p f ⟨_, _, hf⟩ => (Placement.of_field_eq_ok hf).1.symm

theorem Declared.names_nodup {c : Compiled n} (h : Declared catalogue config route method c) :
    (c.binding.fields.map Field.name).Nodup := by
  obtain ⟨hp, hf⟩ := h
  exact names_of_forall₂_makes hf ▸ (Placement.names_of_ofParams_eq_ok hp).1

theorem Declared.concurrent {c : Compiled n} (h : Declared catalogue config route method c) :
    c.binding.concurrent = config.concurrent := by cases h; rfl

theorem Declared.decoder {c : Compiled n} (h : Declared catalogue config route method c)
    {f : Field (Need (Compiled n))} (hf : f ∈ c.binding.fields) {t : Target} {embed : Bool}
    {decoder : Decoder} (he : f.feed = .extract (.body t embed decoder)) :
    decoder = config.decoder := by
  obtain ⟨_, made⟩ := h
  obtain ⟨p, _, _, _, hpf⟩ := exists_of_forall₂ made hf
  rcases (Placement.of_field_eq_ok hpf).2.2 with ⟨d, _, hd⟩ | ⟨_, hr | ⟨e, hx, source⟩⟩
  · simp [hd] at he
  · simp [hr] at he
  · rw [hx] at he
    cases he
    unfold Extractor.ofSource? at source
    split at source <;> simp_all

end Compiled

/-- Finished handlers are faithful, and each is kept under its number. -/
def Finished (catalogue : Catalogue n) (config : Config n) (route : RoutePattern) (method : Method)
    (memo : Dictionary (Fin n) (Compiled n)) : Prop :=
  ∀ id c, memo.get? id = some c →
    c.binding.handler = id ∧ Faithful catalogue config route method c

theorem finished_empty : Finished catalogue config route method ∅ := fun _ _ h => nomatch h

theorem Finished.insert {memo : Dictionary (Fin n) (Compiled n)} {id : Fin n} {c : Compiled n}
    (kept : Finished catalogue config route method memo) (same : c.binding.handler = id)
    (h : Faithful catalogue config route method c) :
    Finished catalogue config route method (memo.insert id c) := by
  intro id' c' found
  rw [Dictionary.get?_insert] at found
  split at found
  · next eq =>
    cases found
    exact ⟨same.trans eq, h⟩
  · exact kept id' c' found

theorem run_bind {ε τ α β : Type} (m : ExceptT ε (StateM τ) α) (f : α → ExceptT ε (StateM τ) β)
    (s : τ) : (m >>= f).run s = match m.run s with
      | (.ok a, s) => (f a).run s
      | (.error e, s) => (.error e, s) := by
  change StateT.bind m.run (ExceptT.bindCont f) s = _
  unfold StateT.bind
  rcases m.run s with ⟨_ | _, _⟩ <;> rfl

namespace Compiling
variable {α β : Type}

/-- From finished handlers on, finished handlers are kept and what is given satisfies `post`. -/
def Gives (keeps : Dictionary (Fin n) (Compiled n) → Prop) (m : Compiling n α) (post : α → Prop) :
    Prop :=
  ∀ memo, keeps memo → keeps (m.run memo).2 ∧ ∀ a, (m.run memo).1 = .ok a → post a

variable {keeps : Dictionary (Fin n) (Compiled n) → Prop}

theorem gives_pure {a : α} {post : α → Prop} (h : post a) :
    Gives keeps (pure a : Compiling n α) post := by
  refine fun memo kept => ⟨kept, fun b hb => ?_⟩
  cases hb
  exact h

theorem gives_throw (e : DeclarationError n) :
    Gives keeps (throw e : Compiling n α) fun _ => False := fun _ kept => ⟨kept, nofun⟩

theorem gives_lift {x : Except (DeclarationError n) α} {post : α → Prop}
    (h : ∀ a, x = .ok a → post a) : Gives keeps (liftM x : Compiling n α) post :=
  fun _ kept => ⟨kept, h⟩

theorem gives_get {post : Dictionary (Fin n) (Compiled n) → Prop}
    (h : ∀ memo, keeps memo → post memo) :
    Gives keeps (get : Compiling n _) post := by
  refine fun memo kept => ⟨kept, fun b hb => ?_⟩
  cases hb
  exact h memo kept

theorem gives_modify {f : Dictionary (Fin n) (Compiled n) → Dictionary (Fin n) (Compiled n)}
    (h : ∀ memo, keeps memo → keeps (f memo)) :
    Gives keeps (modify f : Compiling n Unit) fun _ => True := fun memo kept =>
  ⟨h memo kept, fun _ _ => trivial⟩

theorem Gives.bind {m : Compiling n α} {f : α → Compiling n β} {mid : α → Prop} {post : β → Prop}
    (h : Gives keeps m mid) (next : ∀ a, mid a → Gives keeps (f a) post) :
    Gives keeps (m >>= f) post := by
  intro memo kept
  obtain ⟨kept', ha⟩ := h memo kept
  rw [run_bind]
  match hm : m.run memo with
  | (.ok a, memo') =>
    rw [hm] at kept' ha
    exact next a (ha a rfl) memo' kept'
  | (.error e, memo') =>
    rw [hm] at kept'
    exact ⟨kept', nofun⟩

end Compiling

def FieldsMade (catalogue : Catalogue n) (config : Config n) (route : RoutePattern)
    (method : Method) (handler : String) (embed : Bool) (placements : List (Placement n))
    (fields : List (Field (Need (Compiled n)))) : Prop :=
  List.Forall₂ (Placement.Makes config handler embed) placements fields ∧
    ∀ f ∈ fields, ∀ d, f.feed = .dependency d → Faithful catalogue config route method d.target

theorem Compiling.gives_field {keeps : Dictionary (Fin n) (Compiled n) → Prop} {handler : String}
    {embed : Bool} {p : Placement n} {ps : List (Placement n)} {need? : Option (Need (Compiled n))}
    {rest : Compiling n (List (Field (Need (Compiled n))))}
    (depends : need?.map Need.depends = p.depends?.map config.replace)
    (target : ∀ d, need? = some d → Faithful catalogue config route method d.target)
    (h : Gives keeps rest (FieldsMade catalogue config route method handler embed ps)) :
    Gives keeps (do
      let field ← liftM (p.field config handler embed need?)
      let fields ← rest
      return field :: fields)
      (FieldsMade catalogue config route method handler embed (p :: ps)) := by
  refine .bind (gives_lift fun a h => h) fun f made => ?_
  refine .bind h fun fs ⟨mades, targets⟩ => gives_pure ⟨.cons ⟨_, depends, made⟩ mades, ?_⟩
  intro g hg d hd
  rcases List.mem_cons.1 hg with rfl | hg
  · refine target d ?_
    simpa [hd] using (Placement.of_field_eq_ok made).2.2
  · exact targets g hg d hd

theorem gives_compile :
    (∀ underWay id fresh, Compiling.Gives (Finished catalogue config route method)
      (compileHandler catalogue config route method underWay id fresh) fun c =>
        c.binding.handler = id ∧ Faithful catalogue config route method c) ∧
    ∀ underWay name embed placements, Compiling.Gives (Finished catalogue config route method)
      (compileFields catalogue config route method underWay name embed placements)
        (FieldsMade catalogue config route method name embed placements) := by
  refine compileHandler.mutual_induct catalogue config route method _ _ ?handler ?nil ?plain ?cycle
    ?dependency
  case handler =>
    intro underWay id fresh handler ih
    rw [compileHandler]
    refine .bind (Compiling.gives_lift fun a h => h) fun placements placed => ?_
    refine .bind (ih placements) fun fields fieldsMade => Compiling.gives_pure ⟨rfl, ?_⟩
    refine faithful_iff.2 ⟨.intro placed fieldsMade.1, fun d hd => ?_⟩
    obtain ⟨f, hf, feed⟩ := mem_needs_iff.1 hd
    exact fieldsMade.2 f hf d feed
  case nil =>
    intro underWay name embed
    rw [compileFields]
    exact Compiling.gives_pure ⟨.nil, by simp⟩
  case plain =>
    intro underWay name embed p ps plain ih
    rw [compileFields]
    simp only [plain, pure_bind]
    exact Compiling.gives_field (by simp [plain]) (by simp) ih
  case cycle =>
    intro underWay name embed p ps d hd id seen ih
    rw [compileFields]
    simp only [hd]
    rw [dif_pos seen]
    exact .bind (Compiling.gives_throw _) fun _ thrown => thrown.elim
  case dependency =>
    intro underWay name embed p ps d hd id fresh ih target
    rw [compileFields]
    simp only [hd]
    rw [dif_neg fresh]
    refine .bind (Compiling.gives_get fun memo kept => kept) fun memo kept => ?_
    split
    · next c hc =>
      obtain ⟨same, faithful⟩ := kept _ c hc
      rw [pure_bind]
      refine Compiling.gives_field ?_ (by simpa using faithful) ih
      simp [hd, Need.depends, Config.replace, same]
    · refine .bind target fun c compiled => ?_
      obtain ⟨same, faithful⟩ := compiled
      refine .bind (Compiling.gives_modify fun _ kept => kept.insert same faithful) fun _ _ => ?_
      rw [pure_bind]
      refine Compiling.gives_field ?_ (by simpa using faithful) ih
      simp [hd, Need.depends, Config.replace, same, id]

theorem compileHandler_eq {underWay : List (Fin n)} {id : Fin n} (fresh : id ∉ underWay)
    (placements : List (Placement n))
    (placed : Placement.ofParams config route method (catalogue id).name [] (catalogue id).params =
      .ok placements) :
    compileHandler catalogue config route method underWay id fresh = do
      let fields ← compileFields catalogue config route method (underWay ++ [id])
        (catalogue id).name (Placement.embedsBody placements) placements
      return .mk ⟨id, (catalogue id).name, (catalogue id).isAsync, method, route, config.concurrent,
        fields⟩ := by
  rw [compileHandler, placed]
  rfl

theorem fst_compile_eq {pattern : String} (parsed : RoutePattern.parse pattern = .ok route)
    (compiler : Compiler n) (catalogue : Catalogue n) (id : Fin n) (method : Method) :
    (compiler.compile catalogue id method pattern).1 =
      ((compileHandler catalogue compiler.config route method [] id (by simp)).run ∅).1 := by
  unfold Compiler.compile
  rw [parsed]
  rfl

theorem fst_compile_root (compiler : Compiler n) (catalogue : Catalogue n) (id : Fin n)
    (method : Method) : (compiler.compile catalogue id method "/").1 =
      ((compileHandler catalogue compiler.config ⟨"/", []⟩ method [] id (by simp)).run ∅).1 := by
  refine fst_compile_eq ?_ compiler catalogue id method
  rw [RoutePattern.parse, RoutePattern.groups]
  rfl

/-- What compiles is faithful to the declarations. -/
theorem faithful_of_compile {compiler : Compiler n} {id : Fin n} {pattern : String} {c : Compiled n}
    (h : (compiler.compile catalogue id method pattern).1 = .ok c) :
    ∃ route, RoutePattern.parse pattern = .ok route ∧ c.binding.handler = id ∧
      Faithful catalogue compiler.config route method c := by
  unfold Compiler.compile at h
  split at h
  · nomatch h
  · next route parsed =>
    have gives : Compiling.Gives (Finished catalogue compiler.config route method)
        (compileHandler catalogue compiler.config route method [] id (by simp)) fun c =>
          c.binding.handler = id ∧ Faithful catalogue compiler.config route method c :=
      gives_compile.1 [] id (by simp)
    exact ⟨route, parsed, (gives ∅ finished_empty).2 c h⟩

end

end RequestBinding
