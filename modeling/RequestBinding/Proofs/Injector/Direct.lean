import RequestBinding.Proofs.Compiled.Parts
import RequestBinding.Proofs.Extractor.Refusal
import RequestBinding.Proofs.Routine.Ends
import RequestBinding.Proofs.Source.Shape

/-!
Handlers without dependencies.  Their arguments are gathered from field to field, and each of the
injectors that apply to them is compared with that.  Main statement: the injector that is chosen for
such a handler does the same as the one that suits every handler.
-/
namespace RequestBinding

universe u

variable {n : Nat} {δ : Type u}

/-- Add the arguments of fields, one after another.  Dependencies add nothing here. -/
def Gathering.gather (r : Request) : List (Field δ) → Gathering → StateM (Session n) Gathering
  | [], g => pure g
  | f :: fs, g => do
    match f.feed with
    | .request => gather r fs (g.push f.pass f.name (.request r))
    | .extract e =>
      let bound ← e.apply r
      gather r fs (g.add f.pass f.name bound)
    | .dependency _ => gather r fs g

theorem Plan.follow_comesTo {fields : List (Field (Link n))}
    (plain : ∀ f ∈ fields, f.source ≠ .dependency) (r : Request) (g : Gathering) (s : Session n) :
    (follow r (prepare (fields.map .ofField) []) g).ComesTo s
      ((Gathering.gather r fields g s).1.finish.mapError .validation)
      (Gathering.gather r fields g s).2 := by
  induction fields generalizing g s with
  | nil => exact Routine.comesTo_done _ s
  | cons f fs ih =>
    have ih := ih fun f hf => plain f (List.mem_cons_of_mem _ hf)
    simp only [List.map_cons, Step.ofField, prepare, follow, Gathering.gather]
    cases hf : f.feed with
    | request => exact ih _ s
    | extract e => exact (Routine.comesTo_act _ s).bind (ih _ _)
    | dependency d => exact absurd (by simp [Field.source, hf, Feed.source]) (plain f (by simp))

/-- The session once the form is looked at, if any field needs that. -/
def Binding.opened (b : Binding n δ) (r : Request) (s : Session n) : Session n :=
  if b.needs.form then (Session.form r s).2 else s

theorem Injector.full_comesTo {b : Binding n (Link n)}
    (plain : ∀ f ∈ b.fields, f.source ≠ .dependency)
    (r : Request) (s : Session n) : ((full b).inject r).ComesTo s
      ((Gathering.gather r b.fields {} (b.opened r s)).1.finish.mapError .validation)
      (Gathering.gather r b.fields {} (b.opened r s)).2 := by
  have followed := Plan.follow_comesTo plain r {} (b.opened r s)
  cases form : b.needs.form with
  | false =>
    simpa [full, inject, Plan.execute, Plan.ofBinding, form, Plan.early, Routine.all,
      Binding.opened] using followed
  | true =>
    simp only [Binding.opened, form, if_true] at followed ⊢
    have opened := (Routine.comesTo_act (Session.form r) s).bind (f := fun _ => _) followed
    simpa [full, inject, Plan.execute, Plan.ofBinding, form, Plan.early, Routine.all] using opened

namespace DirectInjector

/-- The injector does on every session what gathering the fields one after another does. -/
def Gathers (run : DirectInjector n) (fields : List (Field δ)) : Prop :=
  ∀ r s, run r s =
    ((Gathering.gather r fields {} s).1.finish, (Gathering.gather r fields {} s).2)

theorem gathers_noParams : Gathers (n := n) noParams ([] : List (Field δ)) := fun _ _ => rfl

theorem gathers_requestOnly {f : Field δ} (h : f.source = .request) {run : DirectInjector n}
    (hr : requestOnly? [f] = some run) : Gathers run [f] := by
  have feed : f.feed = .request := by
    cases hf : f.feed with
    | request => rfl
    | extract e => cases e <;> simp [Field.source, hf, Feed.source, Extractor.source] at h
    | dependency d => simp [Field.source, hf, Feed.source] at h
  intro r s
  cases hr
  simp [Gathering.gather, feed]
  rfl

def viewOf (r : Request) (e : Entry) : Dictionary String Value :=
  if e.source = .path then r.pathParams else r.query

theorem of_ofField? {f : Field δ} {e : Entry} (h : Entry.ofField? f = some e) :
    e.name = f.name ∧ e.pass = f.pass ∧ e.source = f.source ∧ ∃ x, f.feed = .extract x ∧
      ∀ r (s : Session n),
        x.apply r s = (Extractor.bindTyped e.source (viewOf r e) e.target, s) := by
  unfold Entry.ofField? at h
  split at h
  · next t hf =>
    cases h
    exact ⟨rfl, rfl, by rw [Field.source, hf]; rfl, _, hf, fun _ _ => rfl⟩
  · next t hf =>
    cases h
    exact ⟨rfl, rfl, by rw [Field.source, hf]; rfl, _, hf, fun _ _ => rfl⟩
  · cases h

/-- Fields that are looked up in path and query are bound like their entries. -/
theorem gather_entries (view : Entry → Dictionary String Value) {pick : Field δ → Option Entry}
    {r : Request} (sound : ∀ f e, pick f = some e → Entry.ofField? f = some e ∧ view e = viewOf r e)
    {fields : List (Field δ)} {entries : List Entry} (h : fields.mapM pick = some entries)
    (g : Gathering) (s : Session n) :
    Gathering.gather r fields g s = (entries.foldl (fun g e =>
      g.add e.pass e.name (Extractor.bindTyped e.source (view e) e.target)) g, s) := by
  induction fields generalizing entries g with
  | nil => cases h; rfl
  | cons f fs ih =>
    simp only [List.mapM_cons, Option.pure_def, Option.bind_eq_bind, Option.bind_eq_some_iff,
      Option.some.injEq] at h
    obtain ⟨e, he, es, hes, rfl⟩ := h
    obtain ⟨entry, looked⟩ := sound f e he
    obtain ⟨name, pass, _, x, feed, bound⟩ := of_ofField? entry
    have here := bound r s
    rw [List.foldl_cons, name, pass, looked, ← ih hes]
    simp only [Gathering.gather, feed, bind, StateT.bind]
    rw [here]

theorem gathers_pathAndQuery {fields : List (Field δ)} {run : DirectInjector n}
    (h : pathAndQuery? fields = some run) : Gathers run fields := by
  simp only [pathAndQuery?, Option.bind_eq_bind, Option.bind_eq_some_iff, Option.pure_def,
    Option.some.injEq] at h
  obtain ⟨entries, entered, rfl⟩ := h
  intro r s
  rw [gather_entries (viewOf r) (fun f e h => ⟨h, rfl⟩) entered]
  rfl

theorem gathers_singleView {source : Source} {fields : List (Field δ)} {run : DirectInjector n}
    (h : singleView? source fields = some run) : Gathers run fields := by
  simp only [singleView?, Option.bind_eq_bind, Option.bind_eq_some_iff, Option.pure_def,
    Option.some.injEq] at h
  obtain ⟨entries, entered, rfl⟩ := h
  intro r s
  rw [gather_entries (fun _ => if source = .path then r.pathParams else r.query) ?_ entered]
  · rfl
  · intro f e h
    split at h
    · next same =>
      obtain ⟨_, _, read, _⟩ := of_ofField? (n := n) h
      exact ⟨h, by rw [viewOf, read, same]⟩
    · nomatch h

theorem gathers_bodyOnly {fields : List (Field δ)} {run : DirectInjector n}
    (h : bodyOnly? fields = some run) : Gathers run fields := by
  unfold bodyOnly? at h
  split at h
  · next f =>
    split at h
    · next t embed decoder feed =>
      cases h
      intro r s
      have explained := (Extractor.body t embed decoder).apply_ne_error_nil r s
      simp only [Gathering.gather, feed, bind, StateT.bind]
      rcases hb : (Extractor.body t embed decoder).apply r s with ⟨vs | a, s'⟩
      · rw [hb] at explained
        have clean : vs ≠ [] := fun h => explained (by rw [h])
        have refused : Gathering.finish ⟨{}, vs⟩ = .error vs := by simp [Gathering.finish, clean]
        exact congrArg (·, s') refused.symm
      · cases f.pass <;> rfl
    · cases h
  · cases h

end DirectInjector

theorem Injector.gathers_of_direct? {b : Binding n (Link n)} {run : DirectInjector n}
    (h : direct? b = some run) : run.Gathers b.fields ∧ b.needs.form = false := by
  constructor
  · unfold direct? at h
    split at h
    · next shape =>
      have none : b.fields = [] := List.map_eq_nil_iff.1 (Binding.shape_eq_iff.1 shape)
      cases h
      rw [none]
      exact DirectInjector.gathers_noParams
    · next shape =>
      obtain ⟨f, fields, source⟩ := List.map_eq_singleton_iff.1 (Binding.shape_eq_iff.1 shape)
      rw [fields] at h ⊢
      exact DirectInjector.gathers_requestOnly source h
    · exact DirectInjector.gathers_singleView h
    · exact DirectInjector.gathers_singleView h
    · exact DirectInjector.gathers_bodyOnly h
    · exact DirectInjector.gathers_pathAndQuery h
    · cases h
    · cases h
  · cases form : b.needs.form with
    | false => rfl
    | true =>
      rcases Binding.shape_of_needs_form form with shape | shape <;> simp [direct?, shape] at h

section
variable {b : Binding n (Link n)}

theorem Injector.direct_comesTo {run : DirectInjector n} {fields : List (Field δ)}
    (h : run.Gathers fields) (r : Request) (s : Session n) :
    ((direct run).inject r).ComesTo s
      ((Gathering.gather r fields {} s).1.finish.mapError .validation)
      (Gathering.gather r fields {} s).2 := by
  have run := Routine.comesTo_act (run r) s
  rw [h r s] at run
  exact run.bind (Routine.comesTo_done _ _)

theorem Injector.ofBinding_agrees (plain : b.shape ≠ .withDeps) (r : Request) (s : Session n) :
    ∃ (outcome : Except (List Violation) CallArgs) (t : Session n),
      ((ofBinding b).inject r).ComesTo s (outcome.mapError .validation) t ∧
        ((full b).inject r).ComesTo s (outcome.mapError .validation) t := by
  have fields := Binding.shape_ne_withDeps_iff.1 plain
  have through := full_comesTo fields r s
  refine ⟨_, _, ?_, through⟩
  cases hd : direct? b with
  | some run =>
    obtain ⟨gathers, formless⟩ := gathers_of_direct? hd
    simpa [ofBinding, plain, hd, Binding.opened, formless] using direct_comesTo gathers r s
  | none => simpa [ofBinding, plain, hd] using through

end

/-- Without dependencies, the injector of a handler and the one that suits every handler come to the
same arguments or the same violations from every session, and they leave the same session. -/
theorem Compiled.injector_agrees (c : Compiled n) (plain : c.binding.shape ≠ .withDeps)
    (catalogue : Catalogue n) (r : Request) (s : Session n) :
    ∃ (outcome : Except (List Violation) CallArgs) (t : Session n),
      ((c.injector catalogue).inject r).ComesTo s (outcome.mapError .validation) t ∧
        ((c.fullInjector catalogue).inject r).ComesTo s (outcome.mapError .validation) t :=
  Injector.ofBinding_agrees (by simpa using plain) r s

theorem Compiled.injector_agrees_undecodable :
    let c : Compiled 1 := .mk ⟨0, "create", true, .post, ⟨"/", []⟩, true,
      [⟨"item", .any, none, none, .keywordOnly, .extract (.body ⟨"item", .any, none⟩ false .json)⟩]⟩
    let catalogue : Catalogue 1 := fun _ =>
      { name := "create", work := .blocking fun _ => .returned (.ok (.arg (.value .null))) }
    let r : Request := { method := .post, path := "/", body := [0x5b] }
    c.binding.shape ≠ .withDeps ∧ ∃ (outcome : Except (List Violation) CallArgs) (t : Session 1),
      ((c.injector catalogue).inject r).ComesTo {} (outcome.mapError .validation) t ∧
        ((c.fullInjector catalogue).inject r).ComesTo {} (outcome.mapError .validation) t :=
  ⟨by decide, Compiled.injector_agrees _ (by decide) _ _ _⟩

end RequestBinding
