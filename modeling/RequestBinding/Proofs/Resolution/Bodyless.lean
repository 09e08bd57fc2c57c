import RequestBinding.Proofs.Compiled.Objection
import RequestBinding.Proofs.Compiled.Targets
import RequestBinding.Proofs.Resolution.Steps

/-!
Methods without a body.  Main statement: no part of a handler that is compiled for such a method
takes anything from the body, and in no run the body is decoded or a handle to a file is made.
-/
namespace RequestBinding
variable {n : Nat}

/-- From one session to the other, the body was not decoded and no file was received. -/
structure Session.Spares (s t : Session n) : Prop where
  body : t.scope.body = s.scope.body
  decodes : t.decodes = s.decodes
  tracked : t.scope.tracked = s.scope.tracked
  uploads : t.uploads = s.uploads

section
variable {catalogue : Catalogue n} {config : Config n} {route : RoutePattern} {method : Method}
  {c root x : Compiled n} {r : Request} {s t u : Session n}

theorem Session.spares_refl (s : Session n) : s.Spares s := ⟨rfl, rfl, rfl, rfl⟩

theorem Session.Spares.trans (h : s.Spares t) (h' : t.Spares u) : s.Spares u :=
  ⟨h'.body.trans h.body, h'.decodes.trans h.decodes, h'.tracked.trans h.tracked,
    h'.uploads.trans h.uploads⟩

theorem Source.readsBody_iff {source : Source} :
    source.readsBody = true ↔ source ∈ [body, form, file] := by
  cases source <;> decide

theorem Compiled.Declared.allowsBody (h : Declared catalogue config route method x)
    {f : Field (Need (Compiled n))} (hf : f ∈ x.binding.fields)
    (reads : f.source.readsBody = true) : method.allowsBody = true := by
  have legal := h.legal
  obtain ⟨placed, made⟩ := h
  obtain ⟨params, sources⟩ := Placement.mem_of_ofParams_eq_ok placed
  obtain ⟨p, hp, makes⟩ := exists_of_forall₂ made hf
  refine (legal.params p.param (params ▸ List.mem_map_of_mem hp)).body ?_
  rwa [← sources p hp, ← makes.declared.1]

theorem Compiled.Faithful.source_notMem (h : c.Faithful catalogue config route method)
    (bodyless : method.allowsBody = false) (hx : c.Part x) {f : Field (Need (Compiled n))}
    (hf : f ∈ x.binding.fields) : f.source ∉ [.body, .form, .file] := by
  intro reads
  have allows := (h x hx).allowsBody hf (Source.readsBody_iff.2 reads)
  simp [bodyless] at allows

theorem Extractor.snd_apply_eq {e : Extractor} (h : e.source ∉ [.body, .form, .file]) :
    (e.apply r s).2 = s := by
  cases e with
  | body | form | file => simp [source] at h
  | path | query | header | cookie => rfl

/-- No step decodes the body or receives a file, if no part takes anything from the body. -/
theorem Compiled.Does.spares {β : Type} {act : Session n → Option (β × Session n)} {b : β}
    (h : root.Does r β act)
    (harmless : ∀ x, root.Part x → ∀ f ∈ x.binding.fields, f.source ∉ [.body, .form, .file])
    (moved : act s = some (b, t)) : s.Spares t := by
  cases h with
  | @extract _ x f e g hx hf he =>
    cases moved
    have source := harmless x hx f hf
    rw [Field.source, he] at source
    rw [Extractor.snd_apply_eq source]
    exact s.spares_refl
  | accept reply =>
    cases reply with
    | arg a =>
      cases moved
      exact s.spares_refl
    | object content =>
      cases moved
      exact ⟨rfl, rfl, rfl, rfl⟩
  | turn ticket _ =>
    obtain ⟨_, _, eq⟩ := Option.map_eq_some_iff.1 moved
    cases eq
    exact s.spares_refl
  | _ =>
    cases moved
    exact ⟨rfl, rfl, rfl, rfl⟩

/-- A handler that is compiled for a method without a body takes nothing from the body, and neither
does any handler that is called for it; at no moment of a run the body was decoded for it or a
handle to a file was made. -/
theorem Compiled.bodyless_of_compile {compiler : Compiler n} {id : Fin n} {pattern : String}
    (bodyless : method ∈ [.get, .head, .delete, .options])
    (compiled : (compiler.compile catalogue id method pattern).1 = .ok c) :
    (∀ x, c.Part x → ∀ f ∈ x.binding.fields, f.source ∉ [.body, .form, .file]) ∧
      ∀ r s q t, Routine.Moves ((c.injector catalogue).inject r) s q t → s.Spares t := by
  obtain ⟨route, _, _, faithful⟩ := faithful_of_compile compiled
  have none : method.allowsBody = false := by
    revert bodyless
    cases method <;> decide
  have harmless : ∀ x, c.Part x → ∀ f ∈ x.binding.fields, f.source ∉ [.body, .form, .file] :=
    fun x hx f hf => faithful.source_notMem none hx hf
  refine ⟨harmless, fun r s q t moves => ?_⟩
  refine (c.consists_inject catalogue r).keeps (J := s.Spares) ?_ moves s.spares_refl
  exact fun u v β act b does spares moved => spares.trans (does.spares harmless moved)

end

/-- A handler that takes the body, one that takes a header, and one that depends on the first. -/
def tokenPage : Catalogue 3
  | 0 => {
      name := "signed", params := [{ name := "payload", marker? := some .body }]
      work := .async 0 fun _ => .ok (.arg (.value .null)) }
  | 1 => {
      name := "bearer", params := [{ name := "token", marker? := some .header }]
      work := .async 0 fun _ => .ok (.arg (.value .null)) }
  | 2 => {
      name := "page", params := [{ name := "user", marker? := some (.depends ⟨0, true⟩) }]
      work := .async 0 fun _ => .ok (.arg (.value .null)) }

def byToken : Config 3 := ({} : Config 3).withOverride 0 1

def compiledBearer : Compiled 3 := .mk ⟨1, "bearer", true, .get, ⟨"/", []⟩, true,
  [{ name := "token", schema := .any, feed := .extract (.header ⟨headerKey "token", .any, none⟩) }]⟩

def compiledTokenPage : Compiled 3 := .mk ⟨2, "page", true, .get, ⟨"/", []⟩, true,
  [{ name := "user", schema := .any, feed := .dependency ⟨true, compiledBearer⟩ }]⟩

theorem compile_tokenPage :
    (({ config := byToken } : Compiler 3).compile tokenPage 2 .get "/").1 =
      .ok compiledTokenPage := by
  have bearer (underWay fresh) : compileHandler tokenPage byToken ⟨"/", []⟩ .get underWay
      (byToken.resolve 0) fresh = pure compiledBearer := by
    rw [compileHandler_eq fresh [⟨{ name := "token", marker? := some .header }, .header, "token"⟩]
      rfl]
    simp only [compileFields, Placement.depends?]
    rfl
  rw [fst_compile_root, compileHandler_eq (by simp)
    ((tokenPage 2).params.map fun p => ⟨p, .dependency, p.name⟩) rfl]
  simp only [tokenPage, List.map, compileFields, Placement.depends?, bearer]
  rfl

def signedRequest : Request :=
  { method := .get, path := "/", headers := Dictionary.insert ∅ "token" "t", body := [1] }

theorem moves_tokenPage : ∃ (args : CallArgs) (t : Session 3), Routine.Moves
    ((compiledTokenPage.injector tokenPage).inject signedRequest) {} (.done (.ok args)) t ∧
      t.callCount 1 = 1 :=
  ⟨_, _, Routine.moves_of_along
    (show Routine.along (List.replicate 6 []) _ _ = some (_, _) from rfl), rfl⟩

theorem Compiled.bodyless_of_compile_token :
    let compiler : Compiler 3 := { config := byToken }
    Method.get ∈ [.get, .head, .delete, .options] ∧
      (compiler.compile tokenPage 2 .get "/").1 = .ok compiledTokenPage ∧
      (∀ x, compiledTokenPage.Part x → ∀ f ∈ x.binding.fields,
        f.source ∉ [.body, .form, .file]) ∧
      ∃ (args : CallArgs) (s t : Session 3), Routine.Moves
        ((compiledTokenPage.injector tokenPage).inject signedRequest) s (.done (.ok args)) t ∧
        t.callCount 1 = 1 ∧ s.Spares t := by
  obtain ⟨harmless, spares⟩ := Compiled.bodyless_of_compile (.head _) compile_tokenPage
  obtain ⟨args, t, moves, called⟩ := moves_tokenPage
  exact ⟨.head _, compile_tokenPage, harmless, args, {}, t, moves, called, spares _ _ _ _ moves⟩

end RequestBinding
