import RequestBinding.Proofs.Compiled.Targets
import RequestBinding.Proofs.Resolution.Steps

/-!
How often the body is decoded.  Main statement: in a run the body is decoded at most once, and that
as soon as any parameter takes the payload of a body that is not blank; every parameter that takes
the payload has what was decoded then, or the violation that it could not be.
-/
namespace RequestBinding
variable {n : Nat}

/-- The parameter takes the body as it is: no other parameter takes the body, and it takes bytes. -/
def Compiled.TakesBytes (x : Compiled n) (f : Field (Need (Compiled n))) : Prop :=
  x.bodies ≤ 1 ∧ f.schema.bare matches .bytes

/-- The extractor is for a body parameter, of the handler or of one it depends on, that does not
take the body as it is. -/
def Compiled.TakesPayload (root : Compiled n) (e : Extractor) : Prop :=
  ∃ x, root.Part x ∧ ∃ f ∈ x.binding.fields,
    f.feed = .extract e ∧ f.source = .body ∧ ¬x.TakesBytes f

inductive Deed.Extracts (r : Request) (e : Extractor) : Deed (Session n) → Prop
  | intro {β : Type} (g : Bound → β) (s : Session n) :
      Extracts r e ⟨fun s => some (g (e.apply r s).1, (e.apply r s).2), s⟩

theorem Deed.Extracts.exists_after {r : Request} {e : Extractor} {d : Deed (Session n)}
    (h : d.Extracts r e) : ∃ b, d.act d.before = some (b, (e.apply r d.before).2) := by
  cases h with
  | intro g s => exact ⟨_, rfl⟩

section
variable {catalogue : Catalogue n} {config : Config n} {route : RoutePattern} {method : Method}
  {root x : Compiled n} {f : Field (Need (Compiled n))} {e : Extractor} {decoder : Decoder}
  {r : Request} {start s t : Session n}

theorem isRaw_eq_false_iff {t : Target} {embed : Bool} :
    Extractor.isRaw t embed = false ↔ ¬(embed = false ∧ t.schema.bare matches .bytes) := by
  unfold Extractor.isRaw
  cases embed <;> cases t.schema.bare <;> simp

theorem Compiled.Declared.body_iff (h : Declared catalogue config route method x)
    (hf : f ∈ x.binding.fields) (he : f.feed = .extract e) :
    (f.source = .body ∧ ¬x.TakesBytes f) ↔
      ∃ t embed, e = .body t embed config.decoder ∧ Extractor.isRaw t embed = false := by
  obtain ⟨key, found, _⟩ := h.extractor hf he
  constructor
  · rintro ⟨source, whole⟩
    rw [source] at found
    cases found
    refine ⟨_, _, rfl, isRaw_eq_false_iff.2 fun raw => whole ⟨?_, raw.2⟩⟩
    simpa using raw.1
  · rintro ⟨t, embed, rfl, whole⟩
    have source : f.source = .body := by rw [Field.source, he]; rfl
    rw [source] at found
    cases found
    refine ⟨source, fun takes => isRaw_eq_false_iff.1 whole ⟨?_, takes.2⟩⟩
    simpa using takes.1

theorem Compiled.Faithful.exists_body (faithful : root.Faithful catalogue config route method)
    (h : root.TakesPayload e) :
    ∃ t embed, e = .body t embed config.decoder ∧ Extractor.isRaw t embed = false := by
  obtain ⟨x, hx, f, hf, he, takes⟩ := h
  exact ((faithful x hx).body_iff hf he).1 takes

/-- The session has the same payload, and the body was not decoded meanwhile. -/
def Session.SamePayload (s t : Session n) : Prop :=
  t.scope.body = s.scope.body ∧ t.decodes = s.decodes

theorem samePayload_apply (h : ∀ t embed d, e = .body t embed d → Extractor.isRaw t embed = true)
    (r : Request) (s : Session n) : s.SamePayload (e.apply r s).2 :=
  e.snd_apply r s ⟨rfl, rfl⟩
    (fun t embed d body whole => absurd (h t embed d body) (Bool.eq_false_iff.1 whole)) ⟨rfl, rfl⟩
    fun _ => ⟨by rw [Session.scope_receive]; rfl, rfl⟩

/-- How often a body is decoded when its payload is asked for first. -/
def decodings (body : Bytes) : Nat := if body.all Text.isBlankByte then 0 else 1

theorem body_apply {t : Target} {embed : Bool} (whole : Extractor.isRaw t embed = false)
    (reads : s.Reads decoder r.body) :
    let after := ((Extractor.body t embed decoder).apply r s).2
    after.scope.body = some (decoder.read r.body) ∧
      after.decodes = s.decodes + if s.scope.body.isSome then 0 else decodings r.body := by
  simp only [Extractor.apply_body, whole, Session.payload_eq, Bool.false_eq_true, if_false]
  cases hp : s.scope.body with
  | some p => simp [hp, reads p hp]
  | none => cases blank : r.body.all Text.isBlankByte <;> simp [decodings, blank]

theorem bound_apply {t : Target} {embed : Bool} (whole : Extractor.isRaw t embed = false)
    (reads : s.Reads decoder r.body) : ((Extractor.body t embed decoder).apply r s).1 =
      Extractor.bindDecoded (decoder.read r.body) t embed := by
  rw [Extractor.apply_body, whole, if_neg Bool.false_ne_true, (Extractor.read_payload reads).1]

/-- A step keeps the payload unless it binds a parameter that takes it. -/
theorem Compiled.Does.samePayload_or (faithful : root.Faithful catalogue config route method)
    {β : Type} {act : Session n → Option (β × Session n)} (h : root.Does r β act) {b : β}
    (moved : act s = some (b, t)) : s.SamePayload t ∨
      ∃ e, root.TakesPayload e ∧ Deed.Extracts r e ⟨act, s⟩ := by
  cases h with
  | @extract _ x f e g hx hf he =>
    cases moved
    by_cases takes : f.source = .body ∧ ¬x.TakesBytes f
    · exact .inr ⟨e, ⟨x, hx, f, hf, he, takes⟩, .intro g s⟩
    · refine .inl (samePayload_apply (fun t embed d hd => ?_) r s)
      subst hd
      have own := (faithful x hx).decoder hf he
      rw [(faithful x hx).body_iff hf he] at takes
      by_contra whole
      exact takes ⟨t, embed, by rw [own], by simpa using whole⟩
  | turn ticket _ =>
    obtain ⟨_, _, eq⟩ := Option.map_eq_some_iff.1 moved
    cases eq
    exact .inl ⟨rfl, rfl⟩
  | accept reply =>
    cases reply with
    | arg a =>
      cases moved
      exact .inl ⟨rfl, rfl⟩
    | object content =>
      cases moved
      exact .inl ⟨rfl, rfl⟩
  | _ =>
    cases moved
    exact .inl ⟨rfl, rfl⟩

/-- Whether the payload was taken in some steps, and what the session has of it. -/
inductive Session.Payloads (root : Compiled n) (decoder : Decoder) (r : Request)
    (start : Session n) (ds : List (Deed (Session n))) (s : Session n) : Prop
  | untouched : (∀ d ∈ ds, ∀ e, root.TakesPayload e → ¬d.Extracts r e) → s.scope.body = none →
      s.decodes = start.decodes → Payloads root decoder r start ds s
  | taken : (∃ d ∈ ds, ∃ e, root.TakesPayload e ∧ d.Extracts r e) →
      s.scope.body = some (decoder.read r.body) →
      s.decodes = start.decodes + decodings r.body → Payloads root decoder r start ds s

theorem Session.Payloads.reads {ds : List (Deed (Session n))}
    (h : start.Payloads root decoder r ds s) : s.Reads decoder r.body := by
  intro p hp
  cases h with
  | untouched _ none _ => simp [none] at hp
  | taken _ some _ =>
    rw [some] at hp
    exact (Option.some.inj hp).symm

theorem Session.Payloads.step (faithful : root.Faithful catalogue config route method)
    {ds : List (Deed (Session n))} (h : start.Payloads root config.decoder r ds s) {β : Type}
    {act : Session n → Option (β × Session n)} (does : root.Does r β act) {b : β}
    (moved : act s = some (b, t)) :
    start.Payloads root config.decoder r (ds ++ [⟨act, s⟩]) t := by
  have decoded {e : Extractor} (takes : root.TakesPayload e)
      (extracts : Deed.Extracts r e ⟨act, s⟩) : t.scope.body = some (config.decoder.read r.body) ∧
        t.decodes = s.decodes + if s.scope.body.isSome then 0 else decodings r.body := by
    obtain ⟨target, embed, rfl, whole⟩ := faithful.exists_body takes
    obtain ⟨b', after⟩ := extracts.exists_after
    have same : t = _ := congrArg Prod.snd (Option.some.inj (moved.symm.trans after))
    rw [same]
    exact body_apply whole h.reads
  rcases does.samePayload_or faithful moved with ⟨body, decodes⟩ | ⟨e, takes, extracts⟩
  · cases h with
    | untouched idle none count =>
      refine .untouched (fun d hd e takes extracts => ?_) (body.trans none) (decodes.trans count)
      rcases List.mem_append.1 hd with hd | hd
      · exact idle d hd e takes extracts
      · -- after such a step there is a payload
        rw [List.mem_singleton.1 hd] at extracts
        have some := (decoded takes extracts).1
        rw [body, none] at some
        nomatch some
    | taken used some count =>
      obtain ⟨d, hd, used⟩ := used
      exact .taken ⟨d, by simp [hd], used⟩ (body.trans some) (decodes.trans count)
  · obtain ⟨some, count⟩ := decoded takes extracts
    refine .taken ⟨⟨act, s⟩, by simp, e, takes, extracts⟩ some (count.trans ?_)
    cases h with
    | untouched _ none before => simp [none, before]
    | taken _ held before => simp [held, before]

theorem Session.payloads_fresh (fresh : s.scope = {}) :
    s.Payloads root decoder r [] s :=
  .untouched (by simp) (by rw [fresh]) rfl

theorem Compiled.Faithful.payloads_of_runs (faithful : root.Faithful catalogue config route method)
    (fresh : s.scope = {}) {ds : List (Deed (Session n))} {q : Routine (Session n) Injected}
    (runs : Routine.Runs ((root.injector catalogue).inject r) s ds q t) :
    s.Payloads root config.decoder r ds t ∧
      ∀ d ∈ ds, d.before.Reads config.decoder r.body := by
  let J (ds : List (Deed (Session n))) (u : Session n) : Prop :=
    s.Payloads root config.decoder r ds u ∧ ∀ d ∈ ds, d.before.Reads config.decoder r.body
  have start : J [] s := ⟨s.payloads_fresh fresh, by simp⟩
  refine runs.keeps ?_ (root.consists_inject catalogue r) start
  intro ds u v β act b does ⟨payloads, reads⟩ moved
  refine ⟨payloads.step faithful does moved, fun d hd => ?_⟩
  rcases List.mem_append.1 hd with hd | hd
  · exact reads d hd
  · rw [List.mem_singleton.1 hd]
    exact payloads.reads

/-- In every run on a fresh scope the body is decoded at most once, and it is decoded exactly if a
parameter was bound that takes the payload and the body is not blank.  All these parameters have
what the decoder makes of the body, or its violation. -/
theorem Compiled.decoded_at_most_once {compiler : Compiler n} {id : Fin n} {pattern : String}
    {c : Compiled n} (compiled : (compiler.compile catalogue id method pattern).1 = .ok c)
    (fresh : s.scope = {}) {ds : List (Deed (Session n))} {q : Routine (Session n) Injected}
    (runs : Routine.Runs ((c.injector catalogue).inject r) s ds q t) :
    (t.decodes = s.decodes ∨ t.decodes = s.decodes + 1) ∧
      (t.decodes = s.decodes + 1 ↔ (∃ d ∈ ds, ∃ e, c.TakesPayload e ∧ d.Extracts r e) ∧
        ∃ byte ∈ r.body, Text.isBlankByte byte = false) ∧
      ∀ d ∈ ds, ∀ e, c.TakesPayload e → d.Extracts r e → ∃ target embed,
        e = .body target embed compiler.config.decoder ∧ (e.apply r d.before).1 =
          Extractor.bindDecoded (compiler.config.decoder.read r.body) target embed := by
  obtain ⟨route, _, _, faithful⟩ := faithful_of_compile compiled
  obtain ⟨payloads, reads⟩ := faithful.payloads_of_runs fresh runs
  have blank : decodings r.body = 0 ∧ (¬∃ byte ∈ r.body, Text.isBlankByte byte = false) ∨
      decodings r.body = 1 ∧ ∃ byte ∈ r.body, Text.isBlankByte byte = false := by
    unfold decodings
    cases all : r.body.all Text.isBlankByte with
    | true => exact .inl ⟨rfl, by simpa using all⟩
    | false => exact .inr ⟨rfl, by simpa using all⟩
  refine ⟨?_, ?_, fun d hd e takes _ => ?_⟩
  · cases payloads with
    | untouched _ _ count => exact .inl count
    | taken _ _ count => omega
  · cases payloads with
    | untouched idle _ count =>
      refine iff_of_false (by omega) ?_
      rintro ⟨⟨d, hd, e, takes, extracts⟩, _⟩
      exact idle d hd e takes extracts
    | taken used _ count =>
      rcases blank with ⟨none, blank⟩ | ⟨one, full⟩
      · exact iff_of_false (by omega) fun ⟨_, full⟩ => blank full
      · exact iff_of_true (by omega) ⟨used, full⟩
  · obtain ⟨target, embed, rfl, whole⟩ := faithful.exists_body takes
    exact ⟨target, embed, rfl, bound_apply whole (reads d hd)⟩

end

def wholeBody : Decoder := { decode := fun body => .ok (.bytes body) }

def auditedCreate : Catalogue 2
  | 0 => {
      name := "audit"
      params := [{ name := "entry", marker? := some .body }]
      work := .async 0 fun _ => .ok (.arg (.value .null)) }
  | 1 => {
      name := "create"
      params := [{ name := "item", marker? := some .body },
        { name := "audit", marker? := some (.depends ⟨0, true⟩) }]
      work := .async 0 fun _ => .ok (.arg (.value .null)) }

def compiledAudit : Compiled 2 := .mk ⟨0, "audit", true, .post, ⟨"/", []⟩, true,
  [{ name := "entry", schema := .any,
     feed := .extract (.body ⟨"entry", .any, none⟩ false wholeBody) }]⟩

def compiledCreate : Compiled 2 := .mk ⟨1, "create", true, .post, ⟨"/", []⟩, true,
  [{ name := "item", schema := .any, feed := .extract (.body ⟨"item", .any, none⟩ false wholeBody) },
    { name := "audit", schema := .any, feed := .dependency ⟨true, compiledAudit⟩ }]⟩

theorem compile_auditedCreate :
    (({ config := { decoder := wholeBody } } : Compiler 2).compile auditedCreate 1 .post "/").1 =
      .ok compiledCreate := by
  have audit (underWay fresh) : compileHandler auditedCreate { decoder := wholeBody } ⟨"/", []⟩
      .post underWay (({ decoder := wholeBody } : Config 2).resolve 0) fresh =
        pure compiledAudit := by
    rw [compileHandler_eq fresh [⟨{ name := "entry", marker? := some .body }, .body, "entry"⟩] rfl]
    simp only [compileFields, Placement.depends?]
    rfl
  rw [fst_compile_root, compileHandler_eq (by simp)
    [⟨{ name := "item", marker? := some .body }, .body, "item"⟩,
      ⟨{ name := "audit", marker? := some (.depends ⟨0, true⟩) }, .dependency, "audit"⟩] rfl]
  simp only [compileFields, Placement.depends?, audit]
  rfl

theorem moves_auditedCreate : ∃ (args : CallArgs) (t : Session 2),
    Routine.Moves ((compiledCreate.injector auditedCreate).inject
      { method := .post, path := "/", body := [1] }) {} (.done (.ok args)) t ∧ t.decodes = 1 :=
  ⟨_, _, Routine.moves_of_along
    (show Routine.along [[], [], [], [], [], [], []] _ _ = some (_, _) from rfl), rfl⟩

theorem Compiled.decoded_at_most_once_audited :
    let compiler : Compiler 2 := { config := { decoder := wholeBody } }
    let r : Request := { method := .post, path := "/", body := [1] }
    ∃ (s t : Session 2) (ds : List (Deed (Session 2))) (q : Routine (Session 2) Injected),
      (compiler.compile auditedCreate 1 .post "/").1 = .ok compiledCreate ∧ s.scope = {} ∧
      Routine.Runs ((compiledCreate.injector auditedCreate).inject r) s ds q t ∧
      t.decodes = s.decodes + 1 ∧
      (t.decodes = s.decodes ∨ t.decodes = s.decodes + 1) ∧
      (t.decodes = s.decodes + 1 ↔
        (∃ d ∈ ds, ∃ e, compiledCreate.TakesPayload e ∧ d.Extracts r e) ∧
          ∃ byte ∈ r.body, Text.isBlankByte byte = false) ∧
      ∀ d ∈ ds, ∀ e, compiledCreate.TakesPayload e → d.Extracts r e → ∃ target embed,
        e = .body target embed wholeBody ∧ (e.apply r d.before).1 =
          Extractor.bindDecoded (wholeBody.read r.body) target embed := by
  obtain ⟨args, t, moves, count⟩ := moves_auditedCreate
  obtain ⟨ds, runs⟩ := moves.exists_runs
  exact ⟨{}, t, ds, _, compile_auditedCreate, rfl, runs, count,
    decoded_at_most_once compile_auditedCreate rfl runs⟩

end RequestBinding
