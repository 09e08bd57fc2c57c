import RequestBinding.Proofs.Contents.Agreement
import RequestBinding.Proofs.Injector.Signature

/-!
Where arguments come from.  Parts of the work know calls that have begun and arguments with their
contents, and every cached value was there at the start or was given by a call since then.  Main
statement: the arguments that an injector makes fit the declared parameters, and each of them is
what its own parameter takes: the request, what its extractor comes to, or a result of its
dependency.
-/
namespace RequestBinding
variable {n : Nat}

def Catalogue.Gave (catalogue : Catalogue n) (k : Call n) (a : Arg) : Prop :=
  ∃ reply, catalogue.answer k = .ok reply ∧ reply.Becomes a

/-- A call of the handler since the start came to the argument. -/
def Session.Gained (catalogue : Catalogue n) (start s : Session n) (d : Fin n) (a : Arg) : Prop :=
  ∃ k ∈ s.callsSince start, k.handler = d ∧ catalogue.Gave k a

/-- The argument is what the field takes: the request, or what the extractor comes to, by contents
if the body was not read otherwise before the start, or a result of the dependency, made since the
start or shared from before. -/
inductive Field.Takes (catalogue : Catalogue n) (decoder : Decoder) (r : Request)
    (start s : Session n) (f : Field (Need (Compiled n))) : Arg → Prop
  | request : f.feed = .request → Takes catalogue decoder r start s f (.request r)
  | extract {e : Extractor} {a : Arg} (u : Session n) : f.feed = .extract e →
      (e.apply r u).1 = .ok a →
      (start.Reads decoder r.body → e.reading r = .ok (a.content s.uploads)) →
      Takes catalogue decoder r start s f a
  | made {d : Need (Compiled n)} {a : Arg} : f.feed = .dependency d →
      start.Gained catalogue s d.target.binding.handler a → Takes catalogue decoder r start s f a
  | shared {d : Need (Compiled n)} {a : Arg} : f.feed = .dependency d → d.useCache = true →
      start.scope.cached? d.target.binding.handler = some a →
      Takes catalogue decoder r start s f a

/-- The calls have begun since the start, the contents are those in the store, and every cached
value was there at the start or was given by a call since then. -/
structure Session.Traces (catalogue : Catalogue n) (decoder : Decoder) (r : Request)
    (start : Session n) (g : Multiset (Call n) × Known) (s : Session n) : Prop where
  logged : start.calls <+: s.calls
  calls : ∀ k ∈ g.1, k ∈ s.callsSince start
  known : g.2.Holds s.uploads
  reads : start.Reads decoder r.body → s.Reads decoder r.body
  cached : ∀ d a, s.scope.cached? d = some a →
    start.scope.cached? d = some a ∨ start.Gained catalogue s d a

/-- The calls and the contents that parts of the work know.  Nothing is said about waiting. -/
def origins (catalogue : Catalogue n) (decoder : Decoder) (r : Request) (start : Session n) :
    Custody (Session n) (Multiset (Call n) × Known) := .ofKeeps (start.Traces catalogue decoder r)

section
variable {catalogue : Catalogue n} {decoder : Decoder} {r : Request} {start s t : Session n}
  {b : Nat} {g h : Multiset (Call n) × Known}

theorem free_origins : (origins catalogue decoder r start).Free g :=
  Custody.free_ofKeeps

theorem Session.callsSince_subset (logged : start.calls <+: s.calls) (more : s.calls <+: t.calls) :
    s.callsSince start ⊆ t.callsSince start := by
  obtain ⟨calls, eq⟩ := more
  rw [callsSince, callsSince, ← eq, List.drop_append_of_le_length logged.length_le]
  exact List.subset_append_left _ _

theorem Session.Gained.mono {d : Fin n} {a : Arg} (gained : start.Gained catalogue s d a)
    (logged : start.calls <+: s.calls) (more : s.calls <+: t.calls) :
    start.Gained catalogue t d a :=
  gained.imp fun _ ⟨hk, given⟩ => ⟨callsSince_subset logged more hk, given⟩

namespace Session.Traces

theorem later (traces : start.Traces catalogue decoder r g s) (more : s.calls <+: t.calls)
    (grown : s.uploads.Extends t.uploads)
    (reads : s.Reads decoder r.body → t.Reads decoder r.body)
    (cached : ∀ d a, t.scope.cached? d = some a →
      s.scope.cached? d = some a ∨ start.Gained catalogue t d a) :
    start.Traces catalogue decoder r g t where
  logged := traces.logged.trans more
  calls k hk := callsSince_subset traces.logged more (traces.calls k hk)
  known := traces.known.grown grown
  reads own := reads (traces.reads own)
  cached d a ha := (cached d a ha).elim
    (fun old => (traces.cached d a old).imp_right fun gained => gained.mono traces.logged more)
    .inr

theorem add_iff : start.Traces catalogue decoder r (g + h) s ↔
    start.Traces catalogue decoder r g s ∧ start.Traces catalogue decoder r h s := by
  constructor
  · intro traces
    have known := Known.holds_add_iff.1 traces.known
    exact ⟨{ traces with calls := fun k hk => traces.calls k (by simp [hk]), known := known.1 },
      { traces with calls := fun k hk => traces.calls k (by simp [hk]), known := known.2 }⟩
  · intro ⟨hg, hh⟩
    exact { hg with
      calls := fun k hk => (Multiset.mem_add.1 hk).elim (hg.calls k) (hh.calls k)
      known := Known.holds_add_iff.2 ⟨hg.known, hh.known⟩ }

end Session.Traces

/-- A step keeps what others know, and comes to know something itself. -/
theorem meets_traced {α : Type} {act : StateM (Session n) α}
    {post : α → Multiset (Call n) × Known → Prop}
    (kept : ∀ s k, start.Traces catalogue decoder r k s →
      start.Traces catalogue decoder r k (act s).2)
    (known : ∀ s, start.Traces catalogue decoder r g s →
      ∃ g', start.Traces catalogue decoder r g' (act s).2 ∧ post (act s).1 g') :
    (origins catalogue decoder r start).Meets (Routine.act act) b g post := by
  refine Custody.meets_act fun f s traces => ?_
  obtain ⟨own, others⟩ := Session.Traces.add_iff.1 traces
  obtain ⟨g', own', hg'⟩ := known s own
  exact ⟨g', Session.Traces.add_iff.2 ⟨own', kept s f others⟩, hg'⟩

theorem extends_payload (body : Bytes) (s : Session n) :
    (Session.payload decoder body s).2.uploads = s.uploads := by
  rw [Session.payload_eq]
  split <;> rfl

theorem extends_apply (e : Extractor) (r : Request) (s : Session n) :
    s.uploads.Extends (e.apply r s).2.uploads :=
  e.snd_apply (P := fun t => s.uploads.Extends t.uploads) r s (.refl _)
    (fun _ _ _ _ _ => extends_payload r.body s ▸ .refl _) (.refl _)
    fun parts => (s.uploads.addAll_spec parts).1

theorem cached?_apply (e : Extractor) (r : Request) (s : Session n) :
    (e.apply r s).2.scope.cached? = s.scope.cached? := by
  funext d
  simp [Scope.cached?, (e.aside_apply r s).2.1]

def Known.Of (decoder : Decoder) (r : Request) (start : Session n) (e : Extractor) (x : Bound)
    (g : Multiset (Call n) × Known) : Prop :=
  match x with
  | .ok a => (∃ u : Session n, (e.apply r u).1 = .ok a) ∧ (start.Reads decoder r.body →
      ∃ content, e.reading r = .ok content ∧ g = (0, {(a, content)}))
  | .error vs => vs ≠ []

theorem meets_appliedTraced {e : Extractor}
    (own : ∀ t embed d, e = .body t embed d → d = decoder) :
    (origins catalogue decoder r start).Meets (Routine.act (e.apply r)) b 0
      (Known.Of decoder r start e) := by
  have kept (s : Session n) (k : Multiset (Call n) × Known)
      (traces : start.Traces catalogue decoder r k s) :
      start.Traces catalogue decoder r k (e.apply r s).2 :=
    traces.later ((e.aside_apply r s).1 ▸ List.prefix_refl _) (extends_apply e r s)
      (fun reads => (e.read_apply own reads).reads)
      fun d a ha => .inl (cached?_apply e r s ▸ ha)
  refine meets_traced kept fun s traces => ?_
  cases hx : (e.apply r s).1 with
  | error vs =>
    have explained := e.apply_ne_error_nil r s
    exact ⟨0, kept s 0 traces, fun none => explained (by rw [hx, none])⟩
  | ok a =>
    by_cases reads : start.Reads decoder r.body
    · have read := e.read_apply own (traces.reads reads)
      have content := read.content
      rw [hx] at content
      refine ⟨(0, {(a, a.content (e.apply r s).2.uploads)}), ?_, ⟨s, hx⟩, fun _ =>
        ⟨_, content.symm, rfl⟩⟩
      refine { kept s 0 traces with known := fun p hp => ?_ }
      rw [Multiset.mem_singleton.1 hp]
      exact ⟨read.stored a hx, rfl⟩
    · exact ⟨0, kept s 0 traces, ⟨s, hx⟩, fun own => absurd own reads⟩

def Given (catalogue : Catalogue n) (d : Fin n) (x : Resolved)
    (g : Multiset (Call n) × Known) : Prop :=
  ∀ a, x = .ok a → ∃ k ∈ g.1, k.handler = d ∧ catalogue.Gave k a

theorem meets_beginCallTraced (d : Fin n) (args : CallArgs) :
    (origins catalogue decoder r start).Meets (Routine.act (Session.beginCall d args)) b g
      fun i g => ∃ k ∈ g.1, k.handler = d ∧ k.invocation = i := by
  have kept (s : Session n) (k : Multiset (Call n) × Known)
      (traces : start.Traces catalogue decoder r k s) :
      start.Traces catalogue decoder r k (Session.beginCall d args s).2 :=
    traces.later (List.prefix_append _ _) (.refl _) id fun _ _ => .inl
  refine meets_traced kept fun s traces => ?_
  let k : Call n := ⟨d, s.callCount d + 1, args, s.uploads⟩
  refine ⟨({k}, 0), { kept s g traces with
    calls := fun l hl => ?_, known := fun _ => nofun }, k, by simp, rfl, rfl⟩
  rw [Multiset.mem_singleton.1 hl]
  change k ∈ (s.calls ++ [k]).drop start.calls.length
  rw [List.drop_append_of_le_length traces.logged.length_le]
  exact List.mem_append_right _ (List.mem_singleton_self k)

theorem meets_callTraced (d : Fin n) (args : CallArgs) :
    (origins catalogue decoder r start).Meets (catalogue.call d args) b g
      (Given catalogue d) := by
  refine (Custody.meets_pauses _).bind fun _ g hg => ?_
  subst hg
  refine (meets_beginCallTraced d args).bind fun i g begun => ?_
  refine (Custody.meets_pauses _).bind fun _ g' hg => ?_
  subst hg
  obtain ⟨k, hk, rfl, rfl⟩ := begun
  cases answer : (catalogue k.handler).reply k.invocation with
  | error fault => exact Custody.meets_done fun _ h => nomatch h
  | ok reply =>
    have accepted : (origins catalogue decoder r start).Meets
        (Routine.act (Session.accept reply)) b g' fun a g => g = g' ∧ reply.Becomes a := by
      refine Custody.meets_act fun f s traces => ⟨g', ?_, rfl, becomes_accept reply s⟩
      cases reply with
      | arg a => exact traces
      | object content =>
        exact Session.Traces.later traces (List.prefix_refl _) (.refl _) id fun _ _ => .inl
    refine accepted.bind fun a g ⟨hg, becomes⟩ => Custody.meets_done ?_
    rintro _ ⟨⟩
    exact ⟨k, hg ▸ hk, rfl, reply, answer, becomes⟩

def Obtained (catalogue : Catalogue n) (start : Session n) (e : Need (Compiled n)) (x : Resolved)
    (g : Multiset (Call n) × Known) : Prop :=
  ∀ a, x = .ok a → e.useCache = true ∧ start.scope.cached? e.target.binding.handler = some a ∨
    ∃ k ∈ g.1, k.handler = e.target.binding.handler ∧ catalogue.Gave k a

theorem meets_enterTraced (d : Fin n) : (origins catalogue decoder r start).Meets
    (Routine.act (Session.enter d)) b 0 fun _ g => g = 0 :=
  Custody.meets_act fun _ s traces => ⟨0, Session.Traces.later traces (List.prefix_refl _) (.refl _)
    id fun _ _ ha => .inl (s.scope.cached?_enter d s.tickets ▸ ha), rfl⟩

theorem meets_turnTraced {e : Need (Compiled n)} (shared : e.useCache = true) (ticket : Nat) :
    (origins catalogue decoder r start).Meets
      (Routine.await (Session.turn e.target.binding.handler ticket)) b 0 fun found g =>
        match found with
        | some a => Obtained catalogue start e (.ok a) g
        | none => g = 0 := by
  refine fun f s traces => ⟨fun _ orderly => orderly.elim, fun found t ht => ?_⟩
  obtain ⟨_, turn, eq⟩ := Option.map_eq_some_iff.1 ht
  cases eq
  cases found with
  | none => exact ⟨0, traces, Custody.meets_done rfl⟩
  | some a =>
    have value := Scope.turn?_eq_some_some_iff.1 turn
    rcases Session.Traces.cached traces _ a (by rw [Scope.cached?_eq, value]) with
      old | ⟨k, hk, given⟩
    · refine ⟨0, traces, Custody.meets_done ?_⟩
      rintro _ ⟨⟩
      exact .inl ⟨shared, old⟩
    · have own : start.Traces catalogue decoder r ({k}, 0) s :=
        { (Session.Traces.add_iff.1 traces).1 with
          calls := fun l hl => Multiset.mem_singleton.1 hl ▸ hk }
      have others := (Session.Traces.add_iff.1 traces).2
      refine ⟨({k}, 0), Session.Traces.add_iff.2 ⟨own, others⟩, Custody.meets_done ?_⟩
      rintro _ ⟨⟩
      exact .inr ⟨k, Multiset.mem_singleton_self k, given⟩

theorem meets_leaveTraced {d : Fin n} {x : Resolved} (given : Given catalogue d x g)
    (ticket : Nat) : (origins catalogue decoder r start).Meets
      (Routine.act (Session.leave d ticket x.toOption)) b g fun _ g' => g' = g := by
  refine Custody.meets_act fun f s traces => ⟨g, ?_, rfl⟩
  have own := (Session.Traces.add_iff.1 traces).1
  refine Session.Traces.later traces (List.prefix_refl _) (.refl _) id fun e a ha => ?_
  cases x with
  | error fault =>
    change (s.scope.leave d ticket none).cached? e = some a at ha
    rw [Scope.cached?_leave_none] at ha
    exact .inl ha
  | ok result =>
    change (s.scope.leave d ticket (some result)).cached? e = some a at ha
    rw [Scope.cached?_leave_some] at ha
    by_cases he : e = d
    · subst he
      rw [Function.update_self] at ha
      cases ha
      obtain ⟨k, hk, gave⟩ := given a rfl
      exact .inr ⟨k, own.calls k hk, gave⟩
    · rw [Function.update_of_ne he] at ha
      exact .inl ha

theorem meets_resolveTraced {e : Need (Compiled n)} (shared : e.useCache = true)
    {make : Routine (Session n) Resolved} (made : (origins catalogue decoder r start).Meets make b 0
      (Given catalogue e.target.binding.handler)) :
    (origins catalogue decoder r start).Meets (resolveCached e.target.binding.handler make) b 0
      (Obtained catalogue start e) := by
  refine (meets_enterTraced _).bind fun ticket g hg => ?_
  subst hg
  refine (meets_turnTraced shared ticket).bind fun found g turned => ?_
  cases found with
  | some a => exact Custody.meets_done turned
  | none =>
    subst turned
    refine made.bind fun x g given => (meets_leaveTraced given ticket).bind fun _ g' hg => ?_
    subst hg
    exact Custody.meets_done fun a ha => .inr (given a ha)

section
variable {root : Compiled n} {config : Config n} {route : RoutePattern} {method : Method}

theorem fares_traced (faithful : root.Faithful catalogue config route method) {x : Compiled n}
    (hx : root.Part x) (h : ∀ e ∈ x.needs, (origins catalogue config.decoder r start).Meets
      (e.target.produce catalogue r) b 0 (Given catalogue e.target.binding.handler)) :
    Fares (origins catalogue config.decoder r start) catalogue r b 0
      (Known.Of config.decoder r start) (Obtained catalogue start) x.binding.fields where
  form := Custody.meets_act fun _ _ traces => ⟨0, Session.Traces.later traces (List.prefix_refl _)
    (.refl _) id fun _ _ => .inl, rfl⟩
  extract f hf e he := meets_appliedTraced fun t embed d hd => (faithful x hx).decoder hf (hd ▸ he)
  resolve f hf e he := by
    have made := h e (Compiled.mem_needs_iff.2 ⟨f, hf, he⟩)
    rw [resolve_linkNeed]
    refine Custody.Meets.mono ?_ fun _ _ => returns_zero.2
    split
    · next shared => exact meets_resolveTraced shared made
    · exact made.mono fun x g given a ha => .inr (given a ha)
  free_share := free_origins
  free_bound _ _ _ _ := free_origins
  free_resolved _ _ _ _ := free_origins

theorem meets_produceTraced (faithful : root.Faithful catalogue config route method)
    {x : Compiled n} (hx : root.Part x) : (origins catalogue config.decoder r start).Meets
      (x.produce catalogue r) b 0 (Given catalogue x.binding.handler) := by
  induction x using Compiled.induction with
  | step x ih =>
    have fares : Fares (origins catalogue config.decoder r start) catalogue r b 0
        (Known.Of config.decoder r start) (Obtained catalogue start) x.binding.fields :=
      fares_traced faithful hx fun e he => ih e he (hx.need he)
    have made := fares.inject fun _ => rfl
    refine made.bind fun out g _ => ?_
    cases out with
    | error fault => exact Custody.meets_done fun _ h => nomatch h
    | ok args => exact meets_callTraced x.binding.handler args

theorem takes_of_gathered {fields : List (Field (Need (Compiled n)))} {as : List Arg}
    (gathered : Custody.Gathered (Supplies (Known.Of decoder r start) (Obtained catalogue start) r)
      fields as g) (traces : start.Traces catalogue decoder r g s) :
    List.Forall₂ (Field.Takes catalogue decoder r start s) fields as := by
  induction gathered with
  | nil => exact .nil
  | @cons f fs a as k g supplied _ ih =>
    obtain ⟨own, others⟩ := Session.Traces.add_iff.1 traces
    refine .cons ?_ (ih others)
    unfold Supplies at supplied
    cases hf : f.feed with
    | request =>
      rw [hf] at supplied
      exact supplied.1 ▸ .request hf
    | extract e =>
      rw [hf] at supplied
      obtain ⟨⟨u, applied⟩, content⟩ := supplied
      refine .extract u hf applied fun reads => ?_
      obtain ⟨content, reading, rfl⟩ := content reads
      rw [reading, (own.known _ (Multiset.mem_singleton_self _)).2]
    | dependency e =>
      rw [hf] at supplied
      rcases supplied a rfl with ⟨shared, old⟩ | ⟨k, hk, given⟩
      · exact .shared hf shared old
      · exact .made hf ⟨k, own.calls k hk, given⟩

theorem Session.traces_start (catalogue : Catalogue n) (decoder : Decoder) (r : Request)
    (start : Session n) : start.Traces catalogue decoder r 0 start where
  logged := List.prefix_refl _
  calls _ := nofun
  known _ := nofun
  reads := id
  cached _ _ := .inl

/-- Whenever an injector makes arguments, they fit the parameters that the handler declares, and
each of them is what its own field takes. -/
theorem Compiled.fits_of_injected {compiler : Compiler n} {id : Fin n} {pattern : String}
    {c : Compiled n} (compiled : (compiler.compile catalogue id method pattern).1 = .ok c)
    {args : CallArgs}
    (moves : Routine.Moves ((c.injector catalogue).inject r) s (.done (.ok args)) t) :
    ∃ values, args.Fits (catalogue id).signature values ∧
      List.Forall₂ (Field.Takes catalogue compiler.config.decoder r s t) c.binding.fields
        values := by
  obtain ⟨route, _, rfl, faithful⟩ := faithful_of_compile compiled
  have declared := faithful c .root
  have fares : Fares (origins catalogue compiler.config.decoder r s) catalogue r 0 0
      (Known.Of compiler.config.decoder r s) (Obtained catalogue s) c.binding.fields :=
    fares_traced faithful .root fun e he => meets_produceTraced faithful (.need .root he)
  have meets := fares.inject fun _ => rfl
  obtain ⟨g, traces, concluded⟩ := meets.answer (s.traces_start catalogue _ r) moves
  obtain ⟨_, values, gathered, rfl⟩ :=
    (returns_zero.1 concluded).supplied fun _ _ refused => refused rfl
  refine ⟨values, ?_, takes_of_gathered gathered traces⟩
  rw [← declared.parameters]
  exact CallArgs.fits_pushAll declared.names_nodup gathered.length_eq

end

end

def keyedSearch : Catalogue 2
  | 0 => { name := "db", work := .async 0 fun _ => .ok (.arg (.value .null)) }
  | 1 => {
      name := "search"
      params := [{ name := "key", marker? := some .query, kind := .positionalOnly },
        { name := "request" }, { name := "db", marker? := some (.depends ⟨0, true⟩) }]
      work := .async 0 fun _ => .ok (.arg (.value .null)) }

def compiledKeyedSearch : Compiled 2 :=
  .mk ⟨1, "search", true, .get, ⟨"/", []⟩, true,
    [{ name := "key", schema := .any, kind := .positionalOnly,
       feed := .extract (.query ⟨"key", .any, none⟩) },
      { name := "request", schema := .any, feed := .request },
      { name := "db", schema := .any, feed := .dependency ⟨true, compiledDb⟩ }]⟩

theorem compile_keyedSearch : (({ config := {} } : Compiler 2).compile keyedSearch 1 .get "/").1 =
    .ok compiledKeyedSearch := by
  have db (underWay fresh) : compileHandler keyedSearch {} ⟨"/", []⟩ .get underWay
      (({} : Config 2).resolve 0) fresh = pure compiledDb := by
    rw [compileHandler_eq fresh [] rfl, compileFields]
    rfl
  rw [fst_compile_root, compileHandler_eq (by simp)
    [⟨{ name := "key", marker? := some .query, kind := .positionalOnly }, .query, "key"⟩,
      ⟨{ name := "request" }, .request, "request"⟩,
      ⟨{ name := "db", marker? := some (.depends ⟨0, true⟩) }, .dependency, "db"⟩] rfl]
  simp only [compileFields, Placement.depends?, db]
  rfl

theorem moves_keyedSearch : ∃ (args : CallArgs) (t : Session 2),
    Routine.Moves ((compiledKeyedSearch.injector keyedSearch).inject
      { method := .get, path := "/", query := .ofList [("key", .string "a")] }) {}
      (.done (.ok args)) t :=
  ⟨_, _, Routine.moves_of_along
    (show Routine.along [[], [], [], [], [], [], []] _ _ = some (_, _) from rfl)⟩

theorem Compiled.fits_of_injected_keyed :
    let r : Request := { method := .get, path := "/", query := .ofList [("key", .string "a")] }
    ∃ (t : Session 2) (args : CallArgs),
      (({ config := {} } : Compiler 2).compile keyedSearch 1 .get "/").1 =
        .ok compiledKeyedSearch ∧
      Routine.Moves ((compiledKeyedSearch.injector keyedSearch).inject r) {}
        (.done (.ok args)) t ∧
      ∃ values,
        args.Fits [("key", .positionalOnly), ("request", .positionalOrKeyword),
          ("db", .positionalOrKeyword)] values ∧
        List.Forall₂ (Field.Takes keyedSearch .json r {} t) compiledKeyedSearch.binding.fields
          values := by
  obtain ⟨args, t, moves⟩ := moves_keyedSearch
  exact ⟨t, args, compile_keyedSearch, moves, fits_of_injected compile_keyedSearch moves⟩

end RequestBinding
