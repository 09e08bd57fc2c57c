import RequestBinding.Proofs.Contents.Outcome
import RequestBinding.Proofs.Resolution.Counting

/-!
Deterministic dependencies.  What parts of the work hold are arguments whose contents they know, and
every cached value is the answer of its handler.  Main statement: in whatever order the parts move,
a handler comes to its outcome, and so it makes no difference whether dependencies are resolved side
by side.
-/
namespace RequestBinding
variable {n : Nat}

abbrev Known := Multiset (Arg × Content)

def Known.Holds (known : Known) (store : UploadStore) : Prop :=
  ∀ p ∈ known, p.1.Stored store ∧ p.1.content store = p.2

/-- What is known on a session: contents of arguments, the decoded body, and cached values. -/
structure Agrees (root : Compiled n) (compute : Fin n → Compute) (decoder : Decoder) (r : Request)
    (known : Known) (s : Session n) : Prop where
  known : known.Holds s.uploads
  reads : s.Reads decoder r.body
  cached : ∀ d a, s.scope.cached? d = some a →
    ∃ v, a = .value v ∧ (root.part d).answer compute r = .ok v

/-- The contents that parts of the work know.  Nothing is said about waiting. -/
def knowledge (root : Compiled n) (compute : Fin n → Compute) (decoder : Decoder) (r : Request) :
    Custody (Session n) Known := .ofKeeps (Agrees root compute decoder r)

section
variable {root : Compiled n} {compute : Fin n → Compute} {decoder : Decoder} {r : Request} {b : Nat}
  {g : Known} {s t : Session n} {catalogue : Catalogue n}

theorem free_knowledge : (knowledge root compute decoder r).Free g :=
  Custody.free_ofKeeps

theorem Known.Holds.grown {store store' : UploadStore} (h : g.Holds store)
    (grown : store.Extends store') : g.Holds store' := fun p hp =>
  ⟨grown.stored (h p hp).1, (grown.argContent_eq (h p hp).1).trans (h p hp).2⟩

theorem Known.holds_add_iff {h : Known} {store : UploadStore} :
    Known.Holds (g + h) store ↔ g.Holds store ∧ h.Holds store := by
  simp only [Holds, Multiset.mem_add]
  exact ⟨fun k => ⟨fun p hp => k p (.inl hp), fun p hp => k p (.inr hp)⟩,
    fun k p hp => hp.elim (k.1 p) (k.2 p)⟩

theorem Agrees.congr (h : Agrees root compute decoder r g s) (uploads : t.uploads = s.uploads)
    (body : t.scope.body = s.scope.body) (cached : t.scope.cached? = s.scope.cached?) :
    Agrees root compute decoder r g t where
  known := uploads ▸ h.known
  reads p hp := h.reads p (body ▸ hp)
  cached d a ha := h.cached d a (cached ▸ ha)

def ReadsAs (r : Request) (e : Extractor) (x : Bound) (g : Known) : Prop :=
  match x with
  | .ok a => ∃ content, e.reading r = .ok content ∧ g = {(a, content)}
  | .error vs => e.reading r = .error vs ∧ g = 0

theorem meets_form : (knowledge root compute decoder r).Meets (Routine.act (Session.form r)) b 0
    fun _ k => k = 0 :=
  Custody.meets_act fun _ _ agrees => ⟨0, Agrees.congr agrees rfl rfl rfl, rfl⟩

theorem meets_apply {e : Extractor} (own : ∀ t embed d, e = .body t embed d → d = decoder) :
    (knowledge root compute decoder r).Meets (Routine.act (e.apply r)) b 0 (ReadsAs r e) := by
  refine Custody.meets_act fun f s agrees => ?_
  have agrees : Agrees root compute decoder r f s := by rwa [zero_add] at agrees
  have read := e.read_apply own agrees.reads
  have cached : (e.apply r s).2.scope.cached? = s.scope.cached? := by
    funext d
    simp [Scope.cached?, (e.aside_apply r s).2.1]
  have others : Agrees root compute decoder r f (e.apply r s).2 :=
    ⟨agrees.known.grown read.grown, read.reads, fun d a ha => agrees.cached d a (cached ▸ ha)⟩
  have content := read.content
  cases hx : (e.apply r s).1 with
  | ok a =>
    rw [hx] at content
    refine ⟨{(a, a.content (e.apply r s).2.uploads)}, ⟨?_, others.reads, others.cached⟩, _,
      content.symm, rfl⟩
    refine Known.holds_add_iff.2 ⟨fun p hp => ?_, others.known⟩
    rw [Multiset.mem_singleton.1 hp]
    exact ⟨read.stored a hx, rfl⟩
  | error vs =>
    rw [hx] at content
    exact ⟨0, by rwa [zero_add], content.symm, rfl⟩

def Informs (g : Known) (args : CallArgs) (contents : CallContents) : Prop :=
  ∀ store, g.Holds store → args.contents store = contents

theorem meets_callKnown {id : Fin n} (computes : (catalogue id).Computes (compute id))
    {args : CallArgs} {contents : CallContents} (informs : Informs g args contents) :
    (knowledge root compute decoder r).Meets (catalogue.call id args) b g fun x _ =>
      x = (compute id contents).map .value := by
  refine (Custody.meets_pauses _).bind fun _ k hk => ?_
  subst hk
  have begun : (knowledge root compute decoder r).Meets
      (Routine.act (Session.beginCall id args)) b k
      fun i _ => i.args.contents i.uploads = contents :=
    Custody.meets_act fun f s agrees => ⟨k, ⟨agrees.known, agrees.reads, agrees.cached⟩,
      informs s.uploads (Known.holds_add_iff.1 agrees.known).1⟩
  refine begun.bind fun i g known => ?_
  refine (Custody.meets_pauses _).bind fun _ _ _ => ?_
  rw [computes i, known]
  cases compute id contents with
  | ok v => exact fun f s agrees => ⟨nofun, by rintro _ _ ⟨⟩; exact ⟨_, agrees, rfl⟩⟩
  | error fault => exact Custody.meets_done rfl

def Answered (compute : Fin n → Compute) (r : Request) (x : Compiled n) (out : Resolved) : Prop :=
  out = (x.answer compute r).map .value

theorem meets_leaveAnswered (coherent : root.Coherent) {x : Compiled n} (hx : root.Part x)
    {out : Resolved} (answered : Answered compute r x out) (ticket : Nat) :
    (knowledge root compute decoder r).Meets
      (Routine.act (Session.leave x.binding.handler ticket out.toOption)) b g fun _ _ => True := by
  refine Custody.meets_act fun f s agrees => ⟨g, ?_, trivial⟩
  unfold Answered at answered
  cases answer : x.answer compute r with
  | ok v =>
    rw [answer] at answered
    subst answered
    refine ⟨agrees.known, agrees.reads, fun d a ha => ?_⟩
    change (s.scope.leave _ ticket (some (.value v))).cached? d = some a at ha
    rw [Scope.cached?_leave_some] at ha
    by_cases hd : d = x.binding.handler
    · subst hd
      rw [Function.update_self] at ha
      cases ha
      exact ⟨v, rfl, by rw [Compiled.part_eq coherent hx]; exact answer⟩
    · rw [Function.update_of_ne hd] at ha
      exact agrees.cached d a ha
  | error fault =>
    rw [answer] at answered
    subst answered
    exact Agrees.congr agrees rfl rfl (s.scope.cached?_leave_none _ _)

theorem meets_resolveAnswered (coherent : root.Coherent) {x : Compiled n} (hx : root.Part x)
    {make : Routine (Session n) Resolved} (h : (knowledge root compute decoder r).Meets make b 0
      fun out _ => Answered compute r x out) :
    (knowledge root compute decoder r).Meets (resolveCached x.binding.handler make) b 0
      fun out _ => Answered compute r x out := by
  have entered : (knowledge root compute decoder r).Meets
      (Routine.act (Session.enter x.binding.handler)) b 0 fun _ g => g = 0 :=
    Custody.meets_act fun f s agrees =>
      ⟨0, Agrees.congr agrees rfl rfl (s.scope.cached?_enter _ _), rfl⟩
  refine entered.bind fun ticket g hg => ?_
  subst hg
  have turned : (knowledge root compute decoder r).Meets
      (Routine.await (Session.turn x.binding.handler ticket)) b 0 fun found g => g = 0 ∧
        ∀ a, found = some a → Answered compute r x (.ok a) := by
    refine fun f s agrees => ⟨fun _ orderly => orderly.elim, fun found t ht => ?_⟩
    obtain ⟨_, turn, eq⟩ := Option.map_eq_some_iff.1 ht
    cases eq
    refine ⟨0, agrees, Custody.meets_done ⟨rfl, ?_⟩⟩
    rintro a rfl
    have value := Scope.turn?_eq_some_some_iff.1 turn
    obtain ⟨v, rfl, answer⟩ := agrees.cached _ a (by rw [Scope.cached?_eq, value])
    rw [Compiled.part_eq coherent hx] at answer
    rw [Answered, answer]
    rfl
  refine turned.bind fun found g ⟨hg, cached⟩ => ?_
  subst hg
  cases found with
  | some a => exact Custody.meets_done (cached a rfl)
  | none => exact h.bind fun out g answered =>
      (meets_leaveAnswered coherent hx answered ticket).bind fun _ _ _ =>
        Custody.meets_done answered

/-- Arguments or a fault are as the outcome says, if the arguments so far have these contents. -/
def Comes (outcome : Except Fault CallContents) (start : CallArgs) (c : CallContents)
    (out : Injected) (g : Known) : Prop :=
  match out with
  | .ok args => ∃ contents, outcome = .ok contents ∧
      ∀ store, g.Holds store → start.contents store = c → args.contents store = contents
  | .error fault => outcome = .error fault

theorem Comes.push {outcome : Except Fault CallContents} {start : CallArgs} {c : CallContents}
    {pass : Pass} {name : String} {a : Arg} {content : Content} {out : Injected} {k : Known}
    (h : Comes outcome (start.push pass name a) (c.push pass name content) out g)
    (same : ∀ store, k.Holds store → a.content store = content) :
    Comes outcome start c out (k + g) := by
  cases out with
  | error fault => exact h
  | ok args =>
    obtain ⟨contents, ok, informs⟩ := h
    refine ⟨contents, ok, fun store known begun => ?_⟩
    have ⟨own, others⟩ := Known.holds_add_iff.1 known
    exact informs store others (by rw [CallArgs.contents_push, begun, same store own])

theorem comes_of_concludes {fs : List (Field (Need (Compiled n)))} {start : Gathering}
    {out : Injected} (h : Concludes (knowledge root compute decoder r) (ReadsAs r)
      (fun d x _ => Answered compute r d.target x) r fs start out g) (c : CallContents) :
    Comes (outcomeAfter r (fun d => d.target.answer compute r) fs c start.violations) start.args c
      out g := by
  induction h generalizing c with
  | finished clean => exact ⟨c, by simp [outcomeAfter, clean], fun _ _ => id⟩
  | refused refused _ => simp [outcomeAfter, refused, Comes]
  | @request f fs start out m hf _ ih =>
    have rest := (ih (c.push f.pass f.name (.request r))).push (k := 0) fun _ _ => rfl
    simpa [outcomeAfter, hf, Gathering.push] using rest
  | @extract f fs start out k m e x hf hx _ ih =>
    cases x with
    | ok a =>
      obtain ⟨content, reading, rfl⟩ := hx
      simp only [outcomeAfter, hf, reading]
      exact (ih (c.push f.pass f.name content)).push fun store known =>
        (known _ (Multiset.mem_singleton_self _)).2
    | error vs =>
      obtain ⟨reading, rfl⟩ := hx
      simp only [outcomeAfter, hf, reading, zero_add]
      exact ih c
  | @dependency f fs start out k m d a hf hx _ ih =>
    unfold Answered at hx
    cases answer : d.target.answer compute r with
    | ok v =>
      rw [answer] at hx
      cases hx
      simp only [outcomeAfter, hf, answer]
      exact (ih (c.push f.pass f.name (.value v))).push fun _ _ => rfl
    | error fault =>
      rw [answer] at hx
      cases hx
  | @stopped f fs start k m d fault hf hx _ =>
    unfold Answered at hx
    cases answer : d.target.answer compute r with
    | ok v =>
      rw [answer] at hx
      cases hx
    | error fault =>
      rw [answer] at hx
      cases hx
      simp [Comes, outcomeAfter, hf, answer]

variable {config : Config n} {route : RoutePattern} {method : Method}

theorem fares_known (faithful : root.Faithful catalogue config route method) {x : Compiled n}
    (hx : root.Part x) (h : ∀ e ∈ x.needs, (knowledge root compute config.decoder r).Meets
      (e.target.produce catalogue r) b 0 fun out _ => Answered compute r e.target out) :
    Fares (knowledge root compute config.decoder r) catalogue r b 0 (ReadsAs r)
      (fun d out _ => Answered compute r d.target out) x.binding.fields where
  form := meets_form
  extract f hf e he := meets_apply fun t embed d hd => (faithful x hx).decoder hf (hd ▸ he)
  resolve f hf d hd := by
    have need := Compiled.mem_needs_iff.2 ⟨f, hf, hd⟩
    rw [resolve_linkNeed]
    refine Custody.Meets.mono ?_ fun _ _ => returns_zero.2
    split
    · exact meets_resolveAnswered faithful.coherent (hx.need need) (h d need)
    · exact h d need
  free_share := free_knowledge
  free_bound _ _ _ _ := free_knowledge
  free_resolved _ _ _ _ := free_knowledge

/-- Making the arguments of a handler and calling it with them comes to the answer. -/
theorem meets_produce (faithful : root.Faithful catalogue config route method)
    (computes : ∀ d, root.Reaches d → (catalogue d).Computes (compute d)) {x : Compiled n}
    (hx : root.Part x) (reached : root.Reaches x.binding.handler) :
    (knowledge root compute config.decoder r).Meets (x.produce catalogue r) b 0 fun out _ =>
      Answered compute r x out := by
  induction x using Compiled.induction with
  | step x ih =>
    have fares := fares_known (r := r) (b := b) faithful hx fun e he =>
      ih e he (hx.need he) ⟨x, hx, e, he, rfl⟩
    refine (fares.inject fun _ => rfl).bind fun out g concluded => ?_
    have comes := comes_of_concludes (returns_zero.1 concluded) {}
    simp only [Answered, Compiled.answer_eq]
    change Comes (x.outcome compute r) {} {} out g at comes
    cases out with
    | ok args =>
      obtain ⟨contents, outcome, informs⟩ := comes
      rw [outcome]
      exact meets_callKnown (computes x.binding.handler reached) fun store known =>
        informs store known rfl
    | error fault =>
      rw [show x.outcome compute r = .error fault from comes]
      exact Custody.meets_done rfl

theorem agrees_fresh (fresh : s.scope = {}) : Agrees root compute decoder r 0 s where
  known _ hp := absurd hp (Multiset.notMem_zero _)
  reads p hp := by simp [fresh] at hp
  cached d a ha := by
    rw [fresh] at ha
    nomatch ha

/-- In whatever order the parts move, the plan ends with arguments or a fault as the outcome
says. -/
def Plan.EndsWith (p : Plan n) (r : Request) (outcome : Except Fault CallContents)
    (s : Session n) : Prop :=
  (p.execute r).Ends (fun out t => out.map (CallArgs.contents t.uploads) = outcome) s

theorem endsWith_outcome (faithful : root.Faithful catalogue config route method)
    (computes : ∀ d, root.Reaches d → (catalogue d).Computes (compute d)) (fresh : s.scope = {})
    (concurrent : Bool) :
    (Plan.ofBinding (root.link catalogue) concurrent).EndsWith r (root.outcome compute r) s := by
  have fares : Fares (ledger root catalogue false s.calls) catalogue r (sizeOf root)
      (0, Item.signs false) Extracts Resolves root.binding.fields :=
    fares_root faithful fun _ => rfl
  have ends := (fares.plan concurrent fun _ => rfl).ends trivial
    (keeps_fresh root catalogue false fresh)
  -- that it ends is known from the ledger; what it ends with is known from the contents
  refine ends.of_answers fun out t moves => ?_
  have known := fares_known (r := r) (b := 0) faithful .root fun e he =>
    meets_produce faithful computes (.need .root he) ⟨root, .root, e, he, rfl⟩
  obtain ⟨g, agrees, concluded⟩ := (known.plan concurrent fun _ => rfl).answer (agrees_fresh fresh)
    moves
  have comes := comes_of_concludes (returns_zero.1 concluded) {}
  change Comes (root.outcome compute r) {} {} out g at comes
  cases out with
  | ok args =>
    obtain ⟨contents, outcome, informs⟩ := comes
    rw [outcome, ← informs t.uploads agrees.known rfl]
    rfl
  | error fault => exact (show root.outcome compute r = .error fault from comes).symm

/-- Whether a plan resolves dependencies side by side makes no difference if these are
deterministic: on fresh scopes it ends with the same arguments by contents, or with the same fault.
Neither does it make a difference whether the dependencies themselves were compiled to do so. -/
theorem Compiled.execute_agrees {compiler : Compiler n} {id : Fin n} {pattern : String}
    {c : Compiled n} (compiled : (compiler.compile catalogue id method pattern).1 = .ok c)
    (deterministic : ∀ d, c.Reaches d → (catalogue d).Deterministic) (r : Request) :
    ∃ outcome : Except Fault CallContents, ∀ (concurrent : Bool) (s : Session n), s.scope = {} →
      (Plan.ofBinding (c.link catalogue) concurrent).EndsWith r outcome s ∧
      ∀ (b : Bool) (c' : Compiled n),
        (({ config := compiler.config.withConcurrent b } : Compiler n).compile catalogue id method
          pattern).1 = .ok c' →
        (Plan.ofBinding (c'.link catalogue) concurrent).EndsWith r outcome s := by
  obtain ⟨route, parsed, handler, faithful⟩ := faithful_of_compile compiled
  choose! compute computes using deterministic
  refine ⟨c.outcome compute r, fun concurrent s fresh => ⟨?_, fun b c' compiled' => ?_⟩⟩
  · exact endsWith_outcome faithful computes fresh concurrent
  · obtain ⟨route', parsed', handler', faithful'⟩ := faithful_of_compile compiled'
    obtain rfl : route = route' := Except.ok.inj (parsed.symm.trans parsed')
    have same : c.binding.handler = c'.binding.handler := handler.trans handler'.symm
    rw [Faithful.outcome_eq faithful faithful' same]
    refine endsWith_outcome faithful' (fun d reaches => computes d ?_) fresh concurrent
    obtain ⟨z, hz, e, he, rfl⟩ := reaches
    obtain ⟨w, hw, part⟩ := faithful.exists_part faithful' same hz
    obtain ⟨d, hd, depends⟩ := faithful.exists_need faithful' hw hz part he
    exact ⟨w, hw, d, hd, congrArg Depends.handler depends⟩

theorem Compiled.execute_agrees_down :
    let compiler : Compiler 2 := { config := {} }
    let catalogue := twoReaders (.error (.handler "down"))
    let r : Request := { method := .get, path := "/" }
    (compiler.compile catalogue 1 .get "/").1 = .ok compiledReport ∧
      (∀ d, compiledReport.Reaches d → (catalogue d).Deterministic) ∧
      ∃ outcome : Except Fault CallContents, ∀ (concurrent : Bool) (s : Session 2), s.scope = {} →
        (Plan.ofBinding (compiledReport.link catalogue) concurrent).EndsWith r outcome s ∧
        ∀ (b : Bool) (c' : Compiled 2),
          (({ config := compiler.config.withConcurrent b } : Compiler 2).compile catalogue 1 .get
            "/").1 = .ok c' →
          (Plan.ofBinding (c'.link catalogue) concurrent).EndsWith r outcome s := by
  intro compiler catalogue r
  have compiled : (compiler.compile catalogue 1 .get "/").1 = .ok compiledReport :=
    compile_twoReaders _
  have deterministic : ∀ d, compiledReport.Reaches d → (catalogue d).Deterministic := by
    rintro d ⟨x, hx, e, he, rfl⟩
    rw [eq_of_mem_needs_compiledReport hx he]
    exact ⟨fun _ => .error (.handler "down"), fun _ => rfl⟩
  exact ⟨compiled, deterministic, Compiled.execute_agrees compiled deterministic r⟩

end

end RequestBinding
