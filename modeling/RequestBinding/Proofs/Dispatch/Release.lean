import RequestBinding.Dispatch
import RequestBinding.Proofs.Resolution.Counting
import RequestBinding.Proofs.Resolution.Upkeep
import RequestBinding.Proofs.Upload.Store

/-!
The files of a request.  While arguments are made the scope tracks every file that is received, and
for the call of the handler they all change hands at once.  Main statement: whatever a request comes
to, its files can be read until the handler has been called, and then each of them is released once.
-/
namespace RequestBinding
variable {n : Nat}

/-- Some handles and those that the scope tracks are for all files since the start, and each file
since then can be read, also by each call. -/
structure Session.Owns (start : Session n) (held : List UploadFile) (s : Session n) : Prop where
  grown : start.uploads.contents.length ≤ s.uploads.contents.length
  logged : start.calls.length ≤ s.calls.length
  opened : s.uploads.OpenFrom start.uploads.contents.length
  called : ∀ k ∈ s.callsSince start,
    k.invocation.uploads.OpenFrom start.uploads.contents.length
  owned : (held ++ s.scope.tracked).map UploadFile.id =
    List.range' start.uploads.contents.length
      (s.uploads.contents.length - start.uploads.contents.length)

section
variable {start s t : Session n} {held : List UploadFile} {r : Request}

theorem Session.Owns.congr (h : start.Owns held s) (uploads : t.uploads = s.uploads)
    (tracked : t.scope.tracked = s.scope.tracked) (calls : t.calls = s.calls) :
    start.Owns held t where
  grown := uploads ▸ h.grown
  logged := calls ▸ h.logged
  opened := uploads ▸ h.opened
  called := by
    unfold callsSince
    rw [calls]
    exact h.called
  owned := by
    rw [uploads, tracked]
    exact h.owned

theorem Session.Owns.receive (h : start.Owns held s) {parts : List FilePart}
    (uploads : t.uploads = (s.uploads.addAll parts).2)
    (tracked : t.scope.tracked = s.scope.tracked ++ (s.uploads.addAll parts).1)
    (calls : t.calls = s.calls) : start.Owns held t where
  grown := by
    rw [uploads, UploadStore.contents_addAll, List.length_append]
    exact h.grown.trans (Nat.le_add_right _ _)
  logged := calls ▸ h.logged
  opened := uploads ▸ h.opened.addAll parts
  called := by
    unfold callsSince
    rw [calls]
    exact h.called
  owned := by
    obtain ⟨since, length⟩ := Nat.exists_eq_add_of_le h.grown
    rw [tracked, ← List.append_assoc, List.map_append, h.owned, UploadStore.ids_addAll, uploads,
      UploadStore.contents_addAll, List.length_append, List.length_map, length, Nat.add_assoc,
      Nat.add_sub_cancel_left, Nat.add_sub_cancel_left, List.range'_append_1]

theorem Session.Owns.beginCall (h : start.Owns held s) (id : Fin n) (args : CallArgs) :
    start.Owns held (Session.beginCall id args s).2 where
  grown := h.grown
  logged := by
    change _ ≤ (s.calls ++ [_]).length
    rw [List.length_append]
    exact h.logged.trans (Nat.le_add_right _ _)
  opened := h.opened
  called := by
    intro k hk
    change k ∈ (s.calls ++ [_]).drop _ at hk
    rw [List.drop_append_of_le_length h.logged] at hk
    rcases List.mem_append.1 hk with old | new
    · exact h.called k old
    · rw [List.mem_singleton.1 new]
      exact h.opened
  owned := h.owned

theorem Session.Owns.accept (h : start.Owns held s) (reply : Reply) :
    start.Owns held (Session.accept reply s).2 := by
  cases reply <;> exact h.congr rfl rfl rfl

/-- A step that makes tracked handles or none at all. -/
def Receives {α : Type} (s : Session n) (out : α × Session n) : Prop :=
  ∃ parts, out.2.uploads = (s.uploads.addAll parts).2 ∧
    out.2.scope.tracked = s.scope.tracked ++ (s.uploads.addAll parts).1

theorem receives_none {α : Type} {out : α × Session n} (uploads : out.2.uploads = s.uploads)
    (tracked : out.2.scope.tracked = s.scope.tracked) : Receives s out :=
  ⟨[], uploads, tracked.trans (List.append_nil _).symm⟩

theorem Extractor.receives_apply (e : Extractor) (r : Request) : Receives s (e.apply r s) := by
  refine e.snd_apply (P := fun t => Receives s ((), t)) r s ?_ ?_ ?_ ?_
  · exact receives_none rfl rfl
  · intro _ _ d _ _
    rw [Session.payload_eq]
    cases s.scope.body <;> exact receives_none rfl rfl
  · exact receives_none rfl rfl
  · exact fun parts => ⟨parts, rfl, by rw [Session.scope_receive]; rfl⟩

theorem Session.Owns.upkeep (start : Session n) (held : List UploadFile) (c : Compiled n)
    (r : Request) : Upkeep c r (start.Owns held) where
  form _ h := h.congr rfl rfl rfl
  apply _ _ _ _ e _ s h := by
    obtain ⟨parts, uploads, tracked⟩ := e.receives_apply (s := s) r
    exact h.receive uploads tracked (e.aside_apply r s).1
  beginCall id args _ h := h.beginCall id args
  accept reply _ h := h.accept reply
  enter _ _ h := h.congr rfl rfl rfl
  leave _ _ _ _ h := h.congr rfl rfl rfl

theorem Session.length_renewScope (s : Session n) :
    (renewScope s).2.uploads.contents.length = s.uploads.contents.length :=
  UploadStore.length_releaseAll _ _

theorem Session.owns_renewed (s : Session n) : s.Owns [] (renewScope s).2 where
  grown := (length_renewScope s).ge
  logged := le_refl _
  opened u le lt := by
    rw [length_renewScope] at lt
    omega
  called k hk := by
    change k ∈ s.calls.drop s.calls.length at hk
    simp at hk
  owned := by
    rw [length_renewScope, Nat.sub_self]
    rfl

end

inductive Catalogue.Replied (catalogue : Catalogue n) (k : Call n) : Resolved → Prop
  | returned {reply : Reply} {a : Arg} : catalogue.answer k = .ok reply → reply.Becomes a →
      Replied catalogue k (.ok a)
  | failed {fault : Fault} : catalogue.answer k = .error fault →
      Replied catalogue k (.error fault)

namespace Compiled
variable (c : Compiled n) (catalogue : Catalogue n) (serializer : Serializer) (r : Request)

/-- Call the handler with the files in its hands, if there are arguments for it. -/
def callWith : Injected → Routine (Session n) (Resolved × Option (List UploadFile))
  | .error fault => return (.error fault, none)
  | .ok args => do
    let held ← Routine.act Session.takeUploads
    let result ← catalogue.call c.binding.handler args
    return (result, some held)

/-- Make the arguments on a new scope and call the handler; with the files that it had in its hands,
if it came to the call. -/
def served : Routine (Session n) (Resolved × Option (List UploadFile)) := do
  Routine.act Session.renewScope
  c.callWith catalogue (← (c.injector catalogue).inject r)

/-- Release what the handler had in its hands and what the scope still tracks, and answer. -/
def finish : Resolved × Option (List UploadFile) → Routine (Session n) Response
  | (result, held?) => do
    match held? with
    | some held => Routine.act (Session.release held)
    | none => pure ()
    let _ ← Routine.act Session.releaseUploads
    return serializer.respond result

theorem dispatch_eq : c.dispatch catalogue serializer r =
    (c.served catalogue r).bind (finish serializer) := by
  unfold dispatch invoke served
  simp only [Routine.bind_eq_bind, Routine.bind_assoc]
  refine congrArg _ (funext fun _ => congrArg _ (funext fun out => ?_))
  cases out with
  | error fault => rfl
  | ok args =>
    simp only [callWith, Routine.bind_eq_bind, Routine.bind_assoc, Catalogue.callHolding]
    rfl

end Compiled

section
variable {c : Compiled n} {catalogue : Catalogue n} {serializer : Serializer} {r : Request}
  {s t u : Session n}

theorem Session.Owns.takeUploads {held : List UploadFile} (h : s.Owns held u) :
    s.Owns (held ++ (Session.takeUploads u).1) (Session.takeUploads u).2 where
  grown := h.grown
  logged := h.logged
  opened := h.opened
  called := h.called
  owned := by
    rw [List.append_assoc]
    exact (List.append_nil _).symm ▸ h.owned

/-- Whatever is being done, somebody owns the files. -/
theorem Compiled.meets_callWith (out : Injected) (s : Session n) :
    (Custody.invariant fun t => ∃ held, s.Owns held t).Meets (c.callWith catalogue out) 0 0
      fun _ _ => True := by
  cases out with
  | error fault => exact trivial
  | ok args =>
    refine (meets_kept fun t ⟨held, owns⟩ => ⟨_, owns.takeUploads⟩).bind fun held _ _ => ?_
    refine Custody.Meets.bind (meets_callKept ?_ ?_ _ args) fun _ _ _ => trivial
    · exact fun id args t ⟨held, owns⟩ => ⟨held, owns.beginCall id args⟩
    · exact fun reply t ⟨held, owns⟩ => ⟨held, owns.accept reply⟩

/-- At any moment somebody owns the files of the request. -/
theorem Compiled.owns_of_moves {q : Routine (Session n) (Resolved × Option (List UploadFile))}
    (moves : Routine.Moves (c.served catalogue r) s q t) : t = s ∨ ∃ held, s.Owns held t := by
  rcases moves.bind_cases with ⟨_, renewing, _⟩ | ⟨_, u, renewed, rest⟩
  · rcases renewing.of_act with same | ⟨_, same⟩
    · exact .inl same
    · exact .inr ⟨[], same ▸ s.owns_renewed⟩
  · obtain ⟨_, rfl⟩ := (Routine.comesTo_act Session.renewScope s).of_moves renewed
    have kept := Session.Owns.upkeep s [] c r
    rcases rest.bind_cases with ⟨_, injecting, _⟩ | ⟨out, u, injected, rest⟩
    · exact .inr ⟨[], kept.of_moves s.owns_renewed injecting⟩
    · have owns := kept.of_moves s.owns_renewed injected
      obtain ⟨_, held, _⟩ := (c.meets_callWith out s).moves (f := 0) ⟨[], owns⟩ rest
      exact .inr held

theorem Compiled.injected_of_served {x : Resolved × Option (List UploadFile)}
    (moves : Routine.Moves (c.served catalogue r) s (.done x) t) : ∃ out u,
      Routine.Moves ((c.injector catalogue).inject r) (Session.renewScope s).2 (.done out) u ∧
        Routine.Moves (c.callWith catalogue out) u (.done x) t := by
  obtain ⟨_, _, renewed, rest⟩ := moves.bind_answer
  obtain ⟨_, rfl⟩ := (Routine.comesTo_act Session.renewScope s).of_moves renewed
  exact rest.bind_answer

/-- In the end the files are those that the handler had in its hands and those that the scope still
tracks. -/
theorem Compiled.owns_of_served {result : Resolved} {held? : Option (List UploadFile)}
    (moves : Routine.Moves (c.served catalogue r) s (.done (result, held?)) t) :
    s.Owns (held?.getD []) t := by
  obtain ⟨out, u, injected, called⟩ := c.injected_of_served moves
  have owns : s.Owns [] u := (Session.Owns.upkeep s [] c r).of_moves s.owns_renewed injected
  cases out with
  | error fault =>
    obtain ⟨same, rfl⟩ := called.eq_of_done
    cases same
    exact owns
  | ok args =>
    obtain ⟨held, _, taken, calling⟩ := called.bind_answer
    obtain ⟨rfl, rfl⟩ := (Routine.comesTo_act Session.takeUploads u).of_moves taken
    obtain ⟨_, v, answered, ended⟩ := calling.bind_answer
    obtain ⟨same, rfl⟩ := ended.eq_of_done
    cases same
    have meets : (Custody.invariant (s.Owns (Session.takeUploads u).1)).Meets
        (catalogue.call c.binding.handler args) 0 0 fun _ _ => True :=
      meets_callKept (fun id args _ h => h.beginCall id args) (fun reply _ h => h.accept reply) _
        args
    obtain ⟨_, owned, _⟩ := meets.answer owns.takeUploads answered
    exact owned

theorem Catalogue.call_ends (id : Fin n) (args : CallArgs) (s : Session n) :
    (catalogue.call id args).Ends (fun result t => ∃ k, k.handler = id ∧
      k.invocation.args = args ∧ catalogue.Replied k result ∧ t.calls = s.calls ++ [k]) s := by
  let k : Call n := ⟨id, s.callCount id + 1, args, s.uploads⟩
  refine (Routine.ends_pauses _ s).bind fun _ _ same => ?_
  rw [same]
  refine Routine.Ends.bind (Routine.comesTo_act (Session.beginCall id args) s) fun i t begun => ?_
  obtain ⟨rfl, rfl⟩ := begun
  refine (Routine.ends_pauses _ _).bind fun _ _ same => ?_
  rw [same]
  have begun : (Session.beginCall id args s).1 = k.invocation := rfl
  rw [begun]
  cases answer : (catalogue id).reply k.invocation with
  | ok reply =>
    refine Routine.Ends.bind (Routine.comesTo_act _ _) fun a t accepted => ?_
    obtain ⟨rfl, rfl⟩ := accepted
    refine .ended _ _ ⟨k, rfl, rfl, .returned answer (becomes_accept reply _), ?_⟩
    exact (Session.aside_accept reply _).1
  | error fault => exact .ended _ _ ⟨k, rfl, rfl, .failed answer, rfl⟩

theorem Compiled.served_ends {config : Config n} {route : RoutePattern} {method : Method}
    (faithful : c.Faithful catalogue config route method) (s : Session n) :
    (c.served catalogue r).Ends (fun x t => Routine.Moves (c.served catalogue r) s (.done x) t)
      s := by
  have ends : (c.served catalogue r).Ends (fun _ _ => True) s := by
    refine Routine.Ends.bind (Routine.comesTo_act Session.renewScope s) fun _ u ⟨_, renewed⟩ => ?_
    have fresh : u.scope = {} := by rw [renewed]; rfl
    have injected := (meets_injector (r := r) faithful fun _ => rfl).ends trivial
      (keeps_fresh c catalogue false fresh)
    refine injected.bind fun out v _ => ?_
    cases out with
    | error fault => exact .ended _ _ trivial
    | ok args =>
      refine Routine.Ends.bind (Routine.comesTo_act Session.takeUploads v) fun held _ _ => ?_
      exact (catalogue.call_ends _ args _).bind fun _ _ _ => .ended _ _ trivial
  exact ends.of_answers fun x t moves => moves

/-- When the owned files are released, each of them is released once, and none is left. -/
theorem Session.Owns.released {held : List UploadFile} (h : s.Owns held u) (f : UploadFile)
    (since : s.uploads.contents.length ≤ f.id) :
    (f.id < u.uploads.contents.length →
      (u.uploads.freed (held ++ u.scope.tracked)).countP (·.id = f.id) = 1) ∧
    (u.uploads.releaseAll (held ++ u.scope.tracked)).2.isReleased f = true := by
  have grown := h.grown
  have mem (i : Nat) : i ∈ (held ++ u.scope.tracked).map UploadFile.id ↔
      s.uploads.contents.length ≤ i ∧ i < u.uploads.contents.length := by
    rw [h.owned, List.mem_range'_1]
    omega
  have nodup : ((held ++ u.scope.tracked).map UploadFile.id).Nodup := by
    rw [h.owned]
    exact List.nodup_range'
  have opened : ∀ v ∈ held ++ u.scope.tracked, u.uploads.isReleased v = false := by
    intro v hv
    obtain ⟨le, lt⟩ := (mem v.id).1 (List.mem_map_of_mem hv)
    exact h.opened v le lt
  constructor
  · intro lt
    have once := List.count_eq_one_of_mem nodup ((mem f.id).2 ⟨since, lt⟩)
    rw [UploadStore.freed_eq_self nodup opened]
    rw [List.count, List.countP_map] at once
    exact once
  · rw [UploadStore.isReleased_releaseAll, Bool.or_eq_true]
    by_cases lt : f.id < u.uploads.contents.length
    · obtain ⟨v, hv, same⟩ := List.mem_map.1 ((mem f.id).2 ⟨since, lt⟩)
      exact .inr (List.any_eq_true.2 ⟨v, hv, by simp [same]⟩)
    · have none : u.uploads.contents[f.id]? = none := List.getElem?_eq_none (by omega)
      exact .inl (by simp [UploadStore.isReleased, UploadStore.read, none])

theorem Compiled.finish_ends (result : Resolved) (held? : Option (List UploadFile)) :
    (finish serializer (result, held?)).Ends (fun response t =>
      response = serializer.respond result ∧
        t.uploads = (u.uploads.releaseAll (held?.getD [] ++ u.scope.tracked)).2 ∧
        t.scope.tracked = []) u := by
  have tracked (v : Session n) (same : v.scope.tracked = u.scope.tracked)
      (uploads : v.uploads = (u.uploads.releaseAll (held?.getD [])).2) :
      ((Routine.act Session.releaseUploads).bind fun _ => .done (serializer.respond result)).Ends
        (fun response t => response = serializer.respond result ∧
          t.uploads = (u.uploads.releaseAll (held?.getD [] ++ u.scope.tracked)).2 ∧
          t.scope.tracked = []) v := by
    refine Routine.Ends.bind (Routine.comesTo_act _ v) fun _ t ⟨_, ht⟩ => ?_
    refine .ended _ _ ⟨rfl, ?_, ?_⟩
    · rw [ht, UploadStore.releaseAll_append, ← uploads, ← same]
      rfl
    · rw [ht]
      rfl
  cases held? with
  | none => exact tracked u rfl rfl
  | some held =>
    refine Routine.Ends.bind (Routine.comesTo_act (Session.release held) u) fun _ v ⟨_, hv⟩ => ?_
    exact tracked v (by rw [hv]; rfl) (by rw [hv]; rfl)

/-- Files can be read as long as the request is served, also by whatever is called meanwhile.  Then
each of them is released by exactly one release, whatever the request came to, and none is left. -/
theorem Compiled.dispatch_releases {compiler : Compiler n} {id : Fin n} {method : Method}
    {pattern : String} (compiled : (compiler.compile catalogue id method pattern).1 = .ok c)
    (serializer : Serializer) (r : Request) (s : Session n) :
    let base := s.uploads.contents.length
    c.dispatch catalogue serializer r = (c.served catalogue r).bind (finish serializer) ∧
    (∀ q t, Routine.Moves (c.served catalogue r) s q t →
      t.uploads.OpenFrom base ∧ ∀ k ∈ t.callsSince s, k.invocation.uploads.OpenFrom base) ∧
    (c.dispatch catalogue serializer r).Ends (fun response t => ∃ result held? u,
      Routine.Moves (c.served catalogue r) s (.done (result, held?)) u ∧
      response = serializer.respond result ∧
      let owned := held?.getD [] ++ u.scope.tracked
      t.uploads = (u.uploads.releaseAll owned).2 ∧ t.scope.tracked = [] ∧
      ∀ f : UploadFile, base ≤ f.id →
        (f.id < u.uploads.contents.length → (u.uploads.freed owned).countP (·.id = f.id) = 1) ∧
          t.uploads.isReleased f = true) s := by
  intro base
  obtain ⟨route, _, _, faithful⟩ := faithful_of_compile compiled
  refine ⟨c.dispatch_eq catalogue serializer r, fun q t moves => ?_, ?_⟩
  · rcases c.owns_of_moves moves with rfl | ⟨held, owns⟩
    · exact ⟨fun u le lt => absurd lt (Nat.not_lt.2 le), by simp [Session.callsSince]⟩
    · exact ⟨owns.opened, owns.called⟩
  · rw [c.dispatch_eq]
    refine (c.served_ends faithful s).bind fun x u moves => ?_
    obtain ⟨result, held?⟩ := x
    have owns := c.owns_of_served moves
    refine (finish_ends result held?).mono fun response t ended => ?_
    obtain ⟨answered, uploads, tracked⟩ := ended
    refine ⟨result, held?, u, moves, answered, uploads, tracked, fun f since => ?_⟩
    rw [uploads]
    exact owns.released f since

end

def crashingArchive : Catalogue 1 := fun _ => {
  name := "archive"
  params := [{ name := "photo", schema := .upload, marker? := some .file }]
  work := .blocking fun _ => .crashed "disk full" }

def compiledArchive : Compiled 1 :=
  .mk ⟨0, "archive", false, .post, ⟨"/", []⟩, true,
    [{ name := "photo", schema := .upload, feed := .extract (.file ⟨"photo", .upload, none⟩ {}) }]⟩

theorem compile_crashingArchive :
    (({ config := {} } : Compiler 1).compile crashingArchive 0 .post "/").1 =
      .ok compiledArchive := by
  rw [fst_compile_root, compileHandler_eq (by simp)
    [⟨{ name := "photo", schema := .upload, marker? := some .file }, .file, "photo"⟩] rfl]
  simp only [compileFields, Placement.depends?]
  rfl

def photoRequest : Request :=
  ({ method := .post, path := "/" } : Request).withFile "photo" ⟨none, none, [7]⟩

theorem moves_crashingArchive : ∃ (response : Response) (t : Session 1),
    Routine.Moves (compiledArchive.dispatch crashingArchive .json photoRequest) {} (.done response)
      t ∧ t.uploads.contents.length = 1 :=
  ⟨_, _, Routine.moves_of_along
    (show Routine.along [[], [], [], [], [], [], [], []] _ _ = some (_, _) from rfl), rfl⟩

theorem Compiled.dispatch_releases_crashed :
    let s : Session 1 := {}
    (({ config := {} } : Compiler 1).compile crashingArchive 0 .post "/").1 = .ok compiledArchive ∧
      ∃ (response : Response) (t : Session 1),
        Routine.Moves (compiledArchive.dispatch crashingArchive .json photoRequest) s
          (.done response) t ∧
        t.uploads.contents.length = 1 ∧
        ∃ result held? u,
          Routine.Moves (compiledArchive.served crashingArchive photoRequest) s
            (.done (result, held?)) u ∧
          response = Serializer.json.respond result ∧
          let owned := held?.getD [] ++ u.scope.tracked
          t.uploads = (u.uploads.releaseAll owned).2 ∧ t.scope.tracked = [] ∧
          ∀ f : UploadFile, s.uploads.contents.length ≤ f.id →
            (f.id < u.uploads.contents.length →
              (u.uploads.freed owned).countP (·.id = f.id) = 1) ∧
              t.uploads.isReleased f = true := by
  intro s
  obtain ⟨response, t, moves, one⟩ := moves_crashingArchive
  have releases := Compiled.dispatch_releases compile_crashingArchive .json photoRequest s
  exact ⟨compile_crashingArchive, response, t, moves, one, releases.2.2.of_moves moves⟩

end RequestBinding
