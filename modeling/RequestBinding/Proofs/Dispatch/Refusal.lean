import RequestBinding.Proofs.Dispatch.Release
import RequestBinding.Proofs.Injector.Verdict

/-!
What a client is told of its violations.  Main statement: the violations of fields before a
dependency that fails are told if that dependency fails with violations as well, and are lost if it
fails for another reason.
-/
namespace RequestBinding
variable {n : Nat} {δ : Type} {r : Request} {fields : List (Field δ)} {xs : List Resolved}
  {vs : List Violation}

theorem args?_eq_none {fault : Fault} (came : .error fault ∈ xs) : args? xs = none := by
  induction xs with
  | nil => simp at came
  | cons x xs ih =>
    cases x with
    | error _ => rfl
    | ok a => simp [ih (by simpa using came)]

theorem verdict_of_failed {fault : Fault} (failed : failed? fields xs = some fault)
    (other : fault.isValidation = false) : verdict fields xs = .error fault := by
  unfold verdict
  rw [failed]
  cases fault <;> simp_all [Fault.isValidation]

/-- Violations that a field came to are in the verdict, as long as no dependency failed for another
reason. -/
theorem verdict_tells_iff (came : .error (.validation vs) ∈ xs) :
    (∃ ws, verdict fields xs = .error (.validation ws) ∧ vs <:+: ws) ↔
      ∀ fault, failed? fields xs = some fault → fault.isValidation = true := by
  have among : vs <:+: violationsOf xs := List.infix_of_mem_flatten (List.mem_map_of_mem came)
  unfold verdict
  cases failed? fields xs with
  | none => simp [args?_eq_none came, among]
  | some fault => cases fault <;> simp [Fault.isValidation, among]

theorem Processed.getElem?_extract {bound : Extractor → Bound → Prop}
    (h : Processed bound r fields xs) {i : Nat} {f : Field δ} {e : Extractor}
    (before : i < xs.length) (hf : fields[i]? = some f) (he : f.feed = .extract e) :
    ∃ x, bound e x ∧ xs[i]? = some (x.mapError .validation) := by
  induction h generalizing i with
  | nil => simp at before
  | request hg _ ih =>
    cases i with
    | zero => simp_all
    | succ i => exact ih (Nat.lt_of_succ_lt_succ before) hf
  | @extract g _ _ e' x hg hx _ ih =>
    cases i with
    | zero =>
      obtain rfl : g = f := by simpa using hf
      obtain rfl : e' = e := by simpa [hg] using he
      exact ⟨x, hx, rfl⟩
    | succ i => exact ih (Nat.lt_of_succ_lt_succ before) hf
  | dependency hg _ ih =>
    cases i with
    | zero => simp_all
    | succ i => exact ih (Nat.lt_of_succ_lt_succ before) hf
  | failed hg =>
    obtain rfl : i = 0 := Nat.lt_one_iff.1 before
    simp_all

/-- Of each field that was extracted before a dependency failed, the violations are told exactly if
that dependency, if there is one, failed with violations as well. -/
def ToldUnlessFaulted (r : Request) (fields : List (Field δ)) (xs : List Resolved)
    (told : List Violation → Prop) : Prop :=
  ∀ i f e vs, i < xs.length → fields[i]? = some f → f.feed = .extract e → e.reading r = .error vs →
    (told vs ↔ ∀ fault, failed? fields xs = some fault → fault.isValidation = true)

theorem Processed.verdict_tells
    (h : Processed (fun e x => ∀ vs, x = .error vs ↔ e.reading r = .error vs) r fields xs) :
    ToldUnlessFaulted r fields xs fun vs =>
      ∃ ws, verdict fields xs = .error (.validation ws) ∧ vs <:+: ws := by
  intro i f e vs before hf he reading
  obtain ⟨x, hx, came⟩ := h.getElem?_extract before hf he
  rw [(hx vs).2 reading] at came
  exact verdict_tells_iff (List.mem_of_getElem? came)

namespace Compiled
variable {c : Compiled n} {catalogue : Catalogue n} {s : Session n}

theorem dispatch_ends {config : Config n} {route : RoutePattern} {method : Method}
    (faithful : c.Faithful catalogue config route method) (serializer : Serializer) (r : Request)
    (s : Session n) : (c.dispatch catalogue serializer r).Ends (fun response _ => ∃ out u,
      Routine.Moves ((c.injector catalogue).inject r) (Session.renewScope s).2 (.done out) u ∧
      ∀ fault, out = .error fault → response = serializer.serializeFault fault) s := by
  rw [c.dispatch_eq]
  refine (c.served_ends faithful s).bind fun x u moves => ?_
  obtain ⟨result, held?⟩ := x
  obtain ⟨out, v, injected, called⟩ := c.injected_of_served moves
  refine (finish_ends result held?).mono fun response t ended => ⟨out, v, injected, ?_⟩
  rintro fault rfl
  obtain ⟨same, rfl⟩ := called.eq_of_done
  cases same
  exact ended.1

theorem isValidation_of_jsonFault {fault : Fault} {j : Json}
    (eq : Serializer.jsonFault fault = .json 422 j) : fault.isValidation = true := by
  have status : (Serializer.jsonFault fault).status = 422 := by rw [eq]; rfl
  cases fault <;> simp_all [Serializer.jsonFault, Response.json, Fault.status, Fault.isValidation]

theorem answer_tells {response : Response}
    (told : ToldUnlessFaulted r fields xs fun vs =>
      ∃ ws, verdict fields xs = .error (.validation ws) ∧ vs <:+: ws)
    (answered : ∀ fault, verdict fields xs = .error fault →
      response = Serializer.json.serializeFault fault) :
    ToldUnlessFaulted r fields xs fun vs =>
      ∃ ws, response = .json 422 (detailBody ws) ∧ vs <:+: ws := by
  intro i f e vs before hf he reading
  constructor
  · rintro ⟨ws, rfl, _⟩ fault failed
    by_contra other
    have verdict := verdict_of_failed failed (by simpa using other)
    exact other (isValidation_of_jsonFault (answered fault verdict).symm)
  · intro violations
    obtain ⟨ws, verdict, among⟩ := (told i f e vs before hf he reading).2 violations
    exact ⟨ws, answered _ verdict, among⟩

/-- The injector tells the violations that extractors found before a dependency failed, and the
client is told them with status 422, exactly if that dependency failed with violations as well.  When
it failed for another reason they are lost. -/
theorem violations_told_iff {compiler : Compiler n} {id : Fin n} {method : Method}
    {pattern : String} (compiled : (compiler.compile catalogue id method pattern).1 = .ok c)
    (r : Request) (s : Session n) :
    (s.scope = {} → ((c.injector catalogue).inject r).Ends (fun out t => ∃ xs,
      Routine.Moves (c.outcomes catalogue r) s (.done xs) t ∧
      Processed (fun e x => ∀ vs, x = .error vs ↔ e.reading r = .error vs) r c.binding.fields xs ∧
      ToldUnlessFaulted r c.binding.fields xs fun vs =>
        ∃ ws, out = .error (.validation ws) ∧ vs <:+: ws) s) ∧
    (c.dispatch catalogue .json r).Ends (fun response _ => ∃ xs u,
      Routine.Moves (c.outcomes catalogue r) (Session.renewScope s).2 (.done xs) u ∧
      Processed (fun e x => ∀ vs, x = .error vs ↔ e.reading r = .error vs) r c.binding.fields xs ∧
      ToldUnlessFaulted r c.binding.fields xs fun vs =>
        ∃ ws, response = .json 422 (detailBody ws) ∧ vs <:+: ws) s := by
  obtain ⟨route, _, _, faithful⟩ := faithful_of_compile compiled
  constructor
  · intro fresh
    have ends := (meets_injector (r := r) faithful fun _ => rfl).ends trivial
      (keeps_fresh c catalogue false fresh)
    refine ends.of_answers fun out t moves => ?_
    obtain ⟨xs, collected, processed, rfl⟩ :=
      faithful.verdict_of_moves (Session.reads_of_fresh fresh _ _) moves
    exact ⟨xs, collected, processed, processed.verdict_tells⟩
  · refine (dispatch_ends faithful .json r s).mono fun response _ ⟨out, u, injected, answered⟩ => ?_
    obtain ⟨xs, collected, processed, rfl⟩ :=
      faithful.verdict_of_moves (Session.reads_of_fresh rfl _ _) injected
    exact ⟨xs, u, collected, processed, answer_tells processed.verdict_tells answered⟩

end Compiled

def downSearch : Catalogue 2 := checkedSearch fun _ => .error (.handler "down")

theorem moves_downSearch : ∃ t : Session 2,
    Routine.Moves ((compiledSearch.injector downSearch).inject { method := .get, path := "/" }) {}
      (.done (.error (.handler "down"))) t :=
  ⟨_, Routine.moves_of_along
    (show Routine.along [[], [], [], [], [], []] _ _ = some (_, _) from rfl)⟩

theorem Compiled.violations_told_iff_down :
    let r : Request := { method := .get, path := "/" }
    let out : Injected := .error (.handler "down")
    (({ config := {} } : Compiler 2).compile downSearch 1 .get "/").1 = .ok compiledSearch ∧
      ∃ (t : Session 2) (xs : List Resolved),
        Routine.Moves ((compiledSearch.injector downSearch).inject r) {} (.done out) t ∧
        Routine.Moves (compiledSearch.outcomes downSearch r) {} (.done xs) t ∧
        Processed (fun e x => ∀ vs, x = .error vs ↔ e.reading r = .error vs) r
          compiledSearch.binding.fields xs ∧
        ToldUnlessFaulted r compiledSearch.binding.fields xs fun vs =>
          ∃ ws, out = .error (.validation ws) ∧ vs <:+: ws := by
  intro r out
  obtain ⟨t, moves⟩ := moves_downSearch
  obtain ⟨xs, told⟩ := ((violations_told_iff (compile_checkedSearch _) r {}).1 rfl).of_moves moves
  exact ⟨compile_checkedSearch _, t, xs, moves, told⟩

/-- The query that the search takes first is missing, but neither the injector nor the client is
told. -/
theorem Compiled.violations_lost :
    let r : Request := { method := .get, path := "/" }
    let vs : List Violation := [⟨"query", "q", .missing, none⟩]
    (({ config := {} } : Compiler 2).compile downSearch 1 .get "/").1 = .ok compiledSearch ∧
      (∃ f e, compiledSearch.binding.fields[0]? = some f ∧ f.feed = .extract e ∧
        e.reading r = .error vs) ∧
      (¬∀ out (t : Session 2),
        Routine.Moves ((compiledSearch.injector downSearch).inject r) {} (.done out) t →
          ∃ ws, out = .error (.validation ws) ∧ vs <:+: ws) ∧
      ¬∀ response (t : Session 2),
        Routine.Moves (compiledSearch.dispatch downSearch .json r) {} (.done response) t →
          response.status = 422 := by
  refine ⟨compile_checkedSearch _, ⟨_, _, rfl, rfl, rfl⟩, fun told => ?_, fun told => ?_⟩
  · obtain ⟨t, moves⟩ := moves_downSearch
    obtain ⟨ws, down, _⟩ := told _ t moves
    cases down
  · have status := told (.json 500 (.object [("detail", .string "Internal Server Error")])) _
      (Routine.moves_of_along
        (show Routine.along [[], [], [], [], [], [], [], []] _ _ = some (_, _) from rfl))
    cases status

end RequestBinding
