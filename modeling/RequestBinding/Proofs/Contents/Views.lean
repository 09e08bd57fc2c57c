import RequestBinding.Proofs.Contents.Agreement

/-!
What a handler reads of a request.  Its needs are told by the sources of its fields.  Main
statement: without dependencies, requests that agree on the parts that are needed come to the same
arguments by contents or to the same fault, so that the other parts do not have to be there.
-/
namespace RequestBinding
variable {n : Nat}

def Source.Agrees (r r' : Request) : Source → Prop
  | .path => ∀ key, r.pathParams.get? key = r'.pathParams.get? key
  | .query => ∀ key, r.query.get? key = r'.query.get? key
  | .header => ∀ key, r.headers.get? key = r'.headers.get? key
  | .cookie => ∀ key, r.cookies.get? key = r'.cookies.get? key
  | .body => r.body = r'.body
  | .form | .file => ∀ key,
      r.form.field? key = r'.form.field? key ∧ r.form.files? key = r'.form.files? key
  | .request => r = r'
  | .dependency => True

structure Needs.Agree (needs : Needs) (r r' : Request) : Prop where
  pathParams : needs.pathParams → Source.path.Agrees r r'
  query : needs.query → Source.query.Agrees r r'
  headers : needs.headers → Source.header.Agrees r r'
  cookies : needs.cookies → Source.cookie.Agrees r r'
  body : needs.body → Source.body.Agrees r r'
  form : needs.form → Source.form.Agrees r r'

section
variable {δ : Type} {r r' : Request}

theorem Binding.agrees_of_mem {b : Binding n δ} (agree : b.needs.Agree r r') {f : Field δ}
    (hf : f ∈ b.fields) (looked : f.source.hasExtractor) : f.source.Agrees r r' := by
  have counted : 0 < b.counts f.source :=
    List.count_pos_iff.2 (List.mem_map_of_mem hf)
  cases source : f.source <;> rw [source] at counted looked
  case path => exact agree.pathParams (decide_eq_true counted)
  case query => exact agree.query (decide_eq_true counted)
  case header => exact agree.headers (decide_eq_true counted)
  case cookie => exact agree.cookies (decide_eq_true counted)
  case body => exact agree.body (decide_eq_true counted)
  case form =>
    have form : b.counts.needsForm = true := by simp [SourceCounts.needsForm, counted]
    exact agree.form form
  case file =>
    have form : b.counts.needsForm = true := by simp [SourceCounts.needsForm, counted]
    exact agree.form form
  case dependency => cases looked
  case request => cases looked

/-- An extractor reads the part of its source and nothing else. -/
theorem Extractor.reading_eq_of_agrees {e : Extractor} (h : e.source.Agrees r r') :
    e.reading r = e.reading r' := by
  cases e with
  | path t =>
    have look : ∀ key, r.pathParams.get? key = r'.pathParams.get? key := h
    simp only [reading, apply, bindTyped, look]
  | query t =>
    have look : ∀ key, r.query.get? key = r'.query.get? key := h
    simp only [reading, apply, bindTyped, look]
  | header t =>
    have look : ∀ key, r.headers.get? key = r'.headers.get? key := h
    simp only [reading, apply, bindText, look]
  | cookie t =>
    have look : ∀ key, r.cookies.get? key = r'.cookies.get? key := h
    simp only [reading, apply, bindText, look]
  | body t embed decoder =>
    have same : r.body = r'.body := h
    simp only [reading, apply, same]
  | form t =>
    have look : ∀ key, r.form.field? key = r'.form.field? key := fun key => (h key).1
    have bound : bindForm r.form t = bindForm r'.form t := by simp only [bindForm, look]
    exact congrArg (Except.map (Arg.content {})) bound
  | file t limits =>
    have look : r.form.files? t.key = r'.form.files? t.key := (h t.key).2
    have files (q : Request) : reading q (.file t limits) =
        readFiles ((q.form.files? t.key).getD []) t limits := by
      have reads : (Session.form q ({} : Session 0)).2.Reads .json q.body := by
        intro p decoded
        cases decoded
      exact (read_bindFiles reads _ t limits).content
    rw [files, files, look]

theorem outcomeAfter_eq_of_reading {resolve resolve' : δ → Except Fault Value}
    {fields : List (Field δ)}
    (same : ∀ f ∈ fields, ∃ e, f.feed = .extract e ∧ e.reading r = e.reading r')
    (c : CallContents) (vs : List Violation) :
    outcomeAfter r resolve fields c vs = outcomeAfter r' resolve' fields c vs := by
  induction fields generalizing c vs with
  | nil => rfl
  | cons f fs ih =>
    obtain ⟨e, feed, reading⟩ := same f (by simp)
    have rest := ih fun g hg => same g (List.mem_cons_of_mem f hg)
    simp only [outcomeAfter, feed, reading]
    cases e.reading r' with
    | ok content => exact rest _ vs
    | error ws => exact rest c _

end

section
variable {catalogue : Catalogue n} {config : Config n} {route : RoutePattern} {method : Method}
  {c : Compiled n} {r : Request} {s : Session n}

def Compiled.ExtractsAll (c : Compiled n) : Prop := ∀ f ∈ c.binding.fields, f.source.hasExtractor

theorem Compiled.ExtractsAll.exists_extract (h : c.ExtractsAll) {f : Field (Need (Compiled n))}
    (hf : f ∈ c.binding.fields) : ∃ e, f.feed = .extract e := by
  have looked := h f hf
  cases feed : f.feed with
  | extract e => exact ⟨e, rfl⟩
  | request => simp [Field.source, feed, Feed.source, Source.hasExtractor] at looked
  | dependency d => simp [Field.source, feed, Feed.source, Source.hasExtractor] at looked

/-- In whatever order its parts move, the injector comes to what the fields come to by contents. -/
theorem Compiled.ExtractsAll.inject_ends (h : c.ExtractsAll)
    (faithful : c.Faithful catalogue config route method) (compute : Fin n → Compute)
    (fresh : s.scope = {}) : ((c.injector catalogue).inject r).Ends (fun out t =>
      out.map (CallArgs.contents t.uploads) = c.outcome compute r) s := by
  have plain : c.binding.shape ≠ .withDeps := by
    refine Binding.shape_ne_withDeps_iff.2 fun f hf source => ?_
    have looked := h f hf
    rw [source] at looked
    cases looked
  have unneeding : c.needs = [] := by
    refine List.eq_nil_iff_forall_not_mem.2 fun d hd => ?_
    obtain ⟨f, hf, feed⟩ := mem_needs_iff.1 hd
    obtain ⟨e, feed'⟩ := h.exists_extract hf
    rw [feed] at feed'
    cases feed'
  have computes : ∀ d, c.Reaches d → (catalogue d).Computes (compute d) := by
    rintro d ⟨x, hx, e, he, _⟩
    rcases hx.eq_or with rfl | ⟨d, hd, _⟩
    · simp [unneeding] at he
    · simp [unneeding] at hd
  obtain ⟨out, t, chosen, full⟩ := c.injector_agrees plain catalogue r s
  have ends := endsWith_outcome (r := r) faithful computes fresh false
  obtain ⟨out', t', run, rfl, rfl⟩ := full.run
  refine chosen.mono fun _ _ ⟨same, same'⟩ => ?_
  rw [same, same']
  exact ends.of_moves (Routine.moves_of_run run)

/-- Without dependencies and the request as a whole, an injector comes to the same arguments by
contents or to the same fault for all requests that agree on what the handler needs. -/
theorem Compiled.inject_agrees_of_needs {compiler : Compiler n} {id : Fin n} {pattern : String}
    (compiled : (compiler.compile catalogue id method pattern).1 = .ok c)
    (plain : ∀ f ∈ c.binding.fields, f.source ≠ .dependency ∧ f.source ≠ .request)
    {r r' : Request} (agree : c.binding.needs.Agree r r') :
    ∃ outcome : Except Fault CallContents, ∀ s : Session n, s.scope = {} →
      ((c.injector catalogue).inject r).Ends (fun out t =>
        out.map (CallArgs.contents t.uploads) = outcome) s ∧
      ((c.injector catalogue).inject r').Ends (fun out t =>
        out.map (CallArgs.contents t.uploads) = outcome) s := by
  obtain ⟨route, _, _, faithful⟩ := faithful_of_compile compiled
  have extracts : c.ExtractsAll := by
    intro f hf
    obtain ⟨dependency, request⟩ := plain f hf
    cases source : f.source <;> simp_all [Source.hasExtractor]
  let compute : Fin n → Compute := fun _ _ => .error (.internal "")
  have same : c.outcome compute r = c.outcome compute r' := by
    refine outcomeAfter_eq_of_reading (fun f hf => ?_) {} []
    obtain ⟨e, feed⟩ := extracts.exists_extract hf
    have agrees := Binding.agrees_of_mem agree hf (extracts f hf)
    rw [Field.source, feed] at agrees
    exact ⟨e, feed, Extractor.reading_eq_of_agrees agrees⟩
  refine ⟨c.outcome compute r, fun s fresh => ⟨extracts.inject_ends faithful compute fresh, ?_⟩⟩
  rw [same]
  exact extracts.inject_ends faithful compute fresh

end

def greeting : Catalogue 1 := fun _ => {
  name := "greet"
  params := [{ name := "api_key", marker? := some .header },
    { name := "who", marker? := some .form }]
  work := .async 0 fun _ => .ok (.arg (.value .null)) }

def compiledGreeting : Compiled 1 :=
  .mk ⟨0, "greet", true, .post, ⟨"/", []⟩, true,
    [{ name := "api_key", schema := .any, feed := .extract (.header ⟨"api-key", .any, none⟩) },
      { name := "who", schema := .any, feed := .extract (.form ⟨"who", .any, none⟩) }]⟩

theorem compile_greeting :
    (({ config := {} } : Compiler 1).compile greeting 0 .post "/").1 = .ok compiledGreeting := by
  rw [fst_compile_root, compileHandler_eq (by simp)
    [⟨{ name := "api_key", marker? := some .header }, .header, "api_key"⟩,
      ⟨{ name := "who", marker? := some .form }, .form, "who"⟩] rfl]
  simp only [compileFields, Placement.depends?]
  rfl

def formType : String := "application/x-www-form-urlencoded"

def splitGreeting : Request :=
  ({ id := 1, method := .put, path := "/a", query := .ofList [("q", .null)],
     headers := .ofList [("content-type", formType), ("api-key", "k")] } : Request).withFormField
    "who" "a b"

def encodedGreeting : Request :=
  { id := 2, method := .post, path := "/b", cookies := .ofList [("c", "1")],
    headers := .ofList [("api-key", "k"), ("content-type", formType)],
    body := Text.Utf8.encode "who=a+b" }

theorem Compiled.inject_agrees_of_needs_greeting :
    (({ config := {} } : Compiler 1).compile greeting 0 .post "/").1 = .ok compiledGreeting ∧
      (∀ f ∈ compiledGreeting.binding.fields, f.source ≠ .dependency ∧ f.source ≠ .request) ∧
      compiledGreeting.binding.needs.Agree splitGreeting encodedGreeting ∧
      ∃ outcome : Except Fault CallContents, ∀ s : Session 1, s.scope = {} →
        ((compiledGreeting.injector greeting).inject splitGreeting).Ends (fun out t =>
          out.map (CallArgs.contents t.uploads) = outcome) s ∧
        ((compiledGreeting.injector greeting).inject encodedGreeting).Ends (fun out t =>
          out.map (CallArgs.contents t.uploads) = outcome) s := by
  have plain : ∀ f ∈ compiledGreeting.binding.fields,
      f.source ≠ .dependency ∧ f.source ≠ .request := by decide
  have fields : splitGreeting.form.fields.entries = encodedGreeting.form.fields.entries := by
    decide +kernel
  have files : splitGreeting.form.files.entries = encodedGreeting.form.files.entries := by
    decide +kernel
  have headers : Source.header.Agrees splitGreeting encodedGreeting := by
    intro key
    simp only [splitGreeting, encodedGreeting, Request.withFormField, Dictionary.ofList, List.foldl,
      Dictionary.get?_insert, Dictionary.get?_empty]
    grind
  have agree : compiledGreeting.binding.needs.Agree splitGreeting encodedGreeting :=
    ⟨nofun, nofun, fun _ => headers, nofun, nofun, fun _ key =>
      ⟨congrArg (Dictionary.find? key) fields, congrArg (Dictionary.find? key) files⟩⟩
  exact ⟨compile_greeting, plain, agree,
    Compiled.inject_agrees_of_needs compile_greeting plain agree⟩

end RequestBinding
