import RequestBinding.Proofs.Compiled.Objection
import RequestBinding.Proofs.Compiled.PathFields

/-!
Uploads in the types of compiled parameters.  Where the value is no file, uploads are looked for at
four places of the type and nowhere else.  Main statement: a compiled handler has none there, and
whatever has none there can be compiled.
-/
namespace RequestBinding
variable {n : Nat}

namespace Schema

inductive Step where
  | inner
  | item
  | member (name : String)
  deriving DecidableEq

inductive UploadAt : Schema → List Step → Prop
  | here : UploadAt .upload []
  | inner {s : Schema} {steps : List Step} : s.UploadAt steps →
    UploadAt (.optional s) (.inner :: steps)
  | item {s : Schema} {steps : List Step} : s.UploadAt steps → UploadAt (.list s) (.item :: steps)
  | member {name : String} {ms : List (Member Schema)} {m : Member Schema} {steps : List Step} :
    m ∈ ms → m.schema.UploadAt steps → UploadAt (.record name ms) (.member m.name :: steps)

def UploadFree (s : Schema) : Prop := ∀ steps, ¬s.UploadAt steps

/-- The places of a file or a list of files, perhaps optional. -/
def filePlaces : List (List Step) := [[], [.inner], [.item], [.inner, .item]]

def NoFile (s : Schema) : Prop := ∀ steps ∈ filePlaces, ¬s.UploadAt steps

variable {s : Schema} {steps : List Step}

theorem uploadAt_nil_iff : s.UploadAt [] ↔ s = .upload := by
  constructor
  · rintro ⟨⟩
    rfl
  · rintro rfl
    exact .here

theorem uploadAt_inner_iff : s.UploadAt (.inner :: steps) ↔ ∃ t, s = .optional t ∧
    t.UploadAt steps := by
  constructor
  · rintro (_ | h)
    exact ⟨_, rfl, h⟩
  · rintro ⟨t, rfl, h⟩
    exact .inner h

theorem uploadAt_item_iff : s.UploadAt (.item :: steps) ↔ ∃ t, s = .list t ∧ t.UploadAt steps := by
  constructor
  · rintro (_ | _ | h)
    exact ⟨_, rfl, h⟩
  · rintro ⟨t, rfl, h⟩
    exact .item h

/-- A type is one of files exactly if it has an upload at one of the places of files. -/
theorem isUpload_iff : s.isUpload = true ↔ ∃ steps ∈ filePlaces, s.UploadAt steps := by
  simp only [filePlaces, List.mem_cons, List.not_mem_nil, or_false, exists_eq_or_imp,
    exists_eq_left, uploadAt_nil_iff, uploadAt_inner_iff, uploadAt_item_iff]
  constructor
  · intro h
    unfold isUpload bare at h
    cases s with
    | upload => exact .inl rfl
    | list items => cases items <;> simp_all
    | optional t =>
      cases t with
      | list items => cases items <;> simp_all
      | _ => simp_all
    | _ => simp_all
  · rintro (rfl | ⟨_, rfl, rfl⟩ | ⟨_, rfl, rfl⟩ | ⟨_, rfl, _, rfl, rfl⟩) <;> rfl

theorem noFile_iff : s.NoFile ↔ ¬s.isUpload = true := by
  simp [NoFile, isUpload_iff]

end Schema

/-- The sources of values that are no files, results of handlers or requests. -/
def Source.plain : List Source := [.path, .query, .header, .cookie, .body, .form]

theorem Source.mem_plain_iff {s : Source} :
    s ∈ plain ↔ s ≠ .file ∧ s ≠ .dependency ∧ s ≠ .request := by
  cases s <;> decide

section
variable {catalogue : Catalogue n} {config : Config n} {route : RoutePattern} {method : Method}

theorem Param.legal_iff {p : Param n} (plain : p.source config route method ∈ Source.plain) :
    p.Legal config route method ↔
      ((p.source config route method).readsBody = true → method.allowsBody = true) ∧
      (p.source config route method = .path →
        (∃ a, p.alias? = some a ∧ route.has a = true) ∨ route.has p.name = true) ∧
      p.schema.NoFile ∧ ∀ t ∈ p.schema.patterns, Schema.IsRegular t := by
  obtain ⟨file, dependency, request⟩ := Source.mem_plain_iff.1 plain
  rw [Schema.noFile_iff]
  constructor
  · rintro ⟨body, path, files, patterns⟩
    exact ⟨body, path, fun upload => file ((files dependency request).2 upload), patterns⟩
  · rintro ⟨body, path, none, patterns⟩
    exact ⟨body, path, fun _ _ => iff_of_false file none, patterns⟩

namespace Compiled

theorem Declared.forall_field_iff {x : Compiled n} (h : Declared catalogue config route method x)
    (q : Source → Schema → Prop) : (∀ f ∈ x.binding.fields, q f.source f.schema) ↔
      ∀ p ∈ (catalogue x.binding.handler).params, q (p.source config route method) p.schema := by
  obtain ⟨placed, made⟩ := h
  obtain ⟨params, sources⟩ := Placement.mem_of_ofParams_eq_ok placed
  constructor
  · intro fields p hp
    obtain ⟨placement, hplacement, rfl⟩ := List.mem_map.1 (params.symm ▸ hp)
    obtain ⟨f, hf, makes⟩ := exists_of_forall₂ made.flip hplacement
    obtain ⟨source, schema, _⟩ := Placement.Makes.declared makes
    rw [← sources placement hplacement, ← source, ← schema]
    exact fields f hf
  · intro declared f hf
    obtain ⟨placement, hplacement, makes⟩ := exists_of_forall₂ made hf
    obtain ⟨source, schema, _⟩ := makes.declared
    rw [source, schema, sources placement hplacement]
    exact declared placement.param (params ▸ List.mem_map_of_mem hplacement)

theorem Declared.dependsOn {x : Compiled n} (h : Declared catalogue config route method x)
    {d : Need (Compiled n)} (hd : d ∈ x.needs) :
    catalogue.DependsOn config x.binding.handler d.target.binding.handler := by
  obtain ⟨placed, made⟩ := h
  obtain ⟨f, hf, feed⟩ := mem_needs_iff.1 hd
  obtain ⟨placement, hplacement, need?, depends, field⟩ := exists_of_forall₂ made hf
  obtain rfl : need? = some d := by
    rcases (Placement.of_field_eq_ok field).2.2 with ⟨e, rfl, he⟩ | ⟨_, other | ⟨_, other, _⟩⟩
    · rw [feed] at he
      cases he
      rfl
    · simp [feed] at other
    · simp [feed] at other
  obtain ⟨e, declared, same⟩ := Option.map_eq_some_iff.1 depends.symm
  have params := (Placement.mem_of_ofParams_eq_ok placed).1
  exact ⟨placement.param, params ▸ List.mem_map_of_mem hplacement, e,
    Placement.depends?_eq_some_iff.1 declared, congrArg Depends.handler same⟩

theorem Faithful.reaches_of_part {c x : Compiled n}
    (h : Faithful catalogue config route method c) (part : Part c x) :
    catalogue.Reaches config c.binding.handler x.binding.handler := by
  induction part with
  | root => exact .refl
  | need part hd ih => exact ih.tail ((h _ part).dependsOn hd)

theorem Faithful.forall_field_iff {c : Compiled n} (h : Faithful catalogue config route method c)
    (q : Source → Schema → Prop) :
    (∀ x, Part c x → ∀ f ∈ x.binding.fields, q f.source f.schema) ↔
      ∀ d, catalogue.Reaches config c.binding.handler d → ∀ p ∈ (catalogue d).params,
        q (p.source config route method) p.schema := by
  constructor
  · intro fields d reached
    obtain ⟨x, part, rfl⟩ := h.exists_part_of_reaches reached
    exact ((h x part).forall_field_iff q).1 (fields x part)
  · intro declared x part
    exact ((h x part).forall_field_iff q).2 (declared _ (h.reaches_of_part part))

end Compiled

def Handler.ofParam (p : Param n) : Handler n where
  name := "handler"
  params := [p]
  work := .async 0 fun _ => .ok (.arg (.value .null))

theorem Compiler.exists_compile_ofParam_iff {compiler : Compiler n} {id : Fin n} {pattern : String}
    {p : Param n} (parsed : RoutePattern.parse pattern = .ok route)
    (plain : ∀ d, p.marker? ≠ some (.depends d)) :
    (∃ c, (compiler.compile (fun _ => .ofParam p) id method pattern).1 = .ok c) ↔
      p.Legal compiler.config route method := by
  constructor
  · rintro ⟨c, compiled⟩
    obtain ⟨route', parsed', rfl, faithful⟩ := faithful_of_compile compiled
    obtain rfl : route = route' := Except.ok.inj (parsed.symm.trans parsed')
    exact (faithful c .root).legal.params p (List.mem_singleton.2 rfl)
  · intro legal
    have compilable :
        Catalogue.Compilable (fun _ => .ofParam p) compiler.config route method id := by
      refine ⟨fun d _ cycle => ?_, fun d _ => ⟨List.pairwise_singleton _ _, ?_⟩⟩
      · obtain ⟨e, ⟨q, hq, x, marked, _⟩, _⟩ := Relation.TransGen.head'_iff.1 cycle
        obtain rfl := List.mem_singleton.1 hq
        exact plain x marked
      · intro q hq
        exact List.mem_singleton.1 hq ▸ legal
    cases h : (compiler.compile (fun _ => .ofParam p) id method pattern).1 with
    | ok c => exact ⟨c, rfl⟩
    | error e => exact absurd compilable (objects_of_compile parsed h).not_compilable

end

def valueRoute : RoutePattern := ⟨"/\x7bvalue\x7d", ["value"]⟩

theorem parse_valueRoute : RoutePattern.parse "/\x7bvalue\x7d" = .ok valueRoute := by
  have rest : RoutePattern.groups ["value"] [] = .ok ["value"] := by
    rw [RoutePattern.groups]
    rfl
  have all : RoutePattern.groups [] "/\x7bvalue\x7d".toList = RoutePattern.groups ["value"] [] := by
    rw [RoutePattern.groups]
    rfl
  rw [RoutePattern.parse, all, rest]
  rfl

/-- A parameter that is marked to come from one of the plain sources is compiled exactly if its
patterns are regular and there are no uploads at the places of files. -/
theorem Compiler.exists_compile_marked_iff (compiler : Compiler n) (id : Fin n) {m : Marker n}
    (plain : m.source ∈ Source.plain) (s : Schema) :
    (∃ c, (compiler.compile (fun _ => .ofParam { name := "value", schema := s, marker? := some m })
      id .post "/\x7bvalue\x7d").1 = .ok c) ↔
        s.NoFile ∧ ∀ t ∈ s.patterns, Schema.IsRegular t := by
  have independent (d : Depends n) : some m ≠ some (.depends d) := by
    rintro ⟨⟩
    exact (Source.mem_plain_iff.1 plain).2.1 rfl
  have source : Param.source compiler.config valueRoute .post
      { name := "value", schema := s, marker? := some m } ∈ Source.plain := plain
  have body : Method.allowsBody .post = true := rfl
  have named : valueRoute.has "value" = true := rfl
  rw [exists_compile_ofParam_iff parse_valueRoute independent, Param.legal_iff source]
  simp [body, named]

/-- No compiled parameter from a plain source has uploads at the places of files.  They are at no
other place either exactly if the parameters that can be reached are declared so, which nothing
asks for. -/
theorem Compiler.uploads_of_compile {compiler : Compiler n} {catalogue : Catalogue n} {id : Fin n}
    {method : Method} {pattern : String} {c : Compiled n}
    (h : (compiler.compile catalogue id method pattern).1 = .ok c) :
    (∀ x, c.Part x → ∀ f ∈ x.binding.fields, f.source ∈ Source.plain → f.schema.NoFile) ∧
    ((∀ x, c.Part x → ∀ f ∈ x.binding.fields, f.source ∈ Source.plain → f.schema.UploadFree) ↔
      ∀ d, catalogue.Reaches compiler.config id d → ∀ p ∈ (catalogue d).params,
        p.source compiler.config c.binding.route method ∈ Source.plain →
          ∀ steps, steps ∉ Schema.filePlaces → ¬p.schema.UploadAt steps) ∧
    ∀ m : Marker n, m.source ∈ Source.plain → ∀ s : Schema,
      (∃ c', (compiler.compile
        (fun _ => .ofParam { name := "value", schema := s, marker? := some m }) id .post
          "/\x7bvalue\x7d").1 = .ok c') ↔
        s.NoFile ∧ ∀ t ∈ s.patterns, Schema.IsRegular t := by
  obtain ⟨route, _, rfl, faithful⟩ := faithful_of_compile h
  have same := (faithful c .root).route_eq
  have noFile : ∀ d, catalogue.Reaches compiler.config c.binding.handler d →
      ∀ p ∈ (catalogue d).params,
        p.source compiler.config route method ∈ Source.plain → p.schema.NoFile := by
    intro d reached p hp plain
    exact ((Param.legal_iff plain).1 ((faithful.compilable.legal d reached).params p hp)).2.2.1
  refine ⟨(faithful.forall_field_iff fun source s => source ∈ Source.plain → s.NoFile).2 noFile, ?_,
    fun m plain s => compiler.exists_compile_marked_iff c.binding.handler plain s⟩
  rw [faithful.forall_field_iff fun source s => source ∈ Source.plain → s.UploadFree, same]
  constructor
  · intro free d reached p hp plain steps _
    exact free d reached p hp plain steps
  · intro elsewhere d reached p hp plain steps
    by_cases place : steps ∈ Schema.filePlaces
    · exact noFile d reached p hp plain steps place
    · exact elsewhere d reached p hp plain steps place

/-- A query parameter that is declared as a list of lists of files. -/
def docs : Param 1 :=
  { name := "docs", schema := .list (.list .upload), marker? := some .query }

def compiledDocs : Compiled 1 :=
  .mk ⟨0, "handler", true, .get, ⟨"/", []⟩, true, [{
    name := "docs", schema := .list (.list .upload)
    feed := .extract (.query ⟨"docs", .list (.list .upload), none⟩) }]⟩

theorem compile_docs :
    (({ config := {} } : Compiler 1).compile (fun _ => .ofParam docs) 0 .get "/").1 =
      .ok compiledDocs := by
  rw [fst_compile_root, compileHandler_eq (by simp) [⟨docs, .query, "docs"⟩] rfl]
  simp only [compileFields, Placement.depends?]
  rfl

theorem docs_schema_uploadAt : docs.schema.UploadAt [.item, .item] := .item (.item .here)

/-- In lists of lists of files there is no upload at the places of files, but there is one. -/
theorem Compiler.uploads_of_compile_docs :
    (({ config := {} } : Compiler 1).compile (fun _ => .ofParam docs) 0 .get "/").1 =
        .ok compiledDocs ∧
      (∀ x, compiledDocs.Part x → ∀ f ∈ x.binding.fields, f.source ∈ Source.plain →
        f.schema.NoFile) ∧
      ¬∀ x, compiledDocs.Part x → ∀ f ∈ x.binding.fields, f.source ∈ Source.plain →
        f.schema.UploadFree := by
  obtain ⟨noFile, free, _⟩ := uploads_of_compile compile_docs
  refine ⟨compile_docs, noFile, fun none => ?_⟩
  exact free.1 none 0 .refl docs (List.mem_singleton.2 rfl) (by decide) [.item, .item] (by decide)
    docs_schema_uploadAt

/-- Lists of lists of files are compiled as a query parameter. -/
theorem Compiler.compiles_nested_uploads :
    ¬∀ (n : Nat) (compiler : Compiler n) (catalogue : Catalogue n) (id : Fin n) (method : Method)
        (pattern : String) (c : Compiled n),
      (compiler.compile catalogue id method pattern).1 = .ok c →
        ∀ x, c.Part x → ∀ f ∈ x.binding.fields, f.source ∈ Source.plain →
          f.schema.UploadFree := by
  intro none
  exact none 1 { config := {} } (fun _ => .ofParam docs) 0 .get "/" compiledDocs compile_docs
    compiledDocs .root _ (List.mem_singleton.2 rfl) (by decide) _ docs_schema_uploadAt

end RequestBinding
