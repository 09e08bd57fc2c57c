import RequestBinding.Proofs.Extractor.Records
import RequestBinding.Proofs.Schema.Lacking
import RequestBinding.Proofs.Violation.Location

/-!
Parameters that are optional.  Main statement: text that is there is bound the same with one more
`optional` around the schema, unless the schema is optional already; then it is the same exactly for
text that is taken as it stands.
-/
namespace RequestBinding

def Value.isText : Value → Bool
  | .string _ | .bytes _ => true
  | _ => false

namespace Schema

theorem coerceTexts_singleton (s : Schema) (raw : String) :
    s.coerceTexts [raw] = some (s.coerceText raw) := by
  cases s with
  | optional inner => cases inner <;> rfl
  | _ => rfl

theorem exists_of_isOptional {s : Schema} (h : s.isOptional = true) :
    ∃ inner, s = optional inner := by
  cases s with
  | optional inner => exact ⟨inner, rfl⟩
  | _ => cases h

theorem members?_optional {s : Schema} (bare : s.isOptional = false) :
    (optional s).members? = s.members? := by
  cases s with
  | optional inner => cases bare
  | _ => rfl

theorem coerceTexts_optional {s : Schema} (bare : s.isOptional = false) (texts : List String) :
    (optional s).coerceTexts texts = s.coerceTexts texts := by
  cases s with
  | optional inner => cases bare
  | _ => rfl

theorem coerceTexts_optional_optional (s : Schema) (texts : List String) :
    (optional (optional s)).coerceTexts texts = texts.getLast?.map .string := rfl

/-- Text that is read as a scalar. -/
inductive Reads (raw : String) : Schema → Value → Prop
  | integer (bounds : Bounds Int64) (i : Int64) : Reads raw (.integer bounds) (.int i)
  | number (bounds : Bounds Float) (x : Float) : Reads raw (.number bounds) (.float x)
  | boolean (b : Bool) : Reads raw .boolean (.bool b)
  | bytes : Reads raw .bytes (.bytes (Text.Utf8.encode raw))

theorem reads_of_scalarOfText? {s : Schema} {raw : String} {v : Value}
    (read : s.scalarOfText? raw = some v) : s.Reads raw v := by
  cases s with
  | integer bounds =>
    rw [scalarOfText?, Option.map_eq_some_iff] at read
    obtain ⟨i, -, rfl⟩ := read
    exact .integer bounds i
  | number bounds =>
    rw [scalarOfText?, Option.map_eq_some_iff] at read
    obtain ⟨x, -, rfl⟩ := read
    exact .number bounds x
  | boolean =>
    rw [scalarOfText?, Option.map_eq_some_iff] at read
    obtain ⟨b, -, rfl⟩ := read
    exact .boolean b
  | bytes =>
    cases read
    exact .bytes
  | _ => cases read

/-- What text under a key is made of: a list of all texts, a scalar that the last reads as, or
the last as it stands. -/
theorem coerceTexts_cases {s : Schema} {texts : List String} {v : Value}
    (read : (optional s).coerceTexts texts = some v) :
    (∃ items vs, s = .list items ∧ v = .list vs) ∨
      ∃ raw, texts.getLast? = some raw ∧ (s.Reads raw v ∨ v = .string raw) := by
  by_cases list : ∃ items, s = .list items
  · obtain ⟨items, rfl⟩ := list
    exact .inl ⟨items, _, rfl, (Option.some.inj read).symm⟩
  · have scalar : (optional s).coerceTexts texts =
        texts.getLast?.map fun raw => (s.scalarOfText? raw).getD (.string raw) := by
      cases s with
      | list items => exact absurd ⟨items, rfl⟩ list
      | _ => rfl
    rw [scalar, Option.map_eq_some_iff] at read
    obtain ⟨raw, last, rfl⟩ := read
    refine .inr ⟨raw, last, ?_⟩
    cases found : s.scalarOfText? raw with
    | none => exact .inr rfl
    | some v => exact .inl (reads_of_scalarOfText? found)

theorem isNull_coerceTexts {s : Schema} {texts : List String} {v : Value}
    (read : (optional s).coerceTexts texts = some v) : v.isNull = false := by
  rcases coerceTexts_cases read with ⟨_, vs, -, rfl⟩ | ⟨raw, -, scalar | rfl⟩
  · rfl
  · cases scalar <;> rfl
  · rfl

theorem validate_optional {s : Schema} {v : Value} (ctx : Context) (there : v.isNull = false) :
    (optional s).validate ctx v = s.validate ctx v := by
  rw [validate_eq, validate_eq, settle, findings, there]
  rfl

theorem exists_told {s : Schema} {ctx : Context} {v : Value} {w : Violation}
    (refused : s.validate ctx v = .error [w]) : ∃ f ∈ s.findings v, ctx.tell f = w := by
  rw [validate_eq, Checking.outcome_eq_error_iff] at refused
  have told : w ∈ (s.findings v).map ctx.tell := refused.1 ▸ List.mem_singleton_self w
  exact List.mem_map.1 told

theorem validate_list_ne {items : Schema} {vs : List Value} {ctx : Context} {cause : Cause} :
    (list items).validate ctx (.list vs) ≠ .error [ctx.violation cause] := by
  intro refused
  obtain ⟨f, found, told⟩ := exists_told refused
  obtain ⟨⟨v, i⟩, -, inside⟩ := List.mem_flatMap.1 found
  obtain ⟨g, -, rfl⟩ := List.mem_map.1 inside
  have at' : (ctx.violation cause).IsAt ctx.location (ctx.path ++ (g.under _).trail) :=
    told ▸ Violation.isAt_tell ctx _
  have same := ((Violation.IsAt.loc_eq_loc_iff ⟨rfl, rfl⟩ at').1 rfl).2
  rw [List.flatMap_append] at same
  have none := List.self_eq_append_right.1 same
  simp [Finding.under, Violation.pieces_eq_singleton (Violation.isPiece_natText i)] at none

theorem validate_reads_ne {s : Schema} {raw expected got : String} {v : Value} {ctx : Context}
    (read : s.Reads raw v) :
    s.validate ctx v ≠ .error [ctx.violation (.wrongType expected got)] := by
  intro refused
  obtain ⟨f, found, told⟩ := exists_told refused
  have cause : f.cause = .wrongType expected got := congrArg Violation.cause told
  cases read with
  | integer | number =>
    obtain ⟨c, hc, rfl⟩ := List.mem_map.1 found
    have kind := Bounds.kind_causes c hc
    rw [show c = _ from cause] at kind
    cases kind
  | boolean | bytes => cases found

/-- A text comes to what it is read as exactly if it is not read, or as bytes. -/
theorem validate_string_eq_iff {s : Schema} {texts : List String} {raw : String} {v : Value}
    (ctx : Context) (read : (optional s).coerceTexts texts = some v)
    (last : texts.getLast? = some raw) :
    s.validate ctx (.string raw) = s.validate ctx v ↔ v.isText = true := by
  rcases coerceTexts_cases read with ⟨items, vs, rfl, rfl⟩ | ⟨raw', last', scalar | rfl⟩
  · exact iff_of_false (fun same => validate_list_ne same.symm) nofun
  · have typed (expected got : String) :
        s.validate ctx v ≠ .error [ctx.violation (.wrongType expected got)] :=
      validate_reads_ne scalar
    cases scalar with
    | integer | number | boolean => exact iff_of_false (fun same => typed _ _ same.symm) nofun
    | bytes =>
      obtain rfl := Option.some.inj (last.symm.trans last')
      exact iff_of_true rfl rfl
  · obtain rfl := Option.some.inj (last.symm.trans last')
    exact iff_of_true rfl rfl

end Schema

def Source.normal : Source → String → String
  | .header => headerKey
  | _ => id

def Source.texts? (r : Request) : Source → Option (String → Option (List String))
  | .header => some fun key => (r.headers.get? key).map ([·])
  | .cookie => some fun key => (r.cookies.get? key).map ([·])
  | .form => some r.form.field?
  | _ => none

/-- The parameter with one more `optional` around its schema. -/
def Target.optional (t : Target) : Target := { t with schema := .optional t.schema }

section
variable {n : Nat} {source : Source} {look : String → Option (List String)} {t : Target}

namespace Extractor

def bindTexts (source : Source) (look : String → Option (List String)) (t : Target) : Bound :=
  bindWhere source source.normal (fun key schema => (look key).bind schema.coerceTexts)
    { t with key := source.normal t.key }

theorem bindText_eq (source : Source) (normal : String → String) (texts : Dictionary String String)
    (t : Target) : bindText source normal texts t = bindWhere source normal
      (fun key schema => ((texts.get? key).map ([·])).bind schema.coerceTexts) t := by
  unfold bindText
  congr
  funext key schema
  cases texts.get? key with
  | none => rfl
  | some raw => exact (schema.coerceTexts_singleton raw).symm

/-- Header, cookie and form differ in the texts, and in that a form is marked as read. -/
theorem exists_apply_eq {r : Request} (texts : source.texts? r = some look) (s : Session n) :
    ∃ s', ∀ {config : Config n} {t embed e}, ofSource? config source t embed = some e →
      e.apply r s = (bindTexts source look t, s') := by
  cases source with
  | header | cookie =>
    cases texts
    refine ⟨s, fun made => ?_⟩
    cases made
    exact congrArg (·, s) (bindText_eq ..)
  | form =>
    cases texts
    refine ⟨(Session.form r s).2, fun made => ?_⟩
    cases made
    rfl
  | _ => cases texts

end Extractor

namespace Target

/-- A text is there that the parameter can be bound to: under the key of a member for a record, and
otherwise under its own. -/
def HasText (source : Source) (look : String → Option (List String)) (t : Target) : Prop :=
  match t.schema.members? with
  | some ms => ∃ m ∈ ms, ∃ texts raw, look (source.normal m.key) = some texts ∧
      texts.getLast? = some raw
  | none => ∃ texts raw, look (source.normal t.key) = some texts ∧ texts.getLast? = some raw

/-- The text under the key is taken as it stands or as its bytes; for a record, that is refused. -/
def KeepsText (source : Source) (look : String → Option (List String)) (t : Target) : Prop :=
  match t.schema.members? with
  | some _ => Extractor.bindTexts source look t = .error
      [(Context.atKey source.name (source.normal t.key)).violation (.wrongType "object" "string")]
  | none => ∃ texts v, look (source.normal t.key) = some texts ∧
      t.schema.coerceTexts texts = some v ∧ v.isText = true

end Target

theorem Schema.exists_coerceTexts {texts : List String} {raw : String} (s : Schema)
    (last : texts.getLast? = some raw) : ∃ v, s.coerceTexts texts = some v := by
  unfold coerceTexts
  rw [last]
  split <;> exact ⟨_, rfl⟩

theorem Schema.bind_optional {s : Schema} {v : Value} (source : Source) (key : String)
    (there : v.isNull = false) : (Schema.optional s).bind source key v = s.bind source key v :=
  congrArg (Except.map Arg.value) (validate_optional _ there)

theorem Schema.bind_eq_bind_iff {s : Schema} {key : String} {v w : Value} :
    s.bind source key v = s.bind source key w ↔
      s.validate (.atKey source.name key) v = s.validate (.atKey source.name key) w := by
  unfold Schema.bind
  cases s.validate (.atKey source.name key) v <;> cases s.validate (.atKey source.name key) w <;>
    simp [Except.map]

namespace Extractor

theorem bindTexts_of_members?_eq_none {texts : List String} {v : Value}
    (single : t.schema.members? = none) (found : look (source.normal t.key) = some texts)
    (read : t.schema.coerceTexts texts = some v) :
    bindTexts source look t = t.schema.bind source (source.normal t.key) v := by
  rw [bindTexts, bindWhere]
  dsimp only
  rw [single, found]
  dsimp only [Option.bind]
  rw [read]

theorem bindTexts_of_members?_eq_some {ms : List (Member Schema)}
    (record : t.schema.members? = some ms) :
    bindTexts source look t = (RecordPlan.ofMembers source source.normal ms).bind
      (fun key schema => (look key).bind schema.coerceTexts)
      { t with key := source.normal t.key } := by
  rw [bindTexts, bindWhere]
  dsimp only
  rw [record]

theorem looksInto_of_text {ms : List (Member Schema)} {m : Member Schema} {texts : List String}
    {raw : String} (member : m ∈ ms) (found : look (source.normal m.key) = some texts)
    (last : texts.getLast? = some raw) (t : Target) :
    (RecordPlan.ofMembers source source.normal ms).looksInto
      (fun key schema => (look key).bind schema.coerceTexts) t = true := by
  obtain ⟨v, read⟩ := m.schema.exists_coerceTexts last
  have here : ((look (source.normal m.key)).bind m.schema.coerceTexts).isSome = true := by
    simp [found, read]
  have any : ((RecordPlan.ofMembers source source.normal ms).gather
      (fun key schema => (look key).bind schema.coerceTexts)).any Option.isSome = true := by
    rw [RecordPlan.gather, RecordPlan.ofMembers, List.map_map, List.any_map, List.any_eq_true]
    exact ⟨m, member, here⟩
  rw [RecordPlan.looksInto, any, Bool.or_true]

theorem bindTexts_optional (bare : t.schema.isOptional = false)
    (there : t.optional.HasText source look) :
    bindTexts source look t.optional = bindTexts source look t := by
  have same : t.optional.schema.members? = t.schema.members? := Schema.members?_optional bare
  unfold Target.HasText at there
  rw [same] at there
  cases members : t.schema.members? with
  | some ms =>
    rw [members] at there
    obtain ⟨m, member, texts, raw, found, last⟩ := there
    rw [bindTexts_of_members?_eq_some members, bindTexts_of_members?_eq_some (same.trans members),
      RecordPlan.bind_eq, RecordPlan.bind_eq, looksInto_of_text member found last,
      looksInto_of_text member found last]
    rfl
  | none =>
    rw [members] at there
    obtain ⟨texts, raw, found, last⟩ := there
    obtain ⟨v, read⟩ := t.schema.optional.exists_coerceTexts last
    rw [bindTexts_of_members?_eq_none (same.trans members) found read,
      bindTexts_of_members?_eq_none members found
        ((Schema.coerceTexts_optional bare _).symm.trans read)]
    exact Schema.bind_optional source _ (Schema.isNull_coerceTexts read)

/-- A schema that is optional already takes text as it stands behind one more. -/
theorem bindTexts_optional_eq_iff (optional : t.schema.isOptional = true)
    (there : t.optional.HasText source look) :
    bindTexts source look t.optional = bindTexts source look t ↔ t.KeepsText source look := by
  obtain ⟨s, once⟩ := Schema.exists_of_isOptional optional
  have twice : t.optional.schema = .optional (.optional s) := congrArg Schema.optional once
  have single : t.optional.schema.members? = none := by
    rw [twice]
    rfl
  unfold Target.HasText at there
  rw [single] at there
  obtain ⟨texts, raw, found, last⟩ := there
  have outer : bindTexts source look t.optional =
      s.bind source (source.normal t.key) (.string raw) := by
    have read : t.optional.schema.coerceTexts texts = some (.string raw) := by
      rw [twice, Schema.coerceTexts_optional_optional, last]
      rfl
    rw [bindTexts_of_members?_eq_none single found read, twice, Schema.bind_optional _ _ rfl,
      Schema.bind_optional _ _ rfl]
    rfl
  unfold Target.KeepsText
  rw [outer]
  cases members : t.schema.members? with
  | some ms =>
    rw [once] at members
    cases s with
    | record => exact eq_comm
    | _ => cases members
  | none =>
    obtain ⟨v, read⟩ := t.schema.exists_coerceTexts last
    have inner : bindTexts source look t = s.bind source (source.normal t.key) v := by
      rw [bindTexts_of_members?_eq_none members found read, once]
      rw [once] at read
      exact Schema.bind_optional _ _ (Schema.isNull_coerceTexts read)
    rw [inner, Schema.bind_eq_bind_iff, Schema.validate_string_eq_iff _ (once ▸ read) last]
    constructor
    · exact fun text => ⟨texts, v, found, read, text⟩
    · rintro ⟨_, _, found', read', text⟩
      cases found.symm.trans found'
      cases read.symm.trans read'
      exact text

/-- Where a text is there, a parameter of header, cookie or form is bound the same with one more
`optional` around its schema, unless the schema is optional already: then exactly if the text is
taken as it stands. -/
theorem binds_optional_iff {config : Config n} {embed : Bool} {e e' : Extractor}
    (made : ofSource? config source t embed = some e)
    (made' : ofSource? config source t.optional embed = some e') {r : Request}
    (texts : source.texts? r = some look) (there : t.optional.HasText source look)
    (s : Session n) :
    e'.apply r s = e.apply r s ↔ (t.schema.isOptional = true → t.KeepsText source look) := by
  obtain ⟨s', applied⟩ := exists_apply_eq texts s
  rw [applied made, applied made', Prod.mk.injEq, and_iff_left rfl]
  cases optional : t.schema.isOptional with
  | true =>
    rw [bindTexts_optional_eq_iff optional there]
    exact ⟨fun keeps _ => keeps, fun keeps => keeps rfl⟩
  | false => exact iff_of_true (bindTexts_optional optional there) nofun

theorem binds_optional_pages :
    let t : Target := ⟨"page", .list (.integer {}), none⟩
    let r := (({ method := .post, path := "/" } : Request).withFormField "page" "1").withFormField
      "page" "last"
    ofSource? ({} : Config 0) .form t false = some (.form t) ∧
      ofSource? ({} : Config 0) .form t.optional false = some (.form t.optional) ∧
      Source.form.texts? r = some r.form.field? ∧ t.optional.HasText .form r.form.field? ∧
      (form t.optional).apply r ({} : Session 0) = (form t).apply r {} := by
  intro t r
  have made : ofSource? ({} : Config 0) .form t false = some (form t) := rfl
  have made' : ofSource? ({} : Config 0) .form t.optional false = some (form t.optional) := rfl
  have texts : Source.form.texts? r = some r.form.field? := rfl
  have there : t.optional.HasText .form r.form.field? := ⟨["1", "last"], "last", rfl, rfl⟩
  exact ⟨made, made', texts, there, (binds_optional_iff made made' texts there {}).2 nofun⟩

/-- An integer that is optional twice is refused where it is bound if it is optional once. -/
theorem binds_optional_limit :
    let t : Target := ⟨"limit", .optional (.integer {}), none⟩
    let r := ({ method := .get, path := "/" } : Request).withHeader "limit" "5"
    ((header t).apply r ({} : Session 0)).1 = .ok (.value (.int 5)) ∧
      ((header t.optional).apply r ({} : Session 0)).1 =
        .error [⟨"header", "limit", .wrongType "integer" "string", none⟩] :=
  ⟨rfl, rfl⟩

end Extractor

end

end RequestBinding
