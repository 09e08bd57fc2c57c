import RequestBinding.Proofs.Contents.Reading
import RequestBinding.Proofs.Extractor.Optional
import RequestBinding.Proofs.Http.Submission

/-!
Parameters without a value.  Main statement: where there is nothing to bind, a parameter that is no
record comes to its default, else to null if it is optional, else to one violation; and where there
is something, the default makes no difference.
-/
namespace RequestBinding
variable {n : Nat}

/-- The payload is no object with a member under the key. -/
def Payload.Lacks (key : String) : Payload → Prop
  | .ok none => True
  | .ok (some (.object pairs)) => Value.NoneUnder pairs key
  | .ok (some _) => True
  | .error _ => False

theorem Payload.lacks_ok_iff {key : String} {payload : Option Value} :
    Payload.Lacks key (.ok payload) ↔ payload.bind (·.get? key) = none := by
  cases payload with
  | none => exact iff_of_true trivial rfl
  | some v =>
    cases v with
    | object pairs => exact Value.lookup_eq_none_iff.symm
    | _ => exact iff_of_true trivial rfl

/-- A decoder has nothing to read exactly if every byte is blank. -/
theorem Decoder.read_eq_ok_none_iff {decoder : Decoder} {body : Bytes} :
    decoder.read body = .ok none ↔ ∀ b ∈ body, Text.isBlankByte b = true := by
  rw [← List.all_eq_true, read]
  cases body.all Text.isBlankByte with
  | true => exact iff_of_true rfl rfl
  | false =>
    refine iff_of_false ?_ Bool.false_ne_true
    rw [if_neg Bool.false_ne_true, payload]
    cases decoder.decode body <;> simp [Except.map]

namespace Extractor

/-- There is nothing in the request that the parameter could be bound to: no entry under its key, no
file, or no payload; what cannot be decoded is there. -/
def Absent (r : Request) : Extractor → Prop
  | .path t => r.pathParams.get? t.key = none
  | .query t => r.query.get? t.key = none
  | .header t => r.headers.get? t.key = none
  | .cookie t => r.cookies.get? t.key = none
  | .body t embed decoder =>
    if isRaw t embed then r.body = []
    else if embed then (decoder.read r.body).Lacks t.key
    else ∀ b ∈ r.body, Text.isBlankByte b
  | .form t => r.form.field? t.key = none
  | .file t _ => (r.form.files? t.key).getD [] = []

def target : Extractor → Target
  | .path t | .query t | .header t | .cookie t | .body t _ _ | .form t | .file t _ => t

/-- The extractor of the same part of a request for something else. -/
def withTarget (t : Target) : Extractor → Extractor
  | .path _ => .path t
  | .query _ => .query t
  | .header _ => .header t
  | .cookie _ => .cookie t
  | .body _ embed decoder => .body t embed decoder
  | .form _ => .form t
  | .file _ limits => .file t limits

@[simp] theorem withTarget_target (e : Extractor) : e.withTarget e.target = e := by
  cases e <;> rfl

theorem target_ofSource? {config : Config n} {source : Source} {t : Target} {embed : Bool}
    {e : Extractor} (made : ofSource? config source t embed = some e) :
    e.target = { t with key := source.normal t.key } := by
  cases source <;> cases made <;> rfl

theorem ofSource?_default {config : Config n} {source : Source} {t : Target} {embed : Bool}
    {e : Extractor} (made : ofSource? config source t embed = some e) (d : Option Value) :
    ofSource? config source { t with default? := d } embed =
      some (e.withTarget { e.target with default? := d }) := by
  cases source <;> cases made <;> rfl

theorem source_ofSource? {config : Config n} {source : Source} {t : Target} {embed : Bool}
    {e : Extractor} (made : ofSource? config source t embed = some e) : e.source = source := by
  cases source <;> cases made <;> rfl

end Extractor

/-- Of what was submitted under a name something is read; there is no value only where nothing was
submitted. -/
theorem Form.Submitted.coerceTexts_eq_none_iff {form : Form} (h : form.Submitted) (key : String)
    (schema : Schema) :
    (form.field? key).bind schema.coerceTexts = none ↔ form.field? key = none := by
  cases found : form.field? key with
  | none => exact iff_of_true rfl rfl
  | some texts =>
    have some : texts ≠ [] := fun none => h.field?_ne_nil key (none ▸ found)
    obtain ⟨v, read⟩ := schema.exists_coerceTexts (List.getLast?_eq_some_getLast some)
    refine iff_of_false ?_ nofun
    rw [Option.bind_some, read]
    exact nofun

theorem UploadStore.length_addAll (s : UploadStore) (parts : List FilePart) :
    (s.addAll parts).1.length = parts.length := by
  have contents := congrArg List.length (s.addAll_spec parts).2.2
  rwa [List.length_map, List.length_map] at contents

/-- Binding comes to what is declared for an absent value where there is nothing, and does not mind
the default elsewhere. -/
structure FallsBack (nothing : Prop) (source : Source) (act : Target → Bound × Session n)
    (t : Target) : Prop where
  absent : nothing → (act t).1 = t.absent source
  steady : ¬nothing → ∀ d, act { t with default? := d } = act t

namespace FallsBack
variable {nothing nothing' : Prop} {source : Source} {act act' : Target → Bound × Session n}
  {t : Target}

theorem congr (h : FallsBack nothing source act t) (same : nothing' ↔ nothing) :
    FallsBack nothing' source act t :=
  ⟨fun nothing => h.absent (same.1 nothing), fun something => h.steady (mt same.2 something)⟩

theorem of_eq (h : FallsBack nothing source act t)
    (same : ∀ d, act' { t with default? := d } = act { t with default? := d }) :
    FallsBack nothing source act' t :=
  ⟨fun nothing => (congrArg Prod.fst (same t.default?)).trans (h.absent nothing),
    fun something d => (same d).trans ((h.steady something d).trans (same t.default?).symm)⟩

end FallsBack

namespace Extractor
variable {source : Source} {t : Target} (s : Session n)

theorem fallsBack_where (normal : String → String) (find : String → Schema → Option Value)
    (single : t.schema.members? = none) : FallsBack (find t.key t.schema = none) source
      (fun t => (bindWhere source normal find t, s)) t := by
  constructor
  · intro nothing
    dsimp only
    unfold bindWhere
    rw [single, nothing]
  · intro something d
    obtain ⟨v, found⟩ := Option.ne_none_iff_exists'.1 something
    unfold bindWhere
    dsimp only
    rw [single, found]

theorem fallsBack_raw (body : Bytes) :
    FallsBack (body = []) .body (fun t => (bindRaw body t, s)) t := by
  cases body with
  | nil => exact ⟨fun _ => rfl, fun something => absurd rfl something⟩
  | cons b bs => exact ⟨nofun, fun _ _ => rfl⟩

theorem fallsBack_decoded (payload : Payload) (embed : Bool) :
    FallsBack (if embed then payload.Lacks t.key else payload = .ok none) .body
      (fun t => (bindDecoded payload t embed, s)) t := by
  cases payload with
  | error e => cases embed <;> exact ⟨nofun, fun _ _ => rfl⟩
  | ok payload =>
    let found := if embed then payload.bind (·.get? t.key) else payload
    have nothing : (if embed then Payload.Lacks t.key (.ok payload)
        else (.ok payload : Payload) = .ok none) ↔ found = none := by
      cases embed with
      | true => exact Payload.lacks_ok_iff
      | false => exact iff_of_eq (Except.ok.injEq ..)
    refine FallsBack.congr ⟨fun absent => ?_, fun present d => ?_⟩ nothing
    · show bindPayload payload t embed = _
      rw [bindPayload, show (if embed then _ else _) = _ from absent]
    · obtain ⟨v, there⟩ := Option.ne_none_iff_exists'.1 present
      show (bindPayload payload _ embed, s) = (bindPayload payload t embed, s)
      unfold bindPayload
      dsimp only
      rw [show (if embed then _ else _) = _ from there]

theorem fallsBack_handles {handles : List UploadFile} (some : handles ≠ []) :
    FallsBack False .file (fun t => (bindHandles handles t, s)) t := by
  refine ⟨nofun, fun _ d => ?_⟩
  unfold bindHandles
  rw [List.getLast?_eq_some_getLast some]

/-- The default is only looked at if there are no files at all. -/
theorem fallsBack_files (parts : List FilePart) (limits : UploadLimits) :
    FallsBack (parts = []) .file (fun t => bindFiles parts t limits s) t := by
  cases parts with
  | nil =>
    exact ⟨fun _ => congrArg Prod.fst (bindFiles_eq [] t limits s), fun some => absurd rfl some⟩
  | cons p ps =>
    cases refused : (p :: ps).filterMap (limits.check · t.key) with
    | nil =>
      have some : (Session.receive (p :: ps) s).1 ≠ [] :=
        List.ne_nil_of_length_eq_add_one (s.uploads.length_addAll (p :: ps))
      let s' := (Session.receive (p :: ps) s).2
      refine ((fallsBack_handles s' some).congr ⟨nofun, False.elim⟩).of_eq fun d => ?_
      rw [bindFiles_eq]
      dsimp only
      rw [refused]
      rfl
    | cons v vs =>
      have same (d : Option Value) :
          bindFiles (p :: ps) { t with default? := d } limits s = (.error (v :: vs), s) := by
        rw [bindFiles_eq]
        dsimp only
        rw [refused]
        rfl
      exact ⟨nofun, fun _ d => (same d).trans (same t.default?).symm⟩

theorem fallsBack {r : Request} {e : Extractor} {decoder : Decoder} {s : Session n}
    (own : ∀ t embed d, e = .body t embed d → d = decoder)
    (single : e.target.schema.members? = none) (submitted : r.Submitted)
    (reads : s.Reads decoder r.body) :
    FallsBack (e.Absent r) e.source (fun t => (e.withTarget t).apply r s) e.target := by
  cases e with
  | path t | query t | header t | cookie t =>
    exact (fallsBack_where _ _ _ single).congr Option.map_eq_none_iff.symm
  | form t =>
    exact (fallsBack_where _ _ _ single).congr
      ((Request.submitted_form submitted).coerceTexts_eq_none_iff t.key t.schema).symm
  | file t limits =>
    let s' := (Session.form r s).2
    let parts := (r.form.files? t.key).getD []
    exact (fallsBack_files s' parts limits).of_eq fun _ => rfl
  | body t embed d =>
    cases own t embed d rfl
    -- the schema alone says whether the body is taken as it is, so the cases are the same for every
    -- default
    cases raw : isRaw t embed with
    | true =>
      have nothing : (body t embed decoder).Absent r ↔ r.body = [] := by
        rw [Absent, if_pos raw]
      exact ((fallsBack_raw s r.body).congr nothing).of_eq fun d =>
        (apply_body ..).trans (if_pos raw)
    | false =>
      have payload : (Session.payload decoder r.body s).1 = decoder.read r.body :=
        (read_payload reads).1
      have nothing : (body t embed decoder).Absent r ↔
          if embed then (decoder.read r.body).Lacks t.key else decoder.read r.body = .ok none := by
        rw [Absent, raw, if_neg Bool.false_ne_true]
        cases embed with
        | true => exact Iff.rfl
        | false => exact Decoder.read_eq_ok_none_iff.symm
      let s' := (Session.payload decoder r.body s).2
      refine ((fallsBack_decoded s' (decoder.read r.body) embed).congr nothing).of_eq fun d => ?_
      exact payload ▸ (apply_body ..).trans (if_neg (ne_true_of_eq_false raw))

/-- Where there is nothing for a parameter that is no record, it comes to its default as declared,
else to null if it is optional, else to one violation that names the key as it was looked up; where
there is something, what it comes to and what becomes of the session are the same whatever the
default. -/
theorem fallback_uniform {config : Config n} {t : Target} {embed : Bool} {e : Extractor}
    (made : ofSource? config source t embed = some e) (single : t.schema.members? = none)
    {r : Request} (submitted : r.Submitted) {s : Session n}
    (reads : s.Reads config.decoder r.body) :
    (e.Absent r → (e.apply r s).1 = match t.default?, t.schema.isOptional with
      | some v, _ => .ok (.value v)
      | none, true => .ok (.value .null)
      | none, false => .error [⟨source.name, source.normal t.key, .missing, none⟩]) ∧
    (¬e.Absent r → ∀ d e', ofSource? config source { t with default? := d } embed = some e' →
      e'.apply r s = e.apply r s) := by
  have target := target_ofSource? made
  have own : ∀ t embed d, e = .body t embed d → d = config.decoder := by
    rintro t embed d rfl
    cases source <;> cases made
    rfl
  have falls : FallsBack (e.Absent r) e.source _ e.target :=
    fallsBack own (target ▸ single) submitted reads
  rw [source_ofSource? made] at falls
  constructor
  · intro absent
    have bound := falls.absent absent
    rw [withTarget_target, target] at bound
    rw [bound]
    unfold Target.absent Schema.absentValue?
    cases t.default? with
    | some v => rfl
    | none => cases t.schema.isOptional <;> rfl
  · intro present d e' made'
    cases (ofSource?_default made d).symm.trans made'
    have same := falls.steady present d
    rwa [withTarget_target] at same

theorem fallback_uniform_page :
    let page : Target := ⟨"page", .optional (.integer {}), some (.int 1)⟩
    let limit : Target := ⟨"limit", .integer {}, some (.int 50)⟩
    let r := ({ method := .post, path := "/" } : Request).addAll
      [.formField "limit" "20", .queryParam "page" (.int 3)]
    r.Submitted ∧ ({} : Session 0).Reads ({} : Config 0).decoder r.body ∧
      page.schema.members? = none ∧
      ofSource? ({} : Config 0) .form page false = some (.form page) ∧
      (form page).Absent r ∧
      ((form page).apply r ({} : Session 0)).1 = .ok (.value (.int 1)) ∧
      limit.schema.members? = none ∧
      ofSource? ({} : Config 0) .form limit false = some (.form limit) ∧
      ¬(form limit).Absent r ∧
      (form { limit with default? := none }).apply r ({} : Session 0) = (form limit).apply r {} := by
  intro page limit r
  have plain : ({ method := .post, path := "/" } : Request).Submitted := nofun
  have submitted : r.Submitted := Request.submitted_addAll plain _
  have reads : ({} : Session 0).Reads ({} : Config 0).decoder r.body := nofun
  have made : ofSource? ({} : Config 0) .form page false = some (.form page) := rfl
  have absent : (form page).Absent r := rfl
  have made' : ofSource? ({} : Config 0) .form limit false = some (.form limit) := rfl
  have present : ¬(form limit).Absent r := Option.some_ne_none ["20"]
  exact ⟨submitted, reads, rfl, made, absent,
    (fallback_uniform made rfl submitted reads).1 absent, rfl, made', present,
    (fallback_uniform made' rfl submitted reads).2 present none _ rfl⟩

end Extractor
end RequestBinding
