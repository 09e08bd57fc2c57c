import RequestBinding.Extractor.Basic

/-!
What extractors come to, state by state.  Main statements: whatever is not a file is bound as plain
data, and an extractor that binds nothing says why.
-/
namespace RequestBinding

theorem Schema.validate_ne_error_nil (schema : Schema) (ctx : Context) (v : Value) :
    schema.validate ctx v ≠ .error [] := by
  unfold validate
  rcases (schema.check ctx v).run [] with ⟨_, _ | _⟩ <;> simp

theorem RecordPlan.bindCollecting_ne_error_nil (plan : RecordPlan) (found : List (Option Value)) :
    plan.bindCollecting found ≠ .error [] := by
  unfold bindCollecting
  rcases (pairsCollecting plan.source plan.members found).run [] with ⟨_, _ | _⟩ <;> simp

/-- What is bound is plain data, and what binds nothing says why. -/
inductive Plain : Bound → Prop
  | value (v : Value) : Plain (.ok (.value v))
  | refused {vs : List Violation} : vs ≠ [] → Plain (.error vs)

theorem Plain.ne_error_nil {x : Bound} (h : Plain x) : x ≠ .error [] := by
  cases h with
  | value v => simp
  | refused why => simpa using why

theorem plain_map {x : Except (List Violation) Value} (h : x ≠ .error []) :
    Plain (x.map .value) := by
  cases x with
  | ok v => exact .value v
  | error vs => exact .refused fun none => h (by rw [none])

theorem Target.plain_absent (t : Target) (source : Source) : Plain (t.absent source) := by
  unfold absent
  split
  · exact .value _
  · exact .refused (by simp)

theorem Schema.plain_bind (schema : Schema) (source : Source) (key : String) (v : Value) :
    Plain (schema.bind source key v) := plain_map (schema.validate_ne_error_nil _ v)

theorem RecordPlan.plain_bind (plan : RecordPlan) (find : String → Schema → Option Value)
    (t : Target) : Plain (plan.bind find t) := by
  unfold RecordPlan.bind
  dsimp only
  split
  · exact t.plain_absent plan.source
  · split
    · exact .value _
    · exact plain_map (plan.bindCollecting_ne_error_nil _)

namespace Extractor
variable {n : Nat}

theorem plain_bindWhere (source : Source) (normal : String → String)
    (find : String → Schema → Option Value) (t : Target) :
    Plain (bindWhere source normal find t) := by
  unfold bindWhere
  split
  · exact RecordPlan.plain_bind _ find t
  · split
    · exact t.schema.plain_bind source t.key _
    · exact t.plain_absent source

theorem plain_bindRaw (body : Bytes) (t : Target) : Plain (bindRaw body t) := by
  unfold bindRaw
  split
  · exact t.plain_absent .body
  · exact .value _

theorem plain_bindPayload (payload : Option Value) (t : Target) (embed : Bool) :
    Plain (bindPayload payload t embed) := by
  unfold bindPayload
  split
  · exact t.schema.plain_bind .body _ _
  · exact t.plain_absent .body

def bindDecoded (payload : Payload) (t : Target) (embed : Bool) : Bound :=
  match payload with
  | .ok payload => bindPayload payload t embed
  | .error e => .error [e.violation]

theorem plain_bindDecoded (payload : Payload) (t : Target) (embed : Bool) :
    Plain (bindDecoded payload t embed) := by
  unfold bindDecoded
  split
  · exact plain_bindPayload _ t embed
  · exact .refused (by simp)

theorem apply_body (t : Target) (embed : Bool) (decoder : Decoder) (r : Request) (s : Session n) :
    (body t embed decoder).apply r s =
      if isRaw t embed then (bindRaw r.body t, s)
      else (bindDecoded (Session.payload decoder r.body s).1 t embed,
        (Session.payload decoder r.body s).2) := by
  simp only [apply]
  split
  · rfl
  · simp only [bind, StateT.bind]
    rcases Session.payload decoder r.body s with ⟨_ | _, t⟩ <;> rfl

/-- What files are bound to, if the limits refuse none of them. -/
def bindHandles (handles : List UploadFile) (t : Target) : Bound :=
  if t.schema.isList then .ok (.uploads handles)
  else match handles.getLast? with
    | some u => .ok (.upload u)
    | none => t.absent .file

theorem bindHandles_cases (handles : List UploadFile) (t : Target) :
    (∃ a, bindHandles handles t = .ok a) ∨ bindHandles handles t = t.absent .file := by
  unfold bindHandles
  split
  · exact .inl ⟨_, rfl⟩
  · split
    · exact .inl ⟨_, rfl⟩
    · exact .inr rfl

theorem bindFiles_eq (parts : List FilePart) (t : Target) (limits : UploadLimits)
    (s : Session n) : bindFiles parts t limits s =
      if parts.isEmpty then (t.absent .file, s)
      else match parts.filterMap (limits.check · t.key) with
        | [] => (bindHandles (Session.receive parts s).1 t, (Session.receive parts s).2)
        | vs => (.error vs, s) := by
  unfold bindFiles bindHandles
  split
  · rfl
  · cases parts.filterMap (limits.check · t.key) with
    | cons v vs => rfl
    | nil =>
      simp only [bind, StateT.bind]
      rcases Session.receive parts s with ⟨handles, s'⟩
      cases t.schema.isList
      · dsimp only
        cases handles.getLast? <;> rfl
      · rfl

/-- An extractor that binds nothing says why. -/
theorem apply_ne_error_nil (e : Extractor) (r : Request) (s : Session n) :
    (e.apply r s).1 ≠ .error [] := by
  cases e with
  | path t => exact (plain_bindWhere _ _ _ t).ne_error_nil
  | query t => exact (plain_bindWhere _ _ _ t).ne_error_nil
  | header t => exact (plain_bindWhere _ _ _ t).ne_error_nil
  | cookie t => exact (plain_bindWhere _ _ _ t).ne_error_nil
  | body t embed decoder =>
    rw [apply_body]
    split
    · exact (plain_bindRaw _ t).ne_error_nil
    · exact (plain_bindDecoded _ t embed).ne_error_nil
  | form t => exact (plain_bindWhere _ _ _ t).ne_error_nil
  | file t limits =>
    change (bindFiles _ t limits _).1 ≠ _
    have absent : t.absent .file ≠ .error [] := (t.plain_absent .file).ne_error_nil
    rw [bindFiles_eq]
    split
    · exact absent
    · split
      · show bindHandles _ t ≠ .error []
        rcases bindHandles_cases _ t with ⟨a, bound⟩ | none
        · rw [bound]
          exact nofun
        · rw [none]
          exact absent
      · next refused => simpa using refused

end Extractor

end RequestBinding
