import RequestBinding.Proofs.Extractor.Optional

/-!
The same texts in another part of a request.  Main statement: where every field of a form has one
value, its parameters are bound as from cookies with the same texts, or refused for the same
violations, told of the form.
-/
namespace RequestBinding

namespace Violation

/-- The violation as it is told of another part of the request. -/
def relocated (source : Source) (v : Violation) : Violation := { v with location := source.name }

/-- Where something is missing, the words name the part of the request; all others stay. -/
theorem message_relocated (source : Source) (v : Violation) : (v.relocated source).message =
    if v.cause = .missing then s!"Missing required {source.name} parameter '{v.field}'"
    else v.message := by
  obtain ⟨_, field, cause, position⟩ := v
  cases cause <;> rfl

end Violation

def relocate {α : Type} (source : Source) (x : Except (List Violation) α) :
    Except (List Violation) α := x.mapError (List.map (Violation.relocated source))

section
variable {α β : Type} {source source' : Source}

theorem relocate_map (f : α → β) (x : Except (List Violation) α) :
    relocate source (x.map f) = (relocate source x).map f := by
  cases x <;> rfl

theorem relocate_outcome (x : α) (fs : List Finding) (path : List String) :
    relocate source' (Checking.outcome x (fs.map (Context.tell ⟨source.name, path⟩))) =
      Checking.outcome x (fs.map (Context.tell ⟨source'.name, path⟩)) := by
  have same : (fs.map (Context.tell ⟨source.name, path⟩)).map (Violation.relocated source') =
      fs.map (Context.tell ⟨source'.name, path⟩) := List.map_map
  rw [← same]
  cases fs <;> rfl

theorem Target.relocate_absent (t : Target) :
    relocate source' (t.absent source) = t.absent source' := by
  unfold absent
  cases t.schema.absentValue? t.default? <;> rfl

theorem Schema.relocate_bind (s : Schema) (key : String) (v : Value) :
    relocate source' (s.bind source key v) = s.bind source' key v := by
  rw [bind_eq, bind_eq]
  exact relocate_outcome _ _ _

theorem RecordPlan.relocate_bindCollecting (members : List (Member Schema))
    (found : List (Option Value)) :
    relocate source' (bindCollecting ⟨source, members⟩ found) =
      bindCollecting ⟨source', members⟩ found := by
  rw [bindCollecting_eq, bindCollecting_eq]
  exact relocate_outcome _ _ _

theorem RecordPlan.relocate_bind (members : List (Member Schema))
    (find : String → Schema → Option Value) (t : Target) :
    relocate source' (bind ⟨source, members⟩ find t) = bind ⟨source', members⟩ find t := by
  have into : looksInto ⟨source, members⟩ find t = looksInto ⟨source', members⟩ find t := rfl
  rw [bind_eq, bind_eq, into]
  cases looksInto ⟨source', members⟩ find t with
  | true => exact (relocate_map _ _).trans (congrArg _ (relocate_bindCollecting members _))
  | false => exact t.relocate_absent

/-- The part of the request makes no difference but for its name. -/
theorem Extractor.relocate_bindWhere (normal : String → String)
    (find : String → Schema → Option Value) (t : Target) :
    relocate source' (bindWhere source normal find t) = bindWhere source' normal find t := by
  unfold bindWhere
  cases t.schema.members? with
  | some ms => exact RecordPlan.relocate_bind _ find t
  | none =>
    cases find t.key t.schema with
    | some v => exact t.schema.relocate_bind t.key v
    | none => exact t.relocate_absent

end

namespace Extractor
variable {n : Nat} {config : Config n} {t : Target} {embed : Bool} {e e' : Extractor}
  {r r' : Request} {texts : Dictionary String String}

/-- A parameter of a form with one value for each field is bound as one of cookies with the same
texts; what is wrong is the same and in the same order, told of the form, and in the same words but
where something is missing. -/
theorem form_binds_as_cookies (made : ofSource? config .cookie t embed = some e)
    (made' : ofSource? config .form t embed = some e') (cookies : r.cookies = texts)
    (fields : ∀ key, r'.form.field? key = (texts.get? key).map ([·])) (s s' : Session n) :
    (e'.apply r' s').1 = relocate .form (e.apply r s).1 ∧
      ∀ v : Violation, (v.relocated .form).message =
        if v.cause = .missing then s!"Missing required form parameter '{v.field}'"
        else v.message := by
  refine ⟨?_, Violation.message_relocated .form⟩
  have form : (e'.apply r' s').1 = bindTexts .form r'.form.field? t := by
    cases made'
    rfl
  have cookie : (e.apply r s).1 = bindTexts .cookie r'.form.field? t := by
    cases made
    rw [funext fields, ← cookies]
    exact bindText_eq ..
  rw [form, cookie]
  exact (relocate_bindWhere id _ t).symm

theorem form_binds_as_cookies_search :
    let ms : List (Member Schema) := [⟨"page", some "p", .optional (.list (.integer {})), none⟩,
      ⟨"name", none, .text {}, none⟩, ⟨"sort", none, .text {}, some (.string "id")⟩]
    let t : Target := ⟨"search", .record "Search" ms, none⟩
    let r := ({ method := .post, path := "/" } : Request).withCookie "p" "last"
    let r' := ({ method := .post, path := "/" } : Request).withFormField "p" "last"
    ofSource? ({} : Config 0) .cookie t false = some (.cookie t) ∧
      ofSource? ({} : Config 0) .form t false = some (.form t) ∧
      (∀ key, r'.form.field? key = (r.cookies.get? key).map ([·])) ∧
      ((cookie t).apply r ({} : Session 0)).1 = .error
        [⟨"cookie", "p.0", .wrongType "integer" "string", none⟩,
          ⟨"cookie", "name", .missing, none⟩] ∧
      ((form t).apply r' ({} : Session 0)).1 = .error
        [⟨"form", "p.0", .wrongType "integer" "string", none⟩,
          ⟨"form", "name", .missing, none⟩] := by
  intro ms t r r'
  have made : ofSource? ({} : Config 0) .cookie t false = some (cookie t) := rfl
  have made' : ofSource? ({} : Config 0) .form t false = some (form t) := rfl
  have fields : ∀ key, r'.form.field? key = (r.cookies.get? key).map ([·]) := by
    intro key
    show (Dictionary.insert ∅ "p" ["last"]).get? key =
      ((Dictionary.insert ∅ "p" "last").get? key).map ([·])
    rw [Dictionary.get?_insert, Dictionary.get?_insert]
    split <;> rfl
  have bound : ((cookie t).apply r ({} : Session 0)).1 = .error
      [⟨"cookie", "p.0", .wrongType "integer" "string", none⟩,
        ⟨"cookie", "name", .missing, none⟩] := rfl
  refine ⟨made, made', fields, bound, ?_⟩
  rw [(form_binds_as_cookies made made' rfl fields {} {}).1, bound]
  rfl

end Extractor
end RequestBinding
