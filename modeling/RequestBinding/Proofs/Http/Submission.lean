import RequestBinding.Proofs.Http.Addition

/-!
Forms that come about by submissions.  Main statement: the form of a request that is put together of
additions has no field without a value.
-/
namespace RequestBinding

/-- The form came about by submitting fields and files one after another. -/
inductive Form.Submitted : Form → Prop
  | empty : Submitted .empty
  | field {form : Form} (before : Submitted form) (name value : String) :
    Submitted (form.addField name value)
  | file {form : Form} (before : Submitted form) (name : String) (part : FilePart) :
    Submitted (form.addFile name part)

namespace Form

theorem Submitted.field?_ne_nil {form : Form} (h : form.Submitted) (key : String) :
    form.field? key ≠ some [] := by
  induction h with
  | empty => exact nofun
  | field before name value ih =>
    rw [field?, addField, Dictionary.get?_insert]
    split
    · simp
    · exact ih
  | file before name part ih => exact ih

theorem submitted_ofUrlencoded (body : Bytes) : (ofUrlencoded body).Submitted :=
  List.foldlRecOn _ _ .empty fun _ before _ _ => before.field _ _

end Form

namespace Request
variable {r : Request}

def Submitted (r : Request) : Prop := ∀ form, r.parts = some form → form.Submitted

theorem submitted_form (h : r.Submitted) : r.form.Submitted := by
  unfold form
  split
  · next form split => exact h form split
  · split
    · exact Form.submitted_ofUrlencoded r.body
    · exact .empty

theorem Submitted.getD (h : r.Submitted) : (r.parts.getD .empty).Submitted := by
  cases parts : r.parts with
  | none => exact .empty
  | some form => exact h form parts

theorem Submitted.withHeader (h : r.Submitted) (name value : String) :
    (r.withHeader name value).Submitted := by
  obtain ⟨cookies, same⟩ := r.exists_withHeader name value
  rw [same]
  exact h

theorem submitted_add (h : r.Submitted) (a : Addition) : (r.add a).Submitted := by
  cases a with
  | formField name value =>
    rintro _ ⟨⟩
    exact h.getD.field name value
  | file name part =>
    rintro _ ⟨⟩
    exact h.getD.file name part
  | header name value => exact h.withHeader name value
  | json document => exact h.withHeader "content-type" "application/json"
  | cookieHeader raw =>
    obtain ⟨cookies, same⟩ := r.exists_withCookieHeader raw
    rw [add, same]
    exact h
  | _ => exact h

theorem submitted_addAll (h : r.Submitted) (additions : List Addition) :
    (r.addAll additions).Submitted :=
  List.foldlRecOn additions _ h fun _ before a _ => submitted_add before a

end Request
end RequestBinding
