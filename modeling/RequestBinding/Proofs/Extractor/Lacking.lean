import RequestBinding.Proofs.Extractor.Records
import RequestBinding.Proofs.Schema.Lacking

/-!
When a parameter is refused because something is missing.  Main statement: a parameter that is no
record is looked up by its own key alone, and a record by the keys of its members alone.
-/
namespace RequestBinding

namespace RecordPlan
variable {source : Source} {members : List (Member Schema)} {found : List (Option Value)}

def foundLack : List (Member Schema) → List (Option Value) → Bool
  | m :: ms, found :: r =>
    (match found with
      | some v => m.schema.lacks v
      | none => (m.schema.absentValue? m.default?).isNone) || foundLack ms r
  | _, _ => false

theorem any_isMissing_findings (members : List (Member Schema)) (found : List (Option Value)) :
    (findings members found).any Finding.isMissing = foundLack members found := by
  induction members generalizing found with
  | nil => rfl
  | cons m ms ih =>
    cases found with
    | nil => rfl
    | cons x r =>
      rw [findings_cons, List.any_append, ih, m.any_isMissing_findings m.schema.any_isMissing_findings]
      rfl

theorem refusedAsMissing_bindCollecting (plan : RecordPlan) (found : List (Option Value)) :
    refusedAsMissing (plan.bindCollecting found) = foundLack plan.members found := by
  rw [bindCollecting_eq, refusedAsMissing_outcome, tellsMissing_tell, any_isMissing_findings]

end RecordPlan

theorem Target.refusedAsMissing_absent (t : Target) (source : Source) :
    refusedAsMissing (t.absent source) = t.isRequired := by
  unfold absent isRequired
  cases t.schema.absentValue? t.default? <;> rfl

/-- A record that is not required is only looked into if one of its keys is there. -/
theorem RecordPlan.refusedAsMissing_bind (plan : RecordPlan) (find : String → Schema → Option Value)
    (t : Target) : refusedAsMissing (plan.bind find t) =
      (plan.looksInto find t && foundLack plan.members (plan.gather find)) := by
  rw [plan.bind_eq]
  cases into : plan.looksInto find t with
  | true => exact (refusedAsMissing_map _ _).trans (plan.refusedAsMissing_bindCollecting _)
  | false => exact (t.refusedAsMissing_absent _).trans (Bool.or_eq_false_iff.1 into).1

section
variable {params : Dictionary String Value}

def Member.lacksIn (params : Dictionary String Value) (m : Member Schema) : Bool :=
  match params.get? m.key with
  | some v => m.schema.lacks (m.schema.wrapped v)
  | none => m.isRequired

theorem RecordPlan.foundLack_gather (source : Source) (ms : List (Member Schema)) :
    let plan := ofMembers source id ms
    foundLack plan.members (plan.gather fun key schema => (params.get? key).map schema.wrapped) =
      ms.any (Member.lacksIn params) := by
  intro plan
  induction ms with
  | nil => rfl
  | cons m ms ih =>
    have here : (match (params.get? m.key).map m.schema.wrapped with
        | some v => m.schema.lacks v
        | none => (m.schema.absentValue? m.default?).isNone) = m.lacksIn params := by
      unfold Member.lacksIn
      cases params.get? m.key with
      | some v => rfl
      | none => exact m.schema.isNone_absentValue? m.default?
    rw [List.any_cons, ← ih, ← here]
    rfl

theorem RecordPlan.any_gather (source : Source) (ms : List (Member Schema)) :
    ((ofMembers source id ms).gather fun key schema =>
      (params.get? key).map schema.wrapped).any Option.isSome =
        ms.any fun m => (params.get? m.key).isSome := by
  simp [gather, ofMembers, Function.comp_def, Member.key]

theorem Extractor.refusedAsMissing_plain {t : Target} (plain : t.schema.members? = none)
    (source : Source) : refusedAsMissing (bindTyped source params t) =
      match params.get? t.key with
      | some v => t.schema.lacks (t.schema.wrapped v)
      | none => t.isRequired := by
  unfold bindTyped bindWhere
  rw [plain]
  dsimp only
  cases params.get? t.key with
  | some v =>
    exact (refusedAsMissing_map _ _).trans (t.schema.refusedAsMissing_validate _ _)
  | none => exact t.refusedAsMissing_absent source

/-- For a record something is missing under the keys of its members, whatever its own key. -/
theorem Extractor.refusedAsMissing_record {t : Target} {ms : List (Member Schema)}
    (record : t.schema.members? = some ms) (source : Source) :
    refusedAsMissing (bindTyped source params t) =
      ((t.isRequired || ms.any fun m => (params.get? m.key).isSome) &&
        ms.any (Member.lacksIn params)) := by
  unfold bindTyped bindWhere
  rw [record, ← RecordPlan.foundLack_gather source, ← RecordPlan.any_gather source]
  exact RecordPlan.refusedAsMissing_bind _ _ t

theorem Schema.lacks_wrapped {v : Value} (scalar : v.isScalar = true) (s : Schema) :
    s.lacks (s.wrapped v) = false := by
  have item (items : Schema) : lacks (.list items) (.list [v]) = false := by
    rw [lacks, List.any_cons, items.lacks_scalar scalar]
    rfl
  unfold wrapped
  split
  · exact s.lacks_scalar scalar
  · exact s.lacks_scalar scalar
  · split
    · next isList =>
      cases s with
      | list items => exact item items
      | optional inner =>
        cases inner with
        | list items => rw [lacks, item, Bool.and_false]
        | _ => cases isList
      | _ => cases isList
    · exact s.lacks_scalar scalar

end

end RequestBinding
