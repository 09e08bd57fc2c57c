import RequestBinding.Proofs.Schema.Findings

/-!
When something is said to be missing.  Main statement: a check reports that something is missing
exactly if a required member of a record is absent from an object in the value.
-/
namespace RequestBinding
variable {α β γ : Type}

def tellsMissing (vs : List Violation) : Bool := vs.any fun v => decide (v.kind = .missing)

def refusedAsMissing {α : Type} : Except (List Violation) α → Bool
  | .ok _ => false
  | .error vs => tellsMissing vs

@[simp] theorem refusedAsMissing_map (f : α → β) (x : Except (List Violation) α) :
    refusedAsMissing (x.map f) = refusedAsMissing x := by
  cases x <;> rfl

def Value.isScalar : Value → Bool
  | .list _ | .object _ => false
  | _ => true

namespace Schema

mutual

/-- A value in which something is missing: an object for a record without a member that has to be
there. -/
def lacks : Schema → Value → Bool
  | .list items, .list vs => vs.any fun v => lacks items v
  | .optional inner, v => !v.isNull && lacks inner v
  | .record _ ms, .object pairs => membersLack ms pairs
  | _, _ => false

def membersLack : List (Member Schema) → List (String × Value) → Bool
  | [], _ => false
  | ⟨name, alias?, schema, default?⟩ :: r, pairs =>
    (match Value.lastMember? pairs (alias?.getD name) with
      | some v => lacks schema v
      | none => (absentValue? schema default?).isNone) || membersLack r pairs

end

end Schema

def Finding.isMissing (f : Finding) : Bool := decide (f.cause.kind = .missing)

theorem tellsMissing_tell (ctx : Context) (fs : List Finding) :
    tellsMissing (fs.map ctx.tell) = fs.any Finding.isMissing := List.any_map

theorem refusedAsMissing_outcome (x : α) (vs : List Violation) :
    refusedAsMissing (Checking.outcome x vs) = tellsMissing vs := by
  cases vs <;> rfl

theorem Finding.any_isMissing_here {causes : List Cause}
    (others : ∀ cause ∈ causes, cause.kind ≠ .missing) :
    (causes.map here).any isMissing = false := by
  rw [List.any_map, List.any_eq_false]
  exact fun cause mem missing => others cause mem (of_decide_eq_true missing)

theorem Cause.forall_mem_ifNot {ok : Bool} {cause : Cause} {p : Cause → Prop} (holds : p cause) :
    ∀ c ∈ cause.ifNot ok, p c := by
  cases ok <;> simp [ifNot, holds]

theorem Cause.forall_mem_elim {limit : Option α} {causes : α → List Cause} {p : Cause → Prop}
    (each : ∀ x, ∀ c ∈ causes x, p c) : ∀ c ∈ limit.elim [] causes, p c := by
  cases limit with
  | none => exact List.forall_mem_nil p
  | some x => exact each x

theorem TextLimits.kind_ne_missing {limits : TextLimits} {s : String} :
    ∀ c ∈ limits.causes s, c.kind ≠ .missing := by
  simp only [causes, List.forall_mem_append]
  refine ⟨Cause.forall_mem_elim fun _ => Cause.forall_mem_ifNot (by nofun),
    Cause.forall_mem_elim fun _ => Cause.forall_mem_ifNot (by nofun),
    Cause.forall_mem_elim fun p => ?_,
    Cause.forall_mem_elim fun _ => Cause.forall_mem_ifNot (by nofun)⟩
  cases p.compiled with
  | ok finds => exact Cause.forall_mem_ifNot (by nofun)
  | error _ => exact List.forall_mem_singleton.2 (by nofun)

theorem Bounds.kind_causes {less : γ → γ → Bool} {quantity : γ → Quantity} {bounds : Bounds γ}
    {x : γ} : ∀ c ∈ bounds.causes less quantity x, c.kind = .wrongValue := by
  simp only [causes, List.forall_mem_append]
  exact ⟨Cause.forall_mem_elim fun _ => Cause.forall_mem_ifNot rfl,
    Cause.forall_mem_elim fun _ => Cause.forall_mem_ifNot rfl⟩

theorem Bounds.kind_ne_missing {less : γ → γ → Bool} {quantity : γ → Quantity} {bounds : Bounds γ}
    {x : γ} : ∀ c ∈ bounds.causes less quantity x, c.kind ≠ .missing := by
  intro c hc
  rw [kind_causes c hc]
  decide

theorem Member.any_isMissing_findings {m : Member Schema}
    (each : ∀ v, (m.schema.findings v).any Finding.isMissing = m.schema.lacks v)
    (found : Option Value) : (m.findings found).any Finding.isMissing =
      match found with
      | some v => m.schema.lacks v
      | none => (m.schema.absentValue? m.default?).isNone := by
  unfold findings
  rw [List.any_map]
  cases found with
  | some v => exact each v
  | none => cases m.schema.absentValue? m.default? <;> rfl

namespace Schema

/-- Something is found missing in a value exactly if it lacks something. -/
theorem any_isMissing_findings (s : Schema) (v : Value) :
    (s.findings v).any Finding.isMissing = s.lacks v := by
  induction s using Schema.induction generalizing v with
  | any => rfl
  | text limits =>
    cases v with
    | string s => exact Finding.any_isMissing_here TextLimits.kind_ne_missing
    | _ => rfl
  | integer bounds =>
    cases v with
    | int i => exact Finding.any_isMissing_here Bounds.kind_ne_missing
    | _ => rfl
  | number bounds =>
    cases v with
    | float x => exact Finding.any_isMissing_here Bounds.kind_ne_missing
    | int i => exact Finding.any_isMissing_here Bounds.kind_ne_missing
    | _ => rfl
  | boolean => cases v <;> rfl
  | bytes => cases v <;> rfl
  | list items ih =>
    cases v with
    | list vs =>
      have found (p : Value × Nat) :
          ((findings items p.1).map (.under (Decimal.natText p.2))).any Finding.isMissing =
            items.lacks p.1 := (List.any_map ..).trans (ih p.1)
      rw [findings, lacks, List.any_flatMap]
      simp only [found]
      have values : vs.zipIdx.map Prod.fst = vs := List.zipIdx_map_fst 0 vs
      rw [← values, List.any_map, values]
      rfl
    | _ => rfl
  | optional inner ih =>
    rw [findings, lacks, ← ih]
    cases v.isNull <;> rfl
  | record name ms ih =>
    cases v with
    | object pairs =>
      rw [findings, lacks, memberFindings_eq_flatMap]
      induction ms with
      | nil => rfl
      | cons m ms rest =>
        obtain ⟨here, later⟩ := List.forall_mem_cons.1 ih
        rw [List.flatMap_cons, List.any_append, m.any_isMissing_findings here, rest later]
        rfl
    | _ => rfl
  | upload => rfl
  | request => rfl

theorem refusedAsMissing_validate (schema : Schema) (ctx : Context) (v : Value) :
    refusedAsMissing (schema.validate ctx v) = schema.lacks v := by
  rw [validate_eq, refusedAsMissing_outcome, tellsMissing_tell, any_isMissing_findings]

theorem lacks_scalar {v : Value} (scalar : v.isScalar = true) : ∀ s : Schema, s.lacks v = false
  | .optional inner => by rw [lacks, lacks_scalar scalar inner, Bool.and_false]
  | .list _ | .record .. => by cases v <;> first | rfl | cases scalar
  | .any | .text _ | .integer _ | .number _ | .boolean | .bytes | .upload | .request => rfl

end Schema

end RequestBinding
