import RequestBinding.Extractor.RecordPlan

/-!
What a check finds.  A check does two things that do not depend on each other, and neither on the
place of the value: it brings the value into its declared form, and it finds what is wrong with it.
Main statement: a check answers with that form and adds a violation for each finding; gathering a
record from keys of its own does the same for each member.
-/
namespace RequestBinding
variable {α β γ : Type}

/-- Something wrong with a part of a value: the keys and indexes that lead to the part, and why. -/
structure Finding where
  trail : List String
  cause : Cause

namespace Finding

def here (cause : Cause) : Finding := ⟨[], cause⟩

def under (segment : String) (f : Finding) : Finding := ⟨segment :: f.trail, f.cause⟩

end Finding

/-- The violation that a finding is where the value stands. -/
def Context.tell (ctx : Context) (f : Finding) : Violation :=
  ⟨ctx.location, ".".intercalate (ctx.path ++ f.trail), f.cause, none⟩

@[simp] theorem Context.tell_here (ctx : Context) (cause : Cause) :
    ctx.tell (.here cause) = ctx.violation cause := by
  simp [tell, violation, field, Finding.here]

@[simp] theorem Context.tell_under (ctx : Context) (segment : String) (f : Finding) :
    ctx.tell (f.under segment) = (ctx.push segment).tell f := by
  simp [tell, Finding.under]

theorem Context.map_tell_under (ctx : Context) (segment : String) (fs : List Finding) :
    (fs.map (.under segment)).map ctx.tell = fs.map (ctx.push segment).tell := by
  simp [Function.comp_def]

def Cause.ifNot (ok : Bool) (cause : Cause) : List Cause := if ok then [] else [cause]

@[simp] theorem Cause.ifNot_eq_nil_iff {ok : Bool} {cause : Cause} :
    cause.ifNot ok = [] ↔ ok = true := by
  cases ok <;> simp [ifNot]

def TextLimits.causes (limits : TextLimits) (s : String) : List Cause :=
  (limits.minLength.elim [] fun least => Cause.ifNot (least ≤ s.length) (.tooShort least s.length)) ++
  ((limits.maxLength.elim [] fun most => Cause.ifNot (s.length ≤ most) (.tooLong most s.length)) ++
  ((limits.pattern.elim [] fun p =>
    match p.compiled with
    | .ok finds => Cause.ifNot (finds s) (.patternMismatch p.text)
    | .error _ => [.patternInvalid p.text]) ++
  (limits.format.elim [] fun f => Cause.ifNot (f.accepts s) (.wrongFormat f))))

def Bounds.causes (less : α → α → Bool) (quantity : α → Quantity) (bounds : Bounds α) (x : α) :
    List Cause :=
  (bounds.minimum.elim [] fun least => Cause.ifNot (!less x least) (.below (quantity least) (quantity x))) ++
  (bounds.maximum.elim [] fun most => Cause.ifNot (!less most x) (.above (quantity most) (quantity x)))

namespace Schema

mutual

def settle : Schema → Value → Value
  | .number _, v => match v with
    | .int i => .float (widen i)
    | v => v
  | .bytes, v => match v with
    | .string s => .bytes (Text.Utf8.encode s)
    | v => v
  | .list items, v => match v with
    | .list vs => .list (vs.map fun v => settle items v)
    | v => v
  | .optional inner, v => if v.isNull then .null else settle inner v
  | .record _ ms, v => match v with
    | .object pairs => .object (settleMembers ms pairs)
    | v => v
  | .any, v | .text _, v | .integer _, v | .boolean, v | .upload, v | .request, v => v

/-- The members of a record in their declared form; one that is absent has its declared value. -/
def settleMembers : List (Member Schema) → List (String × Value) → List (String × Value)
  | [], _ => []
  | ⟨name, alias?, schema, default?⟩ :: r, pairs =>
    (match Value.lastMember? pairs (alias?.getD name) with
      | some v => [(name, settle schema v)]
      | none => (absentValue? schema default?).toList.map (name, ·)) ++ settleMembers r pairs

end

def mistyped (expected : String) (v : Value) : List Finding :=
  [.here (.wrongType expected v.typeName)]

mutual

def findings : Schema → Value → List Finding
  | .any, _ => []
  | .text limits, v => match v with
    | .string s => (limits.causes s).map .here
    | v => mistyped "string" v
  | .integer bounds, v => match v with
    | .int i => (bounds.causes (fun a b => decide (a < b)) Quantity.int i).map .here
    | v => mistyped "integer" v
  | .number bounds, v => match v with
    | .float x => (bounds.causes (fun a b => decide (a < b)) Quantity.double x).map .here
    | .int i => (bounds.causes (fun a b => decide (a < b)) Quantity.double (widen i)).map .here
    | v => mistyped "number" v
  | .boolean, v => match v with
    | .bool _ => []
    | v => mistyped "boolean" v
  | .bytes, v => match v with
    | .bytes _ | .string _ => []
    | v => mistyped "bytes" v
  | .list items, v => match v with
    | .list vs => vs.zipIdx.flatMap fun p => (findings items p.1).map (.under (Decimal.natText p.2))
    | v => mistyped "array" v
  | .optional inner, v => if v.isNull then [] else findings inner v
  | .record _ ms, v => match v with
    | .object pairs => memberFindings ms pairs
    | v => mistyped "object" v
  | .upload, v => mistyped "upload" v
  | .request, v => mistyped "request" v

def memberFindings : List (Member Schema) → List (String × Value) → List Finding
  | [], _ => []
  | ⟨name, alias?, schema, default?⟩ :: r, pairs =>
    (match Value.lastMember? pairs (alias?.getD name) with
      | some v => findings schema v
      | none => if (absentValue? schema default?).isSome then [] else [.here .missing]).map
        (.under (alias?.getD name)) ++ memberFindings r pairs

end

end Schema

theorem Schema.isNone_absentValue? (schema : Schema) (default? : Option Value) :
    (schema.absentValue? default?).isNone = (default?.isNone && !schema.isOptional) := by
  unfold absentValue?
  cases default? <;> cases schema.isOptional <;> rfl

def Member.findings (m : Member Schema) (found : Option Value) : List Finding :=
  (match found with
    | some v => m.schema.findings v
    | none => if (m.schema.absentValue? m.default?).isSome then [] else [.here .missing]).map
      (.under m.key)

/-- The pair of a member made of what was found for it; none if nothing was and it has no declared
value. -/
def Member.settle (m : Member Schema) (found : Option Value) : List (String × Value) :=
  match found with
  | some v => [(m.name, m.schema.settle v)]
  | none => (m.schema.absentValue? m.default?).toList.map (m.name, ·)

theorem Member.mem_findings {m : Member Schema} {found : Option Value} {f : Finding}
    (h : f ∈ m.findings found) : ∃ g, f = .under m.key g ∧
      ((∃ v, found = some v ∧ g ∈ m.schema.findings v) ∨
        found = none ∧ m.isRequired = true ∧ g = .here .missing) := by
  obtain ⟨g, hg, rfl⟩ := List.mem_map.1 h
  refine ⟨g, rfl, ?_⟩
  cases found with
  | some v => exact .inl ⟨v, rfl, hg⟩
  | none =>
    have required : m.isRequired = (m.schema.absentValue? m.default?).isNone :=
      (m.schema.isNone_absentValue? m.default?).symm
    dsimp only at hg
    split at hg
    · cases hg
    · next nothing => exact .inr ⟨rfl, by simpa [required] using nothing, List.mem_singleton.1 hg⟩

theorem Schema.memberFindings_eq_flatMap (ms : List (Member Schema))
    (pairs : List (String × Value)) : memberFindings ms pairs =
      ms.flatMap fun m => m.findings (Value.lastMember? pairs m.key) := by
  induction ms with
  | nil => rfl
  | cons m ms ih =>
    rw [List.flatMap_cons, ← ih]
    rfl

theorem Schema.settleMembers_eq_flatMap (ms : List (Member Schema))
    (pairs : List (String × Value)) : settleMembers ms pairs =
      ms.flatMap fun m => m.settle (Value.lastMember? pairs m.key) := by
  induction ms with
  | nil => rfl
  | cons m ms ih =>
    rw [List.flatMap_cons, ← ih]
    rfl

namespace Checking

/-- A check that answers with a value and adds violations, whatever was found before. -/
def Adds (m : Checking α) (x : α) (vs : List Violation) : Prop := ∀ es, m.run es = (x, es ++ vs)

theorem adds_pure (x : α) : Adds (pure x : Checking α) x [] :=
  fun es => congrArg (Prod.mk x) (List.append_nil es).symm

theorem adds_report (ctx : Context) (cause : Cause) :
    Adds (report ctx cause) () [ctx.violation cause] := fun _ => rfl

theorem Adds.bind {m : Checking α} {f : α → Checking β} {x : α} {y : β} {vs ws : List Violation}
    (here : Adds m x vs) (rest : Adds (f x) y ws) : Adds (m >>= f) y (vs ++ ws) := by
  intro es
  rw [← List.append_assoc]
  exact (congrArg (fun p => (f p.1).run p.2) (here es)).trans (rest _)

theorem Adds.map {m : Checking α} {x : α} {vs : List Violation} (here : Adds m x vs) (f : α → β) :
    Adds (m >>= fun x => pure (f x)) (f x) vs := by
  simpa using here.bind (f := fun x => pure (f x)) (adds_pure (f x))

theorem adds_ensure (ctx : Context) (ok : Bool) (cause : Cause) :
    Adds (ensure ctx ok cause) () ((cause.ifNot ok).map ctx.violation) := by
  cases ok
  · exact adds_report ctx cause
  · exact adds_pure ()

theorem Adds.limit {limit : Option Nat} {check : Nat → Checking Unit} {causes : Nat → List Cause}
    {next : Unit → Checking α} {x : α} {vs : List Violation} {ctx : Context}
    (checked : ∀ y, Adds (check y) () ((causes y).map ctx.violation)) (rest : Adds (next ()) x vs) :
    Adds (match limit with
      | some y => check y >>= next
      | none => next ()) x ((limit.elim [] causes).map ctx.violation ++ vs) := by
  cases limit with
  | some y => exact (checked y).bind rest
  | none => exact rest

end Checking

open Checking

namespace Schema

theorem adds_checkFormat (format : Option Format) (ctx : Context) (s : String) :
    Adds (match format with
      | some f => ensure ctx (f.accepts s) (.wrongFormat f)
      | none => pure ()) ()
      ((format.elim [] fun f => Cause.ifNot (f.accepts s) (.wrongFormat f)).map ctx.violation) := by
  cases format with
  | some f => exact adds_ensure ctx _ _
  | none => exact adds_pure ()

theorem adds_checkText (limits : TextLimits) (ctx : Context) (s : String) :
    Adds (checkText limits ctx s) () ((limits.causes s).map ctx.violation) := by
  unfold checkText TextLimits.causes
  dsimp only
  rw [List.map_append, List.map_append, List.map_append]
  refine Adds.limit (fun _ => adds_ensure ctx _ _) ?_
  refine Adds.limit (fun _ => adds_ensure ctx _ _) ?_
  have format := adds_checkFormat limits.format ctx s
  cases limits.pattern with
  | none => exact format
  | some p =>
    dsimp only [Option.elim]
    cases p.compiled with
    | ok finds => exact (adds_ensure ctx _ _).bind format
    | error _ => exact (adds_report ctx _).bind format

theorem adds_checkMost (less : γ → γ → Bool) (quantity : γ → Quantity) (maximum : Option γ)
    (ctx : Context) (x : γ) :
    Adds (match maximum with
      | some most => ensure ctx (!less most x) (.above (quantity most) (quantity x))
      | none => pure ()) ()
      ((maximum.elim [] fun most =>
        Cause.ifNot (!less most x) (.above (quantity most) (quantity x))).map ctx.violation) := by
  cases maximum with
  | some most => exact adds_ensure ctx _ _
  | none => exact adds_pure ()

theorem adds_checkBounds (less : γ → γ → Bool) (quantity : γ → Quantity) (bounds : Bounds γ)
    (ctx : Context) (x : γ) :
    Adds (checkBounds less quantity bounds ctx x) ()
      ((bounds.causes less quantity x).map ctx.violation) := by
  unfold checkBounds Bounds.causes
  rw [List.map_append]
  have most := adds_checkMost less quantity bounds.maximum ctx x
  cases bounds.minimum with
  | some least => exact (adds_ensure ctx _ _).bind most
  | none => exact most

theorem adds_checkItems {check : Context → Value → Checking Value} {form : Value → Value}
    {found : Value → List Finding}
    (each : ∀ ctx v, Adds (check ctx v) (form v) ((found v).map ctx.tell)) (ctx : Context) (i : Nat)
    (vs : List Value) :
    Adds (checkItems check ctx i vs) (vs.map form)
      (((vs.zipIdx i).flatMap fun p => (found p.1).map (.under (Decimal.natText p.2))).map
        ctx.tell) := by
  induction vs generalizing i with
  | nil => exact adds_pure []
  | cons v vs ih =>
    rw [List.zipIdx_cons, List.flatMap_cons, List.map_append, ctx.map_tell_under]
    exact (each _ v).bind ((ih (i + 1)).map _)

theorem adds_mistyped (ctx : Context) (expected : String) (v : Value) : Adds (do
    report ctx (.wrongType expected v.typeName)
    pure v) v ((mistyped expected v).map ctx.tell) := by
  simpa [mistyped] using (adds_report ctx (.wrongType expected v.typeName)).map fun _ => v

theorem adds_missing (ctx : Context) :
    Adds (report ctx .missing) () ([Finding.here .missing].map ctx.tell) := by
  simpa using adds_report ctx .missing

theorem adds_here {ctx : Context} {m : Checking Unit} {causes : List Cause}
    (added : Adds m () (causes.map ctx.violation)) (v : Value) :
    Adds (m >>= fun _ => pure v) v ((causes.map .here).map ctx.tell) := by
  simpa [Function.comp_def] using added.map fun _ => v

theorem induction {motive : Schema → Prop} (any : motive .any) (text : ∀ l, motive (.text l))
    (integer : ∀ b, motive (.integer b)) (number : ∀ b, motive (.number b))
    (boolean : motive .boolean) (bytes : motive .bytes)
    (list : ∀ items, motive items → motive (.list items))
    (optional : ∀ inner, motive inner → motive (.optional inner))
    (record : ∀ name ms, (∀ m ∈ ms, motive m.schema) → motive (.record name ms))
    (upload : motive .upload) (request : motive .request) (s : Schema) : motive s :=
  @Schema.rec motive (fun ms => ∀ m ∈ ms, motive m.schema) (fun m => motive m.schema) any text
    integer number boolean bytes list optional record upload request (List.forall_mem_nil _)
    (fun _ _ first rest => List.forall_mem_cons.2 ⟨first, rest⟩) (fun _ _ _ _ whole => whole) s

theorem adds_checkMembers {ms : List (Member Schema)}
    (each : ∀ m ∈ ms, ∀ ctx v,
      Adds (m.schema.check ctx v) (m.schema.settle v) ((m.schema.findings v).map ctx.tell))
    (ctx : Context) (pairs : List (String × Value)) :
    Adds (checkMembers ms ctx pairs) (settleMembers ms pairs)
      ((memberFindings ms pairs).map ctx.tell) := by
  induction ms with
  | nil => exact adds_pure []
  | cons m ms ih =>
    obtain ⟨name, alias?, schema, default?⟩ := m
    obtain ⟨here, rest⟩ := List.forall_mem_cons.1 each
    have after (found : List (String × Value)) : Adds
        (checkMembers ms ctx pairs >>= fun rest => pure (found ++ rest))
        (found ++ settleMembers ms pairs) ((memberFindings ms pairs).map ctx.tell) := (ih rest).map _
    rw [checkMembers, settleMembers, memberFindings, List.map_append, ctx.map_tell_under]
    cases Value.lastMember? pairs (alias?.getD name) with
    | some v => exact (here _ v).bind ((adds_pure [(name, _)]).bind (after _))
    | none =>
      cases absentValue? schema default? with
      | some v => exact (adds_pure [(name, v)]).bind (after _)
      | none => exact (adds_missing _).bind (f := fun _ => _) ((adds_pure []).bind (after _))

/-- A check answers with the declared form of the value and adds what is wrong with it. -/
theorem adds_check (s : Schema) (ctx : Context) (v : Value) :
    Adds (s.check ctx v) (s.settle v) ((s.findings v).map ctx.tell) := by
  induction s using Schema.induction generalizing ctx v with
  | any => exact adds_pure v
  | text limits =>
    unfold check findings
    cases v with
    | string s => exact adds_here (adds_checkText limits ctx s) _
    | _ => exact adds_mistyped ctx _ _
  | integer bounds =>
    unfold check findings
    cases v with
    | int i => exact adds_here (adds_checkBounds _ _ bounds ctx i) _
    | _ => exact adds_mistyped ctx _ _
  | number bounds =>
    unfold check findings
    cases v with
    | float x => exact adds_here (adds_checkBounds _ _ bounds ctx x) _
    | int i => exact adds_here (adds_checkBounds _ _ bounds ctx (widen i)) _
    | _ => exact adds_mistyped ctx _ _
  | boolean =>
    unfold check findings
    cases v with
    | bool b => exact adds_pure _
    | _ => exact adds_mistyped ctx _ _
  | bytes =>
    unfold check findings
    cases v with
    | bytes bs => exact adds_pure _
    | string s => exact adds_pure _
    | _ => exact adds_mistyped ctx _ _
  | list items ih =>
    unfold check findings
    cases v with
    | list vs => exact (adds_checkItems ih ctx 0 vs).map _
    | _ => exact adds_mistyped ctx _ _
  | optional inner ih =>
    rw [check, settle, findings]
    cases v.isNull
    · exact ih ctx v
    · exact adds_pure _
  | record name ms ih =>
    unfold check findings
    cases v with
    | object pairs => exact (adds_checkMembers ih ctx pairs).map _
    | _ => exact adds_mistyped ctx _ _
  | upload => exact adds_mistyped ctx _ v
  | request => exact adds_mistyped ctx _ v

end Schema

namespace Checking

def outcome (x : α) (vs : List Violation) : Except (List Violation) α :=
  match vs with
  | [] => .ok x
  | vs => .error vs

theorem outcome_eq_ok_iff {x y : α} {vs : List Violation} :
    outcome x vs = .ok y ↔ vs = [] ∧ x = y := by
  cases vs <;> simp [outcome]

theorem outcome_eq_error_iff {x : α} {vs ws : List Violation} :
    outcome x vs = .error ws ↔ vs = ws ∧ vs ≠ [] := by
  cases vs <;> simp [outcome]

theorem map_outcome (f : α → β) (x : α) (vs : List Violation) :
    (outcome x vs).map f = outcome (f x) vs := by
  cases vs <;> rfl

end Checking

/-- A value is bound in its declared form unless something is wrong with it. -/
theorem Schema.validate_eq (s : Schema) (ctx : Context) (v : Value) :
    s.validate ctx v = outcome (s.settle v) ((s.findings v).map ctx.tell) := by
  rw [validate, s.adds_check ctx v, List.nil_append]
  cases (s.findings v).map ctx.tell <;> rfl

theorem Schema.bind_eq (s : Schema) (source : Source) (key : String) (v : Value) :
    s.bind source key v = outcome (.value (s.settle v))
      ((s.findings v).map (Context.tell (.atKey source.name key))) := by
  rw [bind, validate_eq, map_outcome]

namespace RecordPlan

def findings (members : List (Member Schema)) (found : List (Option Value)) : List Finding :=
  (members.zip found).flatMap fun p => p.1.findings p.2

def settle (members : List (Member Schema)) (found : List (Option Value)) :
    List (String × Value) :=
  (members.zip found).flatMap fun p => p.1.settle p.2

theorem findings_cons (m : Member Schema) (ms : List (Member Schema)) (x : Option Value)
    (r : List (Option Value)) : findings (m :: ms) (x :: r) = m.findings x ++ findings ms r := rfl

theorem settle_cons (m : Member Schema) (ms : List (Member Schema)) (x : Option Value)
    (r : List (Option Value)) : settle (m :: ms) (x :: r) = m.settle x ++ settle ms r := rfl

/-- Gathering a record makes of each member, and finds for it, what a check of it does. -/
theorem adds_pairsCollecting (source : Source) (members : List (Member Schema))
    (found : List (Option Value)) :
    Adds (pairsCollecting source members found) (settle members found)
      ((findings members found).map (Context.tell ⟨source.name, []⟩)) := by
  induction members generalizing found with
  | nil => exact adds_pure []
  | cons m ms ih =>
    cases found with
    | nil => exact adds_pure []
    | cons x r =>
      have after (pair : List (String × Value)) : Adds
          (pairsCollecting source ms r >>= fun rest => pure (pair ++ rest)) (pair ++ settle ms r)
          ((findings ms r).map (Context.tell ⟨source.name, []⟩)) := (ih r).map _
      unfold pairsCollecting
      rw [findings_cons, settle_cons, List.map_append]
      unfold Member.findings Member.settle
      rw [Context.map_tell_under]
      cases x with
      | some v =>
        exact (m.schema.adds_check _ v).bind ((adds_pure [(m.name, _)]).bind (after _))
      | none =>
        cases m.schema.absentValue? m.default? with
        | some v => exact (adds_pure [(m.name, v)]).bind (after _)
        | none =>
          exact (Schema.adds_missing _).bind (f := fun _ => _) ((adds_pure []).bind (after _))

end RecordPlan

end RequestBinding
