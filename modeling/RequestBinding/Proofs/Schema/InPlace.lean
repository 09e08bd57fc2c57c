import RequestBinding.Proofs.Violation.Location

/-!
Checking in place.  A check that carries one context along extends it on its way into a part of the
value and takes that back on its way out.  Main statement: it comes to what checking comes to and
leaves its context as it was, and what it adds to the violations is the same after all violations,
and in all contexts but for the place that is told.
-/
namespace RequestBinding
variable {α β : Type}

/-- The context of the value that this one is a part of. -/
def Context.pop (ctx : Context) : Context := { ctx with path := ctx.path.dropLast }

@[simp] theorem Context.pop_push (ctx : Context) (segment : String) :
    (ctx.push segment).pop = ctx := by simp [pop, push]

/-- A check under way through a value. -/
structure Walk where
  ctx : Context
  violations : List Violation

abbrev Walking (α : Type) := StateM Walk α

namespace Walking

def here (m : Context → Checking α) : Walking α := fun w =>
  let (x, violations) := (m w.ctx).run w.violations
  (x, { w with violations })

/-- Go into a part of the value and come back out of it. -/
def into (segment : String) (m : Walking α) : Walking α := do
  modify fun w => { w with ctx := w.ctx.push segment }
  let x ← m
  modify fun w => { w with ctx := w.ctx.pop }
  return x

theorem pure_eq_here (x : α) : (pure x : Walking α) = here fun _ => pure x := rfl

theorem here_bind (m : Context → Checking α) (f : α → Context → Checking β) :
    (here m >>= fun x => here (f x)) = here fun ctx => m ctx >>= fun x => f x ctx := rfl

theorem into_here (segment : String) (m : Context → Checking α) :
    into segment (here m) = here fun ctx => m (ctx.push segment) := by
  funext w
  exact congrArg (fun ctx => ((m (w.ctx.push segment) w.violations).1,
    Walk.mk ctx (m (w.ctx.push segment) w.violations).2)) (w.ctx.pop_push segment)

theorem into_bind (segment : String) {m : Walking α} {f : α → Walking β} {m' : Context → Checking α}
    {f' : α → Context → Checking β} (part : m = here m') (rest : ∀ x, f x = here (f' x)) :
    (into segment m >>= f) = here fun ctx => m' (ctx.push segment) >>= fun x => f' x ctx := by
  rw [part, into_here, funext rest]
  rfl

def items (walk : Value → Walking Value) : Nat → List Value → Walking (List Value)
  | _, [] => return []
  | i, v :: r => do
    let v' ← into (Decimal.natText i) (walk v)
    let r' ← items walk (i + 1) r
    return v' :: r'

theorem items_eq {walk : Value → Walking Value} {check : Context → Value → Checking Value}
    (each : ∀ v, walk v = here fun ctx => check ctx v) (i : Nat) (vs : List Value) :
    items walk i vs = here fun ctx => Schema.checkItems check ctx i vs := by
  induction vs generalizing i with
  | nil => rfl
  | cons v vs ih =>
    rw [items, ih]
    exact into_bind _ (each v) fun _ => rfl

end Walking

open Walking Checking

namespace Schema

mutual

def walk : Schema → Value → Walking Value
  | .list items, v =>
    match v with
    | .list vs => do return .list (← Walking.items (walk items) 0 vs)
    | _ => here fun ctx => do
      report ctx (.wrongType "array" v.typeName)
      return v
  | .optional inner, v => if v.isNull then pure .null else walk inner v
  | .record _ ms, v =>
    match v with
    | .object pairs => do return .object (← walkMembers ms pairs)
    | _ => here fun ctx => do
      report ctx (.wrongType "object" v.typeName)
      return v
  | s, v => here fun ctx => s.check ctx v

def walkMembers : List (Member Schema) → List (String × Value) → Walking (List (String × Value))
  | [], _ => return []
  | ⟨name, alias?, schema, default?⟩ :: r, pairs => do
    let found ← into (alias?.getD name) <|
      match Value.lastMember? pairs (alias?.getD name) with
      | some v => do return [(name, ← walk schema v)]
      | none =>
        match absentValue? schema default? with
        | some v => return [(name, v)]
        | none => here fun ctx => do
          report ctx .missing
          return []
    let rest ← walkMembers r pairs
    return found ++ rest

end

theorem walkMembers_eq {ms : List (Member Schema)}
    (each : ∀ m ∈ ms, ∀ v, m.schema.walk v = here fun ctx => m.schema.check ctx v)
    (pairs : List (String × Value)) :
    walkMembers ms pairs = here fun ctx => checkMembers ms ctx pairs := by
  induction ms with
  | nil => rfl
  | cons m ms ih =>
    obtain ⟨name, alias?, schema, default?⟩ := m
    obtain ⟨own, rest⟩ := List.forall_mem_cons.1 each
    -- whatever is found for the member, the context is back before the others are checked
    have after {m : Walking (List (String × Value))} {m' : Context → Checking (List (String × Value))}
        (part : m = here m') :
        (do
          let found ← into (alias?.getD name) m
          let others ← here fun ctx => checkMembers ms ctx pairs
          return found ++ others) = here fun ctx => do
          let found ← m' (ctx.push (alias?.getD name))
          let others ← checkMembers ms ctx pairs
          return found ++ others :=
      into_bind _ part fun found =>
        here_bind (fun ctx => checkMembers ms ctx pairs) fun others _ => pure (found ++ others)
    rw [walkMembers, ih rest]
    simp only [checkMembers]
    cases Value.lastMember? pairs (alias?.getD name) with
    | some v =>
      have found : (do return [(name, ← schema.walk v)] : Walking (List (String × Value))) =
          here fun ctx => do return [(name, ← schema.check ctx v)] := by
        rw [own v]
        rfl
      exact after found
    | none =>
      cases absentValue? schema default? with
      | some v => exact after (pure_eq_here [(name, v)])
      | none => exact after rfl

/-- A check in place is the check of the value at the place. -/
theorem walk_eq (s : Schema) (v : Value) : s.walk v = here fun ctx => s.check ctx v := by
  induction s using Schema.induction generalizing v with
  | list items ih =>
    cases v with
    | list vs =>
      rw [walk, items_eq ih]
      rfl
    | _ => rfl
  | optional inner ih =>
    rw [walk]
    simp only [check]
    split
    · rfl
    · exact ih v
  | record name ms ih =>
    cases v with
    | object pairs =>
      rw [walk, walkMembers_eq ih]
      rfl
    | _ => rfl
  | _ => rfl

end Schema

/-- Only what is missing is put in words that depend on where it is. -/
theorem Context.message_tell (ctx : Context) (f : Finding) :
    (f.cause = .missing → (ctx.tell f).message =
      s!"Missing required {ctx.location} parameter '{(ctx.tell f).field}'") ∧
    (f.cause ≠ .missing → ∀ other : Context, (ctx.tell f).message = (other.tell f).message) := by
  obtain ⟨trail, cause⟩ := f
  refine ⟨?_, fun there other => ?_⟩
  · rintro ⟨⟩
    rfl
  · cases cause with
    | missing => exact absurd rfl there
    | _ => rfl

namespace Schema

theorem run_walk (s : Schema) (v : Value) (w : Walk) : (s.walk v).run w =
    (s.settle v, { w with violations := w.violations ++ (s.findings v).map w.ctx.tell }) := by
  have checked := s.adds_check w.ctx v w.violations
  rw [s.walk_eq v]
  exact congrArg (fun p : Value × List Violation => (p.1, Walk.mk w.ctx p.2)) checked

/-- Whatever the context and the violations so far, checking in place gives the value in its declared
form, leaves the context as it was and keeps the violations in front of those that it adds; so does
checking.  What is added is one violation for each finding, where the path of the context leads on
to the part that is refused, and only what is missing is told in words that depend on the context. -/
theorem walk_compositional (s : Schema) (v : Value) :
    (∀ w : Walk, (s.walk v).run w =
      (s.settle v, { w with violations := w.violations ++ (s.findings v).map w.ctx.tell })) ∧
    (∀ (ctx : Context) (es : List Violation),
      (s.check ctx v).run es = (s.settle v, es ++ (s.findings v).map ctx.tell)) ∧
    ∀ f ∈ s.findings v, s.Offends v f.trail f.cause ∧ ∀ ctx : Context,
      (ctx.tell f).location = ctx.location ∧
      (ctx.tell f).field = ".".intercalate (ctx.path ++ f.trail) ∧
      (ctx.tell f).kind = f.cause.kind ∧ (ctx.tell f).position = none ∧
      (f.cause = .missing → (ctx.tell f).message =
        s!"Missing required {ctx.location} parameter '{(ctx.tell f).field}'") ∧
      (f.cause ≠ .missing → ∀ other : Context, (ctx.tell f).message = (other.tell f).message) :=
  ⟨s.run_walk v, fun ctx es => s.adds_check ctx v es, fun f hf => ⟨offends_of_mem_findings hf,
    fun ctx => ⟨rfl, rfl, rfl, rfl, ctx.message_tell f⟩⟩⟩

/-- A missing member is told by the part of the request as well as by its path. -/
theorem messages_by_location :
    ¬∀ (s : Schema) (v : Value) (ctx other : Context), ctx.path = other.path →
      ((s.check ctx v).run []).2.map Violation.message =
        ((s.check other v).run []).2.map Violation.message := by
  intro same
  have filters := same (.record "Filters" [⟨"limit", none, .integer {}, none⟩]) (.object [])
    ⟨"query", []⟩ ⟨"body", []⟩ rfl
  exact absurd filters (by decide)

end Schema

end RequestBinding
