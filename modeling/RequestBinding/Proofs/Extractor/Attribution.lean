import RequestBinding.Proofs.Extractor.Optional
import RequestBinding.Proofs.Routine.Ends
import RequestBinding.Injector.Plan

/-!
Why extractors bind nothing.  Main statement: an extractor that binds nothing has violations for it,
all of its own part of the request, and with paths that begin where it looked; a payload that cannot
be decoded has no path, and in a payload that can the path leads to what is refused.
-/
namespace RequestBinding

/-- The path begins with the key; the empty key adds nothing to paths. -/
def Keyed (key : String) (path : List String) : Prop := key ≠ "" → path.head? = some key

theorem keyed_cons (key : String) (trail : List String) : Keyed key (key :: trail) := fun _ => rfl

theorem keyed_atKey (location key : String) (trail : List String) :
    Keyed key ((Context.atKey location key).path ++ trail) := by
  intro nonempty
  rw [Context.atKey, if_neg nonempty]
  rfl

namespace Target

/-- Where a parameter is looked up: a record under the keys of its members, and anything else under
its own. -/
def Under (source : Source) (t : Target) (path : List String) : Prop :=
  match t.schema.members? with
  | some ms => ∃ m ∈ ms, path.head? = some (source.normal m.key)
  | none => Keyed (source.normal t.key) path

/-- Where a body is refused: nowhere if it cannot be decoded, at the part of the payload that is
refused if the parameter is the whole payload, and otherwise under the key. -/
def Within (payload : Payload) (embed : Bool) (t : Target) (cause : Cause) (path : List String) :
    Prop :=
  if Extractor.isRaw t embed then Keyed t.key path
  else match payload with
    | .error e => cause = .undecodable e.message ∧ path = []
    | .ok none => Keyed t.key path
    | .ok (some v) => if embed then Keyed t.key path else t.schema.Offends v path cause

def Blames (source : Source) (payload : Payload) (embed : Bool) (t : Target) (cause : Cause)
    (path : List String) : Prop :=
  match source with
  | .body => t.Within payload embed cause path
  | .file => Keyed t.key path
  | _ => t.Under source path

end Target

/-- Every violation that stands in the way of a value is of one part of the request, and at a path
and for a cause that are right. -/
def Attributed (location : String) (right : Cause → List String → Prop) (x : Bound) : Prop :=
  ∀ vs, x = .error vs → ∀ w ∈ vs, ∃ path, w.IsAt location path ∧ right w.cause path

section
variable (source : Source) {right : Cause → List String → Prop}

theorem attributed_ok (location : String) (a : Arg) : Attributed location right (.ok a) := nofun

theorem attributed_outcome {location : String} {path : List String} {fs : List Finding} (a : Arg)
    (each : ∀ f ∈ fs, right f.cause (path ++ f.trail)) :
    Attributed location right (Checking.outcome a (fs.map (Context.tell ⟨location, path⟩))) := by
  intro vs refused w hw
  rw [Checking.outcome_eq_error_iff] at refused
  obtain ⟨f, hf, rfl⟩ := List.mem_map.1 (refused.1 ▸ hw)
  exact ⟨_, Violation.isAt_tell _ f, each f hf⟩

theorem Target.attributed_absent_of_not_required {t : Target} (optional : t.isRequired = false) :
    Attributed source.name right (t.absent source) := by
  obtain ⟨v, declared⟩ := Option.isSome_iff_exists.1 (Option.isNone_eq_false_iff.1 optional)
  rw [absent, declared]
  exact attributed_ok _ _

theorem Target.attributed_absent (t : Target) (missing : right .missing [t.key]) :
    Attributed source.name right (t.absent source) := by
  cases required : t.isRequired with
  | true =>
    obtain ⟨absent, here⟩ := t.isAt_absent source required
    intro vs refused w hw
    cases absent.symm.trans refused
    obtain rfl := List.mem_singleton.1 hw
    exact ⟨_, here, missing⟩
  | false => exact attributed_absent_of_not_required source required

theorem Schema.attributed_bind (s : Schema) (key : String) (v : Value) :
    Attributed source.name (fun _ => Keyed key) (s.bind source key v) := by
  rw [bind_eq]
  exact attributed_outcome _ fun f _ => keyed_atKey source.name key f.trail

theorem Schema.attributed_bind_whole (s : Schema) (v : Value) :
    Attributed source.name (fun cause path => s.Offends v path cause) (s.bind source "" v) := by
  rw [bind_eq]
  exact attributed_outcome _ fun f hf => offends_of_mem_findings hf

theorem RecordPlan.attributed_bind (normal : String → String) (ms : List (Member Schema))
    (find : String → Schema → Option Value) (t : Target) :
    Attributed source.name (fun _ path => ∃ m ∈ ms, path.head? = some (normal m.key))
      ((ofMembers source normal ms).bind find t) := by
  rw [bind_eq]
  cases into : (ofMembers source normal ms).looksInto find t with
  | true =>
    rw [if_pos rfl, bindCollecting_eq, Checking.map_outcome]
    refine attributed_outcome _ fun f hf => ?_
    obtain ⟨⟨m, looked⟩, hm, hf⟩ := List.mem_flatMap.1 hf
    obtain ⟨m, declared, rfl⟩ := List.mem_map.1 (List.of_mem_zip hm).1
    obtain ⟨g, rfl, -⟩ := Member.mem_findings hf
    exact ⟨m, declared, rfl⟩
  | false =>
    have optional : t.isRequired = false := (Bool.or_eq_false_iff.1 into).1
    exact Target.attributed_absent_of_not_required source optional

end

namespace Extractor

theorem attributed_where (source : Source) (find : String → Schema → Option Value) (t : Target) :
    Attributed source.name (fun _ => t.Under source)
      (bindWhere source source.normal find { t with key := source.normal t.key }) := by
  unfold bindWhere Target.Under
  dsimp only
  cases t.schema.members? with
  | some ms => exact RecordPlan.attributed_bind source _ ms find _
  | none =>
    cases find (source.normal t.key) t.schema with
    | some v => exact t.schema.attributed_bind source _ v
    | none => exact Target.attributed_absent source _ (keyed_cons _ [])

theorem attributed_body (payload : Payload) (body : Bytes) (embed : Bool) (t : Target) :
    Attributed "body" (t.Within payload embed)
      (if isRaw t embed then bindRaw body t else bindDecoded payload t embed) := by
  unfold Target.Within
  cases isRaw t embed with
  | true =>
    simp only [if_true]
    unfold bindRaw
    split
    · exact t.attributed_absent .body (keyed_cons _ [])
    · exact attributed_ok _ _
  | false =>
    simp only [Bool.false_eq_true, if_false]
    cases payload with
    | error e =>
      rintro vs ⟨⟩ w hw
      obtain rfl := List.mem_singleton.1 hw
      exact ⟨[], ⟨rfl, rfl⟩, rfl, rfl⟩
    | ok payload =>
      have absent : Attributed "body" (fun _ => Keyed t.key) (t.absent .body) :=
        t.attributed_absent .body (keyed_cons _ [])
      unfold bindDecoded bindPayload
      cases payload with
      | none => cases embed <;> exact absent
      | some v =>
        cases embed with
        | false => exact t.schema.attributed_bind_whole .body v
        | true =>
          dsimp only [Option.bind, if_true]
          cases v.get? t.key with
          | none => exact absent
          | some v => exact t.schema.attributed_bind .body t.key v

theorem attributed_files {n : Nat} (parts : List FilePart) (t : Target) (limits : UploadLimits)
    (s : Session n) :
    Attributed "file" (fun _ => Keyed t.key) (bindFiles parts t limits s).1 := by
  have absent : Attributed "file" (fun _ => Keyed t.key) (t.absent .file) :=
    t.attributed_absent .file (keyed_cons _ [])
  rw [bindFiles_eq]
  split
  · exact absent
  · split
    · show Attributed "file" _ (bindHandles _ t)
      rcases bindHandles_cases _ t with ⟨a, bound⟩ | none
      · rw [bound]
        exact attributed_ok _ _
      · rw [none]
        exact absent
    · rintro _ ⟨⟩ w hw
      obtain ⟨p, -, told⟩ := List.mem_filterMap.1 hw
      obtain ⟨cause, -, rfl⟩ := Option.map_eq_some_iff.1 told
      exact ⟨[t.key], ⟨rfl, String.intercalate_singleton.symm⟩, keyed_cons _ []⟩

variable {n : Nat} {config : Config n} {source : Source} {t : Target} {embed : Bool} {e : Extractor}

theorem attributed_apply (made : ofSource? config source t embed = some e) (r : Request)
    (s : Session n) : Attributed source.name
      (t.Blames source (Session.payload config.decoder r.body s).1 embed) (e.apply r s).1 := by
  cases source with
  | path | query | header | cookie | form =>
    cases made
    exact attributed_where _ _ t
  | file =>
    cases made
    exact attributed_files _ t config.limits _
  | body =>
    cases made
    rw [apply_body, apply_ite Prod.fst]
    exact attributed_body _ r.body embed t
  | dependency | request => cases made

/-- An extractor that binds nothing says why.  Every violation is of the part of the request that
the extractor reads, and has a path: none where the body cannot be decoded; to what is refused in the
payload, where that is the parameter; under the key of a member for a record of keys of its own; and
under the key that was looked up for anything else.  To an injector, that is the client's fault. -/
theorem refusal_attributed (made : ofSource? config source t embed = some e) {r : Request}
    {s : Session n} {vs : List Violation} (refused : (e.apply r s).1 = .error vs) :
    (vs ≠ [] ∧ ∀ w ∈ vs, ∃ path, w.IsAt source.name path ∧
      t.Blames source (Session.payload config.decoder r.body s).1 embed w.cause path) ∧
    ∀ name pass, (Plan.follow r [(⟨name, pass, .extract e⟩, none)] {}).ComesTo s
      (.error (.validation vs)) (e.apply r s).2 := by
  have some : vs ≠ [] := fun none => e.apply_ne_error_nil r s (none ▸ refused)
  refine ⟨⟨some, attributed_apply made r s vs refused⟩, fun name pass => ?_⟩
  have gathered : (Gathering.add {} pass name (e.apply r s).1).finish.mapError Fault.validation =
      .error (.validation vs) := by
    rw [refused]
    show Except.mapError Fault.validation (if vs.isEmpty then _ else _) = _
    rw [if_neg (by simpa using some)]
    rfl
  refine (Routine.comesTo_act (e.apply r) s).bind ?_
  rw [Plan.follow, gathered]
  exact Routine.comesTo_done _ _

theorem refusal_attributed_order :
    let order : Schema := .record "Order"
      [⟨"items", none, .list (.integer {}), none⟩, ⟨"name", some "title", .text {}, none⟩]
    let t : Target := ⟨"order", .optional order, none⟩
    let payload : Value := .object [("items", .list [.int 1, .string "two"])]
    let s : Session 0 := { scope := { body := some (.ok (some payload)) } }
    let r : Request := { method := .post, path := "/" }
    let vs : List Violation := [⟨"body", "items.1", .wrongType "integer" "string", none⟩,
      ⟨"body", "title", .missing, none⟩]
    ofSource? ({} : Config 0) .body t false = some (.body t false .json) ∧
      ((body t false .json).apply r s).1 = .error vs ∧
      ∀ w ∈ vs, ∃ path, w.IsAt "body" path ∧ t.schema.Offends payload path w.cause := by
  intro order t payload s r vs
  have made : ofSource? ({} : Config 0) .body t false = some (body t false .json) := rfl
  have refused : ((body t false .json).apply r s).1 = .error vs := rfl
  exact ⟨made, refused, (refusal_attributed made refused).1.2⟩

end Extractor

end RequestBinding
