import RequestBinding.Proofs.Extractor.Refusal
import RequestBinding.Proofs.Schema.Findings
import RequestBinding.Proofs.Value.Lookup
import Mathlib.Data.List.Basic

/-!
Records whose members are gathered from keys of their own.  Main statements: the pass that gives up
at a violation and the pass that collects all of them agree, so that binding a record comes to what
the second pass alone would; a record gathered from path or query is bound as the object of what was
found would be.
-/
namespace RequestBinding

open Checking

theorem Schema.toOption_validate (s : Schema) (ctx : Context) (v : Value) :
    (s.validate ctx v).toOption = if s.findings v = [] then some (s.settle v) else none := by
  rw [s.validate_eq]
  cases s.findings v <;> rfl

namespace RecordPlan

theorem bindCollecting_eq (plan : RecordPlan) (found : List (Option Value)) :
    plan.bindCollecting found = outcome (.object (settle plan.members found))
      ((findings plan.members found).map (Context.tell ⟨plan.source.name, []⟩)) := by
  rw [bindCollecting, adds_pairsCollecting plan.source plan.members found, List.nil_append]
  cases (findings plan.members found).map (Context.tell ⟨plan.source.name, []⟩) <;> rfl

/-- The first pass gets to the end exactly if nothing is wrong, and then its pairs are those of the
second. -/
theorem pairsFast?_eq (source : Source) (members : List (Member Schema))
    (found : List (Option Value)) : pairsFast? source members found =
      if findings members found = [] then some (settle members found) else none := by
  induction members generalizing found with
  | nil => rfl
  | cons m ms ih =>
    cases found with
    | nil => rfl
    | cons x r =>
      unfold pairsFast?
      rw [ih, findings_cons, settle_cons]
      unfold Member.findings Member.settle
      cases x with
      | some v =>
        by_cases here : m.schema.findings v = [] <;> by_cases rest : findings ms r = [] <;>
          simp [m.schema.toOption_validate, here, rest]
      | none =>
        cases m.schema.absentValue? m.default? <;> by_cases rest : findings ms r = [] <;>
          simp [rest]

theorem bindFast?_eq_some_iff (plan : RecordPlan) (found : List (Option Value)) (v : Value) :
    plan.bindFast? found = some v ↔ plan.bindCollecting found = .ok v := by
  rw [bindFast?, pairsFast?_eq, bindCollecting_eq, outcome_eq_ok_iff, List.map_eq_nil_iff]
  split <;> simp_all

def looksInto (plan : RecordPlan) (find : String → Schema → Option Value) (t : Target) : Bool :=
  t.isRequired || (plan.gather find).any Option.isSome

/-- Binding a record comes to the second pass alone. -/
theorem bind_eq (plan : RecordPlan) (find : String → Schema → Option Value) (t : Target) :
    plan.bind find t =
      if plan.looksInto find t then (plan.bindCollecting (plan.gather find)).map .value
      else t.absent plan.source := by
  have absent : (!t.isRequired && (plan.gather find).all Option.isNone) =
      !plan.looksInto find t := by
    simp [looksInto, List.all_eq_not_any_not]
  unfold RecordPlan.bind
  dsimp only
  rw [absent]
  cases plan.looksInto find t with
  | false => rfl
  | true =>
    cases fast : plan.bindFast? (plan.gather find) with
    | some v =>
      show _ = Except.map Arg.value (plan.bindCollecting (plan.gather find))
      rw [(plan.bindFast?_eq_some_iff _ v).1 fast]
      rfl
    | none => rfl

/-- The two passes make the same records of whatever is found, and a record is bound, or refused
with a reason, as by the second pass; only one that is not required and has no key there is absent. -/
theorem passes_agree (plan : RecordPlan) :
    (∀ found v, plan.bindFast? found = some v ↔ plan.bindCollecting found = .ok v) ∧
      ∀ find t, plan.bind find t ≠ .error [] ∧ plan.bind find t =
        if plan.looksInto find t then (plan.bindCollecting (plan.gather find)).map .value
        else t.absent plan.source :=
  ⟨plan.bindFast?_eq_some_iff,
    fun find t => ⟨(plan.plain_bind find t).ne_error_nil, plan.bind_eq find t⟩⟩

end RecordPlan

section
variable {n : Nat} {params : Dictionary String Value} {name : String} {ms : List (Member Schema)}

def Source.params? (r : Request) : Source → Option (Dictionary String Value)
  | .path => some r.pathParams
  | .query => some r.query
  | _ => none

/-- What is there for a member of a record; a single value for a list is its only item. -/
def Member.found (params : Dictionary String Value) (m : Member Schema) : Option Value :=
  (params.get? m.key).map m.schema.wrapped

def Value.ofParams (params : Dictionary String Value) (ms : List (Member Schema)) : Value :=
  .object (ms.filterMap fun m => (m.found params).map (m.key, ·))

namespace RecordPlan

theorem gather_ofMembers (source : Source) (params : Dictionary String Value)
    (ms : List (Member Schema)) : ((ofMembers source id ms).gather fun key schema =>
      (params.get? key).map schema.wrapped) = ms.map (Member.found params) := by
  simp [gather, ofMembers, Member.found, Member.key, Function.comp_def]

theorem findings_ofMembers (source : Source) (ms : List (Member Schema))
    (f : Member Schema → Option Value) :
    findings (ofMembers source id ms).members (ms.map f) = ms.flatMap fun m => m.findings (f m) := by
  rw [findings, ofMembers, List.zip_map', List.flatMap_map]
  rfl

theorem settle_ofMembers (source : Source) (ms : List (Member Schema))
    (f : Member Schema → Option Value) :
    settle (ofMembers source id ms).members (ms.map f) = ms.flatMap fun m => m.settle (f m) := by
  rw [settle, ofMembers, List.zip_map', List.flatMap_map]
  rfl

/-- Gathering a record comes to checking the object of what was gathered. -/
theorem bindCollecting_ofMembers (source : Source) (distinct : (ms.map Member.key).Nodup) :
    (ofMembers source id ms).bindCollecting (ms.map (Member.found params)) =
      (Schema.record name ms).validate ⟨source.name, []⟩ (.ofParams params ms) := by
  have looked : ∀ m ∈ ms, Value.lastMember?
      (ms.filterMap fun m => (m.found params).map (m.key, ·)) m.key = m.found params :=
    fun m hm => Value.lastMember?_filterMap distinct hm
  rw [bindCollecting_eq, findings_ofMembers, settle_ofMembers, Schema.validate_eq]
  unfold Schema.settle Schema.findings Value.ofParams
  dsimp only
  rw [Schema.settleMembers_eq_flatMap, Schema.memberFindings_eq_flatMap,
    List.flatMap_congr fun m hm => congrArg m.settle (looked m hm),
    List.flatMap_congr fun m hm => congrArg m.findings (looked m hm)]
  rfl

end RecordPlan

namespace Extractor

/-- A record that is looked into is bound from path or query as the object of what is there for its
members. -/
theorem binds_as_object {config : Config n} {source : Source} {t : Target} {embed : Bool}
    {e : Extractor} (made : ofSource? config source t embed = some e) {r : Request}
    (typed : source.params? r = some params) (record : t.schema.bare = .record name ms)
    (distinct : (ms.map Member.key).Nodup)
    (there : t.isRequired = true ∨ ∃ m ∈ ms, (params.get? m.key).isSome = true) (s : Session n) :
    e.apply r s = (((Schema.record name ms).validate ⟨source.name, []⟩
      (.ofParams params ms)).map .value, s) := by
  have members : t.schema.members? = some ms := by rw [Schema.members?, record]
  have into : (RecordPlan.ofMembers source id ms).looksInto
      (fun key schema => (params.get? key).map schema.wrapped) t = true := by
    rw [RecordPlan.looksInto, RecordPlan.gather_ofMembers]
    simpa [Member.found] using there
  have bound : bindTyped source params t =
      ((Schema.record name ms).validate ⟨source.name, []⟩ (.ofParams params ms)).map .value := by
    rw [bindTyped, bindWhere, members]
    dsimp only
    rw [RecordPlan.bind_eq, into, RecordPlan.gather_ofMembers,
      RecordPlan.bindCollecting_ofMembers source distinct]
    rfl
  cases source with
  | path =>
    cases made
    cases typed
    rw [← bound]
    rfl
  | query =>
    cases made
    cases typed
    rw [← bound]
    rfl
  | _ => cases typed

theorem binds_as_object_filters :
    let ms : List (Member Schema) := [⟨"limit", none, .integer {}, none⟩,
      ⟨"tags", some "tag", .list .any, none⟩, ⟨"sort", none, .text {}, some (.string "id")⟩]
    let t : Target := ⟨"filters", .optional (.record "Filters" ms), none⟩
    let r := ({ method := .get, path := "/" } : Request).withQueryParam "tag" (.string "new")
    ofSource? ({} : Config 0) .query t false = some (.query t) ∧
      Source.query.params? r = some r.query ∧ t.schema.bare = .record "Filters" ms ∧
      (ms.map Member.key).Nodup ∧
      (t.isRequired = true ∨ ∃ m ∈ ms, (r.query.get? m.key).isSome = true) ∧
      (query t).apply r ({} : Session 0) = (.error [⟨"query", "limit", .missing, none⟩], {}) := by
  intro ms t r
  have made : ofSource? ({} : Config 0) .query t false = some (query t) := rfl
  have typed : Source.query.params? r = some r.query := rfl
  have record : t.schema.bare = .record "Filters" ms := rfl
  have distinct : (ms.map Member.key).Nodup := by decide
  have there : t.isRequired = true ∨ ∃ m ∈ ms, (r.query.get? m.key).isSome = true :=
    .inr ⟨⟨"tags", some "tag", .list .any, none⟩, by simp [ms], rfl⟩
  exact ⟨made, typed, record, distinct, there,
    (binds_as_object made typed record distinct there {}).trans rfl⟩

end Extractor

end

end RequestBinding
