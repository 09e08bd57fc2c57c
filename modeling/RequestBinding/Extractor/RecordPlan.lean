import RequestBinding.Extractor.Target

/-!
Records whose members are gathered from keys of their own.  A first pass gives up at a violation;
only then a second pass collects all violations.
-/
namespace RequestBinding

/-- How a record is put together: the part of the request and the members, each with the key that is
looked up. -/
structure RecordPlan where
  source : Source
  members : List (Member Schema)

namespace RecordPlan

/-- The plan for the members of a record; `normal` is the written form of keys in that part. -/
def ofMembers (source : Source) (normal : String → String) (ms : List (Member Schema)) :
    RecordPlan :=
  ⟨source, ms.map fun m => { m with alias? := some (normal m.key) }⟩

def gather (plan : RecordPlan) (find : String → Schema → Option Value) : List (Option Value) :=
  plan.members.map fun m => find m.key m.schema

/-- The pairs of the record, as long as nothing is wrong. -/
def pairsFast? (source : Source) : List (Member Schema) → List (Option Value) →
    Option (List (String × Value))
  | m :: ms, found :: r => do
    let v ← match found with
      | some v => (m.schema.validate ⟨source.name, []⟩ v).toOption
      | none => m.schema.absentValue? m.default?
    return (m.name, v) :: (← pairsFast? source ms r)
  | _, _ => some []

def pairsCollecting (source : Source) : List (Member Schema) → List (Option Value) →
    StateM (List Violation) (List (String × Value))
  | m :: ms, found :: r => do
    let ctx : Context := ⟨source.name, [m.key]⟩
    let pair ← match found with
      | some v => do pure [(m.name, ← m.schema.check ctx v)]
      | none =>
        match m.schema.absentValue? m.default? with
        | some v => pure [(m.name, v)]
        | none => do
          Checking.report ctx .missing
          pure []
    return pair ++ (← pairsCollecting source ms r)
  | _, _ => pure []

def bindFast? (plan : RecordPlan) (found : List (Option Value)) : Option Value :=
  (pairsFast? plan.source plan.members found).map .object

def bindCollecting (plan : RecordPlan) (found : List (Option Value)) :
    Except (List Violation) Value :=
  match (pairsCollecting plan.source plan.members found).run [] with
  | (pairs, []) => .ok (.object pairs)
  | (_, vs) => .error vs

/-- Bind a record; one that is not required is absent when none of its keys is there. -/
def bind (plan : RecordPlan) (find : String → Schema → Option Value) (t : Target) : Bound :=
  let found := plan.gather find
  if !t.isRequired && found.all Option.isNone then t.absent plan.source
  else match plan.bindFast? found with
    | some v => .ok (.value v)
    | none => (plan.bindCollecting found).map .value

end RecordPlan

end RequestBinding
