import RequestBinding.Argument
import RequestBinding.Fault

/-! Answers from what handlers return and from faults. -/
namespace RequestBinding

structure Serializer where
  serialize : Arg → Except Fault Response
  serializeFault : Fault → Response

def Serializer.respond (s : Serializer) (result : Except Fault Arg) : Response :=
  match result.bind s.serialize with
  | .ok r => r
  | .error f => s.serializeFault f

def Position.members (p : Position) : List (String × Json) :=
  [("offset", .number (.whole p.offset)), ("line", .number (.whole p.line)),
    ("column", .number (.whole p.column))]

namespace Violation

/-- What a client is told about a violation: where, what and of which class, and the position in the
body if it is known. -/
def detail (v : Violation) : List (String × Json) :=
  [("loc", .array (v.loc.map .string)), ("msg", .string v.message), ("type", .string v.kind.name)]
    ++ match v.position with
      | some p => [("position", .object p.members)]
      | none => []

def sortedDetail (v : Violation) : Json :=
  .ofMembers (v.detail.map fun (key, j) =>
    (key, match j with
      | .object members => .ofMembers members
      | j => j))

end Violation

def detailBody (vs : List Violation) : Json :=
  .object [("detail", .array (vs.map Violation.sortedDetail))]

namespace Serializer

/-- Data and objects as answers in JSON, text or bytes. -/
def jsonResult (result : Arg) : Except Fault Response :=
  match result with
  | .value (.bytes bs) => .ok (.bytes bs)
  | .value v => .ok (.json 200 v.toJson)
  | .object ⟨_, .response r⟩ => .ok r
  | .object ⟨_, .json j⟩ => .ok (.json 200 j)
  | .object ⟨_, .text s⟩ => .ok (.text s)
  | .object ⟨_, .other⟩ => .error (.serialization "Unsupported handler result object")
  | a =>
    let shown := a.describe?.getD ""
    .error (.serialization s!"Handler result {shown} cannot be serialized")

/-- Violations are listed for the client; nothing is said about other faults. -/
def jsonFault (fault : Fault) : Response :=
  match fault with
  | .validation vs => .json fault.status (detailBody vs)
  | _ => .json fault.status (.object [("detail", .string "Internal Server Error")])

def json : Serializer := ⟨jsonResult, jsonFault⟩

end Serializer

end RequestBinding
