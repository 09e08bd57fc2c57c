import RequestBinding.Json.Parser
import RequestBinding.Value
import RequestBinding.Violation

/-! Turning a body into data. -/
namespace RequestBinding

/-- A body that could not be decoded, with the place if the decoder knows it. -/
structure DecodeError where
  message : String
  position : Option Position := none
  deriving DecidableEq, Repr

structure Decoder where
  name : String := "custom"
  decode : Bytes → Except DecodeError Value

def DecodeError.violation (e : DecodeError) : Violation :=
  ⟨"body", "", .undecodable e.message, e.position⟩

def DecodeError.ofParse (body : Bytes) (e : Json.ParseError) : DecodeError :=
  let place := Position.after body e.consumed
  ⟨s!"{e.problem.text} at line {Decimal.natText place.line} column {Decimal.natText place.column}",
    some place⟩

def Decoder.json : Decoder where
  name := "json"
  decode body :=
    match Json.parse body with
    | .ok j => .ok (Value.ofJson j)
    | .error e => .error (DecodeError.ofParse body e)

end RequestBinding
