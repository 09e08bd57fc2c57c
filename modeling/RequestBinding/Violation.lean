import RequestBinding.Position
import RequestBinding.Quantity
import RequestBinding.Text.Quoted

/-!
What is wrong with a request.  A violation names the part of the request, the path of the offending
value in it, and a cause; the kind and the words follow from the cause.
-/
namespace RequestBinding

inductive Format where
  | email
  | uuid
  | dateTime
  | date
  deriving DecidableEq, Repr

def Format.label : Format → String
  | .email => "email"
  | .uuid => "UUID"
  | .dateTime => "datetime (ISO 8601)"
  | .date => "date (YYYY-MM-DD)"

inductive ViolationKind where
  | missing
  | wrongType
  | wrongValue
  | wrongFormat
  | undecodable
  deriving DecidableEq, Repr

def ViolationKind.name : ViolationKind → String
  | .missing => "missing"
  | .wrongType => "type_error"
  | .wrongValue => "value_error"
  | .wrongFormat => "format_error"
  | .undecodable => "json_invalid"

inductive Cause where
  | missing
  | wrongType (expected got : String)
  | tooShort (least count : Nat)
  | tooLong (most count : Nat)
  | patternMismatch (pattern : String)
  | patternInvalid (pattern : String)
  | wrongFormat (format : Format)
  | below (bound got : Quantity)
  | above (bound got : Quantity)
  | undecodable (reason : String)
  | fileTooLarge (limit : Nat)
  | fileTypeRefused (type : String) (allowed : List String)
  /-- Reported by a handler in its own words. -/
  | reported (kind : ViolationKind) (message : String)
  deriving DecidableEq

def Cause.kind : Cause → ViolationKind
  | .missing => .missing
  | .wrongType .. => .wrongType
  | .wrongFormat _ => .wrongFormat
  | .undecodable _ => .undecodable
  | .reported kind _ => kind
  | _ => .wrongValue

structure Violation where
  /-- The part of the request: path, query, header, cookie, body, form or file. -/
  location : String
  /-- Keys and indexes that lead to the value, joined by dots. -/
  field : String
  cause : Cause
  position : Option Position := none
  deriving DecidableEq

namespace Violation

def kind (v : Violation) : ViolationKind := v.cause.kind

def message (v : Violation) : String :=
  match v.cause with
  | .missing => s!"Missing required {v.location} parameter '{v.field}'"
  | .wrongType expected got => s!"Expected {expected}, got {got}"
  | .tooShort least count =>
    s!"String must be at least {Decimal.natText least} characters (got {Decimal.natText count})"
  | .tooLong most count =>
    s!"String must be at most {Decimal.natText most} characters (got {Decimal.natText count})"
  | .patternMismatch pattern => s!"String does not match pattern: {pattern}"
  | .patternInvalid pattern => s!"Invalid regex pattern: {pattern}"
  | .wrongFormat format => s!"Invalid {format.label} format"
  | .below bound got => s!"Value must be >= {bound.text} (got {got.text})"
  | .above bound got => s!"Value must be <= {bound.text} (got {got.text})"
  | .undecodable reason => s!"Invalid JSON: {reason}"
  | .fileTooLarge limit =>
    s!"File size exceeds maximum allowed ({Decimal.natText limit} bytes)"
  | .fileTypeRefused type allowed =>
    s!"File type '{type}' not allowed. Allowed types: {Text.quotedList allowed}"
  | .reported _ message => message

def absent (location field : String) : Violation := ⟨location, field, .missing, none⟩

def text (v : Violation) : String :=
  s!"{v.location} ({v.field}): {v.message} [{v.kind.name}]"

/-- The path of the offending value as clients see it: the part of the request, then the pieces of
the field that are not empty. -/
def loc (v : Violation) : List String :=
  v.location :: ((Text.splitOn '.' v.field.toList).filter (!·.isEmpty)).map String.ofList

end Violation

end RequestBinding
