import RequestBinding.Config
import RequestBinding.Extractor.RecordPlan
import RequestBinding.Session

/-! Extractors bind one parameter to a part of a request. -/
namespace RequestBinding

/-- The written form of a header key: ASCII letters small, underscores as hyphens. -/
def headerKey (key : String) : String :=
  String.ofList ((Text.toAsciiSmall key).toList.map fun c => if c = '_' then '-' else c)

inductive Extractor where
  | path (t : Target)
  | query (t : Target)
  | header (t : Target)
  | cookie (t : Target)
  /-- The payload, or with `embed` the member of it under the key. -/
  | body (t : Target) (embed : Bool) (decoder : Decoder)
  | form (t : Target)
  | file (t : Target) (limits : UploadLimits)

namespace Extractor

/-- The extractor of a source; a dependency and the request have none. -/
def ofSource? {n : Nat} (config : Config n) (source : Source) (t : Target) (embed : Bool) :
    Option Extractor :=
  match source with
  | .path => some (.path t)
  | .query => some (.query t)
  | .header => some (.header { t with key := headerKey t.key })
  | .cookie => some (.cookie t)
  | .body => some (.body t embed config.decoder)
  | .form => some (.form t)
  | .file => some (.file t config.limits)
  | .dependency | .request => none

def source : Extractor → Source
  | .path _ => .path
  | .query _ => .query
  | .header _ => .header
  | .cookie _ => .cookie
  | .body .. => .body
  | .form _ => .form
  | .file .. => .file

def describe (e : Extractor) : String := s!"Extractor({e.source.name})"

theorem hasExtractor_source (e : Extractor) : e.source.hasExtractor := by cases e <;> rfl

/-- Bind from a part of the request: a record from a key for each member, anything else from the key
of the parameter. -/
def bindWhere (source : Source) (normal : String → String)
    (find : String → Schema → Option Value) (t : Target) : Bound :=
  match t.schema.members? with
  | some ms => (RecordPlan.ofMembers source normal ms).bind find t
  | none =>
    match find t.key t.schema with
    | some v => t.schema.bind source t.key v
    | none => t.absent source

def bindTyped (source : Source) (params : Dictionary String Value) (t : Target) : Bound :=
  bindWhere source id (fun key schema => (params.get? key).map schema.wrapped) t

def bindText (source : Source) (normal : String → String) (texts : Dictionary String String)
    (t : Target) : Bound :=
  bindWhere source normal (fun key schema => (texts.get? key).map schema.coerceText) t

def bindForm (form : Form) (t : Target) : Bound :=
  bindWhere .form id (fun key schema => (form.field? key).bind schema.coerceTexts) t

/-- A parameter that is not embedded and takes bytes is bound to the body as it is. -/
def isRaw (t : Target) (embed : Bool) : Bool := !embed && t.schema.bare matches .bytes

def bindRaw (body : Bytes) (t : Target) : Bound :=
  if body.isEmpty then t.absent .body else .ok (.value (.bytes body))

def bindPayload (payload : Option Value) (t : Target) (embed : Bool) : Bound :=
  match if embed then payload.bind (·.get? t.key) else payload with
  | some v => t.schema.bind .body (if embed then t.key else "") v
  | none => t.absent .body

/-- Bind to files.  All are checked first, and handles are made only if none is refused. -/
def bindFiles {n : Nat} (parts : List FilePart) (t : Target) (limits : UploadLimits) :
    StateM (Session n) Bound :=
  if parts.isEmpty then return t.absent .file
  else match parts.filterMap (limits.check · t.key) with
    | [] => do
      let handles ← Session.receive parts
      if t.schema.isList then return .ok (.uploads handles)
      else match handles.getLast? with
        | some u => return .ok (.upload u)
        | none => return t.absent .file
    | vs => return .error vs

def apply {n : Nat} (e : Extractor) (r : Request) : StateM (Session n) Bound :=
  match e with
  | .path t => return bindTyped .path r.pathParams t
  | .query t => return bindTyped .query r.query t
  | .header t => return bindText .header headerKey r.headers t
  | .cookie t => return bindText .cookie id r.cookies t
  | .body t embed decoder =>
    if isRaw t embed then return bindRaw r.body t
    else do
      match ← Session.payload decoder r.body with
      | .ok payload => return bindPayload payload t embed
      | .error e => return .error [e.violation]
  | .form t => do return bindForm (← Session.form r) t
  | .file t limits => do bindFiles (((← Session.form r).files? t.key).getD []) t limits

end Extractor

end RequestBinding
