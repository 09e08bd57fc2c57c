import RequestBinding.Http.Form
import RequestBinding.Http.Method
import RequestBinding.Json.Printer
import RequestBinding.Text.Blank
import RequestBinding.Text.LetterCase
import RequestBinding.Value

/-!
Requests as handlers see them: path and query parameters are typed already, headers and cookies are
text, and the form is split already or read from the body.
-/
namespace RequestBinding

/-- A request.  Two views are of one request when their identities agree. -/
structure Request where
  id : Nat := 0
  method : Method
  path : String
  pathParams : Dictionary String Value := ∅
  /-- A key given more than once holds a list. -/
  query : Dictionary String Value := ∅
  /-- Keys in small letters. -/
  headers : Dictionary String String := ∅
  cookies : Dictionary String String := ∅
  body : Bytes := []
  /-- A form that was split before the request arrived. -/
  parts : Option Form := none

namespace Request

def withPathParam (r : Request) (name : String) (value : Value) : Request :=
  { r with pathParams := r.pathParams.insert name value }

/-- A query value joined to what its key holds: a second one makes a list, a further one is added
to the list. -/
def joinQuery (held : Option Value) (value : Value) : Value :=
  match held with
  | some (.list items) => .list (items ++ [value])
  | some v => .list [v, value]
  | none => value

def withQueryParam (r : Request) (name : String) (value : Value) : Request :=
  { r with query := r.query.insert name (joinQuery (r.query.get? name) value) }

def withCookie (r : Request) (name value : String) : Request :=
  { r with cookies := r.cookies.insert name value }

/-- Name and value of one piece of a cookie header; a piece without a name is none. -/
def cookie? (piece : List Char) : Option (String × String) :=
  match Text.splitOnce? '=' piece with
  | none => none
  | some (name, value) =>
    let name := Text.trimWhere Text.isBlank name
    if name.isEmpty then none
    else some (String.ofList name,
      String.ofList (Text.trimWhere (· == '"') (Text.trimWhere Text.isBlank value)))

def withCookieHeader (r : Request) (raw : String) : Request :=
  ((Text.splitOn ';' raw.toList).filterMap cookie?).foldl
    (fun r (name, value) => r.withCookie name value) r

/-- Set a header; a cookie header also sets its cookies. -/
def withHeader (r : Request) (name value : String) : Request :=
  let key := Text.toSmall name
  let r := if key = "cookie" then r.withCookieHeader value else r
  { r with headers := r.headers.insert key value }

def withBody (r : Request) (body : Bytes) : Request := { r with body }

/-- Set a JSON body and the header that announces it. -/
def withJson (r : Request) (json : Json) : Request :=
  (r.withHeader "content-type" "application/json").withBody (Text.Utf8.encode json.render)

def withFormField (r : Request) (name value : String) : Request :=
  { r with parts := some ((r.parts.getD .empty).addField name value) }

def withFile (r : Request) (name : String) (part : FilePart) : Request :=
  { r with parts := some ((r.parts.getD .empty).addFile name part) }

/-- The value of a header in any letter case. -/
def header? (r : Request) (name : String) : Option String := r.headers.get? (Text.toSmall name)

def cookieValue? (r : Request) (name : String) : Option String := r.cookies.get? name

def contentType? (r : Request) : Option String := r.header? "content-type"

def holds (part : List Char) : List Char → Bool
  | [] => part.isEmpty
  | c :: r => part.isPrefixOf (c :: r) || holds part r

def isUrlencoded (r : Request) : Bool :=
  r.contentType?.any fun t => holds "application/x-www-form-urlencoded".toList t.toList

/-- The form: the split one, else the body read as a urlencoded form if it is announced as one. -/
def form (r : Request) : Form :=
  match r.parts with
  | some form => form
  | none => if r.isUrlencoded then Form.ofUrlencoded r.body else .empty

def same (a b : Request) : Bool := a.id == b.id

end Request

end RequestBinding
