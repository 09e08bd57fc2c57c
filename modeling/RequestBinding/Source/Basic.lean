/-! Parts of a request that parameters are bound to. -/
namespace RequestBinding

inductive Source where
  | path
  | query
  | header
  | cookie
  | body
  | form
  | file
  /-- The result of another handler. -/
  | dependency
  /-- The request as a whole. -/
  | request
  deriving DecidableEq, Repr

namespace Source

def name : Source → String
  | .path => "path"
  | .query => "query"
  | .header => "header"
  | .cookie => "cookie"
  | .body => "body"
  | .form => "form"
  | .file => "file"
  | .dependency => "dependency"
  | .request => "request"

def all : List Source :=
  [.path, .query, .header, .cookie, .body, .form, .file, .dependency, .request]

def readsBody : Source → Bool
  | .body | .form | .file => true
  | _ => false

/-- The value is looked up in one part of the request. -/
def hasExtractor : Source → Bool
  | .dependency | .request => false
  | _ => true

end Source

end RequestBinding
