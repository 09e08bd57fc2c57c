import RequestBinding.Source.Basic

/-!
Classes of handlers by the sources of their parameters.  The class decides how arguments are
collected; the needs tell a server which parts of a request have to be there.
-/
namespace RequestBinding

inductive Shape where
  | noParams
  | requestOnly
  | pathOnly
  | queryOnly
  | bodyOnly
  /-- Path and query parameters, at least one of each. -/
  | simple
  | withDeps
  /-- Any other mixture. -/
  | full
  deriving DecidableEq, Repr

inductive Mode where
  | requestOnly
  | noParams
  | mixed
  deriving DecidableEq, Repr

abbrev SourceCounts := Source → Nat

def SourceCounts.ofList (sources : List Source) : SourceCounts := fun s => sources.count s

namespace SourceCounts

def total (c : SourceCounts) : Nat := Source.all.foldr (fun s n => c s + n) 0

/-- Fields or files of a form are read. -/
def needsForm (c : SourceCounts) : Bool := 0 < c .form || 0 < c .file

def shape (c : SourceCounts) : Shape :=
  if 0 < c .dependency then .withDeps
  else if c.total = 0 then .noParams
  else if c .request = 1 ∧ c.total = 1 then .requestOnly
  else if 0 < c .request ∨ c.needsForm then .full
  else if 0 < c .header ∨ 0 < c .cookie then .full
  else if c .body = 1 ∧ c.total = 1 then .bodyOnly
  else if c .body = 0 then
    if 0 < c .path ∧ 0 < c .query then .simple
    else if 0 < c .path then .pathOnly
    else if 0 < c .query then .queryOnly
    else .full
  else .full

end SourceCounts

def Shape.name : Shape → String
  | .noParams => "NO_PARAMS"
  | .requestOnly => "REQUEST_ONLY"
  | .pathOnly => "PATH_ONLY"
  | .queryOnly => "QUERY_ONLY"
  | .bodyOnly => "BODY_ONLY"
  | .simple => "SIMPLE"
  | .withDeps => "WITH_DEPS"
  | .full => "FULL"

def Shape.mode : Shape → Mode
  | .noParams => .noParams
  | .requestOnly => .requestOnly
  | _ => .mixed

def Mode.name : Mode → String
  | .requestOnly => "request_only"
  | .noParams => "no_params"
  | .mixed => "mixed"

/-- Parts of a request that a handler reads, and whether its route is fixed. -/
structure Needs where
  pathParams : Bool
  query : Bool
  headers : Bool
  cookies : Bool
  body : Bool
  form : Bool
  files : Bool
  dependencies : Bool
  staticRoute : Bool
  deriving DecidableEq, Repr

namespace Needs

def ofCounts (c : SourceCounts) (staticRoute : Bool) : Needs where
  pathParams := 0 < c .path
  query := 0 < c .query
  headers := 0 < c .header
  cookies := 0 < c .cookie
  body := 0 < c .body
  form := c.needsForm
  files := 0 < c .file
  dependencies := 0 < c .dependency
  staticRoute

def names (n : Needs) : List String :=
  [(n.pathParams, "needs_path_params"), (n.query, "needs_query"), (n.headers, "needs_headers"),
    (n.cookies, "needs_cookies"), (n.body, "needs_body"), (n.form, "needs_form_parsing"),
    (n.files, "has_file_uploads"), (n.dependencies, "has_dependencies"),
    (n.staticRoute, "is_static_route")].filterMap fun (holds, name) =>
      if holds then some name else none

end Needs

end RequestBinding
