import RequestBinding.Http.Request

/-!
Requests that are put together one addition after another.  Main statement: an addition leaves every
header alone but the one that it sets.
-/
namespace RequestBinding.Request

inductive Addition where
  | pathParam (name : String) (value : Value)
  | queryParam (name : String) (value : Value)
  | header (name value : String)
  | cookie (name value : String)
  | cookieHeader (raw : String)
  | body (bytes : Bytes)
  | json (document : Json)
  | formField (name value : String)
  | file (name : String) (part : FilePart)

def add (r : Request) : Addition → Request
  | .pathParam name value => r.withPathParam name value
  | .queryParam name value => r.withQueryParam name value
  | .header name value => r.withHeader name value
  | .cookie name value => r.withCookie name value
  | .cookieHeader raw => r.withCookieHeader raw
  | .body bytes => r.withBody bytes
  | .json document => r.withJson document
  | .formField name value => r.withFormField name value
  | .file name part => r.withFile name part

def addAll (r : Request) (additions : List Addition) : Request := additions.foldl add r

/-- The header that an addition sets, in small letters. -/
def Addition.header? : Addition → Option String
  | .header name _ => some (Text.toSmall name)
  | .json _ => some (Text.toSmall "content-type")
  | _ => none

variable {r : Request} {key : String}

theorem exists_withCookieHeader (r : Request) (raw : String) :
    ∃ cookies, r.withCookieHeader raw = { r with cookies } := by
  unfold withCookieHeader
  induction (Text.splitOn ';' raw.toList).filterMap cookie? generalizing r with
  | nil => exact ⟨r.cookies, rfl⟩
  | cons c cs ih => exact ih (r.withCookie c.1 c.2)

/-- A header is set under its name in small letters, perhaps with cookies. -/
theorem exists_withHeader (r : Request) (name value : String) : ∃ cookies,
    r.withHeader name value =
      { r with headers := r.headers.insert (Text.toSmall name) value, cookies } := by
  unfold withHeader
  dsimp only
  split
  · obtain ⟨cookies, same⟩ := r.exists_withCookieHeader value
    exact ⟨cookies, by rw [same]⟩
  · exact ⟨r.cookies, rfl⟩

theorem headers_withHeader (r : Request) (name value : String) :
    (r.withHeader name value).headers = r.headers.insert (Text.toSmall name) value := by
  obtain ⟨cookies, same⟩ := r.exists_withHeader name value
  rw [same]

theorem get?_headers_add {a : Addition} (other : a.header? ≠ some key) :
    (r.add a).headers.get? key = r.headers.get? key := by
  have set {name value : String} (other : some (Text.toSmall name) ≠ some key) :
      (r.withHeader name value).headers.get? key = r.headers.get? key := by
    rw [headers_withHeader, Dictionary.get?_insert, if_neg fun same => other (congrArg some same)]
  cases a with
  | header name value => exact set other
  | json document => exact set other
  | cookieHeader raw =>
    obtain ⟨cookies, same⟩ := r.exists_withCookieHeader raw
    rw [add, same]
  | _ => rfl

theorem get?_headers_addAll {additions : List Addition}
    (others : ∀ a ∈ additions, a.header? ≠ some key) :
    (r.addAll additions).headers.get? key = r.headers.get? key := by
  induction additions generalizing r with
  | nil => rfl
  | cons a as ih =>
    obtain ⟨here, later⟩ := List.forall_mem_cons.1 others
    exact (ih later).trans (get?_headers_add here)

end RequestBinding.Request
