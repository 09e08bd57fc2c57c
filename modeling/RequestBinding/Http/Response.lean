import RequestBinding.Dictionary
import RequestBinding.Json.Printer
import RequestBinding.Text.LetterCase
import RequestBinding.Text.Utf8

/-! Answers to requests. -/
namespace RequestBinding

/-- A finished answer.  Header names are in small letters. -/
structure Response where
  status : Nat := 200
  contentType : Option String := none
  headers : Dictionary String String := ∅
  body : Bytes := []

namespace Response

def withHeader (r : Response) (name value : String) : Response :=
  { r with headers := r.headers.insert (Text.toSmall name) value }

def json (status : Nat) (j : Json) : Response :=
  { status, contentType := some "application/json", body := Text.Utf8.encode j.render }

def text (s : String) : Response :=
  { contentType := some "text/plain; charset=utf-8", body := Text.Utf8.encode s }

def bytes (bs : Bytes) : Response :=
  { contentType := some "application/octet-stream", body := bs }

end Response

end RequestBinding
