import RequestBinding.Text.LetterCase

/-! Request methods. -/
namespace RequestBinding

inductive Method where
  | get
  | post
  | put
  | patch
  | delete
  | head
  | options
  deriving DecidableEq, Repr

structure UnknownMethod where
  text : String
  deriving DecidableEq, Repr

namespace Method

def name : Method → String
  | .get => "GET"
  | .post => "POST"
  | .put => "PUT"
  | .patch => "PATCH"
  | .delete => "DELETE"
  | .head => "HEAD"
  | .options => "OPTIONS"

/-- Handlers for the method may have parameters that read the body. -/
def allowsBody : Method → Bool
  | .post | .put | .patch => true
  | _ => false

def all : List Method := [.get, .post, .put, .patch, .delete, .head, .options]

theorem mem_all (m : Method) : m ∈ all := by cases m <;> decide

def parse (text : String) : Except UnknownMethod Method :=
  match all.find? fun m => m.name = Text.toCapitals text with
  | some m => .ok m
  | none => .error ⟨text⟩

end Method

def UnknownMethod.message (e : UnknownMethod) : String := s!"Invalid HTTP method: {e.text}"

end RequestBinding
