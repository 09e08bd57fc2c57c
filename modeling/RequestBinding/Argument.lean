import RequestBinding.Http.Request
import RequestBinding.Http.Response
import RequestBinding.Text.Quoted
import RequestBinding.Upload

/-! What a parameter can be bound to, and the arguments of one call. -/
namespace RequestBinding

inductive Object.Content where
  | text (s : String)
  | json (j : Json)
  | response (r : Response)
  | other

/-- An object of a handler's making, told from others by its identity. -/
structure Object where
  id : Nat
  content : Object.Content

inductive Arg where
  | value (v : Value)
  | request (r : Request)
  | upload (u : UploadFile)
  | uploads (us : List UploadFile)
  | object (o : Object)

namespace Arg

/-- Values compare as data, everything else by identity. -/
def equal : Arg → Arg → Bool
  | .value a, .value b => a == b
  | .request a, .request b => a.same b
  | .upload a, .upload b => a.id == b.id
  | .uploads a, .uploads b => a.map UploadFile.id == b.map UploadFile.id
  | .object a, .object b => a.id == b.id
  | _, _ => false

instance : BEq Arg := ⟨equal⟩

def value? : Arg → Option Value
  | .value v => some v
  | _ => none

def handles : Arg → List UploadFile
  | .upload u => [u]
  | .uploads us => us
  | _ => []

def describe? : Arg → Option String
  | .value _ => none
  | .request r => some s!"Request({Text.quoted r.path})"
  | .upload u => some s!"Upload({Text.quotedOption u.filename})"
  | .uploads us => some s!"Uploads({Decimal.natText us.length})"
  | .object _ => some "Object(..)"

end Arg

inductive Pass where
  | positional
  | keyword
  deriving DecidableEq, Repr

structure CallArgs where
  args : List Arg := []
  kwargs : Dictionary String Arg := ∅

namespace CallArgs

def empty : CallArgs := {}

def push (c : CallArgs) (pass : Pass) (name : String) (arg : Arg) : CallArgs :=
  match pass with
  | .positional => { c with args := c.args ++ [arg] }
  | .keyword => { c with kwargs := c.kwargs.insert name arg }

def get? (c : CallArgs) (name : String) : Option Arg := c.kwargs.get? name

def value? (c : CallArgs) (name : String) : Option Value := (c.get? name).bind Arg.value?

def positional? (c : CallArgs) (i : Nat) : Option Arg := c.args[i]?

def size (c : CallArgs) : Nat := c.args.length + c.kwargs.size

def isEmpty (c : CallArgs) : Bool := c.args.isEmpty && c.kwargs.isEmpty

def sortedKwargs (c : CallArgs) : List (String × Arg) := Json.sortMembers c.kwargs.entries

/-- The upload handles among the arguments, positional ones first and keywords by name. -/
def handles (c : CallArgs) : List UploadFile :=
  c.args.flatMap Arg.handles ++ c.sortedKwargs.flatMap fun (_, a) => a.handles

end CallArgs

end RequestBinding
