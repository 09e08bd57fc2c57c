import RequestBinding.Handler
import RequestBinding.Scope
import RequestBinding.Text.Blank

/-!
The state that requests are served on: the scope of the current request, the files that were
uploaded, and a record of what was done.  Each operation here is one indivisible step.
-/
namespace RequestBinding

structure Call (n : Nat) where
  handler : Fin n
  invocation : Invocation

/-- The state of a service with `n` handlers. -/
structure Session (n : Nat) where
  scope : Scope (Fin n) := {}
  uploads : UploadStore := {}
  /-- How often a body was decoded. -/
  decodes : Nat := 0
  /-- Every call so far, in order. -/
  calls : List (Call n) := []
  /-- The requests whose form has been looked at. -/
  formsRead : List Nat := []
  /-- The number of objects that handlers have made. -/
  objects : Nat := 0
  /-- The number of tickets given out for cached values. -/
  tickets : Nat := 0

def Decoder.payload (d : Decoder) (body : Bytes) : Payload := (d.decode body).map some

namespace Session
variable {n : Nat}

/-- Start with a new scope; files that the old one still tracks are released. -/
def renewScope : StateM (Session n) Unit := modify fun s =>
  let (_, _, uploads) := s.scope.releaseUploads s.uploads
  { s with scope := {}, uploads }

def payload (decoder : Decoder) (body : Bytes) : StateM (Session n) Payload := do
  let s ← get
  match s.scope.body with
  | some p => return p
  | none =>
    let blank := body.all Text.isBlankByte
    let (p, scope) := s.scope.decodeOnce (if blank then .ok none else decoder.payload body)
    set { s with scope, decodes := if blank then s.decodes else s.decodes + 1 }
    return p

def form (r : Request) : StateM (Session n) Form := do
  modify fun s => { s with formsRead := s.formsRead.insert r.id }
  return r.form

def receive (parts : List FilePart) : StateM (Session n) (List UploadFile) := do
  let s ← get
  let (handles, uploads) := s.uploads.addAll parts
  set { s with uploads, scope := handles.foldl Scope.track s.scope }
  return handles

def callCount (s : Session n) (handler : Fin n) : Nat :=
  s.calls.countP fun c => c.handler == handler

def beginCall (handler : Fin n) (args : CallArgs) : StateM (Session n) Invocation := do
  let s ← get
  let call : Call n := ⟨handler, s.callCount handler + 1, args, s.uploads⟩
  set { s with calls := s.calls ++ [call] }
  return call.invocation

def accept (reply : Reply) : StateM (Session n) Arg := do
  match reply with
  | .arg a => return a
  | .object content =>
    let s ← get
    set { s with objects := s.objects + 1 }
    return .object ⟨s.objects, content⟩

def takeUploads : StateM (Session n) (List UploadFile) := do
  let s ← get
  let (handles, scope) := s.scope.takeUploads
  set { s with scope }
  return handles

def release (handles : List UploadFile) : StateM (Session n) Unit := modify fun s =>
  { s with uploads := (s.uploads.releaseAll handles).2 }

/-- Release what the scope still tracks; how many files this released. -/
def releaseUploads : StateM (Session n) Nat := do
  let s ← get
  let (count, scope, uploads) := s.scope.releaseUploads s.uploads
  set { s with scope, uploads }
  return count

def enter (handler : Fin n) : StateM (Session n) Nat := do
  let s ← get
  set { s with scope := s.scope.enter handler s.tickets, tickets := s.tickets + 1 }
  return s.tickets

/-- The turn of a ticket, once it comes: the cached value, or the right to make one. -/
def turn (handler : Fin n) (ticket : Nat) (s : Session n) : Option (Option Arg × Session n) :=
  (s.scope.turn? handler ticket).map fun found => (found, s)

/-- Hand in a ticket, with a value if one was made. -/
def leave (handler : Fin n) (ticket : Nat) (value : Option Arg) : StateM (Session n) Unit :=
  modify fun s => { s with scope := s.scope.leave handler ticket value }

end Session

end RequestBinding
