import RequestBinding.Argument
import RequestBinding.Fault
import RequestBinding.Schema.Basic
import RequestBinding.Source.Basic

/-!
Handlers: declared parameters and what a call does.  The handlers of a service are numbered below
some `n`, and a parameter that takes the result of another handler names it by number.
-/
namespace RequestBinding

structure Depends (n : Nat) where
  handler : Fin n
  /-- One result serves everyone who asks for it during a request. -/
  useCache : Bool := true
  deriving DecidableEq

inductive Marker (n : Nat) where
  | path
  | query
  | header
  | cookie
  | body
  | form
  | file
  | depends (d : Depends n)
  deriving DecidableEq

def Marker.source {n : Nat} : Marker n → Source
  | .path => .path
  | .query => .query
  | .header => .header
  | .cookie => .cookie
  | .body => .body
  | .form => .form
  | .file => .file
  | .depends _ => .dependency

inductive ParamKind where
  | positionalOnly
  | positionalOrKeyword
  | keywordOnly
  deriving DecidableEq, Repr

/-- Everything that has a name in a call is passed by it. -/
def ParamKind.pass : ParamKind → Pass
  | .positionalOnly => .positional
  | .positionalOrKeyword | .keywordOnly => .keyword

structure Param (n : Nat) where
  name : String
  schema : Schema := .any
  default? : Option Value := none
  /-- The key in the request, where it differs from the name. -/
  alias? : Option String := none
  marker? : Option (Marker n) := none
  kind : ParamKind := .positionalOrKeyword

namespace Param
variable {n : Nat}

def key (p : Param n) : String := p.alias?.getD p.name

/-- Equality of declarations; schemas and defaults compare as data. -/
def equal (p q : Param n) : Bool :=
  p.name == q.name && p.schema == q.schema && p.default? == q.default? && p.alias? == q.alias?
    && p.marker? == q.marker? && p.kind == q.kind

instance : BEq (Param n) := ⟨equal⟩

end Param

structure Invocation where
  /-- How often the handler has been called by now, this call included. -/
  number : Nat
  args : CallArgs
  /-- The files as they are when the call begins. -/
  uploads : UploadStore

/-- What a handler hands back: an argument as it is, or an object of its own making. -/
inductive Reply where
  | arg (a : Arg)
  | object (content : Object.Content)

/-- How a call on a thread of its own ends. -/
inductive Outcome where
  | returned (reply : Except Fault Reply)
  | crashed (reason : String)

inductive Work where
  /-- Work on the task of the request.  It gives way to other tasks `pauses` times before it
  replies. -/
  | async (pauses : Nat) (reply : Invocation → Except Fault Reply)
  /-- Work on a thread of its own. -/
  | blocking (run : Invocation → Outcome)

structure Handler (n : Nat) where
  name : String
  params : List (Param n) := []
  work : Work

namespace Handler
variable {n : Nat}

def isAsync (h : Handler n) : Bool :=
  match h.work with
  | .async .. => true
  | .blocking _ => false

/-- How often a call gives way to other tasks before it acts. -/
def pausesBefore (h : Handler n) : Nat :=
  match h.work with
  | .async pauses _ => pauses
  | .blocking _ => 0

/-- How often a call gives way to other tasks after it has acted: a blocking one once, while its
thread works. -/
def pausesAfter (h : Handler n) : Nat :=
  match h.work with
  | .async .. => 0
  | .blocking _ => 1

/-- The fault that a crash on a thread of its own is to the request. -/
def crash (h : Handler n) (reason : String) : Fault :=
  .internal s!"Blocking handler '{h.name}' failed: {reason}"

def reply (h : Handler n) (i : Invocation) : Except Fault Reply :=
  match h.work with
  | .async _ reply => reply i
  | .blocking run =>
    match run i with
    | .returned reply => reply
    | .crashed reason => .error (h.crash reason)

end Handler

abbrev Catalogue (n : Nat) := Fin n → Handler n

-- Literals name the handlers of small services.  `Fin` has them below a number that is not zero,
-- and the zero is written out because other modules bring one of their own.

instance (priority := high) neZero_one : @NeZero Nat Zero.ofOfNat0 1 := ⟨by decide⟩

instance (priority := high) neZero_two : @NeZero Nat Zero.ofOfNat0 2 := ⟨by decide⟩

instance (priority := high) neZero_three : @NeZero Nat Zero.ofOfNat0 3 := ⟨by decide⟩

end RequestBinding
