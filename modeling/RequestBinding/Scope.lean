import RequestBinding.Argument
import RequestBinding.Decoder

/-!
The state of one request while its parameters are bound: the decoded body, the values of cached
dependencies, and the upload handles to be released at the end.
-/
namespace RequestBinding

/-- What decoding the body gave: data, nothing for a blank body, or why it cannot be read. -/
abbrev Payload := Except DecodeError (Option Value)

/-- The place for one cached value.  Whoever stands first in the queue may produce the value; the
others wait for it, and the next one tries when the first fails. -/
structure Slot where
  value : Option Arg := none
  queue : List Nat := []

/-- The state of one request; `κ` names its cached values. -/
structure Scope (κ : Type) where
  body : Option Payload := none
  slots : Dictionary κ Slot := ∅
  tracked : List UploadFile := []

namespace Scope
variable {κ : Type}

def empty : Scope κ := {}

instance : Inhabited (Scope κ) := ⟨empty⟩

def isDecoded (s : Scope κ) : Bool := s.body.isSome

def track (s : Scope κ) (u : UploadFile) : Scope κ := { s with tracked := s.tracked ++ [u] }

/-- Hand over the tracked handles; the scope does not release them any more. -/
def takeUploads (s : Scope κ) : List UploadFile × Scope κ := (s.tracked, { s with tracked := [] })

/-- Release the tracked handles; how many this released. -/
def releaseUploads (s : Scope κ) (store : UploadStore) : Nat × Scope κ × UploadStore :=
  let (n, store) := store.releaseAll s.tracked
  (n, { s with tracked := [] }, store)

/-- The body's payload: the remembered one, else the one given, which is remembered. -/
def decodeOnce (s : Scope κ) (payload : Payload) : Payload × Scope κ :=
  match s.body with
  | some p => (p, s)
  | none => (payload, { s with body := some payload })

def describe (s : Scope κ) : String :=
  "RequestScope \x7b body_decoded: " ++ (if s.isDecoded then "true" else "false")
    ++ ", dependencies: " ++ Decimal.natText s.slots.size
    ++ ", uploads: " ++ Decimal.natText s.tracked.length ++ " \x7d"

variable [DecidableEq κ]

/-- The slot of a name; a new one is empty. -/
def slot (s : Scope κ) (key : κ) : Slot := (s.slots.get? key).getD {}

def setSlot (s : Scope κ) (key : κ) (slot : Slot) : Scope κ :=
  { s with slots := s.slots.insert key slot }

def cached? (s : Scope κ) (key : κ) : Option Arg := (s.slots.get? key).bind Slot.value

/-- Ask for the value of a slot: it is there, or a place in the queue is taken under the ticket. -/
def enter (s : Scope κ) (key : κ) (ticket : Nat) : Scope κ :=
  let slot := s.slot key
  s.setSlot key (if slot.value.isSome then slot else { slot with queue := slot.queue ++ [ticket] })

/-- The turn of a ticket: the value if there is one, or the right to produce it for the first in the
queue; none while others are ahead. -/
def turn? (s : Scope κ) (key : κ) (ticket : Nat) : Option (Option Arg) :=
  let slot := s.slot key
  match slot.value with
  | some a => some (some a)
  | none => if slot.queue.head? = some ticket then some none else none

/-- Leave the queue with a value for everyone, or without one. -/
def leave (s : Scope κ) (key : κ) (ticket : Nat) (value : Option Arg) : Scope κ :=
  let slot := s.slot key
  s.setSlot key (match value with
    | some a => { value := some a, queue := [] }
    | none => { slot with queue := slot.queue.erase ticket })

end Scope

end RequestBinding
