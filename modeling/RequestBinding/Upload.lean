import RequestBinding.Http.Form
import RequestBinding.Violation

/-!
Uploaded files.  A handle names one file; its contents lie in a store, from which releasing the
handle takes them for good.
-/
namespace RequestBinding

structure UploadLimits where
  /-- In bytes; none for any size. -/
  maxSize : Option Nat := some (100 * 1024 * 1024)
  /-- Empty for every type. -/
  allowedTypes : List String := []
  deriving DecidableEq, Repr

namespace UploadLimits

def imageTypes : List String := ["image/jpeg", "image/png", "image/gif", "image/webp"]

def allowImages (l : UploadLimits) : UploadLimits :=
  { l with allowedTypes := l.allowedTypes ++ imageTypes }

def allowType (l : UploadLimits) (type : String) : UploadLimits :=
  { l with allowedTypes := l.allowedTypes ++ [type] }

def defaultType : String := "application/octet-stream"

/-- Why the limits refuse a part, if they do; size comes first. -/
def refusal? (l : UploadLimits) (part : FilePart) : Option Cause :=
  match l.maxSize.filter (· < part.data.length) with
  | some limit => some (.fileTooLarge limit)
  | none =>
    let type := part.contentType.getD defaultType
    if l.allowedTypes.isEmpty ∨ type ∈ l.allowedTypes then none
    else some (.fileTypeRefused type l.allowedTypes)

def check (l : UploadLimits) (part : FilePart) (field : String) : Option Violation :=
  (l.refusal? part).map fun cause => ⟨"file", field, cause, none⟩

end UploadLimits

/-- A handle to an uploaded file.  All copies of a handle name the same file. -/
structure UploadFile where
  id : Nat
  filename : Option String
  contentType : Option String
  /-- In bytes, when the handle was made. -/
  size : Nat
  deriving DecidableEq, Repr

/-- The contents of all files by the identity of their handles; none once released. -/
structure UploadStore where
  contents : List (Option Bytes) := []
  deriving DecidableEq

namespace UploadStore

def add (s : UploadStore) (part : FilePart) : UploadFile × UploadStore :=
  (⟨s.contents.length, part.filename, part.contentType, part.data.length⟩,
    ⟨s.contents ++ [some part.data]⟩)

def addAll (s : UploadStore) : List FilePart → List UploadFile × UploadStore
  | [] => ([], s)
  | p :: ps =>
    let (u, s) := s.add p
    let (us, s) := s.addAll ps
    (u :: us, s)

def read (s : UploadStore) (u : UploadFile) : Option Bytes := s.contents[u.id]?.join

def isReleased (s : UploadStore) (u : UploadFile) : Bool := (s.read u).isNone

/-- Release a file; true only when this very call released it. -/
def release (s : UploadStore) (u : UploadFile) : Bool × UploadStore :=
  (!s.isReleased u, ⟨s.contents.set u.id none⟩)

/-- Release several files; how many this released. -/
def releaseAll (s : UploadStore) : List UploadFile → Nat × UploadStore
  | [] => (0, s)
  | u :: us =>
    let (now, s) := s.release u
    let (n, s) := s.releaseAll us
    (n + now.toNat, s)

end UploadStore

end RequestBinding
