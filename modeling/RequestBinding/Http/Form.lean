import RequestBinding.Dictionary
import RequestBinding.Text.Split
import RequestBinding.Text.Utf8
import RequestBinding.Text.Word

/-! Submitted forms: text fields and file parts, and the urlencoded form of the fields. -/
namespace RequestBinding

structure FilePart where
  filename : Option String
  contentType : Option String
  data : Bytes
  deriving DecidableEq, Repr

structure Form where
  fields : Dictionary String (List String) := ∅
  files : Dictionary String (List FilePart) := ∅

namespace Form

def empty : Form := {}

def addField (form : Form) (name value : String) : Form :=
  { form with fields := form.fields.insert name ((form.fields.get? name).getD [] ++ [value]) }

def addFile (form : Form) (name : String) (part : FilePart) : Form :=
  { form with files := form.files.insert name ((form.files.get? name).getD [] ++ [part]) }

def field? (form : Form) (name : String) : Option (List String) := form.fields.get? name

def files? (form : Form) (name : String) : Option (List FilePart) := form.files.get? name

def isEmpty (form : Form) : Bool := form.fields.isEmpty && form.files.isEmpty

def hexByte? (b : UInt8) : Option Nat := Text.hexDigit? (Char.ofNat b.toNat)

/-- Undo percent encoding and read a plus as a blank; a percent sign without two digits after it
stays. -/
def percentDecode : Bytes → Bytes
  | [] => []
  | 37 :: h :: l :: r =>
    match hexByte? h, hexByte? l with
    | some x, some y => (x * 16 + y).toUInt8 :: percentDecode r
    | _, _ => 37 :: percentDecode (h :: l :: r)
  | b :: r => (if b = 43 then 32 else b) :: percentDecode r

def decodePart (bs : Bytes) : String := Text.Utf8.decodeLossy (percentDecode bs)

def pair (piece : Bytes) : String × String :=
  match Text.splitOnce? 61 piece with
  | some (name, value) => (decodePart name, decodePart value)
  | none => (decodePart piece, "")

/-- Read a urlencoded body; empty pieces are passed over. -/
def ofUrlencoded (body : Bytes) : Form :=
  (((Text.splitOn 38 body).filter (!·.isEmpty)).map pair).foldl
    (fun form (name, value) => form.addField name value) empty

end Form

end RequestBinding
