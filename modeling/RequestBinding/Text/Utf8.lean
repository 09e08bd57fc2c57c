/-!
Reading bytes as UTF-8.  A text is read strictly, where the first byte that cannot be continued is
found, or leniently, where each longest start of a character that breaks off becomes one replacement
character.
-/
namespace RequestBinding

abbrev Bytes := List UInt8

namespace Text.Utf8

/-- What is owed after a first byte: the range of the second one, and how many come after that. -/
structure Owed where
  low : UInt8
  high : UInt8
  further : Nat
  /-- The bits that the first byte gives to the code point. -/
  bits : Nat

/-- What a first byte of two or more calls for; none for a byte that starts no such character. -/
def owed (b : UInt8) : Option Owed :=
  if 0xc2 ≤ b ∧ b ≤ 0xdf then some ⟨0x80, 0xbf, 0, b.toNat - 0xc0⟩
  else if b = 0xe0 then some ⟨0xa0, 0xbf, 1, 0⟩
  else if b = 0xed then some ⟨0x80, 0x9f, 1, 0xd⟩
  else if 0xe1 ≤ b ∧ b ≤ 0xef then some ⟨0x80, 0xbf, 1, b.toNat - 0xe0⟩
  else if b = 0xf0 then some ⟨0x90, 0xbf, 2, 0⟩
  else if b = 0xf4 then some ⟨0x80, 0x8f, 2, 4⟩
  else if 0xf1 ≤ b ∧ b ≤ 0xf3 then some ⟨0x80, 0xbf, 2, b.toNat - 0xf0⟩
  else none

/-- One step of reading: a character or a start that breaks off, with the number of its bytes. -/
inductive Piece where
  | char (c : Char) (size : Nat)
  | broken (size : Nat)

def Piece.size : Piece → Nat
  | .char _ n => n
  | .broken n => n

/-- Read `further` more bytes of a character after `size` of them. -/
def continuation (bits size : Nat) : Nat → Bytes → Piece
  | 0, _ => .char (Char.ofNat bits) size
  | further + 1, b :: r =>
    if 0x80 ≤ b ∧ b ≤ 0xbf then continuation (bits * 64 + (b.toNat - 0x80)) (size + 1) further r
    else .broken size
  | _ + 1, [] => .broken size

def piece (b : UInt8) (r : Bytes) : Piece :=
  if b < 0x80 then .char (Char.ofNat b.toNat) 1
  else match owed b with
    | none => .broken 1
    | some o => match r with
      | [] => .broken 1
      | c :: r =>
        if o.low ≤ c ∧ c ≤ o.high then
          continuation (o.bits * 64 + (c.toNat - 0x80)) 2 o.further r
        else .broken 1

/-- Read all bytes, `fuel` of them at most; a piece never takes more bytes than there are. -/
def pieces : Nat → Bytes → List Piece
  | 0, _ => []
  | _ + 1, [] => []
  | fuel + 1, b :: r =>
    let p := piece b r
    p :: pieces fuel (r.drop (p.size - 1))

def chars? (ps : List Piece) : Option (List Char) :=
  ps.mapM fun
    | .char c _ => some c
    | .broken _ => none

def decode? (bs : Bytes) : Option String := (chars? (pieces bs.length bs)).map String.ofList

/-- The number of bytes before the first piece that breaks off. -/
def validUpTo (bs : Bytes) : Nat :=
  ((pieces bs.length bs).takeWhile fun
    | .char _ _ => true
    | .broken _ => false).foldl (fun n p => n + p.size) 0

/-- The text with a replacement character for each piece that breaks off. -/
def decodeLossy (bs : Bytes) : String :=
  String.ofList ((pieces bs.length bs).map fun
    | .char c _ => c
    | .broken _ => '\ufffd')

def encode (s : String) : Bytes := s.toList.flatMap String.utf8EncodeChar

end Text.Utf8

end RequestBinding
