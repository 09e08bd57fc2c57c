import RequestBinding.Text.Split
import RequestBinding.Text.Utf8

/-!
Places in a payload.  A reader knows how many bytes it has consumed; people are told a line and a
column; the offset is computed back from these two.
-/
namespace RequestBinding

/-- A place in a payload: bytes before it, line, and bytes of that line. -/
structure Position where
  offset : Nat
  line : Nat
  column : Nat
  deriving DecidableEq, Repr

namespace Position

def newline : UInt8 := 10

/-- The line reached after reading the bytes, counted from one. -/
def lineAfter (read : Bytes) : Nat := 1 + read.count newline

def columnAfter (read : Bytes) : Nat := (read.reverse.takeWhile (· != newline)).length

/-- The pieces between line ends; there is always one more than there are line ends. -/
def lines (body : Bytes) : List Bytes := Text.splitOn newline body

/-- The offset of a line and column, never beyond the end of the body. -/
def offsetOf (body : Bytes) (line column : Nat) : Nat :=
  let start := ((lines body).take (line - 1)).foldr (fun l n => l.length + 1 + n) 0
  min (start + (column - 1)) body.length

def after (body : Bytes) (consumed : Nat) : Position :=
  let read := body.take consumed
  let line := lineAfter read
  let column := columnAfter read
  ⟨offsetOf body line column, line, column⟩

theorem offsetOf_le (body : Bytes) (line column : Nat) : offsetOf body line column ≤ body.length :=
  Nat.min_le_right ..

end Position

end RequestBinding
