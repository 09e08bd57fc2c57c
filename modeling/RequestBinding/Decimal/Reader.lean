import RequestBinding.Text.Word
import RequestBinding.Text.LetterCase

/-!
Reading numbers from text.  An integer is an optional sign and digits, within 64 bits.  A double is
an optional sign and a decimal with at least one digit and perhaps an exponent, or the name of
infinity or of the number that is none; it is rounded to the nearest double.
-/
namespace RequestBinding.Decimal
open Text

def digitsValue? (cs : List Char) : Option Nat :=
  cs.foldlM (fun n c => (asciiDigit? c).map (10 * n + ·)) 0

/-- Split off a sign: true for minus. -/
def splitSign : List Char → Bool × List Char
  | '-' :: r => (true, r)
  | '+' :: r => (false, r)
  | cs => (false, cs)

def readInt64? (cs : List Char) : Option Int64 :=
  let (negative, digits) := splitSign cs
  if digits.isEmpty then none
  else do
    let n ← digitsValue? digits
    let i : Int := if negative then -n else n
    if Int64.minValue.toInt ≤ i ∧ i ≤ Int64.maxValue.toInt then some (Int64.ofInt i) else none

def splitDigits (cs : List Char) : List Char × List Char :=
  (cs.takeWhile fun c => (asciiDigit? c).isSome, cs.dropWhile fun c => (asciiDigit? c).isSome)

/-- The exponent that stands at the end of a decimal: none for text that is no exponent. -/
def exponent? : List Char → Option Int
  | [] => some 0
  | c :: r =>
    if c = 'e' ∨ c = 'E' then
      let (negative, digits) := splitSign r
      if digits.isEmpty then none
      else (digitsValue? digits).map fun n => if negative then -(n : Int) else n
    else none

/-- The double nearest to `m · 10 ^ e`.  Sizes that no finite double reaches are decided by the
number of digits alone. -/
def nearestDouble (m : Nat) (e : Int) : Float :=
  let size : Int := (Nat.toDigits 10 m).length + e
  if m = 0 then 0.0
  else if 400 < size then 1.0 / 0.0
  else if size < -400 then 0.0
  else if e < 0 then Float.ofScientific m true e.natAbs else Float.ofScientific m false e.natAbs

/-- An unsigned decimal: digits on at least one side of an optional point, then perhaps an
exponent. -/
def readDecimal? (cs : List Char) : Option Float :=
  let (whole, rest) := splitDigits cs
  let (fraction, rest) := match rest with
    | '.' :: r => splitDigits r
    | r => ([], r)
  if whole.isEmpty && fraction.isEmpty then none
  else do
    let e ← exponent? rest
    let m ← digitsValue? (whole ++ fraction)
    some (nearestDouble m (e - fraction.length))

def readFloat? (cs : List Char) : Option Float :=
  let (negative, body) := splitSign cs
  let magnitude :=
    let word := body.map asciiSmall
    if word = "inf".toList ∨ word = "infinity".toList then some (1.0 / 0.0)
    else if word = "nan".toList then some (0.0 / 0.0)
    else readDecimal? body
  magnitude.map fun x => if negative then -x else x

end RequestBinding.Decimal
