import RequestBinding.Decimal.Shortest

/-!
How a number is written.  A style says when digits are set around a point and when an exponent is
used; `Style.text` writes a double in a style.
-/
namespace RequestBinding.Decimal

structure Style where
  /-- Numbers from ten to this power on get an exponent; none for never. -/
  exponentFrom : Option Int
  /-- Numbers below ten to this power get an exponent; none for never. -/
  exponentBelow : Option Int
  /-- A whole number keeps a point and a zero. -/
  pointZero : Bool
  tie : Tie
  nan : String
  infinity : String

def natText (n : Nat) : String := String.ofList (Nat.toDigits 10 n)

def intText (i : Int) : String := if i < 0 then "-" ++ natText i.natAbs else natText i.natAbs

def positional (pointZero : Bool) (d : Digits) : String :=
  let cs := Nat.toDigits 10 d.coefficient
  if 0 ≤ d.exponent then
    String.ofList (cs ++ List.replicate d.exponent.toNat '0') ++ if pointZero then ".0" else ""
  else
    let places := (-d.exponent).toNat
    if places < cs.length then
      String.ofList (cs.take (cs.length - places) ++ '.' :: cs.drop (cs.length - places))
    else
      String.ofList ('0' :: '.' :: List.replicate (places - cs.length) '0' ++ cs)

def scientific (d : Digits) : String :=
  let cs := Nat.toDigits 10 d.coefficient
  let e := d.exponent + (cs.length - 1 : Nat)
  let mantissa := match cs with
    | c :: r@(_ :: _) => c :: '.' :: r
    | _ => cs
  String.ofList mantissa ++ "e" ++ (if e < 0 then "-" else "+") ++ natText e.natAbs

/-- The power of ten of the first digit. -/
def Digits.magnitude (d : Digits) : Int :=
  d.exponent + ((Nat.toDigits 10 d.coefficient).length - 1 : Nat)

def Style.digits (s : Style) (d : Digits) : String :=
  if (s.exponentFrom.any (· ≤ d.magnitude)) || (s.exponentBelow.any (d.magnitude < ·)) then
    scientific d
  else positional s.pointZero d

def Style.text (s : Style) (x : Float) : String :=
  match parts x with
  | .nan => s.nan
  | .infinite negative => (if negative then "-" else "") ++ s.infinity
  | .finite negative m q narrow =>
    (if negative then "-" else "") ++
      if m = 0 then positional s.pointZero ⟨0, 0⟩ else s.digits (shortest s.tie m q narrow)

end RequestBinding.Decimal
