import RequestBinding.Decimal.Style

/-! Numbers that a parameter can be bounded by, and how messages write them. -/
namespace RequestBinding

/-- Messages write doubles with the fewest digits that read back and never with an exponent. -/
def messageStyle : Decimal.Style where
  exponentFrom := none
  exponentBelow := none
  pointZero := false
  tie := .up
  nan := "NaN"
  infinity := "inf"

inductive Quantity where
  | int (i : Int64)
  | double (x : Float)
  deriving DecidableEq

def Quantity.text : Quantity → String
  | .int i => Decimal.intText i.toInt
  | .double x => messageStyle.text x

end RequestBinding
