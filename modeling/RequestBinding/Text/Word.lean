import RequestBinding.Text.WordTable

/-! Word characters of every script and the digits of ASCII. -/
namespace RequestBinding.Text

/-- Letters, marks, decimal digits, connector punctuation and the join controls. -/
def isWord (c : Char) : Bool := inRanges wordRanges c

def asciiDigit? (c : Char) : Option Nat :=
  if '0' ≤ c ∧ c ≤ '9' then some (c.toNat - '0'.toNat) else none

def hexDigit? (c : Char) : Option Nat :=
  if '0' ≤ c ∧ c ≤ '9' then some (c.toNat - '0'.toNat)
  else if 'a' ≤ c ∧ c ≤ 'f' then some (c.toNat - 'a'.toNat + 10)
  else if 'A' ≤ c ∧ c ≤ 'F' then some (c.toNat - 'A'.toNat + 10)
  else none

end RequestBinding.Text
