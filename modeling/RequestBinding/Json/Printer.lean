import RequestBinding.Json.Basic
import RequestBinding.Decimal.Style
import RequestBinding.Text.Quoted

/-!
Compact JSON text: no space between tokens, members in key order, and only quotes, backslashes and
control characters escaped.
-/
namespace RequestBinding.Json

/-- Doubles are written with the fewest digits that read back, around a point from 0.00001 up to
below 10 ^ 16 and with an exponent elsewhere. -/
def numberStyle : Decimal.Style where
  exponentFrom := some 16
  exponentBelow := some (-5)
  pointZero := true
  tie := .even
  nan := "null"
  infinity := "null"

def Number.render : Number → String
  | .whole i => Decimal.intText i
  | .double x => numberStyle.text x

def escapeChar (c : Char) : String :=
  if c = '"' then "\\\""
  else if c = '\\' then "\\\\"
  else if c = '\x08' then "\\b"
  else if c = '\t' then "\\t"
  else if c = '\n' then "\\n"
  else if c = '\x0c' then "\\f"
  else if c = '\r' then "\\r"
  else if c.toNat < 16 then "\\u000" ++ Text.hexDigits c.toNat
  else if c.toNat < 32 then "\\u00" ++ Text.hexDigits c.toNat
  else String.singleton c

def renderString (s : String) : String := "\"" ++ String.join (s.toList.map escapeChar) ++ "\""

mutual

def render : Json → String
  | .null => "null"
  | .bool b => if b then "true" else "false"
  | .number n => n.render
  | .string s => renderString s
  | .array items => "[" ++ ",".intercalate (renderItems items) ++ "]"
  | .object members => "\x7b" ++ ",".intercalate (renderMembers members) ++ "\x7d"

def renderItems : List Json → List String
  | [] => []
  | j :: r => render j :: renderItems r

def renderMembers : List (String × Json) → List String
  | [] => []
  | (k, j) :: r => (renderString k ++ ":" ++ render j) :: renderMembers r

end

end RequestBinding.Json
