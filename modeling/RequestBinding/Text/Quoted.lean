import RequestBinding.Text.UnprintableTable

/-!
Quoted text for messages and diagnostics: double quotes around the text, short escapes for the
common control characters, and the code point in braces for characters that do not show.
-/
namespace RequestBinding.Text

def isPrintable (c : Char) : Bool :=
  !inRanges unprintableRanges c && !inRanges fillerRanges c && !inRanges extendingRanges c

def hexDigits (n : Nat) : String := String.ofList (Nat.toDigits 16 n)

def quotedChar (c : Char) : String :=
  if c = '"' then "\\\""
  else if c = '\\' then "\\\\"
  else if c = '\n' then "\\n"
  else if c = '\r' then "\\r"
  else if c = '\t' then "\\t"
  else if c = '\x00' then "\\0"
  else if isPrintable c then String.singleton c
  else "\\u\x7b" ++ hexDigits c.toNat ++ "\x7d"

def quoted (s : String) : String := "\"" ++ String.join (s.toList.map quotedChar) ++ "\""

def quotedList (ss : List String) : String := "[" ++ ", ".intercalate (ss.map quoted) ++ "]"

def quotedOption : Option String → String
  | none => "None"
  | some s => "Some(" ++ quoted s ++ ")"

end RequestBinding.Text
