/-!
What can be wrong with a pattern, and the part of the pattern that it concerns.
-/
namespace RequestBinding.Pattern

/-- A part of a pattern: from the character with index `start` up to the one with index `stop`. -/
structure Span where
  start : Nat
  stop : Nat
  deriving DecidableEq, Repr

/-- The place in front of a character. -/
def Span.point (index : Nat) : Span := ⟨index, index⟩

def Span.one (index : Nat) : Span := ⟨index, index + 1⟩

inductive Fault where
  | classEscape
  | classRange
  | classRangeEnd
  | classUnclosed
  | decimalTooLarge
  | hexEmpty
  | hexNoCharacter
  | hexDigit
  | escapeEnd
  | escapeUnknown
  | flagDangling
  | flagTwice
  | flagNegatedTwice
  | flagEnd
  | flagUnknown
  | groupNameTwice
  | groupNameEmpty
  | groupNameCharacter
  | groupNameEnd
  | groupUnclosed
  | groupUnopened
  | nestedTooDeep
  | countOrder
  | countMissing
  | countUnclosed
  | nothingToRepeat
  | wordBoundaryUnclosed
  | wordBoundaryUnknown
  | wordBoundaryEnd
  | propertyLetter
  | backreference
  | lookAround
  | notAscii
  | notText
  | propertyUnknown
  | propertyValueUnknown
  deriving DecidableEq, Repr

/-- How deep groups, brackets, repetitions, alternatives and sequences may be nested. -/
def nestingLimit : Nat := 250

def Fault.text : Fault → String
  | .classEscape => "invalid escape sequence found in character class"
  | .classRange => "invalid character class range, the start must be <= the end"
  | .classRangeEnd => "invalid range boundary, must be a literal"
  | .classUnclosed => "unclosed character class"
  | .decimalTooLarge => "decimal literal invalid"
  | .hexEmpty => "hexadecimal literal empty"
  | .hexNoCharacter => "hexadecimal literal is not a Unicode scalar value"
  | .hexDigit => "invalid hexadecimal digit"
  | .escapeEnd => "incomplete escape sequence, reached end of pattern prematurely"
  | .escapeUnknown => "unrecognized escape sequence"
  | .flagDangling => "dangling flag negation operator"
  | .flagTwice => "duplicate flag"
  | .flagNegatedTwice => "flag negation operator repeated"
  | .flagEnd => "expected flag but got end of regex"
  | .flagUnknown => "unrecognized flag"
  | .groupNameTwice => "duplicate capture group name"
  | .groupNameEmpty => "empty capture group name"
  | .groupNameCharacter => "invalid capture group character"
  | .groupNameEnd => "unclosed capture group name"
  | .groupUnclosed => "unclosed group"
  | .groupUnopened => "unopened group"
  | .nestedTooDeep =>
    "exceed the maximum number of nested parentheses/brackets (" ++ toString nestingLimit ++ ")"
  | .countOrder => "invalid repetition count range, the start must be <= the end"
  | .countMissing => "repetition quantifier expects a valid decimal"
  | .countUnclosed => "unclosed counted repetition"
  | .nothingToRepeat => "repetition operator missing expression"
  | .wordBoundaryUnclosed =>
    "special word boundary assertion is either unclosed or contains an invalid character"
  | .wordBoundaryUnknown =>
    "unrecognized special word boundary assertion, valid choices are: start, end, start-half "
      ++ "or end-half"
  | .wordBoundaryEnd => "found start of special word boundary or repetition without an end"
  | .propertyLetter => "invalid Unicode character class"
  | .backreference => "backreferences are not supported"
  | .lookAround => "look-around, including look-ahead and look-behind, is not supported"
  | .notAscii => "Unicode not allowed here"
  | .notText => "pattern can match invalid UTF-8"
  | .propertyUnknown => "Unicode property not found"
  | .propertyValueUnknown => "Unicode property value not found"

structure Flaw where
  fault : Fault
  span : Span
  /-- An earlier part that the fault also concerns. -/
  related : Option Span := none
  deriving DecidableEq, Repr

end RequestBinding.Pattern
