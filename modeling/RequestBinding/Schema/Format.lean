import RequestBinding.Pattern.Match
import RequestBinding.Violation

/-! The expressions behind the text formats. -/
namespace RequestBinding

namespace Format

def digit : Regex := .set ⟨Text.digitRanges⟩

def hexDigit : Regex := .set (.unionAll [.range '0' '9', .range 'a' 'f', .range 'A' 'F'])

def letters : CharSet := .union (.range 'a' 'z') (.range 'A' 'Z')

def lettersDigitsAnd (cs : List Char) : CharSet :=
  .unionAll ([letters, .range '0' '9'] ++ cs.map .single)

def whole (rs : List Regex) : Regex :=
  .seqAll (.assert .textStart :: rs ++ [.assert .textEnd])

def datePart : List Regex :=
  [digit.times 4, .char '-', digit.times 2, .char '-', digit.times 2]

def clockPart : List Regex := [digit.times 2, .char ':', digit.times 2]

def regex : Format → Regex
  | .email => whole [
      (Regex.set (lettersDigitsAnd ['.', '_', '%', '+', '-'])).atLeast 1, .char '@',
      (Regex.set (lettersDigitsAnd ['.', '-'])).atLeast 1, .char '.', (Regex.set letters).atLeast 2]
  | .uuid => whole [hexDigit.times 8, .char '-', hexDigit.times 4, .char '-', hexDigit.times 4,
      .char '-', hexDigit.times 4, .char '-', hexDigit.times 12]
  | .dateTime => whole (datePart ++ [.char 'T'] ++ clockPart ++ [.char ':', digit.times 2,
      Regex.optional (.seq (.char '.') (.rep digit 1 (some 9))),
      Regex.optional (.alt (.char 'Z')
        (.seqAll (.set (.union (.single '+') (.single '-')) :: clockPart)))])
  | .date => whole datePart

def accepts (f : Format) (text : String) : Bool := f.regex.search text

end Format

end RequestBinding
