import RequestBinding.Pattern.Match
import RequestBinding.Pattern.Meaning
import RequestBinding.Pattern.Message
import RequestBinding.Pattern.Nesting
import RequestBinding.Pattern.Parser
import RequestBinding.Pattern.Size

/-!
From the text of a pattern to its expression.
-/
namespace RequestBinding.Pattern

inductive Refusal where
  | flawed (flaw : Flaw)
  | tooLarge
  deriving DecidableEq, Repr

def Refusal.message (pattern : String) : Refusal → String
  | .flawed flaw => flaw.message pattern
  | .tooLarge => s!"Compiled regex exceeds size limit of {Automaton.sizeLimit} bytes."

def meaning (pattern : String) : Except Flaw Regex := do
  let written ← read pattern
  written.checkNesting 0
  written.meaning

/-- The expression of a pattern, if it has one that is not too large. -/
def compile (pattern : String) : Except Refusal Regex :=
  match meaning pattern with
  | .error flaw => .error (.flawed flaw)
  | .ok r => if r.fits then .ok r else .error .tooLarge

end RequestBinding.Pattern
