import RequestBinding.Pattern.Compile
import RequestBinding.Proofs.Pattern.SimpleForms
import RequestBinding.Schema.Format
import Mathlib

/-!
The formats as patterns.  Main statement: a text has a format exactly if the pattern of the format
is found in it, where the pattern is read like any other.
-/
namespace RequestBinding

namespace Format
open Regex

/-- The pattern that a format is short for. -/
def pattern : Format → String
  | .email => "^[a-zA-Z0-9._%+-]+@[a-zA-Z0-9.-]+\\.[a-zA-Z]\x7b2,\x7d$"
  | .uuid =>
    "^[0-9a-fA-F]\x7b8\x7d-[0-9a-fA-F]\x7b4\x7d-[0-9a-fA-F]\x7b4\x7d-[0-9a-fA-F]\x7b4\x7d-[0-9a-fA-F]\x7b12\x7d$"
  | .dateTime =>
    "^\\d\x7b4\x7d-\\d\x7b2\x7d-\\d\x7b2\x7dT\\d\x7b2\x7d:\\d\x7b2\x7d:\\d\x7b2\x7d(\\.\\d\x7b1,9\x7d)?(Z|[+-]\\d\x7b2\x7d:\\d\x7b2\x7d)?$"
  | .date => "^\\d\x7b4\x7d-\\d\x7b2\x7d-\\d\x7b2\x7d$"

set_option maxRecDepth 10000 in
theorem meaning_pattern (f : Format) :
    (Pattern.meaning f.pattern).map ungrouped = .ok f.regex := by
  cases f with
  | email => rw [pattern]; cbv
  | uuid => rw [pattern]; cbv
  | dateTime => rw [pattern]; cbv
  | date => rw [pattern]; cbv

theorem accepts_eq_search (f : Format) :
    ∃ r, Pattern.meaning f.pattern = .ok r ∧ ∀ s, f.accepts s = r.search s := by
  have meaning := meaning_pattern f
  cases read : Pattern.meaning f.pattern with
  | error flaw =>
    rw [read] at meaning
    cases meaning
  | ok r =>
    rw [read] at meaning
    refine ⟨r, rfl, fun s => ?_⟩
    rw [accepts, ← Except.ok.inj meaning, (same_ungrouped r).search_eq]

end Format

end RequestBinding
