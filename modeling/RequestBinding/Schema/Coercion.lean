import RequestBinding.Schema.Basic
import RequestBinding.Decimal.Reader
import RequestBinding.Text.Blank

/-!
Raw text on its way to a declared type.  Text that does not read as the type stays text, so that the
check that follows reports it.
-/
namespace RequestBinding.Schema
open Text

/-- The words for true and false, in any ASCII case and with blanks around them. -/
def readBool? (text : String) : Option Bool :=
  let word := toAsciiSmall (trim text)
  if word = "true" ∨ word = "1" ∨ word = "yes" ∨ word = "on" then some true
  else if word = "false" ∨ word = "0" ∨ word = "no" ∨ word = "off" then some false
  else none

/-- A scalar from text; none where the text stays as it is. -/
def scalarOfText? (schema : Schema) (text : String) : Option Value :=
  match schema with
  | .integer _ => (Decimal.readInt64? (trim text).toList).map .int
  | .number _ => (Decimal.readFloat? (trim text).toList).map .float
  | .boolean => (readBool? text).map .bool
  | .bytes => some (.bytes (Utf8.encode text))
  | _ => none

/-- One text as the declared type; a list takes it as its only item. -/
def coerceText : Schema → String → Value
  | .list items, raw => .list [coerceText items raw]
  | .optional (.list items), raw => .list [coerceText items raw]
  | .optional inner, raw => (scalarOfText? inner raw).getD (.string raw)
  | schema, raw => (scalarOfText? schema raw).getD (.string raw)

/-- All texts of a key as the declared type: a list takes every text, anything else the last. -/
def coerceTexts (schema : Schema) (texts : List String) : Option Value :=
  match schema.bare with
  | .list items => some (.list (texts.map (coerceText items)))
  | _ => texts.getLast?.map (coerceText schema)

end RequestBinding.Schema
