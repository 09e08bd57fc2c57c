import RequestBinding.Unicode.NameTable
import RequestBinding.Unicode.Property

/-!
Questions for characters by the name of a property.  Case, blanks, hyphens, underscores and a
leading `is` make no difference to a name.
-/
namespace RequestBinding.Unicode

inductive Query where
  /-- A property, general category or script. -/
  | named (name : String)
  /-- A property that has the given value. -/
  | valued (name value : String)
  deriving DecidableEq, Repr

inductive QueryFault where
  | unknownProperty
  | unknownValue
  deriving DecidableEq, Repr

/-- The letters of a name that make a difference, in small form. -/
def significant (cs : List Char) : List Char :=
  (cs.filter fun c => c.toNat < 128 && c != ' ' && c != '_' && c != '-').map Char.toLower

def normalName (name : String) : String :=
  match name.toList with
  | i :: s :: rest =>
    if i.toLower = 'i' ∧ s.toLower = 's' then
      let normal := significant rest
      String.ofList (if normal = ['c'] then ['i', 's', 'c'] else normal)
    else String.ofList (significant (i :: s :: rest))
  | cs => String.ofList (significant cs)

def words (text : String) : List String := text.splitOn " "

def categoryNamed? (name : String) : Option (Except QueryFault CharSet) :=
  if name = "any" then some (.ok .all)
  else if name = "ascii" then some (.ok (.range '\x00' '\x7f'))
  else if name = "assigned" then some (.ok (category ["Cn"]).complement)
  else (categoryNames.find? fun e => name ∈ words e.1).map fun e =>
    if e.2.isEmpty then .error .unknownValue else .ok (category (words e.2))

def scriptTag? (name : String) : Option String :=
  (scriptNames.find? fun e => name ∈ words e.2).map (·.1)

/-- Some character may belong to the script; these two only stand for others. -/
def isProperScript (tag : String) : Bool := tag != "Zzzz" && tag != "Hrkt"

def scriptNamed? (set : String → CharSet) (name : String) : Option (Except QueryFault CharSet) :=
  (scriptTag? name).map fun tag =>
    if isProperScript tag then .ok (set tag) else .error .unknownValue

def propertyNamed? (name : String) : Option String :=
  (propertyNames.find? fun e => name ∈ words e.2).map (·.1)

/-- The number of a version without its dot and letter: `v100` and `10.0` are one version. -/
def versionDigits (value : String) : String :=
  String.ofList (value.toList.filter fun c => c != '.' && c != 'v')

def ageNamed? (value : String) : Option CharSet :=
  match ages.find? fun a => value = a.1 ∨ value = "v" ++ versionDigits a.1 with
  | some a => age? a.1
  | none => none

def valueOr : Option (Except QueryFault CharSet) → Except QueryFault CharSet
  | some answer => answer
  | none => .error .unknownValue

/-- The characters that are asked for.  Three short names are general categories although
properties are called so too. -/
def Query.answer : Query → Except QueryFault CharSet
  | .named name =>
    let name := normalName name
    let category? := categoryNamed? name
    let known := propertyNamed? name
    if name ∈ ["cf", "sc", "lc"] then valueOr category?
    else match known with
      | some p => .ok (property p)
      | none =>
        if name ∈ words otherPropertyNames then .error .unknownProperty
        else match category? with
          | some answer => answer
          | none => (scriptNamed? script name).getD (.error .unknownProperty)
  | .valued name value =>
    let name := normalName name
    let value := normalName value
    if name ∈ ["gc", "generalcategory"] then valueOr (categoryNamed? value)
    else if name ∈ ["sc", "script"] then valueOr (scriptNamed? script value)
    else if name ∈ ["scx", "scriptextensions"] then valueOr (scriptNamed? scriptExtensions value)
    else if name = "age" then valueOr ((ageNamed? value).map .ok)
    else if (propertyNamed? name).isSome || name ∈ words otherPropertyNames
        || name ∈ ["gcb", "graphemeclusterbreak", "wb", "wordbreak", "sb", "sentencebreak"] then
      .error .unknownValue
    else .error .unknownProperty

end RequestBinding.Unicode
