import RequestBinding.Unicode.AgeTable
import RequestBinding.Unicode.CategoryTable
import RequestBinding.Unicode.CharSet
import RequestBinding.Unicode.Newest
import RequestBinding.Unicode.PropertyTable
import RequestBinding.Unicode.ScriptTable
import RequestBinding.Text.Blank
import RequestBinding.Text.Word

/-!
The characters that have a property of the standard: a general category, a script, an age, or one
of the properties that hold or do not hold.  Those that follow from others are put together here.
-/
namespace RequestBinding.Unicode
open Text

structure RunReader where
  start : Nat
  name : List Char
  count : Option Nat
  finished : List (Nat × Nat × String)

def RunReader.finish (r : RunReader) : RunReader :=
  let next := r.start + r.count.getD 1
  if r.name.isEmpty then r
  else ⟨next, [], none, (r.start, next - 1, String.ofList r.name) :: r.finished⟩

/-- Read a letter or digit; names have `width` letters. -/
def RunReader.read (width : Nat) (r : RunReader) (c : Char) : RunReader :=
  match asciiDigit? c with
  | some d => { r with count := some (r.count.getD 0 * 10 + d) }
  | none =>
    if r.name.length < width then { r with name := r.name ++ [c] }
    else { r.finish with name := [c] }

/-- The runs of a table in order: first code point, last code point, name. -/
def runs (width : Nat) (table : String) : List (Nat × Nat × String) :=
  (table.toList.foldl (RunReader.read width) ⟨0, [], none, []⟩).finish.finished.reverse

def hexValue (cs : List Char) : Nat := cs.foldl (fun n c => n * 16 + (hexDigit? c).getD 0) 0

/-- The ranges of one word of a table: a code point, a range, or a range of every second one. -/
def wordRange (word : List Char) : List (Nat × Nat) :=
  let low := hexValue (word.takeWhile (· != '-'))
  match word.dropWhile (· != '-') with
  | [] => [(low, low)]
  | _ :: r =>
    let high := hexValue (r.takeWhile (· != '/'))
    if r.contains '/' then
      (List.range ((high - low) / 2 + 1)).map fun i => (low + 2 * i, low + 2 * i)
    else [(low, high)]

def readSet (words : String) : CharSet :=
  .ofRanges ((words.splitOn " ").flatMap fun w => wordRange w.toList)

def named (names : List String) (table : List (Nat × Nat × String)) : CharSet :=
  .ofRanges (table.filterMap fun r => if r.2.2 ∈ names then some (r.1, r.2.1) else none)

def categories : List (Nat × Nat × String) := runs 2 categoryRuns

def scripts : List (Nat × Nat × String) := runs 4 scriptRuns

def category (names : List String) : CharSet := named names categories

def script (name : String) : CharSet := named [name] scripts

/-- The characters in use in a script, its own or another's. -/
def scriptExtensions (name : String) : CharSet :=
  let shared (rs : List (Nat × Nat × String)) : CharSet := .ofRanges (rs.map fun r => (r.1, r.2.1))
  ((script name).without (shared sharedScripts)).union
    (shared (sharedScripts.filter fun r => name ∈ r.2.2.splitOn " "))

/-- The characters assigned in a version or before, if there is such a version. -/
def age? (version : String) : Option CharSet :=
  if ages.any (·.1 == version) then
    let upTo := ages.takeWhile (·.1 != version) ++ ages.filter (·.1 == version)
    some (.unionAll (upTo.map fun a => readSet a.2))
  else none

def listed (name : String) : CharSet := readSet ((listedProperties.lookup name).getD "")

def letterCategories : List String := ["Lu", "Ll", "Lt", "Lm", "Lo"]

def lowercase (_ : Unit) : CharSet := (category ["Ll"]).union (listed "Other_Lowercase")

def uppercase (_ : Unit) : CharSet := (category ["Lu"]).union (listed "Other_Uppercase")

def alphabetic (_ : Unit) : CharSet :=
  .unionAll [lowercase (), uppercase (), category ["Lt", "Lm", "Lo", "Nl"],
    listed "Other_Alphabetic"]

def idStart (_ : Unit) : CharSet :=
  (((category ("Nl" :: letterCategories)).union (listed "Other_ID_Start")).without
    (listed "Pattern_Syntax")).without (listed "Pattern_White_Space")

def idContinue (_ : Unit) : CharSet :=
  .unionAll [idStart (), category ["Mn", "Mc", "Nd", "Pc"], listed "Other_ID_Continue"]

/-- What may stand in an identifier but not in its composed form. -/
def composedExceptions (_ : Unit) : CharSet :=
  readSet "37a 309b-309c fc5e-fc63 fdfa-fdfb fe70-fe7e/2"

def graphemeExtend (_ : Unit) : CharSet :=
  (category ["Mn", "Me"]).union (listed "Other_Grapheme_Extend")

def defaultIgnorable (_ : Unit) : CharSet :=
  let shown : CharSet := .unionAll [⟨blankRanges⟩, readSet "fff9-fffb 13430-1343f",
    listed "Prepended_Concatenation_Mark"]
  (listed "Other_Default_Ignorable_Code_Point").union
    (((category ["Cf"]).union (listed "Variation_Selector")).without shown)

def property (name : String) : CharSet :=
  match name with
  | "Alphabetic" => alphabetic ()
  | "Lowercase" => lowercase ()
  | "Uppercase" => uppercase ()
  | "Math" => (category ["Sm"]).union (listed "Other_Math")
  | "Cased" => .unionAll [lowercase (), uppercase (), category ["Lt"]]
  | "Case_Ignorable" =>
    (category ["Mn", "Me", "Cf", "Lm", "Sk"]).union
      (readSet "27 2e 3a b7 387 55f 5f4 2018-2019 2024 2027 fe13 fe52 fe55 ff07 ff0e ff1a")
  | "Changes_When_Casemapped" =>
    .unionAll [listed "Changes_When_Lowercased", listed "Changes_When_Titlecased",
      listed "Changes_When_Uppercased"]
  | "ID_Start" => idStart ()
  | "ID_Continue" => idContinue ()
  | "XID_Start" =>
    ((idStart ()).without (composedExceptions ())).without (readSet "e33 eb3 ff9e-ff9f")
  | "XID_Continue" => (idContinue ()).without (composedExceptions ())
  | "Grapheme_Extend" => graphemeExtend ()
  | "Grapheme_Base" =>
    (((category ["Cc", "Cf", "Cs", "Co", "Cn", "Zl", "Zp"]).union (graphemeExtend ())).complement)
  | "Default_Ignorable_Code_Point" => defaultIgnorable ()
  | "White_Space" => ⟨blankRanges⟩
  | name => listed name

/-- A letter or what is used like one, in the newest version. -/
def isAlphabetic (c : Char) : Bool :=
  (alphabetic ()).contains c || inRanges newestAlphabeticRanges c

def isAlphanumeric (c : Char) : Bool :=
  isAlphabetic c || (category ["Nd", "Nl", "No"]).contains c || inRanges newestDigitRanges c

end RequestBinding.Unicode
