import RequestBinding.Text.CaseTable

/-!
Letter case: capital and small forms of whole texts, the ASCII-only small form, and the common form
of letters that differ in case alone.
-/
namespace RequestBinding.Text

def CaseRun.image? (r : CaseRun) (c : Nat) : Option Nat :=
  if r.first ≤ c ∧ c ≤ r.last ∧ (c - r.first) % r.step = 0 then some (r.image + (c - r.first))
  else none

/-- The capital form of a letter where it is a single letter, and the character itself elsewhere. -/
def capitalLetter (c : Char) : Char :=
  if 'a' ≤ c ∧ c ≤ 'z' then Char.ofNat (c.toNat - 32)
  else ((capitalRuns.findSome? (·.image? c.toNat)).map Char.ofNat).getD c

/-- The capital form of a character, which is a sequence for some letters. -/
def capital (c : Char) : List Char :=
  match capitalSequences.lookup c.toNat with
  | some cs => cs.map Char.ofNat
  | none => [capitalLetter c]

def smallLetter (c : Char) : Char :=
  if 'A' ≤ c ∧ c ≤ 'Z' then Char.ofNat (c.toNat + 32)
  else ((smallRuns.findSome? (·.image? c.toNat)).map Char.ofNat).getD c

/-- The small form of a character on its own; a dotted capital I keeps its dot as a mark. -/
def small (c : Char) : List Char :=
  if c = 'İ' then ['i', '\u0307'] else [smallLetter c]

/-- The first character that is not passed over has case. -/
def meetsCased (cs : List Char) : Bool :=
  match cs.dropWhile (inRanges caseIgnorableRanges) with
  | [] => false
  | c :: _ => inRanges casedRanges c

/-- Small forms of the characters of `cs`, which follow `before` (nearest first).  A capital sigma
that ends a word becomes the final form. -/
def smallFrom (before : List Char) : List Char → List Char
  | [] => []
  | c :: r =>
    (if c = 'Σ' then [if meetsCased before && !meetsCased r then 'ς' else 'σ'] else small c)
      ++ smallFrom (c :: before) r

def toCapitals (s : String) : String := String.ofList (s.toList.flatMap capital)

def toSmall (s : String) : String := String.ofList (smallFrom [] s.toList)

/-- The small form of an ASCII capital; every other character is kept. -/
def asciiSmall (c : Char) : Char :=
  if 'A' ≤ c ∧ c ≤ 'Z' then Char.ofNat (c.toNat + 32) else c

def toAsciiSmall (s : String) : String := String.ofList (s.toList.map asciiSmall)

/-- One form for all letters that differ in case alone.  A dotless i is a letter of its own, and
three pairs have no single capital to meet at. -/
def folded (c : Char) : Char :=
  if c = 'ı' then c
  else if c = '\u1fd3' then '\u0390'
  else if c = '\u1fe3' then '\u03b0'
  else if c = '\ufb05' then '\ufb06'
  else smallLetter (capitalLetter c)

end RequestBinding.Text
