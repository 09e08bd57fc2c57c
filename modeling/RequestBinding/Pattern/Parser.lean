import RequestBinding.Pattern.Bracket
import RequestBinding.Pattern.Group

/-!
Reading patterns.  The first fault from the left ends it.
-/
namespace RequestBinding.Pattern
open Text Reading

def maxCount : Nat := UInt32.size - 1

def countDigits : Nat → Reading (List Nat)
  | 0 => return []
  | fuel + 1 => do
    match (← next?).bind asciiDigit? with
    | some d =>
      discard step?
      return d :: (← countDigits fuel)
    | none => return []

/-- A count with blanks around it, or why there is none. -/
def count : Reading (Except Flaw Nat) := do
  skipBlanks
  let start ← index
  let digits ← countDigits (← get).rest.length
  let span : Span := ⟨start, ← index⟩
  skipBlanks
  if digits.isEmpty then return .error ⟨.countMissing, span, none⟩
  else
    let n := digits.foldl (fun n d => n * 10 + d) 0
    return if maxCount < n then .error ⟨.decimalTooLarge, span, none⟩ else .ok n

structure Counts where
  least : Nat
  /-- No limit when absent. -/
  most : Option Nat

def counts (start : Nat) : Reading Counts := do
  let unclosed : Reading Counts := do fail .countUnclosed ⟨start, ← index⟩
  if (← step?).isNone then unclosed
  else
    let first ← count
    match ← next? with
    | none => unclosed
    | some ',' =>
      match ← step? with
      | none => unclosed
      | some '}' => return ⟨← first, none⟩
      | some _ =>
        let least ← first
        let most ← count
        return ⟨least, some (← most)⟩
    | some _ =>
      let n ← first
      return ⟨n, some n⟩

/-- Counts up to their closing brace and the mark that makes them prefer few. -/
def bracedCounts : Reading Counts := do
  let start ← index
  let c ← counts start
  if (← next?) ≠ some '}' then fail .countUnclosed ⟨start, ← index⟩
  else
    if (← step?) = some '?' then advance
    if c.most.any (· < c.least) then fail .countOrder ⟨start, ← index⟩ else return c

def signCounts? (c : Char) : Option Counts :=
  if c = '?' then some ⟨0, some 1⟩
  else if c = '*' then some ⟨0, none⟩
  else if c = '+' then some ⟨1, none⟩
  else none

/-- Parts one after another, the last one first; `start` is where they begin. -/
structure Parts where
  start : Nat
  parts : List Written

def Parts.toWritten (ps : Parts) (stop : Nat) : Written :=
  match ps.parts with
  | [] => .nothing ⟨ps.start, stop⟩
  | [part] => part
  | parts => .sequence ⟨ps.start, stop⟩ parts.reverse

def Parts.push (ps : Parts) (part : Written) : Parts := ⟨ps.start, part :: ps.parts⟩

/-- Alternatives that have ended, the last one first, and the one that is being read. -/
structure Branches where
  start : Nat
  finished : List Written
  current : Parts

def Branches.begin (start : Nat) : Branches := ⟨start, [], ⟨start, []⟩⟩

def Branches.toWritten (bs : Branches) (stop : Nat) : Written :=
  match bs.finished with
  | [] => bs.current.toWritten stop
  | finished => .either ⟨bs.start, stop⟩ (bs.current.toWritten stop :: finished).reverse

def Branches.push (bs : Branches) (part : Written) : Branches :=
  { bs with current := bs.current.push part }

def primitive (c : Char) : Reading Written := do
  let here := Span.one (← index)
  if c = '\\' then
    match ← escape with
    | .literal l => return .literal l
    | .letter span negated letter => return .letter span negated letter
    | .property span negated q => return .property span negated q
    | .anchor span a => return .anchor span a
  else
    advance
    if c = '.' then return .dot here
    else if c = '^' then return .anchor here .lineStart
    else if c = '$' then return .anchor here .lineEnd
    else return .literal { span := here, char := c }

def repeatLast (c : Char) (ps : Parts) : Reading Parts := do
  let here ← index
  match ps.parts with
  | [] => fail .nothingToRepeat (.point here)
  | part :: others =>
    if part.isBare then fail .nothingToRepeat (.point here)
    else
      let counts ← match signCounts? c with
        | some counts =>
          advance
          if (← next?) = some '?' then advance
          pure counts
        | none => bracedCounts
      let span : Span := ⟨part.span.start, ← index⟩
      return ⟨ps.start, .repeated span part counts.least counts.most :: others⟩

/-- An expression up to the end of its group, whose parenthesis stands at `opened`. -/
def expression : Nat → Option Nat → Branches → Reading Written
  | 0, _, bs => do return bs.toWritten (← index)
  | fuel + 1, opened, bs => do
    skipSpace
    let here ← index
    match ← next?, opened with
    | none, some start => fail .groupUnclosed (.one start)
    | none, none => return bs.toWritten here
    | some ')', none => fail .groupUnopened (.one here)
    | some ')', some _ =>
      advance
      return bs.toWritten here
    | some '|', _ =>
      advance
      let next ← index
      expression fuel opened ⟨bs.start, bs.current.toWritten here :: bs.finished, ⟨next, []⟩⟩
    | some '(', _ =>
      match ← groupOpening with
      | .switches items =>
        modify fun c => { c with spaced := (items.setting? .spaced).getD c.spaced }
        expression fuel opened (bs.push (.switches ⟨here, ← index⟩ items))
      | .group kind =>
        let spaced := (← get).spaced
        let inside := match kind with
          | .plain items => (items.setting? .spaced).getD spaced
          | .capture _ => spaced
        modify fun c => { c with spaced := inside }
        let inner ← expression fuel (some here) (.begin (← index))
        modify fun c => { c with spaced }
        expression fuel opened (bs.push (.group ⟨here, ← index⟩ kind inner))
    | some '[', _ =>
      let b ← bracket
      expression fuel opened (bs.push (.bracketed b.span b.negated b.inner))
    | some c, _ =>
      if (signCounts? c).isSome ∨ c = '{' then
        expression fuel opened { bs with current := ← repeatLast c bs.current }
      else expression fuel opened (bs.push (← primitive c))

def read (pattern : String) : Except Flaw Written :=
  let cs := pattern.toList
  ((expression (cs.length + 1) none (.begin 0)).run (.start cs)).map (·.1)

end RequestBinding.Pattern
