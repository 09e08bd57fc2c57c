import RequestBinding.Pattern.Fault
import RequestBinding.Text.Blank

/-!
A place in a pattern that is being read, and the steps from it.  In spaced patterns blanks and
comments count for nothing.
-/
namespace RequestBinding.Pattern
open Text

structure Cursor where
  index : Nat
  rest : List Char
  /-- Blanks and comments are skipped. -/
  spaced : Bool
  /-- How many groups with a number have been opened. -/
  groups : Nat
  /-- The names of groups and where they stand. -/
  names : List (String × Span)

def Cursor.start (cs : List Char) : Cursor := ⟨0, cs, false, 0, []⟩

/-- Reading from a cursor; it ends with the first fault. -/
abbrev Reading := StateT Cursor (Except Flaw)

/-- What follows blanks and comments, given whether a comment has begun. -/
def dropSpace : Bool → List Char → List Char
  | _, [] => []
  | true, c :: r => dropSpace (c != '\n') r
  | false, c :: r =>
    if isBlank c then dropSpace false r else if c = '#' then dropSpace true r else c :: r

def Cursor.moveTo (c : Cursor) (rest : List Char) : Cursor :=
  { c with index := c.index + (c.rest.length - rest.length), rest }

/-- The character after the next one in a spaced pattern, which is looked for behind blanks and the
sign of a comment, but not behind the comment. -/
def peekSpaced? (rest : List Char) : Option Char :=
  match rest.dropWhile isBlank with
  | '#' :: r => (r.dropWhile isBlank).head?.or rest.head?
  | r => r.head?.or rest.head?

namespace Reading

def fail {α : Type} (fault : Fault) (span : Span) (related : Option Span := none) : Reading α :=
  throw ⟨fault, span, related⟩

def index : Reading Nat := return (← get).index

def next? : Reading (Option Char) := return (← get).rest.head?

def advance : Reading Unit := modify fun c =>
  match c.rest with
  | [] => c
  | _ :: rest => { c with index := c.index + 1, rest }

def skipSpace : Reading Unit := modify fun c =>
  if c.spaced then c.moveTo (dropSpace false c.rest) else c

/-- Go over the next character and what counts for nothing after it; the next character then. -/
def step? : Reading (Option Char) := do
  advance
  skipSpace
  next?

def accept (text : String) : Reading Bool := do
  let c ← get
  if text.toList.isPrefixOf c.rest then
    set (c.moveTo (c.rest.drop text.length))
    return true
  else return false

def peek? : Reading (Option Char) := return ((← get).rest.drop 1).head?

/-- The character after the next one, or a later one where characters count for nothing. -/
def peekStep? : Reading (Option Char) := do
  let c ← get
  return if c.spaced then peekSpaced? (c.rest.drop 1) else (c.rest.drop 1).head?

/-- The characters after the next one up to a closing brace or the end, with their places. -/
def untilBrace : Nat → Reading (List (Nat × Char))
  | 0 => return []
  | fuel + 1 => do
    match ← step? with
    | some '}' => return []
    | some c => return (← index, c) :: (← untilBrace fuel)
    | none => return []

def braced : Reading (List (Nat × Char)) := do untilBrace (← get).rest.length

def skipBlanks : Reading Unit := modify fun c => c.moveTo (c.rest.dropWhile isBlank)

end Reading

end RequestBinding.Pattern
