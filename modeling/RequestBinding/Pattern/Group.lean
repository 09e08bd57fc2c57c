import RequestBinding.Pattern.Cursor
import RequestBinding.Pattern.Written

/-!
Reading the beginnings of groups: switches, names, and what is refused.
-/
namespace RequestBinding.Pattern
open Unicode Reading

def switch? (c : Char) : Option Switch :=
  if c = 'i' then some .ignoreCase
  else if c = 'm' then some .lines
  else if c = 's' then some .dotAll
  else if c = 'U' then some .preferFew
  else if c = 'u' then some .unicode
  else if c = 'R' then some .carriageReturn
  else if c = 'x' then some .spaced
  else none

abbrev SwitchMark := Char × Nat

/-- The switches that the marks set: those before a hyphen are turned on and the others off. -/
def switchesOf : Bool → List SwitchMark → Switches
  | _, [] => []
  | on, (c, _) :: r =>
    match switch? c with
    | some s => (s, on) :: switchesOf on r
    | none => switchesOf false r

/-- The letters of switches up to a colon or parenthesis; `seen` are those so far, the last one
first. -/
def switchMarks : Nat → List SwitchMark → Reading (List SwitchMark)
  | 0, _ => do fail .flagEnd (.point (← index))
  | fuel + 1, seen => do
    let here ← index
    match ← next? with
    | none => fail .flagEnd (.point here)
    | some c =>
      if c = ':' ∨ c = ')' then
        match seen with
        | ('-', place) :: _ => fail .flagDangling (.one place)
        | _ => return seen.reverse
      else if c ≠ '-' ∧ (switch? c).isNone then fail .flagUnknown (.one here)
      else match seen.lookup c with
        | some first =>
          fail (if c = '-' then .flagNegatedTwice else .flagTwice) (.one here) (some (.one first))
        | none =>
          advance
          if (← next?).isNone then fail .flagEnd (.point (← index))
          else switchMarks fuel ((c, here) :: seen)

def isNameChar (first : Bool) (c : Char) : Bool :=
  c == '_' || isAlphabetic c
    || !first && (c == '.' || c == '[' || c == ']' || isAlphanumeric c)

def groupName : Reading (String × Span) := do
  let cs := (← get).rest
  let start ← index
  let name := cs.takeWhile (· != '>')
  match name.zipIdx.find? fun (c, i) => !isNameChar (i == 0) c with
  | some (_, i) => fail .groupNameCharacter (.one (start + i))
  | none =>
    let stop := start + name.length
    match cs.dropWhile (· != '>') with
    | [] => fail .groupNameEnd (.point stop)
    | _ :: after =>
      modify (·.moveTo after)
      if name.isEmpty then fail .groupNameEmpty (.point start)
      else return (String.ofList name, ⟨start, stop⟩)

def addName (name : String) (span : Span) : Reading Unit := do
  match (← get).names.lookup name with
  | some first => fail .groupNameTwice span (some first)
  | none => modify fun c => { c with names := (name, span) :: c.names }

def nextGroup : Reading Nat := do
  let index := (← get).groups + 1
  modify fun c => { c with groups := index }
  return index

inductive GroupOpening where
  | switches (items : Switches)
  | group (kind : GroupKind)

def groupOpening : Reading GroupOpening := do
  let start ← index
  advance
  skipSpace
  let inner ← index
  if ← accept "?=" <||> accept "?!" <||> accept "?<=" <||> accept "?<!" then
    fail .lookAround ⟨start, ← index⟩
  else if ← accept "?P<" <||> accept "?<" then
    let number ← nextGroup
    let (name, span) ← groupName
    addName name span
    return .group (.capture number)
  else if ← accept "?" then
    if (← next?).isNone then fail .groupUnclosed (.one start)
    else
      let marks ← switchMarks (← get).rest.length []
      let close ← next?
      advance
      let items := switchesOf true marks
      if close = some ':' then return .group (.plain items)
      else if marks.isEmpty then fail .nothingToRepeat (.point inner)
      else return .switches items
  else return .group (.capture (← nextGroup))

end RequestBinding.Pattern
