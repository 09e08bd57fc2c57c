import RequestBinding.Pattern.Cursor
import RequestBinding.Pattern.Written

/-!
Escapes and single characters: characters by their code points, classes of characters, properties,
and conditions on a place.
-/
namespace RequestBinding.Pattern
open Text Unicode Reading

inductive Primitive where
  | literal (l : Literal)
  | letter (span : Span) (negated : Bool) (c : LetterClass)
  | property (span : Span) (negated : Bool) (q : Query)
  | anchor (span : Span) (a : Anchor)

def Primitive.span : Primitive → Span
  | .literal l => l.span
  | .letter span .. | .property span .. | .anchor span _ => span

def isMeta (c : Char) : Bool := c ∈ "\\.+*?()|[]\x7b\x7d^$#&-~".toList

/-- Characters that a backslash leaves as they are. -/
def isEscapable (c : Char) : Bool :=
  isMeta c || (c.toNat < 128 && !c.isAlphanum && c != '<' && c != '>')

def hexDigits : Nat → Nat → Reading Nat
  | 0, value => return value
  | n + 1, value => do
    match ← next? with
    | none => fail .escapeEnd (.point (← index))
    | some c =>
      match hexDigit? c with
      | none => fail .hexDigit (.one (← index))
      | some d => do
        discard step?
        hexDigits n (value * 16 + d)

def hexFixed (n : Nat) : Reading Char := do
  let start ← index
  let value ← hexDigits n 0
  if value.isValidChar then return Char.ofNat value
  else fail .hexNoCharacter ⟨start, ← index⟩

def hexBraced : Reading Char := do
  let brace ← index
  let digits ← braced
  match digits.find? fun d => (hexDigit? d.2).isNone with
  | some d => fail .hexDigit (.one d.1)
  | none =>
    let close ← index
    if (← next?).isNone then fail .escapeEnd ⟨brace, close⟩
    else
      discard step?
      if digits.isEmpty then fail .hexEmpty ⟨brace, ← index⟩
      else
        let value := hexValue (digits.map (·.2))
        if value.isValidChar then return Char.ofNat value
        else fail .hexNoCharacter ⟨brace + 1, close⟩

/-- How many digits a code point without braces has. -/
def hexLength (c : Char) : Nat := if c = 'x' then 2 else if c = 'u' then 4 else 8

/-- A character by its code point; the letter `kind` is next and `start` is where its backslash
stands. -/
def hexLiteral (start : Nat) (kind : Char) : Reading Literal := do
  match ← step? with
  | none => fail .escapeEnd (.point (← index))
  | some '{' =>
    let char ← hexBraced
    return { span := ⟨start, ← index⟩, char }
  | some _ =>
    let char ← hexFixed (hexLength kind)
    return { span := ⟨start, ← index⟩, char, isByte := kind == 'x' }

/-- Cut at the first place where `mark` stands. -/
def cutAt? (mark : List Char) : List Char → Option (List Char × List Char)
  | [] => none
  | c :: r =>
    if mark.isPrefixOf (c :: r) then some ([], (c :: r).drop mark.length)
    else (cutAt? mark r).map fun (before, after) => (c :: before, after)

/-- What is asked for in braces: a name, or a name and a value. -/
def queryOf (cs : List Char) : Query :=
  match (cutAt? ['!', '='] cs).or ((cutAt? [':'] cs).or (cutAt? ['='] cs)) with
  | some (name, value) => .valued (String.ofList name) (String.ofList value)
  | none => .named (String.ofList cs)

def propertyQuery : Reading Query := do
  match ← step? with
  | none => fail .escapeEnd (.point (← index))
  | some '{' =>
    let name ← braced
    if (← next?).isNone then fail .escapeEnd (.point (← index))
    else
      advance
      return queryOf (name.map (·.2))
  | some c =>
    if c = '\\' then fail .propertyLetter (.one (← index))
    else
      discard step?
      return .named (String.singleton c)

def isBoundaryChar (c : Char) : Bool := c.isAlpha || c == '-'

def boundaryName : Nat → Reading (List Char)
  | 0 => return []
  | fuel + 1 => do
    match ← next? with
    | some c =>
      if isBoundaryChar c then
        discard step?
        return c :: (← boundaryName fuel)
      else return []
    | none => return []

def boundaryNamed? (name : String) : Option Anchor :=
  if name = "start" then some .wordStart
  else if name = "end" then some .wordEnd
  else if name = "start-half" then some .wordStartHalf
  else if name = "end-half" then some .wordEndHalf
  else none

/-- A name in braces after a word boundary, whose backslash stands at `start`.  What cannot be a
name is left for a repetition. -/
def boundaryInBraces (start : Nat) : Reading Anchor := do
  let brace ← get
  match ← step? with
  | none => fail .wordBoundaryEnd ⟨start, ← index⟩
  | some c =>
    let contents ← index
    if !isBoundaryChar c then
      set brace
      return .wordBoundary
    else
      let name ← boundaryName brace.rest.length
      let stop ← index
      if (← next?) = some '}' then
        advance
        match boundaryNamed? (String.ofList name) with
        | some a => return a
        | none => fail .wordBoundaryUnknown ⟨contents, stop⟩
      else fail .wordBoundaryUnclosed ⟨brace.index, stop⟩

def classLetter? (c : Char) : Option (LetterClass × Bool) :=
  if c = 'd' then some (.digit, false)
  else if c = 'D' then some (.digit, true)
  else if c = 'w' then some (.word, false)
  else if c = 'W' then some (.word, true)
  else if c = 's' then some (.blank, false)
  else if c = 'S' then some (.blank, true)
  else none

def controlLetter? (c : Char) : Option Char :=
  if c = 'a' then some '\x07'
  else if c = 'f' then some '\x0c'
  else if c = 't' then some '\t'
  else if c = 'n' then some '\n'
  else if c = 'r' then some '\r'
  else if c = 'v' then some '\x0b'
  else none

def anchorLetter? (c : Char) : Option Anchor :=
  if c = 'A' then some .textStart
  else if c = 'z' then some .textEnd
  else if c = 'b' then some .wordBoundary
  else if c = 'B' then some .noWordBoundary
  else if c = '<' then some .wordStart
  else if c = '>' then some .wordEnd
  else none

def letterEscape (start : Nat) (c : Char) : Reading Primitive := do
  let span : Span := ⟨start, ← index⟩
  if isEscapable c then return .literal { span, char := c }
  else match controlLetter? c, anchorLetter? c with
    | some char, _ => return .literal { span, char }
    | none, some .wordBoundary =>
      if (← next?) = some '{' then
        let a ← boundaryInBraces start
        return .anchor ⟨start, ← index⟩ a
      else return .anchor span .wordBoundary
    | none, some a => return .anchor span a
    | none, none => fail .escapeUnknown span

def escape : Reading Primitive := do
  let start ← index
  advance
  match ← next? with
  | none => fail .escapeEnd ⟨start, ← index⟩
  | some c =>
    if c.isDigit then fail .backreference ⟨start, (← index) + 1⟩
    else if c = 'x' ∨ c = 'u' ∨ c = 'U' then return .literal (← hexLiteral start c)
    else if c = 'p' ∨ c = 'P' then
      let q ← propertyQuery
      return .property ⟨start, ← index⟩ (c == 'P') q
    else
      advance
      match classLetter? c with
      | some (letter, negated) => return .letter ⟨start, ← index⟩ negated letter
      | none => letterEscape start c

end RequestBinding.Pattern
