import RequestBinding.Pattern.Regex
import RequestBinding.Pattern.Written
import RequestBinding.Unicode.CaseFolding

/-!
The meaning of a pattern: a regular expression in simple form.  It depends on switches, which hold
from where they are set to the end of the enclosing group.  Where the pattern is restricted to
ASCII, what could match part of a character is refused.
-/
namespace RequestBinding.Pattern
open Text Unicode

structure Modes where
  ignoreCase : Bool
  lines : Bool
  dotAll : Bool
  unicode : Bool
  carriageReturn : Bool

def Modes.initial : Modes := ⟨false, false, false, true, false⟩

def Modes.turn (m : Modes) : Switch × Bool → Modes
  | (.ignoreCase, on) => { m with ignoreCase := on }
  | (.lines, on) => { m with lines := on }
  | (.dotAll, on) => { m with dotAll := on }
  | (.unicode, on) => { m with unicode := on }
  | (.carriageReturn, on) => { m with carriageReturn := on }
  | (.preferFew, _) => m
  | (.spaced, _) => m

def Modes.turnAll (m : Modes) (items : Switches) : Modes := items.foldl turn m

def Modes.alphabet (m : Modes) : Alphabet := if m.unicode then .unicode else .ascii

def Modes.fold (m : Modes) (s : CharSet) : CharSet :=
  if !m.ignoreCase then s else if m.unicode then s.foldCase else s.foldAsciiCase

/-- The complement of a set.  In ASCII it would hold parts of characters. -/
def Modes.negate (m : Modes) (span : Span) (negated : Bool) (s : CharSet) : Except Flaw CharSet :=
  if !negated then .ok s
  else if m.unicode then .ok s.complement
  else .error ⟨.notText, span, none⟩

def asciiDigits : CharSet := .range '0' '9'

def asciiLower : CharSet := .range 'a' 'z'

def asciiUpper : CharSet := .range 'A' 'Z'

def asciiLetters : CharSet := asciiUpper.union asciiLower

def asciiBlanks : CharSet := (CharSet.range '\t' '\r').union (.single ' ')

def asciiWord : CharSet := .unionAll [asciiDigits, asciiLetters, .single '_']

def NamedClass.chars : NamedClass → CharSet
  | .alnum => asciiDigits.union asciiLetters
  | .alpha => asciiLetters
  | .ascii => .range '\x00' '\x7f'
  | .blank => (CharSet.single '\t').union (.single ' ')
  | .cntrl => (CharSet.range '\x00' '\x1f').union (.single '\x7f')
  | .digit => asciiDigits
  | .graph => .range '!' '~'
  | .lower => asciiLower
  | .print => .range ' ' '~'
  | .punct => .unionAll [.range '!' '/', .range ':' '@', .range '[' '\x60', .range '\x7b' '~']
  | .space => asciiBlanks
  | .upper => asciiUpper
  | .word => asciiWord
  | .xdigit => .unionAll [asciiDigits, .range 'A' 'F', .range 'a' 'f']

def LetterClass.chars : Alphabet → LetterClass → CharSet
  | .unicode, .digit => ⟨digitRanges⟩
  | .unicode, .blank => ⟨blankRanges⟩
  | .unicode, .word => ⟨wordRanges⟩
  | .ascii, .digit => asciiDigits
  | .ascii, .blank => asciiBlanks
  | .ascii, .word => asciiWord

def SetOperator.apply : SetOperator → CharSet → CharSet → CharSet
  | .common, a, b => a.common b
  | .without, a, b => a.without b
  | .oneOf, a, b => a.oneOf b

/-- A character may stand here: a byte beyond ASCII is only part of one. -/
def Modes.literal (m : Modes) (l : Literal) : Except Flaw Char :=
  if !m.unicode && l.isByte && 0x80 ≤ l.char.toNat then .error ⟨.notText, l.span, none⟩
  else .ok l.char

def Modes.member (m : Modes) (l : Literal) : Except Flaw Char := do
  let c ← m.literal l
  if !m.unicode && 0x80 ≤ c.toNat then .error ⟨.notAscii, l.span, none⟩ else .ok c

def Modes.letter (m : Modes) (span : Span) (negated : Bool) (c : LetterClass) :
    Except Flaw CharSet :=
  m.negate span negated (c.chars m.alphabet)

def Modes.property (m : Modes) (span : Span) (negated : Bool) (q : Query) : Except Flaw CharSet :=
  if !m.unicode then .error ⟨.notAscii, span, none⟩
  else match q.answer with
    | .ok s => m.negate span negated (m.fold s)
    | .error .unknownProperty => .error ⟨.propertyUnknown, span, none⟩
    | .error .unknownValue => .error ⟨.propertyValueUnknown, span, none⟩

mutual

def ClassSet.chars (m : Modes) : ClassSet → Except Flaw CharSet
  | .nothing _ => .ok .none
  | .literal l => return .single (← m.member l)
  | .range _ low high => return .range (← m.member low) (← m.member high)
  | .named span negated c => m.negate span negated (m.fold c.chars)
  | .letter span negated c => m.letter span negated c
  | .property span negated q => m.property span negated q
  | .bracketed span negated inner => do m.negate span negated (m.fold (← inner.chars m))
  | .union _ items => itemChars m items
  | .operation _ op left right => do
    let left ← left.chars m
    let right ← right.chars m
    return op.apply (m.fold left) (m.fold right)

def itemChars (m : Modes) : List ClassSet → Except Flaw CharSet
  | [] => .ok .none
  | item :: items => do
    let first ← item.chars m
    return first.union (← itemChars m items)

end

def Anchor.assertion (m : Modes) : Anchor → Assertion
  | .lineStart =>
    if !m.lines then .textStart else if m.carriageReturn then .lineStartReturn else .lineStart
  | .lineEnd =>
    if !m.lines then .textEnd else if m.carriageReturn then .lineEndReturn else .lineEnd
  | .textStart => .textStart
  | .textEnd => .textEnd
  | .wordBoundary => .wordBoundary m.alphabet
  | .noWordBoundary => .noWordBoundary m.alphabet
  | .wordStart => .wordStart m.alphabet
  | .wordEnd => .wordEnd m.alphabet
  | .wordStartHalf => .wordStartHalf m.alphabet
  | .wordEndHalf => .wordEndHalf m.alphabet

/-- Any character, line ends only where the switches say so. -/
def Modes.dot (m : Modes) (span : Span) : Except Flaw CharSet :=
  if !m.unicode then .error ⟨.notText, span, none⟩
  else if m.dotAll then .ok .all
  else if m.carriageReturn then .ok (CharSet.ofList ['\n', '\r']).complement
  else .ok (CharSet.single '\n').complement

/-- Finding meanings under switches that change on the way. -/
abbrev Translating := StateT Modes (Except Flaw)

mutual

def Written.translate : Written → Translating Regex
  | .nothing _ => return .empty
  | .switches _ items => do
    modify (·.turnAll items)
    return .empty
  | .literal l => do
    let m ← get
    return .set (m.fold (.single (← m.literal l)))
  | .dot span => return .set (← (← get).dot span)
  | .anchor _ a => return .assert (a.assertion (← get))
  | .letter span negated c => return .set (← (← get).letter span negated c)
  | .property span negated q => return .set (← (← get).property span negated q)
  | .bracketed span negated inner => do
    let m ← get
    return .set (← m.negate span negated (m.fold (← inner.chars m)))
  | .repeated _ inner least most => return (← inner.translate).iterate least most
  | .group _ kind inner => do
    let outside ← get
    match kind with
    | .plain items => set (outside.turnAll items)
    | .capture _ => pure ()
    let r ← inner.translate
    set outside
    match kind with
    | .plain _ => return r
    | .capture index => return .group index r
  | .either _ branches => return .either (← translateAll branches)
  | .sequence _ parts => return .concat (← translateAll parts)

def translateAll : List Written → Translating (List Regex)
  | [] => return []
  | part :: parts => do
    let r ← part.translate
    return r :: (← translateAll parts)

end

def Written.meaning (w : Written) : Except Flaw Regex := (w.translate.run .initial).map (·.1)

end RequestBinding.Pattern
