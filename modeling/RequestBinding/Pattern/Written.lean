import RequestBinding.Pattern.Fault
import RequestBinding.Unicode.Query

/-!
Patterns as they are written.  Each part keeps the place where it stands, since a fault may be found
in it only when its meaning is asked for.
-/
namespace RequestBinding.Pattern
open Unicode

structure Literal where
  span : Span
  char : Char
  /-- Written as one byte of two hexadecimal digits. -/
  isByte : Bool := false
  deriving DecidableEq, Repr

inductive LetterClass where
  | digit
  | blank
  | word
  deriving DecidableEq, Repr

inductive NamedClass where
  | alnum
  | alpha
  | ascii
  | blank
  | cntrl
  | digit
  | graph
  | lower
  | print
  | punct
  | space
  | upper
  | word
  | xdigit
  deriving DecidableEq, Repr

inductive Anchor where
  | lineStart
  | lineEnd
  | textStart
  | textEnd
  | wordBoundary
  | noWordBoundary
  | wordStart
  | wordEnd
  | wordStartHalf
  | wordEndHalf
  deriving DecidableEq, Repr

inductive SetOperator where
  | common
  | without
  | oneOf
  deriving DecidableEq, Repr

inductive ClassSet where
  | nothing (span : Span)
  | literal (l : Literal)
  | range (span : Span) (low high : Literal)
  | named (span : Span) (negated : Bool) (c : NamedClass)
  | letter (span : Span) (negated : Bool) (c : LetterClass)
  | property (span : Span) (negated : Bool) (q : Query)
  | bracketed (span : Span) (negated : Bool) (inner : ClassSet)
  | union (span : Span) (items : List ClassSet)
  | operation (span : Span) (op : SetOperator) (left right : ClassSet)

inductive Switch where
  | ignoreCase
  /-- The anchors `^` and `$` also match at line ends. -/
  | lines
  /-- The dot also matches a line end. -/
  | dotAll
  /-- Repetitions prefer few. -/
  | preferFew
  | unicode
  /-- A carriage return is part of a line end. -/
  | carriageReturn
  /-- Blanks and comments are skipped. -/
  | spaced
  deriving DecidableEq, Repr

abbrev Switches := List (Switch × Bool)

def Switches.setting? (items : Switches) (s : Switch) : Option Bool := items.reverse.lookup s

inductive GroupKind where
  /-- A part of the pattern with switches of its own. -/
  | plain (items : Switches)
  /-- A part whose match is remembered under a number. -/
  | capture (index : Nat)

inductive Written where
  | nothing (span : Span)
  /-- Switches for the rest of the enclosing group. -/
  | switches (span : Span) (items : Switches)
  | literal (l : Literal)
  | dot (span : Span)
  | anchor (span : Span) (a : Anchor)
  | letter (span : Span) (negated : Bool) (c : LetterClass)
  | property (span : Span) (negated : Bool) (q : Query)
  | bracketed (span : Span) (negated : Bool) (inner : ClassSet)
  /-- From `least` to `most` times, without limit when `most` is absent. -/
  | repeated (span : Span) (inner : Written) (least : Nat) (most : Option Nat)
  | group (span : Span) (kind : GroupKind) (inner : Written)
  | either (span : Span) (branches : List Written)
  | sequence (span : Span) (parts : List Written)

def ClassSet.span : ClassSet → Span
  | .nothing span | .range span .. | .named span .. | .letter span .. | .property span ..
  | .bracketed span .. | .union span _ | .operation span .. => span
  | .literal l => l.span

def Written.span : Written → Span
  | .nothing span | .switches span _ | .dot span | .anchor span _ | .letter span ..
  | .property span .. | .bracketed span .. | .repeated span .. | .group span .. | .either span _
  | .sequence span _ => span
  | .literal l => l.span

def Written.isBare : Written → Bool
  | .nothing _ => true
  | .switches .. => true
  | _ => false

end RequestBinding.Pattern
