import RequestBinding.Pattern.Escape

/-!
Reading classes in brackets: characters, ranges, named classes, brackets in brackets, and operators
between what stands to their left and right.
-/
namespace RequestBinding.Pattern
open Unicode Reading

def namedClass? (name : String) : Option NamedClass :=
  if name = "alnum" then some .alnum
  else if name = "alpha" then some .alpha
  else if name = "ascii" then some .ascii
  else if name = "blank" then some .blank
  else if name = "cntrl" then some .cntrl
  else if name = "digit" then some .digit
  else if name = "graph" then some .graph
  else if name = "lower" then some .lower
  else if name = "print" then some .print
  else if name = "punct" then some .punct
  else if name = "space" then some .space
  else if name = "upper" then some .upper
  else if name = "word" then some .word
  else if name = "xdigit" then some .xdigit
  else none

/-- A named class at the start of the text, whether it is negated, and what follows it. -/
def namedIn? (cs : List Char) : Option (NamedClass × Bool × List Char) :=
  match cs with
  | '[' :: ':' :: r =>
    let (negated, r) := match r with
      | '^' :: r => (true, r)
      | r => (false, r)
    match r.dropWhile (· != ':') with
    | ':' :: ']' :: after =>
      (namedClass? (String.ofList (r.takeWhile (· != ':')))).map fun c => (c, negated, after)
    | _ => none
  | _ => none

def named? : Reading (Option ClassSet) := do
  let c ← get
  match namedIn? c.rest with
  | none => return none
  | some (name, negated, after) =>
    set (c.moveTo after)
    return some (.named ⟨c.index, ← index⟩ negated name)

/-- What has been read since the last operator; `start` is where that was. -/
structure Items where
  start : Nat
  /-- The last one first. -/
  items : List ClassSet

def Items.push (is : Items) (item : ClassSet) : Items := ⟨is.start, item :: is.items⟩

def Items.toSet (is : Items) : ClassSet :=
  match is.items with
  | [] => .nothing (.point is.start)
  | [item] => item
  | last :: others =>
    .union ⟨((others.getLast?.getD last).span).start, last.span.stop⟩ is.items.reverse

abbrev Pending := Option (ClassSet × SetOperator)

/-- Apply the operator that waits for its right side. -/
def settle (pending : Pending) (right : ClassSet) : ClassSet :=
  match pending with
  | none => right
  | some (left, op) => .operation ⟨left.span.start, right.span.stop⟩ op left right

structure Opening where
  span : Span
  negated : Bool
  items : Items

def leadingHyphens (start : Nat) : Nat → Items → Reading Items
  | 0, is => return is
  | fuel + 1, is => do
    if (← next?) = some '-' then
      let item := ClassSet.literal { span := .one (← index), char := '-' }
      if (← step?).isNone then fail .classUnclosed (.point start)
      else leadingHyphens start fuel (is.push item)
    else return is

/-- The beginning of a class, whose bracket is next.  Hyphens that stand first, or a closing bracket
that does, are meant literally. -/
def classOpening : Reading Opening := do
  let start ← index
  let unclosed : Reading Opening := do fail .classUnclosed ⟨start, ← index⟩
  let finish (negated : Bool) : Reading Opening := do
    let is ← leadingHyphens start (← get).rest.length ⟨← index, []⟩
    let place ← index
    if is.items.isEmpty ∧ (← next?) = some ']' then
      if (← step?).isNone then unclosed
      else
        let item := ClassSet.literal { span := .one place, char := ']' }
        return ⟨⟨start, ← index⟩, negated, is.push item⟩
    else return ⟨⟨start, place⟩, negated, is⟩
  match ← step? with
  | none => unclosed
  | some '^' => if (← step?).isNone then unclosed else finish true
  | some _ => finish false

def classPrimitive : Reading Primitive := do
  match ← next? with
  | some '\\' => escape
  | some char =>
    let span := Span.one (← index)
    advance
    return .literal { span, char }
  | none => fail .classUnclosed (.point (← index))

def Primitive.toSet : Primitive → Reading ClassSet
  | .literal l => return .literal l
  | .letter span negated c => return .letter span negated c
  | .property span negated q => return .property span negated q
  | .anchor span _ => fail .classEscape span

def Primitive.toEnd : Primitive → Reading Literal
  | .literal l => return l
  | p => fail .classRangeEnd p.span

def classItem (opening : Span) : Reading ClassSet := do
  let first ← classPrimitive
  skipSpace
  match ← next? with
  | none => fail .classUnclosed opening
  | some '-' =>
    let after ← peekStep?
    if after = some ']' ∨ after = some '-' then first.toSet
    else if (← step?).isNone then fail .classUnclosed opening
    else
      let second ← classPrimitive
      let span : Span := ⟨first.span.start, second.span.stop⟩
      let low ← first.toEnd
      let high ← second.toEnd
      if low.char ≤ high.char then return .range span low high else fail .classRange span
  | some _ => first.toSet

def setOperator? (c : Char) : Option SetOperator :=
  if c = '&' then some .common
  else if c = '-' then some .without
  else if c = '~' then some .oneOf
  else none

structure Bracket where
  span : Span
  negated : Bool
  inner : ClassSet

def classRest : Nat → Opening → Pending → Items → Reading Bracket
  | 0, opening, _, _ => fail .classUnclosed opening.span
  | fuel + 1, opening, pending, is => do
    skipSpace
    match ← next? with
    | none => fail .classUnclosed opening.span
    | some c =>
      if c = ']' then
        advance
        return ⟨⟨opening.span.start, ← index⟩, opening.negated, settle pending is.toSet⟩
      else if c = '[' then
        match ← named? with
        | some item => classRest fuel opening pending (is.push item)
        | none =>
          let inner ← classOpening
          let b ← classRest fuel inner none inner.items
          classRest fuel opening pending (is.push (.bracketed b.span b.negated b.inner))
      else match setOperator? c, decide ((← peek?) = some c) with
        | some op, true =>
          advance
          advance
          classRest fuel opening (some (settle pending is.toSet, op)) ⟨← index, []⟩
        | _, _ =>
          let item ← classItem opening.span
          classRest fuel opening pending (is.push item)

def bracket : Reading Bracket := do
  let opening ← classOpening
  classRest ((← get).rest.length + 1) opening none opening.items

end RequestBinding.Pattern
