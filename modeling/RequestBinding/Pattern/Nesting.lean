import RequestBinding.Pattern.Written

/-!
How deep a pattern is nested.  Groups, brackets, repetitions, alternatives and sequences count, as
do unions and operators inside brackets.
-/
namespace RequestBinding.Pattern

def descend (span : Span) (depth : Nat) : Except Flaw Nat :=
  if depth < nestingLimit then .ok (depth + 1) else .error ⟨.nestedTooDeep, span, none⟩

mutual

def ClassSet.checkNesting (depth : Nat) : ClassSet → Except Flaw Unit
  | .bracketed span _ inner => do inner.checkNesting (← descend span depth)
  | .union span items => do checkItemsNesting (← descend span depth) items
  | .operation span _ left right => do
    let depth ← descend span depth
    left.checkNesting depth
    right.checkNesting depth
  | _ => .ok ()

def checkItemsNesting (depth : Nat) : List ClassSet → Except Flaw Unit
  | [] => .ok ()
  | item :: items => do
    item.checkNesting depth
    checkItemsNesting depth items

end

mutual

def Written.checkNesting (depth : Nat) : Written → Except Flaw Unit
  | .bracketed span _ inner => do inner.checkNesting (← descend span depth)
  | .repeated span inner .. => do inner.checkNesting (← descend span depth)
  | .group span _ inner => do inner.checkNesting (← descend span depth)
  | .either span branches => do checkPartsNesting (← descend span depth) branches
  | .sequence span parts => do checkPartsNesting (← descend span depth) parts
  | _ => .ok ()

def checkPartsNesting (depth : Nat) : List Written → Except Flaw Unit
  | [] => .ok ()
  | part :: parts => do
    part.checkNesting depth
    checkPartsNesting depth parts

end

end RequestBinding.Pattern
