import RequestBinding.Text.Blank

/-!
Route patterns such as `/users/{user}/posts/{post:int}`.  Only the names of the parameters matter
here; matching a path against a pattern is done before a request arrives.
-/
namespace RequestBinding

/-- A route pattern with the names of its parameters in order. -/
structure RoutePattern where
  text : String
  names : List String
  deriving DecidableEq, Repr

namespace RoutePattern

inductive Problem where
  | unbalanced
  | unclosed
  | nested
  | emptyName
  | repeated (name : String)
  deriving DecidableEq, Repr

def Problem.message : Problem → String
  | .unbalanced => "unbalanced '\x7d'"
  | .unclosed => "unclosed '\x7b'"
  | .nested => "nested '\x7b'"
  | .emptyName => "empty parameter name"
  | .repeated name => s!"parameter '{name}' appears twice"

/-- The name of a group: the part before the first colon, without blanks around it. -/
def groupName (inner : List Char) : String :=
  String.ofList (Text.trimWhere Text.isBlank (inner.takeWhile (· != ':')))

/-- Add the names of the groups in the rest of a pattern. -/
def groups (names : List String) (rest : List Char) : Except Problem (List String) :=
  match _h : rest.dropWhile (· != '{') with
  | [] => if '}' ∈ rest then .error .unbalanced else .ok names
  | _ :: after =>
    if '}' ∈ rest.takeWhile (· != '{') then .error .unbalanced
    else match _h' : after.dropWhile (· != '}') with
      | [] => .error .unclosed
      | _ :: tail =>
        let inner := after.takeWhile (· != '}')
        if '{' ∈ inner then .error .nested
        else
          let name := groupName inner
          if name = "" then .error .emptyName
          else if name ∈ names then .error (.repeated name)
          else groups (names ++ [name]) tail
termination_by rest.length
decreasing_by
  have outer := (List.dropWhile_sublist (· != '{') (l := rest)).length_le
  have inner := (List.dropWhile_sublist (· != '}') (l := after)).length_le
  rw [_h] at outer
  rw [_h'] at inner
  simp only [List.length_cons] at outer inner
  omega

def parse (text : String) : Except Problem RoutePattern :=
  (groups [] text.toList).map fun names => ⟨text, names⟩

def has (r : RoutePattern) (name : String) : Bool := r.names.contains name

def isStatic (r : RoutePattern) : Bool := r.names.isEmpty

end RoutePattern

end RequestBinding
