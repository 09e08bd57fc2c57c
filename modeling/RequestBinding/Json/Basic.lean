/-!
JSON documents.  The members of an object are kept in the order of their keys, each key once.
-/
namespace RequestBinding

/-- A JSON number: a whole number of 64 bits, signed or not, or a finite double. -/
inductive Json.Number where
  | whole (i : Int)
  | double (x : Float)

inductive Json where
  | null
  | bool (b : Bool)
  | number (n : Json.Number)
  | string (s : String)
  | array (items : List Json)
  | object (members : List (String × Json))

namespace Json

instance : Inhabited Json := ⟨.null⟩

/-- Set a member in a list sorted by key; an earlier value of the key is replaced. -/
def insertMember {α : Type} (key : String) (value : α) : List (String × α) → List (String × α)
  | [] => [(key, value)]
  | (k, v) :: r =>
    if key < k then (key, value) :: (k, v) :: r
    else if key = k then (key, value) :: r
    else (k, v) :: insertMember key value r

/-- Sort members by key; of several values of one key the last stays. -/
def sortMembers {α : Type} (members : List (String × α)) : List (String × α) :=
  members.foldl (fun sorted m => insertMember m.1 m.2 sorted) []

def ofMembers (members : List (String × Json)) : Json := .object (sortMembers members)

end Json

end RequestBinding
