import RequestBinding.Binding
import RequestBinding.Placement

/-!
Compiling a handler and all handlers it depends on for one route.  A handler that turns up among
those under way closes a cycle, which is refused; one that is finished is taken as it is.  The list
of handlers under way grows with each level and never repeats a handler, which ends the recursion.
-/
namespace RequestBinding
variable {n : Nat}

/-- Compiling for one route: the handlers finished so far, and an error that ends it. -/
abbrev Compiling (n : Nat) :=
  ExceptT (DeclarationError n) (StateM (Dictionary (Fin n) (Compiled n)))

def unvisited (underWay : List (Fin n)) : Nat :=
  (List.finRange n).countP fun i => !underWay.contains i

theorem countP_not_contains_append {underWay : List (Fin n)} {id : Fin n} (h : id ∉ underWay)
    (ids : List (Fin n)) :
    (ids.countP fun i => !(underWay ++ [id]).contains i) + ids.countP (· = id)
      = ids.countP fun i => !underWay.contains i := by
  induction ids with
  | nil => rfl
  | cons i ids ih =>
    rw [List.countP_cons, List.countP_cons, List.countP_cons]
    by_cases hi : i = id
    · have left : (!(underWay ++ [id]).contains i) = false := by simp [hi]
      have right : (!underWay.contains i) = true := by simp [hi, h]
      have same : decide (i = id) = true := by simp [hi]
      rw [left, right, same, if_neg Bool.false_ne_true, if_pos rfl]
      omega
    · have left : (!(underWay ++ [id]).contains i) = !underWay.contains i := by simp [hi]
      have same : decide (i = id) = false := by simp [hi]
      rw [left, same, if_neg Bool.false_ne_true]
      omega

theorem unvisited_append_lt {underWay : List (Fin n)} {id : Fin n} (h : id ∉ underWay) :
    unvisited (underWay ++ [id]) < unvisited underWay := by
  have split := countP_not_contains_append h (List.finRange n)
  have here : 0 < (List.finRange n).countP (· = id) :=
    List.countP_pos_iff.2 ⟨id, List.mem_finRange id, by simp⟩
  unfold unvisited
  omega

def cycleNames (catalogue : Catalogue n) (underWay : List (Fin n)) (id : Fin n) : List String :=
  (underWay.dropWhile (· ≠ id)).map (fun i => (catalogue i).name) ++ [(catalogue id).name]

mutual

def compileHandler (catalogue : Catalogue n) (config : Config n) (route : RoutePattern)
    (method : Method) (underWay : List (Fin n)) (id : Fin n) (_fresh : id ∉ underWay) :
    Compiling n (Compiled n) := do
  let handler := catalogue id
  let placements ← Placement.ofParams config route method handler.name [] handler.params
  let fields ← compileFields catalogue config route method (underWay ++ [id]) handler.name
    (Placement.embedsBody placements) placements
  return .mk {
    handler := id, name := handler.name, isAsync := handler.isAsync, method, route,
    concurrent := config.concurrent, fields }
termination_by (unvisited underWay, 0)
decreasing_by exact Prod.Lex.left _ _ (unvisited_append_lt _fresh)

def compileFields (catalogue : Catalogue n) (config : Config n) (route : RoutePattern)
    (method : Method) (underWay : List (Fin n)) (name : String) (embed : Bool)
    (placements : List (Placement n)) : Compiling n (List (Field (Need (Compiled n)))) :=
  match placements with
  | [] => return []
  | p :: ps => do
    let need? ← match p.depends? with
      | none => pure none
      | some d =>
        let id := config.resolve d.handler
        if fresh : id ∈ underWay then throw (.circularDependency (cycleNames catalogue underWay id))
        else do
          match (← get).get? id with
          | some target => pure (some ⟨d.useCache, target⟩)
          | none =>
            let target ← compileHandler catalogue config route method underWay id fresh
            modify (·.insert id target)
            pure (some ⟨d.useCache, target⟩)
    let field ← p.field config name embed need?
    return field :: (← compileFields catalogue config route method underWay name embed ps)
termination_by (unvisited underWay, placements.length + 1)
decreasing_by
  · exact Prod.Lex.right _ (by simp)
  · exact Prod.Lex.right _ (by simp)

end

/-- A compiler of handlers; it remembers what it compiled for the last route. -/
structure Compiler (n : Nat) where
  config : Config n
  finished : Dictionary (Fin n) (Compiled n) := ∅

namespace Compiler

def compile (compiler : Compiler n) (catalogue : Catalogue n) (id : Fin n) (method : Method)
    (pattern : String) : Except (DeclarationError n) (Compiled n) × Compiler n :=
  match RoutePattern.parse pattern with
  | .error problem => (.error (.invalidRoute pattern problem), compiler)
  | .ok route =>
    let (result, finished) :=
      (compileHandler catalogue compiler.config route method [] id (by simp)).run ∅
    (result, { compiler with finished })

end Compiler

end RequestBinding
