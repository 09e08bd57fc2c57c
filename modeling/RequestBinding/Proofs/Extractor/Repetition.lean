import RequestBinding.Extractor.Basic
import RequestBinding.Proofs.Http.Addition
import RequestBinding.Proofs.Schema.Findings
import Mathlib.Data.List.Forall2

/-!
Query keys that are given more than once.  Main statement: a list parameter is bound to all values
that are sent under its key, in the order in which they are sent, each checked by itself.
-/
namespace RequestBinding

def Value.isSingle : Value → Bool
  | .null | .list _ => false
  | _ => true

namespace Request

def Addition.sent? (key : String) : Addition → Option Value
  | .queryParam name value => if name = key then some value else none
  | _ => none

/-- The values that are sent under a query key, in order. -/
def sentUnder (key : String) (additions : List Addition) : List Value :=
  additions.filterMap (·.sent? key)

/-- What a query holds under a key of several values: one stands for itself. -/
def held : List Value → Option Value
  | [] => none
  | [v] => some v
  | vs => some (.list vs)

theorem some_joinQuery_held {vs : List Value} (single : ∀ v ∈ vs, v.isSingle = true) (v : Value) :
    some (joinQuery (held vs) v) = held (vs ++ [v]) := by
  match vs with
  | [] => rfl
  | [w] =>
    have alone := single w (List.mem_singleton_self w)
    cases w with
    | list ws => cases alone
    | _ => rfl
  | w :: x :: ws => rfl

theorem get?_query_add (r : Request) (a : Addition) (key : String) :
    (r.add a).query.get? key =
      ((a.sent? key).map (joinQuery (r.query.get? key))).or (r.query.get? key) := by
  cases a with
  | queryParam name value =>
    rw [add, withQueryParam, Dictionary.get?_insert, Addition.sent?]
    by_cases same : name = key
    · rw [if_pos same, if_pos same, same]
      rfl
    · rw [if_neg same, if_neg same]
      rfl
  | header name value =>
    obtain ⟨cookies, same⟩ := r.exists_withHeader name value
    rw [add, same]
    rfl
  | json document =>
    obtain ⟨cookies, same⟩ := r.exists_withHeader "content-type" "application/json"
    rw [add, withJson, same]
    rfl
  | cookieHeader raw =>
    obtain ⟨cookies, same⟩ := r.exists_withCookieHeader raw
    rw [add, same]
    rfl
  | _ => rfl

/-- A query holds the values of a key in the order in which they are sent. -/
theorem get?_query_addAll {r : Request} {additions : List Addition} {key : String}
    {before : List Value} (there : r.query.get? key = held before)
    (single : ∀ v ∈ before ++ sentUnder key additions, v.isSingle = true) :
    (r.addAll additions).query.get? key = held (before ++ sentUnder key additions) := by
  induction additions generalizing r before with
  | nil => simpa [sentUnder, addAll] using there
  | cons a as ih =>
    have next := get?_query_add r a key
    rw [there] at next
    show ((r.add a).addAll as).query.get? key = _
    cases sent : a.sent? key with
    -- another key, or another part of the request
    | none =>
      have same : sentUnder key (a :: as) = sentUnder key as := by simp [sentUnder, sent]
      rw [same] at single ⊢
      rw [sent] at next
      exact ih next single
    | some v =>
      have onto : before ++ sentUnder key (a :: as) = before ++ [v] ++ sentUnder key as := by
        simp [sentUnder, sent]
      rw [onto] at single ⊢
      have earlier : ∀ w ∈ before, w.isSingle = true := fun w hw => single w (by simp [hw])
      rw [sent, Option.map_some, Option.some_or, some_joinQuery_held earlier] at next
      exact ih next single

end Request

namespace Checking

def violations {α : Type} : Except (List Violation) α → List Violation
  | .ok _ => []
  | .error vs => vs

theorem violations_outcome {α : Type} (x : α) (vs : List Violation) :
    violations (outcome x vs) = vs := by
  cases vs <;> rfl

end Checking

open Checking

namespace Schema

def validateItem (items : Schema) (ctx : Context) (p : Value × Nat) :
    Except (List Violation) Value :=
  items.validate (ctx.push (Decimal.natText p.2)) p.1

variable {items : Schema} {ctx : Context} {vs ws : List Value} {p : Value × Nat}
  {es : List Violation}

theorem validate_list (items : Schema) (ctx : Context) (vs : List Value) :
    (list items).validate ctx (.list vs) = outcome (.list (vs.map items.settle))
      (vs.zipIdx.flatMap fun p => violations (items.validateItem ctx p)) := by
  rw [validate_eq, settle, findings, List.map_flatMap]
  congr 2
  funext p
  rw [validateItem, validate_eq, violations_outcome, ctx.map_tell_under]

theorem map_settle_of_passed {i : Nat}
    (passed : List.Forall₂ (fun p w => items.validateItem ctx p = .ok w) (vs.zipIdx i) ws) :
    (∀ p ∈ vs.zipIdx i, violations (items.validateItem ctx p) = []) ∧ vs.map items.settle = ws := by
  induction vs generalizing i ws with
  | nil =>
    cases passed
    exact ⟨List.forall_mem_nil _, rfl⟩
  | cons v vs ih =>
    obtain _ | ⟨first, rest⟩ := passed
    obtain ⟨nothing, settled⟩ := ih rest
    have same := first
    rw [validateItem, validate_eq, outcome_eq_ok_iff] at same
    rw [List.map_cons, settled, same.2]
    exact ⟨List.forall_mem_cons.2 ⟨congrArg violations first, nothing⟩, rfl⟩

theorem violations_ne_nil (refused : items.validateItem ctx p = .error es) :
    violations (items.validateItem ctx p) ≠ [] := by
  rw [validateItem, validate_eq, outcome_eq_error_iff] at refused
  rw [validateItem, validate_eq, violations_outcome]
  exact refused.2

theorem wrapped_held (some : vs ≠ []) (single : ∀ v ∈ vs, v.isSingle = true) (items : Schema) :
    (Request.held vs).map (list items).wrapped = Option.some (.list vs) := by
  match vs with
  | [] => exact absurd rfl some
  | [v] =>
    have alone := single v (List.mem_singleton_self v)
    cases v with
    | null | list vs => cases alone
    | _ => rfl
  | v :: w :: vs => rfl

end Schema

namespace Extractor
variable {n : Nat} {config : Config n} {key : String} {items : Schema} {default? : Option Value}
  {embed : Bool} {e : Extractor} {additions : List Request.Addition}

theorem apply_query_list
    (made : ofSource? config .query ⟨key, .list items, default?⟩ embed = some e)
    {r : Request} {vs : List Value} (sent : r.query.get? key = Request.held vs) (some : vs ≠ [])
    (single : ∀ v ∈ vs, v.isSingle = true) (s : Session n) :
    e.apply r s = ((Schema.list items).bind .query key (.list vs), s) := by
  cases made
  have found := Schema.wrapped_held some single items
  rw [← sent] at found
  show (bindWhere .query id _ ⟨key, .list items, default?⟩, s) = _
  unfold bindWhere
  dsimp only [Schema.members?, Schema.bare]
  rw [found]

/-- A list parameter of the query is bound to the values that are sent under its key, one after
another and among whatever else makes up the request, in the order in which they are sent.  Where
any items are allowed they are bound as they are; else each is checked by itself, and if some are
refused then for all that is wrong with them, each at its index. -/
theorem repeated_binds (made : ofSource? config .query ⟨key, .list items, default?⟩ embed = some e)
    (some : Request.sentUnder key additions ≠ [])
    (single : ∀ v ∈ Request.sentUnder key additions, v.isSingle = true)
    (id : Nat) (method : Method) (path : String) (s : Session n) :
    let r := ({ id, method, path } : Request).addAll additions
    let vs := Request.sentUnder key additions
    let checked := items.validateItem (.atKey "query" key)
    (items = .any → e.apply r s = (.ok (.value (.list vs)), s)) ∧
    (∀ ws, List.Forall₂ (fun p w => checked p = .ok w) vs.zipIdx ws →
      e.apply r s = (.ok (.value (.list ws)), s)) ∧
    ((∃ p ∈ vs.zipIdx, ∃ es, checked p = .error es) →
      e.apply r s = (.error (vs.zipIdx.flatMap fun p => violations (checked p)), s)) := by
  intro r vs checked
  have sent : r.query.get? key = Request.held vs :=
    @Request.get?_query_addAll { id, method, path } additions key [] rfl single
  have bound : e.apply r s = ((outcome (.list (vs.map items.settle))
      (vs.zipIdx.flatMap fun p => violations (checked p))).map .value, s) := by
    rw [apply_query_list made sent some single, Schema.bind, Schema.validate_list]
    rfl
  refine ⟨?_, fun ws passed => ?_, ?_⟩
  · rintro rfl
    have nothing : (vs.zipIdx.flatMap fun p => violations (checked p)) = [] :=
      List.flatMap_eq_nil_iff.2 fun p _ => rfl
    have same : vs.map Schema.any.settle = vs := List.map_id vs
    rw [bound, nothing, same]
    rfl
  · obtain ⟨nothing, settled⟩ := Schema.map_settle_of_passed passed
    rw [bound, List.flatMap_eq_nil_iff.2 nothing, settled]
    rfl
  · rintro ⟨p, hp, es, refused⟩
    have wrong : (vs.zipIdx.flatMap fun p => violations (checked p)) ≠ [] := fun nothing =>
      Schema.violations_ne_nil refused (List.flatMap_eq_nil_iff.1 nothing p hp)
    rw [bound, outcome_eq_error_iff.2 ⟨rfl, wrong⟩]
    rfl

theorem repeated_binds_tags :
    let additions : List Request.Addition := [.queryParam "tag" (.int 3),
      .queryParam "page" (.int 1), .queryParam "tag" (.string "new"), .header "accept" "text/html",
      .queryParam "page" (.int 2), .queryParam "tag" (.bool true)]
    let r := ({ method := .get, path := "/" } : Request).addAll additions
    let anyTags : Target := ⟨"tag", .list .any, none⟩
    let tags : Target := ⟨"tag", .list (.integer {}), none⟩
    let pages : Target := ⟨"page", .list (.integer {}), none⟩
    ofSource? ({} : Config 0) .query anyTags false = some (.query anyTags) ∧
    ofSource? ({} : Config 0) .query tags false = some (.query tags) ∧
    ofSource? ({} : Config 0) .query pages false = some (.query pages) ∧
    Request.sentUnder "tag" additions = [.int 3, .string "new", .bool true] ∧
    Request.sentUnder "page" additions = [.int 1, .int 2] ∧
    ((query anyTags).apply r ({} : Session 0)).1 =
      .ok (.value (.list [.int 3, .string "new", .bool true])) ∧
    ((query pages).apply r ({} : Session 0)).1 = .ok (.value (.list [.int 1, .int 2])) ∧
    ((query tags).apply r ({} : Session 0)).1 = .error
      [⟨"query", "tag.1", .wrongType "integer" "string", none⟩,
        ⟨"query", "tag.2", .wrongType "integer" "boolean", none⟩] := by
  intro additions r anyTags tags pages
  have made (t : Target) : ofSource? ({} : Config 0) .query t false = some (query t) := rfl
  have ofTag : Request.sentUnder "tag" additions = [.int 3, .string "new", .bool true] := rfl
  have ofPage : Request.sentUnder "page" additions = [.int 1, .int 2] := rfl
  have someTag : Request.sentUnder "tag" additions ≠ [] := List.cons_ne_nil _ _
  have somePage : Request.sentUnder "page" additions ≠ [] := List.cons_ne_nil _ _
  have singleTags : ∀ v ∈ Request.sentUnder "tag" additions, v.isSingle = true := by
    simp [ofTag, Value.isSingle]
  have singlePages : ∀ v ∈ Request.sentUnder "page" additions, v.isSingle = true := by
    simp [ofPage, Value.isSingle]
  have anyBound := (repeated_binds (made anyTags) someTag singleTags 0 .get "/" {}).1 rfl
  have pagesBound := (repeated_binds (made pages) somePage singlePages 0 .get "/" {}).2.1
    [.int 1, .int 2] (.cons rfl (.cons rfl .nil))
  have refused := (repeated_binds (made tags) someTag singleTags 0 .get "/" {}).2.2
    ⟨(.string "new", 1), by simp [ofTag], _, rfl⟩
  exact ⟨made _, made _, made _, ofTag, ofPage, congrArg Prod.fst anyBound,
    congrArg Prod.fst pagesBound, congrArg Prod.fst refused⟩

end Extractor
end RequestBinding
