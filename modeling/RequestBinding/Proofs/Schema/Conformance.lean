import RequestBinding.Proofs.Schema.Findings
import RequestBinding.Proofs.Value.Lookup
import Mathlib.Tactic.MkIffOfInductiveProp

/-!
Which values a schema accepts, and what it makes of them.  Main statement: a check adds no violation
exactly if the value matches the schema, and then it answers with the value in the declared form.
-/
namespace RequestBinding
open Value (LastUnder NoneUnder)

@[mk_iff]
structure TextLimits.Allows (limits : TextLimits) (s : String) : Prop where
  least : ∀ n, limits.minLength = some n → n ≤ s.length
  most : ∀ n, limits.maxLength = some n → s.length ≤ n
  pattern : ∀ p, limits.pattern = some p → ∃ finds, p.compiled = .ok finds ∧ finds s = true
  format : ∀ f, limits.format = some f → f.accepts s = true

@[mk_iff]
structure Bounds.Allows {α : Type} [LT α] (bounds : Bounds α) (x : α) : Prop where
  least : ∀ m, bounds.minimum = some m → ¬x < m
  most : ∀ m, bounds.maximum = some m → ¬m < x

namespace Schema

inductive Matches : Schema → Value → Prop
  | any (v : Value) : Matches .any v
  | text {limits : TextLimits} {s : String} (allowed : limits.Allows s) :
    Matches (.text limits) (.string s)
  | integer {bounds : Bounds Int64} {i : Int64} (allowed : bounds.Allows i) :
    Matches (.integer bounds) (.int i)
  | number {bounds : Bounds Float} {x : Float} (allowed : bounds.Allows x) :
    Matches (.number bounds) (.float x)
  | whole {bounds : Bounds Float} {i : Int64} (allowed : bounds.Allows (widen i)) :
    Matches (.number bounds) (.int i)
  | boolean (b : Bool) : Matches .boolean (.bool b)
  | bytes (bs : Bytes) : Matches .bytes (.bytes bs)
  | encoded (s : String) : Matches .bytes (.string s)
  | list {items : Schema} {vs : List Value} (each : ∀ v ∈ vs, Matches items v) :
    Matches (.list items) (.list vs)
  | null (inner : Schema) : Matches (.optional inner) .null
  | inner {s : Schema} {v : Value} (there : Matches s v) : Matches (.optional s) v
  | record {name : String} {ms : List (Member Schema)} {pairs : List (String × Value)}
    (present : ∀ m ∈ ms, ∀ v, LastUnder pairs m.key v → Matches m.schema v)
    (absent : ∀ m ∈ ms, NoneUnder pairs m.key →
      m.default?.isSome = true ∨ m.schema.isOptional = true) :
    Matches (.record name ms) (.object pairs)

/-- The second value is the first in the form that the schema declares: numbers are doubles, bytes
are bytes, and a record has just its members, under their names and in their order. -/
inductive Conforms : Schema → Value → Value → Prop
  | any (v : Value) : Conforms .any v v
  | text {limits : TextLimits} {s : String} (allowed : limits.Allows s) :
    Conforms (.text limits) (.string s) (.string s)
  | integer {bounds : Bounds Int64} {i : Int64} (allowed : bounds.Allows i) :
    Conforms (.integer bounds) (.int i) (.int i)
  | number {bounds : Bounds Float} {x : Float} (allowed : bounds.Allows x) :
    Conforms (.number bounds) (.float x) (.float x)
  | whole {bounds : Bounds Float} {i : Int64} (allowed : bounds.Allows (widen i)) :
    Conforms (.number bounds) (.int i) (.float (widen i))
  | boolean (b : Bool) : Conforms .boolean (.bool b) (.bool b)
  | bytes (bs : Bytes) : Conforms .bytes (.bytes bs) (.bytes bs)
  | encoded (s : String) : Conforms .bytes (.string s) (.bytes (Text.Utf8.encode s))
  | list {items : Schema} {vs ws : List Value} (length : ws.length = vs.length)
    (each : ∀ p ∈ vs.zip ws, Conforms items p.1 p.2) : Conforms (.list items) (.list vs) (.list ws)
  | null (inner : Schema) : Conforms (.optional inner) .null .null
  | inner {s : Schema} {v w : Value} (there : Conforms s v w) : Conforms (.optional s) v w
  | record {name : String} {ms : List (Member Schema)} {pairs out : List (String × Value)}
    (names : out.map Prod.fst = ms.map Member.name)
    (present : ∀ p ∈ ms.zip out, ∀ v, LastUnder pairs p.1.key v → Conforms p.1.schema v p.2.2)
    (absent : ∀ p ∈ ms.zip out, NoneUnder pairs p.1.key → p.1.default? = some p.2.2 ∨
      p.1.default? = none ∧ p.1.schema.isOptional = true ∧ p.2.2 = .null) :
    Conforms (.record name ms) (.object pairs) (.object out)

end Schema

theorem TextLimits.causes_eq_nil_iff {limits : TextLimits} {s : String} :
    limits.causes s = [] ↔ limits.Allows s := by
  rw [allows_iff]
  simp only [causes, List.append_eq_nil_iff]
  refine and_congr ?_ (and_congr ?_ (and_congr ?_ ?_))
  · cases limits.minLength <;> simp
  · cases limits.maxLength <;> simp
  · cases limits.pattern with
    | none => simp
    | some p => cases h : p.compiled <;> simp [h]
  · cases limits.format <;> simp

theorem Bounds.causes_eq_nil_iff {α : Type} [LT α] [DecidableLT α] {quantity : α → Quantity}
    {bounds : Bounds α} {x : α} :
    bounds.causes (fun a b => decide (a < b)) quantity x = [] ↔ bounds.Allows x := by
  rw [allows_iff, causes, List.append_eq_nil_iff]
  refine and_congr ?_ ?_
  · cases bounds.minimum <;> simp
  · cases bounds.maximum <;> simp

namespace Schema

/-- Nothing is wrong with the members of a record exactly if each that is there matches and each
that is not there may be absent. -/
theorem memberFindings_eq_nil_iff {ms : List (Member Schema)} {pairs : List (String × Value)}
    (each : ∀ m ∈ ms, ∀ v, m.schema.findings v = [] ↔ m.schema.Matches v) :
    memberFindings ms pairs = [] ↔ ∀ m ∈ ms,
      (∀ v, LastUnder pairs m.key v → m.schema.Matches v) ∧
      (NoneUnder pairs m.key → m.default?.isSome = true ∨ m.schema.isOptional = true) := by
  rw [memberFindings_eq_flatMap, List.flatMap_eq_nil_iff]
  refine forall₂_congr fun m hm => ?_
  simp only [← Value.lastMember?_eq_some_iff, ← Value.lastMember?_eq_none_iff, Member.findings]
  cases Value.lastMember? pairs m.key with
  | some v => simp [each m hm]
  | none => cases default? : m.default? <;> cases optional : m.schema.isOptional <;>
    simp [absentValue?, optional]

theorem mistyped_eq_nil_iff {expected : String} {v : Value} {p : Prop} (not : ¬p) :
    mistyped expected v = [] ↔ p := by
  simp [mistyped, not]

/-- Nothing is wrong with a value exactly if it matches. -/
theorem findings_eq_nil_iff (s : Schema) (v : Value) : s.findings v = [] ↔ s.Matches v := by
  induction s using Schema.induction generalizing v with
  | any => exact ⟨fun _ => .any v, fun _ => rfl⟩
  | text limits =>
    cases v with
    | string s =>
      rw [findings, List.map_eq_nil_iff, TextLimits.causes_eq_nil_iff]
      refine ⟨.text, fun matched => ?_⟩
      cases matched with
      | text allowed => exact allowed
    | _ => exact mistyped_eq_nil_iff (by rintro ⟨⟩)
  | integer bounds =>
    cases v with
    | int i =>
      rw [findings, List.map_eq_nil_iff, Bounds.causes_eq_nil_iff]
      refine ⟨.integer, fun matched => ?_⟩
      cases matched with
      | integer allowed => exact allowed
    | _ => exact mistyped_eq_nil_iff (by rintro ⟨⟩)
  | number bounds =>
    cases v with
    | float x =>
      rw [findings, List.map_eq_nil_iff, Bounds.causes_eq_nil_iff]
      refine ⟨.number, fun matched => ?_⟩
      cases matched with
      | number allowed => exact allowed
    | int i =>
      rw [findings, List.map_eq_nil_iff, Bounds.causes_eq_nil_iff]
      refine ⟨.whole, fun matched => ?_⟩
      cases matched with
      | whole allowed => exact allowed
    | _ => exact mistyped_eq_nil_iff (by rintro ⟨⟩)
  | boolean =>
    cases v with
    | bool b => exact ⟨fun _ => .boolean b, fun _ => rfl⟩
    | _ => exact mistyped_eq_nil_iff (by rintro ⟨⟩)
  | bytes =>
    cases v with
    | bytes bs => exact ⟨fun _ => .bytes bs, fun _ => rfl⟩
    | string s => exact ⟨fun _ => .encoded s, fun _ => rfl⟩
    | _ => exact mistyped_eq_nil_iff (by rintro ⟨⟩)
  | list items ih =>
    cases v with
    | list vs =>
      have found : (Schema.list items).findings (.list vs) = [] ↔ ∀ v ∈ vs, items.Matches v := by
        have values : vs.zipIdx.map Prod.fst = vs := List.zipIdx_map_fst 0 vs
        rw [findings, List.flatMap_eq_nil_iff, ← values, List.forall_mem_map, values]
        simp only [List.map_eq_nil_iff, ih]
      refine found.trans ⟨.list, fun matched => ?_⟩
      cases matched with
      | list each => exact each
    | _ => exact mistyped_eq_nil_iff (by rintro ⟨⟩)
  | optional inner ih =>
    cases v with
    | null => exact ⟨fun _ => .null inner, fun _ => rfl⟩
    | _ =>
      refine (ih _).trans ⟨.inner, fun matched => ?_⟩
      cases matched with
      | inner there => exact there
  | record name ms ih =>
    cases v with
    | object pairs =>
      rw [findings, memberFindings_eq_nil_iff ih]
      refine ⟨fun h => .record (fun m hm => (h m hm).1) fun m hm => (h m hm).2, fun matched => ?_⟩
      cases matched with
      | record present absent => exact fun m hm => ⟨present m hm, absent m hm⟩
    | _ => exact mistyped_eq_nil_iff (by rintro ⟨⟩)
  | upload => exact mistyped_eq_nil_iff (by rintro ⟨⟩)
  | request => exact mistyped_eq_nil_iff (by rintro ⟨⟩)

theorem forall_mem_zip_map {α β : Type} {l : List α} {f : α → β} {p : α × β → Prop}
    (each : ∀ x ∈ l, p (x, f x)) : ∀ q ∈ l.zip (l.map f), p q := by
  induction l with
  | nil => simp
  | cons x l ih =>
    obtain ⟨here, rest⟩ := List.forall_mem_cons.1 each
    exact List.forall_mem_cons.2 ⟨here, ih rest⟩

/-- What a record has in place of a member: the last value under the key in its declared form, and
without one the declared value. -/
def settled (pairs : List (String × Value)) (m : Member Schema) : Value :=
  match Value.lastMember? pairs m.key with
  | some v => m.schema.settle v
  | none => (absentValue? m.schema m.default?).getD .null

theorem settled_present {pairs : List (String × Value)} {m : Member Schema} {v : Value}
    (last : LastUnder pairs m.key v) : settled pairs m = m.schema.settle v := by
  rw [settled, Value.lastMember?_eq_some_iff.2 last]

theorem settled_absent {pairs : List (String × Value)} {m : Member Schema}
    (nothing : NoneUnder pairs m.key) :
    settled pairs m = (absentValue? m.schema m.default?).getD .null := by
  rw [settled, Value.lastMember?_eq_none_iff.2 nothing]

theorem absentValue?_eq_some {schema : Schema} {default? : Option Value}
    (allowed : default?.isSome = true ∨ schema.isOptional = true) : ∃ w,
    absentValue? schema default? = some w ∧
      (default? = some w ∨ default? = none ∧ schema.isOptional = true ∧ w = .null) := by
  cases default? with
  | some w => exact ⟨w, rfl, .inl rfl⟩
  | none =>
    have optional : schema.isOptional = true := by simpa using allowed
    exact ⟨.null, by simp [absentValue?, optional], .inr ⟨rfl, optional, rfl⟩⟩

theorem settleMembers_eq_map {ms : List (Member Schema)} {pairs : List (String × Value)}
    (absent : ∀ m ∈ ms, NoneUnder pairs m.key →
      m.default?.isSome = true ∨ m.schema.isOptional = true) :
    settleMembers ms pairs = ms.map fun m => (m.name, settled pairs m) := by
  induction ms with
  | nil => rfl
  | cons m ms ih =>
    obtain ⟨here, rest⟩ := List.forall_mem_cons.1 absent
    rw [List.map_cons, ← ih rest]
    obtain ⟨name, alias?, schema, default?⟩ := m
    rw [settleMembers, settled]
    dsimp only [Member.key] at here ⊢
    cases looked : Value.lastMember? pairs (alias?.getD name) with
    | some v => rfl
    | none =>
      obtain ⟨w, declared, _⟩ := absentValue?_eq_some (here (Value.lastMember?_eq_none_iff.1 looked))
      simp [declared]

theorem Matches.conforms_settle {s : Schema} {v : Value} (matched : s.Matches v) :
    s.Conforms v (s.settle v) := by
  induction matched with
  | any v => exact .any v
  | text allowed => exact .text allowed
  | integer allowed => exact .integer allowed
  | number allowed => exact .number allowed
  | whole allowed => exact .whole allowed
  | boolean b => exact .boolean b
  | bytes bs => exact .bytes bs
  | encoded s => exact .encoded s
  | list each ih => exact .list (List.length_map _) (forall_mem_zip_map ih)
  | null inner => exact .null inner
  | @inner s v there ih =>
    rw [settle]
    cases v with
    | null => exact .null s
    | _ => exact .inner ih
  | @record name ms pairs present absent ih =>
    rw [settle, settleMembers_eq_map absent]
    refine .record (by simp) ?_ ?_
    · refine forall_mem_zip_map fun m hm v last => ?_
      simpa only [settled_present last] using ih m hm v last
    · refine forall_mem_zip_map fun m hm nothing => ?_
      obtain ⟨w, declared, which⟩ := absentValue?_eq_some (absent m hm nothing)
      simpa [settled_absent nothing, declared] using which

/-- A check adds no violation exactly if the value matches the schema, and then it answers with the
value in the declared form. -/
theorem check_accepts_iff (s : Schema) (ctx : Context) (v : Value) (es : List Violation) :
    (((s.check ctx v).run es).2 = es ↔ s.Matches v) ∧
      (s.Matches v → s.Conforms v ((s.check ctx v).run es).1) := by
  rw [s.adds_check ctx v es]
  constructor
  · simp [findings_eq_nil_iff]
  · exact Matches.conforms_settle

theorem check_accepts_point :
    let point := Schema.record "Point"
      [⟨"x", none, .number ⟨some 0, none⟩, none⟩, ⟨"label", some "l", .optional (.text {}), none⟩]
    let value := Value.object [("x", .string "a"), ("y", .null), ("x", .int 2)]
    point.Matches value ∧ point.Conforms value (.object [("x", .float 2), ("label", .null)]) := by
  intro point value
  have clean : ((point.check ⟨"body", []⟩ value).run []).2 = [] := by decide
  have accepted := (check_accepts_iff point ⟨"body", []⟩ value []).1.1 clean
  exact ⟨accepted, (check_accepts_iff point ⟨"body", []⟩ value []).2 accepted⟩

end Schema

end RequestBinding
