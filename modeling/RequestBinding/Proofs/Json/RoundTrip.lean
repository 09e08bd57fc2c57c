import RequestBinding.Proofs.Double.Rounding
import RequestBinding.Value

/-!
JSON documents that become values and documents again.  Main statement: a document comes back with
doubles in place of the whole numbers that 64 bits with sign do not hold, and so it comes back as it
was exactly if it has no such number.
-/
namespace RequestBinding

inductive Json.Number.InRange : Json.Number → Prop
  | whole {i : Int} (least : Int64.minValue.toInt ≤ i) (most : i < 2 ^ 64) : InRange (.whole i)
  | double {x : Float} (finite : x.isFinite = true) : InRange (.double x)

namespace Json

/-- A document with numbers in their range and with each key once, in order. -/
inductive WellFormed : Json → Prop
  | null : WellFormed .null
  | bool (b : Bool) : WellFormed (.bool b)
  | number {n : Json.Number} (inRange : n.InRange) : WellFormed (.number n)
  | string (s : String) : WellFormed (.string s)
  | array {items : List Json} (each : ∀ j ∈ items, WellFormed j) : WellFormed (.array items)
  | object {members : List (String × Json)} (sorted : members.Pairwise fun m m' => m.1 < m'.1)
    (each : ∀ m ∈ members, WellFormed m.2) : WellFormed (.object members)

/-- No whole number of the document is too large for 64 bits with sign. -/
inductive Signed : Json → Prop
  | null : Signed .null
  | bool (b : Bool) : Signed (.bool b)
  | whole {i : Int} (most : i ≤ Int64.maxValue.toInt) : Signed (.number (.whole i))
  | double (x : Float) : Signed (.number (.double x))
  | string (s : String) : Signed (.string s)
  | array {items : List Json} (each : ∀ j ∈ items, Signed j) : Signed (.array items)
  | object {members : List (String × Json)} (each : ∀ m ∈ members, Signed m.2) :
    Signed (.object members)

/-- A whole number that is too large for 64 bits with sign as the nearest double. -/
def Number.narrowed : Json.Number → Json.Number
  | .whole i => if i ≤ Int64.maxValue.toInt then .whole i else .double (Float.ofInt i)
  | .double x => .double x

mutual

def narrowed : Json → Json
  | .number n => .number n.narrowed
  | .array items => .array (narrowedItems items)
  | .object members => .object (narrowedMembers members)
  | j => j

def narrowedItems : List Json → List Json
  | [] => []
  | j :: r => narrowed j :: narrowedItems r

def narrowedMembers : List (String × Json) → List (String × Json)
  | [] => []
  | (k, j) :: r => (k, narrowed j) :: narrowedMembers r

end

theorem narrowedItems_eq_map (js : List Json) : narrowedItems js = js.map narrowed := by
  induction js with
  | nil => rfl
  | cons j r ih => simp [narrowedItems, ih]

theorem narrowedMembers_eq_map (ms : List (String × Json)) :
    narrowedMembers ms = ms.map fun m => (m.1, narrowed m.2) := by
  induction ms with
  | nil => rfl
  | cons m r ih => simp [narrowedMembers, ih]

theorem induction {motive : Json → Prop} (null : motive .null) (bool : ∀ b, motive (.bool b))
    (number : ∀ n, motive (.number n)) (string : ∀ s, motive (.string s))
    (array : ∀ items, (∀ j ∈ items, motive j) → motive (.array items))
    (object : ∀ members, (∀ m ∈ members, motive m.2) → motive (.object members)) (j : Json) :
    motive j :=
  @Json.rec motive (fun items => ∀ j ∈ items, motive j) (fun members => ∀ m ∈ members, motive m.2)
    (fun m => motive m.2) null bool number string array object (List.forall_mem_nil _)
    (fun _ _ first rest => List.forall_mem_cons.2 ⟨first, rest⟩) (List.forall_mem_nil _)
    (fun _ _ first rest => List.forall_mem_cons.2 ⟨first, rest⟩) (fun _ _ whole => whole) j

theorem map_eq_self_iff {α : Type} {f : α → α} {l : List α} :
    l.map f = l ↔ ∀ x ∈ l, f x = x := by
  have same : l.map f = l.map id ↔ ∀ x ∈ l, f x = id x := List.map_inj_left
  rwa [List.map_id] at same

/-- Exactly the documents without large whole numbers are narrow already. -/
theorem narrowed_eq_self_iff (j : Json) : j.narrowed = j ↔ j.Signed := by
  induction j using Json.induction with
  | null => exact ⟨fun _ => .null, fun _ => rfl⟩
  | bool b => exact ⟨fun _ => .bool b, fun _ => rfl⟩
  | number n =>
    cases n with
    | whole i =>
      rw [narrowed, Number.narrowed]
      split
      · next most => exact ⟨fun _ => .whole most, fun _ => rfl⟩
      · next more => exact ⟨nofun, fun | .whole most => absurd most more⟩
    | double x => exact ⟨fun _ => .double x, fun _ => rfl⟩
  | string s => exact ⟨fun _ => .string s, fun _ => rfl⟩
  | array items ih =>
    rw [narrowed, narrowedItems_eq_map, Json.array.injEq, map_eq_self_iff]
    exact ⟨fun same => .array fun j hj => (ih j hj).1 (same j hj),
      fun | .array each => fun j hj => (ih j hj).2 (each j hj)⟩
  | object members ih =>
    rw [narrowed, narrowedMembers_eq_map, Json.object.injEq, map_eq_self_iff]
    have same (m : String × Json) : (m.1, m.2.narrowed) = m ↔ m.2.narrowed = m.2 := by
      simp [Prod.ext_iff]
    simp only [same]
    exact ⟨fun same => .object fun m hm => (ih m hm).1 (same m hm),
      fun | .object each => fun m hm => (ih m hm).2 (each m hm)⟩

section
variable {α : Type} {key : String} {value : α} {members : List (String × α)}

theorem insertMember_of_forall_lt (h : ∀ m ∈ members, m.1 < key) :
    insertMember key value members = members ++ [(key, value)] := by
  induction members with
  | nil => rfl
  | cons m ms ih =>
    obtain ⟨here, rest⟩ := List.forall_mem_cons.1 h
    have after : ¬key < m.1 := String.lt_asymm here
    have apart : key ≠ m.1 := fun same => String.lt_irrefl key (by rwa [same] at here ⊢)
    rw [insertMember, if_neg after, if_neg apart, ih rest]
    rfl

theorem sortMembers_eq_self (sorted : members.Pairwise fun m m' => m.1 < m'.1) :
    sortMembers members = members := by
  -- what is sorted already has smaller keys than what is to come, so each member goes to the end
  have onto (front : List (String × α)) (before : ∀ m ∈ front, ∀ m' ∈ members, m.1 < m'.1) :
      members.foldl (fun sorted m => insertMember m.1 m.2 sorted) front = front ++ members := by
    induction members generalizing front with
    | nil => exact (List.append_nil front).symm
    | cons m ms ih =>
      obtain ⟨first, rest⟩ := List.pairwise_cons.1 sorted
      have last : ∀ x ∈ front, x.1 < m.1 := fun x hx => before x hx m List.mem_cons_self
      rw [List.foldl_cons, insertMember_of_forall_lt last, ih rest, List.append_assoc]
      · rfl
      · intro x hx m' hm'
        rcases List.mem_append.1 hx with hx | hx
        · exact before x hx m' (List.mem_cons_of_mem m hm')
        · rw [List.mem_singleton.1 hx]
          exact first m' hm'
  exact onto [] (List.forall_mem_nil _)

end
end Json

namespace Value

/-- What is too large for 64 bits with sign, but not without, is no infinity as a double. -/
theorem isFinite_ofInt {i : Int} (least : ¬i ≤ Int64.maxValue.toInt) (most : i < 2 ^ 64) :
    (Float.ofInt i).isFinite = true := by
  have bound : Int64.maxValue.toInt = 2 ^ 63 - 1 := rfl
  exact Double.isFinite_ofInt (by omega)

theorem toJson_ofNumber {n : Json.Number} (h : n.InRange) :
    (ofNumber n).toJson = .number n.narrowed := by
  cases h with
  | @whole i least most =>
    rw [ofNumber, Json.Number.narrowed]
    by_cases small : i ≤ Int64.maxValue.toInt
    · have same : (Int64.ofInt i).toInt = i :=
        Int64.toInt_ofInt_of_le least (Int.lt_of_le_sub_one small)
      rw [if_pos ⟨least, small⟩, if_pos small, toJson, same]
    · rw [if_neg fun h => small h.2, if_neg small, toJson, if_pos (isFinite_ofInt small most)]
  | double finite => rw [ofNumber, toJson, if_pos finite, Json.Number.narrowed]

theorem toJson_ofJson_eq_narrowed {j : Json} (h : j.WellFormed) :
    (ofJson j).toJson = j.narrowed := by
  induction h with
  | null => rfl
  | bool b => rfl
  | number inRange => exact toJson_ofNumber inRange
  | string s => rfl
  | @array items each ih =>
    have back : (items.map ofJson).map toJson = items.map Json.narrowed := by
      rw [List.map_map]
      exact List.map_congr_left ih
    rw [ofJson, toJson, toJsonItems_eq_map, ofJsonItems_eq_map, back, Json.narrowed,
      Json.narrowedItems_eq_map]
  | @object members sorted each ih =>
    have back : (members.map fun m => (m.1, ofJson m.2)).map (fun p => (p.1, p.2.toJson)) =
        members.map fun m => (m.1, m.2.narrowed) := by
      rw [List.map_map]
      exact List.map_congr_left fun m hm => congrArg (Prod.mk m.1) (ih m hm)
    have still : (members.map fun m => (m.1, m.2.narrowed)).Pairwise fun m m' => m.1 < m'.1 :=
      List.pairwise_map.2 sorted
    rw [ofJson, toJson, toJsonPairs_eq_map, ofJsonMembers_eq_map, back, Json.narrowed,
      Json.narrowedMembers_eq_map, Json.ofMembers, Json.sortMembers_eq_self still]

/-- A document comes back with doubles for the whole numbers that are too large for 64 bits with
sign, and as it was exactly if it has none. -/
theorem toJson_ofJson {j : Json} (h : j.WellFormed) :
    (ofJson j).toJson = j.narrowed ∧ ((ofJson j).toJson = j ↔ j.Signed) := by
  rw [toJson_ofJson_eq_narrowed h]
  exact ⟨rfl, j.narrowed_eq_self_iff⟩

theorem toJson_ofJson_document :
    let j := Json.object [("count", .number (.whole 9223372036854775807)),
      ("ratio", .number (.double 0.5)), ("tags", .array [.string "a", .null])]
    j.WellFormed ∧ (ofJson j).toJson = j := by
  intro j
  have wellFormed : j.WellFormed := by
    refine .object (by decide) ?_
    simp only [List.forall_mem_cons]
    refine ⟨.number (.whole (by decide) (by decide)), .number (.double (by decide)),
      .array ?_, List.forall_mem_nil _⟩
    simp only [List.forall_mem_cons]
    exact ⟨.string "a", .null, List.forall_mem_nil _⟩
  refine ⟨wellFormed, (toJson_ofJson wellFormed).2.2 (.object ?_)⟩
  simp only [List.forall_mem_cons]
  refine ⟨.whole (by decide), .double 0.5, .array ?_, List.forall_mem_nil _⟩
  simp only [List.forall_mem_cons]
  exact ⟨.string "a", .null, List.forall_mem_nil _⟩

/-- The next integer becomes a double. -/
theorem toJson_ofJson_large :
    let j := Json.number (.whole 9223372036854775808)
    j.WellFormed ∧ (ofJson j).toJson = .number (.double 9223372036854775808) ∧
      (ofJson j).toJson ≠ j :=
  ⟨.number (.whole (by decide) (by decide)), rfl, nofun⟩

end Value

end RequestBinding
