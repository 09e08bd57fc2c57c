import RequestBinding.Proofs.Json.RoundTrip
import RequestBinding.Proofs.Text.ByteOrder

/-!
Values that become documents and values again.  Main statement: what comes back has no bytes, no
number that is none or infinite, and the keys of every object in the order of their bytes, each
once; exactly the values of this form come back as they were.
-/
namespace RequestBinding

namespace Json
variable {α β : Type} {key : String} {value : α} {members : List (String × α)}

theorem mem_of_mem_insertMember {m : String × α} (h : m ∈ insertMember key value members) :
    m = (key, value) ∨ m ∈ members := by
  induction members with
  | nil => exact .inl (List.mem_singleton.1 h)
  | cons x xs ih =>
    rw [insertMember] at h
    split_ifs at h
    · exact List.mem_cons.1 h
    · exact (List.mem_cons.1 h).imp_right (List.mem_cons_of_mem x)
    · rcases List.mem_cons.1 h with rfl | later
      · exact .inr List.mem_cons_self
      · exact (ih later).imp_right (List.mem_cons_of_mem x)

theorem pairwise_insertMember (sorted : members.Pairwise fun m m' => m.1 < m'.1) :
    (insertMember key value members).Pairwise fun m m' => m.1 < m'.1 := by
  induction members with
  | nil => exact List.pairwise_singleton _ _
  | cons x xs ih =>
    obtain ⟨first, rest⟩ := List.pairwise_cons.1 sorted
    rw [insertMember]
    split_ifs with before same
    · refine List.pairwise_cons.2 ⟨fun m hm => ?_, sorted⟩
      rcases List.mem_cons.1 hm with rfl | later
      · exact before
      · exact before.trans (first m later)
    · exact List.pairwise_cons.2 ⟨fun m hm => same ▸ first m hm, rest⟩
    · refine List.pairwise_cons.2 ⟨fun m hm => ?_, ih rest⟩
      rcases mem_of_mem_insertMember hm with rfl | later
      · exact lt_of_le_of_ne (not_lt.1 before) (Ne.symm same)
      · exact first m later

theorem sortMembers_induction {P : List (String × α) → Prop} (empty : P [])
    (insert : ∀ m ∈ members, ∀ sorted, P sorted → P (insertMember m.1 m.2 sorted)) :
    P (sortMembers members) :=
  List.foldlRecOn members _ empty fun sorted h m hm => insert m hm sorted h

theorem pairwise_sortMembers (members : List (String × α)) :
    (sortMembers members).Pairwise fun m m' => m.1 < m'.1 :=
  sortMembers_induction .nil fun _ _ _ => pairwise_insertMember

theorem mem_of_mem_sortMembers {m : String × α} : m ∈ sortMembers members → m ∈ members :=
  sortMembers_induction (P := fun sorted => m ∈ sorted → m ∈ members) nofun
    fun _ hx _ ih h => (mem_of_mem_insertMember h).elim (fun same => same ▸ hx) ih

end Json

namespace Value

theorem induction {motive : Value → Prop} (null : motive .null) (bool : ∀ b, motive (.bool b))
    (int : ∀ i, motive (.int i)) (float : ∀ x, motive (.float x)) (string : ∀ s, motive (.string s))
    (bytes : ∀ bs, motive (.bytes bs))
    (list : ∀ items, (∀ v ∈ items, motive v) → motive (.list items))
    (object : ∀ pairs, (∀ p ∈ pairs, motive p.2) → motive (.object pairs)) (v : Value) :
    motive v :=
  @Value.rec motive (fun items => ∀ v ∈ items, motive v) (fun pairs => ∀ p ∈ pairs, motive p.2)
    (fun p => motive p.2) null bool int float string bytes list object (List.forall_mem_nil _)
    (fun _ _ first rest => List.forall_mem_cons.2 ⟨first, rest⟩) (List.forall_mem_nil _)
    (fun _ _ first rest => List.forall_mem_cons.2 ⟨first, rest⟩) (fun _ _ whole => whole) v

/-- What JSON can hold: no bytes, finite numbers, and each key once, in the order of the bytes. -/
inductive Canonical : Value → Prop
  | null : Canonical .null
  | bool (b : Bool) : Canonical (.bool b)
  | int (i : Int64) : Canonical (.int i)
  | float {x : Float} (finite : x.isFinite = true) : Canonical (.float x)
  | string (s : String) : Canonical (.string s)
  | list {items : List Value} (each : ∀ v ∈ items, Canonical v) : Canonical (.list items)
  | object {pairs : List (String × Value)}
    (sorted : pairs.Pairwise fun p q => Text.Utf8.encode p.1 < Text.Utf8.encode q.1)
    (each : ∀ p ∈ pairs, Canonical p.2) : Canonical (.object pairs)

def normal (v : Value) : Value := ofJson v.toJson

theorem normal_int (i : Int64) : (int i).normal = .int i := by
  have range : Int64.minValue.toInt ≤ i.toInt ∧ i.toInt ≤ Int64.maxValue.toInt :=
    ⟨i.minValue_le_toInt, i.toInt_le⟩
  rw [normal, toJson, ofJson, ofNumber, if_pos range, Int64.ofInt_toInt]

theorem normal_float (x : Float) : (float x).normal = if x.isFinite then .float x else .null := by
  rw [normal, toJson]
  split <;> rfl

theorem normal_list (items : List Value) : (list items).normal = .list (items.map normal) := by
  rw [normal, toJson, ofJson, toJsonItems_eq_map, ofJsonItems_eq_map, List.map_map]
  rfl

theorem normal_object (pairs : List (String × Value)) : (object pairs).normal =
    .object ((Json.sortMembers (pairs.map fun p => (p.1, p.2.toJson))).map
      fun m => (m.1, ofJson m.2)) := by
  rw [normal, toJson, Json.ofMembers, ofJson, toJsonPairs_eq_map, ofJsonMembers_eq_map]

theorem canonical_normal (v : Value) : v.normal.Canonical := by
  induction v using Value.induction with
  | null => exact .null
  | bool b => exact .bool b
  | int i => exact (normal_int i).symm ▸ .int i
  | float x =>
    rw [normal_float]
    split_ifs with finite
    · exact .float finite
    · exact .null
  | string s => exact .string s
  | bytes bs => exact .string _
  | list items ih =>
    rw [normal_list]
    exact .list (List.forall_mem_map.2 ih)
  | object pairs ih =>
    rw [normal_object]
    refine .object (List.pairwise_map.2 ?_) (List.forall_mem_map.2 fun m hm => ?_)
    · exact (Json.pairwise_sortMembers _).imp Text.Utf8.encode_lt_encode
    · obtain ⟨p, hp, rfl⟩ := List.mem_map.1 (Json.mem_of_mem_sortMembers hm)
      exact ih p hp

theorem Canonical.normal_eq {v : Value} (h : v.Canonical) : v.normal = v := by
  induction h with
  | null => rfl
  | bool b => rfl
  | int i => exact normal_int i
  | float finite => rw [normal_float, if_pos finite]
  | string s => rfl
  | @list items each ih => rw [normal_list, Json.map_eq_self_iff.2 ih]
  | @object pairs sorted each ih =>
    have keys : (pairs.map fun p => (p.1, p.2.toJson)).Pairwise fun m m' => m.1 < m'.1 :=
      List.pairwise_map.2 (sorted.imp Text.Utf8.encode_lt_encode_iff.1)
    have back : (pairs.map fun p => (p.1, p.2.toJson)).map (fun m => (m.1, ofJson m.2)) = pairs := by
      rw [List.map_map]
      exact Json.map_eq_self_iff.2 fun p hp => congrArg (Prod.mk p.1) (ih p hp)
    rw [normal_object, Json.sortMembers_eq_self keys, back]

/-- A value that goes through JSON comes back in the form, as it was exactly if it had the form
before, and so the same however often it goes. -/
theorem ofJson_toJson (v : Value) : (ofJson v.toJson).Canonical ∧
    (ofJson v.toJson = v ↔ v.Canonical) ∧
    ofJson (ofJson v.toJson).toJson = ofJson v.toJson := by
  have form : (ofJson v.toJson).Canonical := v.canonical_normal
  exact ⟨form, ⟨fun same => same ▸ form, Canonical.normal_eq⟩, form.normal_eq⟩

end Value

end RequestBinding
