import RequestBinding.Value

/-!
Members of an object that repeats keys.  A reader that takes the first pair of a key and one that
takes the last pair differ; sorting members into a document keeps the last.
-/
namespace RequestBinding
variable {α : Type} {pairs : List (String × α)} {key : String} {v : α}

namespace Value

def FirstUnder (pairs : List (String × α)) (key : String) (v : α) : Prop :=
  ∃ before after, pairs = before ++ (key, v) :: after ∧ ∀ p ∈ before, p.1 ≠ key

def LastUnder (pairs : List (String × α)) (key : String) (v : α) : Prop :=
  ∃ before after, pairs = before ++ (key, v) :: after ∧ ∀ p ∈ after, p.1 ≠ key

def NoneUnder (pairs : List (String × α)) (key : String) : Prop := ∀ p ∈ pairs, p.1 ≠ key

theorem lookup_eq_some_iff : pairs.lookup key = some v ↔ FirstUnder pairs key v := by
  simp [List.lookup_eq_some_iff, FirstUnder, ne_comm]

theorem lookup_eq_none_iff : pairs.lookup key = none ↔ NoneUnder pairs key := by
  simp [List.lookup_eq_none_iff, NoneUnder, ne_comm]

theorem firstUnder_reverse_iff : FirstUnder pairs.reverse key v ↔ LastUnder pairs key v := by
  constructor
  · rintro ⟨before, after, split, others⟩
    refine ⟨after.reverse, before.reverse, ?_, by simpa using others⟩
    simpa using List.reverse_eq_iff.1 split
  · rintro ⟨before, after, split, others⟩
    exact ⟨after.reverse, before.reverse, by simp [split], by simpa using others⟩

theorem lastMember?_eq_some_iff {pairs : List (String × Value)} {v : Value} :
    lastMember? pairs key = some v ↔ LastUnder pairs key v :=
  lookup_eq_some_iff.trans firstUnder_reverse_iff

theorem lastMember?_eq_none_iff {pairs : List (String × Value)} :
    lastMember? pairs key = none ↔ NoneUnder pairs key :=
  lookup_eq_none_iff.trans (by simp [NoneUnder])

theorem lookup_filterMap {β : Type} {key : β → String} {f : β → Option α} {l : List β}
    (distinct : (l.map key).Nodup) {b : β} (hb : b ∈ l) :
    (l.filterMap fun b => (f b).map (key b, ·)).lookup (key b) = f b := by
  induction l with
  | nil => cases hb
  | cons a l ih =>
    obtain ⟨fresh, distinct⟩ := List.nodup_cons.1 distinct
    have others : ∀ c ∈ l, key c ≠ key a := fun c hc same =>
      fresh (same ▸ List.mem_map_of_mem hc)
    rw [List.filterMap_cons]
    rcases List.mem_cons.1 hb with rfl | later
    · cases found : f b with
      | some v => simp
      | none =>
        refine lookup_eq_none_iff.2 fun p hp => ?_
        obtain ⟨c, hc, put⟩ := List.mem_filterMap.1 hp
        obtain ⟨v, _, rfl⟩ := Option.map_eq_some_iff.1 put
        exact others c hc
    · cases f a with
      | some v => simpa [List.lookup_cons, beq_eq_false_iff_ne.2 (others b later)] using ih distinct later
      | none => exact ih distinct later

theorem lastMember?_filterMap {β : Type} {key : β → String} {f : β → Option Value} {l : List β}
    (distinct : (l.map key).Nodup) {b : β} (hb : b ∈ l) :
    lastMember? (l.filterMap fun b => (f b).map (key b, ·)) (key b) = f b := by
  rw [lastMember?, ← List.filterMap_reverse]
  refine lookup_filterMap ?_ (List.mem_reverse.2 hb)
  rw [List.map_reverse]
  exact List.pairwise_reverse.2 (distinct.imp Ne.symm)

end Value

namespace Json

theorem lookup_cons (k a : String) (w : α) (members : List (String × α)) :
    ((a, w) :: members).lookup k = if k = a then some w else members.lookup k := by
  by_cases h : k = a
  · simp [h]
  · simp [List.lookup_cons, h, beq_eq_false_iff_ne.2 h]

theorem lookup_insertMember (k : String) (members : List (String × α)) :
    (insertMember key v members).lookup k = if k = key then some v else members.lookup k := by
  induction members with
  | nil => exact lookup_cons k key v []
  | cons m r ih =>
    obtain ⟨a, w⟩ := m
    unfold insertMember
    split
    · exact lookup_cons k key v _
    · split
      · next same =>
        subst same
        rw [lookup_cons, lookup_cons]
        split <;> rfl
      · next other =>
        rw [lookup_cons, lookup_cons, ih]
        by_cases found : k = key
        · have apart : k ≠ a := fun h => other (found.symm.trans h)
          rw [if_neg apart, if_pos found, if_pos found]
        · rw [if_neg found, if_neg found]

/-- Sorting keeps the last member of a key. -/
theorem lookup_sortMembers (members : List (String × α)) (k : String) :
    (sortMembers members).lookup k = members.reverse.lookup k := by
  have onto (sorted : List (String × α)) :
      (members.foldl (fun sorted m => insertMember m.1 m.2 sorted) sorted).lookup k =
        (members.reverse.lookup k).or (sorted.lookup k) := by
    induction members generalizing sorted with
    | nil => rfl
    | cons m ms ih =>
      rw [List.foldl_cons, ih, lookup_insertMember, List.reverse_cons, List.lookup_append,
        Option.or_assoc, lookup_cons]
      split <;> rfl
  exact (onto []).trans (Option.or_none)

end Json

end RequestBinding
