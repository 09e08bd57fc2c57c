import RequestBinding.Proofs.Pattern.Sequences
import Mathlib.Logic.Basic

/-!
Simple forms.  Main statement: the combinations that bring an expression into a simple form match
what the plain ones match.
-/
namespace RequestBinding

namespace Regex
variable {before : Option Char} {w after : List Char} {r s : Regex} {rs ss ts us : List Regex}

/-- The expressions match the same stretches. -/
def Same (r s : Regex) : Prop :=
  ∀ before w after, r.Matches before w after ↔ s.Matches before w after

theorem Same.refl (r : Regex) : Same r r := fun _ _ _ => Iff.rfl

theorem Same.trans {t : Regex} (h : Same r s) (h' : Same s t) : Same r t :=
  fun before w after => (h before w after).trans (h' before w after)

theorem Same.matches_eq (h : Same r s) : r.Matches = s.Matches := by
  funext before w after
  exact propext (h before w after)

theorem Same.search_eq (h : Same r s) (text : String) : r.search text = s.search text := by
  rw [Bool.eq_iff_iff, search_eq_true_iff, search_eq_true_iff, h.matches_eq]

theorem Same.append (h : Same (seqAll rs) (seqAll ss)) (h' : Same (seqAll ts) (seqAll us)) :
    Same (seqAll (rs ++ ts)) (seqAll (ss ++ us)) := by
  intro before w after
  simp only [matches_seqAll_append_iff, h _ _ _, h' _ _ _]

theorem Same.cons (r : Regex) (h : Same (seqAll rs) (seqAll ss)) :
    Same (seqAll (r :: rs)) (seqAll (r :: ss)) := (Same.refl (seqAll [r])).append h

theorem same_parts (r : Regex) : Same (seqAll r.parts) r := by
  induction r with
  | seq a b _ ihb =>
    have two : Same (seqAll (a :: b.parts)) (seqAll [a, b]) := .cons a ihb
    exact two
  | _ => exact .refl _

theorem same_concat (rs : List Regex) : Same (concat rs) (seqAll rs) := by
  induction rs with
  | nil => exact .refl _
  | cons r rs ih =>
    have parted : Same (seqAll r.parts) (seqAll [r]) := same_parts r
    exact parted.append ih

theorem same_pieces (rs : List Regex) : Same (seqAll (pieces rs)) (seqAll rs) := by
  induction rs with
  | nil => exact .refl _
  | cons r rs ih =>
    have rest : Same (seqAll (r :: pieces rs)) (seqAll (r :: rs)) := .cons r ih
    rw [pieces]
    split
    · next none => rwa [none] at rest
    · next p ps some =>
      rw [some] at rest
      split
      · have joined : Same (seqAll [.seq r p]) (seqAll [r, p]) := .refl _
        exact (joined.append (.refl (seqAll ps))).trans rest
      · exact rest

theorem matches_altAll_iff :
    (altAll rs).Matches before w after ↔ ∃ r ∈ rs, r.Matches before w after := by
  induction rs with
  | nil => simp [altAll, Matches]
  | cons r rs ih =>
    cases rs with
    | nil => simp [altAll]
    | cons s rs =>
      simp only [List.mem_cons, exists_eq_or_imp] at ih ⊢
      rw [← ih]
      rfl

theorem exists_mem_branches_iff :
    (∃ b ∈ r.branches, b.Matches before w after) ↔ r.Matches before w after := by
  induction r with
  | alt a b _ ihb =>
    simp only [branches, List.mem_cons, exists_eq_or_imp, ihb]
    rfl
  | _ => simp [branches]

theorem exists_mem_flatMap_branches_iff :
    (∃ b ∈ rs.flatMap branches, b.Matches before w after) ↔
      ∃ r ∈ rs, r.Matches before w after := by
  constructor
  · rintro ⟨b, hb, matched⟩
    obtain ⟨r, hr, inner⟩ := List.mem_flatMap.1 hb
    exact ⟨r, hr, exists_mem_branches_iff.1 ⟨b, inner, matched⟩⟩
  · rintro ⟨r, hr, matched⟩
    obtain ⟨b, hb, inner⟩ := exists_mem_branches_iff.2 matched
    exact ⟨b, List.mem_flatMap.2 ⟨r, hr, hb⟩, inner⟩

theorem eq_map_of_mapM_set? {sets : List CharSet} (h : rs.mapM set? = some sets) :
    rs = sets.map set := by
  induction rs generalizing sets with
  | nil => cases h; rfl
  | cons r rs ih =>
    simp only [List.mapM_cons, Option.bind_eq_bind, Option.bind_eq_some_iff] at h
    obtain ⟨s, one, rest, others, all⟩ := h
    cases all
    cases r with
    | set t => cases one; rw [ih others]; rfl
    | _ => cases one

theorem matches_unionAll_iff {sets : List CharSet} :
    (set (.unionAll sets)).Matches before w after ↔
      ∃ r ∈ sets.map set, r.Matches before w after := by
  simp only [Matches, CharSet.contains_unionAll, List.any_eq_true, List.mem_map]
  constructor
  · rintro ⟨c, ⟨s, hs, held⟩, rfl⟩
    exact ⟨_, ⟨s, hs, rfl⟩, c, held, rfl⟩
  · rintro ⟨_, ⟨s, hs, rfl⟩, c, held, rfl⟩
    exact ⟨c, ⟨s, hs, held⟩, rfl⟩

theorem take_eq_of_le_agreement {n : Nat} (h : n ≤ agreement rs ss) : rs.take n = ss.take n := by
  induction rs, ss using agreement.induct generalizing n with
  | case1 r rs ss ih =>
    cases n with
    | zero => rfl
    | succ n =>
      rw [agreement, if_pos rfl] at h
      rw [List.take_succ_cons, List.take_succ_cons, ih (Nat.le_of_succ_le_succ h)]
  | case2 r rs s ss other =>
    rw [agreement, if_neg other, Nat.le_zero] at h
    rw [h, List.take_zero, List.take_zero]
  | case3 rs ss other =>
    rw [agreement.eq_2 _ _ other, Nat.le_zero] at h
    rw [h, List.take_zero, List.take_zero]

theorem foldl_min_le (f : List Regex → Nat) (all : List (List Regex)) (n : Nat) :
    all.foldl (fun n ps => min n (f ps)) n ≤ n ∧
      ∀ ps ∈ all, all.foldl (fun n ps => min n (f ps)) n ≤ f ps := by
  induction all generalizing n with
  | nil => simp
  | cons ps all ih =>
    obtain ⟨first, others⟩ := ih (min n (f ps))
    rw [List.foldl_cons]
    exact ⟨by omega, List.forall_mem_cons.2 ⟨by omega, others⟩⟩

theorem map_pieces_of_commonStart? {start : List Regex} {rest : List (List Regex)}
    (h : commonStart? rs = some (start, rest)) :
    rs.map (fun b => pieces b.parts) = rest.map (start ++ ·) := by
  unfold commonStart? at h
  generalize rs.map (fun b => pieces b.parts) = all at h
  cases all with
  | nil => cases h
  | cons first others =>
    simp only at h
    split at h
    · cases h
    · generalize common : others.foldl (fun n ps => min n (agreement first ps)) first.length = n
        at h
      obtain ⟨rfl, rfl⟩ := Prod.mk.inj (Option.some.inj h)
      have agree : ∀ ps ∈ first :: others, first.take n = ps.take n :=
        List.forall_mem_cons.2 ⟨rfl, fun ps hps => take_eq_of_le_agreement
          (common ▸ (foldl_min_le (agreement first) others first.length).2 ps hps)⟩
      rw [List.map_map]
      refine (List.map_id _).symm.trans (List.map_congr_left fun ps hps => ?_)
      rw [Function.comp_apply, agree ps hps, List.take_append_drop, id]

theorem exists_pieces_iff :
    (∃ ps ∈ rs.map (fun b => pieces b.parts), (seqAll ps).Matches before w after) ↔
      ∃ r ∈ rs, r.Matches before w after := by
  simp only [List.mem_map, exists_exists_and_eq_and, (same_pieces _).trans (same_parts _) _ _ _]

theorem matches_eitherWithin_iff {fuel : Nat} :
    (eitherWithin fuel rs).Matches before w after ↔ ∃ r ∈ rs, r.Matches before w after := by
  induction fuel generalizing rs before w after with
  | zero => exact matches_altAll_iff
  | succ fuel ih =>
    rw [← exists_mem_flatMap_branches_iff, eitherWithin]
    split
    · next none => rw [none, matches_altAll_iff]
    · next r one => simp [one]
    · split
      · next sets all =>
        split
        · exact matches_altAll_iff
        · rw [matches_unionAll_iff, ← eq_map_of_mapM_set? all]
      · split
        · next start rest common =>
          have inner (v after : List Char) (before : Option Char) :
              (eitherWithin fuel (rest.map concat)).Matches before v after ↔
                ∃ t ∈ rest, (seqAll t).Matches before v after := by
            simp only [ih, List.mem_map, exists_exists_and_eq_and, same_concat _ _ _ _]
          rw [same_concat _ _ _ _, ← exists_pieces_iff, map_pieces_of_commonStart? common]
          simp only [List.mem_map, exists_exists_and_eq_and, matches_seqAll_append_iff,
            seqAll_singleton, inner]
          constructor
          · rintro ⟨u, v, rfl, first, t, ht, last⟩
            exact ⟨t, ht, u, v, rfl, first, last⟩
          · rintro ⟨t, ht, u, v, rfl, first, last⟩
            exact ⟨u, v, rfl, first, t, ht, last⟩
        · exact matches_altAll_iff

/-- Alternatives in simple form match what one of them matches. -/
theorem matches_either_iff :
    (either rs).Matches before w after ↔ ∃ r ∈ rs, r.Matches before w after :=
  matches_eitherWithin_iff

theorem times_nothing_iff {m : Stretch} {k : Nat}
    (nothing : ∀ before w after, m before w after → w = []) :
    m.times k before w after ↔ w = [] ∧ (k = 0 ∨ m before [] after) := by
  induction k generalizing before w with
  | zero => simp [Stretch.times]
  | succ k ih =>
    simp only [Stretch.times, ih, Nat.add_eq_zero_iff, Nat.one_ne_zero, and_false, false_or]
    constructor
    · rintro ⟨u, _, rfl, one, rfl, _⟩
      obtain rfl := nothing _ _ _ one
      exact ⟨rfl, one⟩
    · rintro ⟨rfl, one⟩
      exact ⟨[], [], rfl, one, rfl, .inr one⟩

theorem eq_nil_of_readsNothing (h : r.readsNothing = true) (before : Option Char)
    (w after : List Char) (matched : r.Matches before w after) : w = [] := by
  induction r generalizing before w after with
  | empty => exact matched
  | set s => cases h
  | assert a => exact matched.1
  | seq a b iha ihb =>
    obtain ⟨ha, hb⟩ := (Bool.and_eq_true ..).mp h
    obtain ⟨u, v, rfl, first, last⟩ := matched
    rw [iha ha _ _ _ first, ihb hb _ _ _ last, List.nil_append]
  | alt a b iha ihb =>
    obtain ⟨ha, hb⟩ := (Bool.and_eq_true ..).mp h
    exact matched.elim (iha ha _ _ _) (ihb hb _ _ _)
  | rep a least most ih =>
    obtain ⟨more, _, repeated⟩ := matched
    exact ((times_nothing_iff (ih ((Bool.and_eq_true ..).mp h).1)).1 repeated).1
  | group index a ih => exact ih h _ _ _ matched

theorem matches_rep_nothing_iff {least : Nat} {most : Option Nat} (h : r.readsNothing = true) :
    (rep r least most).Matches before w after ↔
      w = [] ∧ (least = 0 ∨ r.Matches before [] after) := by
  simp only [Matches, times_nothing_iff (eq_nil_of_readsNothing h)]
  constructor
  · rintro ⟨more, _, rfl, none | one⟩
    · exact ⟨rfl, .inl (by omega)⟩
    · exact ⟨rfl, .inr one⟩
  · rintro ⟨rfl, none | one⟩
    · exact ⟨0, fun _ _ => Nat.zero_le _, rfl, .inl none⟩
    · exact ⟨0, fun _ _ => Nat.zero_le _, rfl, .inr one⟩

theorem same_rep_zero (r : Regex) : Same .empty (rep r 0 (some 0)) := by
  intro before w after
  constructor
  · exact fun nothing => ⟨0, fun _ _ => Nat.zero_le _, nothing⟩
  · rintro ⟨more, limit, repeated⟩
    obtain rfl : more = 0 := Nat.le_zero.1 (limit 0 rfl)
    exact repeated

theorem same_rep_one (r : Regex) : Same r (rep r 1 (some 1)) := by
  intro before w after
  constructor
  · intro matched
    exact ⟨0, fun _ _ => Nat.zero_le _, w, [], (List.append_nil w).symm, matched, rfl⟩
  · rintro ⟨more, limit, repeated⟩
    obtain rfl : more = 0 := Nat.le_zero.1 (limit 1 rfl)
    obtain ⟨u, _, rfl, matched, rfl⟩ := repeated
    rwa [List.append_nil]

theorem same_iterate (r : Regex) (least : Nat) (most : Option Nat) :
    Same (iterate r least most) (rep r least most) := by
  have trimmed (least : Nat) (most : Option Nat) :
      Same (if most = some 0 ∧ least = 0 then .empty
        else if least = 1 ∧ most = some 1 then r else .rep r least most) (rep r least most) := by
    split
    · next none => rw [none.1, none.2]; exact same_rep_zero r
    · split
      · next one => rw [one.1, one.2]; exact same_rep_one r
      · exact .refl _
  unfold iterate
  by_cases h : r.readsNothing = true
  · simp only [h, if_true]
    refine (trimmed _ _).trans fun before w after => ?_
    rw [matches_rep_nothing_iff h, matches_rep_nothing_iff h]
    have least_iff : min least 1 = 0 ↔ least = 0 := by omega
    rw [least_iff]
  · simp only [h]
    exact trimmed least most

def ungrouped : Regex → Regex
  | .seq a b => .seq a.ungrouped b.ungrouped
  | .alt a b => .alt a.ungrouped b.ungrouped
  | .rep a least most => .rep a.ungrouped least most
  | .group _ a => a.ungrouped
  | r => r

theorem same_ungrouped (r : Regex) : Same r.ungrouped r := by
  induction r with
  | seq a b iha ihb =>
    intro before w after
    simp only [ungrouped, Matches, iha.matches_eq, ihb.matches_eq]
  | alt a b iha ihb => exact fun _ _ _ => or_congr (iha _ _ _) (ihb _ _ _)
  | rep a least most ih =>
    intro before w after
    simp only [ungrouped, Matches, ih.matches_eq]
  | group index a ih => exact ih
  | _ => exact .refl _

end Regex

end RequestBinding
