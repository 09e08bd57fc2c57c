import RequestBinding.Proofs.Pattern.Match

/-!
Expressions built of sets of characters.  What stands one after another matches stretches one after
another, and a repeated set matches by length and membership alone.
-/
namespace RequestBinding

namespace Regex
variable {before : Option Char} {w after : List Char}

theorem matches_char_iff {c : Char} : (char c).Matches before w after ↔ w = [c] := by
  simp only [char, Matches, CharSet.contains_single, beq_iff_eq, exists_eq_left']

theorem matches_times_set_iff {s : CharSet} {k : Nat} :
    Stretch.times (set s).Matches k before w after ↔
      w.length = k ∧ ∀ c ∈ w, s.contains c = true := by
  induction k generalizing before w with
  | zero => simp +contextual [Stretch.times, List.length_eq_zero_iff]
  | succ k ih =>
    simp only [Stretch.times, ih]
    constructor
    · rintro ⟨_, v, rfl, ⟨c, held, rfl⟩, rfl, all⟩
      exact ⟨rfl, List.forall_mem_cons.2 ⟨held, all⟩⟩
    · rintro ⟨length, all⟩
      obtain ⟨c, v, rfl⟩ := List.exists_cons_of_length_eq_add_one length
      obtain ⟨held, rest⟩ := List.forall_mem_cons.1 all
      exact ⟨[c], v, rfl, ⟨c, held, rfl⟩, by simpa using length, rest⟩

theorem matches_rep_set_iff {s : CharSet} {least : Nat} {most : Option Nat} :
    (rep (set s) least most).Matches before w after ↔ least ≤ w.length ∧
      (∀ n, most = some n → w.length ≤ max least n) ∧ ∀ c ∈ w, s.contains c = true := by
  refine (exists_congr fun more => and_congr_right fun _ => matches_times_set_iff).trans ?_
  constructor
  · rintro ⟨more, limit, length, all⟩
    refine ⟨by omega, fun n hn => ?_, all⟩
    have := limit n hn
    omega
  · rintro ⟨enough, limit, all⟩
    refine ⟨w.length - least, fun n hn => ?_, by omega, all⟩
    have := limit n hn
    omega

theorem matches_optional_iff {r : Regex} :
    (optional r).Matches before w after ↔ w = [] ∨ r.Matches before w after := by
  constructor
  · rintro ⟨more, limit, matched⟩
    have atMost : more ≤ 1 := limit 1 rfl
    obtain rfl | rfl : more = 0 ∨ more = 1 := by omega
    · exact .inl matched
    · obtain ⟨u, _, rfl, one, rfl⟩ := matched
      exact .inr (by simpa using one)
  · rintro (rfl | matched)
    · exact ⟨0, fun _ _ => Nat.zero_le _, rfl⟩
    · exact ⟨1, by simp, w, [], (List.append_nil w).symm, matched, rfl⟩

theorem seqAll_singleton (r : Regex) : seqAll [r] = r := rfl

theorem matches_seqAll_cons_iff {r s : Regex} {rs : List Regex} :
    (seqAll (r :: s :: rs)).Matches before w after ↔ ∃ u v, w = u ++ v ∧
      r.Matches before u (v ++ after) ∧ (seqAll (s :: rs)).Matches (u.getLast?.or before) v after :=
  Iff.rfl

theorem matches_seqAll_append_iff {rs ss : List Regex} :
    (seqAll (rs ++ ss)).Matches before w after ↔ ∃ u v, w = u ++ v ∧
      (seqAll rs).Matches before u (v ++ after) ∧
      (seqAll ss).Matches (u.getLast?.or before) v after := by
  induction rs generalizing before w with
  | nil =>
    refine ⟨fun h => ⟨[], w, rfl, rfl, h⟩, ?_⟩
    rintro ⟨_, v, rfl, rfl, h⟩
    exact h
  | cons r rs ih =>
    cases rs with
    | nil =>
      cases ss with
      | nil => simp [seqAll, Matches]
      | cons s ss => exact matches_seqAll_cons_iff
    | cons s rs =>
      simp only [List.cons_append, matches_seqAll_cons_iff] at ih ⊢
      simp only [ih]
      constructor
      · rintro ⟨u, _, rfl, one, v, x, rfl, two, rest⟩
        refine ⟨u ++ v, x, (List.append_assoc ..).symm, ⟨u, v, rfl, ?_, two⟩, ?_⟩
        · rwa [List.append_assoc] at one
        · rwa [List.getLast?_append, Option.or_assoc]
      · rintro ⟨_, x, rfl, ⟨u, v, rfl, one, two⟩, rest⟩
        refine ⟨u, v ++ x, List.append_assoc .., ?_, v, x, rfl, two, ?_⟩
        · rwa [List.append_assoc]
        · rwa [List.getLast?_append, Option.or_assoc] at rest

def text (t : List Char) : Regex := seqAll (t.map char)

theorem matches_text_iff {t : List Char} : (text t).Matches before w after ↔ w = t := by
  induction t generalizing before w with
  | nil => exact Iff.rfl
  | cons c t ih =>
    have parts : text (c :: t) = seqAll ([char c] ++ t.map char) := rfl
    rw [parts, matches_seqAll_append_iff]
    rw [text] at ih
    simp only [ih, seqAll_singleton, matches_char_iff]
    constructor
    · rintro ⟨_, _, rfl, rfl, rfl⟩
      rfl
    · rintro rfl
      exact ⟨[c], t, rfl, rfl, rfl⟩

end Regex

end RequestBinding
