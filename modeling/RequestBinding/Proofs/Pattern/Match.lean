import RequestBinding.Pattern.Match

/-!
What an expression matches.  A stretch of a text is matched with regard to the character just before
it and to the text after it, for an assertion looks at both.  Main statement: the search answers yes
exactly if some stretch of the text is matched.
-/
namespace RequestBinding

/-- A condition on a stretch of a text, between the character before it and the text after it. -/
abbrev Stretch := Option Char → List Char → List Char → Prop

def Stretch.times (m : Stretch) : Nat → Stretch
  | 0, _, w, _ => w = []
  | k + 1, before, w, after =>
    ∃ u v, w = u ++ v ∧ m before u (v ++ after) ∧ m.times k (u.getLast?.or before) v after

/-- The expression matches the stretch `w`. -/
def Regex.Matches : Regex → Stretch
  | .empty, _, w, _ => w = []
  | .set s, _, w, _ => ∃ c, s.contains c = true ∧ w = [c]
  | .assert a, before, w, after => w = [] ∧ a.holds ⟨0, before, after⟩ = true
  | .seq r s, before, w, after =>
    ∃ u v, w = u ++ v ∧ r.Matches before u (v ++ after) ∧ s.Matches (u.getLast?.or before) v after
  | .alt r s, before, w, after => r.Matches before w after ∨ s.Matches before w after
  | .rep r least most, before, w, after =>
    ∃ more, (∀ n, most = some n → more ≤ n - least) ∧
      Stretch.times r.Matches (least + more) before w after
  | .group _ r, before, w, after => r.Matches before w after

namespace Place
variable {cs w w' : List Char} {p q : Place}

/-- From the first place the characters `w` lead to the second. -/
structure Steps (p : Place) (w : List Char) (q : Place) : Prop where
  after : p.after = w ++ q.after
  index : q.index = p.index + w.length
  before : q.before = w.getLast?.or p.before

def Within (cs : List Char) (p : Place) : Prop := ∃ w, (start cs).Steps w p

theorem steps_nil_iff : p.Steps [] q ↔ q = p := by
  refine ⟨fun ⟨after, index, before⟩ => ?_, ?_⟩
  · obtain ⟨_, _, _⟩ := p
    obtain ⟨_, _, _⟩ := q
    simp_all
  · rintro rfl
    exact ⟨rfl, rfl, rfl⟩

theorem steps_append_iff {u v : List Char} : p.Steps (u ++ v) q ↔ ∃ m, p.Steps u m ∧
    m.Steps v q := by
  constructor
  · rintro ⟨after, index, before⟩
    refine ⟨⟨p.index + u.length, u.getLast?.or p.before, v ++ q.after⟩,
      ⟨by simp [after], rfl, rfl⟩, rfl, ?_, ?_⟩
    · simp [index, Nat.add_assoc]
    · simp [before, List.getLast?_append, Option.or_assoc]
  · rintro ⟨m, first, second⟩
    refine ⟨by simp [first.after, second.after], ?_, ?_⟩
    · simp [second.index, first.index, Nat.add_assoc]
    · simp [second.before, first.before, List.getLast?_append, Option.or_assoc]

theorem Within.steps (h : p.Within cs) (steps : p.Steps w q) : q.Within cs := by
  obtain ⟨u, start⟩ := h
  exact ⟨u ++ w, steps_append_iff.2 ⟨p, start, steps⟩⟩

theorem Within.eq (hp : p.Within cs) (hq : q.Within cs) (same : p.index = q.index) : p = q := by
  obtain ⟨u, after, index, before⟩ := hp
  obtain ⟨v, after', index', before'⟩ := hq
  have length : u.length = v.length := by omega
  obtain ⟨rfl, rest⟩ := List.append_inj (after.symm.trans after') length
  obtain ⟨_, _, _⟩ := p
  obtain ⟨_, _, _⟩ := q
  simp_all

theorem steps_cons_iff {index : Nat} {before : Option Char} {c d : Char} :
    (⟨index, before, c :: cs⟩ : Place).Steps (d :: w) q ↔
      c = d ∧ (⟨index + 1, some c, cs⟩ : Place).Steps w q := by
  have last : (d :: w).getLast?.or before = w.getLast?.or (some d) := by
    rw [List.getLast?_cons]
    cases w.getLast? <;> rfl
  constructor
  · rintro ⟨after, index, before⟩
    obtain ⟨rfl, rest⟩ := List.cons.inj after
    exact ⟨rfl, rest, by simp only [index, List.length_cons]; omega, before.trans last⟩
  · rintro ⟨rfl, after, index, before⟩
    exact ⟨congrArg (List.cons c) after, by simp only [index, List.length_cons]; omega,
      before.trans last.symm⟩

theorem mem_upward_iff {index : Nat} {before : Option Char} : q ∈ upward index before cs ↔
    ∃ w, (⟨index, before, cs⟩ : Place).Steps w q := by
  induction cs generalizing index before with
  | nil =>
    rw [upward, List.mem_singleton, ← steps_nil_iff]
    refine ⟨fun h => ⟨[], h⟩, fun ⟨w, h⟩ => ?_⟩
    obtain ⟨rfl, _⟩ := List.append_eq_nil_iff.1 h.after.symm
    exact h
  | cons c cs ih =>
    rw [upward, List.mem_cons, ih, ← steps_nil_iff]
    constructor
    · rintro (h | ⟨w, h⟩)
      · exact ⟨[], h⟩
      · exact ⟨c :: w, steps_cons_iff.2 ⟨rfl, h⟩⟩
    · rintro ⟨_ | ⟨d, w⟩, h⟩
      · exact .inl h
      · exact .inr ⟨w, (steps_cons_iff.1 h).2⟩

theorem step?_eq_some_iff {s : CharSet} : p.step? s = some q ↔
    ∃ c, s.contains c = true ∧ p.Steps [c] q := by
  obtain ⟨index, before, after⟩ := p
  cases after with
  | nil =>
    refine iff_of_false nofun ?_
    rintro ⟨c, _, steps⟩
    cases steps.after
  | cons c cs =>
    simp only [step?, Option.ite_none_right_eq_some, Option.some.injEq, steps_cons_iff,
      steps_nil_iff]
    constructor
    · rintro ⟨held, rfl⟩
      exact ⟨c, held, rfl, rfl⟩
    · rintro ⟨d, held, rfl, rfl⟩
      exact ⟨held, rfl⟩

end Place

namespace Stretch
variable {m m' : Stretch} {cs : List Char} {p q : Place} {ps : List Place}

/-- A stretch that meets the condition leads from one place to the other. -/
def Leads (m : Stretch) (p q : Place) : Prop := ∃ w, p.Steps w q ∧ m p.before w q.after

theorem Leads.within (h : m.Leads p q) (hp : p.Within cs) : q.Within cs := by
  obtain ⟨w, steps, _⟩ := h
  exact hp.steps steps

theorem leads_seq_iff {both : Stretch} (split : ∀ before w after, both before w after ↔
      ∃ u v, w = u ++ v ∧ m before u (v ++ after) ∧ m' (u.getLast?.or before) v after) :
    both.Leads p q ↔ ∃ x, m.Leads p x ∧ m'.Leads x q := by
  constructor
  · rintro ⟨w, steps, h⟩
    obtain ⟨u, v, rfl, first, second⟩ := (split _ _ _).1 h
    obtain ⟨x, one, two⟩ := Place.steps_append_iff.1 steps
    exact ⟨x, ⟨u, one, two.after ▸ first⟩, v, two, one.before ▸ second⟩
  · rintro ⟨x, ⟨u, one, first⟩, v, two, second⟩
    exact ⟨u ++ v, Place.steps_append_iff.2 ⟨x, one, two⟩,
      (split _ _ _).2 ⟨u, v, rfl, two.after ▸ first, one.before ▸ second⟩⟩

theorem leads_times_zero_iff : (m.times 0).Leads p q ↔ q = p := by
  rw [← Place.steps_nil_iff]
  refine ⟨?_, fun h => ⟨[], h, rfl⟩⟩
  rintro ⟨w, steps, rfl⟩
  exact steps

theorem leads_times_succ_iff {k : Nat} :
    (m.times (k + 1)).Leads p q ↔ ∃ x, m.Leads p x ∧ (m.times k).Leads x q :=
  leads_seq_iff fun _ _ _ => Iff.rfl

theorem leads_times_add_iff {j k : Nat} :
    (m.times (j + k)).Leads p q ↔ ∃ x, (m.times j).Leads p x ∧ (m.times k).Leads x q := by
  induction j generalizing p with
  | zero => simp [leads_times_zero_iff]
  | succ j ih =>
    rw [Nat.succ_add, leads_times_succ_iff]
    simp only [ih, leads_times_succ_iff]
    constructor
    · rintro ⟨x, one, y, more, rest⟩
      exact ⟨y, ⟨x, one, more⟩, rest⟩
    · rintro ⟨y, ⟨x, one, more⟩, rest⟩
      exact ⟨x, one, y, more, rest⟩

/-- What repetitions reach is reached without those that read nothing. -/
theorem Leads.exists_times_le {k : Nat} (h : (m.times k).Leads p q) :
    p.index ≤ q.index ∧ ∃ j ≤ q.index - p.index, (m.times j).Leads p q := by
  induction k generalizing p with
  | zero =>
    obtain rfl := leads_times_zero_iff.1 h
    exact ⟨Nat.le_refl _, 0, Nat.zero_le _, h⟩
  | succ k ih =>
    obtain ⟨x, one, rest⟩ := leads_times_succ_iff.1 h
    obtain ⟨le, j, short, reached⟩ := ih rest
    obtain ⟨w, steps, first⟩ := one
    have index := steps.index
    cases w with
    | nil =>
      obtain rfl := Place.steps_nil_iff.1 steps
      exact ⟨le, j, short, reached⟩
    | cons c w =>
      rw [List.length_cons] at index
      exact ⟨by omega, j + 1, by omega, leads_times_succ_iff.2 ⟨x, ⟨_, steps, first⟩, reached⟩⟩

/-- In the text, the function leads from places to all places that a stretch leads to. -/
def Follows (cs : List Char) (f : List Place → List Place) (m : Stretch) : Prop :=
  ∀ ps, (∀ p ∈ ps, p.Within cs) → ∀ q, q ∈ f ps ↔ ∃ p ∈ ps, m.Leads p q

variable {f : List Place → List Place}

theorem Follows.stays (h : Follows cs f m) (hps : ∀ p ∈ ps, p.Within cs) :
    ∀ q ∈ f ps, q.Within cs := by
  intro q hq
  obtain ⟨p, hp, leads⟩ := (h ps hps q).1 hq
  exact leads.within (hps p hp)

theorem Follows.repeats (h : Follows cs f m) (k : Nat) : Follows cs (exactly f k) (m.times k) := by
  intro ps hps q
  induction k generalizing ps with
  | zero => simp [exactly, leads_times_zero_iff]
  | succ k ih =>
    have first := h ps hps
    rw [exactly]
    split
    · next none => simp [List.isEmpty_iff.1 none]
    · rw [ih (f ps) (h.stays hps)]
      simp only [leads_times_succ_iff, first]
      constructor
      · rintro ⟨x, ⟨p, hp, one⟩, rest⟩
        exact ⟨p, hp, x, one, rest⟩
      · rintro ⟨p, hp, x, one, rest⟩
        exact ⟨x, ⟨p, hp, one⟩, rest⟩

theorem mem_fresh_iff {seen new : List Place} (hseen : ∀ p ∈ seen, p.Within cs)
    (hnew : ∀ p ∈ new, p.Within cs) : q ∈ fresh seen new ↔ q ∈ new ∧ q ∉ seen := by
  unfold fresh
  rw [List.mem_filter, Bool.not_eq_true', Bool.eq_false_iff, ne_eq, List.any_eq_true]
  refine and_congr_right fun mem => not_congr ⟨?_, fun seen => ⟨q, seen, beq_self_eq_true _⟩⟩
  rintro ⟨x, hx, same⟩
  rwa [← (hseen x hx).eq (hnew q mem) (beq_iff_eq.1 same)]

/-- Where all but the places at the frontier have their successors among the places, whoever leaves
the places passes the frontier. -/
theorem passes_frontier {seen frontier : List Place} {k : Nat}
    (closed : ∀ p ∈ seen, p ∉ frontier → ∀ x, m.Leads p x → x ∈ seen) (hp : p ∈ seen)
    (h : (m.times k).Leads p q) :
    q ∈ seen ∨ ∃ j ≤ k, ∃ x ∈ frontier, (m.times j).Leads x q := by
  induction k generalizing p with
  | zero =>
    obtain rfl := leads_times_zero_iff.1 h
    exact .inl hp
  | succ k ih =>
    by_cases there : p ∈ frontier
    · exact .inr ⟨k + 1, Nat.le_refl _, p, there, h⟩
    · obtain ⟨x, one, rest⟩ := leads_times_succ_iff.1 h
      refine (ih (closed p hp there x one) rest).imp_right ?_
      rintro ⟨j, hj, reached⟩
      exact ⟨j, by omega, reached⟩

/-- The search in rounds finds what is reached from the frontier in so many steps. -/
theorem Follows.mem_within_iff (h : Follows cs f m) {n : Nat} {seen frontier : List Place}
    (hseen : ∀ p ∈ seen, p.Within cs) (sub : frontier ⊆ seen)
    (closed : ∀ p ∈ seen, p ∉ frontier → ∀ x, m.Leads p x → x ∈ seen) :
    q ∈ within f n seen frontier ↔
      q ∈ seen ∨ ∃ k ≤ n, ∃ p ∈ frontier, (m.times k).Leads p q := by
  induction n generalizing seen frontier with
  | zero =>
    simp only [within, Nat.le_zero, exists_eq_left, leads_times_zero_iff]
    refine ⟨.inl, ?_⟩
    rintro (mem | ⟨p, hp, rfl⟩)
    · exact mem
    · exact sub hp
  | succ n ih =>
    have hfrontier : ∀ p ∈ frontier, p.Within cs := fun p hp => hseen p (sub hp)
    have next := h frontier hfrontier
    have mem_fresh (x : Place) : x ∈ fresh seen (f frontier) ↔ x ∈ f frontier ∧ x ∉ seen :=
      mem_fresh_iff hseen (h.stays hfrontier)
    have grown : ∀ p ∈ seen, ∀ x, m.Leads p x → x ∈ seen ++ fresh seen (f frontier) := by
      intro p hp x leads
      by_cases there : p ∈ frontier
      · by_cases old : x ∈ seen
        · exact List.mem_append_left _ old
        · exact List.mem_append_right _ ((mem_fresh x).2 ⟨(next x).2 ⟨p, there, leads⟩, old⟩)
      · exact List.mem_append_left _ (closed p hp there x leads)
    rw [within]
    split
    · next none =>
      -- nothing is new: no step leaves the places
      rw [none, List.append_nil] at grown
      refine ⟨.inl, ?_⟩
      rintro (mem | ⟨k, _, p, hp, leads⟩)
      · exact mem
      · have stays : ∀ p ∈ seen, p ∉ ([] : List Place) → ∀ x, m.Leads p x → x ∈ seen :=
          fun p hp _ => grown p hp
        simpa using passes_frontier stays (sub hp) leads
    · next some =>
      rw [← some]
      have closed' : ∀ p ∈ seen ++ fresh seen (f frontier), p ∉ fresh seen (f frontier) →
          ∀ x, m.Leads p x → x ∈ seen ++ fresh seen (f frontier) :=
        fun p hp other => grown p ((List.mem_append.1 hp).resolve_right other)
      rw [ih (fun p hp => ?_) (List.subset_append_right _ _) closed']
      · constructor
        · rintro (mem | ⟨k, hk, p, hp, leads⟩)
          · refine (List.mem_append.1 mem).imp_right fun new => ?_
            obtain ⟨p, hp, one⟩ := (next q).1 ((mem_fresh q).1 new).1
            exact ⟨1, by omega, p, hp, leads_times_succ_iff.2 ⟨q, one, leads_times_zero_iff.2 rfl⟩⟩
          · obtain ⟨x, hx, one⟩ := (next p).1 ((mem_fresh p).1 hp).1
            exact .inr ⟨k + 1, by omega, x, hx, leads_times_succ_iff.2 ⟨p, one, leads⟩⟩
        · rintro (mem | ⟨_ | k, hk, p, hp, leads⟩)
          · exact .inl (List.mem_append_left _ mem)
          · obtain rfl := leads_times_zero_iff.1 leads
            exact .inl (List.mem_append_left _ (sub hp))
          · obtain ⟨x, one, rest⟩ := leads_times_succ_iff.1 leads
            refine (passes_frontier closed' (grown p (sub hp) x one) rest).imp_right ?_
            rintro ⟨j, hj, reached⟩
            exact ⟨j, by omega, reached⟩
      · rcases List.mem_append.1 hp with old | new
        · exact hseen p old
        · exact h.stays hfrontier p ((mem_fresh p).1 new).1

theorem length_le_longest {p : Place} (hp : p ∈ ps) : p.after.length ≤ longest ps := by
  induction ps with
  | nil => cases hp
  | cons x ps ih =>
    rw [longest, List.foldr_cons]
    rcases List.mem_cons.1 hp with rfl | hp
    · exact Nat.le_max_left _ _
    · exact Nat.le_trans (ih hp) (Nat.le_max_right _ _)

theorem Follows.mem_within_self_iff (h : Follows cs f m) {n : Nat} (hps : ∀ p ∈ ps, p.Within cs) :
    q ∈ within f n ps ps ↔ ∃ k ≤ n, ∃ p ∈ ps, (m.times k).Leads p q := by
  rw [h.mem_within_iff hps (List.Subset.refl ps) fun p hp other => absurd hp other]
  refine or_iff_right_of_imp fun mem => ?_
  exact ⟨0, Nat.zero_le n, q, mem, leads_times_zero_iff.2 rfl⟩

/-- Without a limit there are as many rounds as there are characters to read, and one more. -/
theorem exists_rounds_iff {least : Nat} {most : Option Nat} :
    (∃ k ≤ (match most with
      | none => longest ps + 1
      | some n => n - least), ∃ p ∈ ps, (m.times k).Leads p q) ↔
      ∃ more, (∀ n, most = some n → more ≤ n - least) ∧ ∃ p ∈ ps, (m.times more).Leads p q := by
  cases most with
  | some n => simp
  | none =>
    simp only [reduceCtorEq, false_imp_iff, implies_true, true_and]
    refine ⟨fun ⟨k, _, h⟩ => ⟨k, h⟩, fun ⟨k, p, hp, leads⟩ => ?_⟩
    obtain ⟨_, j, short, reached⟩ := leads.exists_times_le
    obtain ⟨w, steps, _⟩ := leads
    have length := congrArg List.length steps.after
    have index := steps.index
    have longest := length_le_longest hp
    rw [List.length_append] at length
    exact ⟨j, by omega, p, hp, reached⟩

end Stretch

namespace Regex
open Stretch (Follows)
variable {cs : List Char}

theorem holds_iff {a : Assertion} {p : Place} : a.holds p = a.holds ⟨0, p.before, p.after⟩ := by
  cases a <;> rfl

theorem follows_ends (r : Regex) : Follows cs r.ends r.Matches := by
  induction r with
  | empty =>
    intro ps _ q
    constructor
    · exact fun hq => ⟨q, hq, [], Place.steps_nil_iff.2 rfl, rfl⟩
    · rintro ⟨p, hp, _, steps, rfl⟩
      obtain rfl := Place.steps_nil_iff.1 steps
      exact hp
  | set s =>
    intro ps _ q
    simp only [ends, List.mem_filterMap, Place.step?_eq_some_iff]
    refine exists_congr fun p => and_congr_right fun _ => ⟨?_, ?_⟩
    · rintro ⟨c, held, steps⟩
      exact ⟨[c], steps, c, held, rfl⟩
    · rintro ⟨_, steps, c, held, rfl⟩
      exact ⟨c, held, steps⟩
  | assert a =>
    intro ps _ q
    simp only [ends, List.mem_filter]
    constructor
    · rintro ⟨hq, held⟩
      exact ⟨q, hq, [], Place.steps_nil_iff.2 rfl, rfl, holds_iff ▸ held⟩
    · rintro ⟨p, hp, _, steps, rfl, held⟩
      obtain rfl := Place.steps_nil_iff.1 steps
      exact ⟨hp, holds_iff.trans held⟩
  | seq r s ihr ihs =>
    intro ps hps q
    have both (p : Place) : (seq r s).Matches.Leads p q ↔
        ∃ x, r.Matches.Leads p x ∧ s.Matches.Leads x q :=
      Stretch.leads_seq_iff fun _ _ _ => Iff.rfl
    rw [ends, ihs _ (ihr.stays hps)]
    simp only [both, ihr ps hps]
    constructor
    · rintro ⟨x, ⟨p, hp, one⟩, two⟩
      exact ⟨p, hp, x, one, two⟩
    · rintro ⟨p, hp, x, one, two⟩
      exact ⟨x, ⟨p, hp, one⟩, two⟩
  | alt r s ihr ihs =>
    intro ps hps q
    have either (p : Place) : (alt r s).Matches.Leads p q ↔
        r.Matches.Leads p q ∨ s.Matches.Leads p q := by
      simp only [Stretch.Leads, Matches, and_or_left, exists_or]
    rw [ends, List.mem_append, Stretch.mem_fresh_iff (ihr.stays hps) (ihs.stays hps)]
    simp only [either, ihr ps hps, ihs ps hps, and_or_left, exists_or]
    by_cases left : ∃ p ∈ ps, r.Matches.Leads p q <;> simp [left]
  | rep r least most ih =>
    intro ps hps q
    have first := ih.repeats least
    refine (ih.mem_within_self_iff (first.stays hps)).trans (Stretch.exists_rounds_iff.trans ?_)
    simp only [first ps hps]
    constructor
    · rintro ⟨more, limit, x, ⟨p, hp, one⟩, rest⟩
      obtain ⟨w, steps, h⟩ := Stretch.leads_times_add_iff.2 ⟨x, one, rest⟩
      exact ⟨p, hp, w, steps, more, limit, h⟩
    · rintro ⟨p, hp, w, steps, more, limit, h⟩
      obtain ⟨x, one, rest⟩ := Stretch.leads_times_add_iff.1 ⟨w, steps, h⟩
      exact ⟨more, limit, x, ⟨p, hp, one⟩, rest⟩
  | group index r ih => exact ih

/-- The search answers yes exactly if some stretch of the text is matched. -/
theorem search_eq_true_iff {r : Regex} {text : String} : r.search text = true ↔
    ∃ u w v, text.toList = u ++ w ++ v ∧ r.Matches u.getLast? w v := by
  have places : ∀ p ∈ Place.upward 0 none text.toList, p.Within text.toList :=
    fun p hp => Place.mem_upward_iff.1 hp
  rw [search, Bool.not_eq_true', List.isEmpty_eq_false_iff_exists_mem]
  simp only [follows_ends r _ places, Place.mem_upward_iff]
  constructor
  · rintro ⟨q, p, ⟨u, start⟩, w, steps, matched⟩
    refine ⟨u, w, q.after, ?_, ?_⟩
    · rw [List.append_assoc, ← steps.after]
      exact start.after
    · rwa [start.before, Option.or_none] at matched
  · rintro ⟨u, w, v, split, matched⟩
    rw [List.append_assoc] at split
    exact ⟨⟨u.length + w.length, w.getLast?.or u.getLast?, v⟩, ⟨u.length, u.getLast?, w ++ v⟩,
      ⟨u, split, (Nat.zero_add _).symm, Option.or_none.symm⟩, w, ⟨rfl, rfl, rfl⟩, matched⟩

end Regex

end RequestBinding
