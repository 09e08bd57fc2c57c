import RequestBinding.Pattern.Compile
import RequestBinding.Proofs.Pattern.Texts
import Mathlib.Data.List.Forall2

/-!
Patterns that list texts.  Main statement: alternatives of plain characters are found exactly in the
texts that contain one of them, and one text that is not enormous is accepted, as are alternatives
so many that no automaton is built for them.
-/
namespace RequestBinding

namespace Pattern
open Text Reading

/-- The character stands for itself wherever it is in a pattern. -/
def IsPlain (c : Char) : Prop := c ∉ ['\\', '.', '^', '$', '|', '?', '*', '+', '(', ')', '[', '{']

/-- Characters as parts of a pattern, the first of which stands at `index`. -/
def literals (index : Nat) : List Char → List Written
  | [] => []
  | c :: cs => .literal { span := .one index, char := c } :: literals (index + 1) cs

def Branches.pushAll (bs : Branches) (parts : List Written) : Branches := parts.foldl .push bs

variable {c : Char} {cs t rest : List Char} {ts : List (List Char)} {index groups fuel : Nat}
  {names : List (String × Span)} {bs : Branches}

theorem expression_plain (plain : IsPlain c) :
    (expression (fuel + 1) none bs).run ⟨index, c :: rest, false, groups, names⟩ =
      (expression fuel none (bs.push (.literal { span := .one index, char := c }))).run
        ⟨index + 1, rest, false, groups, names⟩ := by
  simp only [IsPlain, List.mem_cons, List.not_mem_nil, or_false, not_or] at plain
  obtain ⟨backslash, dot, caret, dollar, bar, question, star, plus, opening, closing, bracket,
    brace⟩ := plain
  rw [expression]
  simp only [skipSpace, Reading.index, next?, StateT.run_bind, StateT.run_modify, StateT.run_get,
    pure_bind, Bool.false_eq_true, if_false, List.head?_cons, bind_assoc]
  split
  -- the other branches are for characters that are not plain
  all_goals try cases ‹some c = _›
  all_goals try contradiction
  next =>
    have noSign : ¬((signCounts? c).isSome = true ∨ c = '{') := by
      simp [signCounts?, question, star, plus, brace]
    rw [if_neg noSign, primitive]
    simp [Reading.index, advance, backslash, dot, caret, dollar]

theorem expression_text (plain : ∀ c ∈ t, IsPlain c) :
    (expression (fuel + t.length) none bs).run ⟨index, t ++ rest, false, groups, names⟩ =
      (expression fuel none (bs.pushAll (literals index t))).run
        ⟨index + t.length, rest, false, groups, names⟩ := by
  induction t generalizing index bs with
  | nil => rfl
  | cons c t ih =>
    obtain ⟨first, others⟩ := List.forall_mem_cons.1 plain
    rw [List.length_cons, ← Nat.add_assoc, List.cons_append, expression_plain first, ih others,
      Nat.add_right_comm, Nat.add_assoc]
    rfl

theorem expression_bar :
    (expression (fuel + 1) none bs).run ⟨index, '|' :: rest, false, groups, names⟩ =
      (expression fuel none
        ⟨bs.start, bs.current.toWritten index :: bs.finished, ⟨index + 1, []⟩⟩).run
          ⟨index + 1, rest, false, groups, names⟩ := rfl

theorem expression_end :
    (expression (fuel + 1) none bs).run ⟨index, [], false, groups, names⟩ =
      .ok (bs.toWritten index, ⟨index, [], false, groups, names⟩) := rfl

theorem pushAll_eq (bs : Branches) (ws : List Written) :
    bs.pushAll ws = { bs with current := ⟨bs.current.start, ws.reverse ++ bs.current.parts⟩ } := by
  induction ws generalizing bs with
  | nil => rfl
  | cons w ws ih =>
    show (bs.push w).pushAll ws = _
    rw [ih, List.reverse_cons, List.append_assoc]
    rfl

theorem expression_alternative {start begun : Nat} {finished : List Written}
    (plain : ∀ c ∈ t, IsPlain c) :
    (expression (fuel + t.length) none ⟨start, finished, ⟨begun, []⟩⟩).run
        ⟨index, t ++ rest, false, groups, names⟩ =
      (expression fuel none ⟨start, finished, ⟨begun, (literals index t).reverse⟩⟩).run
        ⟨index + t.length, rest, false, groups, names⟩ := by
  rw [expression_text plain, pushAll_eq, List.append_nil]

/-- The part means the expression, and is not nested too deep in the whole pattern or in one of its
alternatives. -/
structure Means (w : Written) (r : Regex) : Prop where
  nested : ∀ depth ≤ 1, w.checkNesting depth = .ok ()
  translate : w.translate.run .initial = .ok (r, .initial)

theorem checkPartsNesting_literals (depth index : Nat) (t : List Char) :
    checkPartsNesting depth (literals index t) = .ok () := by
  induction t generalizing index with
  | nil => rfl
  | cons c t ih => exact ih _

theorem translateAll_cons {w : Written} {ws : List Written} {r : Regex} {rs : List Regex}
    (first : w.translate.run .initial = .ok (r, .initial))
    (others : (translateAll ws).run .initial = .ok (rs, .initial)) :
    (translateAll (w :: ws)).run .initial = .ok (r :: rs, .initial) := by
  rw [translateAll, StateT.run_bind, first]
  show StateT.run (translateAll ws >>= fun rs => pure (r :: rs)) Modes.initial = _
  rw [StateT.run_bind, others]
  rfl

theorem translateAll_literals (index : Nat) (t : List Char) :
    (translateAll (literals index t)).run .initial = .ok (t.map .char, .initial) := by
  induction t generalizing index with
  | nil => rfl
  | cons c t ih => exact translateAll_cons rfl (ih _)

theorem toWritten_of_two_le {ps : Parts} {stop : Nat} (h : 2 ≤ ps.parts.length) :
    ps.toWritten stop = .sequence ⟨ps.start, stop⟩ ps.parts.reverse := by
  obtain ⟨start, _ | ⟨p, _ | ⟨q, parts⟩⟩⟩ := ps
  · cases h
  · exact absurd h (by simp)
  · rfl

theorem length_literals (index : Nat) (t : List Char) : (literals index t).length = t.length := by
  induction t generalizing index with
  | nil => rfl
  | cons c t ih => exact congrArg (· + 1) (ih _)

theorem means_text (start stop index : Nat) (t : List Char) :
    Means (Parts.toWritten ⟨start, (literals index t).reverse⟩ stop) (.text t) := by
  match t with
  | [] => exact ⟨fun _ _ => rfl, rfl⟩
  | [c] => exact ⟨fun _ _ => rfl, rfl⟩
  | c :: d :: t =>
    rw [toWritten_of_two_le (by simp [length_literals]), List.reverse_reverse]
    constructor
    · intro depth le
      have room : depth < nestingLimit := by
        simp only [nestingLimit]
        omega
      rw [Written.checkNesting, descend, if_pos room]
      exact checkPartsNesting_literals _ _ _
    · rw [Written.translate, StateT.run_bind, translateAll_literals]
      exact congrArg (fun r => Except.ok (r, Modes.initial)) (Regex.concat_chars _)

/-- The texts are read one after another; what has been read before them stays. -/
theorem expression_texts (start begun index groups : Nat) (names : List (String × Span))
    {finished : List Written} {rs : List Regex} (plain : ∀ u ∈ t :: ts, ∀ c ∈ u, IsPlain c)
    (before : List.Forall₂ Means finished rs)
    (enough : (t ++ ts.flatMap ('|' :: ·)).length < fuel) :
    ∃ (bs : Branches) (c : Cursor), (expression fuel none ⟨start, finished, ⟨begun, []⟩⟩).run
        ⟨index, t ++ ts.flatMap ('|' :: ·), false, groups, names⟩ = .ok (bs.toWritten c.index, c) ∧
      List.Forall₂ Means (bs.current.toWritten c.index :: bs.finished)
        (((t :: ts).map Regex.text).reverse ++ rs) := by
  induction ts generalizing t fuel index begun finished rs with
  | nil =>
    obtain ⟨k, rfl⟩ : ∃ k, fuel = k + 1 + t.length := by
      rw [List.flatMap_nil, List.append_nil] at enough
      exact ⟨fuel - t.length - 1, by omega⟩
    rw [expression_alternative (List.forall_mem_cons.1 plain).1]
    refine ⟨_, ⟨index + t.length, [], false, groups, names⟩, expression_end, ?_⟩
    exact .cons (means_text ..) before
  | cons u ts ih =>
    obtain ⟨first, others⟩ := List.forall_mem_cons.1 plain
    rw [List.flatMap_cons, List.cons_append] at enough ⊢
    obtain ⟨k, rfl⟩ : ∃ k, fuel = k + 1 + t.length := by
      rw [List.length_append] at enough
      exact ⟨fuel - t.length - 1, by omega⟩
    have room : (u ++ ts.flatMap ('|' :: ·)).length < k := by
      rw [List.length_append, List.length_cons] at enough
      omega
    rw [expression_alternative first, expression_bar]
    obtain ⟨bs, c, read, means⟩ := ih _ _ others (.cons (means_text ..) before) room
    exact ⟨bs, c, read, by simpa using means⟩

theorem checkPartsNesting_of_means {ws : List Written} {rs : List Regex}
    (h : List.Forall₂ Means ws rs) : checkPartsNesting 1 ws = .ok () := by
  induction h with
  | nil => rfl
  | cons means _ ih => rw [checkPartsNesting, means.nested 1 (Nat.le_refl 1)]; exact ih

theorem translateAll_of_means {ws : List Written} {rs : List Regex}
    (h : List.Forall₂ Means ws rs) : (translateAll ws).run .initial = .ok (rs, .initial) := by
  induction h with
  | nil => rfl
  | cons means _ ih => exact translateAll_cons means.translate ih

theorem toWritten_of_means {bs : Branches} {stop : Nat}
    (h : List.Forall₂ Means (bs.current.toWritten stop :: bs.finished)
      (ts.map Regex.text).reverse) :
    (bs.toWritten stop).checkNesting 0 = .ok () ∧
      (bs.toWritten stop).meaning = .ok (.either (ts.map .text)) := by
  obtain ⟨start, finished, current⟩ := bs
  have forward := List.rel_reverse h
  rw [List.reverse_reverse] at forward
  cases finished with
  | nil =>
    obtain _ | ⟨u, _ | ⟨v, us⟩⟩ := ts
    · cases forward
    · obtain _ | ⟨means, _⟩ := forward
      rw [List.map_singleton, Regex.either_text]
      exact ⟨means.nested 0 (Nat.zero_le 1), congrArg (Except.map Prod.fst) means.translate⟩
    · obtain _ | ⟨_, ⟨⟩⟩ := forward
  | cons w ws =>
    refine ⟨checkPartsNesting_of_means forward, ?_⟩
    show Except.map Prod.fst ((Written.either _ _).translate.run .initial) = _
    rw [Written.translate, StateT.run_bind, translateAll_of_means forward]
    rfl

theorem meaning_texts (plain : ∀ u ∈ t :: ts, ∀ c ∈ u, IsPlain c) :
    meaning (String.ofList (t ++ ts.flatMap ('|' :: ·))) =
      .ok (.either ((t :: ts).map .text)) := by
  obtain ⟨bs, c, whole, means⟩ := expression_texts 0 0 0 0 [] plain .nil (Nat.lt_succ_self _)
  have read : read (String.ofList (t ++ ts.flatMap ('|' :: ·))) = .ok (bs.toWritten c.index) := by
    rw [Pattern.read, String.toList_ofList]
    exact congrArg (Except.map Prod.fst) whole
  rw [List.append_nil] at means
  obtain ⟨nested, meant⟩ := toWritten_of_means means
  rw [meaning, read]
  show ((bs.toWritten c.index).checkNesting 0 >>= fun _ => (bs.toWritten c.index).meaning) = _
  rw [nested, ← meant]
  rfl

/-- Alternatives of plain characters are found in the texts that contain one of them.  The pattern
is accepted if it is one text that is not enormous, or so many that no automaton is built. -/
theorem compile_texts (plain : ∀ u ∈ t :: ts, ∀ c ∈ u, IsPlain c)
    (room : ts = [] ∧ 32 * Automaton.octets t + 240 ≤ Automaton.sizeLimit ∨
      2999 ≤ ts.length ∧ (∀ u ∈ t :: ts, u ≠ []) ∧ ∃ u ∈ t :: ts, 2 ≤ u.length) :
    ∃ r, compile (String.ofList (t ++ ts.flatMap ('|' :: ·))) = .ok r ∧
      ∀ text, r.search text = true ↔ ∃ u ∈ t :: ts, u <:+: text.toList := by
  refine ⟨_, ?_, fun text => Regex.search_texts_iff⟩
  have fits : (Regex.either ((t :: ts).map .text)).fits = true := by
    obtain ⟨rfl, small⟩ | ⟨many, some, long⟩ := room
    · rw [List.map_singleton, Regex.either_text]
      exact Regex.fits_text small
    · rw [Regex.either_texts (by rw [List.length_cons]; omega) some long]
      exact Regex.fits_texts (by rw [List.length_cons]; omega) some
  rw [compile, meaning_texts plain]
  exact if_pos fits

end Pattern

end RequestBinding
