import RequestBinding.Text.Blank
import RequestBinding.Text.Split
import Mathlib.Data.List.TakeWhile

/-!
Taking texts apart.  Main statements: what is joined by separators comes apart into the same pieces
as long as no piece holds the separator, there is one more piece than there are separators, and
trimming takes off margins and nothing else.
-/
namespace RequestBinding.Text

section
variable {α : Type} [DecidableEq α] {sep : α} {l : List α} {ps : List (List α)}

theorem splitOn_append_cons (sep : α) (l r : List α) :
    splitOn sep (l ++ sep :: r) = splitOn sep l ++ splitOn sep r := by
  induction l with
  | nil => simp
  | cons a l ih =>
    rw [List.cons_append, splitOn, splitOn, ih]
    split
    · rfl
    · cases split : splitOn sep l with
      | nil => exact absurd split (splitOn_ne_nil sep l)
      | cons p ps => rfl

theorem splitOn_of_not_mem (h : sep ∉ l) : splitOn sep l = [l] := by
  induction l with
  | nil => rfl
  | cons a l ih =>
    have apart : a ≠ sep := fun same => h (by simp [same])
    rw [splitOn, if_neg apart, ih fun later => h (List.mem_cons_of_mem a later)]

theorem length_splitOn (sep : α) (l : List α) : (splitOn sep l).length = l.count sep + 1 := by
  induction l with
  | nil => rfl
  | cons a l ih =>
    rw [splitOn]
    split
    · next same => rw [List.length_cons, ih, same, List.count_cons_self]
    · next apart =>
      rw [List.count_cons_of_ne apart, ← ih]
      cases split : splitOn sep l with
      | nil => exact absurd split (splitOn_ne_nil sep l)
      | cons p ps => rfl

theorem splitOn_intercalate (free : ∀ p ∈ ps, sep ∉ p) (some : ps ≠ []) :
    splitOn sep ([sep].intercalate ps) = ps := by
  induction ps with
  | nil => exact absurd rfl some
  | cons p ps ih =>
    obtain ⟨here, later⟩ := List.forall_mem_cons.1 free
    cases ps with
    | nil => rw [List.intercalate_singleton, splitOn_of_not_mem here]
    | cons q ps =>
      rw [List.intercalate_cons_cons, List.append_assoc, List.singleton_append, splitOn_append_cons,
        splitOn_of_not_mem here, ih later (List.cons_ne_nil q ps), List.singleton_append]

theorem splitOnce?_append_cons (h : sep ∉ l) (r : List α) :
    splitOnce? sep (l ++ sep :: r) = some (l, r) := by
  induction l with
  | nil => simp [splitOnce?]
  | cons a l ih =>
    have apart : a ≠ sep := fun same => h (by simp [same])
    have later : sep ∉ l := fun there => h (List.mem_cons_of_mem a there)
    rw [List.cons_append, splitOnce?, if_neg apart, ih later, Option.map_some]

end

section
variable {p : Char → Bool} {before cs after : List Char}

theorem trimWhere_append_left (h : ∀ c ∈ before, p c = true) :
    trimWhere p (before ++ cs) = trimWhere p cs := by
  simp only [trimWhere, List.dropWhile_append_of_pos h]

theorem trimWhere_append_right (h : ∀ c ∈ after, p c = true) :
    trimWhere p (cs ++ after) = trimWhere p cs := by
  have reversed : ∀ c ∈ after.reverse, p c = true := by simpa using h
  simp only [trimWhere, List.dropWhile_append]
  split
  · next none =>
    have cs_nil : cs.dropWhile p = [] := by simpa using none
    have after_nil : after.dropWhile p = [] := List.dropWhile_eq_nil_iff.2 h
    rw [cs_nil, after_nil]
  · rw [List.reverse_append, List.dropWhile_append_of_pos reversed]

def Trimmed (p : Char → Bool) (cs : List Char) : Prop :=
  (∀ c ∈ cs.head?, p c = false) ∧ ∀ c ∈ cs.getLast?, p c = false

instance (p : Char → Bool) (cs : List Char) : Decidable (Trimmed p cs) :=
  decidable_of_iff (cs.head?.all (!p ·) ∧ cs.getLast?.all (!p ·))
    (by simp [Trimmed, Option.all_eq_true])

theorem Trimmed.trimWhere_margins (h : Trimmed p cs) (left : ∀ c ∈ before, p c = true)
    (right : ∀ c ∈ after, p c = true) : trimWhere p (before ++ cs ++ after) = cs := by
  rw [trimWhere_append_right right, trimWhere_append_left left, trimWhere_eq_self h.1 h.2]

end

end RequestBinding.Text
