/-! Splitting a list at separators. -/
namespace RequestBinding.Text

variable {α : Type} [DecidableEq α]

/-- The pieces between separators, one more than there are separators. -/
def splitOn (sep : α) : List α → List (List α)
  | [] => [[]]
  | a :: r =>
    if a = sep then [] :: splitOn sep r
    else match splitOn sep r with
      | [] => [[a]]
      | p :: ps => (a :: p) :: ps

def splitOnce? (sep : α) : List α → Option (List α × List α)
  | [] => none
  | a :: r =>
    if a = sep then some ([], r)
    else (splitOnce? sep r).map fun (p, q) => (a :: p, q)

theorem splitOn_ne_nil (sep : α) (l : List α) : splitOn sep l ≠ [] := by
  cases l with
  | nil => simp [splitOn]
  | cons a r =>
    simp only [splitOn]
    split
    · simp
    · split <;> simp

@[simp] theorem splitOn_nil (sep : α) : splitOn sep [] = [[]] := rfl

@[simp] theorem splitOn_cons_self (sep : α) (l : List α) :
    splitOn sep (sep :: l) = [] :: splitOn sep l := by
  simp [splitOn]

theorem not_mem_of_mem_splitOn {sep : α} {l p : List α} (h : p ∈ splitOn sep l) : sep ∉ p := by
  induction l generalizing p with
  | nil => simp_all [splitOn]
  | cons a r ih =>
    simp only [splitOn] at h
    split at h
    · simp only [List.mem_cons] at h
      rcases h with rfl | h
      · simp
      · exact ih h
    · next ha =>
      cases hs : splitOn sep r with
      | nil => exact absurd hs (splitOn_ne_nil sep r)
      | cons q qs =>
        rw [hs] at h ih
        simp only [List.mem_cons] at h
        rcases h with rfl | h
        · simp only [List.mem_cons, not_or]
          exact ⟨Ne.symm ha, ih (by simp)⟩
        · exact ih (by simp [h])

end RequestBinding.Text
