/-! Sets of code points given as ranges with both ends included. -/
namespace RequestBinding.Text

def inRanges (table : List (Nat × Nat)) (c : Char) : Bool :=
  table.any fun r => r.1 ≤ c.toNat && c.toNat ≤ r.2

theorem inRanges_iff {table : List (Nat × Nat)} {c : Char} :
    inRanges table c = true ↔ ∃ r ∈ table, r.1 ≤ c.toNat ∧ c.toNat ≤ r.2 := by
  simp [inRanges]

@[simp] theorem inRanges_nil (c : Char) : inRanges [] c = false := rfl

end RequestBinding.Text
