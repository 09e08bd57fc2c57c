import RequestBinding.Position
import RequestBinding.Proofs.Text.Pieces
import Mathlib.Algebra.Group.Nat.Defs

/-!
Lines and columns of places in a payload.  Main statement: the line and the column of a place, both
counted from one, lead back to its offset, and no line and column lead beyond the payload.
-/
namespace RequestBinding.Position

def lineStart (body : Bytes) (line : Nat) : Nat :=
  ((lines body).take (line - 1)).foldr (fun l n => l.length + 1 + n) 0

/-- The offset as words of so many bits give it, where a sum that is too large wraps around. -/
def wrappedOffset (bits : Nat) (body : Bytes) (line column : Nat) : Nat :=
  min ((lineStart body line + (column - 1)) % 2 ^ bits) body.length

theorem offsetOf_eq (body : Bytes) (line column : Nat) :
    offsetOf body line column = min (lineStart body line + (column - 1)) body.length := rfl

theorem wrappedOffset_eq_offsetOf {bits : Nat} {body : Bytes} {line column : Nat}
    (fits : lineStart body line + (column - 1) < 2 ^ bits) :
    wrappedOffset bits body line column = offsetOf body line column := by
  rw [wrappedOffset, Nat.mod_eq_of_lt fits, offsetOf_eq]

theorem sum_lines (read : Bytes) :
    (lines read).foldr (fun l n => l.length + 1 + n) 0 = read.length + 1 := by
  unfold lines
  induction read with
  | nil => rfl
  | cons b read ih =>
    rw [Text.splitOn]
    split
    · rw [List.foldr_cons, ih, List.length_nil, List.length_cons]
      omega
    · cases split : Text.splitOn newline read with
      | nil => exact absurd split (Text.splitOn_ne_nil newline read)
      | cons l ls =>
        rw [split, List.foldr_cons] at ih
        rw [List.foldr_cons, List.length_cons, List.length_cons]
        omega

theorem takeWhile_reverse_append {last : Bytes} (h : newline ∉ last) (before : Bytes) :
    (before ++ last).reverse.takeWhile (· != newline) =
      last.reverse ++ before.reverse.takeWhile (· != newline) := by
  have other : ∀ b ∈ last.reverse, (b != newline) = true := fun b hb =>
    bne_iff_ne.2 (ne_of_mem_of_not_mem (List.mem_reverse.1 hb) h)
  rw [List.reverse_append, List.takeWhile_append_of_pos other]

theorem columnAfter_append {last : Bytes} (h : newline ∉ last) (before : Bytes) :
    columnAfter (before ++ last) = last.length + columnAfter before := by
  rw [columnAfter, takeWhile_reverse_append h, List.length_append, List.length_reverse, columnAfter]

theorem columnAfter_newline (before : Bytes) : columnAfter (before ++ [newline]) = 0 := by
  rw [columnAfter, List.reverse_append]
  rfl

theorem lineAfter_append (before last : Bytes) :
    lineAfter (before ++ last) = lineAfter before + last.count newline := by
  rw [lineAfter, lineAfter, List.count_append, Nat.add_assoc]

theorem exists_line (read : Bytes) : ∃ before last, newline ∉ last ∧ read = before ++ last ∧
    (before = [] ∨ ∃ ended, before = ended ++ [newline]) := by
  by_cases h : newline ∈ read
  · obtain ⟨last, ended, split, fresh⟩ := List.eq_append_cons_of_mem (List.mem_reverse.2 h)
    refine ⟨ended.reverse ++ [newline], last.reverse, by simpa using fresh, ?_, .inr ⟨_, rfl⟩⟩
    rw [← List.reverse_reverse read, split]
    simp
  · exact ⟨[], read, h, rfl, .inl rfl⟩

theorem lineStart_of_ended (ended rest : Bytes) :
    lineStart (ended ++ newline :: rest) (lineAfter (ended ++ [newline])) = ended.length + 1 := by
  have ends : (lines ended).length = lineAfter (ended ++ [newline]) - 1 := by
    rw [lines, Text.length_splitOn, lineAfter_append, lineAfter, List.count_singleton_self]
    omega
  rw [lineStart, lines, Text.splitOn_append_cons, ← ends, lines, List.take_left, ← lines, sum_lines]

theorem lineStart_add_columnAfter (read unread : Bytes) :
    lineStart (read ++ unread) (lineAfter read) + columnAfter read = read.length := by
  obtain ⟨before, last, unended, rfl, rfl | ⟨ended, rfl⟩⟩ := exists_line read
  · have first : lineAfter ([] ++ last) - 1 = 0 := by
      simp [lineAfter, List.count_eq_zero.2 unended]
    rw [lineStart, first, columnAfter_append unended]
    simp [columnAfter]
  · have line : lineAfter (ended ++ [newline] ++ last) = lineAfter (ended ++ [newline]) := by
      rw [lineAfter_append (ended ++ [newline]), List.count_eq_zero.2 unended, Nat.add_zero]
    have split : ended ++ [newline] ++ last ++ unread = ended ++ newline :: (last ++ unread) := by
      simp
    rw [line, split, lineStart_of_ended, columnAfter_append unended, columnAfter_newline]
    simp
    omega

/-- The offset of a place is found from its line and its column, counted from one. -/
theorem offsetOf_lineAfter {body : Bytes} {i : Nat} (within : i ≤ body.length) :
    lineStart body (lineAfter (body.take i)) + columnAfter (body.take i) = i ∧
      offsetOf body (lineAfter (body.take i)) (columnAfter (body.take i) + 1) = i := by
  have sum : lineStart body (lineAfter (body.take i)) + columnAfter (body.take i) = i := by
    have read := lineStart_add_columnAfter (body.take i) (body.drop i)
    rwa [List.take_append_drop, List.length_take, Nat.min_eq_left within] at read
  exact ⟨sum, by rw [offsetOf_eq, Nat.add_sub_cancel, sum, Nat.min_eq_left within]⟩

/-- The line and the column of a place, counted from one, lead back to its offset, also if the sum
is taken in words that the length of the payload fits in.  No line and column lead beyond the
payload. -/
theorem offsetOf_inverts (body : Bytes) :
    (∀ i ≤ body.length,
      let line := lineAfter (body.take i)
      let column := columnAfter (body.take i) + 1
      offsetOf body line column = i ∧
        ∀ bits, body.length < 2 ^ bits → wrappedOffset bits body line column = i) ∧
    ∀ line column, offsetOf body line column ≤ body.length ∧
      ∀ bits, wrappedOffset bits body line column ≤ body.length := by
  refine ⟨fun i within => ?_, fun line column =>
    ⟨offsetOf_le body line column, fun bits => Nat.min_le_right _ _⟩⟩
  obtain ⟨sum, offset⟩ := offsetOf_lineAfter within
  refine ⟨offset, fun bits fits => ?_⟩
  rw [wrappedOffset_eq_offsetOf (by rw [Nat.add_sub_cancel, sum]; omega), offset]

theorem offsetOf_inverts_verses :
    let body : Bytes := Text.Utf8.encode "ab\n\ncd\n"
    (3 ≤ body.length ∧ lineAfter (body.take 3) = 2 ∧ columnAfter (body.take 3) + 1 = 1 ∧
      offsetOf body 2 1 = 3) ∧
    (7 ≤ body.length ∧ lineAfter (body.take 7) = 4 ∧ columnAfter (body.take 7) + 1 = 1 ∧
      offsetOf body 4 1 = 7) ∧
    body.length < 2 ^ 3 ∧ wrappedOffset 3 body 4 1 = 7 ∧
    offsetOf body 9 9 ≤ 7 := by
  intro body
  have inverts := offsetOf_inverts body
  exact ⟨⟨by decide, by decide, by decide, (inverts.1 3 (by decide)).1⟩,
    ⟨by decide, by decide, by decide, (inverts.1 7 (by decide)).1⟩, by decide,
    (inverts.1 7 (by decide)).2 3 (by decide), (inverts.2 9 9).1⟩

end RequestBinding.Position
