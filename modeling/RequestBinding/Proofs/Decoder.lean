import RequestBinding.Decoder
import RequestBinding.Proofs.Json.Reading
import RequestBinding.Proofs.Position

/-!
The places of undecodable bodies.  Main statement: a place is counted from one and says where it is
exactly if the last byte that was read of the body is not a line end.
-/
namespace RequestBinding

namespace Position
variable {body : Bytes}

/-- A place in the payload that is counted from one: as many lines end before its offset as come
before its line, and as many bytes of its line as come before its column. -/
structure Faithful (body : Bytes) (p : Position) : Prop where
  line_pos : 1 ≤ p.line
  column_pos : 1 ≤ p.column
  offset_le : p.offset ≤ body.length
  line_eq : (body.take p.offset).count newline = p.line - 1
  column_eq : columnAfter (body.take p.offset) = p.column - 1

theorem columnAfter_concat {b : UInt8} (other : b ≠ newline) (read : Bytes) :
    columnAfter (read ++ [b]) = columnAfter read + 1 := by
  rw [columnAfter_append (by simpa using other.symm), List.length_singleton, Nat.add_comm]

theorem lineAfter_concat {b : UInt8} (other : b ≠ newline) (read : Bytes) :
    lineAfter (read ++ [b]) = lineAfter read := by
  rw [lineAfter_append, List.count_singleton, if_neg (by simpa using other), Nat.add_zero]

theorem after_succ {i : Nat} {b : UInt8} (last : body[i]? = some b) (other : b ≠ newline) :
    after body (i + 1) =
      ⟨i, lineAfter (body.take i), columnAfter (body.take i) + 1⟩ := by
  obtain ⟨within, _⟩ := List.getElem?_eq_some_iff.1 last
  have read : body.take (i + 1) = body.take i ++ [b] := by
    rw [List.take_add_one, last, Option.toList_some]
  have offset := (offsetOf_lineAfter (Nat.le_of_lt within)).2
  unfold after
  dsimp only
  rw [read, lineAfter_concat other, columnAfter_concat other, offset]

theorem after_of_columnAfter_eq_zero {i : Nat} (within : i ≤ body.length)
    (ended : columnAfter (body.take i) = 0) : after body i = ⟨i, lineAfter (body.take i), 0⟩ := by
  have offset := (offsetOf_lineAfter within).2
  rw [ended, offsetOf_eq] at offset
  unfold after
  dsimp only
  rw [ended, offsetOf_eq, offset]

theorem last_read {n : Nat} (within : n ≤ body.length) :
    (∃ i b, n = i + 1 ∧ body[i]? = some b ∧ b ≠ newline) ∨
      (n = 0 ∨ body[n - 1]? = some newline) ∧ columnAfter (body.take n) = 0 := by
  cases n with
  | zero => exact .inr ⟨.inl rfl, rfl⟩
  | succ i =>
    have last : body[i]? = some body[i] := List.getElem?_eq_getElem within
    by_cases ended : body[i] = newline
    · rw [ended] at last
      refine .inr ⟨.inr last, ?_⟩
      rw [List.take_add_one, last, Option.toList_some, columnAfter_newline]
    · exact .inl ⟨i, body[i], rfl, last, ended⟩

/-- A place is counted from one exactly if the last byte that was read ends no line; else it is the
offset of the line that follows, and its column is zero. -/
theorem after_faithful_iff {n : Nat} (within : n ≤ body.length) :
    ((after body n).Faithful body ↔ 0 < n ∧ body[n - 1]? ≠ some newline) ∧
      (¬(after body n).Faithful body → after body n = ⟨n, lineAfter (body.take n), 0⟩) := by
  rcases last_read within with ⟨i, b, rfl, last, other⟩ | ⟨ended, first⟩
  · have place := after_succ last other
    have faithful : (after body (i + 1)).Faithful body := by
      rw [place]
      exact ⟨Nat.le_add_right 1 _, Nat.succ_pos _, Nat.le_of_succ_le within,
        (Nat.add_sub_cancel_left 1 _).symm, rfl⟩
    have open_line : body[i + 1 - 1]? ≠ some newline := by simpa [last] using other
    exact ⟨iff_of_true faithful ⟨Nat.succ_pos i, open_line⟩, fun h => absurd faithful h⟩
  · have place := after_of_columnAfter_eq_zero within first
    refine ⟨iff_of_false (fun faithful => ?_) fun ⟨begun, open_line⟩ => ?_, fun _ => place⟩
    · have column := faithful.column_pos
      rw [place] at column
      exact absurd column (Nat.not_succ_le_zero 0)
    · exact ended.elim (Nat.ne_of_gt begun) open_line

end Position

namespace Decoder
variable {body : Bytes}

theorem json_decode_of_ok {j : Json} (h : Json.parse body = .ok j) :
    json.decode body = .ok (.ofJson j) := by
  simp only [json, h]

theorem json_decode_of_error {stop : Json.ParseError} (h : Json.parse body = .error stop) :
    json.decode body = .error (.ofParse body stop) := by
  simp only [json, h]

open Position in
/-- A body that cannot be decoded is read up to the byte that is refused, or to its end if it ends
too soon.  The place that is told is counted from one, and says where it is, exactly if at least one
byte was read and the last one ends no line.  Where it does, the place is told as column zero of the
line that follows. -/
theorem json_place_faithful_iff {e : DecodeError} (undecodable : json.decode body = .error e) :
    ∃ stop place, Json.parse body = .error stop ∧ e.position = some place ∧
      stop.consumed ≤ body.length ∧ (stop.problem.isEnd = true → stop.consumed = body.length) ∧
      (place.Faithful body ↔ body ≠ [] ∧ body[stop.consumed - 1]? ≠ some newline) ∧
      (¬place.Faithful body →
        place = ⟨stop.consumed, lineAfter (body.take stop.consumed), 0⟩) := by
  cases parsed : Json.parse body with
  | ok j =>
    rw [json_decode_of_ok parsed] at undecodable
    cases undecodable
  | error stop =>
    rw [json_decode_of_error parsed] at undecodable
    cases undecodable
    obtain ⟨within, ends, begins⟩ := Json.consumed_of_parse parsed
    obtain ⟨faithful, line⟩ := after_faithful_iff within
    have begun : 0 < stop.consumed ↔ body ≠ [] := by
      refine ⟨?_, begins⟩
      rintro first rfl
      exact absurd within (Nat.not_le_of_gt first)
    refine ⟨stop, after body stop.consumed, rfl, rfl, within, ends, ?_, line⟩
    rw [faithful, begun]

theorem json_place_faithful_comma :
    let body := Text.Utf8.encode "[1,\n]"
    ∃ e, json.decode body = .error e ∧ e.position = some ⟨4, 2, 1⟩ ∧
      (⟨4, 2, 1⟩ : Position).Faithful body := by
  intro body
  have parsed : Json.parse body = .error ⟨.trailingComma, 5⟩ := rfl
  have undecodable : json.decode body = .error (.ofParse body ⟨.trailingComma, 5⟩) :=
    json_decode_of_error parsed
  have told : (DecodeError.ofParse body ⟨.trailingComma, 5⟩).position = some ⟨4, 2, 1⟩ :=
    congrArg some (by decide : Position.after body 5 = ⟨4, 2, 1⟩)
  obtain ⟨stop, place, stopped, position, _, _, faithful, _⟩ := json_place_faithful_iff undecodable
  obtain rfl := Except.error.inj (stopped.symm.trans parsed)
  obtain rfl := Option.some.inj (position.symm.trans told)
  exact ⟨_, undecodable, told, faithful.2 ⟨by decide, by decide⟩⟩

/-- An object ends with its first line. -/
theorem json_place_unfaithful :
    let body := Text.Utf8.encode "\x7b\n"
    ∃ e, json.decode body = .error e ∧ e.position = some ⟨2, 2, 0⟩ ∧
      ¬(⟨2, 2, 0⟩ : Position).Faithful body := by
  intro body
  have parsed : Json.parse body = .error ⟨.endInObject, 2⟩ := rfl
  have told : Position.after body 2 = ⟨2, 2, 0⟩ := by decide
  refine ⟨_, json_decode_of_error parsed, congrArg some told, fun faithful => ?_⟩
  exact absurd faithful.column_pos (by decide)

end Decoder

end RequestBinding
