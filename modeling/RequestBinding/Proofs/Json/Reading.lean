import RequestBinding.Json.Parser
import Mathlib.Data.List.Infix

/-!
Where reading a document stops.  Main statement: bytes that are no document are read up to the byte
that is refused, or to their end where they end too soon; at least one byte is read if there is one.
-/
namespace RequestBinding.Json
variable {α β : Type} {bs cs rest : Bytes}

def Problem.isEnd : Problem → Bool
  | .endInValue | .endInList | .endInObject | .endInString => true
  | _ => false

/-- A reader leaves the bytes after those that it has read, and leaves none if it stops because they
end too soon. -/
inductive Reads (bs : Bytes) : Except Stop (α × Bytes) → Prop
  | read (x : α) {rest : Bytes} (left : rest <:+ bs) : Reads bs (.ok (x, rest))
  | stops {stop : Stop} (left : stop.unread <:+ bs)
    (ends : stop.problem.isEnd = true → stop.unread = []) : Reads bs (.error stop)

/-- A reader reads at least one byte if there is one. -/
def Advances (bs : Bytes) (x : Except Stop (α × Bytes)) : Prop :=
  ∃ r, r <:+ bs ∧ (bs = [] ∨ r.length < bs.length) ∧ Reads r x

theorem Reads.mono {x : Except Stop (α × Bytes)} (h : Reads bs x) (later : bs <:+ cs) :
    Reads cs x := by
  cases h with
  | read x left => exact .read x (left.trans later)
  | stops left ends => exact .stops (left.trans later) ends

theorem Advances.reads {x : Except Stop (α × Bytes)} (h : Advances bs x) : Reads bs x := by
  obtain ⟨_, later, _, reads⟩ := h
  exact reads.mono later

/-- Reading goes on with what is left; `cs` are the bytes from which all of it is seen. -/
theorem Reads.bind {m : Except Stop (α × Bytes)} {f : α × Bytes → Except Stop (β × Bytes)}
    (h : Reads bs m) (later : bs <:+ cs)
    (next : ∀ x rest, rest <:+ bs → Reads cs (f (x, rest))) : Reads cs (m >>= f) := by
  cases h with
  | read x left => exact next x _ left
  | stops left ends => exact .stops (left.trans later) ends

theorem Reads.ite {p : Prop} [Decidable p] {x y : Except Stop (α × Bytes)} (yes : Reads bs x)
    (no : Reads bs y) : Reads bs (if p then x else y) := by
  split
  · exact yes
  · exact no

theorem Advances.bind {m : Except Stop (α × Bytes)} {f : α × Bytes → Except Stop (β × Bytes)}
    (h : Advances bs m) (some : bs ≠ [])
    (next : ∀ x rest, rest.length < bs.length → Reads rest (f (x, rest))) : Reads bs (m >>= f) := by
  obtain ⟨r, later, less, reads⟩ := h
  refine reads.bind later fun x rest left => (next x rest ?_).mono (left.trans later)
  exact Nat.lt_of_le_of_lt left.length_le (less.resolve_left some)

theorem reads_ended {problem : Problem} : Reads (α := α) bs (stopAt problem []) :=
  .stops (List.nil_suffix) fun _ => rfl

theorem reads_stopAt {problem : Problem} (other : problem.isEnd = false) (left : rest <:+ bs) :
    Reads (α := α) bs (stopAt problem rest) :=
  .stops left fun ends => absurd (ends.symm.trans other) (by decide)

theorem reads_stopOn {problem : Problem} (other : problem.isEnd = false) :
    Reads (α := α) bs (stopOn problem bs) :=
  reads_stopAt other (List.drop_suffix 1 bs)

theorem skipSpace_suffix (bs : Bytes) : skipSpace bs <:+ bs := List.dropWhile_suffix _

theorem tail_suffix_of_skipSpace {b : UInt8} {r : Bytes} (h : skipSpace bs = b :: r) : r <:+ bs :=
  (List.suffix_cons b r).trans (h ▸ skipSpace_suffix bs)

theorem length_lt_of_skipSpace {b : UInt8} {r : Bytes} (h : skipSpace bs = b :: r) :
    r.length < bs.length := by
  have := (skipSpace_suffix bs).length_le
  rw [h] at this
  exact this

theorem reads_ident (expected bs : Bytes) : Reads bs (ident expected bs) := by
  induction expected generalizing bs with
  | nil => exact .read () List.suffix_rfl
  | cons e es ih =>
    cases bs with
    | nil => exact reads_ended
    | cons b r =>
      rw [ident]
      split
      · exact (ih r).mono (List.suffix_cons b r)
      · exact reads_stopAt rfl (List.suffix_cons b r)

theorem reads_hexEscape (bs : Bytes) : Reads bs (hexEscape bs) := by
  unfold hexEscape
  split
  · next a b c d r =>
    have left : r <:+ a :: b :: c :: d :: r := ⟨[a, b, c, d], rfl⟩
    split
    · exact .read _ left
    · exact reads_stopAt rfl left
  · exact reads_ended

theorem reads_lowSurrogate (high : Nat) (bs : Bytes) : Reads bs (lowSurrogate high bs) := by
  unfold lowSurrogate
  split
  · exact reads_ended
  · next b r =>
    refine Reads.mono ?_ (List.suffix_cons b r)
    split
    · exact reads_stopAt rfl List.suffix_rfl
    · split
      · exact reads_ended
      · next u r =>
        refine Reads.mono ?_ (List.suffix_cons u r)
        split
        · exact reads_stopAt rfl List.suffix_rfl
        · refine (reads_hexEscape r).bind List.suffix_rfl fun low rest left => ?_
          exact .ite (reads_stopAt rfl left) (.read _ left)

theorem reads_escape (bs : Bytes) : Reads bs (escape bs) := by
  cases bs with
  | nil => exact reads_ended
  | cons b r =>
    have plain (c : Char) : Reads r (.ok (c, r)) := .read c List.suffix_rfl
    refine Reads.mono ?_ (List.suffix_cons b r)
    refine .ite (plain _) (.ite (plain _) (.ite (plain _) (.ite (plain _) (.ite (plain _)
      (.ite (plain _) (.ite (plain _) (.ite (plain _) (.ite ?_
        (reads_stopAt rfl List.suffix_rfl)))))))))
    refine (reads_hexEscape r).bind List.suffix_rfl fun n rest left => ?_
    exact .ite (reads_stopAt rfl left) (.ite ((reads_lowSurrogate n rest).mono left) (.read _ left))

theorem reads_closeString {body : Bytes} (left : rest <:+ body) (content : Bytes) :
    Reads body (closeString body content rest) := by
  unfold closeString
  split
  · exact .read _ left
  · exact reads_stopAt rfl (List.drop_suffix _ _)

theorem reads_stringRest {body : Bytes} (fuel : Nat) (content : Bytes) (left : bs <:+ body) :
    Reads body (stringRest body fuel content bs) := by
  induction fuel generalizing content bs with
  | zero => exact reads_ended
  | succ fuel ih =>
    have after : bs.dropWhile isPlain <:+ body := (List.dropWhile_suffix _).trans left
    unfold stringRest
    dsimp only
    split
    · exact reads_ended
    · next b r found =>
      have later : r <:+ body := (List.suffix_cons b r).trans (found ▸ after)
      refine .ite (reads_closeString later _) (.ite ?_ (reads_stopAt rfl later))
      exact (reads_escape r).bind later fun c rest left => ih _ (left.trans later)

theorem reads_stringBody (bs : Bytes) : Reads bs (stringBody bs) :=
  reads_stringRest _ _ List.suffix_rfl

theorem significand_suffix (acc : Nat) (bs : Bytes) : (significand acc bs).2.2 <:+ bs := by
  induction bs generalizing acc with
  | nil => exact List.suffix_rfl
  | cons b r ih =>
    unfold significand
    split
    · exact List.suffix_rfl
    · split
      · exact List.suffix_rfl
      · exact (ih _).trans (List.suffix_cons b r)

theorem skipDigits_suffix (bs : Bytes) : (skipDigits bs).2 <:+ bs := List.dropWhile_suffix _

theorem reads_assemble (negative : Bool) (m : Nat) (e : Int) (bs : Bytes) :
    Reads bs (assemble negative m e bs) := by
  unfold assemble
  split
  · exact .read _ List.suffix_rfl
  · exact reads_stopAt rfl List.suffix_rfl

theorem reads_exponentDigits (negative : Bool) (m : Nat) (start : Int) (below : Bool) (acc : Nat)
    (bs : Bytes) : Reads bs (exponentDigits negative m start below acc bs) := by
  induction bs generalizing acc with
  | nil => exact reads_assemble ..
  | cons b r ih =>
    unfold exponentDigits
    split
    · exact reads_assemble ..
    · refine Reads.mono (.ite (.ite ?_ ?_) (ih _)) (List.suffix_cons b r)
      · exact reads_stopAt rfl List.suffix_rfl
      · exact .read _ (skipDigits_suffix r)

theorem reads_exponent (negative : Bool) (m : Nat) (start : Int) (bs : Bytes) :
    Reads bs (exponent negative m start bs) := by
  unfold exponent
  split
  next below rest sign =>
    have left : rest <:+ bs := by
      split at sign
      · next b r =>
        have later : r <:+ b :: r := List.suffix_cons b r
        split at sign
        · cases sign
          exact later
        · split at sign
          · cases sign
            exact later
          · cases sign
            exact List.suffix_rfl
      · cases sign
        exact List.suffix_rfl
    refine Reads.mono ?_ left
    cases rest with
    | nil => exact reads_ended
    | cons b r =>
      refine Reads.mono ?_ (List.suffix_cons b r)
      dsimp only
      split
      · exact reads_stopAt rfl List.suffix_rfl
      · exact reads_exponentDigits ..

theorem reads_exponentOr (negative : Bool) (m : Nat) (e : Int) (bs : Bytes) :
    Reads bs (exponentOr negative m e bs) := by
  cases bs with
  | nil => exact reads_assemble ..
  | cons b r =>
    exact .ite ((reads_exponent negative m e r).mono (List.suffix_cons b r)) (reads_assemble ..)

theorem reads_fraction (negative : Bool) (m : Nat) (start : Int) (bs : Bytes) :
    Reads bs (fraction negative m start bs) := by
  unfold fraction
  rcases found : significand m bs with ⟨n, taken, rest⟩
  have left : rest <:+ bs := by simpa [found] using significand_suffix m bs
  refine Reads.mono ?_ left
  cases rest with
  | nil => exact .ite reads_ended (reads_assemble ..)
  | cons b r =>
    exact .ite ((reads_exponentOr ..).mono (skipDigits_suffix _))
      (.ite (reads_stopOn rfl) (reads_exponentOr ..))

theorem reads_afterWhole (negative : Bool) (m : Nat) (places : Nat)
    {whole : Except Stop (Number × Bytes)} (h : Reads bs whole) :
    Reads bs (afterWhole negative m places whole bs) := by
  cases bs with
  | nil => exact h
  | cons b r =>
    have later : r <:+ b :: r := List.suffix_cons b r
    exact .ite ((reads_fraction ..).mono later) (.ite ((reads_exponent ..).mono later) h)

theorem reads_wholeNumber (negative : Bool) (m : Nat) (bs : Bytes) :
    Reads bs (wholeNumber negative m bs) :=
  .ite (.read _ List.suffix_rfl) (.ite (.read _ List.suffix_rfl) (.read _ List.suffix_rfl))

theorem reads_unsigned_cons (negative : Bool) (b : UInt8) (r : Bytes) :
    Reads r (unsigned negative (b :: r)) := by
  unfold unsigned
  dsimp only
  split
  · exact reads_stopAt rfl List.suffix_rfl
  · cases r with
    | nil => exact reads_wholeNumber ..
    | cons c r => exact .ite (reads_stopOn rfl) (reads_afterWhole _ _ _ (reads_wholeNumber ..))
  · next d _ _ =>
    rcases found : significand d r with ⟨m, taken, rest⟩
    have left : rest <:+ r := by simpa [found] using significand_suffix d r
    refine Reads.mono ?_ left
    dsimp only
    exact .ite (reads_afterWhole _ _ _ (reads_wholeNumber ..))
      ((reads_afterWhole _ _ _ (reads_assemble ..)).mono (skipDigits_suffix rest))

theorem reads_unsigned (negative : Bool) (bs : Bytes) : Reads bs (unsigned negative bs) := by
  cases bs with
  | nil => exact reads_ended
  | cons b r => exact (reads_unsigned_cons negative b r).mono (List.suffix_cons b r)

theorem Reads.map {m : Except Stop (α × Bytes)} (h : Reads bs m) (f : α → β) :
    Reads bs (m >>= fun p => pure (f p.1, p.2)) :=
  h.bind List.suffix_rfl fun x _ left => .read (f x) left

theorem reads_scalar (b : UInt8) (r : Bytes) : Reads r (scalar b r) := by
  have name (expected : Bytes) (j : Json) :
      Reads r (ident expected r >>= fun p => pure (j, p.2)) :=
    (reads_ident expected r).map fun _ => j
  exact .ite (name _ _) (.ite (name _ _) (.ite (name _ _) (.ite ((reads_stringBody r).map _)
    (.ite ((reads_unsigned true r).map _) (.ite ((reads_unsigned_cons false b r).map _)
      (reads_stopAt rfl List.suffix_rfl))))))

section
variable {value : Bytes → Except Stop (Json × Bytes)}

/-- The bound on the items is never reached, for each takes a byte at least. -/
theorem reads_items (each : ∀ bs, Advances bs (value bs)) {fuel : Nat} (enough : bs.length < fuel)
    (first : Bool) (acc : List Json) : Reads bs (items value fuel first acc bs) := by
  induction fuel generalizing bs first acc with
  | zero => exact absurd enough (Nat.not_lt_zero _)
  | succ fuel ih =>
    have item {b : UInt8} {r : Bytes} (left : b :: r <:+ bs) :
        Reads bs (value (b :: r) >>= fun p => items value fuel false (p.1 :: acc) p.2) := by
      have most := left.length_le
      refine ((each (b :: r)).bind (List.cons_ne_nil b r) fun j rest less => ?_).mono left
      have bounded : rest.length < fuel := by omega
      exact ih bounded false (j :: acc)
    unfold items
    split
    · exact reads_ended
    · next b r found =>
      have left : b :: r <:+ bs := found ▸ skipSpace_suffix bs
      have later : r <:+ bs := (List.suffix_cons b r).trans left
      refine .ite (.read _ later) (.ite (item left) (.ite ?_ (reads_stopAt rfl later)))
      split
      · exact reads_ended
      · next c r' found =>
        have left : c :: r' <:+ bs := (found ▸ skipSpace_suffix r).trans later
        exact .ite (reads_stopAt rfl ((List.suffix_cons c r').trans left)) (item left)

theorem reads_member (each : ∀ bs, Advances bs (value bs)) (bs : Bytes) :
    Reads bs (member value bs) := by
  refine (reads_stringBody bs).bind List.suffix_rfl fun key rest left => Reads.mono ?_ left
  dsimp only
  split
  · exact reads_ended
  · next c r found =>
    have later := tail_suffix_of_skipSpace found
    exact .ite (((each r).reads.map _).mono later) (reads_stopAt rfl later)

theorem reads_members (each : ∀ bs, Advances bs (value bs)) {fuel : Nat} (enough : bs.length < fuel)
    (first : Bool) (acc : List (String × Json)) :
    Reads bs (members value fuel first acc bs) := by
  induction fuel generalizing bs first acc with
  | zero => exact absurd enough (Nat.not_lt_zero _)
  | succ fuel ih =>
    have pair {r : Bytes} (later : r <:+ bs) (less : r.length < bs.length) :
        Reads bs (member value r >>= fun p =>
          members value fuel false (insertMember p.1.1 p.1.2 acc) p.2) := by
      refine (reads_member each r).bind later fun p rest left => ?_
      have most := left.length_le
      have bounded : rest.length < fuel := by omega
      exact (ih bounded false (insertMember p.1 p.2 acc)).mono (left.trans later)
    unfold members
    split
    · exact reads_ended
    · next b r found =>
      have later := tail_suffix_of_skipSpace found
      have less := length_lt_of_skipSpace found
      refine .ite (.read _ later) (.ite (.ite (pair later less) (reads_stopAt rfl later))
        (.ite ?_ (reads_stopAt rfl later)))
      split
      · exact reads_ended
      · next c r' found =>
        have later' := (tail_suffix_of_skipSpace found).trans later
        have less' := (length_lt_of_skipSpace found).trans less
        exact .ite (pair later' less') (.ite (reads_stopAt rfl later') (reads_stopAt rfl later'))

end

theorem advances_value_of {depth : Nat}
    (inner : ∀ d, depth = d + 1 → ∀ bs, Advances bs (value d bs)) (bs : Bytes) :
    Advances bs (value depth bs) := by
  unfold value
  split
  -- where there are only blanks all of them have been read
  · refine ⟨[], List.nil_suffix, ?_, reads_ended⟩
    cases bs with
    | nil => exact .inl rfl
    | cons b r => exact .inr (Nat.succ_pos _)
  · next b r found =>
    refine ⟨r, tail_suffix_of_skipSpace found, .inr (length_lt_of_skipSpace found), ?_⟩
    refine .ite ?_ (.ite ?_ (reads_scalar b r))
    · cases depth with
      | zero => exact reads_stopAt rfl List.suffix_rfl
      | succ d => exact (reads_items (inner d rfl) (Nat.lt_succ_self _) true []).map _
    · cases depth with
      | zero => exact reads_stopAt rfl List.suffix_rfl
      | succ d => exact (reads_members (inner d rfl) (Nat.lt_succ_self _) true []).map _

theorem advances_value (depth : Nat) (bs : Bytes) : Advances bs (value depth bs) := by
  induction depth generalizing bs with
  | zero => exact advances_value_of (fun d same => absurd same.symm (Nat.succ_ne_zero d)) bs
  | succ depth ih =>
    refine advances_value_of (fun d same => ?_) bs
    obtain rfl : depth = d := Nat.succ.inj same
    exact ih

/-- The whole body as one document, with what is left of it. -/
def document (body : Bytes) : Except Stop (Json × Bytes) := do
  let (j, rest) ← value maxDepth body
  match skipSpace rest with
  | [] => .ok (j, [])
  | _ :: r => stopAt .trailingCharacters r

theorem advances_document (body : Bytes) : Advances body (document body) := by
  obtain ⟨r, later, less, reads⟩ := advances_value maxDepth body
  refine ⟨r, later, less, reads.bind List.suffix_rfl fun j rest left => Reads.mono ?_ left⟩
  dsimp only
  split
  · exact .read j List.nil_suffix
  · next b r found => exact reads_stopAt rfl (tail_suffix_of_skipSpace found)

/-- Bytes that are no document are read to their end if they end too soon, and at least one of them
is read if there is one. -/
theorem consumed_of_parse {body : Bytes} {e : ParseError} (refused : parse body = .error e) :
    e.consumed ≤ body.length ∧ (e.problem.isEnd = true → e.consumed = body.length) ∧
      (body ≠ [] → 0 < e.consumed) := by
  obtain ⟨r, later, less, reads⟩ := advances_document body
  unfold parse at refused
  dsimp only at refused
  split at refused
  · cases refused
  · next stop stopped =>
    cases refused
    replace stopped : document body = .error stop := stopped
    rw [stopped] at reads
    cases reads with
    | stops left ends =>
      have most := left.length_le
      refine ⟨Nat.sub_le _ _, fun ended => ?_, fun some => ?_⟩
      · rw [ends ended]
        rfl
      · have less := less.resolve_left some
        show 0 < body.length - stop.unread.length
        omega

end RequestBinding.Json
