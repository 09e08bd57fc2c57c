import RequestBinding.Routine.Basic

/-!
The order in which the parts of a routine move.  The routine is looked at turn by turn.  Routines
side by side form a group.  The members of a small group have their turn one after another whenever
the group has.  In a large group each member is called on its own: it stands in a queue from the
moment its wait or its pause is over.  Pauses are over when the turn is, the latest one first.
-/
namespace RequestBinding

def smallGroup : Nat := 30

inductive Standing where
  | ended
  | step
  | pause
  /-- A group with a number of members. -/
  | group (members : Nat)
  deriving DecidableEq, Repr

namespace Routine
variable {σ α : Type}

/-- How many routines follow one another to the right, each beside the rest of them. -/
def members : {α : Type} → Routine σ α → Nat
  | _, both _ right _ => right.members + 1
  | _, _ => 0

def standing : Routine σ α → Standing
  | done _ => .ended
  | step .. => .step
  | pause _ => .pause
  | both left right next => .group (both left right next).members

def standingAt? : {α : Type} → Routine σ α → Address → Option Standing
  | _, r, [] => some r.standing
  | _, both left _ _, .left :: p => left.standingAt? p
  | _, both _ right _, .right :: p => right.standingAt? p
  | _, _, _ => none

/-- The part at an address has ended, perhaps so long ago that it is no more. -/
def hasEndedAt (r : Routine σ α) (p : Address) : Bool :=
  (r.standingAt? p).all (· == .ended)

def breadth : {α : Type} → Routine σ α → Nat
  | _, both left right _ => left.breadth + right.breadth + 1
  | _, _ => 1

end Routine

def Address.member (group : Address) (i : Nat) : Address :=
  group ++ List.replicate i .right ++ [.left]

/-- The member of the group that holds the address. -/
def Address.memberOf? (group p : Address) : Option Nat :=
  if group.isPrefixOf p then
    let below := p.drop group.length
    let i := (below.takeWhile (· = .right)).length
    if i < below.length then some i else none
  else none

namespace Schedule

structure Count where
  /-- Members that have been looked at since one last ended. -/
  seen : Nat
  /-- Those of them that were called again meanwhile. -/
  recalled : Nat
  /-- Members that have not ended. -/
  unended : Nat

inductive Item where
  /-- Go on with a part as far as it can. -/
  | visit (p : Address)
  /-- Go on after two parts that have ended. -/
  | join (p : Address)
  /-- Visit the members of a group that stand in its queue. -/
  | queue (group : Address) (count : Count)
  /-- A member of a group has been visited. -/
  | visited (group : Address) (i : Nat) (count : Count)

/-- What is known between two moves. -/
structure Books where
  /-- What remains of this turn. -/
  agenda : List Item
  /-- The large groups and the members that stand in their queues. -/
  queues : List (Address × List Nat)
  /-- Parts that wait for the state, in the order in which they began to. -/
  waiting : List Address
  /-- Parts that have paused in this turn, the latest one first. -/
  paused : List Address

def Books.start : Books := ⟨[], [], [], []⟩

namespace Books
variable {σ α : Type}

def queue? (b : Books) (group : Address) : Option (List Nat) := b.queues.lookup group

def setQueue (b : Books) (group : Address) (members : List Nat) : Books :=
  { b with queues := (group, members) :: b.queues.filter (·.1 ≠ group) }

def dropQueue (b : Books) (group : Address) : Books :=
  { b with queues := b.queues.filter (·.1 ≠ group) }

/-- Call every member that holds the address. -/
def call (b : Books) (p : Address) : Books :=
  { b with queues := b.queues.map fun (group, members) =>
      match group.memberOf? p with
      | some i => (group, if i ∈ members then members else members ++ [i])
      | none => (group, members) }

/-- The part that is called when the wait or pause at an address is over: the smallest member of a
large group that holds it. -/
def caller (b : Books) (p : Address) : Address :=
  (b.queues.filterMap fun q => (q.1.memberOf? p).map q.1.member).foldl
    (fun q q' => if q.length < q'.length then q' else q) []

def callAllowed (b : Books) (r : Routine σ α) (s : σ) : Books :=
  let (allowed, waiting) := b.waiting.partition fun p => (r.move p s).isSome
  allowed.foldl call { b with waiting }

def addWaiting (b : Books) (p : Address) : Books :=
  if p ∈ b.waiting then b else { b with waiting := b.waiting ++ [p] }

def addPaused (b : Books) (p : Address) : Books :=
  let q := b.caller p
  if b.paused.head? = some q then b else { b with paused := q :: b.paused }

def newTurn (b : Books) : Books :=
  b.paused.foldl call { b with agenda := [.visit []], paused := [] }

/-- The places where a group is put together, from the last one to the first. -/
def joins (group : Address) (members : Nat) : List Item :=
  ((List.range members).reverse).map fun i => .join (group ++ List.replicate i .right)

def countUnended (r : Routine σ α) (group : Address) (members : Nat) : Nat :=
  ((List.range members).filter fun i => !r.hasEndedAt (group.member i)).length

def membersAt (r : Routine σ α) (group : Address) : Nat :=
  match r.standingAt? group with
  | some (.group members) => members
  | _ => 0

/-- Where the next move is to be made, found by going through the agenda; the fuel is the number of
items that may be looked at. -/
def next? (r : Routine σ α) (s : σ) : Nat → Books → Option (Address × Books)
  | 0, _ => none
  | fuel + 1, b =>
    match b.agenda with
    | [] => next? r s fuel b.newTurn
    | item :: rest =>
      let b := { b with agenda := rest }
      let after (items : List Item) (b : Books) : Books := { b with agenda := items ++ b.agenda }
      match item with
      | .visit p =>
        match r.standingAt? p with
        | some .step =>
          if (r.move p s).isSome then some (p, after [.visit p] b)
          else next? r s fuel (b.addWaiting p)
        | some .pause => some (p, b.addPaused p)
        | some (.group members) =>
          match b.queue? p with
          | some _ => next? r s fuel (after [.queue p ⟨0, 0, countUnended r p members⟩] b)
          | none =>
            if members ≤ smallGroup then
              let visits := (List.range members).map fun i => Item.visit (p.member i)
              next? r s fuel (after (visits ++ joins p members) b)
            else
              let b := b.setQueue p (List.range members)
              next? r s fuel (after [.queue p ⟨0, 0, countUnended r p members⟩] b)
        | _ => next? r s fuel b
      | .join p =>
        if (r.move p s).isSome then some (p, after [.visit p] (b.dropQueue p))
        else next? r s fuel b
      | .queue group count =>
        match b.queue? group with
        | some (i :: members) =>
          let b := b.setQueue group members
          if r.hasEndedAt (group.member i) then next? r s fuel (after [.queue group count] b)
          else next? r s fuel (after [.visit (group.member i), .visited group i count] b)
        | _ => next? r s fuel (after (joins group (membersAt r group)) b)
      | .visited group i count =>
        if r.hasEndedAt (group.member i) then
          let unended := countUnended r group (membersAt r group)
          next? r s fuel (after [.queue group ⟨0, 0, unended⟩] b)
        else
          let again := ((b.queue? group).getD []).contains i
          let count : Count :=
            ⟨count.seen + 1, count.recalled + (if again then 1 else 0), count.unended⟩
          if 2 ≤ count.recalled ∨ count.seen = count.unended then next? r s fuel (b.call group)
          else next? r s fuel (after [.queue group count] b)

def enough (r : Routine σ α) (b : Books) : Nat :=
  16 * (r.breadth + 1) * (r.breadth + 1) + b.agenda.length

/-- Where the next move is made.  If nobody who is called can move, whoever can does. -/
def choose (b : Books) (r : Routine σ α) (s : σ) : Address × Books :=
  let b := b.callAllowed r s
  match next? r s (enough r b) b with
  | some (p, b') => if (r.move p s).isSome then (p, b') else ((r.movable s).headD [], b)
  | none => ((r.movable s).headD [], b)

theorem movable_eq_nil_of_choose {b : Books} {r : Routine σ α} {s : σ}
    (h : r.move (b.choose r s).1 s = none) : r.movable s = [] := by
  have first : r.move ((r.movable s).headD []) s = none → r.movable s = [] := by
    intro h
    cases hm : r.movable s with
    | nil => rfl
    | cons p ps =>
      have hp : p ∈ r.movable s := by simp [hm]
      rw [Routine.mem_movable_iff] at hp
      simp only [hm, List.headD_cons] at h
      simp [h] at hp
  simp only [choose] at h
  split at h
  · split at h
    · next hs => simp [h] at hs
    · exact first h
  · exact first h

end Books

end Schedule

namespace Routine
variable {σ α : Type}
open Schedule

def runFrom (r : Routine σ α) (s : σ) (b : Books) : Option (α × σ) :=
  match r.result? with
  | some a => some (a, s)
  | none =>
    let chosen := b.choose r s
    match _h : r.move chosen.1 s with
    | some (r', s') => r'.runFrom s' chosen.2
    | none => none
termination_by r
decreasing_by exact rest_of_move _h

/-- Carry out a routine from a state.  None if it has not ended and no part of it can move. -/
def run (r : Routine σ α) (s : σ) : Option (α × σ) := r.runFrom s .start

theorem moves_of_runFrom {r : Routine σ α} {s s' : σ} {b : Books} {a : α}
    (h : r.runFrom s b = some (a, s')) : Moves r s (done a) s' := by
  fun_induction runFrom r s b with
  | case1 r s b a' hr =>
    simp only [Option.some.injEq, Prod.mk.injEq] at h
    rw [result?_eq_some_iff] at hr
    rw [hr, h.1, h.2]
    exact .refl _ _
  | case2 r s b hr chosen r' t hm ih => exact .head _ hm (ih h)
  | case3 => nomatch h

/-- What a run comes to, some order of moves comes to. -/
theorem moves_of_run {r : Routine σ α} {s s' : σ} {a : α} (h : r.run s = some (a, s')) :
    Moves r s (done a) s' := moves_of_runFrom h

theorem stuck_of_runFrom {r : Routine σ α} {s : σ} {b : Books} (h : r.runFrom s b = none) :
    ∃ r' s', Moves r s r' s' ∧ r'.result? = none ∧ r'.movable s' = [] := by
  fun_induction runFrom r s b with
  | case1 => nomatch h
  | case2 r s b hr chosen r' t hm ih =>
    obtain ⟨q, u, moves, stuck⟩ := ih h
    exact ⟨q, u, .head _ hm moves, stuck⟩
  | case3 r s b hr chosen hm =>
    exact ⟨r, s, .refl _ _, hr, Books.movable_eq_nil_of_choose hm⟩

/-- A run comes to nothing only where no part can move any more. -/
theorem stuck_of_run {r : Routine σ α} {s : σ} (h : r.run s = none) :
    ∃ r' s', Moves r s r' s' ∧ r'.result? = none ∧ r'.movable s' = [] := stuck_of_runFrom h

end Routine

end RequestBinding
