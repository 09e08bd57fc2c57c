import RequestBinding.Http.RoutePattern
import Mathlib.Data.List.Nodup
import Mathlib.Data.List.TakeWhile
import Mathlib.Tactic.SplitIfs

/-!
The grammar of route patterns.  Main statement: a text is read exactly if it is put together of
literals and of groups in braces, all without braces inside, such that the groups have names and no
name comes twice; the names that are read are those of the groups in order, and the scan is over
after at most one round more than there are opening braces.
-/
namespace RequestBinding.RoutePattern
variable {names all names' : List String} {rest rest' text inner : List Char}

def BraceFree (text : List Char) : Prop := '{' ∉ text ∧ '}' ∉ text

inductive Segment where
  | literal (text : List Char)
  | group (inner : List Char)

namespace Segment

def inside : Segment → List Char
  | .literal text => text
  | .group inner => inner

def written : Segment → List Char
  | .literal text => text
  | .group inner => '{' :: (inner ++ ['}'])

def name? : Segment → Option String
  | .literal _ => none
  | .group inner => some (groupName inner)

end Segment

/-- The text is put together of pieces, and these are the names of the groups among them. -/
def Consists (text : List Char) (names : List String) : Prop :=
  ∃ segments : List Segment, text = segments.flatMap Segment.written ∧
    (∀ s ∈ segments, BraceFree s.inside) ∧ names = segments.filterMap Segment.name?

inductive Round where
  | ends (result : Except Problem (List String))
  | goesOn (names : List String) (rest : List Char)

/-- One round: up to the next group and over it. -/
def round (names : List String) (rest : List Char) : Round :=
  match rest.dropWhile (· != '{') with
  | [] => .ends (if '}' ∈ rest then .error .unbalanced else .ok names)
  | _ :: after =>
    if '}' ∈ rest.takeWhile (· != '{') then .ends (.error .unbalanced)
    else match after.dropWhile (· != '}') with
      | [] => .ends (.error .unclosed)
      | _ :: tail =>
        let inner := after.takeWhile (· != '}')
        if '{' ∈ inner then .ends (.error .nested)
        else if groupName inner = "" then .ends (.error .emptyName)
        else if groupName inner ∈ names then .ends (.error (.repeated (groupName inner)))
        else .goesOn (names ++ [groupName inner]) tail

/-- The scan, given up after a number of rounds. -/
def scan : Nat → List String → List Char → Option (Except Problem (List String))
  | 0, _, _ => none
  | rounds + 1, names, rest =>
    match round names rest with
    | .ends result => some result
    | .goesOn names rest => scan rounds names rest

theorem groups_eq_round (names : List String) (rest : List Char) :
    groups names rest = match round names rest with
      | .ends result => result
      | .goesOn names rest => groups names rest := by
  rw [groups, round]
  split
  · next h => rw [h]
  · next h =>
    rw [h]
    dsimp only
    split
    · rfl
    · split
      · next h' => rw [h']
      · next h' =>
        rw [h']
        dsimp only
        split_ifs <;> rfl

section
variable {c : Char} {before : List Char}

theorem bne_of_notMem (h : c ∉ before) : ∀ d ∈ before, (d != c) = true := fun _ hd =>
  bne_iff_ne.2 fun same => h (same ▸ hd)

theorem cut (c : Char) (l : List Char) :
    (c ∉ l ∧ l.dropWhile (· != c) = []) ∨
      ∃ before after, c ∉ before ∧ l = before ++ c :: after := by
  by_cases h : c ∈ l
  · obtain ⟨before, after, rfl, first⟩ := List.eq_append_cons_of_mem h
    exact .inr ⟨before, after, first, rfl⟩
  · exact .inl ⟨h, List.dropWhile_eq_nil_iff.2 (bne_of_notMem h)⟩

theorem takeWhile_ne (first : c ∉ before) (after : List Char) :
    (before ++ c :: after).takeWhile (· != c) = before := by
  rw [List.takeWhile_append_of_pos (bne_of_notMem first)]
  simp

theorem dropWhile_ne (first : c ∉ before) (after : List Char) :
    (before ++ c :: after).dropWhile (· != c) = c :: after := by
  rw [List.dropWhile_append_of_pos (bne_of_notMem first)]
  simp

end

theorem round_of_notMem (last : '{' ∉ rest) :
    round names rest = .ends (if '}' ∈ rest then .error .unbalanced else .ok names) := by
  rcases cut '{' rest with ⟨_, drop⟩ | ⟨before, after, _, rfl⟩
  · rw [round, drop]
  · simp at last

theorem round_of_open (names : List String) (first : '{' ∉ text) (unclosed : '}' ∉ rest) :
    ∃ problem, round names (text ++ '{' :: rest) = .ends (.error problem) := by
  rcases cut '}' rest with ⟨_, drop⟩ | ⟨before, after, _, rfl⟩
  · rw [round, dropWhile_ne first, takeWhile_ne first]
    dsimp only
    rw [drop]
    split <;> exact ⟨_, rfl⟩
  · simp at unclosed

theorem round_of_group (first : '{' ∉ text) (closed : '}' ∉ inner) :
    round names (text ++ '{' :: (inner ++ '}' :: rest)) =
      if '}' ∈ text then .ends (.error .unbalanced)
      else if '{' ∈ inner then .ends (.error .nested)
      else if groupName inner = "" then .ends (.error .emptyName)
      else if groupName inner ∈ names then .ends (.error (.repeated (groupName inner)))
      else .goesOn (names ++ [groupName inner]) rest := by
  rw [round, dropWhile_ne first, takeWhile_ne first]
  dsimp only
  rw [dropWhile_ne closed, takeWhile_ne closed]

/-- The scan ends with names exactly where no brace is left. -/
theorem round_eq_ends_ok_iff :
    round names rest = .ends (.ok all) ↔ BraceFree rest ∧ all = names := by
  rcases cut '{' rest with ⟨last, _⟩ | ⟨text, after, first, rfl⟩
  · rw [round_of_notMem last]
    by_cases h : '}' ∈ rest <;> simp [BraceFree, last, h, eq_comm]
  · have opened : ¬BraceFree (text ++ '{' :: after) := fun free => free.1 (by simp)
    refine iff_of_false (fun ends => ?_) fun h => opened h.1
    rcases cut '}' after with ⟨unclosed, _⟩ | ⟨inner, tail, closed, rfl⟩
    · obtain ⟨problem, refused⟩ := round_of_open names first unclosed
      rw [refused] at ends
      cases ends
    · rw [round_of_group first closed] at ends
      split_ifs at ends <;> cases ends

/-- The scan goes on exactly after a group with a name of its own. -/
theorem round_eq_goesOn_iff : round names rest = .goesOn names' rest' ↔
    ∃ text inner, rest = text ++ '{' :: (inner ++ '}' :: rest') ∧ BraceFree text ∧
      BraceFree inner ∧ groupName inner ≠ "" ∧ groupName inner ∉ names ∧
      names' = names ++ [groupName inner] := by
  constructor
  · intro goesOn
    rcases cut '{' rest with ⟨last, _⟩ | ⟨text, after, first, rfl⟩
    · rw [round_of_notMem last] at goesOn
      cases goesOn
    · rcases cut '}' after with ⟨unclosed, _⟩ | ⟨inner, tail, closed, rfl⟩
      · obtain ⟨problem, refused⟩ := round_of_open names first unclosed
        rw [refused] at goesOn
        cases goesOn
      · rw [round_of_group first closed] at goesOn
        split_ifs at goesOn with unbalanced nested empty repeated
        cases goesOn
        exact ⟨text, inner, rfl, ⟨first, unbalanced⟩, ⟨nested, closed⟩, empty, repeated, rfl⟩
  · rintro ⟨text, inner, rfl, free, within, named, fresh, rfl⟩
    rw [round_of_group free.1 within.2, if_neg free.2, if_neg within.1, if_neg named, if_neg fresh]

/-- As many rounds as there are opening braces, and one more, are enough. -/
theorem scan_eq {rounds : Nat} (enough : rest.count '{' < rounds) :
    scan rounds names rest = some (groups names rest) := by
  induction rounds generalizing names rest with
  | zero => omega
  | succ rounds ih =>
    rw [scan, groups_eq_round]
    cases h : round names rest with
    | ends result => rfl
    | goesOn names' rest' =>
      obtain ⟨text, inner, rfl, _⟩ := round_eq_goesOn_iff.1 h
      simp only [List.count_append, List.count_cons_self, List.count_cons_of_ne, ne_eq,
        Char.reduceEq, not_false_eq_true] at enough
      exact ih (by omega)

theorem groups_literal (free : BraceFree text) :
    groups names (text ++ rest) = groups names rest := by
  have same : round names (text ++ rest) = round names rest := by
    rw [round, round, List.dropWhile_append_of_pos (bne_of_notMem free.1),
      List.takeWhile_append_of_pos (bne_of_notMem free.1)]
    simp [free.2]
  rw [groups_eq_round, same, ← groups_eq_round]

theorem groups_group (free : BraceFree inner) (named : groupName inner ≠ "")
    (fresh : groupName inner ∉ names) :
    groups names ('{' :: (inner ++ '}' :: rest)) = groups (names ++ [groupName inner]) rest := by
  have goesOn : round names ('{' :: (inner ++ '}' :: rest)) =
      .goesOn (names ++ [groupName inner]) rest :=
    round_eq_goesOn_iff.2 ⟨[], inner, rfl, by simp [BraceFree], free, named, fresh, rfl⟩
  rw [groups_eq_round, goesOn]

/-- From the grammar: the names of the pieces follow those that are known. -/
theorem groups_flatMap_written {segments : List Segment}
    (free : ∀ s ∈ segments, BraceFree s.inside)
    (named : "" ∉ segments.filterMap Segment.name?)
    (distinct : (names ++ segments.filterMap Segment.name?).Nodup) :
    groups names (segments.flatMap Segment.written) =
      .ok (names ++ segments.filterMap Segment.name?) := by
  induction segments generalizing names with
  | nil =>
    have ends : round names [] = .ends (.ok names) :=
      round_eq_ends_ok_iff.2 ⟨by simp [BraceFree], rfl⟩
    rw [List.flatMap_nil, groups_eq_round, ends, List.filterMap_nil, List.append_nil]
  | cons s ss ih =>
    obtain ⟨here, later⟩ := List.forall_mem_cons.1 free
    cases s with
    | literal text =>
      have free : BraceFree text := here
      rw [List.flatMap_cons, Segment.written, groups_literal free]
      exact ih later named distinct
    | group inner =>
      have within : BraceFree inner := here
      have all : (Segment.group inner :: ss).filterMap Segment.name? =
          groupName inner :: ss.filterMap Segment.name? := rfl
      have written : (Segment.group inner :: ss).flatMap Segment.written =
          '{' :: (inner ++ '}' :: ss.flatMap Segment.written) := by simp [Segment.written]
      rw [all, List.mem_cons, not_or] at named
      rw [all, List.append_cons] at distinct
      have fresh : groupName inner ∉ names :=
        (List.nodup_concat names _).1 (List.concat_eq_append ▸ distinct.of_append_left) |>.1
      rw [written, groups_group within (Ne.symm named.1) fresh, ih later named.2 distinct, all,
        ← List.append_cons]

theorem consists_literal (free : BraceFree text) : Consists text [] :=
  ⟨[.literal text], by simp [Segment.written], List.forall_mem_singleton.2 free, rfl⟩

theorem Consists.group (later : Consists rest names) (free : BraceFree text)
    (within : BraceFree inner) :
    Consists (text ++ '{' :: (inner ++ '}' :: rest)) (groupName inner :: names) := by
  obtain ⟨segments, rfl, each, rfl⟩ := later
  refine ⟨.literal text :: .group inner :: segments, by simp [Segment.written], ?_, rfl⟩
  exact List.forall_mem_cons.2 ⟨free, List.forall_mem_cons.2 ⟨within, each⟩⟩

/-- To the grammar: what is read is put together of pieces. -/
theorem consists_of_scan {rounds : Nat} (nodup : names.Nodup)
    (read : scan rounds names rest = some (.ok all)) :
    ∃ found, all = names ++ found ∧ Consists rest found ∧ "" ∉ found ∧ all.Nodup := by
  induction rounds generalizing names rest with
  | zero => cases read
  | succ rounds ih =>
    rw [scan] at read
    cases step : round names rest with
    | ends result =>
      rw [step] at read
      cases read
      obtain ⟨free, rfl⟩ := round_eq_ends_ok_iff.1 step
      exact ⟨[], (List.append_nil _).symm, consists_literal free, List.not_mem_nil, nodup⟩
    | goesOn names' rest' =>
      rw [step] at read
      obtain ⟨text, inner, rfl, free, within, named, fresh, rfl⟩ := round_eq_goesOn_iff.1 step
      have nodup' : (names ++ [groupName inner]).Nodup :=
        List.concat_eq_append ▸ nodup.concat fresh
      obtain ⟨found, rfl, consists, others, distinct⟩ := ih nodup' read
      exact ⟨groupName inner :: found, (List.append_cons _ _ _).symm,
        consists.group free within, List.not_mem_cons_of_ne_of_not_mem (Ne.symm named) others,
        distinct⟩

/-- A text is read exactly if it is put together of literals and groups without further braces, and
the groups have names that are all different; these are the names that are read.  The scan is over
after one round more than there are opening braces, whatever the text. -/
theorem parse_eq_ok_iff (text : String) :
    (∀ route, parse text = .ok route ↔ route.text = text ∧ Consists text.toList route.names ∧
      "" ∉ route.names ∧ route.names.Nodup) ∧
    scan (text.toList.count '{' + 1) [] text.toList =
      some ((parse text).map RoutePattern.names) := by
  have enough : scan (text.toList.count '{' + 1) [] text.toList = some (groups [] text.toList) :=
    scan_eq (Nat.lt_succ_self _)
  refine ⟨fun route => ⟨fun read => ?_, ?_⟩, ?_⟩
  · cases found : groups [] text.toList with
    | error problem =>
      rw [parse, found] at read
      cases read
    | ok names =>
      rw [parse, found] at read
      cases read
      rw [found] at enough
      obtain ⟨_, rfl, consists, named, distinct⟩ := consists_of_scan List.nodup_nil enough
      exact ⟨rfl, consists, named, distinct⟩
  · rintro ⟨rfl, ⟨segments, written, free, names⟩, named, distinct⟩
    rw [names] at named distinct
    rw [parse, written, groups_flatMap_written free named distinct, List.nil_append, ← names]
    rfl
  · rw [enough, parse]
    cases groups [] text.toList <;> rfl

end RequestBinding.RoutePattern
