import RequestBinding.Session
import Mathlib.Data.Multiset.MapFold
import Mathlib.Data.Multiset.UnionInter

/-!
Tickets for cached values.  Whoever asks for a value holds a ticket until the value is read or the
attempt to make it is over.  Main statements: what is known about tickets and queues is kept by
everything that is done with a ticket, and only one ticket at a time entitles to make a value.
-/
namespace RequestBinding
variable {n : Nat}

/-- How far the holder of a ticket has come. -/
inductive Stage where
  | waiting
  /-- The value may be made. -/
  | entitled
  /-- The value is made and has to be handed in. -/
  | served
  deriving DecidableEq

structure Ticket (n : Nat) where
  handler : Fin n
  number : Nat
  stage : Stage

def Ticket.serves (d : Fin n) (x : Ticket n) : Bool := x.handler = d && x.stage = .served

namespace Scope
variable {κ : Type} [DecidableEq κ] (s : Scope κ) (d e : κ)

theorem cached?_eq : s.cached? d = (s.slot d).value := by
  unfold cached? slot
  cases s.slots.get? d <;> rfl

@[simp] theorem slot_setSlot (slot : Slot) :
    (s.setSlot d slot).slot e = if d = e then slot else s.slot e := by
  simp only [Scope.slot, setSlot, Dictionary.get?_insert]
  split <;> rfl

theorem slot_enter_of_ne {d e : κ} (h : d ≠ e) (k : Nat) : (s.enter d k).slot e = s.slot e := by
  simp [enter, h]

theorem slot_leave_of_ne {d e : κ} (h : d ≠ e) (k : Nat) (value : Option Arg) :
    (s.leave d k value).slot e = s.slot e := by
  cases value <;> simp [leave, h]

@[simp] theorem value_enter (k : Nat) : ((s.enter d k).slot e).value = (s.slot e).value := by
  simp only [enter, slot_setSlot]
  split
  · next h => subst h; split <;> rfl
  · rfl

@[simp] theorem slot_leave_some (k : Nat) (a : Arg) :
    (s.leave d k (some a)).slot d = { value := some a, queue := [] } := by
  simp [leave]

@[simp] theorem slot_leave_none (k : Nat) :
    (s.leave d k none).slot d = { s.slot d with queue := (s.slot d).queue.erase k } := by
  simp [leave]

theorem cached?_leave_some (k : Nat) (a : Arg) :
    (s.leave d k (some a)).cached? = Function.update s.cached? d (some a) := by
  funext e
  by_cases h : d = e
  · subst h
    rw [cached?_eq, slot_leave_some, Function.update_self]
  · rw [cached?_eq, slot_leave_of_ne s h, Function.update_of_ne (Ne.symm h), cached?_eq]

theorem cached?_enter (k : Nat) : (s.enter d k).cached? = s.cached? := by
  funext e
  rw [cached?_eq, value_enter, cached?_eq]

theorem cached?_leave_none (k : Nat) : (s.leave d k none).cached? = s.cached? := by
  funext e
  rw [cached?_eq, cached?_eq]
  by_cases h : d = e
  · subst h; simp
  · rw [slot_leave_of_ne s h]

variable {s d} {k : Nat}

theorem turn?_eq_none_iff : s.turn? d k = none ↔
    (s.slot d).value = none ∧ (s.slot d).queue.head? ≠ some k := by
  cases h : (s.slot d).value <;> simp [turn?, h]

theorem turn?_eq_some_none_iff : s.turn? d k = some none ↔
    (s.slot d).value = none ∧ (s.slot d).queue.head? = some k := by
  cases h : (s.slot d).value <;> simp [turn?, h]

theorem turn?_eq_some_some_iff {a : Arg} : s.turn? d k = some (some a) ↔
    (s.slot d).value = some a := by
  cases h : (s.slot d).value <;> simp [turn?, h]

end Scope

/-- The tickets for a handler fit its slot. -/
structure Line (held : Multiset (Ticket n)) (d : Fin n) (slot : Slot) : Prop where
  waits : ∀ x ∈ held, x.handler = d → x.stage = .waiting → slot.value = none →
    x.number ∈ slot.queue
  first : ∀ x ∈ held, x.handler = d → x.stage ≠ .waiting →
    slot.value = none ∧ slot.queue.head? = some x.number
  owned : ∀ k ∈ slot.queue, ∃ x ∈ held, x.handler = d ∧ x.number = k
  nodup : slot.queue.Nodup
  emptied : slot.value ≠ none → slot.queue = []

namespace Line
variable {held : Multiset (Ticket n)} {d : Fin n} {slot : Slot} {x : Ticket n}

theorem nil : Line (0 : Multiset (Ticket n)) d {} := by constructor <;> simp

theorem cons_iff_of_ne (h : x.handler ≠ d) : Line (x ::ₘ held) d slot ↔ Line held d slot := by
  have here : ∀ y ∈ x ::ₘ held, y.handler = d → y ∈ held := fun y hy same =>
    (Multiset.mem_cons.1 hy).resolve_left fun eq => h (eq ▸ same)
  constructor <;> intro line
  · refine ⟨fun y hy => line.waits y (Multiset.mem_cons_of_mem hy),
      fun y hy => line.first y (Multiset.mem_cons_of_mem hy), fun k hk => ?_, line.nodup,
      line.emptied⟩
    obtain ⟨y, hy, same, number⟩ := line.owned k hk
    exact ⟨y, here y hy same, same, number⟩
  · refine ⟨fun y hy same => line.waits y (here y hy same) same,
      fun y hy same => line.first y (here y hy same) same, fun k hk => ?_, line.nodup, line.emptied⟩
    exact (line.owned k hk).imp fun y hy => ⟨Multiset.mem_cons_of_mem hy.1, hy.2⟩

theorem append (line : Line held d slot) {k : Nat} (fresh : k ∉ slot.queue)
    (value : slot.value = none) :
    Line (⟨d, k, .waiting⟩ ::ₘ held) d { slot with queue := slot.queue ++ [k] } := by
  constructor
  case waits =>
    intro y hy same stage _
    rcases Multiset.mem_cons.1 hy with rfl | hy
    · simp
    · exact List.mem_append_left _ (line.waits y hy same stage value)
  case first =>
    intro y hy same stage
    rcases Multiset.mem_cons.1 hy with rfl | hy
    · exact absurd rfl stage
    · have ⟨_, head⟩ := line.first y hy same stage
      exact ⟨value, by simp [List.head?_append, head]⟩
  case owned =>
    intro k' hk'
    rcases List.mem_append.1 hk' with hk' | hk'
    · exact (line.owned k' hk').imp fun y hy => ⟨Multiset.mem_cons_of_mem hy.1, hy.2⟩
    · exact ⟨_, Multiset.mem_cons_self _ _, rfl, (List.mem_singleton.1 hk').symm⟩
  case nodup => exact List.nodup_append.2 ⟨line.nodup, by simp, by grind⟩
  case emptied => exact fun h => absurd value h

theorem cons_of_value (line : Line held d slot) (k : Nat) (value : slot.value ≠ none) :
    Line (⟨d, k, .waiting⟩ ::ₘ held) d slot := by
  constructor
  case waits => exact fun y _ _ _ none => absurd none value
  case first =>
    intro y hy same stage
    rcases Multiset.mem_cons.1 hy with rfl | hy
    · exact absurd rfl stage
    · exact line.first y hy same stage
  case owned => exact fun k' hk' =>
    (line.owned k' hk').imp fun y hy => ⟨Multiset.mem_cons_of_mem hy.1, hy.2⟩
  case nodup => exact line.nodup
  case emptied => exact line.emptied

theorem advance {k : Nat} {stage stage' : Stage} (line : Line (⟨d, k, stage⟩ ::ₘ held) d slot)
    (entitled : stage' ≠ .waiting) (value : slot.value = none)
    (head : slot.queue.head? = some k) : Line (⟨d, k, stage'⟩ ::ₘ held) d slot := by
  constructor
  case waits =>
    intro y hy same stage
    rcases Multiset.mem_cons.1 hy with rfl | hy
    · exact absurd stage entitled
    · exact line.waits y (Multiset.mem_cons_of_mem hy) same stage
  case first =>
    intro y hy same stage
    rcases Multiset.mem_cons.1 hy with rfl | hy
    · exact ⟨value, head⟩
    · exact line.first y (Multiset.mem_cons_of_mem hy) same stage
  case owned =>
    intro k' hk'
    obtain ⟨y, hy, same, number⟩ := line.owned k' hk'
    rcases Multiset.mem_cons.1 hy with rfl | hy
    · exact ⟨_, Multiset.mem_cons_self _ _, same, number⟩
    · exact ⟨y, Multiset.mem_cons_of_mem hy, same, number⟩
  case nodup => exact line.nodup
  case emptied => exact line.emptied

theorem discard (line : Line (x ::ₘ held) d slot) (value : slot.value ≠ none) :
    Line held d slot where
  waits _ _ _ _ none := absurd none value
  first y hy := line.first y (Multiset.mem_cons_of_mem hy)
  owned k hk := by simp [line.emptied value] at hk
  nodup := line.nodup
  emptied := line.emptied

theorem fill (waiting : ∀ y ∈ held, y.handler = d → y.stage = .waiting) (a : Arg) :
    Line held d { value := some a, queue := [] } where
  waits := by simp
  first y hy same stage := absurd (waiting y hy same) stage
  owned := by simp
  nodup := by simp
  emptied := by simp

theorem skip (line : Line (x ::ₘ held) d slot) (own : x.handler = d) (entitled : x.stage ≠ .waiting)
    (waiting : ∀ y ∈ held, y.handler = d → y.stage = .waiting)
    (others : ∀ y ∈ held, y.number ≠ x.number) :
    Line held d { slot with queue := slot.queue.erase x.number } := by
  have ⟨value, head⟩ := line.first x (Multiset.mem_cons_self _ _) own entitled
  obtain ⟨rest, queue⟩ : ∃ rest, slot.queue = x.number :: rest := by
    cases hq : slot.queue with
    | nil => simp [hq] at head
    | cons k rest =>
      rw [hq] at head
      exact ⟨rest, by rw [Option.some.inj head]⟩
  have erase : slot.queue.erase x.number = rest := by simp [queue]
  have nodup := line.nodup
  rw [queue, List.nodup_cons] at nodup
  rw [erase]
  constructor
  case waits =>
    intro y hy same stage _
    have mem := line.waits y (Multiset.mem_cons_of_mem hy) same stage value
    rw [queue, List.mem_cons] at mem
    exact mem.resolve_left (others y hy)
  case first => exact fun y hy same stage => absurd (waiting y hy same) stage
  case owned =>
    intro k hk
    obtain ⟨y, hy, same, number⟩ := line.owned k (by rw [queue]; exact List.mem_cons_of_mem _ hk)
    rcases Multiset.mem_cons.1 hy with rfl | hy
    · exact absurd (number ▸ hk) nodup.1
    · exact ⟨y, hy, same, number⟩
  case nodup => exact nodup.2
  case emptied => exact fun h => absurd value h

end Line

structure Queues (held : Multiset (Ticket n)) (s : Session n) : Prop where
  distinct : (held.map Ticket.number).Nodup
  issued : ∀ x ∈ held, x.number < s.tickets
  line : ∀ d, Line held d (s.scope.slot d)

namespace Queues
variable {held : Multiset (Ticket n)} {s t : Session n} {x : Ticket n} {d : Fin n} {k : Nat}

theorem nil (h : ∀ d, s.scope.slot d = {}) : Queues 0 s :=
  ⟨by simp, by simp, fun d => by rw [h d]; exact Line.nil⟩

theorem congr (h : Queues held s) (slots : t.scope.slots = s.scope.slots)
    (tickets : t.tickets = s.tickets) : Queues held t := by
  have slot : t.scope.slot = s.scope.slot := by
    funext d
    simp [Scope.slot, slots]
  obtain ⟨distinct, issued, line⟩ := h
  rw [← slot] at line
  rw [← tickets] at issued
  exact ⟨distinct, issued, line⟩

theorem number_ne (h : Queues (x ::ₘ held) s) {y : Ticket n} (hy : y ∈ held) :
    y.number ≠ x.number := by
  have distinct := h.distinct
  rw [Multiset.map_cons, Multiset.nodup_cons] at distinct
  exact fun same => distinct.1 (Multiset.mem_map.2 ⟨y, hy, same⟩)

/-- Only one ticket at a time entitles to make a value. -/
theorem waiting_of_mem (h : Queues (x ::ₘ held) s) (hx : x.stage ≠ .waiting) {y : Ticket n}
    (hy : y ∈ held) (same : y.handler = x.handler) : y.stage = .waiting := by
  by_contra hw
  have first := ((h.line x.handler).first x (by simp) rfl hx).2
  have second := ((h.line x.handler).first y (by simp [hy]) same hw).2
  rw [first] at second
  exact h.number_ne hy (Option.some.inj second).symm

theorem enter (h : Queues held s) (d : Fin n) :
    Queues (⟨d, s.tickets, .waiting⟩ ::ₘ held) (Session.enter d s).2 := by
  have fresh : s.tickets ∉ (s.scope.slot d).queue := fun mem => by
    obtain ⟨x, hx, _, number⟩ := (h.line d).owned _ mem
    have := h.issued x hx
    omega
  refine ⟨?_, ?_, fun e => ?_⟩
  · rw [Multiset.map_cons, Multiset.nodup_cons]
    refine ⟨fun mem => ?_, h.distinct⟩
    obtain ⟨x, hx, same⟩ := Multiset.mem_map.1 mem
    have := h.issued x hx
    simp only at same
    omega
  · intro x hx
    rcases Multiset.mem_cons.1 hx with rfl | hx
    · exact Nat.lt_succ_self _
    · exact Nat.lt_succ_of_lt (h.issued x hx)
  · change Line _ e ((s.scope.enter d s.tickets).slot e)
    by_cases he : d = e
    · subst he
      simp only [Scope.enter, Scope.slot_setSlot, if_true]
      cases hv : (s.scope.slot d).value with
      | none => simpa [hv] using (h.line d).append fresh hv
      | some a => exact (h.line d).cons_of_value _ (by simp [hv])
    · rw [Scope.slot_enter_of_ne _ he, Line.cons_iff_of_ne he]
      exact h.line e

theorem advance {stage stage' : Stage} (h : Queues (⟨d, k, stage⟩ ::ₘ held) s)
    (entitled : stage' ≠ .waiting) (value : (s.scope.slot d).value = none)
    (head : (s.scope.slot d).queue.head? = some k) : Queues (⟨d, k, stage'⟩ ::ₘ held) s := by
  refine ⟨?_, ?_, fun e => ?_⟩
  · simpa using h.distinct
  · simpa using h.issued
  · by_cases he : d = e
    · subst he
      exact (h.line d).advance entitled value head
    · rw [Line.cons_iff_of_ne he]
      exact (Line.cons_iff_of_ne he).1 (h.line e)

theorem tail (h : Queues (x ::ₘ held) s) (line : ∀ d, Line held d (t.scope.slot d))
    (tickets : t.tickets = s.tickets) : Queues held t where
  distinct := by
    have distinct := h.distinct
    rw [Multiset.map_cons, Multiset.nodup_cons] at distinct
    exact distinct.2
  issued y hy := tickets ▸ h.issued y (Multiset.mem_cons_of_mem hy)
  line := line

theorem discard (h : Queues (x ::ₘ held) s) (value : (s.scope.slot x.handler).value ≠ none) :
    Queues held s := by
  refine h.tail (fun e => ?_) rfl
  by_cases he : x.handler = e
  · subst he
    exact (h.line _).discard value
  · exact (Line.cons_iff_of_ne he).1 (h.line e)

theorem leave (h : Queues (x ::ₘ held) s) (entitled : x.stage ≠ .waiting) (value : Option Arg) :
    Queues held (Session.leave x.handler x.number value s).2 := by
  refine h.tail (fun e => ?_) rfl
  change Line held e ((s.scope.leave x.handler x.number value).slot e)
  by_cases he : x.handler = e
  · subst he
    cases value with
    | some a =>
      rw [Scope.slot_leave_some]
      exact Line.fill (fun y hy => h.waiting_of_mem entitled hy) a
    | none =>
      rw [Scope.slot_leave_none]
      exact (h.line _).skip rfl entitled (fun y hy => h.waiting_of_mem entitled hy) fun y hy =>
        h.number_ne hy
  · rw [Scope.slot_leave_of_ne _ he]
    exact (Line.cons_iff_of_ne he).1 (h.line e)

end Queues

end RequestBinding
