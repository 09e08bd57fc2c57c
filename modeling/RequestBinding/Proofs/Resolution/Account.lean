import RequestBinding.Proofs.Compiled.Parts
import RequestBinding.Proofs.Injector.Arguments
import Mathlib.Data.Multiset.AddSub
import Mathlib.Data.Multiset.Count

/-!
An account of calls and of what has become of their results.  A result is held by whoever asked for
it until it is passed on in a call or cached.  Main statements: the account is kept by calls, and by
reading and caching values.
-/
namespace RequestBinding
variable {n : Nat}

inductive Item (n : Nat) where
  /-- A result that is not passed on yet. -/
  | made (d : Fin n) (reply : Reply)
  /-- A call that failed. -/
  | failed (d : Fin n)
  /-- A cached value that was read. -/
  | read (d : Fin n) (a : Arg)
  /-- Where one dependency is resolved after another: the sign that nothing has failed. -/
  | sign

def Item.isMade (d : Fin n) : Item n → Bool
  | made e _ => e = d
  | _ => false

def Item.isSign : Item n → Bool
  | sign => true
  | _ => false

@[simp] theorem Item.isMade_made (d e : Fin n) (reply : Reply) :
    (made e reply).isMade d = decide (e = d) := rfl

@[simp] theorem Item.isMade_failed (d e : Fin n) : (failed e).isMade d = false := rfl

@[simp] theorem Item.isMade_read (d e : Fin n) (a : Arg) : (read e a).isMade d = false := rfl

@[simp] theorem Item.isMade_sign (d : Fin n) : (sign : Item n).isMade d = false := rfl

@[simp] theorem Item.isSign_made (d : Fin n) (reply : Reply) : (made d reply).isSign = false := rfl

@[simp] theorem Item.isSign_failed (d : Fin n) : (failed d).isSign = false := rfl

@[simp] theorem Item.isSign_read (d : Fin n) (a : Arg) : (read d a).isSign = false := rfl

@[simp] theorem Item.isSign_sign : (sign : Item n).isSign = true := rfl

theorem Item.countP_singleton (p : Item n → Prop) [DecidablePred p] (y : Item n) :
    ({y} : Multiset (Item n)).countP p = if p y then 1 else 0 := by
  rw [← Multiset.cons_zero, Multiset.countP_cons, Multiset.countP_zero, zero_add]

/-- The sign, where dependencies are resolved one after another. -/
def Item.signs (solo : Bool) : Multiset (Item n) := if solo then {sign} else 0

@[simp] theorem Item.signs_false : signs (n := n) false = 0 := rfl

@[simp] theorem Item.mem_signs {solo : Bool} {y : Item n} :
    y ∈ signs solo ↔ solo = true ∧ y = sign := by
  cases solo <;> simp [signs]

@[simp] theorem Item.countP_isMade_signs (solo : Bool) (d : Fin n) :
    (signs solo).countP (fun y => y.isMade d) = 0 := by
  rw [Multiset.countP_eq_zero]
  intro y hy
  simp [(mem_signs.1 hy).2]

@[simp] theorem Item.countP_isSign_signs (solo : Bool) :
    (signs (n := n) solo).countP (fun y => y.isSign) = if solo then 1 else 0 := by
  cases solo
  · rfl
  · exact Item.countP_singleton _ _

inductive Reply.Becomes : Reply → Arg → Prop
  | arg (a : Arg) : Becomes (.arg a) a
  | object (content : Object.Content) (id : Nat) : Becomes (.object content) (.object ⟨id, content⟩)

def Catalogue.answer (catalogue : Catalogue n) (k : Call n) : Except Fault Reply :=
  (catalogue k.handler).reply k.invocation

def Catalogue.succeeds (catalogue : Catalogue n) (k : Call n) : Bool := (catalogue.answer k).isOk

namespace Compiled

/-- How many parameters ask for a result of the handler that is made for them alone. -/
def uses (c : Compiled n) (d : Fin n) : Nat :=
  c.needs.countP fun e => !e.useCache && e.target.binding.handler = d

/-- Wherever the result of the handler is taken, one result serves all. -/
def SharesAll (root : Compiled n) (d : Fin n) : Prop :=
  ∀ x, Part root x → ∀ e ∈ x.needs, e.target.binding.handler = d → e.useCache = true

def Shares (root : Compiled n) (d : Fin n) : Prop :=
  ∃ x, Part root x ∧ ∃ e ∈ x.needs, e.target.binding.handler = d ∧ e.useCache = true

open Classical in
/-- The compiled form of a handler within another. -/
noncomputable def part (root : Compiled n) (d : Fin n) : Compiled n :=
  if h : ∃ x, Part root x ∧ x.binding.handler = d then h.choose else root

theorem part_eq {root x : Compiled n} (coherent : Coherent root) (h : Part root x) :
    root.part x.binding.handler = x := by
  have there : ∃ y, Part root y ∧ y.binding.handler = x.binding.handler := ⟨x, h, rfl⟩
  rw [part, dif_pos there]
  exact coherent _ _ there.choose_spec.1 h there.choose_spec.2

theorem uses_eq_zero {root x : Compiled n} {d : Fin n} (shared : root.SharesAll d)
    (h : Part root x) : x.uses d = 0 := by
  rw [uses, List.countP_eq_zero]
  intro e he used
  simp only [Bool.and_eq_true, Bool.not_eq_true', decide_eq_true_eq] at used
  exact absurd (shared x h e he used.2) (by simp [used.1])

/-- The arguments hold the cached value wherever one is asked for. -/
def Holds (c : Compiled n) (value : Fin n → Option Arg) (args : CallArgs) : Prop :=
  ∀ (i : Nat) (f : Field (Need (Compiled n))) (e : Need (Compiled n)),
    c.binding.fields[i]? = some f → f.feed = .dependency e → e.useCache = true →
      ∃ a, (args.taken c.binding.fields)[i]? = some (some a) ∧
        value e.target.binding.handler = some a

theorem Holds.mono {c : Compiled n} {value value' : Fin n → Option Arg} {args : CallArgs}
    (h : c.Holds value args) (more : ∀ d a, value d = some a → value' d = some a) :
    c.Holds value' args := fun i f e hf he cached =>
  (h i f e hf he cached).imp fun a ha => ⟨ha.1, more _ a ha.2⟩

end Compiled

/-- What is passed on in the arguments of a call: all results that were made for it, and the shared
results that were read for it. -/
structure Compiled.Passes (c : Compiled n) (passed : Multiset (Item n)) (args : CallArgs) :
    Prop where
  uses : ∀ d, passed.countP (fun y => y.isMade d) = c.uses d
  unfailed : ∀ d, .failed d ∉ passed
  read : ∀ (i : Nat) (f : Field (Need (Compiled n))) (e : Need (Compiled n)),
    c.binding.fields[i]? = some f → f.feed = .dependency e → e.useCache = true →
      ∃ a, (args.taken c.binding.fields)[i]? = some (some a) ∧
        .read e.target.binding.handler a ∈ passed

/-- The calls so far and the cached values fit together.  With `solo`, one dependency is resolved
after another. -/
structure CallLog (root : Compiled n) (catalogue : Catalogue n) (solo : Bool)
    (calls : List (Call n)) (value : Fin n → Option Arg) : Prop where
  part : ∀ k ∈ calls, ∃ x, root.Part x ∧ x.binding.handler = k.handler
  cached : ∀ d a, value d = some a → root.Shares d ∧ ∃ k ∈ calls, k.handler = d ∧
    ∃ reply, catalogue.answer k = .ok reply ∧ reply.Becomes a
  holds : ∀ k ∈ calls, (root.part k.handler).Holds value k.invocation.args
  retried : ∀ d, root.SharesAll d →
    ∀ k ∈ (calls.filter fun k => k.handler = d).dropLast, catalogue.succeeds k = false
  last : solo = true → ∀ k ∈ calls.dropLast, catalogue.succeeds k = true

structure Account (root : Compiled n) (catalogue : Catalogue n) (solo : Bool)
    (calls : List (Call n)) (items : Multiset (Item n)) (value : Fin n → Option Arg) : Prop
    extends CallLog root catalogue solo calls value where
  balance : ∀ d, calls.countP (fun k => k.handler = d ∧ catalogue.succeeds k) =
    (calls.map fun k => (root.part k.handler).uses d).sum + items.countP (fun x => x.isMade d) +
      if (value d).isSome then 1 else 0
  failed : ∀ k ∈ calls, catalogue.succeeds k = false → .failed k.handler ∈ items
  made : ∀ d reply, .made d reply ∈ items → ∃ k ∈ calls, k.handler = d ∧
    catalogue.answer k = .ok reply
  read : ∀ d a, .read d a ∈ items → value d = some a
  sign : solo = true → .sign ∈ items → ∀ k ∈ calls, catalogue.succeeds k = true
  single : items.countP (fun x => x.isSign) ≤ 1

namespace Account
variable {root : Compiled n} {catalogue : Catalogue n} {solo : Bool} {calls : List (Call n)}
  {items : Multiset (Item n)} {value : Fin n → Option Arg}

theorem log_nil (root : Compiled n) (catalogue : Catalogue n) (solo : Bool)
    (none : ∀ d, value d = none) : CallLog root catalogue solo [] value := by
  constructor <;> simp [none]

theorem start (root : Compiled n) (catalogue : Catalogue n) (solo : Bool)
    (single : items.countP (fun x => x.isSign) ≤ 1) (signs : ∀ x ∈ items, x = .sign)
    (none : ∀ d, value d = none) : Account root catalogue solo [] items value := by
  refine { log_nil root catalogue solo none with
    balance := fun d => ?_, failed := by simp, sign := by simp, single,
    made := fun d reply mem => (nomatch signs _ mem),
    read := fun d a mem => (nomatch signs _ mem) }
  have : items.countP (fun x => x.isMade d) = 0 := by
    rw [Multiset.countP_eq_zero]
    intro x hx
    simp [signs x hx]
  simp [this, none]

theorem look (h : Account root catalogue solo calls items value) {d : Fin n} {a : Arg}
    (ha : value d = some a) : Account root catalogue solo calls (.read d a ::ₘ items) value := by
  refine { h with
    balance := fun e => ?_, failed := ?_, made := ?_, read := ?_, sign := ?_, single := ?_ }
  · rw [h.balance e, Multiset.countP_cons_of_neg _ (by simp)]
  · exact fun k hk fails => Multiset.mem_cons_of_mem (h.failed k hk fails)
  · exact fun e reply mem => h.made e reply (by simpa using mem)
  · intro e b mem
    rcases Multiset.mem_cons.1 mem with eq | mem
    · cases eq
      exact ha
    · exact h.read e b mem
  · exact fun hs mem => h.sign hs (by simpa using mem)
  · rw [Multiset.countP_cons_of_neg _ (by simp)]
    exact h.single

theorem log_update (h : CallLog root catalogue solo calls value) {d : Fin n} {a : Arg}
    (none : value d = none) (shared : root.Shares d) (made : ∃ k ∈ calls, k.handler = d ∧
      ∃ reply, catalogue.answer k = .ok reply ∧ reply.Becomes a) :
    CallLog root catalogue solo calls (Function.update value d (some a)) := by
  refine { h with cached := fun e b hb => ?_, holds := fun k hk => (h.holds k hk).mono ?_ }
  · by_cases he : d = e
    · subst he
      rw [Function.update_self] at hb
      cases hb
      exact ⟨shared, made⟩
    · rw [Function.update_of_ne (Ne.symm he)] at hb
      exact h.cached e b hb
  · intro e b hb
    rw [Function.update_of_ne, hb]
    rintro rfl
    simp [none] at hb

theorem store {d : Fin n} {reply : Reply} {a : Arg}
    (h : Account root catalogue solo calls (.made d reply ::ₘ items) value)
    (none : value d = none) (shared : root.Shares d) (becomes : reply.Becomes a) :
    Account root catalogue solo calls (.read d a ::ₘ items)
      (Function.update value d (some a)) := by
  obtain ⟨k, hk, handler, answer⟩ := h.made d reply (Multiset.mem_cons_self _ _)
  refine { log_update h.toCallLog none shared ⟨k, hk, handler, reply, answer, becomes⟩ with
    balance := fun e => ?_, failed := ?_, made := ?_, read := ?_, sign := ?_, single := ?_ }
  · rw [h.balance e, Multiset.countP_cons, Multiset.countP_cons]
    by_cases he : d = e
    · subst he
      simp [none, add_assoc]
    · simp [he, Function.update_of_ne (Ne.symm he)]
  · exact fun k hk fails => by simpa using h.failed k hk fails
  · exact fun e reply mem => h.made e reply (by simp at mem; simp [mem])
  · intro e b mem
    rcases Multiset.mem_cons.1 mem with eq | mem
    · cases eq
      exact Function.update_self ..
    · have hb := h.read e b (Multiset.mem_cons_of_mem mem)
      rw [Function.update_of_ne, hb]
      rintro rfl
      simp [none] at hb
  · exact fun hs mem => h.sign hs (by simpa using mem)
  · simpa [Multiset.countP_cons] using h.single

/-- As long as no result of a handler is held or cached, all its calls failed. -/
theorem fails (h : Account root catalogue solo calls items value) (coherent : root.Coherent)
    {d : Fin n} (shared : root.SharesAll d) (unmade : ∀ reply, .made d reply ∉ items)
    (uncached : value d = none) : ∀ k ∈ calls, k.handler = d → catalogue.succeeds k = false := by
  have unused : (calls.map fun k => (root.part k.handler).uses d).sum = 0 := by
    rw [List.sum_eq_zero_iff_forall_eq_nat]
    intro u hu
    obtain ⟨k, hk, rfl⟩ := List.mem_map.1 hu
    obtain ⟨x, hx, handler⟩ := h.part k hk
    rw [← handler, Compiled.part_eq coherent hx]
    exact Compiled.uses_eq_zero shared hx
  have unheld : items.countP (fun x => x.isMade d) = 0 := by
    rw [Multiset.countP_eq_zero]
    rintro (⟨e, reply⟩ | _ | _ | _) hx made <;> simp only [Item.isMade] at made
    · exact unmade reply (of_decide_eq_true made ▸ hx)
    all_goals nomatch made
  have none := h.balance d
  rw [unused, unheld, uncached] at none
  intro k hk handler
  have := List.countP_eq_zero.1 none k hk
  simpa [handler] using this

section
variable {x : Compiled n} {k : Call n} {passed rest : Multiset (Item n)}

theorem holds_of_passes (h : Account root catalogue solo calls (passed + rest) value)
    {args : CallArgs} (passes : x.Passes passed args) : x.Holds value args :=
  fun i f e hf he shared =>
    have ⟨a, taken, read⟩ := passes.read i f e hf he shared
    ⟨a, taken, h.read _ a (Multiset.mem_add.2 (.inl read))⟩

theorem log_append (h : CallLog root catalogue solo calls value) (coherent : root.Coherent)
    (hx : root.Part x) (handler : k.handler = x.binding.handler)
    (holds : x.Holds value k.invocation.args)
    (again : root.SharesAll k.handler →
      ∀ l ∈ calls, l.handler = k.handler → catalogue.succeeds l = false)
    (alone : solo = true → ∀ l ∈ calls, catalogue.succeeds l = true) :
    CallLog root catalogue solo (calls ++ [k]) value := by
  constructor
  case part =>
    intro l hl
    rcases List.mem_append.1 hl with hl | hl
    · exact h.part l hl
    · exact ⟨x, hx, by rw [List.mem_singleton.1 hl, handler]⟩
  case cached =>
    intro d a ha
    obtain ⟨shared, l, hl, found⟩ := h.cached d a ha
    exact ⟨shared, l, List.mem_append_left _ hl, found⟩
  case holds =>
    intro l hl
    rcases List.mem_append.1 hl with hl | hl
    · exact h.holds l hl
    · rw [List.mem_singleton.1 hl, handler, Compiled.part_eq coherent hx]
      exact holds
  case retried =>
    intro d shared
    by_cases hd : k.handler = d
    · subst hd
      simp only [List.filter_append, List.filter_cons, decide_true, if_true, List.filter_nil,
        List.dropLast_concat]
      intro l hl
      have ⟨mem, own⟩ := List.mem_filter.1 hl
      exact again shared l mem (by simpa using own)
    · simpa [List.filter_append, hd] using h.retried d shared
  case last =>
    rw [List.dropLast_concat]
    exact alone

/-- A call that succeeds passes on what was made for it and gives a result. -/
theorem succeed (h : Account root catalogue solo calls (passed + rest) value)
    (passes : x.Passes passed k.invocation.args) (coherent : root.Coherent) (hx : root.Part x)
    (handler : k.handler = x.binding.handler)
    (unshared : root.SharesAll k.handler → value k.handler = none ∧
      ∀ reply, .made k.handler reply ∉ passed + rest)
    (signed : solo = true → .sign ∈ rest) {reply : Reply}
    (answer : catalogue.answer k = .ok reply) :
    Account root catalogue solo (calls ++ [k]) (.made k.handler reply ::ₘ rest) value := by
  have succeeds : catalogue.succeeds k = true := by
    simp [Catalogue.succeeds, answer, Except.isOk, Except.toBool]
  have alone : solo = true → ∀ l ∈ calls, catalogue.succeeds l = true := fun hs =>
    h.sign hs (Multiset.mem_add.2 (.inr (signed hs)))
  have log := log_append h.toCallLog coherent hx handler (h.holds_of_passes passes)
    (fun shared => h.fails coherent shared (unshared shared).2 (unshared shared).1) alone
  refine { log with
    balance := fun d => ?_, failed := ?_, made := ?_, read := ?_, sign := ?_, single := ?_ }
  · have before := h.balance d
    rw [Multiset.countP_add, passes.uses d] at before
    rw [List.countP_append, before, List.map_append, List.sum_append, Multiset.countP_cons]
    simp [succeeds, handler, Compiled.part_eq coherent hx]
    omega
  · intro l hl fails
    rcases List.mem_append.1 hl with hl | hl
    · have held := Multiset.mem_add.1 (h.failed l hl fails)
      exact Multiset.mem_cons_of_mem (held.resolve_left (passes.unfailed _))
    · rw [List.mem_singleton.1 hl, succeeds] at fails
      nomatch fails
  · intro d reply' mem
    rcases Multiset.mem_cons.1 mem with eq | mem
    · cases eq
      exact ⟨k, by simp, rfl, answer⟩
    · obtain ⟨l, hl, made⟩ := h.made d reply' (Multiset.mem_add.2 (.inr mem))
      exact ⟨l, List.mem_append_left _ hl, made⟩
  · exact fun d a mem => h.read d a (Multiset.mem_add.2 (.inr (by simpa using mem)))
  · intro hs _ l hl
    rcases List.mem_append.1 hl with hl | hl
    · exact alone hs l hl
    · rw [List.mem_singleton.1 hl, succeeds]
  · have single := h.single
    rw [Multiset.countP_add] at single
    rw [Multiset.countP_cons_of_neg _ (by simp)]
    omega

theorem fail (h : Account root catalogue solo calls (passed + (Item.signs solo + rest)) value)
    (passes : x.Passes passed k.invocation.args) (coherent : root.Coherent) (hx : root.Part x)
    (handler : k.handler = x.binding.handler)
    (unshared : root.SharesAll k.handler → value k.handler = none ∧
      ∀ reply, .made k.handler reply ∉ passed + (Item.signs solo + rest))
    (fails : catalogue.succeeds k = false) :
    Account root catalogue solo (calls ++ [k]) (.failed k.handler ::ₘ rest) value := by
  have alone : solo = true → ∀ l ∈ calls, catalogue.succeeds l = true := fun hs =>
    h.sign hs (by simp [hs])
  have log := log_append h.toCallLog coherent hx handler (h.holds_of_passes passes)
    (fun shared => h.fails coherent shared (unshared shared).2 (unshared shared).1) alone
  have single := h.single
  rw [Multiset.countP_add, Multiset.countP_add, Item.countP_isSign_signs] at single
  refine { log with
    balance := fun d => ?_, failed := ?_, made := ?_, read := ?_, sign := ?_, single := ?_ }
  · have before := h.balance d
    rw [Multiset.countP_add, Multiset.countP_add, passes.uses d, Item.countP_isMade_signs] at before
    rw [List.countP_append, before, List.map_append, List.sum_append, Multiset.countP_cons]
    simp [fails, handler, Compiled.part_eq coherent hx]
    omega
  · intro l hl fails
    rcases List.mem_append.1 hl with hl | hl
    · have held := (Multiset.mem_add.1 (h.failed l hl fails)).resolve_left (passes.unfailed _)
      exact Multiset.mem_cons_of_mem ((Multiset.mem_add.1 held).resolve_left (by simp))
    · rw [List.mem_singleton.1 hl]
      exact Multiset.mem_cons_self _ _
  · intro d reply mem
    obtain ⟨l, hl, made⟩ := h.made d reply (by simp at mem; simp [mem])
    exact ⟨l, List.mem_append_left _ hl, made⟩
  · exact fun d a mem => h.read d a (by simp at mem; simp [mem])
  · -- the sign that was shared is the only one
    intro hs mem
    have kept : .sign ∈ rest := by simpa using mem
    have more := Multiset.countP_pos_of_mem (p := fun y : Item n => y.isSign) kept (by simp)
    rw [if_pos hs] at single
    omega
  · rw [Multiset.countP_cons_of_neg _ (by simp)]
    omega

end

end Account

end RequestBinding
