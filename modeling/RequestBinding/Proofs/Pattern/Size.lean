import RequestBinding.Pattern.Size
import RequestBinding.Proofs.Pattern.Sequences

/-!
The memory of automata.  Main statement: the automata of a text take room in proportion to its
bytes.
-/
namespace RequestBinding

namespace Automaton
variable {α β : Type}

/-- The building ends with the answer and takes so many bytes at most, where there is room. -/
def Takes (b : Building α) (bytes : Nat) (a : α) : Prop :=
  ∀ e, e.bytes + bytes ≤ sizeLimit → ∃ e', b.run e = some (a, e') ∧ e'.bytes ≤ e.bytes + bytes

theorem takes_pure (a : α) : Takes (pure a) 0 a := fun e _ => ⟨e, rfl, Nat.le_refl _⟩

theorem takes_grow (states extra : Nat) : Takes (grow states extra) (32 * states + extra) () := by
  intro e room
  have grown : (⟨e.states + states, e.extra + extra⟩ : Extent).bytes =
      e.bytes + (32 * states + extra) := by
    simp only [Extent.bytes]
    omega
  refine ⟨_, ?_, Nat.le_of_eq grown⟩
  show (if sizeLimit < Extent.bytes _ then none else some ((), _)) = _
  rw [if_neg (by omega)]

theorem Takes.bind {b : Building α} {f : α → Building β} {m n : Nat} {a : α} {c : β}
    (h : Takes b m a) (h' : Takes (f a) n c) : Takes (b >>= f) (m + n) c := by
  intro e room
  obtain ⟨e₁, first, small⟩ := h e (by omega)
  obtain ⟨e₂, second, small'⟩ := h' e₁ (by omega)
  exact ⟨e₂, by rw [StateT.run_bind, first]; exact second, by omega⟩

theorem Takes.mono {b : Building α} {m n : Nat} {a : α} (h : Takes b m a) (le : m ≤ n) :
    Takes b n a := by
  intro e room
  obtain ⟨e', run, small⟩ := h e (by omega)
  exact ⟨e', run, by omega⟩

def octets (cs : List Char) : Nat := (cs.flatMap String.utf8EncodeChar).length

theorem octets_cons (c : Char) (cs : List Char) :
    octets (c :: cs) = (String.utf8EncodeChar c).length + octets cs := by
  rw [octets, List.flatMap_cons, List.length_append, octets]

theorem takes_char (d : Direction) (c : Char) :
    Takes (add d (.char c) none) (32 * (String.utf8EncodeChar c).length) false := by
  have built : add d (.char c) none =
      (grow (String.utf8EncodeChar c).length 0 >>= fun _ => pure false) := by
    show addSet d (.single c) = _
    rw [addSet, CharSet.single?_single]
  rw [built]
  exact (takes_grow _ 0).bind (f := fun _ => pure false) (takes_pure false)

theorem takes_link : Takes (link false) 0 () := takes_grow 0 0

theorem takes_text (d : Direction) (cs : List Char) :
    Takes (add d (.text cs) none) (32 * (octets cs + 1)) false := by
  induction cs with
  | nil => exact (takes_grow 1 0).bind (f := fun _ => pure false) (takes_pure false)
  | cons c cs ih =>
    have one := takes_char d c
    rw [octets_cons]
    cases cs with
    | nil => exact one.mono (by omega)
    | cons e cs =>
      cases d with
      | forward => exact (one.bind (takes_link.bind ih)).mono (by omega)
      | backward => exact (ih.bind (takes_link.bind one)).mono (by omega)

theorem takes_whole {part : Building EndsInBranching} {bytes : Nat} (anchored : Bool)
    (h : Takes part bytes false) :
    Takes (do
      if anchored then grow 1 0 else grow 3 (rangeEdge + 2 * edge)
      link (← part)
      grow 1 0) (bytes + 144) () := by
  have rest : Takes (do
      link (← part)
      grow 1 0) (bytes + (0 + 32)) () := h.bind (takes_link.bind (takes_grow 1 0))
  cases anchored with
  | true => exact ((takes_grow 1 0).bind rest).mono (by omega)
  | false => exact ((takes_grow 3 _).bind rest).mono (by simp only [rangeEdge, edge]; omega)

theorem takes_automaton (d : Direction) (cs : List Char) :
    Takes (Regex.automaton d (.text cs)) (32 * octets cs + 240) () := by
  have text := takes_text d cs
  cases d with
  | forward =>
    have group : Takes (add .forward (.group 0 (.text cs)) none)
        (32 + (32 * (octets cs + 1) + (0 + (32 + 0)))) false :=
      (takes_grow 1 0).bind (text.bind (takes_link.bind
        ((takes_grow 1 0).bind (takes_pure false))))
    exact (takes_whole _ group).mono (by omega)
  | backward => exact (takes_whole _ text).mono (by omega)

end Automaton

end RequestBinding
