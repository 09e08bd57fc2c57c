import RequestBinding.Proofs.Extractor.Refusal

/-!
What extractors do to a session.  Main statement: an extractor is about neither calls nor cached
values.
-/
namespace RequestBinding
variable {n : Nat} {α : Type}

def Decoder.read (d : Decoder) (body : Bytes) : Payload :=
  if body.all Text.isBlankByte then .ok none else d.payload body

theorem Session.payload_eq (decoder : Decoder) (body : Bytes) (s : Session n) :
    payload decoder body s = match s.scope.body with
      | some p => (p, s)
      | none => (decoder.read body, { s with
          scope := { s.scope with body := some (decoder.read body) }
          decodes := if body.all Text.isBlankByte then s.decodes else s.decodes + 1 }) := by
  simp only [payload, bind, StateT.bind, get, getThe, MonadStateOf.get, StateT.get, pure,
    set, Scope.decodeOnce, Decoder.read]
  cases h : s.scope.body <;> rfl

/-- A step that is about neither calls nor cached values. -/
def Aside (act : StateM (Session n) α) : Prop :=
  ∀ s, (act s).2.calls = s.calls ∧ (act s).2.scope.slots = s.scope.slots ∧
    (act s).2.tickets = s.tickets

theorem Aside.bind {β : Type} {act : StateM (Session n) α} {next : α → StateM (Session n) β}
    (h : Aside act) (rest : ∀ a, Aside (next a)) : Aside (act >>= next) := fun s =>
  have ⟨calls, slots, tickets⟩ := h s
  have ⟨calls', slots', tickets'⟩ := rest (act s).1 (act s).2
  ⟨calls'.trans calls, slots'.trans slots, tickets'.trans tickets⟩

theorem Scope.foldl_track {κ : Type} (s : Scope κ) (handles : List UploadFile) :
    handles.foldl track s = { s with tracked := s.tracked ++ handles } := by
  induction handles generalizing s with
  | nil => rw [List.foldl_nil, List.append_nil]
  | cons u us ih => rw [List.foldl_cons, ih, track, List.append_assoc, List.singleton_append]

namespace Session

theorem aside_form (r : Request) : Aside (n := n) (form r) := fun _ => ⟨rfl, rfl, rfl⟩

theorem aside_payload (decoder : Decoder) (body : Bytes) :
    Aside (n := n) (payload decoder body) := by
  intro s
  rw [payload_eq]
  cases s.scope.body <;> exact ⟨rfl, rfl, rfl⟩

theorem scope_receive (parts : List FilePart) (s : Session n) : (receive parts s).2.scope =
    { s.scope with tracked := s.scope.tracked ++ (s.uploads.addAll parts).1 } :=
  s.scope.foldl_track _

theorem aside_receive (parts : List FilePart) : Aside (n := n) (receive parts) := fun s =>
  ⟨rfl, by rw [scope_receive], rfl⟩

theorem aside_accept (reply : Reply) : Aside (n := n) (accept reply) := by
  intro s
  cases reply <;> exact ⟨rfl, rfl, rfl⟩

end Session

namespace Extractor

theorem snd_bindFiles (parts : List FilePart) (t : Target) (limits : UploadLimits)
    (s : Session n) : (bindFiles parts t limits s).2 = s ∨
      (bindFiles parts t limits s).2 = (Session.receive parts s).2 := by
  rw [bindFiles_eq]
  split
  · exact .inl rfl
  · split
    · exact .inr rfl
    · exact .inl rfl

/-- What an extractor makes in a session: nothing, the payload, the form, or handles to files. -/
theorem snd_apply {P : Session n → Prop} (e : Extractor) (r : Request) (s : Session n)
    (nothing : P s)
    (payload : ∀ t embed d, e = .body t embed d → isRaw t embed = false →
      P (Session.payload d r.body s).2)
    (form : P (Session.form r s).2)
    (receive : ∀ parts, P (Session.receive parts (Session.form r s).2).2) : P (e.apply r s).2 := by
  cases e with
  | path t => exact nothing
  | query t => exact nothing
  | header t => exact nothing
  | cookie t => exact nothing
  | form t => exact form
  | body t embed decoder =>
    rw [apply_body]
    cases raw : isRaw t embed with
    | true => exact nothing
    | false => exact payload t embed decoder rfl raw
  | file t limits =>
    let parts := (r.form.files? t.key).getD []
    change P (bindFiles parts t limits (Session.form r s).2).2
    rcases snd_bindFiles parts t limits (Session.form r s).2 with same | received
    · rw [same]
      exact form
    · rw [received]
      exact receive parts

theorem aside_apply (e : Extractor) (r : Request) : Aside (n := n) (e.apply r) := fun s =>
  e.snd_apply (P := fun t => t.calls = s.calls ∧ t.scope.slots = s.scope.slots ∧
      t.tickets = s.tickets) r s ⟨rfl, rfl, rfl⟩ (fun _ _ d _ _ => Session.aside_payload d r.body s)
    (Session.aside_form r s) fun parts => Session.aside_receive parts (Session.form r s).2

end Extractor

end RequestBinding
