import RequestBinding.Proofs.Contents.Basic
import RequestBinding.Proofs.Extractor.Effects

/-!
What extractors read, by contents.  Main statement: an extractor comes to the same contents on every
session on which the body is decoded as it is to be.
-/
namespace RequestBinding
variable {n : Nat}

/-- What an extractor comes to on a session of its own, by contents. -/
def Extractor.reading (r : Request) (e : Extractor) : Except (List Violation) Content :=
  let out := e.apply r ({} : Session 0)
  out.1.map (Arg.content out.2.uploads)

/-- The body has not been decoded, or as the decoder reads it. -/
def Session.Reads (decoder : Decoder) (body : Bytes) (s : Session n) : Prop :=
  ∀ p, s.scope.body = some p → p = decoder.read body

structure Extractor.Read (decoder : Decoder) (r : Request) (s : Session n)
    (out : Bound × Session n) (reading : Except (List Violation) Content) : Prop where
  content : out.1.map (Arg.content out.2.uploads) = reading
  stored : ∀ a, out.1 = .ok a → a.Stored out.2.uploads
  grown : s.uploads.Extends out.2.uploads
  reads : out.2.Reads decoder r.body

theorem Plain.content_eq {x : Bound} (h : Plain x) (s t : UploadStore) :
    x.map (Arg.content s) = x.map (Arg.content t) := by
  cases h <;> rfl

theorem Plain.stored {x : Bound} (h : Plain x) {a : Arg} (ha : x = .ok a) (s : UploadStore) :
    a.Stored s := by
  cases h with
  | value v =>
    cases ha
    simp [Arg.Stored, Arg.handles]
  | refused _ => cases ha

namespace Extractor
variable {decoder : Decoder} {r : Request} {s t : Session n} {x : Bound}

theorem read_plain (plain : Plain x) (uploads : t.uploads = s.uploads)
    (reads : t.Reads decoder r.body) (store : UploadStore) :
    Read decoder r s (x, t) (x.map (Arg.content store)) where
  content := plain.content_eq _ _
  stored _ ha := plain.stored ha _
  grown := by rw [uploads]; exact .refl _
  reads := reads

def readHandles (parts : List FilePart) (t : Target) : Except (List Violation) Content :=
  if t.schema.isList then .ok (.files (parts.map FilePart.content))
  else match parts.getLast? with
    | some p => .ok (.file p.content)
    | none => (t.absent .file).map (Arg.content {})

def readFiles (parts : List FilePart) (t : Target) (limits : UploadLimits) :
    Except (List Violation) Content :=
  if parts.isEmpty then (t.absent .file).map (Arg.content {})
  else match parts.filterMap (limits.check · t.key) with
    | [] => readHandles parts t
    | vs => .error vs

/-- Handles stand for the parts that they were made of. -/
structure Stands (store : UploadStore) (handles : List UploadFile) (parts : List FilePart) :
    Prop where
  stored : ∀ u ∈ handles, u.id < store.contents.length
  contents : handles.map (UploadFile.content store) = parts.map FilePart.content

theorem Stands.last {store : UploadStore} {handles : List UploadFile} {parts : List FilePart}
    (h : Stands store handles parts) :
    handles.getLast?.map (UploadFile.content store) = parts.getLast?.map FilePart.content := by
  rw [← List.getLast?_map, ← List.getLast?_map, h.contents]

theorem read_bindHandles {handles : List UploadFile} {parts : List FilePart}
    (stands : Stands t.uploads handles parts) (grown : s.uploads.Extends t.uploads)
    (reads : t.Reads decoder r.body) (target : Target) :
    Read decoder r s (bindHandles handles target, t) (readHandles parts target) := by
  have last := stands.last
  unfold bindHandles readHandles
  split
  · refine ⟨?_, ?_, grown, reads⟩
    · exact congrArg (Except.ok ∘ Content.files) stands.contents
    · rintro _ ⟨⟩
      exact stands.stored
  · cases hu : handles.getLast? with
    | some u =>
      obtain ⟨p, hp, same⟩ : ∃ p, parts.getLast? = some p ∧ p.content = u.content t.uploads := by
        rw [hu] at last
        simpa using last.symm
      refine ⟨?_, ?_, grown, reads⟩
      · rw [hp]
        exact congrArg (Except.ok ∘ Content.file) same.symm
      · rintro _ ⟨⟩ v hv
        rw [List.mem_singleton.1 hv]
        exact stands.stored u (List.mem_of_getLast? hu)
    | none =>
      have none : parts.getLast? = none := by
        rw [hu] at last
        simpa using last.symm
      rw [none]
      have plain := target.plain_absent .file
      exact ⟨plain.content_eq _ _, fun a ha => plain.stored ha _, grown, reads⟩

theorem read_bindFiles (reads : s.Reads decoder r.body) (parts : List FilePart) (target : Target)
    (limits : UploadLimits) :
    Read decoder r s (bindFiles parts target limits s) (readFiles parts target limits) := by
  have received : (Session.receive parts s).2.Reads decoder r.body := by
    unfold Session.Reads
    rwa [Session.scope_receive]
  obtain ⟨grown, stored, contents⟩ := s.uploads.addAll_spec parts
  rw [bindFiles_eq]
  unfold readFiles
  split
  · exact read_plain (target.plain_absent .file) rfl reads {}
  · cases parts.filterMap (limits.check · target.key) with
    | nil => exact read_bindHandles ⟨stored, contents⟩ grown received target
    | cons v vs => exact ⟨rfl, nofun, .refl _, reads⟩

theorem read_payload (reads : s.Reads decoder r.body) :
    (Session.payload decoder r.body s).1 = decoder.read r.body ∧
      (Session.payload decoder r.body s).2.uploads = s.uploads ∧
      (Session.payload decoder r.body s).2.Reads decoder r.body := by
  rw [Session.payload_eq]
  split
  · next p hp => exact ⟨reads p hp, rfl, reads⟩
  · exact ⟨rfl, rfl, by rintro p ⟨⟩; rfl⟩

def Steady (decoder : Decoder) (r : Request) (e : Extractor) : Prop :=
  ∃ reading, ∀ (m : Nat) (s : Session m), s.Reads decoder r.body →
    Read decoder r s (e.apply r s) reading

theorem steady_of_plain {e : Extractor} (plain : Plain x)
    (h : ∀ (m : Nat) (s : Session m), s.Reads decoder r.body → (e.apply r s).1 = x ∧
      (e.apply r s).2.uploads = s.uploads ∧ (e.apply r s).2.Reads decoder r.body) :
    Steady decoder r e := by
  refine ⟨x.map (Arg.content {}), fun m s reads => ?_⟩
  obtain ⟨bound, uploads, kept⟩ := h m s reads
  have read := read_plain plain uploads kept {}
  rwa [← bound] at read ⊢

theorem steady (e : Extractor) (r : Request)
    (own : ∀ t embed d, e = .body t embed d → d = decoder) : Steady decoder r e := by
  cases e with
  | path t => exact steady_of_plain (plain_bindWhere _ _ _ t) fun m s reads => ⟨rfl, rfl, reads⟩
  | query t => exact steady_of_plain (plain_bindWhere _ _ _ t) fun m s reads => ⟨rfl, rfl, reads⟩
  | header t => exact steady_of_plain (plain_bindWhere _ _ _ t) fun m s reads => ⟨rfl, rfl, reads⟩
  | cookie t => exact steady_of_plain (plain_bindWhere _ _ _ t) fun m s reads => ⟨rfl, rfl, reads⟩
  | form t => exact steady_of_plain (plain_bindWhere _ _ _ t) fun m s reads => ⟨rfl, rfl, reads⟩
  | body t embed d =>
    cases own t embed d rfl
    cases raw : isRaw t embed with
    | true =>
      refine steady_of_plain (plain_bindRaw r.body t) fun m s reads => ?_
      rw [apply_body, raw]
      exact ⟨rfl, rfl, reads⟩
    | false =>
      refine steady_of_plain (plain_bindDecoded (decoder.read r.body) t embed) fun m s reads => ?_
      obtain ⟨payload, uploads, kept⟩ := read_payload reads
      rw [apply_body, raw]
      exact ⟨by rw [← payload]; rfl, uploads, kept⟩
  | file t limits =>
    refine ⟨readFiles ((r.form.files? t.key).getD []) t limits, fun m s reads => ?_⟩
    have formed : (Session.form r s).2.Reads decoder r.body := reads
    have read := read_bindFiles formed ((r.form.files? t.key).getD []) t limits
    exact ⟨read.content, read.stored, read.grown, read.reads⟩

/-- An extractor comes to the same contents on all sessions. -/
theorem read_apply (e : Extractor) (own : ∀ t embed d, e = .body t embed d → d = decoder)
    (reads : s.Reads decoder r.body) : Read decoder r s (e.apply r s) (e.reading r) := by
  obtain ⟨reading, h⟩ := e.steady r own
  have blank : e.reading r = reading := (h 0 {} nofun).content
  rw [blank]
  exact h n s reads

end Extractor

end RequestBinding
