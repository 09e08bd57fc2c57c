import RequestBinding.Proofs.Contents.Basic
import RequestBinding.Proofs.Extractor.Effects
import RequestBinding.Proofs.Upload.Store
import Mathlib.Data.List.Forall2

/-!
Files that are submitted under one name.  Main statement: if the limits refuse one of them, each that
is refused is told of, and nothing is made of any; otherwise there is a new handle to each of them,
and all handles are bound, or the last.
-/
namespace RequestBinding

namespace UploadLimits
variable {l : UploadLimits} {p : FilePart} {cause : Cause}

/-- The part is no larger than it may be, and of a type that is listed if any are. -/
structure Allows (l : UploadLimits) (p : FilePart) : Prop where
  size : ∀ most, l.maxSize = some most → p.data.length ≤ most
  type : l.allowedTypes = [] ∨ p.contentType.getD defaultType ∈ l.allowedTypes

/-- Why a part is refused: for its size, or else for its type. -/
inductive Refuses (l : UploadLimits) (p : FilePart) : Cause → Prop
  | size {most : Nat} (limit : l.maxSize = some most) (larger : most < p.data.length) :
    Refuses l p (.fileTooLarge most)
  | type (fits : ∀ most, l.maxSize = some most → p.data.length ≤ most)
    (listed : l.allowedTypes ≠ []) (other : p.contentType.getD defaultType ∉ l.allowedTypes) :
    Refuses l p (.fileTypeRefused (p.contentType.getD defaultType) l.allowedTypes)

theorem Refuses.not_allows (h : l.Refuses p cause) : ¬l.Allows p := by
  intro allows
  cases h with
  | size limit larger => exact Nat.not_le_of_lt larger (allows.size _ limit)
  | type _ listed other => exact allows.type.elim listed other

theorem refusal?_spec (l : UploadLimits) (p : FilePart) :
    (∃ cause, l.refusal? p = some cause ∧ l.Refuses p cause) ∨ l.refusal? p = none ∧ l.Allows p := by
  unfold refusal?
  cases large : l.maxSize.filter (· < p.data.length) with
  | some most =>
    have found := Option.filter_eq_some_iff.1 large
    exact .inl ⟨_, rfl, .size found.1 (of_decide_eq_true found.2)⟩
  | none =>
    have fits : ∀ most, l.maxSize = some most → p.data.length ≤ most := by
      intro most limit
      simpa [limit] using large
    dsimp only
    split
    · next listed =>
      refine .inr ⟨rfl, fits, ?_⟩
      simpa using listed
    · next other =>
      rw [not_or, List.isEmpty_iff] at other
      exact .inl ⟨_, rfl, .type fits other.1 other.2⟩

theorem refusal?_eq_none_iff : l.refusal? p = none ↔ l.Allows p := by
  rcases l.refusal?_spec p with ⟨cause, refused, why⟩ | ⟨allowed, allows⟩
  · rw [refused]
    exact iff_of_false nofun why.not_allows
  · exact iff_of_true allowed allows

instance : DecidablePred l.Allows := fun _ => decidable_of_iff _ refusal?_eq_none_iff

/-- Of several parts, each that is not allowed is told of once, in order. -/
theorem forall₂_check (l : UploadLimits) (field : String) (parts : List FilePart) :
    List.Forall₂ (fun p v => ∃ cause, l.Refuses p cause ∧ v = ⟨"file", field, cause, none⟩)
      (parts.filter (¬l.Allows ·)) (parts.filterMap (l.check · field)) := by
  induction parts with
  | nil => exact .nil
  | cons p ps ih =>
    rcases l.refusal?_spec p with ⟨cause, refused, why⟩ | ⟨allowed, allows⟩
    · have told : l.check p field = some ⟨"file", field, cause, none⟩ := by rw [check, refused]; rfl
      rw [List.filter_cons_of_pos (by simpa using why.not_allows), List.filterMap_cons, told]
      exact .cons ⟨cause, why, rfl⟩ ih
    · have told : l.check p field = none := by rw [check, allowed]; rfl
      rw [List.filter_cons_of_neg (by simpa using allows), List.filterMap_cons, told]
      exact ih

end UploadLimits

variable {n : Nat}

/-- Of every part a handle was made: new, not released, to what was submitted, in order; the scope
tracks them after those that it tracked. -/
structure Session.Received (parts : List FilePart) (handles : List UploadFile) (s s' : Session n) :
    Prop where
  contents : handles.map (UploadFile.content s'.uploads) = parts.map FilePart.content
  fresh : ∀ u ∈ handles, s.uploads.contents.length ≤ u.id
  nodup : (handles.map UploadFile.id).Nodup
  opened : ∀ u ∈ handles, s'.uploads.isReleased u = false
  kept : s.uploads.Extends s'.uploads
  scope : s'.scope = { s.scope with tracked := s.scope.tracked ++ handles }

theorem Session.received_receive (parts : List FilePart) (s : Session n) :
    s.Received parts (receive parts s).1 (receive parts s).2 := by
  obtain ⟨kept, -, contents⟩ := s.uploads.addAll_spec parts
  have ids := s.uploads.ids_addAll parts
  refine ⟨contents, fun u hu => ?_, ?_, fun u hu => ?_, kept, scope_receive parts s⟩
  · have new : u.id ∈ List.range' s.uploads.contents.length parts.length :=
      ids ▸ List.mem_map_of_mem hu
    exact (List.mem_range'_1.1 new).1
  · show ((s.uploads.addAll parts).1.map UploadFile.id).Nodup
    rw [ids]
    exact List.nodup_range'
  · have there : u.content (s.uploads.addAll parts).2 ∈ parts.map FilePart.content :=
      contents ▸ List.mem_map_of_mem hu
    obtain ⟨p, -, same⟩ := List.mem_map.1 there
    have data : some p.data = (s.uploads.addAll parts).2.read u := congrArg FileContent.data same
    show Option.isNone ((s.uploads.addAll parts).2.read u) = false
    rw [← data]
    rfl

namespace Extractor
variable {config : Config n} {t : Target} {embed : Bool} {e : Extractor} {r : Request}
  {parts : List FilePart}

theorem apply_file (made : ofSource? config .file t embed = some e)
    (submitted : r.form.files? t.key = some parts) (s : Session n) :
    e.apply r s = bindFiles parts t config.limits (Session.form r s).2 := by
  cases made
  show bindFiles ((r.form.files? t.key).getD []) t config.limits (Session.form r s).2 = _
  rw [submitted, Option.getD_some]

/-- Where files are submitted under the key of a parameter and the limits refuse one of them, each
that is refused is told of once, in order, and neither the scope nor the store changes.  Where all
are allowed, there is a new handle to each of them, in order, which the scope tracks; a list is
bound to all handles, and anything else to the last. -/
theorem files_all_or_none (made : ofSource? config .file t embed = some e)
    (submitted : r.form.files? t.key = some parts) (some : parts ≠ []) (s : Session n) :
    ((∃ p ∈ parts, ¬config.limits.Allows p) → ∃ vs, (e.apply r s).1 = .error vs ∧
      List.Forall₂ (fun p v => ∃ cause, config.limits.Refuses p cause ∧
        v = ⟨"file", t.key, cause, none⟩) (parts.filter (¬config.limits.Allows ·)) vs ∧
      (e.apply r s).2.scope = s.scope ∧ (e.apply r s).2.uploads = s.uploads) ∧
    ((∀ p ∈ parts, config.limits.Allows p) → ∃ handles last,
      s.Received parts handles (e.apply r s).2 ∧ handles.getLast? = .some last ∧
      (e.apply r s).1 = .ok (if t.schema.isList then .uploads handles else .upload last)) := by
  have told := config.limits.forall₂_check t.key parts
  rw [apply_file made submitted, bindFiles_eq, if_neg (by simpa using some)]
  constructor
  · rintro ⟨p, hp, refused⟩
    have among : p ∈ parts.filter (¬config.limits.Allows ·) :=
      List.mem_filter.2 ⟨hp, by simpa using refused⟩
    cases violations : parts.filterMap (config.limits.check · t.key) with
    | nil =>
      rw [violations, List.forall₂_nil_right_iff] at told
      exact absurd among (told ▸ List.not_mem_nil)
    | cons v vs => exact ⟨v :: vs, rfl, violations ▸ told, rfl, rfl⟩
  · intro allowed
    have none : parts.filter (¬config.limits.Allows ·) = [] :=
      List.filter_eq_nil_iff.2 fun p hp => by simpa using allowed p hp
    rw [none, List.forall₂_nil_left_iff] at told
    rw [told]
    let s' := (Session.form r s).2
    have received := s'.received_receive parts
    have handles : (Session.receive parts s').1 ≠ [] := by
      intro empty
      have contents := received.contents
      rw [empty] at contents
      exact some (List.map_eq_nil_iff.1 contents.symm)
    have last := List.getLast?_eq_some_getLast handles
    refine ⟨(Session.receive parts s').1, _, ?_, last, ?_⟩
    · exact ⟨received.contents, received.fresh, received.nodup, received.opened, received.kept,
        received.scope⟩
    · show bindHandles _ t = _
      rw [bindHandles, last]
      cases t.schema.isList <;> rfl

theorem files_all_or_none_picture :
    let config : Config 0 := { limits := { maxSize := some 2 } }
    let t : Target := ⟨"picture", .optional .upload, none⟩
    let small : FilePart := ⟨some "a.png", some "image/png", [1, 2]⟩
    let large : FilePart := ⟨none, some "image/png", [1, 2, 3]⟩
    let r := ({ method := .post, path := "/" } : Request).withFile "picture" small
    let e : Extractor := .file t config.limits
    ofSource? config .file t false = some e ∧
      (r.withFile "picture" large).form.files? t.key = some [small, large] ∧
      ¬config.limits.Allows large ∧
      (∃ vs, (e.apply (r.withFile "picture" large) ({} : Session 0)).1 = .error vs ∧
        vs.length = 1) ∧
      (r.withFile "picture" small).form.files? t.key = some [small, small] ∧
      (∀ p ∈ [small, small], config.limits.Allows p) ∧
      ∃ handles last, Session.Received [small, small] handles ({} : Session 0)
          (e.apply (r.withFile "picture" small) {}).2 ∧ handles.getLast? = some last ∧
        (e.apply (r.withFile "picture" small) ({} : Session 0)).1 = .ok (.upload last) := by
  intro config t small large r e
  have made : ofSource? config .file t false = some e := rfl
  have submitted : (r.withFile "picture" large).form.files? t.key = some [small, large] := rfl
  have refused : ¬config.limits.Allows large := by decide
  have submitted' : (r.withFile "picture" small).form.files? t.key = some [small, small] := rfl
  have allowed : ∀ p ∈ [small, small], config.limits.Allows p := by decide
  obtain ⟨vs, bound, told, -⟩ := (files_all_or_none made submitted nofun {}).1
    ⟨large, by simp, refused⟩
  refine ⟨made, submitted, refused, ⟨vs, bound, ?_⟩, submitted', allowed,
    (files_all_or_none made submitted' nofun {}).2 allowed⟩
  have one : [small, large].filter (¬config.limits.Allows ·) = [large] := by decide
  exact (one ▸ told.length_eq).symm

end Extractor

end RequestBinding
