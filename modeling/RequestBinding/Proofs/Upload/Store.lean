import RequestBinding.Upload
import Mathlib.Data.List.Range

/-!
Stores of uploaded files.  Main statement: a store is as good as files that are each marked when
they are released, apart from their contents; the mark alone decides what a release comes to.
-/
namespace RequestBinding

namespace UploadStore
variable (s : UploadStore) (u v : UploadFile) (us vs : List UploadFile)

/-- From a number on, no file is released. -/
def OpenFrom (base : Nat) (s : UploadStore) : Prop :=
  ∀ u : UploadFile, base ≤ u.id → u.id < s.contents.length → s.isReleased u = false

/-- The handles that released their file when all of them are released in order. -/
def freed (s : UploadStore) : List UploadFile → List UploadFile
  | [] => []
  | u :: us =>
    let (now, s) := s.release u
    if now then u :: s.freed us else s.freed us

theorem length_freed : (s.freed us).length = (s.releaseAll us).1 := by
  induction us generalizing s with
  | nil => rfl
  | cons u us ih =>
    simp only [freed, releaseAll, ← ih]
    cases (s.release u).1 <;> simp

theorem releaseAll_append :
    (s.releaseAll (us ++ vs)).2 = ((s.releaseAll us).2.releaseAll vs).2 := by
  induction us generalizing s with
  | nil => rfl
  | cons u us ih => exact ih _

@[simp] theorem length_releaseAll :
    (s.releaseAll us).2.contents.length = s.contents.length := by
  induction us generalizing s with
  | nil => rfl
  | cons u us ih => exact (ih _).trans List.length_set

theorem isReleased_release :
    (s.release u).2.isReleased v = (s.isReleased v || u.id == v.id) := by
  simp only [isReleased, read, release, List.getElem?_set]
  by_cases same : u.id = v.id
  · by_cases inside : v.id < s.contents.length <;> simp [same, inside]
  · simp [same]

theorem isReleased_releaseAll :
    (s.releaseAll us).2.isReleased v = (s.isReleased v || us.any fun u => u.id == v.id) := by
  induction us generalizing s with
  | nil => simp [releaseAll]
  | cons u us ih =>
    change ((s.release u).2.releaseAll us).2.isReleased v = _
    rw [ih, isReleased_release, List.any_cons, Bool.or_assoc]

/-- Handles of different files that are all open release one file each. -/
theorem freed_eq_self {s : UploadStore} {us : List UploadFile}
    (nodup : (us.map UploadFile.id).Nodup) (opened : ∀ u ∈ us, s.isReleased u = false) :
    s.freed us = us := by
  induction us generalizing s with
  | nil => rfl
  | cons u us ih =>
    rw [List.map_cons, List.nodup_cons] at nodup
    have now : (s.release u).1 = true := by simp [release, opened u (by simp)]
    have rest : ∀ v ∈ us, (s.release u).2.isReleased v = false := by
      intro v hv
      have other : u.id ≠ v.id := fun same => nodup.1 (same ▸ List.mem_map_of_mem hv)
      simp [isReleased_release, opened v (by simp [hv]), other]
    simp only [freed, now, if_true, ih nodup.2 rest]

theorem contents_addAll (parts : List FilePart) :
    (s.addAll parts).2.contents = s.contents ++ parts.map fun p => some p.data := by
  induction parts generalizing s with
  | nil => simp [addAll]
  | cons p ps ih => simp [addAll, ih, add]

theorem ids_addAll (parts : List FilePart) :
    (s.addAll parts).1.map UploadFile.id = List.range' s.contents.length parts.length := by
  induction parts generalizing s with
  | nil => rfl
  | cons p ps ih =>
    simp only [addAll, List.map_cons, ih, List.length_cons, List.range'_succ]
    simp [add]

theorem OpenFrom.addAll {s : UploadStore} {base : Nat} (h : s.OpenFrom base)
    (parts : List FilePart) : (s.addAll parts).2.OpenFrom base := by
  intro u le lt
  by_cases old : u.id < s.contents.length
  · have := h u le old
    simpa [isReleased, read, contents_addAll, List.getElem?_append_left old] using this
  · rw [contents_addAll, List.length_append, List.length_map] at lt
    simp only [isReleased, read, contents_addAll]
    rw [List.getElem?_append_right (by omega), List.getElem?_map,
      List.getElem?_eq_getElem (by omega)]
    rfl

theorem mem_ids_freed {i : Nat} : i ∈ (s.freed us).map UploadFile.id ↔
    i ∈ us.map UploadFile.id ∧ s.contents[i]?.join.isSome := by
  induction us generalizing s with
  | nil => simp [freed]
  | cons u us ih =>
    have rest : (s.release u).2.contents[i]?.join.isSome ↔
        i ≠ u.id ∧ s.contents[i]?.join.isSome := by
      simp only [release, List.getElem?_set]
      by_cases same : u.id = i
      · by_cases inside : i < s.contents.length <;> simp [same, inside]
      · simp [same, Ne.symm same]
    have now : (s.release u).1 = s.contents[u.id]?.join.isSome := by
      simp [release, isReleased, read]
    simp only [freed, now]
    cases full : s.contents[u.id]?.join with
    | none =>
      simp only [Option.isSome_none, Bool.false_eq_true, if_false, ih, rest, List.map_cons,
        List.mem_cons]
      grind
    | some bs =>
      simp only [Option.isSome_some, if_true, List.map_cons, List.mem_cons, ih, rest]
      grind

theorem nodup_ids_freed : ((s.freed us).map UploadFile.id).Nodup := by
  induction us generalizing s with
  | nil => simp [freed]
  | cons u us ih =>
    have gone : u.id ∉ ((s.release u).2.freed us).map UploadFile.id := by
      rw [mem_ids_freed]
      by_cases inside : u.id < s.contents.length <;> simp [release, inside]
    simp only [freed]
    split
    · rw [List.map_cons, List.nodup_cons]
      exact ⟨gone, ih _⟩
    · exact ih _

end UploadStore

/-- A file that is marked when it is released, apart from its contents. -/
structure MarkedFile where
  data : Option Bytes
  released : Bool := false

namespace MarkedFile

/-- Set the mark and take the contents away; true only when this very call set the mark. -/
def release (f : MarkedFile) : Bool × MarkedFile :=
  if f.released then (false, f) else (true, ⟨none, true⟩)

def releaseAll (files : List MarkedFile) (us : List UploadFile) : List MarkedFile :=
  us.foldl (fun files u => files.modify u.id fun f => f.release.2) files

@[simp] theorem fst_release (f : MarkedFile) : f.release.1 = !f.released := by
  unfold release
  split <;> simp_all

theorem release_release (f : MarkedFile) : f.release.2.release.2 = f.release.2 := by
  unfold release
  split <;> simp_all

/-- Where the mark fits the contents, a release leaves neither open. -/
theorem snd_release {f : MarkedFile} (fits : f.released = f.data.isNone) :
    f.release.2 = ⟨none, true⟩ := by
  obtain ⟨data, released⟩ := f
  cases released with
  | false => rfl
  | true =>
    obtain rfl : data = none := Option.isNone_iff_eq_none.1 fits.symm
    rfl

@[simp] theorem length_releaseAll (files : List MarkedFile) (us : List UploadFile) :
    (releaseAll files us).length = files.length := by
  induction us generalizing files with
  | nil => rfl
  | cons u us ih => exact (ih _).trans (List.length_modify _ _ _)

theorem getElem?_releaseAll (files : List MarkedFile) (us : List UploadFile) (i : Nat) :
    (releaseAll files us)[i]? = files[i]?.map fun f =>
      if i ∈ us.map UploadFile.id then f.release.2 else f := by
  induction us generalizing files with
  | nil => simp [releaseAll]
  | cons u us ih =>
    have rest : (releaseAll files (u :: us))[i]? = _ :=
      ih (files.modify u.id fun f => f.release.2)
    rw [rest, List.getElem?_modify]
    cases files[i]? with
    | none => simp
    | some f =>
      by_cases same : u.id = i
      · simp [same, release_release]
      · simp [same, Ne.symm same]

end MarkedFile

/-- The store has the contents of the files, and those that are marked have none. -/
structure UploadStore.Shows (s : UploadStore) (files : List MarkedFile) : Prop where
  contents : s.contents = files.map MarkedFile.data
  marked : ∀ f ∈ files, f.released = f.data.isNone

namespace UploadStore.Shows
variable {s : UploadStore} {files : List MarkedFile}

theorem read_eq (h : s.Shows files) (u : UploadFile) :
    s.read u = files[u.id]?.bind MarkedFile.data := by
  rw [read, h.contents, List.getElem?_map]
  cases files[u.id]? <;> rfl

theorem isReleased_eq (h : s.Shows files) {u : UploadFile} {f : MarkedFile}
    (hf : files[u.id]? = some f) : s.isReleased u = f.released := by
  rw [isReleased, h.read_eq, hf, h.marked f (List.mem_of_getElem? hf)]
  rfl

theorem fst_release_eq (h : s.Shows files) {u : UploadFile} {f : MarkedFile}
    (hf : files[u.id]? = some f) : (s.release u).1 = f.release.1 := by
  rw [release, h.isReleased_eq hf, MarkedFile.fst_release]

theorem append (h : s.Shows files) (parts : List FilePart) :
    UploadStore.Shows ⟨s.contents ++ parts.map fun p => some p.data⟩
      (files ++ parts.map fun p => ⟨some p.data, false⟩) where
  contents := by simp [h.contents]
  marked f hf := by
    rcases List.mem_append.1 hf with old | new
    · exact h.marked f old
    · obtain ⟨p, _, rfl⟩ := List.mem_map.1 new
      rfl

theorem release (h : s.Shows files) (u : UploadFile) :
    (s.release u).2.Shows (files.modify u.id fun f => f.release.2) where
  contents := by
    refine List.ext_getElem? fun i => ?_
    simp only [UploadStore.release, h.contents, List.getElem?_set, List.getElem?_map,
      List.getElem?_modify, List.length_map]
    by_cases same : u.id = i
    · subst same
      cases file : files[u.id]? with
      | none =>
        have outside := List.getElem?_eq_none_iff.1 file
        simp [outside.not_gt]
      | some f =>
        obtain ⟨inside, _⟩ := List.getElem?_eq_some_iff.1 file
        simp [inside, MarkedFile.snd_release (h.marked f (List.mem_of_getElem? file))]
    · simp [same]
  marked f hf := by
    obtain ⟨i, hi⟩ := List.mem_iff_getElem?.1 hf
    rw [List.getElem?_modify] at hi
    obtain ⟨g, hg, rfl⟩ := Option.map_eq_some_iff.1 hi
    have marked := h.marked g (List.mem_of_getElem? hg)
    split
    · rw [MarkedFile.snd_release marked]
      rfl
    · exact marked

theorem releaseAll (h : s.Shows files) (us : List UploadFile) :
    (s.releaseAll us).2.Shows (MarkedFile.releaseAll files us) := by
  induction us generalizing s files with
  | nil => exact h
  | cons u us ih => exact ih (h.release u)

end UploadStore.Shows

end RequestBinding
