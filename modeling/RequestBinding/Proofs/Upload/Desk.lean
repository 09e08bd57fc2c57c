import RequestBinding.Proofs.Upload.Store
import RequestBinding.Scope
import Mathlib.Data.Finset.Card
import Mathlib.Data.List.Perm.Basic

/-!
Uploaded files in use.  Handles to them are copied, tracked by the scope of a request and held in
groups, perhaps several times over.  Main statement: whatever is done in whatever order, a file can
be read until the first release of it, this release alone is told to be one, and none of the files
that were tracked or held is left when the scope and all groups are gone.
-/
namespace RequestBinding

/-- Uploaded files and the handles to them: in the hands of a user, tracked by the scope if there is
one, and in groups that are released as a whole. -/
structure Desk (κ : Type) where
  uploads : UploadStore := {}
  hands : List UploadFile := []
  scope : Option (Scope κ) := some {}
  groups : List (List UploadFile) := []

namespace Desk
variable {κ : Type}

/-- What can be done.  Handles and groups are named by their places. -/
inductive Op where
  | create (part : FilePart)
  | clone (i : Nat)
  | read (i : Nat)
  | check (i : Nat)
  | release (i : Nat)
  | track (i : Nat)
  /-- Hold what the scope tracks as a group. -/
  | take
  | hold (is : List Nat)
  /-- Release a group. -/
  | drop (j : Nat)
  | releaseUploads
  /-- Put a new scope in the place of the old one. -/
  | renew
  | close

def Op.created : Op → List FilePart
  | .create part => [part]
  | _ => []

inductive Answer where
  | done
  | contents (bytes? : Option Bytes)
  | flag (b : Bool)
  | count (k : Nat)
  deriving DecidableEq

def tracked (d : Desk κ) : List UploadFile := d.scope.elim [] Scope.tracked

def pick (d : Desk κ) (is : List Nat) : List UploadFile := is.filterMap fun i => d.hands[i]?

def close (d : Desk κ) : Desk κ :=
  match d.scope with
  | none => d
  | some s =>
    let (_, _, uploads) := s.releaseUploads d.uploads
    { d with scope := none, uploads }

def step (d : Desk κ) : Op → Answer × Desk κ
  | .create part =>
    let (u, uploads) := d.uploads.add part
    (.done, { d with uploads, hands := d.hands ++ [u] })
  | .clone i => (.done, { d with hands := d.hands ++ d.hands[i]?.toList })
  | .read i => (d.hands[i]?.elim .done fun u => .contents (d.uploads.read u), d)
  | .check i => (d.hands[i]?.elim .done fun u => .flag (d.uploads.isReleased u), d)
  | .release i =>
    match d.hands[i]? with
    | none => (.done, d)
    | some u =>
      let (now, uploads) := d.uploads.release u
      (.flag now, { d with uploads })
  | .track i =>
    match d.scope, d.hands[i]? with
    | some s, some u => (.done, { d with scope := some (s.track u) })
    | _, _ => (.done, d)
  | .take =>
    match d.scope with
    | none => (.done, d)
    | some s =>
      let (us, s) := s.takeUploads
      (.done, { d with scope := some s, groups := d.groups ++ [us] })
  | .hold is => (.done, { d with groups := d.groups ++ [d.pick is] })
  | .drop j =>
    match d.groups[j]? with
    | none => (.done, d)
    | some us =>
      let (_, uploads) := d.uploads.releaseAll us
      (.done, { d with uploads, groups := d.groups.eraseIdx j })
  | .releaseUploads =>
    match d.scope with
    | none => (.done, d)
    | some s =>
      let (k, s, uploads) := s.releaseUploads d.uploads
      (.count k, { d with scope := some s, uploads })
  | .renew => (.done, { d.close with scope := some {} })
  | .close => (.done, d.close)

def releases (d : Desk κ) : Op → List UploadFile
  | .release i => d.hands[i]?.toList
  | .drop j => d.groups[j]?.getD []
  | .releaseUploads | .renew | .close => d.tracked
  | _ => []

/-- The handles that an operation has tracked or held from now on. -/
def entrusts (d : Desk κ) : Op → List UploadFile
  | .track i => if d.scope.isSome then d.hands[i]?.toList else []
  | .hold is => d.pick is
  | _ => []

def owed (d : Desk κ) : List UploadFile := d.tracked ++ d.groups.flatten

end Desk

/-- What has become of the files so far, in the order in which they were created. -/
structure History where
  parts : List FilePart := []
  files : List MarkedFile := []
  /-- The number of a file for each release that told to have released it. -/
  freed : List Nat := []
  /-- The numbers of the files that were ever tracked or held. -/
  entrusted : List Nat := []

namespace History
variable {κ : Type}

def marked (h : History) (i : Nat) : Bool := h.files[i]?.any MarkedFile.released

def step (h : History) (d : Desk κ) (op : Desk.Op) : History where
  parts := h.parts ++ op.created
  files := MarkedFile.releaseAll h.files (d.releases op) ++
    op.created.map fun p => ⟨some p.data, false⟩
  freed := h.freed ++ (d.uploads.freed (d.releases op)).map UploadFile.id
  entrusted := h.entrusted ++ (d.entrusts op).map UploadFile.id

end History

namespace Desk
variable {κ : Type} {d d' : Desk κ} {h : History} {op : Op}

def run (ops : List Op) (x : Desk κ × History) : Desk κ × History :=
  ops.foldl (fun x op => ((x.1.step op).2, x.2.step x.1 op)) x

/-- What an operation does: it releases and creates files, and no handle is lost from the scope and
the groups unless it is released. -/
structure Goes (d d' : Desk κ) (op : Op) : Prop where
  uploads : d'.uploads.contents =
    (d.uploads.releaseAll (d.releases op)).2.contents ++ op.created.map fun p => some p.data
  hands : ∀ u ∈ d'.hands, u ∈ d.hands ∨ u.id < d'.uploads.contents.length
  owed : ∀ u ∈ d'.owed, u ∈ d.owed ∨ u ∈ d.hands
  kept : ∀ u, u ∈ d.owed ∨ u ∈ d.entrusts op → u ∈ d'.owed ∨ u ∈ d.releases op
  releases : ∀ u ∈ d.releases op, u ∈ d.owed ∨ u ∈ d.hands

theorem mem_hands_of_mem_pick {is : List Nat} {u : UploadFile} (hu : u ∈ d.pick is) :
    u ∈ d.hands := by
  obtain ⟨i, _, hi⟩ := List.mem_filterMap.1 hu
  exact List.mem_of_getElem? hi

theorem mem_hands_of_mem_toList {i : Nat} {u : UploadFile} (hu : u ∈ d.hands[i]?.toList) :
    u ∈ d.hands :=
  List.mem_of_getElem? (Option.mem_toList.1 hu)

theorem goes_of_quiet (created : op.created = []) (released : d.releases op = [])
    (uploads : d'.uploads = d.uploads) (hands : ∀ u ∈ d'.hands, u ∈ d.hands)
    (owed : ∀ u, u ∈ d'.owed ↔ u ∈ d.owed ∨ u ∈ d.entrusts op)
    (entrusts : ∀ u ∈ d.entrusts op, u ∈ d.hands) : Goes d d' op where
  uploads := by simp [created, released, uploads, UploadStore.releaseAll]
  hands u hu := .inl (hands u hu)
  owed u hu := ((owed u).1 hu).imp_right (entrusts u)
  kept u hu := .inl ((owed u).2 hu)
  releases u hu := by simp [released] at hu

theorem goes_refl (created : op.created = []) (released : d.releases op = [])
    (entrusted : d.entrusts op = []) : Goes d d op :=
  goes_of_quiet created released rfl (fun _ hu => hu) (by simp [entrusted]) (by simp [entrusted])

theorem goes_of_released (created : op.created = []) (entrusted : d.entrusts op = [])
    (uploads : d'.uploads = (d.uploads.releaseAll (d.releases op)).2) (hands : d'.hands = d.hands)
    (owed : ∀ u, u ∈ d'.owed → u ∈ d.owed)
    (kept : ∀ u, u ∈ d.owed → u ∈ d'.owed ∨ u ∈ d.releases op)
    (releases : ∀ u ∈ d.releases op, u ∈ d.owed ∨ u ∈ d.hands) : Goes d d' op where
  uploads := by simp [created, uploads]
  hands u hu := .inl (hands ▸ hu)
  owed u hu := .inl (owed u hu)
  kept u hu := kept u (hu.resolve_right (by simp [entrusted]))
  releases := releases

theorem close_eq (d : Desk κ) : d.close =
    { d with scope := none, uploads := (d.uploads.releaseAll d.tracked).2 } := by
  obtain ⟨uploads, hands, scope, groups⟩ := d
  cases scope <;> rfl

/-- The operations that release what the scope tracks. -/
def Op.Empties (op : Op) : Prop := op = .releaseUploads ∨ op = .renew ∨ op = .close

theorem step_eq_of_empties (d : Desk κ) (empties : op.Empties) : ∃ scope : Option (Scope κ),
    scope.elim [] Scope.tracked = [] ∧
    (d.step op).2 = { d with scope, uploads := (d.uploads.releaseAll d.tracked).2 } := by
  rcases empties with rfl | rfl | rfl
  · refine ⟨d.scope.map fun s => { s with tracked := [] }, ?_, ?_⟩
    · cases d.scope <;> rfl
    · obtain ⟨uploads, hands, scope, groups⟩ := d
      cases scope <;> rfl
  · exact ⟨some {}, rfl, by rw [step, close_eq]⟩
  · exact ⟨none, rfl, by rw [step, close_eq]⟩

theorem releases_of_empties (d : Desk κ) (empties : op.Empties) : d.releases op = d.tracked := by
  rcases empties with rfl | rfl | rfl <;> rfl

theorem goes_of_empties (d : Desk κ) (empties : op.Empties) : Goes d (d.step op).2 op := by
  have released := d.releases_of_empties empties
  obtain ⟨scope, emptied, eq⟩ := d.step_eq_of_empties empties
  rw [eq]
  refine goes_of_released ?_ ?_ (by rw [released]) rfl (fun u hu => ?_) (fun u hu => ?_)
    fun u hu => .inl (List.mem_append_left _ (released ▸ hu))
  · rcases empties with rfl | rfl | rfl <;> rfl
  · rcases empties with rfl | rfl | rfl <;> rfl
  · rw [owed, tracked, emptied] at hu
    exact List.mem_append_right _ hu
  · rw [owed, tracked, emptied, released]
    exact (List.mem_append.1 hu).symm

theorem goes_track (d : Desk κ) (i : Nat) : Goes d (d.step (.track i)).2 (.track i) := by
  cases scope : d.scope with
  | none =>
    simp only [step, scope]
    exact goes_refl rfl rfl (by simp [entrusts, scope])
  | some s =>
    cases hand : d.hands[i]? with
    | none =>
      simp only [step, scope, hand]
      exact goes_refl rfl rfl (by simp [entrusts, hand])
    | some u =>
      simp only [step, scope, hand]
      refine goes_of_quiet rfl rfl rfl (fun _ hu => hu) (fun v => ?_) ?_
      · simp only [owed, tracked, entrusts, scope, hand, Scope.track, Option.elim, List.mem_append,
          Option.isSome_some, if_true, Option.toList]
        exact or_right_comm
      · simp [entrusts, scope, hand, List.mem_of_getElem? hand]

theorem mem_flatten_iff_eraseIdx {groups : List (List UploadFile)} {j : Nat}
    {us : List UploadFile} (group : groups[j]? = some us) (u : UploadFile) :
    u ∈ groups.flatten ↔ u ∈ us ∨ u ∈ (groups.eraseIdx j).flatten := by
  obtain ⟨inside, rfl⟩ := List.getElem?_eq_some_iff.1 group
  rw [← List.mem_append, ← List.flatten_cons]
  exact (List.getElem_cons_eraseIdx_perm inside).flatten.mem_iff.symm

theorem goes_drop (d : Desk κ) (j : Nat) : Goes d (d.step (.drop j)).2 (.drop j) := by
  cases group : d.groups[j]? with
  | none =>
    simp only [step, group]
    exact goes_refl rfl (by simp [releases, group]) rfl
  | some us =>
    simp only [step, group]
    have released : d.releases (.drop j) = us := by simp [releases, group]
    have split := mem_flatten_iff_eraseIdx group
    refine goes_of_released rfl rfl (by rw [released]) rfl (fun u hu => ?_) (fun u hu => ?_)
      fun u hu => .inl (List.mem_append_right _ ((split u).2 (.inl (released ▸ hu))))
    · exact (List.mem_append.1 hu).elim (List.mem_append_left _)
        fun rest => List.mem_append_right _ ((split u).2 (.inr rest))
    · rw [released]
      rcases List.mem_append.1 hu with tracked | grouped
      · exact .inl (List.mem_append_left _ tracked)
      · exact ((split u).1 grouped).symm.imp_left (List.mem_append_right _)

theorem step_goes (d : Desk κ) (op : Op) : Goes d (d.step op).2 op := by
  cases op with
  | create part =>
    refine ⟨rfl, fun u hu => ?hands, fun u hu => .inl hu, fun u hu => .inl ?kept,
      by simp [releases]⟩
    case hands =>
      rcases List.mem_append.1 hu with old | new
      · exact .inl old
      · obtain rfl := List.mem_singleton.1 new
        exact .inr (by simp [step, UploadStore.add])
    case kept => exact hu.resolve_right (by simp [entrusts])
  | clone i =>
    refine goes_of_quiet rfl rfl rfl (fun u hu => ?_) (fun u => ?_) (by simp [entrusts])
    · exact (List.mem_append.1 hu).elim id mem_hands_of_mem_toList
    · exact (or_iff_left (by simp [entrusts])).symm
  | read i => exact goes_refl rfl rfl rfl
  | check i => exact goes_refl rfl rfl rfl
  | release i =>
    cases hand : d.hands[i]? with
    | none =>
      simp only [step, hand]
      exact goes_refl rfl (by simp [releases, hand]) rfl
    | some u =>
      simp only [step, hand]
      refine goes_of_released rfl rfl ?_ rfl (fun _ hu => hu) (fun _ hu => .inl hu) fun v hv =>
        .inr (mem_hands_of_mem_toList hv)
      simp [releases, hand, UploadStore.releaseAll]
  | track i => exact d.goes_track i
  | take =>
    cases scope : d.scope with
    | none =>
      simp only [step, scope]
      exact goes_refl rfl rfl rfl
    | some s =>
      simp only [step, scope]
      refine goes_of_quiet rfl rfl rfl (fun _ hu => hu) (fun u => ?_) (by simp [entrusts])
      simp [owed, tracked, entrusts, scope, Scope.takeUploads, or_comm]
  | hold is =>
    refine goes_of_quiet rfl rfl rfl (fun _ hu => hu) (fun u => ?_) fun u => mem_hands_of_mem_pick
    simp [step, owed, tracked, entrusts, or_assoc]
  | drop j => exact d.goes_drop j
  | releaseUploads => exact d.goes_of_empties (.inl rfl)
  | renew => exact d.goes_of_empties (.inr (.inl rfl))
  | close => exact d.goes_of_empties (.inr (.inr rfl))

def fate (freed : List Nat) (i : Nat) (part : FilePart) : MarkedFile :=
  if i ∈ freed then ⟨none, true⟩ else ⟨some part.data, false⟩

/-- The history tells of all files, and whatever was tracked or held was released or is owed. -/
structure Kept (d : Desk κ) (h : History) : Prop where
  shows : d.uploads.Shows h.files
  file : ∀ i, h.files[i]? = h.parts[i]?.map (fate h.freed i)
  nodup : h.freed.Nodup
  inside : ∀ i ∈ h.freed, i < h.parts.length
  known : ∀ u, u ∈ d.owed ∨ u ∈ d.hands → u.id < h.parts.length
  owed : ∀ i ∈ h.entrusted, i ∈ h.freed ∨ i ∈ d.owed.map UploadFile.id

namespace Kept

theorem length_files (k : Kept d h) : h.files.length = h.parts.length := by
  refine le_antisymm ?_ ?_
  · have file := k.file h.parts.length
    rwa [List.getElem?_eq_none (le_refl _), Option.map_none, List.getElem?_eq_none_iff] at file
  · have file := k.file h.files.length
    rwa [List.getElem?_eq_none (le_refl _), eq_comm, Option.map_eq_none_iff,
      List.getElem?_eq_none_iff] at file

theorem exists_file (k : Kept d h) {i : Nat} (known : i < h.parts.length) :
    ∃ f, h.files[i]? = some f :=
  ⟨_, List.getElem?_eq_getElem (k.length_files.symm ▸ known)⟩

theorem length_contents (k : Kept d h) : d.uploads.contents.length = h.parts.length := by
  rw [k.shows.contents, List.length_map, k.length_files]

/-- The mark of a file tells that some release of it was told to have released it. -/
theorem marked_iff (k : Kept d h) {i : Nat} : h.marked i = true ↔ i ∈ h.freed := by
  rw [History.marked, k.file]
  cases part : h.parts[i]? with
  | none =>
    have outside := List.getElem?_eq_none_iff.1 part
    simp only [Option.map_none, Option.any_none, Bool.false_eq_true, false_iff]
    exact fun freed => absurd (k.inside i freed) outside.not_gt
  | some p =>
    by_cases freed : i ∈ h.freed <;> simp [fate, freed]

theorem isSome_contents_iff (k : Kept d h) {i : Nat} :
    d.uploads.contents[i]?.join.isSome ↔ i < h.parts.length ∧ i ∉ h.freed := by
  rw [k.shows.contents, List.getElem?_map, k.file]
  cases part : h.parts[i]? with
  | none =>
    have outside := List.getElem?_eq_none_iff.1 part
    simp [outside.not_gt]
  | some p =>
    obtain ⟨inside, _⟩ := List.getElem?_eq_some_iff.1 part
    by_cases freed : i ∈ h.freed <;> simp [fate, freed, inside]

theorem lt_of_mem_releases (k : Kept d h) {i : Nat}
    (hi : i ∈ (d.releases op).map UploadFile.id) : i < h.parts.length := by
  obtain ⟨u, hu, rfl⟩ := List.mem_map.1 hi
  exact k.known u ((d.step_goes op).releases u hu)

/-- An operation leaves those files released that were so before and those that it releases. -/
theorem mem_freed_step (k : Kept d h) (op : Op) {i : Nat} :
    i ∈ (h.step d op).freed ↔ i ∈ h.freed ∨ i ∈ (d.releases op).map UploadFile.id := by
  rw [History.step, List.mem_append, UploadStore.mem_ids_freed, k.isSome_contents_iff]
  constructor
  · exact fun freed => freed.imp_right And.left
  · intro freed
    by_cases before : i ∈ h.freed
    · exact .inl before
    · have now := freed.resolve_left before
      exact .inr ⟨now, k.lt_of_mem_releases now, before⟩

theorem file_step (k : Kept d h) (op : Op) (i : Nat) :
    (h.step d op).files[i]? = (h.step d op).parts[i]?.map (fate (h.step d op).freed i) := by
  have freed := k.mem_freed_step op (i := i)
  generalize (h.step d op).freed = now at freed
  simp only [History.step]
  by_cases old : i < h.parts.length
  · rw [List.getElem?_append_left (by simpa [k.length_files]), MarkedFile.getElem?_releaseAll,
      List.getElem?_append_left old, k.file, Option.map_map]
    refine congrArg (fun f => Option.map f _) (funext fun p => ?_)
    by_cases before : i ∈ h.freed <;> by_cases released : i ∈ (d.releases op).map UploadFile.id <;>
      simp [fate, freed, before, released, MarkedFile.release]
  · have unfreed : i ∉ now := fun there => old <|
      (freed.1 there).elim (k.inside i) k.lt_of_mem_releases
    rw [List.getElem?_append_right (by simpa [k.length_files] using old),
      List.getElem?_append_right (Nat.le_of_not_lt old), List.getElem?_map,
      MarkedFile.length_releaseAll, k.length_files]
    exact congrArg (fun f => Option.map f _) (funext fun p => (if_neg unfreed).symm)

theorem shows_step (k : Kept d h) (op : Op) :
    (d.step op).2.uploads.Shows (h.step d op).files := by
  have shows := (k.shows.releaseAll (d.releases op)).append op.created
  rw [← (d.step_goes op).uploads] at shows
  exact shows

theorem step (k : Kept d h) (op : Op) : Kept (d.step op).2 (h.step d op) := by
  have goes := d.step_goes op
  refine ⟨k.shows_step op, k.file_step op, ?nodup, fun i hi => ?inside, fun u hu => ?known,
    fun i hi => ?owed⟩
  case nodup =>
    refine List.nodup_append.2 ⟨k.nodup, d.uploads.nodup_ids_freed _, ?_⟩
    rintro i old _ now rfl
    have full := (UploadStore.mem_ids_freed _ _).1 now
    exact (k.isSome_contents_iff.1 full.2).2 old
  case inside =>
    have before : i < h.parts.length :=
      ((k.mem_freed_step op).1 hi).elim (k.inside i) k.lt_of_mem_releases
    exact before.trans_le (by simp [History.step])
  case known =>
    have length : (d.step op).2.uploads.contents.length = (h.step d op).parts.length := by
      rw [goes.uploads]
      simp [History.step, k.length_contents]
    have grown : h.parts.length ≤ (h.step d op).parts.length := by simp [History.step]
    rcases hu with owed | hand
    · exact (k.known u (goes.owed u owed)).trans_le grown
    · rcases goes.hands u hand with old | new
      · exact (k.known u (.inr old)).trans_le grown
      · exact new.trans_le length.le
  case owed =>
    rw [k.mem_freed_step]
    have kept : ∀ u, u ∈ d.owed ∨ u ∈ d.entrusts op →
        (u.id ∈ h.freed ∨ u.id ∈ (d.releases op).map UploadFile.id) ∨
          u.id ∈ (d.step op).2.owed.map UploadFile.id := fun u hu =>
      (goes.kept u hu).elim (fun owed => .inr (List.mem_map_of_mem owed))
        fun released => .inl (.inr (List.mem_map_of_mem released))
    rcases List.mem_append.1 hi with old | new
    · rcases k.owed i old with freed | owed
      · exact .inl (.inl freed)
      · obtain ⟨u, hu, rfl⟩ := List.mem_map.1 owed
        exact kept u (.inl hu)
    · obtain ⟨u, hu, rfl⟩ := List.mem_map.1 new
      exact kept u (.inr hu)

theorem start : Kept ({} : Desk κ) {} where
  shows := ⟨rfl, nofun⟩
  file i := by simp
  nodup := by simp
  inside := nofun
  known u hu := by simp [Desk.owed, tracked] at hu
  owed := nofun

theorem run (k : Kept d h) (ops : List Op) : Kept (run ops (d, h)).1 (run ops (d, h)).2 := by
  induction ops generalizing d h with
  | nil => exact k
  | cons op ops ih => exact ih (k.step op)

theorem freed_run (k : Kept d h) (ops : List Op) {i : Nat} (hi : i ∈ h.freed) :
    i ∈ (Desk.run ops (d, h)).2.freed := by
  induction ops generalizing d h with
  | nil => exact hi
  | cons op ops ih => exact ih (k.step op) ((k.mem_freed_step op).2 (.inl hi))

theorem read_eq (k : Kept d h) {u : UploadFile} {part : FilePart}
    (created : h.parts[u.id]? = some part) :
    d.uploads.read u = if h.marked u.id then none else some part.data := by
  rw [k.shows.read_eq, k.file, created]
  by_cases freed : u.id ∈ h.freed
  · simp [fate, freed, k.marked_iff.2 freed]
  · simp [fate, freed, mt k.marked_iff.1 freed]

theorem isReleased_eq (k : Kept d h) {u : UploadFile} (known : u.id < h.parts.length) :
    d.uploads.isReleased u = h.marked u.id := by
  obtain ⟨f, file⟩ := k.exists_file known
  rw [k.shows.isReleased_eq file, History.marked, file]
  rfl

theorem fst_release_eq (k : Kept d h) {u : UploadFile} (known : u.id < h.parts.length) :
    (d.uploads.release u).1 = !h.marked u.id := by
  obtain ⟨f, file⟩ := k.exists_file known
  rw [k.shows.fst_release_eq file, MarkedFile.fst_release, History.marked, file]
  rfl

theorem marked_step (k : Kept d h) (op : Op) {u : UploadFile} (hu : u ∈ d.releases op) :
    (h.step d op).marked u.id = true :=
  (k.step op).marked_iff.2 ((k.mem_freed_step op).2 (.inr (List.mem_map_of_mem hu)))

/-- A release of several handles counts the files among them that were not released before. -/
theorem fst_releaseAll_eq (k : Kept d h) {us : List UploadFile}
    (known : ∀ u ∈ us, u.id < h.parts.length) : (d.uploads.releaseAll us).1 =
      ((us.map UploadFile.id).toFinset.filter fun i => h.marked i = false).card := by
  rw [← UploadStore.length_freed, ← List.length_map UploadFile.id,
    ← List.toFinset_card_of_nodup (d.uploads.nodup_ids_freed us)]
  refine congrArg Finset.card (Finset.ext fun i => ?_)
  rw [List.mem_toFinset, UploadStore.mem_ids_freed, k.isSome_contents_iff, Finset.mem_filter,
    List.mem_toFinset, ← k.marked_iff, Bool.not_eq_true]
  refine and_congr_right fun there => and_iff_right ?_
  obtain ⟨u, hu, rfl⟩ := List.mem_map.1 there
  exact known u hu

end Kept

theorem uploads_step_take (d : Desk κ) (present : d.scope.isSome) (empties : op.Empties) :
    ((d.step .take).2.step op).2.uploads = d.uploads := by
  obtain ⟨_, -, eq⟩ := (d.step .take).2.step_eq_of_empties empties
  obtain ⟨s, scope⟩ := Option.isSome_iff_exists.1 present
  rw [eq]
  simp only [step, scope]
  rfl

structure Lawful (d : Desk κ) (h : History) : Prop where
  /-- Every handle names a file that was created. -/
  known : ∀ u, u ∈ d.owed ∨ u ∈ d.hands → u.id < h.parts.length
  /-- The store is as good as files with marks of their own, and a mark stands exactly on those
  without contents. -/
  shows : d.uploads.Shows h.files
  /-- A file can be read, with the contents it was created with, exactly if it is not released. -/
  readable : ∀ u part, h.parts[u.id]? = some part →
    d.uploads.isReleased u = h.marked u.id ∧
    d.uploads.read u = if h.marked u.id then none else some part.data
  /-- What is released stays so. -/
  stays : ∀ ops i, h.marked i = true → (run ops (d, h)).2.marked i = true
  /-- One release of each released file told to be the one, among those of all its handles, of
  groups and of scopes; none did for the others. -/
  once : ∀ i, h.freed.count i = (h.marked i).toNat
  /-- A release tells whether it is the first, and the file is released from then on. -/
  told : ∀ i u, d.hands[i]? = some u →
    (d.step (.release i)).1 = .flag (!h.marked u.id) ∧ (h.step d (.release i)).marked u.id = true
  /-- The release of what the scope tracks counts the files that were not released before, each
  one time. -/
  counted : d.scope.isSome → (d.step .releaseUploads).1 = .count
    ((d.tracked.map UploadFile.id).toFinset.filter fun i => h.marked i = false).card
  /-- All that the scope tracks is released, also when it ends, and nothing is left tracked. -/
  emptied : ∀ op : Op, op.Empties →
    (d.step op).2.tracked = [] ∧ ∀ u ∈ d.tracked, (h.step d op).marked u.id = true
  /-- A group that is taken has all that was tracked, and the scope has no part in it any more. -/
  taken : d.scope.isSome →
    (d.step .take).2.tracked = [] ∧ (d.step .take).2.groups = d.groups ++ [d.tracked] ∧
    ∀ op : Op, op.Empties → ((d.step .take).2.step op).2.uploads = d.uploads
  /-- What a group has is released with it. -/
  dropped : ∀ j us, d.groups[j]? = some us → ∀ u ∈ us, (h.step d (.drop j)).marked u.id = true
  /-- When nothing is tracked, as without a scope, and all groups are gone, all that was ever
  tracked or held is released. -/
  settled : d.tracked = [] → d.groups = [] → ∀ i ∈ h.entrusted, h.marked i = true

theorem Kept.lawful (k : Kept d h) : Lawful d h where
  known := k.known
  shows := k.shows
  readable u part created := by
    obtain ⟨known, _⟩ := List.getElem?_eq_some_iff.1 created
    exact ⟨k.isReleased_eq known, k.read_eq created⟩
  stays ops i hi := (k.run ops).marked_iff.2 (k.freed_run ops (k.marked_iff.1 hi))
  once i := by
    by_cases freed : i ∈ h.freed
    · rw [List.count_eq_one_of_mem k.nodup freed, k.marked_iff.2 freed]
      rfl
    · rw [List.count_eq_zero_of_not_mem freed, Bool.eq_false_iff.2 (mt k.marked_iff.1 freed)]
      rfl
  told i u hu := by
    have known := k.known u (.inr (List.mem_of_getElem? hu))
    refine ⟨?_, k.marked_step _ (by simp [releases, hu])⟩
    simp only [Desk.step, hu, k.fst_release_eq known]
  counted present := by
    obtain ⟨s, scope⟩ := Option.isSome_iff_exists.1 present
    have known : ∀ u ∈ s.tracked, u.id < h.parts.length := fun u hu =>
      k.known u (.inl (List.mem_append_left _ (by simpa [tracked, scope] using hu)))
    simp only [Desk.step, scope, tracked, Scope.releaseUploads, Option.elim,
      k.fst_releaseAll_eq known]
  emptied op empties := by
    refine ⟨?_, fun u hu => k.marked_step op (d.releases_of_empties empties ▸ hu)⟩
    obtain ⟨scope, emptied, eq⟩ := d.step_eq_of_empties empties
    rw [eq]
    exact emptied
  taken present := by
    refine ⟨?_, ?_, fun op => d.uploads_step_take present⟩ <;>
      obtain ⟨s, scope⟩ := Option.isSome_iff_exists.1 present <;>
      simp [Desk.step, scope, tracked, Scope.takeUploads]
  dropped j us group u hu := k.marked_step _ (by simpa [releases, group] using hu)
  settled tracked groups i hi := by
    have owed := k.owed i hi
    simp only [Desk.owed, tracked, groups, List.flatten_nil, List.append_nil, List.map_nil,
      List.not_mem_nil, or_false] at owed
    exact k.marked_iff.2 owed

/-- Whatever is done from the start, in whatever order, the files behave. -/
theorem lawful_run (ops : List Op) :
    Lawful (run ops (({} : Desk κ), {})).1 (run ops (({} : Desk κ), {})).2 :=
  (Kept.start.run ops).lawful

/-- A file that is tracked under two handles counts one time. -/
example (part : FilePart) : ((run [.create part, .clone 0, .track 0, .track 1]
    (({} : Desk Unit), {})).1.step .releaseUploads).1 = .count 1 := rfl

end Desk

end RequestBinding
