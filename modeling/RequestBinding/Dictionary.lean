/-!
Dictionaries with the order of first insertion.  Each key stands once; a later value takes the place
of the earlier one.
-/
namespace RequestBinding

universe u

/-- Keys and their values in the order in which the keys first came. -/
structure Dictionary (κ : Type) (α : Type u) where
  entries : List (κ × α)
  nodup : (entries.map Prod.fst).Nodup

namespace Dictionary
variable {κ : Type} {α : Type u}

def empty : Dictionary κ α := ⟨[], by simp⟩

instance : EmptyCollection (Dictionary κ α) := ⟨empty⟩
instance : Inhabited (Dictionary κ α) := ⟨empty⟩

def keys (d : Dictionary κ α) : List κ := d.entries.map Prod.fst

def size (d : Dictionary κ α) : Nat := d.entries.length

def isEmpty (d : Dictionary κ α) : Bool := d.entries.isEmpty

variable [DecidableEq κ]

def find? (key : κ) : List (κ × α) → Option α
  | [] => none
  | (k, v) :: r => if k = key then some v else find? key r

def get? (d : Dictionary κ α) (key : κ) : Option α := find? key d.entries

def contains (d : Dictionary κ α) (key : κ) : Bool := (d.get? key).isSome

def setEntry (key : κ) (value : α) : List (κ × α) → List (κ × α)
  | [] => [(key, value)]
  | (k, v) :: r => if k = key then (key, value) :: r else (k, v) :: setEntry key value r

theorem mem_keys_setEntry {key k : κ} {value : α} {es : List (κ × α)} :
    k ∈ (setEntry key value es).map Prod.fst ↔ k = key ∨ k ∈ es.map Prod.fst := by
  induction es with
  | nil => simp [setEntry]
  | cons e r ih =>
    obtain ⟨a, v⟩ := e
    simp only [setEntry]
    split
    · next h => subst h; simp
    · simp only [List.map_cons, List.mem_cons, ih]
      constructor <;> rintro (h | h | h) <;> simp [h]

theorem nodup_setEntry {key : κ} {value : α} {es : List (κ × α)} (h : (es.map Prod.fst).Nodup) :
    ((setEntry key value es).map Prod.fst).Nodup := by
  induction es with
  | nil => simp [setEntry]
  | cons e r ih =>
    obtain ⟨a, v⟩ := e
    simp only [List.map_cons, List.nodup_cons] at h
    simp only [setEntry]
    split
    · next ha => subst ha; simpa using h
    · next ha =>
      simp only [List.map_cons, List.nodup_cons]
      refine ⟨fun hm => ?_, ih h.2⟩
      rcases mem_keys_setEntry.1 hm with rfl | hm
      · exact ha rfl
      · exact h.1 hm

def insert (d : Dictionary κ α) (key : κ) (value : α) : Dictionary κ α :=
  ⟨setEntry key value d.entries, nodup_setEntry d.nodup⟩

/-- A dictionary from entries; of several values of one key the last stays. -/
def ofList (es : List (κ × α)) : Dictionary κ α := es.foldl (fun d e => d.insert e.1 e.2) empty

@[simp] theorem get?_empty (key : κ) : (empty : Dictionary κ α).get? key = none := rfl

theorem find?_setEntry {key k : κ} {value : α} {es : List (κ × α)} :
    find? k (setEntry key value es) = if key = k then some value else find? k es := by
  induction es with
  | nil => simp [setEntry, find?]
  | cons e r ih =>
    obtain ⟨a, v⟩ := e
    simp only [setEntry]
    split
    · next ha =>
      subst ha
      simp only [find?]
      split <;> simp_all
    · next ha =>
      simp only [find?, ih]
      split
      · next hk => subst hk; simp [Ne.symm ha]
      · rfl

@[simp] theorem get?_insert (d : Dictionary κ α) (key k : κ) (value : α) :
    (d.insert key value).get? k = if key = k then some value else d.get? k :=
  find?_setEntry

theorem mem_keys_insert {d : Dictionary κ α} {key k : κ} {value : α} :
    k ∈ (d.insert key value).keys ↔ k = key ∨ k ∈ d.keys :=
  mem_keys_setEntry

end Dictionary

end RequestBinding
