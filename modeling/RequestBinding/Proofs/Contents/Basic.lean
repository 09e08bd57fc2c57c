import RequestBinding.Handler

/-!
Arguments by their contents: a handle stands for the file that it names.  Main statement: contents
stay the same as more files are put into the store.
-/
namespace RequestBinding

/-- A file as whoever has a handle to it sees it. -/
structure FileContent where
  filename : Option String
  contentType : Option String
  size : Nat
  /-- None once released. -/
  data : Option Bytes
  deriving DecidableEq

inductive Content where
  | value (v : Value)
  | request (r : Request)
  | file (f : FileContent)
  | files (fs : List FileContent)
  | object (o : Object.Content)

/-- The arguments of a call by their contents, keywords in the order in which they first came. -/
structure CallContents where
  args : List Content := []
  kwargs : List (String × Content) := []

def FilePart.content (p : FilePart) : FileContent :=
  ⟨p.filename, p.contentType, p.data.length, some p.data⟩

def UploadFile.content (store : UploadStore) (u : UploadFile) : FileContent :=
  ⟨u.filename, u.contentType, u.size, store.read u⟩

namespace Arg

def content (store : UploadStore) : Arg → Content
  | .value v => .value v
  | .request r => .request r
  | .upload u => .file (u.content store)
  | .uploads us => .files (us.map (UploadFile.content store))
  | .object o => .object o.content

def Stored (store : UploadStore) (a : Arg) : Prop := ∀ u ∈ a.handles, u.id < store.contents.length

end Arg

namespace CallContents

def push (c : CallContents) (pass : Pass) (name : String) (content : Content) : CallContents :=
  match pass with
  | .positional => { c with args := c.args ++ [content] }
  | .keyword => { c with kwargs := Dictionary.setEntry name content c.kwargs }

end CallContents

theorem Dictionary.map_setEntry {κ α β : Type} [DecidableEq κ] (f : α → β) (key : κ) (value : α)
    (es : List (κ × α)) : (setEntry key value es).map (Prod.map id f) =
      setEntry key (f value) (es.map (Prod.map id f)) := by
  induction es with
  | nil => rfl
  | cons e es ih =>
    obtain ⟨k, v⟩ := e
    by_cases h : k = key
    · simp [setEntry, h]
    · simp [setEntry, h, ih]

namespace CallArgs

def contents (store : UploadStore) (c : CallArgs) : CallContents :=
  ⟨c.args.map (Arg.content store), c.kwargs.entries.map (Prod.map id (Arg.content store))⟩

theorem contents_push (store : UploadStore) (c : CallArgs) (pass : Pass) (name : String)
    (a : Arg) : (c.push pass name a).contents store =
      (c.contents store).push pass name (a.content store) := by
  cases pass with
  | positional => simp [contents, push, CallContents.push]
  | keyword =>
    simp only [contents, push, CallContents.push, ← Dictionary.map_setEntry]
    rfl

end CallArgs

namespace UploadStore

def Extends (s t : UploadStore) : Prop := s.contents <+: t.contents

theorem Extends.refl (s : UploadStore) : s.Extends s := List.prefix_refl _

theorem Extends.trans {s t u : UploadStore} (h : s.Extends t) (h' : t.Extends u) : s.Extends u :=
  List.IsPrefix.trans h h'

theorem Extends.content_eq {s t : UploadStore} (h : s.Extends t) {u : UploadFile}
    (stored : u.id < s.contents.length) : u.content t = u.content s := by
  obtain ⟨more, eq⟩ := h
  simp only [UploadFile.content, read, ← eq, List.getElem?_append_left stored]

theorem Extends.stored {s t : UploadStore} (h : s.Extends t) {a : Arg} (stored : a.Stored s) :
    a.Stored t := fun u hu => Nat.lt_of_lt_of_le (stored u hu) h.length_le

theorem Extends.argContent_eq {s t : UploadStore} (h : s.Extends t) {a : Arg}
    (stored : a.Stored s) : a.content t = a.content s := by
  cases a with
  | upload u => simp [Arg.content, h.content_eq (stored u (by simp [Arg.handles]))]
  | uploads us =>
    simp only [Arg.content, Content.files.injEq]
    exact List.map_congr_left fun u hu => h.content_eq (stored u hu)
  | _ => rfl

theorem addAll_spec (s : UploadStore) (parts : List FilePart) :
    s.Extends (s.addAll parts).2 ∧
      (∀ u ∈ (s.addAll parts).1, u.id < (s.addAll parts).2.contents.length) ∧
      (s.addAll parts).1.map (UploadFile.content (s.addAll parts).2) =
        parts.map FilePart.content := by
  induction parts generalizing s with
  | nil => exact ⟨.refl s, by simp [addAll], rfl⟩
  | cons p ps ih =>
    obtain ⟨more, stored, contents⟩ := ih (s.add p).2
    have first : s.Extends (s.add p).2 := ⟨[some p.data], rfl⟩
    have here : (s.add p).1.id < (s.add p).2.contents.length := by simp [add]
    refine ⟨first.trans more, ?_, ?_⟩
    · intro u hu
      rcases List.mem_cons.1 hu with rfl | hu
      · exact Nat.lt_of_lt_of_le here more.length_le
      · exact stored u hu
    · have same : (s.add p).1.content (s.add p).2 = p.content := by
        simp [UploadFile.content, FilePart.content, add, read]
      simp only [addAll, List.map_cons, contents]
      rw [more.content_eq here, same]

end UploadStore

end RequestBinding
