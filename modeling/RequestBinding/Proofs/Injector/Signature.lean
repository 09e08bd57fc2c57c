import RequestBinding.Proofs.Compiled.Legality
import RequestBinding.Proofs.Injector.Arguments

/-!
Signatures.  Main statement: arguments that are added for the fields of a compiled handler fit the
parameters that the handler declares, so that none is left out and none takes the place of another.
-/
namespace RequestBinding

abbrev Signature := List (String × ParamKind)

namespace Dictionary
variable {κ α : Type} [DecidableEq κ]

theorem setEntry_of_notMem {key : κ} {value : α} {es : List (κ × α)}
    (h : key ∉ es.map Prod.fst) : setEntry key value es = es ++ [(key, value)] := by
  induction es with
  | nil => rfl
  | cons e es ih =>
    obtain ⟨k, v⟩ := e
    simp only [List.map_cons, List.mem_cons, not_or] at h
    rw [setEntry, if_neg (Ne.symm h.1), ih h.2, List.cons_append]

theorem find?_of_mem {key : κ} {value : α} {es : List (κ × α)} (nodup : (es.map Prod.fst).Nodup)
    (h : (key, value) ∈ es) : find? key es = some value := by
  induction es with
  | nil => simp at h
  | cons e es ih =>
    rw [List.map_cons, List.nodup_cons] at nodup
    rcases List.mem_cons.1 h with rfl | h
    · simp [find?]
    · have other : e.1 ≠ key := fun same => nodup.1 (same ▸ List.mem_map_of_mem h)
      rw [find?, if_neg other, ih nodup.2 h]

theorem get?_of_mem {d : Dictionary κ α} {key : κ} {value : α} (h : (key, value) ∈ d.entries) :
    d.get? key = some value := find?_of_mem d.nodup h

end Dictionary

namespace Signature

def positional (sig : Signature) (values : List Arg) : List Arg :=
  ((sig.zip values).filter fun x => x.1.2 = .positionalOnly).map Prod.snd

def keywords (sig : Signature) (values : List Arg) : List (String × Arg) :=
  ((sig.zip values).filter fun x => x.1.2 ≠ .positionalOnly).map fun x => (x.1.1, x.2)

variable {sig : Signature} {values : List Arg}

theorem length_positional_add_length_keywords (length : values.length = sig.length) :
    (sig.positional values).length + (sig.keywords values).length = sig.length := by
  have split := List.length_eq_length_filter_add (l := sig.zip values)
    fun x => decide (x.1.2 = .positionalOnly)
  simp only [positional, keywords, List.length_map, decide_not]
  rw [← split, List.length_zip, length, Nat.min_self]

theorem map_fst_keywords (length : values.length = sig.length) : (sig.keywords values).map Prod.fst =
    (sig.filter fun x => x.2 ≠ .positionalOnly).map Prod.fst := by
  have whole : (sig.zip values).map Prod.fst = sig := List.map_fst_zip length.ge
  conv_rhs => rw [← whole]
  simp [keywords, List.filter_map, Function.comp_def]

end Signature

/-- The arguments of a call are these values, one for each parameter. -/
structure CallArgs.Fits (args : CallArgs) (sig : Signature) (values : List Arg) : Prop where
  length : values.length = sig.length
  /-- The parameters without a name in a call take theirs by position, in the order of
  declaration. -/
  positional : args.args = sig.positional values
  /-- The keywords are the names of all other parameters. -/
  keys : args.kwargs.keys = (sig.filter fun x => x.2 ≠ .positionalOnly).map Prod.fst
  /-- Each name stands for the value of its own parameter. -/
  named : ∀ x ∈ sig.keywords values, args.get? x.1 = some x.2
  size : args.size = sig.length

section
variable {n : Nat} {δ : Type}

def Handler.signature (h : Handler n) : Signature := h.params.map fun p => (p.name, p.kind)

def Field.parameter (f : Field δ) : String × ParamKind := (f.name, f.kind)

namespace CallArgs

theorem args_pushAll (c : CallArgs) (fields : List (Field δ)) (as : List Arg) :
    (c.pushAll fields as).args =
      c.args ++ Signature.positional (fields.map Field.parameter) as := by
  induction fields generalizing c as with
  | nil => simp [pushAll, Signature.positional]
  | cons f fs ih =>
    cases as with
    | nil => simp [pushAll, Signature.positional]
    | cons a as =>
      rw [pushAll, ih]
      cases hk : f.kind <;>
        simp [push, Field.pass, ParamKind.pass, Signature.positional, Field.parameter, hk]

theorem entries_pushAll (c : CallArgs) {fields : List (Field δ)}
    (nodup : (fields.map Field.name).Nodup) (unseen : ∀ f ∈ fields, f.name ∉ c.kwargs.keys)
    (as : List Arg) : (c.pushAll fields as).kwargs.entries =
      c.kwargs.entries ++ Signature.keywords (fields.map Field.parameter) as := by
  induction fields generalizing c as with
  | nil => simp [pushAll, Signature.keywords]
  | cons f fs ih =>
    cases as with
    | nil => simp [pushAll, Signature.keywords]
    | cons a as =>
      rw [List.map_cons, List.nodup_cons] at nodup
      have others : ∀ g ∈ fs, g.name ∉ (c.push f.pass f.name a).kwargs.keys := by
        intro g hg
        have own : g.name ≠ f.name := fun same => nodup.1 (same ▸ List.mem_map_of_mem hg)
        unfold push
        cases f.pass
        · exact unseen g (by simp [hg])
        · simp [Dictionary.mem_keys_insert, own, unseen g (by simp [hg])]
      have here : Dictionary.setEntry f.name a c.kwargs.entries = c.kwargs.entries ++ [(f.name, a)] :=
        Dictionary.setEntry_of_notMem (unseen f (by simp))
      rw [pushAll, ih _ nodup.2 others]
      cases hk : f.kind <;>
        simp [push, Field.pass, ParamKind.pass, Signature.keywords, Field.parameter, hk,
          Dictionary.insert, here]

theorem fits_pushAll {fields : List (Field δ)} (nodup : (fields.map Field.name).Nodup)
    {as : List Arg} (length : as.length = fields.length) :
    (pushAll {} fields as).Fits (fields.map Field.parameter) as := by
  have long : as.length = (fields.map Field.parameter).length := by simpa using length
  have args : (pushAll {} fields as).args = _ := args_pushAll {} fields as
  have entries : (pushAll {} fields as).kwargs.entries = _ :=
    entries_pushAll {} nodup (fun _ _ => List.not_mem_nil) as
  refine ⟨long, args, ?_, fun x hx => ?_, ?_⟩
  · rw [Dictionary.keys, entries]
    exact Signature.map_fst_keywords long
  · exact Dictionary.get?_of_mem (entries ▸ List.mem_append_right _ hx)
  · rw [size, Dictionary.size, args, entries]
    exact Signature.length_positional_add_length_keywords long

end CallArgs

/-- The fields of a compiled handler stand for the parameters that the handler declares. -/
theorem Compiled.Declared.parameters {catalogue : Catalogue n} {config : Config n}
    {route : RoutePattern} {method : Method} {c : Compiled n}
    (h : Declared catalogue config route method c) :
    c.binding.fields.map Field.parameter = (catalogue c.binding.handler).signature := by
  obtain ⟨placed, made⟩ := h
  have params := (Placement.mem_of_ofParams_eq_ok placed).1
  rw [Handler.signature, binding, ← params, List.map_map, ← List.forall₂_eq_eq_eq,
    List.forall₂_map_left_iff, List.forall₂_map_right_iff]
  refine made.flip.imp fun f p makes => ?_
  obtain ⟨_, _, field⟩ := makes
  obtain ⟨name, kind, _⟩ := Placement.of_field_eq_ok field
  simp [Field.parameter, name, kind]

end

end RequestBinding
