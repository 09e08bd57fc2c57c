import RequestBinding.Proofs.Injector.Rule

/-!
The arguments that an injector makes.  Main statement: each field takes the argument that it came
to, a positional one by its place and any other by its name.
-/
namespace RequestBinding

variable {n : Nat} {δ : Type}

namespace CallArgs

/-- The arguments of fields: those that are passed by position in order, the others by name. -/
def takenBy (kwargs : Dictionary String Arg) : List Arg → List (Field δ) → List (Option Arg)
  | _, [] => []
  | args, f :: fs =>
    match f.pass with
    | .positional => args.head? :: takenBy kwargs args.tail fs
    | .keyword => kwargs.get? f.name :: takenBy kwargs args fs

def taken (c : CallArgs) (fields : List (Field δ)) : List (Option Arg) :=
  takenBy c.kwargs c.args fields

def pushAll (c : CallArgs) : List (Field δ) → List Arg → CallArgs
  | f :: fs, a :: as => (c.push f.pass f.name a).pushAll fs as
  | _, _ => c

theorem args_prefix_pushAll (c : CallArgs) (fields : List (Field δ)) (as : List Arg) :
    c.args <+: (c.pushAll fields as).args := by
  induction fields generalizing c as with
  | nil => exact List.prefix_refl _
  | cons f fs ih =>
    cases as with
    | nil => exact List.prefix_refl _
    | cons a as =>
      refine List.IsPrefix.trans ?_ (ih (c.push f.pass f.name a) as)
      unfold push
      cases f.pass
      · exact List.prefix_append _ _
      · exact List.prefix_refl _

theorem get?_pushAll {c : CallArgs} {fields : List (Field δ)} {name : String}
    (h : name ∉ fields.map Field.name) (as : List Arg) :
    (c.pushAll fields as).kwargs.get? name = c.kwargs.get? name := by
  induction fields generalizing c as with
  | nil => rfl
  | cons f fs ih =>
    simp only [List.map_cons, List.mem_cons, not_or] at h
    cases as with
    | nil => rfl
    | cons a as =>
      rw [pushAll, ih h.2]
      unfold push
      cases f.pass
      · rfl
      · simp [Ne.symm h.1]

theorem takenBy_pushAll {fields : List (Field δ)} (nodup : (fields.map Field.name).Nodup)
    {as : List Arg} (length : as.length = fields.length) (c : CallArgs) :
    takenBy (c.pushAll fields as).kwargs ((c.pushAll fields as).args.drop c.args.length) fields =
      as.map some := by
  induction fields generalizing c as with
  | nil =>
    rw [List.length_nil, List.length_eq_zero_iff] at length
    subst length
    rfl
  | cons f fs ih =>
    cases as with
    | nil => simp at length
    | cons a as =>
      rw [List.map_cons, List.nodup_cons] at nodup
      have ih := ih nodup.2 (Nat.succ_inj.1 length) (c.push f.pass f.name a)
      have before := args_prefix_pushAll (c.push f.pass f.name a) fs as
      have kept := get?_pushAll (c := c.push f.pass f.name a) nodup.1 as
      simp only [pushAll, takenBy, List.map_cons]
      cases hp : f.pass with
      | positional =>
        simp only [hp, push] at ih before ⊢
        obtain ⟨rest, args⟩ := before
        rw [← args] at ih ⊢
        simpa using ih
      | keyword =>
        simp only [hp, push] at ih kept ⊢
        rw [ih, kept]
        simp

theorem taken_pushAll {fields : List (Field δ)} (nodup : (fields.map Field.name).Nodup)
    {as : List Arg} (length : as.length = fields.length) :
    (pushAll {} fields as).taken fields = as.map some :=
  takenBy_pushAll nodup length {}

end CallArgs

section
variable {M : Type} [AddCommMonoid M] {L : Custody (Session n) M}
  {bound : Extractor → Bound → M → Prop} {resolved : δ → Resolved → M → Prop} {r : Request}

def Supplies (bound : Extractor → Bound → M → Prop) (resolved : δ → Resolved → M → Prop)
    (r : Request) (f : Field δ) (a : Arg) (k : M) : Prop :=
  match f.feed with
  | .request => a = .request r ∧ k = 0
  | .extract e => bound e (.ok a) k
  | .dependency d => resolved d (.ok a) k

theorem Custody.Gathered.length_eq {ι α : Type} {post : ι → α → M → Prop} {is : List ι}
    {as : List α} {m : M} (h : Gathered post is as m) : as.length = is.length := by
  induction h with
  | nil => rfl
  | cons _ _ ih => simp [ih]

theorem Concludes.supplied (explained : ∀ e k, ¬bound e (.error []) k) {fields : List (Field δ)}
    {g : Gathering} {args : CallArgs} {m : M}
    (h : Concludes L bound resolved r fields g (.ok args) m) :
    g.violations = [] ∧ ∃ as, Custody.Gathered (Supplies bound resolved r) fields as m ∧
      args = g.args.pushAll fields as := by
  generalize hout : (.ok args : Injected) = out at h
  induction h with
  | finished clean =>
    cases hout
    exact ⟨clean, [], .nil, rfl⟩
  | refused => nomatch hout
  | @request f fs g _ m hf _ ih =>
    obtain ⟨clean, as, gathered, rfl⟩ := ih hout
    have supplied : Supplies bound resolved r f (.request r) (0 : M) := by simp [Supplies, hf]
    exact ⟨clean, .request r :: as, by simpa using Custody.Gathered.cons supplied gathered, rfl⟩
  | @extract f fs g _ k m e x hf hx _ ih =>
    obtain ⟨clean, as, gathered, rfl⟩ := ih hout
    cases x with
    | error vs =>
      have : vs = [] := (List.append_eq_nil_iff.1 clean).2
      exact absurd (this ▸ hx) (explained e k)
    | ok a =>
      have supplied : Supplies bound resolved r f a k := by simpa [Supplies, hf] using hx
      exact ⟨clean, a :: as, .cons supplied gathered, rfl⟩
  | @dependency f fs g _ k m d a hf hx _ ih =>
    obtain ⟨clean, as, gathered, rfl⟩ := ih hout
    have supplied : Supplies bound resolved r f a k := by simpa [Supplies, hf] using hx
    exact ⟨clean, a :: as, .cons supplied gathered, rfl⟩
  | stopped => nomatch hout

end

end RequestBinding
