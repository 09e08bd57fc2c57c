import RequestBinding.Proofs.Schema.Findings
import RequestBinding.Proofs.Value.Lookup

/-!
Readers of one object.  A body is looked into by key, a record takes members by their keys, and a
document is written with each key once.  Main statement: a record and a document always show the
last pair of a key; a look-up shows the first, so the three agree exactly if both hold one value.
-/
namespace RequestBinding.Value
variable {pairs : List (String × Value)} {key : String} {found : Option Value}

def withOnly (pairs : List (String × Value)) (key : String) (found : Option Value) :
    List (String × Value) :=
  found.toList.map (key, ·) ++ pairs.filter (·.1 ≠ key)

/-- Every record is bound as if the value were the only one under the key. -/
def BoundAs (pairs : List (String × Value)) (key : String) (found : Option Value) : Prop :=
  ∀ ms ctx, Schema.checkMembers ms ctx pairs = Schema.checkMembers ms ctx (withOnly pairs key found)

/-- The document of the object shows the value under the key. -/
def EmittedAs (pairs : List (String × Value)) (key : String) (found : Option Value) : Prop :=
  ∃ members, (object pairs).toJson = .object members ∧ members.lookup key = found.map toJson

theorem lookup_filter_ne (pairs : List (String × Value)) (key k : String) :
    (pairs.filter (·.1 ≠ key)).lookup k = if k = key then none else pairs.lookup k := by
  induction pairs with
  | nil => simp
  | cons p ps ih =>
    obtain ⟨a, w⟩ := p
    rw [List.filter_cons]
    split
    · next apart =>
      rw [Json.lookup_cons, Json.lookup_cons, ih]
      grind
    · next same =>
      rw [Json.lookup_cons, ih]
      grind

theorem lastMember?_withOnly (pairs : List (String × Value)) (key : String)
    (found : Option Value) (k : String) : lastMember? (withOnly pairs key found) k =
      if k = key then found else lastMember? pairs k := by
  have one : (found.toList.map (key, ·)).reverse.lookup k = if k = key then found else none := by
    cases found <;> simp [Json.lookup_cons]
  rw [lastMember?, withOnly, List.reverse_append, List.lookup_append, ← List.filter_reverse,
    lookup_filter_ne, one]
  split
  · exact Option.none_or
  · exact Option.or_none

/-- A record sees of an object what is found last. -/
theorem checkMembers_congr {pairs others : List (String × Value)}
    (same : ∀ k, lastMember? pairs k = lastMember? others k) (ms : List (Member Schema))
    (ctx : Context) : Schema.checkMembers ms ctx pairs = Schema.checkMembers ms ctx others := by
  induction ms with
  | nil => rfl
  | cons m ms ih =>
    obtain ⟨name, alias?, schema, default?⟩ := m
    rw [Schema.checkMembers, Schema.checkMembers, same, ih]

theorem settleMembers_any (pairs : List (String × Value)) (key : String) :
    Schema.settleMembers [⟨key, none, .any, none⟩] pairs =
      (lastMember? pairs key).toList.map (key, ·) := by
  simp only [Schema.settleMembers, Option.getD_none]
  cases lastMember? pairs key <;> rfl

theorem boundAs_iff : BoundAs pairs key found ↔ found = lastMember? pairs key := by
  constructor
  · intro bound
    have run (ps : List (String × Value)) :
        ((Schema.checkMembers [⟨key, none, .any, none⟩] ⟨"", []⟩ ps).run []).1 =
          (lastMember? ps key).toList.map (key, ·) := by
      rw [Schema.adds_checkMembers (fun m _ => m.schema.adds_check) _ _ [], settleMembers_any]
    have both := run pairs
    rw [bound, run, lastMember?_withOnly, if_pos rfl] at both
    cases found <;> cases h : lastMember? pairs key <;> simp_all
  · rintro rfl ms ctx
    refine checkMembers_congr (fun k => ?_) ms ctx
    rw [lastMember?_withOnly]
    split
    · next same => rw [same]
    · rfl

theorem emittedAs_lastMember? (pairs : List (String × Value)) (key : String) :
    EmittedAs pairs key (lastMember? pairs key) := by
  refine ⟨_, rfl, ?_⟩
  rw [Json.lookup_sortMembers, toJsonPairs_eq_map, ← List.map_reverse]
  unfold lastMember?
  induction pairs.reverse with
  | nil => rfl
  | cons p ps ih =>
    rw [List.map_cons, Json.lookup_cons, Json.lookup_cons, ih]
    split <;> rfl

/-- A look-up shows the member that a record binds and the document shows exactly if the first and
the last pair of the key hold one value. -/
theorem readers_agree_iff (pairs : List (String × Value)) (key : String) :
    (∃ found, BoundAs pairs key found ∧ EmittedAs pairs key found) ∧
      ((∃ found, (object pairs).get? key = found ∧ BoundAs pairs key found ∧
          EmittedAs pairs key found) ↔
        ∀ v w, FirstUnder pairs key v → LastUnder pairs key w → v = w) := by
  have last := boundAs_iff.2 (rfl : lastMember? pairs key = _)
  refine ⟨⟨_, last, emittedAs_lastMember? pairs key⟩, ?_, ?_⟩
  · rintro ⟨found, get, bound, _⟩ v w first final
    rw [boundAs_iff.1 bound, lastMember?_eq_some_iff.2 final] at get
    exact Option.some.inj ((lookup_eq_some_iff.2 first).symm.trans get)
  · intro one
    refine ⟨_, ?_, last, emittedAs_lastMember? pairs key⟩
    show pairs.lookup key = _
    cases first : pairs.lookup key with
    | none => exact (lastMember?_eq_none_iff.2 (lookup_eq_none_iff.1 first)).symm
    | some v =>
      cases final : lastMember? pairs key with
      | none =>
        rw [lookup_eq_none_iff.2 (lastMember?_eq_none_iff.1 final)] at first
        cases first
      | some w => rw [one v w (lookup_eq_some_iff.1 first) (lastMember?_eq_some_iff.1 final)]

/-- Two pairs of one key: a look-up shows the first, a record and the document the second. -/
theorem readers_disagree : ¬∃ found,
    (object [("a", .int 1), ("a", .int 2)]).get? "a" = found ∧
      BoundAs [("a", .int 1), ("a", .int 2)] "a" found ∧
      EmittedAs [("a", .int 1), ("a", .int 2)] "a" found := by
  rintro ⟨found, get, bound, _⟩
  rw [boundAs_iff.1 bound] at get
  cases get

end RequestBinding.Value
