import RequestBinding.Proofs.Schema.Findings
import RequestBinding.Proofs.Text.Pieces
import RequestBinding.Proofs.Value.Lookup
import RequestBinding.Extractor.Target
import RequestBinding.Serializer
import Mathlib.Data.List.Forall2

/-!
Where clients are told a violation is.  The path of a violation is written with dots and taken apart
at dots again.  Main statement: clients see the path itself exactly if every key in it is a single
piece, that is, if it is not empty and has no dot.
-/
namespace RequestBinding
open Value (LastUnder NoneUnder)

namespace Violation

/-- The pieces of a field that are not empty. -/
def pieces (field : String) : List String :=
  ((Text.splitOn '.' field.toList).filter (!·.isEmpty)).map String.ofList

theorem loc_eq (v : Violation) : v.loc = v.location :: pieces v.field := rfl

def IsPiece (key : String) : Prop := key ≠ "" ∧ '.' ∉ key.toList

theorem isPiece_of_mem_pieces {key field : String} (h : key ∈ pieces field) : IsPiece key := by
  obtain ⟨p, hp, rfl⟩ := List.mem_map.1 h
  obtain ⟨split, nonempty⟩ := List.mem_filter.1 hp
  refine ⟨?_, by simpa using Text.not_mem_of_mem_splitOn split⟩
  cases p <;> simp_all

theorem pieces_eq_singleton {key : String} (h : IsPiece key) : pieces key = [key] := by
  have nonempty : key.toList ≠ [] := by simpa using h.1
  simp [pieces, Text.splitOn_of_not_mem h.2, nonempty]

theorem pieces_dot (a b : String) : pieces (a ++ "." ++ b) = pieces a ++ pieces b := by
  have chars : (a ++ "." ++ b).toList = a.toList ++ '.' :: b.toList := by simp
  simp [pieces, chars, Text.splitOn_append_cons]

theorem pieces_intercalate (path : List String) :
    pieces (".".intercalate path) = path.flatMap pieces := by
  induction path with
  | nil => rfl
  | cons key path ih =>
    cases path with
    | nil => simp [String.intercalate_singleton]
    | cons next path => rw [String.intercalate_cons_cons, pieces_dot, ih, ← List.flatMap_cons]

theorem flatMap_pieces_eq_self_iff {path : List String} :
    path.flatMap pieces = path ↔ ∀ key ∈ path, IsPiece key := by
  constructor
  · intro same key hk
    rw [← same] at hk
    obtain ⟨_, _, found⟩ := List.mem_flatMap.1 hk
    exact isPiece_of_mem_pieces found
  · intro all
    induction path with
    | nil => rfl
    | cons key path ih =>
      obtain ⟨here, rest⟩ := List.forall_mem_cons.1 all
      rw [List.flatMap_cons, pieces_eq_singleton here, ih rest, List.singleton_append]

theorem isPiece_natText (i : Nat) : IsPiece (Decimal.natText i) := by
  constructor
  · simp [Decimal.natText, String.ext_iff]
  · intro dot
    rw [Decimal.natText, String.toList_ofList] at dot
    exact absurd (Nat.isDigit_of_mem_toDigits (by decide) (by decide) dot) (by decide)

/-- A violation of the value that a path leads to. -/
structure IsAt (v : Violation) (location : String) (path : List String) : Prop where
  location_eq : v.location = location
  field_eq : v.field = ".".intercalate path

section
variable {v w : Violation} {location location' : String} {path path' : List String}

theorem IsAt.loc_eq_pieces (h : v.IsAt location path) : v.loc = location :: path.flatMap pieces := by
  rw [loc_eq, h.location_eq, h.field_eq, pieces_intercalate]

/-- Clients see the path itself exactly if its keys are single pieces. -/
theorem IsAt.loc_eq_iff (h : v.IsAt location path) :
    v.loc = location :: path ↔ ∀ key ∈ path, IsPiece key := by
  rw [h.loc_eq_pieces, List.cons_inj_right, flatMap_pieces_eq_self_iff]

/-- Clients can tell two paths apart exactly if their pieces differ. -/
theorem IsAt.loc_eq_loc_iff (h : v.IsAt location path) (h' : w.IsAt location' path') :
    v.loc = w.loc ↔ location = location' ∧ path.flatMap pieces = path'.flatMap pieces := by
  rw [h.loc_eq_pieces, h'.loc_eq_pieces, List.cons.injEq]

end

theorem isAt_tell (ctx : Context) (f : Finding) :
    (ctx.tell f).IsAt ctx.location (ctx.path ++ f.trail) := ⟨rfl, rfl⟩

end Violation

/-- Keys and indexes that lead from a value to a part of it, or to a member that has to be there and
is not. -/
inductive Schema.Leads : Schema → Value → List String → Prop
  | here (s : Schema) (v : Value) : Leads s v []
  | item {items : Schema} {vs : List Value} {v : Value} {i : Nat} {trail : List String}
    (there : vs[i]? = some v) (rest : Leads items v trail) :
    Leads (.list items) (.list vs) (Decimal.natText i :: trail)
  | inner {s : Schema} {v : Value} {trail : List String} (rest : Leads s v trail) :
    Leads (.optional s) v trail
  | member {name : String} {ms : List (Member Schema)} {pairs : List (String × Value)}
    {m : Member Schema} {v : Value} {trail : List String} (declared : m ∈ ms)
    (last : LastUnder pairs m.key v) (rest : Leads m.schema v trail) :
    Leads (.record name ms) (.object pairs) (m.key :: trail)
  | absent {name : String} {ms : List (Member Schema)} {pairs : List (String × Value)}
    {m : Member Schema} (declared : m ∈ ms) (required : m.isRequired = true)
    (nothing : NoneUnder pairs m.key) : Leads (.record name ms) (.object pairs) [m.key]

/-- Keys and indexes that lead from a value to a part of it that is refused for a cause of its own,
or to a member that has to be there and is not. -/
inductive Schema.Offends : Schema → Value → List String → Cause → Prop
  | here {s : Schema} {v : Value} {cause : Cause} (found : .here cause ∈ s.findings v) :
    Offends s v [] cause
  | item {items : Schema} {vs : List Value} {v : Value} {i : Nat} {trail : List String}
    {cause : Cause} (there : vs[i]? = some v) (rest : Offends items v trail cause) :
    Offends (.list items) (.list vs) (Decimal.natText i :: trail) cause
  | inner {s : Schema} {v : Value} {trail : List String} {cause : Cause} (there : v.isNull = false)
    (rest : Offends s v trail cause) : Offends (.optional s) v trail cause
  | member {name : String} {ms : List (Member Schema)} {pairs : List (String × Value)}
    {m : Member Schema} {v : Value} {trail : List String} {cause : Cause} (declared : m ∈ ms)
    (last : LastUnder pairs m.key v) (rest : Offends m.schema v trail cause) :
    Offends (.record name ms) (.object pairs) (m.key :: trail) cause
  | absent {name : String} {ms : List (Member Schema)} {pairs : List (String × Value)}
    {m : Member Schema} (declared : m ∈ ms) (required : m.isRequired = true)
    (nothing : NoneUnder pairs m.key) :
    Offends (.record name ms) (.object pairs) [m.key] .missing

namespace Schema

theorem Offends.leads {s : Schema} {v : Value} {trail : List String} {cause : Cause}
    (h : s.Offends v trail cause) : s.Leads v trail := by
  induction h with
  | here _ => exact .here _ _
  | item there _ ih => exact .item there ih
  | inner _ _ ih => exact .inner ih
  | member declared last _ ih => exact .member declared last ih
  | absent declared required nothing => exact .absent declared required nothing

theorem offends_of_mem_here {s : Schema} {v : Value} {causes : List Cause} {f : Finding}
    (found : f ∈ s.findings v) (here : f ∈ causes.map .here) : s.Offends v f.trail f.cause := by
  obtain ⟨cause, _, rfl⟩ := List.mem_map.1 here
  exact .here found

theorem offends_of_mem_mistyped {s : Schema} {v : Value} {expected : String} {f : Finding}
    (found : f ∈ s.findings v) (kind : f ∈ mistyped expected v) :
    s.Offends v f.trail f.cause := by
  obtain rfl := List.mem_singleton.1 kind
  exact .here found

/-- Whatever is wrong with a value, its trail leads to the part that is refused. -/
theorem offends_of_mem_findings {s : Schema} {v : Value} {f : Finding} (found : f ∈ s.findings v) :
    s.Offends v f.trail f.cause := by
  induction s using Schema.induction generalizing v f with
  | any => cases found
  | text limits =>
    cases v with
    | string s => exact offends_of_mem_here found found
    | _ => exact offends_of_mem_mistyped found found
  | integer bounds =>
    cases v with
    | int i => exact offends_of_mem_here found found
    | _ => exact offends_of_mem_mistyped found found
  | number bounds =>
    cases v with
    | float x => exact offends_of_mem_here found found
    | int i => exact offends_of_mem_here found found
    | _ => exact offends_of_mem_mistyped found found
  | boolean =>
    cases v with
    | bool b => cases found
    | _ => exact offends_of_mem_mistyped found found
  | bytes =>
    cases v with
    | bytes bs => cases found
    | string s => cases found
    | _ => exact offends_of_mem_mistyped found found
  | list items ih =>
    cases v with
    | list vs =>
      rw [findings] at found
      obtain ⟨⟨v, i⟩, hp, found⟩ := List.mem_flatMap.1 found
      obtain ⟨g, hg, rfl⟩ := List.mem_map.1 found
      exact .item (List.mem_zipIdx_iff_getElem?.1 hp) (ih hg)
    | _ => exact offends_of_mem_mistyped found found
  | optional inner ih =>
    rw [findings] at found
    split at found
    · cases found
    · next there => exact .inner (Bool.eq_false_iff.2 there) (ih found)
  | record name ms ih =>
    cases v with
    | object pairs =>
      rw [findings, memberFindings_eq_flatMap] at found
      obtain ⟨m, hm, found⟩ := List.mem_flatMap.1 found
      obtain ⟨g, rfl, ⟨v, looked, hg⟩ | ⟨looked, required, rfl⟩⟩ := Member.mem_findings found
      · exact .member hm (Value.lastMember?_eq_some_iff.1 looked) (ih m hm hg)
      · exact .absent hm required (Value.lastMember?_eq_none_iff.1 looked)
    | _ => exact offends_of_mem_mistyped found found
  | upload => exact offends_of_mem_mistyped found found
  | request => exact offends_of_mem_mistyped found found

theorem leads_of_mem_findings {s : Schema} {v : Value} {f : Finding} (found : f ∈ s.findings v) :
    s.Leads v f.trail := (offends_of_mem_findings found).leads

theorem isAt_check (s : Schema) (ctx : Context) (v : Value) (es : List Violation) :
    ∃ new, ((s.check ctx v).run es).2 = es ++ new ∧
      ∀ w ∈ new, ∃ trail, s.Leads v trail ∧ w.IsAt ctx.location (ctx.path ++ trail) := by
  refine ⟨(s.findings v).map ctx.tell, by rw [s.adds_check ctx v es], fun w hw => ?_⟩
  obtain ⟨f, hf, rfl⟩ := List.mem_map.1 hw
  exact ⟨f.trail, leads_of_mem_findings hf, Violation.isAt_tell ctx f⟩

end Schema

theorem RecordPlan.isAt_pairsCollecting (source : Source) (ms : List (Member Schema))
    (found : List (Option Value)) (es : List Violation) :
    ∃ new, ((pairsCollecting source ms found).run es).2 = es ++ new ∧
      ∀ w ∈ new, ∃ m, ∃ looked, (m, looked) ∈ ms.zip found ∧ ∃ trail,
        (looked = none ∧ trail = [] ∨ ∃ v, looked = some v ∧ m.schema.Leads v trail) ∧
        w.IsAt source.name (m.key :: trail) := by
  refine ⟨_, by rw [adds_pairsCollecting source ms found es], fun w hw => ?_⟩
  obtain ⟨f, hf, rfl⟩ := List.mem_map.1 hw
  obtain ⟨⟨m, looked⟩, hm, hf⟩ := List.mem_flatMap.1 hf
  refine ⟨m, looked, hm, ?_⟩
  obtain ⟨g, rfl, ⟨v, rfl, hg⟩ | ⟨rfl, required, rfl⟩⟩ := Member.mem_findings hf
  · exact ⟨g.trail, .inr ⟨v, rfl, Schema.leads_of_mem_findings hg⟩, rfl, rfl⟩
  · exact ⟨[], .inl ⟨rfl, rfl⟩, rfl, rfl⟩

theorem Target.isAt_absent (t : Target) (source : Source) (required : t.isRequired = true) :
    t.absent source = .error [.absent source.name t.key] ∧
      (Violation.absent source.name t.key).IsAt source.name [t.key] := by
  refine ⟨?_, rfl, (String.intercalate_singleton).symm⟩
  rw [absent, Option.isNone_iff_eq_none.1 required]

namespace Violation

theorem sortedDetail_loc (v : Violation) : ∃ members, v.sortedDetail = .object members ∧
    members.lookup "loc" = some (.array (v.loc.map .string)) := by
  refine ⟨_, rfl, ?_⟩
  rw [Json.lookup_sortMembers, detail]
  cases v.position <;> rfl

theorem jsonFault_loc (vs : List Violation) : ∃ details,
    Serializer.jsonFault (.validation vs) = .json 422 (.object [("detail", .array details)]) ∧
      List.Forall₂ (fun v detail => ∃ members, detail = .object members ∧
        members.lookup "loc" = some (.array (v.loc.map .string))) vs details := by
  refine ⟨vs.map sortedDetail, rfl, ?_⟩
  rw [List.forall₂_map_right_iff, List.forall₂_same]
  exact fun v _ => v.sortedDetail_loc

/-- A violation is at the path of the value: the path of the check and the keys and indexes that
lead on from there, or the key of a parameter that is missing.  Clients see this path exactly if its
keys are single pieces, and two paths look alike exactly if their pieces do. -/
theorem loc_faithful_iff (s : Schema) (ctx : Context) (v : Value) (es : List Violation) :
    (∃ new, ((s.check ctx v).run es).2 = es ++ new ∧ ∀ w ∈ new, ∃ trail, s.Leads v trail ∧
      w.IsAt ctx.location (ctx.path ++ trail) ∧
      (w.loc = ctx.location :: (ctx.path ++ trail) ↔ ∀ key ∈ ctx.path ++ trail, IsPiece key)) ∧
    (∀ (source : Source) (ms : List (Member Schema)) (found : List (Option Value)),
      ∃ new, ((RecordPlan.pairsCollecting source ms found).run es).2 = es ++ new ∧
        ∀ w ∈ new, ∃ m, ∃ looked, (m, looked) ∈ ms.zip found ∧ ∃ trail,
          (looked = none ∧ trail = [] ∨ ∃ v, looked = some v ∧ m.schema.Leads v trail) ∧
          w.IsAt source.name (m.key :: trail) ∧
          (w.loc = source.name :: m.key :: trail ↔ ∀ key ∈ m.key :: trail, IsPiece key)) ∧
    (∀ (t : Target) (source : Source), t.isRequired = true →
      t.absent source = .error [.absent source.name t.key] ∧
        (absent source.name t.key).IsAt source.name [t.key] ∧
        ((absent source.name t.key).loc = [source.name, t.key] ↔ IsPiece t.key)) ∧
    (∀ (w w' : Violation) (location location' : String) (path path' : List String),
      w.IsAt location path → w'.IsAt location' path' →
        (w.loc = w'.loc ↔ location = location' ∧ path.flatMap pieces = path'.flatMap pieces)) ∧
    (∀ i, IsPiece (Decimal.natText i)) ∧
    (∀ vs, ∃ details,
      Serializer.jsonFault (.validation vs) = .json 422 (.object [("detail", .array details)]) ∧
        List.Forall₂ (fun w detail => ∃ members, detail = .object members ∧
          members.lookup "loc" = some (.array (w.loc.map .string))) vs details) := by
  refine ⟨?_, fun source ms found => ?_, fun t source required => ?_,
    fun _ _ _ _ _ _ h h' => h.loc_eq_loc_iff h', isPiece_natText, jsonFault_loc⟩
  · obtain ⟨new, added, placed⟩ := s.isAt_check ctx v es
    refine ⟨new, added, fun w hw => ?_⟩
    obtain ⟨trail, leads, here⟩ := placed w hw
    exact ⟨trail, leads, here, here.loc_eq_iff⟩
  · obtain ⟨new, added, placed⟩ := RecordPlan.isAt_pairsCollecting source ms found es
    refine ⟨new, added, fun w hw => ?_⟩
    obtain ⟨m, looked, asked, trail, leads, here⟩ := placed w hw
    exact ⟨m, looked, asked, trail, leads, here, here.loc_eq_iff⟩
  · obtain ⟨missing, here⟩ := t.isAt_absent source required
    exact ⟨missing, here, here.loc_eq_iff.trans List.forall_mem_singleton⟩

/-- The key of a missing parameter is taken apart at its dot, and a record lacks two members that
look like one. -/
theorem loc_broken :
    let user : Target := ⟨"user.name", .text {}, none⟩
    let profile := Schema.record "Profile" [⟨"full", some "user.name", .text {}, none⟩,
      ⟨"user", none, .record "User" [⟨"name", none, .text {}, none⟩], none⟩]
    let found := ((profile.check ⟨"body", []⟩ (.object [("user", .object [])])).run []).2
    user.absent .query = .error [absent "query" "user.name"] ∧
      (absent "query" "user.name").loc = ["query", "user", "name"] ∧
      found.map loc = [["body", "user", "name"], ["body", "user", "name"]] := by
  refine ⟨rfl, by decide, by decide⟩

end Violation
end RequestBinding
