import RequestBinding.Extractor.Basic
import RequestBinding.Proofs.Http.Addition
import RequestBinding.Proofs.Text.SmallLetters

/-!
Header parameters and the headers that are sent for them.  Main statement: a parameter finds the
header that is sent under its key with hyphens for underscores, in any letter case, and a key with
an underscore is not looked up as it is written.
-/
namespace RequestBinding

def hyphenated (key : String) : String :=
  String.ofList (key.toList.map fun c => if c = '_' then '-' else c)

section
variable {key : String}

theorem hyphenated_eq_self (h : '_' ∉ key.toList) : hyphenated key = key := by
  have same : key.toList.map (fun c => if c = '_' then '-' else c) = key.toList.map id :=
    List.map_congr_left fun c hc => if_neg (ne_of_mem_of_not_mem hc h)
  rw [hyphenated, same, List.map_id, String.ofList_toList]

theorem notMem_hyphenated (key : String) : '_' ∉ (hyphenated key).toList := by
  rw [hyphenated, String.toList_ofList, List.mem_map]
  rintro ⟨c, _, same⟩
  split at same
  · cases same
  · next other => exact other same

namespace Text

theorem asciiSmall_eq_underscore_iff {c : Char} : asciiSmall c = '_' ↔ c = '_' := by
  unfold asciiSmall
  split
  · next capital =>
    have least : 65 ≤ c.toNat := capital.1
    have most : c.toNat ≤ 90 := capital.2
    have letters : ∀ i < 26, Char.ofNat (i + 97) ≠ '_' := by decide
    have letter : c.toNat + 32 = c.toNat - 65 + 97 := by omega
    refine iff_of_false ?_ ?_
    · rw [letter]
      exact letters _ (by omega)
    · rintro rfl
      exact absurd most (by decide)
  · rfl

theorem AsciiCased.hyphenated (h : AsciiCased key) : AsciiCased (hyphenated key) := by
  intro c hc
  rw [RequestBinding.hyphenated, String.toList_ofList, List.mem_map] at hc
  obtain ⟨d, hd, rfl⟩ := hc
  split
  · exact .inl (by decide)
  · exact h d hd

theorem toAsciiSmall_hyphenated (key : String) :
    toAsciiSmall (RequestBinding.hyphenated key) = headerKey key := by
  have each (c : Char) : asciiSmall (if c = '_' then '-' else c) =
      if asciiSmall c = '_' then '-' else asciiSmall c := by
    by_cases h : c = '_'
    · subst h
      rfl
    · rw [if_neg h, if_neg (mt asciiSmall_eq_underscore_iff.1 h)]
  simp only [toAsciiSmall, RequestBinding.hyphenated, headerKey, String.toList_ofList,
    List.map_map, Function.comp_def, each]

end Text

theorem toSmall_hyphenated (h : Text.AsciiCased key) :
    Text.toSmall (hyphenated key) = headerKey key :=
  (Text.toSmall_eq_toAsciiSmall h.hyphenated).trans (Text.toAsciiSmall_hyphenated key)

end

namespace Extractor
variable {n : Nat} {config : Config n} {k v name : String} {default? : Option Value}
  {embed : Bool} {e : Extractor}

theorem apply_header (made : ofSource? config .header ⟨k, .text {}, default?⟩ embed = some e)
    (r : Request) (s : Session n) : e.apply r s = (match r.headers.get? (headerKey k) with
      | some v => .ok (.value (.string v))
      | none => Target.absent ⟨headerKey k, .text {}, default?⟩ .header, s) := by
  cases made
  show (bindWhere .header headerKey _ ⟨headerKey k, .text {}, default?⟩, s) = _
  unfold bindWhere
  dsimp only [Schema.members?, Schema.bare]
  cases r.headers.get? (headerKey k) <;> rfl

/-- A text parameter binds the header that is sent last under its key, in any letter case and with
hyphens for underscores; what is sent under a key with underscores it does not see. -/
theorem header_binds (made : ofSource? config .header ⟨k, .text {}, default?⟩ embed = some e)
    (cased : Text.AsciiCased k) (r : Request) (v : String) (s : Session n) :
    (∀ name later, Text.toSmall name = Text.toSmall (hyphenated k) →
      (∀ a ∈ later, a.header? ≠ some (Text.toSmall name)) →
      e.apply ((r.withHeader name v).addAll later) s = (.ok (.value (.string v)), s)) ∧
    ('_' ∉ k.toList → hyphenated k = k) ∧
    ('_' ∈ k.toList → e.apply (r.withHeader k v) s = e.apply r s) := by
  refine ⟨fun name later spelled last => ?_, hyphenated_eq_self, fun underscore => ?_⟩
  · rw [toSmall_hyphenated cased] at spelled
    rw [apply_header made, Request.get?_headers_addAll (spelled ▸ last), Request.headers_withHeader,
      Dictionary.get?_insert, if_pos spelled]
  · have apart : Text.toSmall k ≠ headerKey k := by
      intro same
      have small : '_' ∈ (Text.toSmall k).toList := by
        rw [Text.toSmall_eq_toAsciiSmall cased, Text.toAsciiSmall, String.toList_ofList]
        exact List.mem_map.2 ⟨'_', underscore, rfl⟩
      rw [same] at small
      exact notMem_hyphenated (Text.toAsciiSmall k) small
    rw [apply_header made, apply_header made, Request.headers_withHeader, Dictionary.get?_insert,
      if_neg apart]

theorem header_binds_requestId :
    let e := Extractor.header ⟨"x-request-id", .text {}, none⟩
    let r := ({ method := .post, path := "/" } : Request).withHeader "x-request-id" "first"
    let later : List Request.Addition := [.json .null, .header "x_request_id" "third"]
    ofSource? ({} : Config 0) .header ⟨"X_Request_ID", .text {}, none⟩ false = some e ∧
      Text.AsciiCased "X_Request_ID" ∧
      Text.toSmall "X-REQUEST-ID" = Text.toSmall (hyphenated "X_Request_ID") ∧
      (∀ a ∈ later, a.header? ≠ some (Text.toSmall "X-REQUEST-ID")) ∧
      e.apply ((r.withHeader "X-REQUEST-ID" "second").addAll later) ({} : Session 0) =
        (.ok (.value (.string "second")), {}) := by
  intro e r later
  have made : ofSource? ({} : Config 0) .header ⟨"X_Request_ID", .text {}, none⟩ false = some e :=
    rfl
  have cased : Text.AsciiCased "X_Request_ID" := by decide
  have small : Text.toSmall "X-REQUEST-ID" = "x-request-id" :=
    (Text.toSmall_eq_toAsciiSmall (by decide)).trans (by decide)
  have spelled : Text.toSmall "X-REQUEST-ID" = Text.toSmall (hyphenated "X_Request_ID") := by
    rw [small, toSmall_hyphenated cased]
    decide
  have last : ∀ a ∈ later, a.header? ≠ some (Text.toSmall "X-REQUEST-ID") := by
    have json : Text.toSmall "content-type" ≠ "x-request-id" := by
      rw [Text.toSmall_eq_toAsciiSmall (by decide)]
      decide
    have third : Text.toSmall "x_request_id" ≠ "x-request-id" := by
      rw [Text.toSmall_eq_toAsciiSmall (by decide)]
      decide
    rw [small]
    simp [later, Request.Addition.header?, json, third]
  exact ⟨made, cased, spelled, last,
    (header_binds made cased r "second" {}).1 "X-REQUEST-ID" later spelled last⟩

/-- A header with an underscore in its name is missing under the hyphenated key. -/
theorem header_underscored : ∃ e,
    ofSource? ({} : Config 0) .header ⟨"x_token", .text {}, none⟩ false = some e ∧
      (e.apply (({ method := .get, path := "/" } : Request).withHeader "x_token" "abc")
        ({} : Session 0)).1 = .error [⟨"header", "x-token", .missing, none⟩] :=
  ⟨_, rfl, rfl⟩

end Extractor
end RequestBinding
