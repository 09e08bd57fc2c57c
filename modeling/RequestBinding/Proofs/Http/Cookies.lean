import RequestBinding.Proofs.Http.Addition
import RequestBinding.Proofs.Text.Pieces
import RequestBinding.Proofs.Text.SmallLetters
import RequestBinding.Proofs.Value.Lookup
import Mathlib.Data.List.Basic

/-!
Cookie headers.  Main statement: the cookies that are written in a cookie header are set, of several
with one name the last, and no others are touched.
-/
namespace RequestBinding
open Text

/-- A cookie as a header writes it: its value perhaps in quotes, and with what stands around name
and value. -/
structure WrittenCookie where
  name : String
  value : String
  quoted : Bool := false
  beforeName : List Char := []
  afterName : List Char := []
  beforeValue : List Char := []
  afterValue : List Char := []

namespace WrittenCookie

def quotes (c : WrittenCookie) : List Char := if c.quoted then ['"'] else []

def text (c : WrittenCookie) : List Char :=
  (c.beforeName ++ c.name.toList ++ c.afterName) ++
    '=' :: (c.beforeValue ++ (c.quotes ++ c.value.toList ++ c.quotes) ++ c.afterValue)

def header (cs : List WrittenCookie) : String := String.ofList ([';'].intercalate (cs.map text))

/-- What a header can write: a name that is not empty, with no separator in it and no blank at its
ends, and a value with no semicolon in it, no quote at its ends, and no blank there unless it is
quoted.  Around name and value there are blanks. -/
structure Legible (c : WrittenCookie) : Prop where
  name_ne : c.name ≠ ""
  name_free : ';' ∉ c.name.toList ∧ '=' ∉ c.name.toList
  name_trimmed : Trimmed isBlank c.name.toList
  value_free : ';' ∉ c.value.toList
  value_unquoted : Trimmed (· == '"') c.value.toList
  value_trimmed : c.quoted = false → Trimmed isBlank c.value.toList
  name_margins : ∀ x ∈ c.beforeName ++ c.afterName, isBlank x = true
  value_margins : ∀ x ∈ c.beforeValue ++ c.afterValue, isBlank x = true

instance : DecidablePred Legible := fun c =>
  decidable_of_iff
    (c.name ≠ "" ∧ (';' ∉ c.name.toList ∧ '=' ∉ c.name.toList) ∧ Trimmed isBlank c.name.toList ∧
      ';' ∉ c.value.toList ∧ Trimmed (· == '"') c.value.toList ∧
      (c.quoted = false → Trimmed isBlank c.value.toList) ∧
      (c.beforeName ++ c.afterName).all isBlank ∧ (c.beforeValue ++ c.afterValue).all isBlank)
    ⟨fun ⟨ne, free, trimmed, valueFree, unquoted, valueTrimmed, margins, valueMargins⟩ =>
      ⟨ne, free, trimmed, valueFree, unquoted, valueTrimmed, List.all_eq_true.1 margins,
        List.all_eq_true.1 valueMargins⟩,
    fun h => ⟨h.name_ne, h.name_free, h.name_trimmed, h.value_free, h.value_unquoted,
      h.value_trimmed, List.all_eq_true.2 h.name_margins, List.all_eq_true.2 h.value_margins⟩⟩

variable {c : WrittenCookie}

theorem notMem_of_blank {x : Char} (other : isBlank x = false) {before after : List Char}
    (blank : ∀ y ∈ before ++ after, isBlank y = true) : x ∉ before ∧ x ∉ after := by
  have outside : x ∉ before ++ after := fun h => by
    rw [blank x h] at other
    cases other
  simpa using outside

theorem mem_quotes {x : Char} (h : x ∈ c.quotes) : x = '"' := by
  unfold quotes at h
  split at h
  · exact List.mem_singleton.1 h
  · cases h

theorem Legible.semicolon_notMem (h : c.Legible) : ';' ∉ c.text := by
  have semicolon : isBlank ';' = false := by decide
  obtain ⟨beforeName, afterName⟩ := notMem_of_blank semicolon h.name_margins
  obtain ⟨beforeValue, afterValue⟩ := notMem_of_blank semicolon h.value_margins
  have quotes : ';' ∉ c.quotes := fun quote => absurd (mem_quotes quote) (by decide)
  simp [text, beforeName, afterName, beforeValue, afterValue, quotes, h.name_free.1, h.value_free]

theorem Legible.trimmed_quoted (h : c.Legible) :
    Trimmed isBlank (c.quotes ++ c.value.toList ++ c.quotes) := by
  have quote : isBlank '"' = false := by decide
  unfold quotes
  cases quoted : c.quoted with
  | false => simpa using h.value_trimmed quoted
  | true =>
    refine ⟨fun x hx => ?_, fun x hx => ?_⟩
    · obtain rfl : '"' = x := Option.some.inj hx
      exact quote
    · obtain rfl : '"' = x := Option.some.inj (List.getLast?_concat.symm.trans hx)
      exact quote

theorem Legible.cookie?_text (h : c.Legible) : Request.cookie? c.text = some (c.name, c.value) := by
  have equals : isBlank '=' = false := by decide
  obtain ⟨beforeName, afterName⟩ := notMem_of_blank equals h.name_margins
  obtain ⟨nameLeft, nameRight⟩ := List.forall_mem_append.1 h.name_margins
  obtain ⟨valueLeft, valueRight⟩ := List.forall_mem_append.1 h.value_margins
  have first : '=' ∉ c.beforeName ++ c.name.toList ++ c.afterName := by
    simp [beforeName, afterName, h.name_free.2]
  have quote : ∀ x ∈ c.quotes, (x == '"') = true := fun x hx => beq_iff_eq.2 (mem_quotes hx)
  have named : c.name.toList.isEmpty = false := by simpa using h.name_ne
  rw [Request.cookie?, text, splitOnce?_append_cons first]
  dsimp only
  rw [h.name_trimmed.trimWhere_margins nameLeft nameRight, named,
    h.trimmed_quoted.trimWhere_margins valueLeft valueRight,
    h.value_unquoted.trimWhere_margins quote quote]
  simp

theorem filterMap_cookie?_header {cs : List WrittenCookie} (legible : ∀ c ∈ cs, c.Legible) :
    (splitOn ';' (header cs).toList).filterMap Request.cookie? =
      cs.map fun c => (c.name, c.value) := by
  rw [header, String.toList_ofList]
  cases cs with
  | nil => rfl
  | cons c cs =>
    have free : ∀ p ∈ (c :: cs).map text, ';' ∉ p := by
      intro p hp
      obtain ⟨d, hd, rfl⟩ := List.mem_map.1 hp
      exact (legible d hd).semicolon_notMem
    rw [splitOn_intercalate free (by simp), List.filterMap_map, ← List.filterMap_eq_map]
    exact List.filterMap_congr fun d hd => (legible d hd).cookie?_text

end WrittenCookie

namespace Request

/-- Of cookies that are set one after another the last of a name stays. -/
theorem get?_cookies_foldl (pairs : List (String × String)) (r : Request) (key : String) :
    (pairs.foldl (fun r (name, value) => r.withCookie name value) r).cookies.get? key =
      (pairs.reverse.lookup key).or (r.cookies.get? key) := by
  induction pairs generalizing r with
  | nil => rfl
  | cons p pairs ih =>
    have set : (r.withCookie p.1 p.2).cookies = r.cookies.insert p.1 p.2 := rfl
    rw [List.foldl_cons, ih, set, Dictionary.get?_insert, List.reverse_cons,
      List.lookup_append, Option.or_assoc, Json.lookup_cons]
    by_cases same : key = p.1
    · rw [if_pos same, if_pos same.symm, Option.some_or]
    · rw [if_neg same, if_neg (Ne.symm same)]
      rfl

theorem cookies_withHeader_cookie {name : String} (spelled : toSmall name = "cookie") (r : Request)
    (raw : String) : (r.withHeader name raw).cookies = (r.withCookieHeader raw).cookies := by
  simp [withHeader, spelled]

/-- A cookie header, its name in any letter case, sets each cookie that is written in it, of several
with one name the last, and touches no other. -/
theorem cookies_withHeader_header {name : String} {cs : List WrittenCookie}
    (spelled : toSmall name = "cookie") (legible : ∀ c ∈ cs, c.Legible) (r : Request) :
    (∀ before c after, cs = before ++ c :: after → (∀ d ∈ after, d.name ≠ c.name) →
      (r.withHeader name (WrittenCookie.header cs)).cookies.get? c.name = some c.value) ∧
    ∀ key, (∀ c ∈ cs, c.name ≠ key) →
      (r.withHeader name (WrittenCookie.header cs)).cookies.get? key = r.cookies.get? key := by
  have cookies (key : String) :
      (r.withHeader name (WrittenCookie.header cs)).cookies.get? key =
        ((cs.map fun c => (c.name, c.value)).reverse.lookup key).or (r.cookies.get? key) := by
    rw [cookies_withHeader_cookie spelled, withCookieHeader,
      WrittenCookie.filterMap_cookie?_header legible, get?_cookies_foldl]
  refine ⟨fun before c after split last => ?_, fun key others => ?_⟩
  · have found : Value.LastUnder (cs.map fun c => (c.name, c.value)) c.name c.value :=
      ⟨before.map fun c => (c.name, c.value), after.map fun c => (c.name, c.value), by simp [split],
        by simpa using last⟩
    rw [cookies, Value.lookup_eq_some_iff.2 (Value.firstUnder_reverse_iff.2 found), Option.some_or]
  · have none : Value.NoneUnder (cs.map fun c => (c.name, c.value)).reverse key := by
      simpa [Value.NoneUnder] using others
    rw [cookies, Value.lookup_eq_none_iff.2 none, Option.none_or]

theorem cookies_withHeader_header_theme :
    let light : WrittenCookie := { name := "theme", value := "light" }
    let token : WrittenCookie := {
      name := "token", value := "a=\"b", beforeName := [' '], afterName := [' '],
      beforeValue := ['\t'], afterValue := [' '] }
    let dark : WrittenCookie := { name := "theme", value := " dark ", quoted := true }
    let r := ({ method := .get, path := "/" } : Request).withCookie "user" "x"
    let r' := r.withHeader "COOKIE" "theme=light; token =\ta=\"b ;theme=\" dark \""
    toSmall "COOKIE" = "cookie" ∧ (∀ c ∈ [light, token, dark], c.Legible) ∧
      WrittenCookie.header [light, token, dark] =
        "theme=light; token =\ta=\"b ;theme=\" dark \"" ∧
      r'.cookies.get? "theme" = some " dark " ∧ r'.cookies.get? "token" = some "a=\"b" ∧
      r'.cookies.get? "user" = some "x" := by
  intro light token dark r r'
  have spelled : toSmall "COOKIE" = "cookie" :=
    (toSmall_eq_toAsciiSmall (by decide)).trans (by decide)
  have legible : ∀ c ∈ [light, token, dark], c.Legible := List.forall_mem_cons.2
    ⟨by decide, List.forall_mem_cons.2 ⟨by decide, List.forall_mem_singleton.2 (by decide)⟩⟩
  have written : WrittenCookie.header [light, token, dark] =
      "theme=light; token =\ta=\"b ;theme=\" dark \"" := by decide
  obtain ⟨set, kept⟩ := cookies_withHeader_header spelled legible r
  rw [written] at set kept
  exact ⟨spelled, legible, written, set [light, token] dark [] rfl (by simp),
    set [light] token [dark] rfl (by decide), (kept "user" (by decide)).trans rfl⟩

end Request
end RequestBinding
