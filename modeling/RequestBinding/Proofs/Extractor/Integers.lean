import RequestBinding.Proofs.Decimal.Integers
import RequestBinding.Proofs.Extractor.Optional

/-!
Integers that are sent as text.  Main statement: a text that denotes an integer of 64 bits, perhaps
among blanks, is bound as the integer itself would be bound from the query, and every other text is
refused as no integer.
-/
namespace RequestBinding

/-- Two parameters come to the same value, or to the same findings, each told at its own place. -/
inductive Alike (place place' : Context) : Bound → Bound → Prop
  | bound (a : Arg) : Alike place place' (.ok a) (.ok a)
  | refused {fs : List Finding} (some : fs ≠ []) :
    Alike place place' (.error (fs.map place.tell)) (.error (fs.map place'.tell))

theorem alike_outcome (place place' : Context) (a : Arg) (fs : List Finding) :
    Alike place place' (Checking.outcome a (fs.map place.tell))
      (Checking.outcome a (fs.map place'.tell)) := by
  cases fs with
  | nil => exact .bound a
  | cons f fs => exact .refused (List.cons_ne_nil f fs)

theorem Schema.alike_bind (s : Schema) (source source' : Source) (key key' : String) (v : Value) :
    Alike (.atKey source.name key) (.atKey source'.name key') (s.bind source key v)
      (s.bind source' key' v) := by
  rw [bind_eq, bind_eq]
  exact alike_outcome _ _ _ _

namespace Schema

/-- An integer or a list of integers, perhaps optional. -/
inductive TakesIntegers (bounds : Bounds Int64) : Schema → Prop
  | integer : TakesIntegers bounds (.integer bounds)
  | optional : TakesIntegers bounds (.optional (.integer bounds))
  | list : TakesIntegers bounds (.list (.integer bounds))
  | optionalList : TakesIntegers bounds (.optional (.list (.integer bounds)))

def integerOfText (raw : String) : Value :=
  match Decimal.readInt64? (Text.trim raw).toList with
  | some i => .int i
  | none => .string raw

theorem wrapped_integerOfText (s : Schema) (raw : String) : s.wrapped (integerOfText raw) =
    if s.isList then .list [integerOfText raw] else integerOfText raw := by
  unfold integerOfText
  cases Decimal.readInt64? (Text.trim raw).toList <;> rfl

theorem coerceText_integer (bounds : Bounds Int64) (raw : String) :
    (Schema.integer bounds).coerceText raw = integerOfText raw := by
  unfold coerceText scalarOfText? integerOfText
  cases Decimal.readInt64? (Text.trim raw).toList <;> rfl

theorem integerOfText_of_denotes {raw : String} {i : Int64}
    (h : Decimal.Denotes (Text.trim raw).toList i.toInt) : integerOfText raw = .int i := by
  rw [integerOfText, Decimal.readInt64?_eq_some_iff.2 h]

theorem integerOfText_of_not_denotes {raw : String}
    (h : ¬∃ i : Int64, Decimal.Denotes (Text.trim raw).toList i.toInt) :
    integerOfText raw = .string raw := by
  have unread : Decimal.readInt64? (Text.trim raw).toList = none :=
    Option.eq_none_iff_forall_ne_some.2 fun i read => h ⟨i, Decimal.readInt64?_eq_some_iff.1 read⟩
  rw [integerOfText, unread]

namespace TakesIntegers
variable {bounds : Bounds Int64} {s : Schema}

theorem members?_eq_none (h : s.TakesIntegers bounds) : s.members? = none := by
  cases h <;> rfl

theorem coerceTexts_eq (h : s.TakesIntegers bounds) (raw : String) :
    s.coerceTexts [raw] = some (s.wrapped (integerOfText raw)) := by
  rw [wrapped_integerOfText, ← coerceText_integer bounds]
  cases h <;> rfl

theorem settle_eq (h : s.TakesIntegers bounds) (i : Int64) :
    s.settle (s.wrapped (.int i)) = if s.isList then .list [.int i] else .int i := by
  cases h <;> rfl

theorem findings_eq (h : s.TakesIntegers bounds) (raw : String) :
    s.findings (s.wrapped (.string raw)) =
      [⟨if s.isList then ["0"] else [], .wrongType "integer" "string"⟩] := by
  have first : Decimal.natText 0 = "0" := by decide
  cases h with
  | integer | optional => rfl
  | list | optionalList =>
    show [Finding.under (Decimal.natText 0) (.here (.wrongType "integer" "string"))] = _
    rw [first]
    rfl

end TakesIntegers
end Schema

namespace Extractor
variable {n : Nat} {config : Config n} {source : Source} {t : Target} {embed : Bool} {e : Extractor}
  {r : Request} {look : String → Option (List String)} {bounds : Bounds Int64} {raw : String}

theorem apply_query_integer {i : Int64} (integers : t.schema.TakesIntegers bounds)
    (sent : r.query.get? t.key = some (.int i)) (s : Session n) :
    ((query t).apply r s).1 = t.schema.bind .query t.key (t.schema.wrapped (.int i)) := by
  show bindTyped .query r.query t = _
  unfold bindTyped bindWhere
  dsimp only
  rw [integers.members?_eq_none, sent]
  rfl

theorem apply_text_integer (integers : t.schema.TakesIntegers bounds)
    (made : ofSource? config source t embed = some e) (texts : source.texts? r = some look)
    (sent : look (source.normal t.key) = some [raw]) (s : Session n) :
    (e.apply r s).1 = t.schema.bind source (source.normal t.key)
      (t.schema.wrapped (Schema.integerOfText raw)) := by
  obtain ⟨s', applied⟩ := exists_apply_eq texts s
  rw [applied made]
  exact bindTexts_of_members?_eq_none integers.members?_eq_none sent (integers.coerceTexts_eq raw)

/-- Where an integer or a list of integers is declared, perhaps an optional one, a text that denotes
an integer of 64 bits is bound in header, cookie and form as the integer itself is bound in the
query: to the same, or refused for the same.  The decimal text of the integer does, also among
blanks.  Any other text is refused as no integer, and nothing is bound but what the text denotes. -/
theorem integers_bind_alike (integers : t.schema.TakesIntegers bounds)
    (made : ofSource? config source t embed = some e) (texts : source.texts? r = some look)
    (sent : look (source.normal t.key) = some [raw]) (s : Session n) :
    (∀ i : Int64, Decimal.Denotes (Text.trim raw).toList i.toInt →
      ∀ key default? r' (s' : Session n), r'.query.get? key = some (.int i) →
        Alike (.atKey source.name (source.normal t.key)) (.atKey "query" key) (e.apply r s).1
          ((query ⟨key, t.schema, default?⟩).apply r' s').1) ∧
    (∀ (i : Int64) (before after : List Char),
      raw.toList = before ++ (Decimal.intText i.toInt).toList ++ after →
        (∀ c ∈ before ++ after, Text.isBlank c = true) →
          Decimal.Denotes (Text.trim raw).toList i.toInt) ∧
    ((¬∃ i : Int64, Decimal.Denotes (Text.trim raw).toList i.toInt) → (e.apply r s).1 = .error
      [(Context.atKey source.name (source.normal t.key)).tell
        ⟨if t.schema.isList then ["0"] else [], .wrongType "integer" "string"⟩]) ∧
    ∀ a, (e.apply r s).1 = .ok a → ∃ i : Int64, Decimal.Denotes (Text.trim raw).toList i.toInt ∧
      a = .value (if t.schema.isList then .list [.int i] else .int i) := by
  have bound := apply_text_integer integers made texts sent s
  have refused (unread : ¬∃ i : Int64, Decimal.Denotes (Text.trim raw).toList i.toInt) :
      (e.apply r s).1 = .error [(Context.atKey source.name (source.normal t.key)).tell
        ⟨if t.schema.isList then ["0"] else [], .wrongType "integer" "string"⟩] := by
    rw [bound, Schema.integerOfText_of_not_denotes unread, Schema.bind_eq, integers.findings_eq]
    rfl
  refine ⟨fun i read key default? r' s' typed => ?_, fun i before after decimal blank => ?_,
    refused, fun a accepted => ?_⟩
  · have direct : ((query ⟨key, t.schema, default?⟩).apply r' s').1 =
        t.schema.bind .query key (t.schema.wrapped (.int i)) :=
      apply_query_integer (t := ⟨key, t.schema, default?⟩) integers typed s'
    rw [bound, direct, Schema.integerOfText_of_denotes read]
    exact t.schema.alike_bind source .query _ key _
  · have denotes := Decimal.denotes_intText i.toInt
    rw [Text.trim, String.toList_ofList, decimal, denotes.trimWhere_eq blank]
    exact denotes
  · by_cases read : ∃ i : Int64, Decimal.Denotes (Text.trim raw).toList i.toInt
    · obtain ⟨i, read⟩ := read
      rw [bound, Schema.integerOfText_of_denotes read, Schema.bind_eq,
        Checking.outcome_eq_ok_iff, integers.settle_eq] at accepted
      exact ⟨i, read, accepted.2.symm⟩
    · rw [refused read] at accepted
      cases accepted

theorem integers_bind_alike_page :
    let t : Target := ⟨"page", .optional (.list (.integer ⟨some 1, none⟩)), none⟩
    let r := ({ method := .get, path := "/" } : Request).withCookie "page" " -7\t"
    let r' := ({ method := .get, path := "/" } : Request).withQueryParam "p" (.int (-7))
    t.schema.TakesIntegers ⟨some 1, none⟩ ∧
      ofSource? ({} : Config 0) .cookie t false = some (.cookie t) ∧
      (∃ look, Source.cookie.texts? r = some look ∧ look "page" = some [" -7\t"]) ∧
      Decimal.Denotes (Text.trim " -7\t").toList (-7) ∧
      Alike (.atKey "cookie" "page") (.atKey "query" "p") ((cookie t).apply r ({} : Session 0)).1
        ((query { t with key := "p" }).apply r' ({} : Session 0)).1 ∧
      ((cookie t).apply r ({} : Session 0)).1 =
        .error [⟨"cookie", "page.0", .below (.int 1) (.int (-7)), none⟩] := by
  intro t r r'
  have integers : t.schema.TakesIntegers ⟨some 1, none⟩ := .optionalList
  have made : ofSource? ({} : Config 0) .cookie t false = some (cookie t) := rfl
  have sent : (r.cookies.get? "page").map ([·]) = some [" -7\t"] := rfl
  have alike := integers_bind_alike integers made rfl sent ({} : Session 0)
  have blank : ∀ c ∈ [' '] ++ ['\t'], Text.isBlank c = true :=
    List.forall_mem_cons.2 ⟨by decide, List.forall_mem_singleton.2 (by decide)⟩
  have denotes : Decimal.Denotes (Text.trim " -7\t").toList (-7 : Int64).toInt :=
    alike.2.1 (-7) [' '] ['\t'] rfl blank
  have refused : t.schema.bind .cookie "page" (t.schema.wrapped (.int (-7))) =
      .error [⟨"cookie", "page.0", .below (.int 1) (.int (-7)), none⟩] := rfl
  have typed : r'.query.get? "p" = some (.int (-7)) := rfl
  refine ⟨integers, made, ⟨_, rfl, sent⟩, denotes, alike.1 (-7) denotes "p" none r' {} typed, ?_⟩
  rw [apply_text_integer integers made rfl sent, Schema.integerOfText_of_denotes denotes]
  exact refused

end Extractor

end RequestBinding
