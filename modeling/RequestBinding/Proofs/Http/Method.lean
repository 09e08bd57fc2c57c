import RequestBinding.Http.Method
import RequestBinding.Proofs.Text.Capitals

/-!
Reading request methods.  Main statement: the names in any letter case are read, and of all other
texts those that are spelled like one with letters beyond ASCII.
-/
namespace RequestBinding.Method
open Text

theorem capitals_name (m : Method) : Capitals m.name.toList := by
  cases m <;> decide

theorem name_injective {m k : Method} (h : m.name = k.name) : m = k := by
  revert h
  cases m <;> cases k <;> decide

theorem toCapitals_eq_name_iff {text : String} {m : Method} :
    toCapitals text = m.name ↔ parse text = .ok m := by
  unfold parse
  split
  · next k found =>
    have named : k.name = toCapitals text := by simpa using List.find?_some found
    rw [← named, Except.ok.injEq]
    exact ⟨name_injective, congrArg name⟩
  · next none =>
    refine iff_of_false (fun named => ?_) nofun
    have other := List.find?_eq_none.1 none m (mem_all m)
    exact other (decide_eq_true named.symm)

theorem parse_eq_error_iff {text : String} :
    parse text = .error ⟨text⟩ ↔ ∀ m, parse text ≠ .ok m := by
  unfold parse
  split <;> simp

/-- A method is read from the texts that are spelled like its name, in any letter case.  Its name in
any letter case is among them, and these are the texts in ASCII.  All other texts are refused. -/
theorem parses_spellings (text : String) :
    (∀ m, (parse text = .ok m ↔ toAsciiSmall (spelledOut text) = toAsciiSmall m.name) ∧
      (toAsciiSmall text = toAsciiSmall m.name ↔
        parse text = .ok m ∧ ∀ c ∈ text.toList, c.toNat < 128)) ∧
    (parse text = .error ⟨text⟩ ↔
      ∀ m : Method, toAsciiSmall (spelledOut text) ≠ toAsciiSmall m.name) := by
  have spelled (m : Method) :
      parse text = .ok m ↔ toAsciiSmall (spelledOut text) = toAsciiSmall m.name :=
    toCapitals_eq_name_iff.symm.trans (toCapitals_eq_iff m.capitals_name)
  refine ⟨fun m => ⟨spelled m, ?_⟩, ?_⟩
  · rw [toAsciiSmall_eq_iff m.capitals_name, toCapitals_eq_name_iff]
  · rw [parse_eq_error_iff]
    exact forall_congr' fun m => not_congr (spelled m)

/-- A text with a long s is read as a method, and it is none in any letter case. -/
theorem parses_long_s :
    parse "poſt" = .ok .post ∧ toAsciiSmall "poſt" ≠ toAsciiSmall (name .post) ∧
      ¬∀ text m, parse text = .ok m ↔ toAsciiSmall text = toAsciiSmall m.name := by
  have read : parse "poſt" = .ok .post := by
    rw [← toCapitals_eq_name_iff, toCapitals_eq_iff (capitals_name .post)]
    decide
  have other : toAsciiSmall "poſt" ≠ toAsciiSmall (name .post) := by decide
  exact ⟨read, other, fun same => other ((same _ _).1 read)⟩

end RequestBinding.Method
