import RequestBinding.Text.LetterCase

/-!
Small forms of texts.  Main statement: where no character beyond ASCII has a small form of its own,
the small form of the text is the one that ASCII gives it.
-/
namespace RequestBinding.Text

def AsciiCased (s : String) : Prop := ∀ c ∈ s.toList, c.toNat < 128 ∨ small c = [c]

instance (s : String) : Decidable (AsciiCased s) :=
  List.decidableBAll (fun c : Char => c.toNat < 128 ∨ small c = [c]) s.toList

theorem smallRuns_first : ∀ r ∈ smallRuns, 128 ≤ r.first := by decide +kernel

theorem small_of_lt {c : Char} (h : c.toNat < 128) : small c = [asciiSmall c] := by
  have beyond : smallRuns.findSome? (·.image? c.toNat) = none := by
    refine List.findSome?_eq_none_iff.2 fun r hr => if_neg fun within => ?_
    have first := smallRuns_first r hr
    omega
  have undotted : c ≠ 'İ' := by
    rintro rfl
    exact absurd h (by decide)
  rw [small, if_neg undotted, smallLetter, beyond]
  rfl

theorem small_eq_asciiSmall {c : Char} (h : c.toNat < 128 ∨ small c = [c]) :
    small c = [asciiSmall c] := by
  rcases h with ascii | own
  · exact small_of_lt ascii
  · by_cases capital : 'A' ≤ c ∧ c ≤ 'Z'
    · have least : c.toNat ≤ 90 := capital.2
      exact small_of_lt (by omega)
    · rw [own, asciiSmall, if_neg capital]

theorem smallFrom_eq_map {cs : List Char} (h : ∀ c ∈ cs, c.toNat < 128 ∨ small c = [c])
    (before : List Char) : smallFrom before cs = cs.map asciiSmall := by
  induction cs generalizing before with
  | nil => rfl
  | cons c cs ih =>
    obtain ⟨here, later⟩ := List.forall_mem_cons.1 h
    have other : c ≠ 'Σ' := by
      rintro rfl
      exact absurd here (by decide)
    rw [smallFrom, if_neg other, small_eq_asciiSmall here, ih later]
    rfl

theorem toSmall_eq_toAsciiSmall {s : String} (h : AsciiCased s) : toSmall s = toAsciiSmall s :=
  congrArg String.ofList (smallFrom_eq_map h [])

end RequestBinding.Text
