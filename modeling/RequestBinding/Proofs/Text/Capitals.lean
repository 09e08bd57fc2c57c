import RequestBinding.Text.LetterCase

/-!
Capital forms of texts.  A few letters beyond ASCII have capital forms in ASCII.  Main statement: a
text in capitals is a given word of ASCII letters exactly if the text, with those letters spelled
out, is the word in some letter case.
-/
namespace RequestBinding.Text

/-- The letters beyond ASCII with capital forms in ASCII, and what they stand for. -/
def spellings : List (Char × List Char) := [
  ('ß', ['s', 's']), ('ı', ['i']), ('ſ', ['s']), ('\ufb00', ['f', 'f']), ('\ufb01', ['f', 'i']),
  ('\ufb02', ['f', 'l']), ('\ufb03', ['f', 'f', 'i']), ('\ufb04', ['f', 'f', 'l']),
  ('\ufb05', ['s', 't']), ('\ufb06', ['s', 't'])]

def spelling (c : Char) : List Char := (spellings.lookup c).getD [c]

def spelledOut (s : String) : String := String.ofList (s.toList.flatMap spelling)

/-- The capital form of an ASCII letter; every other character is kept. -/
def asciiCapital (c : Char) : Char :=
  if 'a' ≤ c ∧ c ≤ 'z' then Char.ofNat (c.toNat - 32) else c

def Capitals (cs : List Char) : Prop := ∀ c ∈ cs, c.isUpper = true

def Letters (cs : List Char) : Prop := ∀ c ∈ cs, (asciiSmall c).isLower = true

instance (cs : List Char) : Decidable (Capitals cs) :=
  List.decidableBAll (fun c : Char => c.isUpper = true) cs

instance (cs : List Char) : Decidable (Letters cs) :=
  List.decidableBAll (fun c : Char => (asciiSmall c).isLower = true) cs

variable {c : Char}

theorem isUpper_iff : c.isUpper = true ↔ 65 ≤ c.toNat ∧ c.toNat ≤ 90 :=
  decide_eq_true_iff

theorem isLower_iff : c.isLower = true ↔ 97 ≤ c.toNat ∧ c.toNat ≤ 122 :=
  Bool.and_eq_true_iff.trans (and_congr decide_eq_true_iff decide_eq_true_iff)

theorem toNat_ofNat {v : Nat} (valid : v.isValidChar) : (Char.ofNat v).toNat = v := by
  rw [Char.ofNat, dif_pos valid]
  rfl

theorem toNat_asciiSmall (c : Char) : (asciiSmall c).toNat =
    if 65 ≤ c.toNat ∧ c.toNat ≤ 90 then c.toNat + 32 else c.toNat := by
  have capital : ('A' ≤ c ∧ c ≤ 'Z') ↔ 65 ≤ c.toNat ∧ c.toNat ≤ 90 := Iff.rfl
  unfold asciiSmall
  simp only [capital]
  split
  · exact toNat_ofNat (.inl (by omega))
  · rfl

theorem toNat_asciiCapital (c : Char) : (asciiCapital c).toNat =
    if 97 ≤ c.toNat ∧ c.toNat ≤ 122 then c.toNat - 32 else c.toNat := by
  have small : ('a' ≤ c ∧ c ≤ 'z') ↔ 97 ≤ c.toNat ∧ c.toNat ≤ 122 := Iff.rfl
  unfold asciiCapital
  simp only [small]
  split
  · exact toNat_ofNat (.inl (by omega))
  · rfl

theorem ascii_of_isLower_asciiSmall (h : (asciiSmall c).isLower = true) : c.toNat < 128 := by
  have := isLower_iff.1 h
  have := toNat_asciiSmall c
  split at this <;> omega

theorem isLower_asciiSmall (h : c.isUpper = true) : (asciiSmall c).isLower = true := by
  have upper := isUpper_iff.1 h
  rw [isLower_iff, toNat_asciiSmall, if_pos upper]
  omega

theorem asciiCapital_asciiSmall (h : c.isUpper = true) : asciiCapital (asciiSmall c) = c := by
  have upper := isUpper_iff.1 h
  rw [← Char.toNat_inj, toNat_asciiCapital, toNat_asciiSmall, if_pos upper, if_pos (by omega)]
  omega

theorem le_of_isUpper_ofNat {v : Nat} (h : (Char.ofNat v).isUpper = true) : v ≤ 90 := by
  by_cases valid : v.isValidChar
  · have upper := isUpper_iff.1 h
    rw [toNat_ofNat valid] at upper
    exact upper.2
  · have zero : Char.ofNat v = '\x00' := by
      rw [Char.ofNat, dif_neg valid]
      rfl
    rw [zero] at h
    exact absurd h (by decide)

theorem spelling_of_forall_ne (h : ∀ x ∈ spellings, x.1 ≠ c) : spelling c = [c] := by
  have unknown : spellings.lookup c = none :=
    List.lookup_eq_none_iff.2 fun x hx => bne_iff_ne.2 (h x hx).symm
  rw [spelling, unknown, Option.getD_none]

theorem spelling_of_lt (h : c.toNat < 128) : spelling c = [c] := by
  have beyond : ∀ x ∈ spellings, 128 ≤ x.1.toNat := by decide
  refine spelling_of_forall_ne fun x hx => ?_
  rintro rfl
  have := beyond x hx
  omega

theorem capitalSequences_spelled : ∀ x ∈ capitalSequences, 128 ≤ x.1 ∧
    (Capitals (x.2.map Char.ofNat) → ∃ y ∈ spellings, y.1.toNat = x.1) := by
  decide +kernel

theorem capitalRuns_spelled : ∀ r ∈ capitalRuns, 128 ≤ r.first ∧
    (r.image ≤ 90 → r.first = r.last ∧ ∃ y ∈ spellings, y.1.toNat = r.first) := by
  decide +kernel

theorem capital_of_lt (h : c.toNat < 128) : capital c = [asciiCapital c] := by
  have single : capitalSequences.lookup c.toNat = none := by
    refine List.lookup_eq_none_iff.2 fun x hx => bne_iff_ne.2 fun same => ?_
    have := (capitalSequences_spelled x hx).1
    omega
  have own : capitalRuns.findSome? (·.image? c.toNat) = none := by
    refine List.findSome?_eq_none_iff.2 fun r hr => if_neg fun within => ?_
    have := (capitalRuns_spelled r hr).1
    omega
  rw [capital, single, capitalLetter, own]
  rfl

/-- Beyond ASCII, only the letters that are spelled out have capital forms in ASCII. -/
theorem exists_spelling (beyond : 128 ≤ c.toNat) (h : Capitals (capital c)) :
    ∃ x ∈ spellings, x.1 = c := by
  suffices same : ∃ x ∈ spellings, x.1.toNat = c.toNat by
    simpa only [Char.toNat_inj] using same
  unfold capital at h
  split at h
  · next cs found =>
    obtain ⟨before, after, split, _⟩ := List.lookup_eq_some_iff.1 found
    exact (capitalSequences_spelled (c.toNat, cs) (by simp [split])).2 h
  · have small : ¬('a' ≤ c ∧ c ≤ 'z') := by
      rintro ⟨_, most⟩
      have : c.toNat ≤ 122 := most
      omega
    have upper : (capitalLetter c).isUpper = true := h _ (List.mem_singleton.2 rfl)
    rw [capitalLetter, if_neg small] at upper
    cases found : capitalRuns.findSome? (·.image? c.toNat) with
    | none =>
      rw [found] at upper
      have := isUpper_iff.1 upper
      simp only [Option.map_none, Option.getD_none] at this
      omega
    | some v =>
      rw [found] at upper
      obtain ⟨r, hr, image⟩ := List.exists_of_findSome?_eq_some found
      obtain ⟨⟨first, last, _⟩, rest⟩ := Option.ite_none_right_eq_some.1 image
      have image : r.image + (c.toNat - r.first) = v := Option.some.inj rest
      have most : v ≤ 90 := le_of_isUpper_ofNat upper
      obtain ⟨single, y, hy, known⟩ := (capitalRuns_spelled r hr).2 (by omega)
      exact ⟨y, hy, by omega⟩

/-- The letters are ASCII and have these capitals, or neither these nor those are all ASCII. -/
abbrev Spells (capitals letters : List Char) : Prop :=
  Capitals capitals ∧ capitals.map asciiSmall = letters.map asciiSmall ∨
    ¬Capitals capitals ∧ ¬Letters letters

theorem spells_ascii (c : Char) : Spells [asciiCapital c] [c] := by
  have capital := toNat_asciiCapital c
  by_cases letter : (asciiCapital c).isUpper = true
  · have upper := isUpper_iff.1 letter
    have same : asciiSmall (asciiCapital c) = asciiSmall c := by
      rw [← Char.toNat_inj, toNat_asciiSmall, toNat_asciiSmall, if_pos upper]
      split at capital <;> split <;> omega
    exact .inl ⟨List.forall_mem_singleton.2 letter, congrArg (fun d => [d]) same⟩
  · refine .inr ⟨fun h => letter (h _ (List.mem_singleton.2 rfl)), fun h => letter ?_⟩
    have small := isLower_iff.1 (h c (List.mem_singleton.2 rfl))
    rw [toNat_asciiSmall] at small
    rw [isUpper_iff]
    split at capital <;> split at small <;> omega

theorem spells_capital (c : Char) : Spells (capital c) (spelling c) := by
  by_cases ascii : c.toNat < 128
  · rw [capital_of_lt ascii, spelling_of_lt ascii]
    exact spells_ascii c
  · by_cases known : ∃ x ∈ spellings, x.1 = c
    · have all : ∀ x ∈ spellings, Spells (capital x.1) (spelling x.1) := by decide +kernel
      obtain ⟨x, hx, rfl⟩ := known
      exact all x hx
    · refine .inr ⟨fun h => known (exists_spelling (by omega) h), fun h => ?_⟩
      rw [spelling_of_forall_ne fun x hx same => known ⟨x, hx, same⟩] at h
      exact ascii (ascii_of_isLower_asciiSmall (h c (List.mem_singleton.2 rfl)))

theorem map_asciiSmall_inj {cs w : List Char} (hcs : Capitals cs) (hw : Capitals w) :
    cs.map asciiSmall = w.map asciiSmall ↔ cs = w := by
  have back {l : List Char} (hl : Capitals l) :
      (l.map asciiSmall).map asciiCapital = l := by
    rw [List.map_map]
    exact (List.map_congr_left fun c hc => asciiCapital_asciiSmall (hl c hc)).trans (List.map_id' l)
  refine ⟨fun same => ?_, fun same => same ▸ rfl⟩
  rw [← back hcs, same, back hw]

theorem letters_of_map_eq {cs w : List Char} (hw : Capitals w)
    (same : cs.map asciiSmall = w.map asciiSmall) : Letters cs := by
  intro c hc
  have mem : asciiSmall c ∈ w.map asciiSmall := same ▸ List.mem_map_of_mem hc
  obtain ⟨d, hd, small⟩ := List.mem_map.1 mem
  exact small ▸ isLower_asciiSmall (hw d hd)

theorem flatMap_capital_eq_iff {cs w : List Char} (hw : Capitals w) :
    cs.flatMap capital = w ↔ (cs.flatMap spelling).map asciiSmall = w.map asciiSmall := by
  by_cases all : ∀ c ∈ cs, Capitals (capital c)
  · have capitals : Capitals (cs.flatMap capital) := by
      intro d hd
      obtain ⟨c, hc, hd⟩ := List.mem_flatMap.1 hd
      exact all c hc d hd
    have same : (cs.flatMap spelling).map asciiSmall = (cs.flatMap capital).map asciiSmall := by
      rw [List.map_flatMap, List.map_flatMap, List.flatMap_def, List.flatMap_def]
      refine congrArg List.flatten (List.map_congr_left fun c hc => ?_)
      exact ((spells_capital c).resolve_right fun other => other.1 (all c hc)).2.symm
    rw [same, map_asciiSmall_inj capitals hw]
  · obtain ⟨c, missed⟩ := Classical.not_forall.1 all
    obtain ⟨hc, beyond⟩ := Classical.not_imp.1 missed
    have other := ((spells_capital c).resolve_left fun h => beyond h.1).2
    refine iff_of_false ?_ fun same => other fun d hd => ?_
    · rintro rfl
      exact beyond fun e he => hw e (List.mem_flatMap_of_mem hc he)
    · exact letters_of_map_eq hw same d (List.mem_flatMap_of_mem hc hd)

/-- In capitals, a text is a word of ASCII letters exactly if it is spelled like the word. -/
theorem toCapitals_eq_iff {s w : String} (hw : Capitals w.toList) :
    toCapitals s = w ↔ toAsciiSmall (spelledOut s) = toAsciiSmall w := by
  rw [toCapitals, toAsciiSmall, toAsciiSmall, spelledOut, String.toList_ofList, String.ofList_inj,
    ← flatMap_capital_eq_iff hw, ← String.toList_inj, String.toList_ofList]

theorem ascii_of_toAsciiSmall_eq {s w : String} (hw : Capitals w.toList)
    (h : toAsciiSmall s = toAsciiSmall w) : ∀ c ∈ s.toList, c.toNat < 128 := by
  have letters : Letters s.toList := letters_of_map_eq hw (String.ofList_inj.1 h)
  exact fun c hc => ascii_of_isLower_asciiSmall (letters c hc)

theorem spelledOut_of_ascii {s : String} (h : ∀ c ∈ s.toList, c.toNat < 128) :
    spelledOut s = s := by
  have own : s.toList.flatMap spelling = s.toList.flatMap fun c => [c] := by
    rw [List.flatMap_def, List.flatMap_def]
    exact congrArg List.flatten (List.map_congr_left fun c hc => spelling_of_lt (h c hc))
  rw [spelledOut, own, List.flatMap_singleton', String.ofList_toList]

/-- The words in another letter case are the texts in ASCII among those that are spelled alike. -/
theorem toAsciiSmall_eq_iff {s w : String} (hw : Capitals w.toList) :
    toAsciiSmall s = toAsciiSmall w ↔ toCapitals s = w ∧ ∀ c ∈ s.toList, c.toNat < 128 := by
  rw [toCapitals_eq_iff hw]
  constructor
  · intro h
    have ascii := ascii_of_toAsciiSmall_eq hw h
    exact ⟨(spelledOut_of_ascii ascii).symm ▸ h, ascii⟩
  · rintro ⟨h, ascii⟩
    rwa [spelledOut_of_ascii ascii] at h

end RequestBinding.Text
