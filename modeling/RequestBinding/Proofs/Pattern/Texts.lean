import RequestBinding.Proofs.Pattern.SimpleForms
import RequestBinding.Proofs.Pattern.Size

/-!
Given texts as expressions.  Main statements: alternatives of texts are found exactly where one of
the texts is, and there is room for one text that is not enormous and for texts so many that no
automaton is built for them.
-/
namespace RequestBinding

namespace Regex
variable {t : List Char} {ts : List (List Char)}

theorem concat_chars (t : List Char) : concat (t.map .char) = .text t := by
  rw [concat, List.flatMap_map]
  exact congrArg seqAll List.map_eq_flatMap.symm

theorem branches_text (t : List Char) : (text t).branches = [text t] := by
  match t with
  | [] => rfl
  | [_] => rfl
  | _ :: _ :: _ => rfl

theorem either_text (t : List Char) : either [text t] = text t := by
  have alone : [text t].flatMap branches = [.text t] := by
    rw [List.flatMap_singleton, branches_text]
  rw [either, List.foldl_cons, Nat.add_comm, List.foldl_nil, eitherWithin, alone]

theorem search_texts_iff {text : String} :
    (either (ts.map .text)).search text = true ↔ ∃ u ∈ ts, u <:+: text.toList := by
  simp only [search_eq_true_iff, matches_either_iff, List.mem_map,
    exists_exists_and_eq_and, matches_text_iff]
  constructor
  · rintro ⟨x, _, y, split, u, hu, rfl⟩
    exact ⟨_, hu, x, y, split.symm⟩
  · rintro ⟨u, hu, x, y, split⟩
    exact ⟨x, u, y, split.symm, u, hu, rfl⟩

theorem fits_text (room : 32 * Automaton.octets t + 240 ≤ Automaton.sizeLimit) :
    (text t).fits = true := by
  have built (d : Automaton.Direction) :
      (((text t).automaton d).run ⟨0, 0⟩).isSome = true := by
    obtain ⟨e, run, _⟩ :=
      Automaton.takes_automaton d t ⟨0, 0⟩ (by simpa [Automaton.Extent.bytes] using room)
    rw [run]
    rfl
  rw [fits, built, built, Bool.and_self, Bool.or_true]

theorem literal?_text (h : t ≠ []) : (text t).literal? = some t := by
  induction t with
  | nil => exact absurd rfl h
  | cons c t ih =>
    have first : (char c).char? = some c := CharSet.single?_single c
    cases t with
    | nil => exact congrArg (Option.map ([·])) first
    | cons d t =>
      show (char c).char?.bind _ = _
      rw [first]
      exact congrArg (Option.map (c :: ·)) (ih (List.cons_ne_nil d t))

theorem pieces_text (h : t ≠ []) : pieces (text t).parts = [text t] := by
  induction t with
  | nil => exact absurd rfl h
  | cons c t ih =>
    cases t with
    | nil => rfl
    | cons d t =>
      have rest := ih (List.cons_ne_nil d t)
      show pieces (.char c :: (text (d :: t)).parts) = _
      have apart : (char c).char?.isSome = true ∧
          (text (d :: t)).literal?.isSome = true := by
        rw [literal?_text (List.cons_ne_nil d t), char, char?, CharSet.single?_single]
        exact ⟨rfl, rfl⟩
      rw [pieces, rest]
      exact if_pos apart

theorem commonStart?_texts (some : ∀ u ∈ ts, u ≠ []) : commonStart? (ts.map text) = none := by
  have all : (ts.map text).map (fun b => pieces b.parts) = ts.map fun u => [text u] := by
    rw [List.map_map]
    exact List.map_congr_left fun u hu => pieces_text (some u hu)
  rw [commonStart?, all]
  cases ts with
  | nil => rfl
  | cons t ts => exact if_pos (.inr rfl)

theorem either_texts (several : 2 ≤ ts.length) (some : ∀ u ∈ ts, u ≠ [])
    (long : ∃ u ∈ ts, 2 ≤ u.length) :
    either (ts.map text) = altAll (ts.map text) := by
  have flat : (ts.map text).flatMap branches = ts.map text := by
    rw [List.flatMap_map]
    simp only [branches_text]
    exact List.map_eq_flatMap.symm
  have noSets : (ts.map text).mapM set? = none := by
    refine Option.eq_none_iff_forall_ne_some.2 fun sets all => ?_
    obtain ⟨u, hu, two⟩ := long
    have mem := List.mem_map_of_mem (f := text) hu
    rw [eq_map_of_mapM_set? all] at mem
    obtain ⟨s, _, same⟩ := List.mem_map.1 mem
    obtain _ | ⟨c, _ | ⟨d, u⟩⟩ := u
    · cases two
    · exact absurd two (by simp)
    · cases same
  obtain _ | ⟨t, _ | ⟨u, ts⟩⟩ := ts
  · cases several
  · exact absurd several (by simp)
  · have common := commonStart?_texts some
    rw [either]
    generalize List.foldl _ 1 _ = fuel
    cases fuel with
    | zero => rfl
    | succ fuel =>
      rw [eitherWithin, flat]
      simp only [List.map_cons] at noSets common ⊢
      rw [noSets, common]

theorem branches_altAll {rs : List Regex} (some : rs ≠ []) (h : ∀ r ∈ rs, r.branches = [r]) :
    (altAll rs).branches = rs := by
  induction rs with
  | nil => exact absurd rfl some
  | cons r rs ih =>
    obtain ⟨first, others⟩ := List.forall_mem_cons.1 h
    cases rs with
    | nil => exact first
    | cons s rs => exact congrArg (r :: ·) (ih (List.cons_ne_nil s rs) others)

theorem fits_texts (many : 3000 ≤ ts.length) (some : ∀ u ∈ ts, u ≠ []) :
    (altAll (ts.map .text)).fits = true := by
  have branches : (altAll (ts.map text)).branches = ts.map text := by
    refine branches_altAll ?_ ?_
    · rintro none
      rw [List.map_eq_nil_iff.1 none] at many
      cases many
    · rintro _ hr
      obtain ⟨u, _, rfl⟩ := List.mem_map.1 hr
      exact branches_text u
  have listed : (altAll (ts.map .text)).isTextList = true := by
    rw [isTextList, branches, List.length_map, decide_eq_true many, Bool.true_and,
      List.all_map, List.all_eq_true]
    intro u hu
    rw [Function.comp_apply, literal?_text (some u hu)]
    rfl
  rw [fits, listed, Bool.true_or]

end Regex

end RequestBinding
