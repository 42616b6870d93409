import LocatorHealing.Text.Blank
import Mathlib.Data.List.DropRight
import Mathlib.Data.List.Infix

set_option autoImplicit false
set_option relaxedAutoImplicit false

/-!
Texts in pieces. The last pieces of a text are those of another one just if it ends with the other
one at a cut; and a text is not cut at a character that it does not hold.
-/

namespace LocatorHealing.Text

variable {sep : Char} {s t : List Char}

private theorem splitAt_eq_splitOn (sep : Char) (s : List Char) :
    splitAt sep s = s.splitOn sep := by
  induction s with
  | nil => rfl
  | cons c s ih =>
    rw [splitAt, ih, List.splitOn_cons_eq_if_modifyHead]
    by_cases cut : c = sep
    · rw [if_pos cut, if_pos (beq_iff_eq.2 cut)]
    · rw [if_neg cut, if_neg (mt beq_iff_eq.1 cut)]
      cases pieces : s.splitOn sep with
      | nil => exact absurd pieces (List.splitOn_ne_nil sep s)
      | cons piece pieces => rfl

private theorem splitAt_injective (sep : Char) : Function.Injective (splitAt sep) := by
  intro s t same
  rw [splitAt_eq_splitOn, splitAt_eq_splitOn] at same
  have joined (s : List Char) : [sep].intercalate (s.splitOn sep) = s :=
    List.intercalate_splitOn sep
  rw [← joined s, same, joined t]

private theorem splitAt_append (sep : Char) (s t : List Char) :
    splitAt sep (s ++ sep :: t) = splitAt sep s ++ splitAt sep t := by
  simp only [splitAt_eq_splitOn, List.splitOn_append_cons_self]

/-- The last pieces of a text are those of another one, if it is the same, or stands at the end
after a cut. -/
theorem splitAt_suffix_iff :
    splitAt sep t <:+ splitAt sep s ↔ s = t ∨ (sep :: t) <:+ s := by
  constructor
  · intro ends
    induction s with
    | nil =>
      rcases List.suffix_cons_iff.1 ends with whole | none
      · exact .inl (splitAt_injective sep whole.symm)
      · exact absurd (List.suffix_nil.1 none) (splitAt_ne_nil sep t)
    | cons c s ih =>
      by_cases cut : c = sep
      · subst cut
        rw [splitAt, if_pos rfl] at ends
        rcases List.suffix_cons_iff.1 ends with whole | rest
        · exact .inl (splitAt_injective c (by rw [whole, splitAt, if_pos rfl]))
        · rcases ih rest with rfl | later
          · exact .inr List.suffix_rfl
          · exact .inr (List.suffix_cons_iff.2 (.inr later))
      · cases pieces : splitAt sep s with
        | nil => exact absurd pieces (splitAt_ne_nil sep s)
        | cons piece others =>
          have first : splitAt sep (c :: s) = (c :: piece) :: others := by
            rw [splitAt, if_neg cut, pieces]
          rw [first] at ends
          rcases List.suffix_cons_iff.1 ends with whole | rest
          · exact .inl (splitAt_injective sep (first.trans whole.symm))
          · rw [pieces] at ih
            rcases ih (List.suffix_cons_iff.2 (.inr rest)) with rfl | later
            · -- the text has one piece more than its rest
              rw [pieces] at rest
              have := rest.length_le
              simp only [List.length_cons] at this
              omega
            · exact .inr (List.suffix_cons_iff.2 (.inr later))
  · rintro (rfl | ⟨front, rfl⟩)
    · exact List.suffix_rfl
    · rw [splitAt_append]
      exact List.suffix_append _ _

theorem cutFirst_of_not_mem (absent : sep ∉ s) : cutFirst sep s = (s, none) := by
  induction s with
  | nil => rfl
  | cons c s ih =>
    rw [List.mem_cons, not_or] at absent
    rw [cutFirst, if_neg (Ne.symm absent.1), ih absent.2]

theorem cutLast_of_not_mem (absent : sep ∉ s) : cutLast sep s = none := by
  rw [cutLast, cutFirst_of_not_mem (by simpa using absent)]

theorem cutFirst_append (absent : sep ∉ t) :
    cutFirst sep (s ++ t) =
      match cutFirst sep s with
      | (before, some after) => (before, some (after ++ t))
      | (before, none) => (before ++ t, none) := by
  induction s with
  | nil => exact cutFirst_of_not_mem absent
  | cons c s ih =>
    rw [List.cons_append, cutFirst, cutFirst]
    split
    · rfl
    · rw [ih]
      rcases cutFirst sep s with ⟨before, after | after⟩
      · rfl
      · rfl

theorem cutFirst_fst (sep : Char) (s : List Char) :
    (cutFirst sep s).1 = s.takeWhile (· != sep) := by
  induction s with
  | nil => rfl
  | cons c s ih =>
    rw [cutFirst, List.takeWhile_cons]
    by_cases cut : c = sep
    · rw [if_pos cut, if_neg (by simp [cut])]
    · rw [if_neg cut, if_pos (by simp [cut]), ← ih]

theorem eq_of_cutFirst {before after : List Char} (cuts : cutFirst sep s = (before, some after)) :
    s = before ++ sep :: after := by
  induction s generalizing before with
  | nil => cases cuts
  | cons c s ih =>
    unfold cutFirst at cuts
    split at cuts
    case isTrue here =>
      cases cuts
      rw [here, List.nil_append]
    case isFalse =>
      obtain ⟨rfl, rest⟩ := Prod.mk.inj cuts
      rw [List.cons_append, ← ih (Prod.ext rfl rest)]

theorem eq_of_cutLast {before after : List Char} (cuts : cutLast sep s = some (before, after)) :
    s = before ++ sep :: after := by
  unfold cutLast at cuts
  split at cuts
  case h_1 => cases cuts
  case h_2 last first found =>
    cases cuts
    rw [← List.reverse_inj, eq_of_cutFirst found]
    simp

theorem cutFirst_append_cons (absent : sep ∉ s) : cutFirst sep (s ++ sep :: t) = (s, some t) := by
  induction s with
  | nil => exact if_pos rfl
  | cons c s ih =>
    rw [List.mem_cons, not_or] at absent
    rw [List.cons_append, cutFirst, if_neg (Ne.symm absent.1), ih absent.2]

theorem cutLast_append (there : sep ∈ t) :
    ∃ before after, cutLast sep (s ++ t) = some (before, after) ∧ after <:+ t := by
  obtain ⟨last, front, cut, absent⟩ := List.eq_append_cons_of_mem (List.mem_reverse.2 there)
  have whole : t = front.reverse ++ sep :: last.reverse := by
    rw [← List.reverse_inj, cut]
    simp
  refine ⟨(front ++ s.reverse).reverse, last.reverse, ?_, ?_⟩
  · rw [cutLast, List.reverse_append, cut, List.append_assoc, List.cons_append,
      cutFirst_append_cons absent]
  · rw [whole]
    exact (List.suffix_cons _ _).trans (List.suffix_append _ _)

section Trimming

variable {p : Char → Bool}

private theorem dropRight_eq_rdropWhile (p : Char → Bool) (s : List Char) :
    dropRight p s = s.rdropWhile p := rfl

theorem exists_dropRight (p : Char → Bool) (s : List Char) :
    ∃ t, s = dropRight p s ++ t ∧ ∀ c ∈ t, p c = true :=
  ⟨s.rtakeWhile p, List.rdropWhile_append_rtakeWhile.symm,
    fun _ there => List.mem_rtakeWhile_imp there⟩

theorem dropRight_append (all : ∀ c ∈ t, p c = true) : dropRight p (s ++ t) = dropRight p s := by
  unfold dropRight
  rw [List.reverse_append,
    List.dropWhile_append_of_pos fun c there => all c (List.mem_reverse.1 there)]

theorem dropRight_eq_self_iff : dropRight p s = s ↔ ∀ c ∈ s.getLast?, p c = false := by
  rw [dropRight_eq_rdropWhile, List.rdropWhile_eq_self_iff]
  constructor
  · intro kept c last
    obtain ⟨some, rfl⟩ := List.mem_getLast?_eq_getLast last
    exact Bool.eq_false_iff.2 (kept some)
  · intro kept some
    exact Bool.eq_false_iff.1 (kept _ (List.getLast?_eq_some_getLast some))

theorem dropRight_dropRight (p : Char → Bool) (s : List Char) :
    dropRight p (dropRight p s) = dropRight p s :=
  List.rdropWhile_idempotent p s

end Trimming

theorem exists_trimEnd (c : Char) (s : String) :
    ∃ t, s.toList = (trimEnd c s).toList ++ t ∧ ∀ d ∈ t, d = c := by
  obtain ⟨t, whole, all⟩ := exists_dropRight (· == c) s.toList
  refine ⟨t, ?_, fun d there => beq_iff_eq.1 (all d there)⟩
  rwa [trimEnd, String.toList_ofList]

theorem trimEnd_trimEnd (c : Char) (s : String) : trimEnd c (trimEnd c s) = trimEnd c s := by
  rw [trimEnd, trimEnd, String.toList_ofList, dropRight_dropRight]

end LocatorHealing.Text
