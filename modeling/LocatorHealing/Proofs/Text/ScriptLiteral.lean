import LocatorHealing.Text.ScriptLiteral
import Mathlib.Data.List.Basic

set_option autoImplicit false
set_option relaxedAutoImplicit false

/-!
Escaped text inside of a literal. Reading it undoes the escaping character by character, so that it
runs up to the quote that was put after the text; only a raw line break, which escaping leaves as it
is, keeps the text from being one literal.
-/

namespace LocatorHealing.ScriptLiteral

def replaced (old : Char) (new : List Char) (s : List Char) : List Char :=
  s.flatMap fun c => if c = old then new else [c]

/-- Replacing the backslash first and then either quote puts one backslash before each: the later
replacements find none of the characters that the earlier ones put in. -/
private theorem escapeChars_eq_replaced (s : List Char) :
    escapeChars s =
      replaced '"' ['\\', '"'] (replaced '\'' ['\\', '\''] (replaced '\\' ['\\', '\\'] s)) := by
  simp only [escapeChars, replaced, List.flatMap_assoc]
  refine List.flatMap_congr fun c _ => ?_
  by_cases backslash : c = '\\'
  · subst backslash
    rfl
  by_cases single : c = '\''
  · subst single
    rfl
  by_cases double : c = '"'
  · subst double
    rfl
  · simp [escapeChar, backslash, single, double]

/-- The characters that may not stand in a literal as they are. -/
def IsBreak (c : Char) : Prop :=
  c = '\n' ∨ c = '\r'

instance (c : Char) : Decidable (IsBreak c) :=
  inferInstanceAs (Decidable (_ ∨ _))

variable {q : Char}

private theorem readBody_escapeChar (quote : q = '\'' ∨ q = '"') (c : Char) (t : List Char) :
    readBody q (escapeChar c ++ t) =
      if IsBreak c then none else (readBody q t).map fun r => (c :: r.1, r.2) := by
  unfold escapeChar
  split
  case isTrue marked =>
    have kept : ¬IsBreak c := by
      rcases marked with rfl | rfl | rfl
      all_goals decide
    rw [if_neg kept, List.cons_append, List.cons_append, List.nil_append, readBody.eq_def]
    simp only [if_true, if_pos marked]
  case isFalse plain =>
    obtain ⟨backslash, single, double⟩ : c ≠ '\\' ∧ c ≠ '\'' ∧ c ≠ '"' := by
      simpa only [not_or] using plain
    have inside : c ≠ q := by
      rcases quote with rfl | rfl
      · exact single
      · exact double
    rw [List.singleton_append, readBody.eq_def]
    simp only [if_neg backslash, if_neg inside]
    rfl

private theorem readBody_escapeChars (quote : q = '\'' ∨ q = '"') (s t : List Char) :
    readBody q (escapeChars s ++ t) =
      if s.any fun c => IsBreak c then none
      else (readBody q t).map fun r => (s ++ r.1, r.2) := by
  induction s with
  | nil => simp
  | cons c s ih =>
    rw [escapeChars_cons, List.append_assoc, readBody_escapeChar quote, ih, List.any_cons]
    by_cases here : IsBreak c
    · simp only [here, decide_true, Bool.true_or, if_true]
    cases later : s.any fun c => IsBreak c with
    | true => simp only [Bool.or_true, if_true, Option.map_none, ite_self]
    | false =>
      simp only [here, decide_false, Bool.or_self, Bool.false_eq_true, if_false, Option.map_map]
      rfl

private theorem readBody_quote (quote : q = '\'' ∨ q = '"') (rest : List Char) :
    readBody q (q :: rest) = some ([], rest) := by
  have other : q ≠ '\\' := by
    rcases quote with rfl | rfl
    all_goals decide
  rw [readBody.eq_def]
  simp only [if_neg other, if_true]

/-- Escaped text between quotes of either kind is one literal, which denotes the text, exactly if
the text has no line break. Escaping is replacing backslashes, single quotes and double quotes, in
this order. -/
theorem read_escape_iff (v : String) (quote : q = '\'' ∨ q = '"') :
    (escape v).toList =
        replaced '"' ['\\', '"'] (replaced '\'' ['\\', '\'']
          (replaced '\\' ['\\', '\\'] v.toList)) ∧
      (read q (q :: ((escape v).toList ++ [q])) = some (v.toList, []) ↔
        '\n' ∉ v.toList ∧ '\r' ∉ v.toList) := by
  have breaks :
      (v.toList.any fun c => IsBreak c) = true ↔ ¬('\n' ∉ v.toList ∧ '\r' ∉ v.toList) := by
    simp only [List.any_eq_true, decide_eq_true_eq]
    simp only [IsBreak, and_or_left, exists_or, exists_eq_right, not_and_or, not_not]
  rw [escape, String.toList_ofList, read, if_pos rfl, readBody_escapeChars quote,
    readBody_quote quote]
  refine ⟨escapeChars_eq_replaced _, ?_⟩
  by_cases broken : (v.toList.any fun c => IsBreak c) = true
  · rw [if_pos broken]
    exact iff_of_false (Option.some_ne_none _).symm (breaks.1 broken)
  · rw [if_neg broken]
    refine iff_of_true ?_ (not_not.1 (mt breaks.2 broken))
    simp

/-- A text of both quotes and backslashes that ends in a backslash, between double quotes. -/
theorem read_escape_iff_quoted :
    let v := "it's \\\"\\\\"
    read '"' ('"' :: ((escape v).toList ++ ['"'])) = some (v.toList, []) :=
  (read_escape_iff "it's \\\"\\\\" (.inr rfl)).2.2 ⟨by decide, by decide⟩

end LocatorHealing.ScriptLiteral
