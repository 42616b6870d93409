import LocatorHealing.Text.Case

set_option autoImplicit false
set_option relaxedAutoImplicit false

/-!
Lower case is final: a text in lower case has no character that lower case changes. That the images
of the case table are none of the letters that it maps is checked run by run.
-/

namespace LocatorHealing.Text

namespace CaseTable.Run

def lastImage (r : Run) : Nat :=
  r.image + (r.last - r.first)

/-- The images of a run are characters, and none of those with a lower case of their own that the
table does not give. -/
def imagesArePlain (r : Run) : Bool :=
  Nat.blt 90 r.image && (Nat.blt r.lastImage 0x130 || Nat.blt 0x130 r.image) &&
    (Nat.blt r.lastImage 0x3A3 || Nat.blt 0x3A3 r.image) &&
    (Nat.blt r.lastImage 0xD800 || Nat.blt 0xDFFF r.image && Nat.blt r.lastImage 0x110000)

/-- No image of a run is a letter of another: they lie apart, or between the letters of a run that
takes every second one. -/
def imagesMiss (r s : Run) : Bool :=
  Nat.blt r.lastImage s.first || Nat.blt s.last r.image ||
    s.step == 2 && (r.step == 2 || r.first == r.last) && r.image % 2 != s.first % 2

private theorem mapped?_eq_none {r s : Run} (misses : r.imagesMiss s = true) {n m : Nat}
    (mapped : r.mapped? n = some m) : s.mapped? m = none := by
  simp only [mapped?, Option.ite_none_right_eq_some, Option.some.injEq] at mapped
  obtain ⟨⟨low, high, step⟩, rfl⟩ := mapped
  refine if_neg ?_
  rintro ⟨above, below, stepped⟩
  simp only [imagesMiss, lastImage, Bool.or_eq_true, Bool.and_eq_true, Nat.blt_eq, beq_iff_eq,
    bne_iff_ne] at misses
  obtain (left | right) | ⟨⟨two, every⟩, odd⟩ := misses
  · omega
  · omega
  · rw [two] at stepped
    rcases every with alike | single
    · rw [alike] at step
      omega
    · omega

end CaseTable.Run

open CaseTable

private theorem lowerRuns_imagesArePlain : lowerRuns.all Run.imagesArePlain = true := by
  decide +kernel

private theorem lowerRuns_imagesMiss :
    (lowerRuns.all fun r => lowerRuns.all r.imagesMiss) = true := by
  decide +kernel

def IsLower (c : Char) : Prop :=
  c.toNat ≠ 0x3A3 ∧ lowerChar c = [c]

private theorem toNat_ofNat {n : Nat} (valid : n.isValidChar) : (Char.ofNat n).toNat = n := by
  rw [Char.ofNat, dif_pos valid]
  rfl

private theorem isLower_asciiLower {c : Char} (ascii : c.toNat < 128) : IsLower (asciiLower c) := by
  have small : (asciiLower c).toNat < 128 ∧
      ¬(65 ≤ (asciiLower c).toNat ∧ (asciiLower c).toNat ≤ 90) := by
    unfold asciiLower
    split
    case isTrue capital =>
      rw [toNat_ofNat (.inl (by omega))]
      omega
    case isFalse other => exact ⟨ascii, other⟩
  refine ⟨by omega, ?_⟩
  have still : asciiLower (asciiLower c) = asciiLower c := if_neg small.2
  rw [lowerChar, if_pos small.1, still]

private theorem isLower_of_mapped {r : Run} (here : r ∈ lowerRuns) {n m : Nat}
    (mapped : r.mapped? n = some m) : IsLower (Char.ofNat m) := by
  have plain := List.all_eq_true.1 lowerRuns_imagesArePlain r here
  have misses := List.all_eq_true.1 (List.all_eq_true.1 lowerRuns_imagesMiss r here)
  have unmapped : lowerRuns.findSome? (·.mapped? m) = none :=
    List.findSome?_eq_none_iff.2 fun s there => Run.mapped?_eq_none (misses s there) mapped
  have between : r.image ≤ m ∧ m ≤ r.lastImage := by
    simp only [Run.mapped?, Option.ite_none_right_eq_some, Option.some.injEq] at mapped
    unfold Run.lastImage
    omega
  simp only [Run.imagesArePlain, Bool.or_eq_true, Bool.and_eq_true, Nat.blt_eq] at plain
  have code : (Char.ofNat m).toNat = m := by
    refine toNat_ofNat ?_
    unfold Nat.isValidChar
    omega
  refine ⟨by omega, ?_⟩
  rw [lowerChar, code]
  split
  · have same : ¬(65 ≤ (Char.ofNat m).toNat ∧ (Char.ofNat m).toNat ≤ 90) := by omega
    rw [asciiLower, if_neg same]
  · rw [if_neg (by omega), unmapped]

private theorem isLower_of_mem_lowerChar {c d : Char} (plain : c.toNat ≠ 0x3A3)
    (image : d ∈ lowerChar c) : IsLower d := by
  have whole := image
  unfold lowerChar at image
  split at image
  case isTrue ascii =>
    rw [List.mem_singleton.1 image]
    exact isLower_asciiLower ascii
  case isFalse wide =>
  split at image
  case isTrue =>
    simp only [List.mem_cons, List.not_mem_nil, or_false] at image
    rcases image with rfl | rfl
    · exact ⟨by decide, by decide⟩
    · exact ⟨by decide, by decide +kernel⟩
  case isFalse undotted =>
  split at image
  case h_1 m found =>
    obtain ⟨r, here, mapped⟩ := List.exists_of_findSome?_eq_some found
    rw [List.mem_singleton.1 image]
    exact isLower_of_mapped here mapped
  case h_2 unmapped =>
    rw [List.mem_singleton.1 image]
    exact ⟨plain, by rw [lowerChar, if_neg wide, if_neg undotted, unmapped]⟩

private theorem isLower_of_mem_lowerFrom {s : List Char} {d : Char} (before : List Char)
    (image : d ∈ lowerFrom before s) : IsLower d := by
  induction s generalizing before with
  | nil => cases image
  | cons c s ih =>
    rcases List.mem_append.1 image with here | later
    · split at here
      case isTrue =>
        -- both forms of the small sigma
        split at here <;> rw [List.mem_singleton.1 here]
        · exact ⟨by decide, by decide +kernel⟩
        · exact ⟨by decide, by decide +kernel⟩
      case isFalse plain => exact isLower_of_mem_lowerChar plain here
    · exact ih _ later

private theorem lowerFrom_of_isLower {s : List Char} (all : ∀ c ∈ s, IsLower c)
    (before : List Char) : lowerFrom before s = s := by
  induction s generalizing before with
  | nil => rfl
  | cons c s ih =>
    obtain ⟨plain, alone⟩ := all c List.mem_cons_self
    rw [lowerFrom, if_neg plain, alone, ih (fun d there => all d (List.mem_cons_of_mem c there))]
    rfl

theorem lower_lower (s : String) : lower (lower s) = lower s := by
  unfold lower
  rw [String.toList_ofList, lowerFrom_of_isLower fun c there => isLower_of_mem_lowerFrom _ there]

end LocatorHealing.Text
