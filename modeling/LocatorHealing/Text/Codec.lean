import LocatorHealing.Text.Code

set_option autoImplicit false
set_option relaxedAutoImplicit false

/-!
Codecs for texts. Each takes some code points and refuses the others; no codec takes half of a
surrogate pair.
-/

namespace LocatorHealing

inductive Codec where
  | ascii
  | latin1
  | utf8
  deriving DecidableEq, Repr

namespace Codec

def name : Codec → String
  | .ascii => "ascii"
  | .latin1 => "latin-1"
  | .utf8 => "utf-8"

def refusal : Codec → String
  | .ascii => "ordinal not in range(128)"
  | .latin1 => "ordinal not in range(256)"
  | .utf8 => "surrogates not allowed"

def takes : Codec → CodePoint → Bool
  | .ascii, p => p.toNat < 0x80
  | .latin1, p => p.toNat < 0x100
  | .utf8, p => p.half? = none

/-- The first stretch of a text that a codec refuses: the first code point in it, where it stands,
and how many follow it at once. -/
structure Defect where
  codec : Codec
  unit : Nat
  start : Nat
  extra : Nat
  deriving DecidableEq, Repr

variable (codec : Codec)

def defectFrom? (position : Nat) : List CodePoint → Option Defect
  | [] => none
  | p :: s =>
    if codec.takes p then defectFrom? (position + 1) s
    else some ⟨codec, p.toNat, position, (s.takeWhile fun q => !codec.takes q).length⟩

/-- What keeps a text from being encoded. -/
def defect? (s : String) : Option Defect :=
  codec.defectFrom? 0 (Text.codes s)

variable {codec}

private theorem defectFrom?_eq_none_iff {position : Nat} {s : List CodePoint} :
    codec.defectFrom? position s = none ↔ ∀ p ∈ s, codec.takes p = true := by
  induction s generalizing position with
  | nil => exact ⟨fun _ => nofun, fun _ => rfl⟩
  | cons p s ih =>
    rw [List.forall_mem_cons, ← @ih (position + 1), defectFrom?]
    cases codec.takes p with
    | true => exact ⟨fun rest => ⟨rfl, rest⟩, fun all => all.2⟩
    | false => exact ⟨nofun, fun all => nomatch all.1⟩

theorem defect?_eq_none_iff {s : String} :
    codec.defect? s = none ↔ ∀ p ∈ Text.codes s, codec.takes p = true :=
  defectFrom?_eq_none_iff

private theorem map_char_chars {s : List CodePoint} (whole : ∀ p ∈ s, utf8.takes p = true) :
    (s.filterMap CodePoint.char?).map .char = s := by
  induction s with
  | nil => rfl
  | cons p s ih =>
    obtain ⟨first, others⟩ := List.forall_mem_cons.1 whole
    cases p with
    | half k => cases first
    | char c => rw [List.filterMap_cons_some (by rfl), List.map_cons, ih others]

theorem utf8_defect?_eq_none_iff {s : String} : utf8.defect? s = none ↔ Text.IsWhole s := by
  rw [defect?_eq_none_iff]
  constructor
  · intro whole
    exact ⟨Text.chars s, by rw [Text.ofChars, Text.chars, map_char_chars whole, Text.ofCodes_codes]⟩
  · rintro ⟨cs, rfl⟩ p there
    rw [Text.codes_ofChars] at there
    obtain ⟨c, -, rfl⟩ := List.mem_map.1 there
    rfl

@[simp] theorem utf8_defect?_ofChars (cs : List Char) : utf8.defect? (Text.ofChars cs) = none :=
  utf8_defect?_eq_none_iff.2 ⟨cs, rfl⟩

end Codec

namespace Text

instance (s : String) : Decidable (IsWhole s) :=
  decidable_of_iff _ Codec.utf8_defect?_eq_none_iff

end Text

end LocatorHealing
