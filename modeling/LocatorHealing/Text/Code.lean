set_option autoImplicit false
set_option relaxedAutoImplicit false

/-!
Texts as sequences of code points. A text may hold one half of a surrogate pair by itself, which is
no character, so that a half is spelled as two characters: a mark, which is U+10FFFF, and one of the
2048 characters from U+10D800 on. Where a mark comes before such a character, with nothing but marks
between them, it is spelled twice; all other characters spell themselves. So every string spells
exactly one text and every text is spelled by exactly one string.

What a text is compared with, cut at, trimmed of or joined by is never one of these characters, so
it makes no difference there whether a text or its spelling is looked at. Reading, writing,
measuring and dropping characters inside a text goes by its code points.
-/

namespace LocatorHealing

inductive CodePoint where
  | char (c : Char)
  /-- The half of a surrogate pair with this number, counted from U+D800. -/
  | half (k : Fin 0x800)
  deriving DecidableEq, Repr

namespace CodePoint

def toNat : CodePoint → Nat
  | .char c => c.toNat
  | .half k => 0xD800 + k

def char? : CodePoint → Option Char
  | .char c => some c
  | .half _ => none

def half? : CodePoint → Option (Fin 0x800)
  | .char _ => none
  | .half k => some k

def mark : Char := Char.ofNat 0x10FFFF

def standIn (k : Fin 0x800) : Char := Char.ofNat (0x10D800 + k)

/-- The half that a character stands in for behind a mark. -/
def standsFor? (c : Char) : Option (Fin 0x800) :=
  if h : 0x10D800 ≤ c.toNat ∧ c.toNat < 0x10E000 then some ⟨c.toNat - 0x10D800, by omega⟩ else none

/-- Whether a stand-in comes next, with nothing but marks in front of it. -/
def isMarked : List Char → Bool
  | [] => false
  | c :: s => if c = mark then isMarked s else (standsFor? c).isSome

/-- The spelling of a code point and what is spelled behind it. -/
def before : CodePoint → List Char → List Char
  | .half k, s => mark :: standIn k :: s
  | .char c, s => if c = mark ∧ isMarked s then mark :: mark :: s else c :: s

def spell (s : List CodePoint) : List Char :=
  s.foldr before []

/-- What a mark and the character behind it spell. -/
def marked (c : Char) : CodePoint :=
  (standsFor? c).elim (.char c) .half

/-- The code points that are spelled. -/
def read : List Char → List CodePoint
  | [] => []
  | [c] => [.char c]
  | c :: d :: s =>
    if c = mark ∧ isMarked (d :: s) then marked d :: read s else .char c :: read (d :: s)

private theorem toNat_standIn (k : Fin 0x800) : (standIn k).toNat = 0x10D800 + k := by
  have valid : (0x10D800 + k.val).isValidChar := Or.inr ⟨by omega, by omega⟩
  rw [standIn, Char.ofNat, dif_pos valid]
  rfl

private theorem standsFor?_standIn (k : Fin 0x800) : standsFor? (standIn k) = some k := by
  have image := toNat_standIn k
  rw [standsFor?, dif_pos ⟨by omega, by omega⟩]
  exact congrArg some (Fin.ext (by simp only; omega))

private theorem standIn_of_standsFor? {c : Char} {k : Fin 0x800} (stands : standsFor? c = some k) :
    standIn k = c := by
  unfold standsFor? at stands
  split at stands
  case isTrue within =>
    rw [← Option.some.inj stands, standIn, Nat.add_sub_cancel' within.1, Char.ofNat_toNat]
  case isFalse => exact absurd stands (Option.some_ne_none k).symm

private theorem standsFor?_mark : standsFor? mark = none := by
  have image : mark.toNat = 0x10FFFF := rfl
  rw [standsFor?, dif_neg (by omega)]

private theorem standIn_ne_mark (k : Fin 0x800) : standIn k ≠ mark := by
  intro same
  have stands := standsFor?_standIn k
  rw [same, standsFor?_mark] at stands
  cases stands

private theorem isMarked_mark (s : List Char) : isMarked (mark :: s) = isMarked s := by
  rw [isMarked, if_pos rfl]

private theorem isMarked_standIn (k : Fin 0x800) (s : List Char) :
    isMarked (standIn k :: s) = true := by
  rw [isMarked, if_neg (standIn_ne_mark k), standsFor?_standIn]
  rfl

private theorem marked_standIn (k : Fin 0x800) : marked (standIn k) = .half k := by
  rw [marked, standsFor?_standIn]
  rfl

theorem marked_mark : marked mark = .char mark := by
  rw [marked, standsFor?_mark]
  rfl

theorem read_marked {d : Char} {s : List Char} (marks : isMarked (d :: s) = true) :
    read (mark :: d :: s) = marked d :: read s := by
  rw [read, if_pos ⟨rfl, marks⟩]

theorem read_cons {c : Char} {s : List Char} (plain : ¬(c = mark ∧ isMarked s = true)) :
    read (c :: s) = .char c :: read s := by
  cases s with
  | nil => rfl
  | cons d s => rw [read, if_neg plain]

@[simp] theorem spell_cons (p : CodePoint) (s : List CodePoint) :
    spell (p :: s) = before p (spell s) := rfl

private theorem read_before (p : CodePoint) (s : List Char) : read (before p s) = p :: read s := by
  cases p with
  | half k => rw [before, read_marked (isMarked_standIn k s), marked_standIn]
  | char c =>
    rw [before]
    split
    case isTrue marks =>
      rw [read_marked ((isMarked_mark s).trans marks.2), marked_mark, marks.1]
    case isFalse plain => exact read_cons plain

theorem read_spell (s : List CodePoint) : read (spell s) = s := by
  induction s with
  | nil => rfl
  | cons p s ih => rw [spell_cons, read_before, ih]

private theorem before_marked {d : Char} {s : List Char} (marks : isMarked (d :: s) = true) :
    before (marked d) s = mark :: d :: s := by
  by_cases same : d = mark
  · subst same
    rw [isMarked_mark] at marks
    rw [marked_mark, before, if_pos ⟨rfl, marks⟩]
  · rw [isMarked, if_neg same] at marks
    obtain ⟨k, stands⟩ := Option.isSome_iff_exists.1 marks
    rw [marked, stands, ← standIn_of_standsFor? stands]
    rfl

theorem spell_read (s : List Char) : spell (read s) = s := by
  induction s using read.induct with
  | case1 => rfl
  | case2 c =>
    change before (.char c) [] = [c]
    rw [before, if_neg fun marks => Bool.false_ne_true marks.2]
  | case3 c d s marks ih =>
    rw [marks.1, read_marked marks.2, spell_cons, ih, before_marked marks.2]
  | case4 c d s plain ih => rw [read_cons plain, spell_cons, ih, before, if_neg plain]

end CodePoint

namespace Text

open CodePoint (spell read)

/-- The code points of a text. -/
def codes (s : String) : List CodePoint :=
  read s.toList

def ofCodes (s : List CodePoint) : String :=
  String.ofList (spell s)

def ofChars (s : List Char) : String :=
  ofCodes (s.map .char)

def IsWhole (s : String) : Prop :=
  ∃ cs : List Char, s = ofChars cs

def chars (s : String) : List Char :=
  (codes s).filterMap CodePoint.char?

/-- The spelling of a text without all characters of some kind. -/
def without (p : Char → Bool) (s : List Char) : List Char :=
  spell ((read s).filter fun point => !point.char?.any p)

@[simp] theorem codes_ofCodes (s : List CodePoint) : codes (ofCodes s) = s := by
  rw [codes, ofCodes, String.toList_ofList, CodePoint.read_spell]

@[simp] theorem ofCodes_codes (s : String) : ofCodes (codes s) = s := by
  rw [codes, ofCodes, CodePoint.spell_read, String.ofList_toList]

@[simp] theorem codes_ofChars (s : List Char) : codes (ofChars s) = s.map .char :=
  codes_ofCodes _

@[simp] theorem chars_ofChars (s : List Char) : chars (ofChars s) = s := by
  rw [chars, codes_ofChars, List.filterMap_map]
  exact List.filterMap_some

end Text

end LocatorHealing
