import LocatorHealing.Audit
import LocatorHealing.Proofs.Json.RoundTrip
import LocatorHealing.Proofs.Text.Code

set_option autoImplicit false
set_option relaxedAutoImplicit false

/-!
Values in the spaced format are written in printed characters of ASCII alone, so that the text of a
value is one line.
-/

namespace LocatorHealing

namespace Json

/-- Printed characters of ASCII, and the blank. -/
def Printed (s : List Char) : Prop :=
  ∀ c ∈ s, 32 ≤ c.toNat ∧ c.toNat < 127

instance (s : List Char) : Decidable (Printed s) :=
  List.decidableBAll _ s

variable {s t : List Char} {c : Char}

private theorem printed_nil : Printed [] := nofun

private theorem printed_cons : Printed (c :: s) ↔ (32 ≤ c.toNat ∧ c.toNat < 127) ∧ Printed s :=
  List.forall_mem_cons

private theorem printed_append : Printed (s ++ t) ↔ Printed s ∧ Printed t :=
  List.forall_mem_append

private theorem Printed.of_subset (printed : Printed t) (part : s ⊆ t) : Printed s :=
  fun c member => printed c (part member)

theorem Printed.plain (printed : Printed s) : ∀ c ∈ s, CodePoint.IsPlain c := fun c member =>
  CodePoint.isPlain_of_lt (by have := (printed c member).2; omega)

theorem Printed.toList_ofChars (printed : Printed s) : (Text.ofChars s).toList = s := by
  rw [Text.ofChars_plain printed.plain, String.toList_ofList]

theorem Printed.whole {text : String} (printed : Printed text.toList) : Text.IsWhole text :=
  ⟨text.toList, by rw [Text.ofChars_plain printed.plain, String.ofList_toList]⟩

private theorem printed_hexDigit : ∀ n < 16, Printed [Text.hexDigit n] := by decide

private theorem printed_hex (width n : Nat) : Printed (Text.hex width n) := by
  induction width generalizing n with
  | zero => exact printed_nil
  | succ width ih =>
    exact printed_append.2 ⟨ih _, printed_hexDigit _ (Nat.mod_lt n (by decide))⟩

private theorem printed_unitEscape (n : Nat) : Printed (unitEscape n) :=
  printed_append.2 ⟨(by decide : Printed ['\\', 'u']), printed_hex 4 n⟩

private theorem printed_longEscape (c : Char) : Printed (longEscape c) := by
  unfold longEscape
  dsimp only
  split
  · exact printed_unitEscape _
  · exact printed_append.2 ⟨printed_unitEscape _, printed_unitEscape _⟩

private theorem printed_writeChar (c : Char) : Printed (writeChar .spaced c) := by
  unfold writeChar
  iterate 7 split; · decide
  split
  · exact printed_unitEscape _
  split
  · exact printed_longEscape _
  case isFalse control ascii =>
    simp only [Format.spaced, Bool.true_and, decide_eq_true_eq] at ascii
    exact printed_cons.2 ⟨⟨by omega, by omega⟩, printed_nil⟩

private theorem printed_writeString (s : String) : Printed (writeString .spaced s) := by
  refine printed_cons.2 ⟨by decide, printed_append.2 ⟨fun c member => ?_, by decide⟩⟩
  obtain ⟨d, -, written⟩ := List.mem_flatMap.1 member
  cases d with
  | char d => exact printed_writeChar d c written
  | half k => exact printed_unitEscape _ c written

section Numbers

private theorem printed_toDigits (n : Nat) : Printed (Nat.toDigits 10 n) := by
  intro c member
  have digit := isDigit_of_mem_toDigits member
  simp only [isDigit, Bool.and_eq_true, decide_eq_true_eq] at digit
  omega

private theorem printed_digits (n : Nat) : Printed (toString n).toList := by
  rw [Nat.toString_eq_repr, Nat.toList_repr]
  exact printed_toDigits n

private theorem printed_text (d : Shortest.Decimal) : Printed (Shortest.text d).toList := by
  have digits := printed_digits d.digits
  have zeros (n : Nat) : Printed (List.replicate n '0') := by
    intro c member
    rw [List.eq_of_mem_replicate member]
    decide
  have lead (n : Nat) : Printed ((toString d.digits).toList.take n) :=
    digits.of_subset (List.take_subset _ _)
  have tail (n : Nat) : Printed ((toString d.digits).toList.drop n) :=
    digits.of_subset (List.drop_subset _ _)
  unfold Shortest.text
  dsimp only
  rw [String.toList_ofList]
  split
  · split
    · exact printed_cons.2 ⟨by decide,
        printed_cons.2 ⟨by decide, printed_append.2 ⟨zeros _, digits⟩⟩⟩
    split
    · exact printed_append.2 ⟨lead _, printed_cons.2 ⟨by decide, tail _⟩⟩
    · exact printed_append.2 ⟨printed_append.2 ⟨digits, zeros _⟩, by decide⟩
  · refine printed_append.2 ⟨?_, printed_cons.2 ⟨by decide, printed_cons.2 ⟨?_, ?_⟩⟩⟩
    · split
      · exact digits
      · exact printed_append.2 ⟨lead _, printed_cons.2 ⟨by decide, tail _⟩⟩
    · split <;> decide
    · split
      · exact printed_cons.2 ⟨by decide, printed_digits _⟩
      · exact printed_digits _

private theorem printed_ofFloat (x : Float) : Printed (Shortest.ofFloat x).toList := by
  unfold Shortest.ofFloat
  split
  · decide
  · split <;> decide
  · have magnitude (mantissa : Nat) (exponent : Int) : Printed
        (if mantissa = 0 then "0.0" else Shortest.text
          (Shortest.stripZeros 20 (Shortest.ofParts mantissa exponent))).toList := by
      split
      · decide
      · exact printed_text _
    dsimp only
    split
    · rw [String.toList_append]
      exact printed_append.2 ⟨by decide, magnitude _ _⟩
    · exact magnitude _ _

private theorem printed_writeNumber (n : Number) : Printed (writeNumber n) := by
  cases n with
  | int n =>
    rw [writeNumber_int]
    split
    · exact printed_toDigits _
    · exact printed_cons.2 ⟨by decide, printed_toDigits _⟩
  | real x =>
    dsimp only [writeNumber]
    split
    · decide
    split
    · split <;> decide
    · exact printed_ofFloat x

end Numbers

mutual

theorem printed_writeChars : (v : Json) → Printed (writeChars .spaced v)
  | .null => by decide
  | .bool true => by decide
  | .bool false => by decide
  | .num n => printed_writeNumber n
  | .str s => printed_writeString s
  | .arr items => by
    rw [writeChars]
    exact printed_cons.2 ⟨by decide, printed_append.2 ⟨printed_writeItems items, by decide⟩⟩
  | .obj members => by
    rw [writeChars]
    exact printed_cons.2 ⟨by decide, printed_append.2 ⟨printed_writeMembers members, by decide⟩⟩

private theorem printed_writeItems : (items : List Json) → Printed (writeItems .spaced items)
  | [] => printed_nil
  | [v] => printed_writeChars v
  | v :: w :: rest => by
    rw [writeItems_cons_cons]
    exact printed_append.2 ⟨printed_writeChars v,
      printed_append.2 ⟨by decide, printed_writeItems (w :: rest)⟩⟩

private theorem printed_writeMembers :
    (members : List (String × Json)) → Printed (writeMembers .spaced members)
  | [] => printed_nil
  | [(k, v)] => by
    rw [writeMembers]
    exact printed_append.2 ⟨printed_append.2 ⟨printed_writeString k, by decide⟩,
      printed_writeChars v⟩
  | (k, v) :: q :: rest => by
    rw [writeMembers]
    · exact printed_append.2 ⟨printed_append.2 ⟨printed_append.2 ⟨printed_append.2
        ⟨printed_writeString k, by decide⟩, printed_writeChars v⟩, by decide⟩,
        printed_writeMembers (q :: rest)⟩
    · nofun

end

end Json

private theorem Text.linesFrom_printed {s : List Char} (printed : Json.Printed s)
    (current rest : List Char) :
    linesFrom current (s ++ '\n' :: rest) = (current.reverse ++ s) :: linesFrom [] rest := by
  induction s generalizing current with
  | nil =>
    rw [List.nil_append, List.append_nil, linesFrom.eq_def]
    rfl
  | cons c s ih =>
    obtain ⟨⟨low, high⟩, others⟩ := Json.printed_cons.1 printed
    have plain : c ≠ '\r' := by
      rintro rfl
      exact absurd low (by decide)
    have goes : endsLine c = false := by
      simp only [endsLine, Bool.or_eq_false_iff, Bool.and_eq_false_iff, decide_eq_false_iff_not,
        beq_eq_false_iff_ne]
      omega
    rw [List.cons_append, linesFrom.eq_def]
    simp [plain, goes, ih others]

theorem Audit.lines_records (records : List Record) :
    Text.lines (records.flatMap fun r => Text.chars r.line) =
      records.map fun r => Text.chars (Json.write .spaced r.toJson) := by
  induction records with
  | nil => rfl
  | cons r rest ih =>
    rw [List.flatMap_cons, Record.line, Text.chars_ofChars, List.append_assoc,
      List.singleton_append, Text.lines, Text.linesFrom_printed (Json.printed_writeChars _),
      ← Text.lines, ih, List.map_cons, Json.write, Text.chars_ofChars]
    rfl

end LocatorHealing
