import LocatorHealing.Json.Reader
import LocatorHealing.Json.Writer

set_option autoImplicit false
set_option relaxedAutoImplicit false

/-!
Strings and integers are read as they were written. A string is read one written character at a
time, whether the character stands for itself or was escaped; an integer is read up to the first
character that cannot go on with it.
-/

namespace LocatorHealing.Json

section Units

private theorem hexValue?_hexDigit : ∀ n < 16, hexValue? (Text.hexDigit n) = some n := by decide

variable {n : Nat} {e : Char} {rest : List Char} (rules : Rules)

private theorem hex_four (n : Nat) : Text.hex 4 n =
    [Text.hexDigit (n / 16 / 16 / 16 % 16), Text.hexDigit (n / 16 / 16 % 16),
      Text.hexDigit (n / 16 % 16), Text.hexDigit (n % 16)] := rfl

private theorem unit?_hex (small : n < 0x10000) :
    unit? (Text.hexDigit (n / 16 / 16 / 16 % 16)) (Text.hexDigit (n / 16 / 16 % 16))
      (Text.hexDigit (n / 16 % 16)) (Text.hexDigit (n % 16)) = some n := by
  have digit (m : Nat) : hexValue? (Text.hexDigit (m % 16)) = some (m % 16) :=
    hexValue?_hexDigit _ (Nat.mod_lt m (by decide))
  simp only [unit?, digit, Option.bind_eq_bind, Option.bind_some, pure, Option.some.injEq]
  omega

private theorem readUnit_hex (small : n < 0x10000) (whole : ¬(0xD800 ≤ n ∧ n < 0xE000)) :
    readUnit rules (Text.hex 4 n ++ e :: rest) = .ok (.char (Char.ofNat n), e :: rest) := by
  have high : isHighSurrogate n = false := by
    simp only [isHighSurrogate, Bool.and_eq_false_iff, decide_eq_false_iff_not]
    omega
  simp [hex_four, readUnit, unit?_hex small, high, unitPoint, whole, Except.map]

private theorem readUnit_pair {high low : Nat} (isHigh : isHighSurrogate high = true)
    (isLow : isLowSurrogate low = true) :
    readUnit rules (Text.hex 4 high ++ (unitEscape low ++ e :: rest)) =
      .ok (.char (Char.ofNat (0x10000 + (high - 0xD800) * 0x400 + (low - 0xDC00))), e :: rest) := by
  have highSmall : high < 0x10000 := by
    simp only [isHighSurrogate, Bool.and_eq_true, decide_eq_true_eq] at isHigh
    omega
  have lowSmall : low < 0x10000 := by
    simp only [isLowSurrogate, Bool.and_eq_true, decide_eq_true_eq] at isLow
    omega
  simp [hex_four, unitEscape, readUnit, unit?_hex highSmall, unit?_hex lowSmall, isHigh, isLow]

end Units

section Strings

variable (rules : Rules) {f : Format} {c : Char} {s : String}

private theorem not_surrogate (c : Char) : ¬(0xD800 ≤ c.toNat ∧ c.toNat < 0xE000) := by
  have valid : c.toNat < 0xD800 ∨ 0xDFFF < c.toNat ∧ c.toNat < 0x110000 := c.valid
  omega

private theorem readUnit_longEscape (c e : Char) (rest : List Char) :
    ∃ digits, longEscape c ++ e :: rest = '\\' :: 'u' :: digits ∧
      readUnit rules digits = .ok (.char c, e :: rest) := by
  have valid : c.toNat < 0xD800 ∨ 0xDFFF < c.toNat ∧ c.toNat < 0x110000 := c.valid
  simp only [longEscape]
  split
  case isTrue small =>
    refine ⟨Text.hex 4 c.toNat ++ e :: rest, rfl, ?_⟩
    rw [readUnit_hex rules small (not_surrogate c), Char.ofNat_toNat]
  case isFalse large =>
    refine ⟨Text.hex 4 (0xD800 + (c.toNat - 0x10000) / 0x400) ++
      (unitEscape (0xDC00 + (c.toNat - 0x10000) % 0x400) ++ e :: rest), by simp [unitEscape], ?_⟩
    have same : 0x10000 + (0xD800 + (c.toNat - 0x10000) / 0x400 - 0xD800) * 0x400 +
        (0xDC00 + (c.toNat - 0x10000) % 0x400 - 0xDC00) = c.toNat := by omega
    rw [readUnit_pair, same, Char.ofNat_toNat]
    · simp only [isHighSurrogate, Bool.and_eq_true, decide_eq_true_eq]
      omega
    · simp only [isLowSurrogate, Bool.and_eq_true, decide_eq_true_eq]
      omega

private theorem readStringFrom_escape (escape : List Char) {rest : List Char} {start fuel : Nat}
    {seen : List CodePoint} (escaped : readEscape rules start escape = .ok (.char c, rest)) :
    readStringFrom rules start (fuel + 1) seen ('\\' :: escape) =
      readStringFrom rules start fuel (.char c :: seen) rest := by
  simp [readStringFrom, escaped]

private theorem readStringFrom_writeChar (f : Format) (c : Char) (start fuel : Nat)
    (seen : List CodePoint) {e : Char} {rest : List Char} :
    readStringFrom rules start (fuel + 1) seen (writeChar f c ++ e :: rest) =
      readStringFrom rules start fuel (.char c :: seen) (e :: rest) := by
  unfold writeChar
  split
  case isTrue quote =>
    subst quote
    exact readStringFrom_escape rules _ rfl
  split
  case isTrue backslash =>
    subst backslash
    exact readStringFrom_escape rules _ rfl
  split
  case isTrue feed =>
    subst feed
    exact readStringFrom_escape rules _ rfl
  split
  case isTrue carriage =>
    subst carriage
    exact readStringFrom_escape rules _ rfl
  split
  case isTrue tab =>
    subst tab
    exact readStringFrom_escape rules _ rfl
  split
  case isTrue back =>
    have same : c = Char.ofNat 8 := by rw [← back, Char.ofNat_toNat]
    subst same
    exact readStringFrom_escape rules _ rfl
  split
  case isTrue page =>
    have same : c = Char.ofNat 12 := by rw [← page, Char.ofNat_toNat]
    subst same
    exact readStringFrom_escape rules _ rfl
  split
  case isTrue control =>
    refine readStringFrom_escape rules ('u' :: (Text.hex 4 c.toNat ++ e :: rest)) ?_
    have read : readUnit rules (Text.hex 4 c.toNat ++ e :: rest) =
        .ok (.char (Char.ofNat c.toNat), e :: rest) :=
      readUnit_hex rules (by omega) (not_surrogate c)
    rwa [Char.ofNat_toNat] at read
  split
  case isTrue =>
    obtain ⟨digits, escape, read⟩ := readUnit_longEscape rules c e rest
    rw [escape]
    exact readStringFrom_escape rules ('u' :: digits) read
  case isFalse quote backslash _ _ _ _ _ control _ =>
    simp [readStringFrom, quote, backslash, control]

private theorem longEscape_ne_nil (c : Char) : longEscape c ≠ [] := by
  unfold longEscape unitEscape
  dsimp only
  split <;> exact List.cons_ne_nil _ _

private theorem writeChar_ne_nil (f : Format) (c : Char) : writeChar f c ≠ [] := by
  unfold writeChar
  repeat' split
  all_goals first | exact longEscape_ne_nil c | exact List.cons_ne_nil _ _

private theorem length_le_flatMap_writeChar (f : Format) (cs : List Char) :
    cs.length ≤ (cs.flatMap (writeChar f)).length := by
  induction cs with
  | nil => exact Nat.le_refl 0
  | cons c cs ih =>
    have some := List.length_pos_iff.2 (writeChar_ne_nil f c)
    simp only [List.flatMap_cons, List.length_append, List.length_cons]
    omega

private theorem readStringFrom_flatMap (f : Format) (start : Nat) (rest : List Char)
    {cs : List Char} (fuel : Nat) (enough : cs.length < fuel) (seen : List CodePoint) :
    readStringFrom rules start fuel seen (cs.flatMap (writeChar f) ++ '"' :: rest) =
      .ok (Text.ofCodes (seen.reverse ++ cs.map .char), rest) := by
  induction cs generalizing fuel seen with
  | nil =>
    obtain ⟨fuel, rfl⟩ := Nat.exists_eq_add_of_lt enough
    simp [readStringFrom]
  | cons c cs ih =>
    obtain ⟨fuel, rfl⟩ : ∃ n, fuel = n + 1 := ⟨fuel - 1, by omega⟩
    -- The next character of the text is the head of what is left, be it the closing quote.
    obtain ⟨e, more, left⟩ : ∃ e more, cs.flatMap (writeChar f) ++ '"' :: rest = e :: more :=
      List.exists_cons_of_ne_nil (by simp)
    rw [List.flatMap_cons, List.append_assoc, left, readStringFrom_writeChar rules, ← left,
      ih fuel (Nat.lt_of_succ_lt_succ enough)]
    simp

theorem readString_writeString (whole : Text.IsWhole s) (rest : List Char) :
    readString rules ((Text.codes s).flatMap (writePoint f) ++ '"' :: rest) = .ok (s, rest) := by
  obtain ⟨cs, rfl⟩ := whole
  have written :
      (Text.codes (Text.ofChars cs)).flatMap (writePoint f) = cs.flatMap (writeChar f) := by
    rw [Text.codes_ofChars, List.flatMap_map]
    rfl
  unfold readString
  rw [written, readStringFrom_flatMap rules f]
  · rfl
  · have shorter := length_le_flatMap_writeChar f cs
    simp only [List.length_append, List.length_cons]
    omega

end Strings

section Integers

variable {c : Char} {n : Nat} {ds rest : List Char}

/-- What comes after a number does not go on with it. -/
def Parted (rest : List Char) : Prop :=
  ∀ c, rest.head? = some c → isDigit c = false ∧ c ≠ '.' ∧ c ≠ 'e' ∧ c ≠ 'E'

theorem isDigit_of_mem_toDigits (member : c ∈ Nat.toDigits 10 n) : isDigit c = true := by
  have digit := Nat.isDigit_of_mem_toDigits (by decide) (by decide) member
  simpa [Char.isDigit, isDigit, UInt32.le_iff_toNat_le] using digit

private theorem digitsValue_toDigits (n : Nat) : digitsValue (Nat.toDigits 10 n) = n := by
  have value : Nat.ofDigitChars 10 (Nat.toDigits 10 n) 0 = n := Nat.ofDigitChars_ten_toDigits
  rwa [Nat.ofDigitChars_eq_foldl] at value

private theorem toDigits_cons (n : Nat) :
    ∃ d ds, Nat.toDigits 10 n = d :: ds ∧ (d = '0' → ds = []) := by
  induction n using Nat.strongRecOn with
  | ind n ih =>
    rw [Nat.toDigits_eq_if (by decide)]
    split
    case isTrue small => exact ⟨_, [], rfl, fun _ => rfl⟩
    case isFalse large =>
      obtain ⟨d, ds, digits, alone⟩ := ih (n / 10) (by omega)
      refine ⟨d, ds ++ [(n % 10).digitChar], by rw [digits]; rfl, fun zero => ?_⟩
      -- What stands in front of the last digit would be zero.
      have none : Nat.toDigits 10 (n / 10) = ['0'] := by rw [digits, zero, alone zero]
      have value := digitsValue_toDigits (n / 10)
      rw [none, show digitsValue ['0'] = 0 from rfl] at value
      omega

private theorem readWhole_toDigits (parted : Parted rest) (n : Nat) :
    readWhole (Nat.toDigits 10 n ++ rest) = some (Nat.toDigits 10 n, rest) := by
  obtain ⟨d, ds, digits, alone⟩ := toDigits_cons n
  have digit : ∀ c ∈ d :: ds, isDigit c = true := fun c member =>
    isDigit_of_mem_toDigits (digits ▸ member)
  have stops : rest.takeWhile isDigit = [] ∧ rest.dropWhile isDigit = rest := by
    cases rest with
    | nil => exact ⟨rfl, rfl⟩
    | cons e rest =>
      have other := (parted e rfl).1
      exact ⟨by simp [other], by simp [other]⟩
  rw [digits]
  simp only [readWhole, List.cons_append, digit d List.mem_cons_self, if_true]
  split
  case isTrue zero => rw [zero, alone zero, List.nil_append]
  case isFalse =>
    have more : ∀ c ∈ ds, isDigit c = true :=
      fun c member => digit c (List.mem_cons_of_mem d member)
    rw [List.takeWhile_append_of_pos more, List.dropWhile_append_of_pos more, stops.1, stops.2,
      List.append_nil]

private theorem readFraction_parted (parted : Parted rest) : readFraction rest = ([], rest) := by
  unfold readFraction
  split
  case h_1 => exact absurd rfl (parted '.' rfl).2.1
  case h_2 => rfl

private theorem readExponent_parted (parted : Parted rest) : readExponent rest = (none, rest) := by
  unfold readExponent
  split
  case h_1 e rest =>
    obtain ⟨-, -, lower, upper⟩ := parted e rfl
    rw [if_neg (by simp [lower, upper])]
  case h_2 => rfl

private theorem readUnsigned_toDigits (parted : Parted rest) (negative : Bool) (n : Nat) :
    readUnsigned negative (Nat.toDigits 10 n ++ rest) =
      some (.int (if negative then -(n : Int) else n), rest) := by
  simp [readUnsigned, readWhole_toDigits parted, readFraction_parted parted,
    readExponent_parted parted, digitsValue_toDigits]

theorem writeNumber_int (n : Int) :
    writeNumber (.int n) =
      if 0 ≤ n then Nat.toDigits 10 n.natAbs else '-' :: Nat.toDigits 10 n.natAbs := by
  rw [writeNumber, Int.toString_eq_repr, Int.repr_eq_if]
  split
  case isTrue positive => rw [Nat.toList_repr, show n.toNat = n.natAbs by omega]
  case isFalse negative =>
    rw [String.toList_append, Nat.toList_repr, show (-n).toNat = n.natAbs by omega]
    rfl

private theorem readScalar_digit (digit : isDigit c = true) :
    readScalar (c :: rest) = (readUnsigned false (c :: rest)).map fun r => (.num r.1, r.2) := by
  unfold readScalar
  split
  case h_7 => rfl
  all_goals
    rename_i same
    cases same
    exact absurd digit (by decide)

theorem readScalar_int (parted : Parted rest) (n : Int) :
    readScalar (writeNumber (.int n) ++ rest) = some (.num (.int n), rest) := by
  obtain ⟨d, ds, digits, -⟩ := toDigits_cons n.natAbs
  have digit : isDigit d = true := isDigit_of_mem_toDigits (digits ▸ List.mem_cons_self)
  have read := fun negative => readUnsigned_toDigits parted negative n.natAbs
  rw [digits] at read
  rw [writeNumber_int, digits]
  split
  case isTrue positive =>
    rw [List.cons_append, readScalar_digit digit, ← List.cons_append, read]
    simp [Int.natAbs_of_nonneg positive]
  case isFalse negative =>
    have other : after? "Infinity".toList (d :: ds ++ rest) = none := by
      have apart : 'I' ≠ d := by
        rintro rfl
        exact absurd digit (by decide)
      rw [show "Infinity".toList = 'I' :: "nfinity".toList from rfl, List.cons_append, after?,
        if_neg apart]
    rw [List.cons_append, readScalar, other]
    simp only [read, Option.map_some, if_true]
    rw [Int.ofNat_natAbs_of_nonpos (by omega), Int.neg_neg]

theorem wholeLength_int (parted : Parted rest) (n : Int) :
    wholeLength (writeNumber (.int n) ++ rest) = (Nat.toDigits 10 n.natAbs).length := by
  have whole := readWhole_toDigits parted n.natAbs
  rw [writeNumber_int]
  split
  case isTrue positive =>
    obtain ⟨d, ds, digits, -⟩ := toDigits_cons n.natAbs
    have digit : isDigit d = true := isDigit_of_mem_toDigits (digits ▸ List.mem_cons_self)
    unfold wholeLength
    split
    case h_1 minus =>
      rw [digits] at minus
      cases minus
      exact absurd digit (by decide)
    case h_2 => simp [whole]
  case isFalse => simp [wholeLength, whole]

end Integers

end LocatorHealing.Json
