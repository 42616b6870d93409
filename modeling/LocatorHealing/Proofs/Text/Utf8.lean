import LocatorHealing.Proofs.Text.Code
import LocatorHealing.Text.Utf8

set_option autoImplicit false
set_option relaxedAutoImplicit false

/-!
Text of ASCII characters is one octet a character, and its octets are read as that text.
-/

namespace LocatorHealing.Utf8

private theorem step_ascii {c : Char} (ascii : c.toNat < 0x80) (rest : List UInt8) :
    step c.toNat.toUInt8 rest = (.ok c, rest) := by
  have octet : c.toNat.toUInt8.toNat = c.toNat := by
    rw [Nat.toUInt8_eq, UInt8.toNat_ofNat']
    exact Nat.mod_eq_of_lt (by omega)
  simp only [step, lead?, octet, if_pos ascii, continuation, Char.ofNat_toNat]

private theorem encode_cons_ascii {c : Char} (ascii : c.toNat < 0x80) (s : List Char) :
    encode (c :: s) = c.toNat.toUInt8 :: encode s := by
  simp [encode, encodeChar, ascii]

private theorem decodeFrom_encode {s : List Char} (ascii : ∀ c ∈ s, c.toNat < 0x80)
    {fuel : Nat} (enough : s.length ≤ fuel) (position : Nat) (before : List Char) :
    decodeFrom fuel position before (encode s) = .ok (before.reverse ++ s) := by
  induction s generalizing fuel position before with
  | nil =>
    rw [encode, List.flatMap_nil, decodeFrom.eq_def]
    simp
  | cons c s ih =>
    obtain ⟨fuel, rfl⟩ : ∃ k, fuel = k + 1 := ⟨fuel - 1, by simp at enough; omega⟩
    obtain ⟨first, others⟩ := List.forall_mem_cons.1 ascii
    rw [encode_cons_ascii first, decodeFrom]
    simp only [step_ascii first]
    rw [ih others (Nat.le_of_succ_le_succ enough)]
    simp

theorem decode_encode_ascii {s : List Char} (ascii : ∀ c ∈ s, c.toNat < 0x80) :
    decode (encode s) = .ok s := by
  have length : (encode s).length = s.length := by
    induction s with
    | nil => rfl
    | cons c s ih =>
      obtain ⟨first, others⟩ := List.forall_mem_cons.1 ascii
      rw [encode_cons_ascii first, List.length_cons, ih others, List.length_cons]
  rw [decode, decodeFrom_encode ascii (Nat.le_of_eq length.symm)]
  rfl

section Octets

variable {c : Char} {a : String}

theorem octets_plain_append (plain : ∀ c ∈ a.toList, CodePoint.IsPlain c) (b : String) :
    octets (a ++ b) = encode a.toList ++ octets b := by
  have chars : (a.toList.map CodePoint.char).filterMap CodePoint.char? = a.toList := by
    rw [List.filterMap_map]
    exact List.filterMap_some
  rw [octets, Text.chars, Text.codes_plain_append plain, List.filterMap_append, chars, encode,
    List.flatMap_append]
  rfl

theorem octets_parted {between : String} (one : between.toList = [c])
    (plain : CodePoint.IsPlain c) (a b : String) :
    octets (a ++ between ++ b) = octets a ++ encodeChar c ++ octets b := by
  rw [octets, Text.chars, Text.codes_parted one plain, List.filterMap_append,
    List.filterMap_cons_some (by rfl), encode, List.flatMap_append, List.flatMap_cons,
    List.append_assoc]
  rfl

end Octets

end LocatorHealing.Utf8
