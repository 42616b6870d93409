import LocatorHealing.Proofs.Json.Scalar
import Mathlib.Algebra.Group.Nat.Defs

set_option autoImplicit false
set_option relaxedAutoImplicit false

/-!
What is written is read back. The values are those that can be written without loss: there are no
doubles in them, no integers of too many digits, no unpaired surrogates, no names that come twice,
and no deeper nesting than the reader allows.
-/

namespace LocatorHealing.Json

/-- The separators of a format are the signs themselves, perhaps with blanks after them. -/
structure Format.Separates (f : Format) : Prop where
  items : ∃ blanks, f.betweenItems = ',' :: blanks ∧ ∀ c ∈ blanks, isSpace c = true
  names : ∃ blanks, f.afterName = ':' :: blanks ∧ ∀ c ∈ blanks, isSpace c = true

theorem Format.separates_compact : Format.compact.Separates :=
  ⟨⟨[], rfl, nofun⟩, ⟨[], rfl, nofun⟩⟩

theorem Format.separates_spaced : Format.spaced.Separates := by
  have blank : ∀ c ∈ [' '], isSpace c = true := by
    intro c there
    rw [List.mem_singleton.1 there]
    rfl
  exact ⟨⟨[' '], rfl, blank⟩, ⟨[' '], rfl, blank⟩⟩

/-- A value that is written without loss, nested at most so deeply. -/
inductive Plain : (depth : Nat) → Json → Prop where
  | null {depth} : Plain depth .null
  | bool {depth} (b : Bool) : Plain depth (.bool b)
  | int {depth} {n : Int} (short : n.natAbs < 10 ^ digitLimit) : Plain depth (.num (.int n))
  | str {depth} {s : String} (whole : Text.IsWhole s) : Plain depth (.str s)
  | arr {depth} {items : List Json} (plain : ∀ v ∈ items, Plain depth v) :
      Plain (depth + 1) (.arr items)
  | obj {depth} {members : List (String × Json)} (distinct : (Members.names members).Nodup)
      (names : ∀ p ∈ members, Text.IsWhole p.1)
      (plain : ∀ p ∈ members, Plain depth p.2) :
      Plain (depth + 1) (.obj members)

variable {f : Format} {rules : Rules} {fuel depth n : Nat} {v : Json} {c : Char}
  {s rest blanks : List Char}

section Starts

/-- A character that is no blank, neither the end of an array nor a byte order mark. -/
def Opens (c : Char) : Prop :=
  isSpace c = false ∧ c ≠ ']' ∧ c ≠ Char.ofNat 0xFEFF

private theorem skipSpace_cons (plain : isSpace c = false) : skipSpace (c :: s) = c :: s := by
  simp [skipSpace, plain]

private theorem skipSpace_append (blank : ∀ c ∈ blanks, isSpace c = true) :
    skipSpace (blanks ++ s) = skipSpace s :=
  List.dropWhile_append_of_pos blank

private theorem opens_of_isDigit (digit : isDigit c = true) : Opens c := by
  have other {d : Char} (sign : isDigit d = false) : c ≠ d := by
    rintro rfl
    exact absurd digit (by simp [sign])
  refine ⟨?_, other (by decide), other (by decide)⟩
  have blank : c ≠ ' ' ∧ c ≠ '\t' ∧ c ≠ '\n' ∧ c ≠ '\r' :=
    ⟨other (by decide), other (by decide), other (by decide), other (by decide)⟩
  simp [isSpace, blank]

private theorem writeNumber_int_cons (n : Int) :
    ∃ c s, writeNumber (.int n) = c :: s ∧ (isDigit c = true ∨ c = '-') := by
  rw [writeNumber_int]
  split
  · obtain ⟨d, ds, digits⟩ :=
      List.exists_cons_of_ne_nil (Nat.toDigits_ne_nil (b := 10) (n := n.natAbs))
    exact ⟨d, ds, digits, .inl (isDigit_of_mem_toDigits (digits ▸ List.mem_cons_self))⟩
  · exact ⟨_, _, rfl, .inr rfl⟩

theorem opens_writeNumber_int (n : Int) : ∃ c s, writeNumber (.int n) = c :: s ∧ Opens c := by
  obtain ⟨c, s, starts, digit | rfl⟩ := writeNumber_int_cons n
  · exact ⟨c, s, starts, opens_of_isDigit digit⟩
  · exact ⟨_, s, starts, by decide, by decide, by decide⟩

private theorem opens_writeChars (f : Format) (plain : Plain n v) :
    ∃ c s, writeChars f v = c :: s ∧ Opens c := by
  have opens : ∀ c ∈ ['n', 't', 'f', '"', '[', '{'], Opens c := by
    simp [Opens, isSpace]
  cases plain with
  | @int _ n short => exact opens_writeNumber_int n
  | bool b => cases b with | _ => exact ⟨_, _, rfl, opens _ (by simp)⟩
  | _ => exact ⟨_, _, rfl, opens _ (by simp)⟩

theorem writeItems_cons_cons (f : Format) (v w : Json) (others : List Json) :
    writeItems f (v :: w :: others) =
      writeChars f v ++ (f.betweenItems ++ writeItems f (w :: others)) := by
  rw [writeItems, List.append_assoc]
  nofun

private theorem writeMembers_cons_cons (f : Format) (p q : String × Json)
    (others : List (String × Json)) :
    writeMembers f (p :: q :: others) = '"' :: ((Text.codes p.1).flatMap (writePoint f) ++ '"' ::
      (f.afterName ++ (writeChars f p.2 ++ (f.betweenItems ++ writeMembers f (q :: others))))) := by
  obtain ⟨name, v⟩ := p
  rw [writeMembers, writeString]
  · simp
  · nofun

private theorem writeMembers_singleton (f : Format) (p : String × Json) :
    writeMembers f [p] = '"' :: ((Text.codes p.1).flatMap (writePoint f) ++ '"' ::
      (f.afterName ++ writeChars f p.2)) := by
  obtain ⟨name, v⟩ := p
  simp [writeMembers, writeString]

private theorem opens_writeItems (f : Format) (plain : Plain n v) (others : List Json) :
    ∃ c s, writeItems f (v :: others) = c :: s ∧ Opens c := by
  obtain ⟨c, s, starts, opens⟩ := opens_writeChars f plain
  cases others with
  | nil => exact ⟨c, s, starts, opens⟩
  | cons w others =>
    refine ⟨c, s ++ (f.betweenItems ++ writeItems f (w :: others)), ?_, opens⟩
    rw [writeItems_cons_cons, starts, List.cons_append]

theorem writeMembers_cons (f : Format) (p : String × Json) (others : List (String × Json)) :
    ∃ s, writeMembers f (p :: others) = '"' :: s := by
  cases others with
  | nil => exact ⟨_, writeMembers_singleton f p⟩
  | cons q others => exact ⟨_, writeMembers_cons_cons f p q others⟩

end Starts

section Parts

/-- A value at the start of a text is read as what it was written for. -/
def Reads (f : Format) (rules : Rules) (n : Nat) (v : Json) : Prop :=
  ∀ (fuel depth : Nat) (rest : List Char), depth + n ≤ rules.depth →
    2 * (writeChars f v).length ≤ fuel + 1 → Parted rest →
      readValue rules fuel depth (writeChars f v ++ rest) = .ok (v, rest)

private theorem parted_cons (closes : c = ',' ∨ c = ']' ∨ c = '}') : Parted (c :: rest) := by
  rintro d same
  obtain rfl := Option.some.inj same
  rcases closes with rfl | rfl | rfl
  all_goals decide

private theorem readItems_writeItems (separates : f.Separates) {items : List Json}
    (some : items ≠ []) (plain : ∀ v ∈ items, Plain n v) (reads : ∀ v ∈ items, Reads f rules n v)
    (deep : depth + n ≤ rules.depth) (enough : 2 * (writeItems f items).length ≤ fuel) :
    readItems rules fuel depth (writeItems f items ++ ']' :: rest) = .ok (items, rest) := by
  obtain ⟨blanks, comma, blank⟩ := separates.items
  induction items generalizing fuel with
  | nil => exact absurd rfl some
  | cons v others ih =>
    obtain ⟨c, s, starts, -⟩ := opens_writeItems f (plain v List.mem_cons_self) others
    obtain ⟨fuel, rfl⟩ : ∃ k, fuel = k + 1 := ⟨fuel - 1, by simp [starts] at enough; omega⟩
    cases others with
    | nil =>
      simp only [writeItems] at enough ⊢
      rw [readItems, reads v List.mem_cons_self fuel depth _ deep enough
        (parted_cons (.inr (.inl rfl)))]
      simp [skipSpace_cons (show isSpace ']' = false by decide)]
    | cons w others =>
      obtain ⟨d, t, next, opens⟩ := opens_writeItems f (plain w (by simp)) others
      rw [writeItems_cons_cons, comma] at enough ⊢
      simp only [List.length_append, List.length_cons] at enough
      have left : 2 * (writeItems f (w :: others)).length ≤ fuel := by omega
      have more := ih (List.cons_ne_nil w others) (fun v member => plain v (by simp [member]))
        (fun v member => reads v (by simp [member])) left
      simp only [List.cons_append, List.append_assoc]
      rw [readItems, reads v List.mem_cons_self fuel depth _ deep (by omega)
        (parted_cons (.inl rfl))]
      simp only [skipSpace_cons (show isSpace ',' = false by decide), skipSpace_append blank]
      rw [next, List.cons_append, skipSpace_cons opens.1, ← List.cons_append, ← next, more]
      rfl

section Members

variable {p : String × Json} {others : List (String × Json)}

private theorem skip_name (separates : f.Separates) (starts : writeChars f v = c :: s)
    (opens : Opens c) (rest : List Char) : ∃ gap, f.afterName = ':' :: gap ∧
      skipSpace (gap ++ (writeChars f v ++ rest)) = writeChars f v ++ rest := by
  obtain ⟨gap, colon, blank⟩ := separates.names
  refine ⟨gap, colon, ?_⟩
  rw [skipSpace_append blank, starts, List.cons_append, skipSpace_cons opens.1]

private theorem readMembers_cons_cons (separates : f.Separates) {q : String × Json}
    (name : Text.IsWhole p.1) (plain : Plain n p.2) (reads : Reads f rules n p.2)
    (deep : depth + n ≤ rules.depth) (enough : 2 * (writeChars f p.2).length ≤ fuel + 1) :
    readMembers rules (fuel + 1) depth (writeMembers f (p :: q :: others) ++ '}' :: rest) =
      (readMembers rules fuel depth (writeMembers f (q :: others) ++ '}' :: rest)).map
        fun r => (p :: r.1, r.2) := by
  obtain ⟨blanks, comma, blank⟩ := separates.items
  obtain ⟨c, t, starts, opens⟩ := opens_writeChars f plain
  obtain ⟨u, next⟩ := writeMembers_cons f q others
  obtain ⟨gap, colon, skip⟩ := skip_name separates starts opens
    (',' :: (blanks ++ (writeMembers f (q :: others) ++ '}' :: rest)))
  rw [writeMembers_cons_cons, colon, comma]
  simp only [List.cons_append, List.append_assoc]
  rw [readMembers, readString_writeString rules name]
  simp only [skipSpace_cons (show isSpace ':' = false by decide), skip]
  rw [reads fuel depth _ deep enough (parted_cons (.inl rfl))]
  simp only [skipSpace_cons (show isSpace ',' = false by decide), skipSpace_append blank]
  rw [next, List.cons_append, skipSpace_cons (show isSpace '"' = false by decide)]

private theorem readMembers_singleton (separates : f.Separates)
    (name : Text.IsWhole p.1) (plain : Plain n p.2) (reads : Reads f rules n p.2)
    (deep : depth + n ≤ rules.depth) (enough : 2 * (writeChars f p.2).length ≤ fuel + 1) :
    readMembers rules (fuel + 1) depth (writeMembers f [p] ++ '}' :: rest) = .ok ([p], rest) := by
  obtain ⟨c, t, starts, opens⟩ := opens_writeChars f plain
  obtain ⟨gap, colon, skip⟩ := skip_name separates starts opens ('}' :: rest)
  rw [writeMembers_singleton, colon]
  simp only [List.cons_append, List.append_assoc]
  rw [readMembers, readString_writeString rules name]
  simp only [skipSpace_cons (show isSpace ':' = false by decide), skip]
  rw [reads fuel depth _ deep enough (parted_cons (.inr (.inr rfl)))]
  simp [skipSpace_cons (show isSpace '}' = false by decide)]

private theorem readMembers_writeMembers (separates : f.Separates) {members : List (String × Json)}
    (some : members ≠ []) (names : ∀ p ∈ members, Text.IsWhole p.1)
    (plain : ∀ p ∈ members, Plain n p.2) (reads : ∀ p ∈ members, Reads f rules n p.2)
    (deep : depth + n ≤ rules.depth) (enough : 2 * (writeMembers f members).length ≤ fuel) :
    readMembers rules fuel depth (writeMembers f members ++ '}' :: rest) = .ok (members, rest) := by
  induction members generalizing fuel with
  | nil => exact absurd rfl some
  | cons p others ih =>
    obtain ⟨s, quote⟩ := writeMembers_cons f p others
    obtain ⟨fuel, rfl⟩ : ∃ k, fuel = k + 1 := ⟨fuel - 1, by simp [quote] at enough; omega⟩
    have name := names p List.mem_cons_self
    have value := plain p List.mem_cons_self
    cases others with
    | nil =>
      rw [writeMembers_singleton] at enough
      simp only [List.length_append, List.length_cons] at enough
      exact readMembers_singleton separates name value (reads p List.mem_cons_self) deep (by omega)
    | cons q others =>
      rw [writeMembers_cons_cons] at enough
      simp only [List.length_append, List.length_cons] at enough
      rw [readMembers_cons_cons separates name value (reads p List.mem_cons_self) deep (by omega),
        ih (List.cons_ne_nil q others) (fun p member => names p (by simp [member]))
          (fun p member => plain p (by simp [member]))
          (fun p member => reads p (by simp [member])) (by omega)]
      rfl

/-- A value at the start of a text is refused, whatever comes after it. -/
def Refuses (f : Format) (rules : Rules) (depth : Nat) (v : Json) : Prop :=
  ∀ (fuel : Nat) (rest : List Char), Parted rest →
    ∃ stop, readValue rules (fuel + 1) depth (writeChars f v ++ rest) = .error stop

private theorem readMembers_refused_cons (separates : f.Separates) (name : Text.IsWhole p.1)
    (starts : writeChars f p.2 = c :: s) (opens : Opens c) (refuses : Refuses f rules depth p.2) :
    ∃ stop, readMembers rules (fuel + 2) depth (writeMembers f (p :: others) ++ '}' :: rest) =
      .error stop := by
  obtain ⟨blanks, comma, -⟩ := separates.items
  -- What comes after the value parts it from the rest, be it a comma or the end.
  obtain ⟨tail, parted, text⟩ : ∃ tail, Parted tail ∧
      writeMembers f (p :: others) ++ '}' :: rest =
        '"' :: ((Text.codes p.1).flatMap (writePoint f) ++
        '"' :: (f.afterName ++ (writeChars f p.2 ++ tail))) := by
    cases others with
    | nil =>
      exact ⟨'}' :: rest, parted_cons (.inr (.inr rfl)), by simp [writeMembers_singleton]⟩
    | cons q others =>
      exact ⟨',' :: (blanks ++ (writeMembers f (q :: others) ++ '}' :: rest)),
        parted_cons (.inl rfl), by simp [writeMembers_cons_cons, comma]⟩
  obtain ⟨gap, colon, skip⟩ := skip_name separates starts opens tail
  obtain ⟨stop, refused⟩ := refuses fuel tail parted
  refine ⟨stop, ?_⟩
  rw [text, colon, readMembers, readString_writeString rules name]
  simp only [List.cons_append, skipSpace_cons (show isSpace ':' = false by decide), skip, refused]

private theorem readMembers_refused (separates : f.Separates) (before : List (String × Json))
    (names : ∀ q ∈ before, Text.IsWhole q.1) (plain : ∀ q ∈ before, Plain n q.2)
    (reads : ∀ q ∈ before, Reads f rules n q.2) (name : Text.IsWhole p.1)
    (starts : writeChars f p.2 = c :: s) (opens : Opens c) (refuses : Refuses f rules depth p.2)
    (deep : depth + n ≤ rules.depth)
    (enough : 2 * (writeMembers f (before ++ p :: others)).length ≤ fuel) :
    ∃ stop, readMembers rules fuel depth (writeMembers f (before ++ p :: others) ++ '}' :: rest) =
      .error stop := by
  induction before generalizing fuel with
  | nil =>
    obtain ⟨t, quote⟩ := writeMembers_cons f p others
    obtain ⟨fuel, rfl⟩ : ∃ k, fuel = k + 2 := ⟨fuel - 2, by simp [quote] at enough; omega⟩
    exact readMembers_refused_cons separates name starts opens refuses
  | cons q before ih =>
    obtain ⟨r, rest', next⟩ : ∃ r rest', before ++ p :: others = r :: rest' :=
      List.exists_cons_of_ne_nil (by simp)
    rw [List.cons_append, next, writeMembers_cons_cons] at enough
    simp only [List.length_append, List.length_cons] at enough
    obtain ⟨fuel, rfl⟩ : ∃ k, fuel = k + 1 := ⟨fuel - 1, by omega⟩
    obtain ⟨stop, refused⟩ := ih (fun q member => names q (by simp [member]))
      (fun q member => plain q (by simp [member])) (fun q member => reads q (by simp [member]))
      (show 2 * (writeMembers f (before ++ p :: others)).length ≤ fuel by rw [next]; omega)
    refine ⟨stop, ?_⟩
    rw [next] at refused
    rw [List.cons_append, next, readMembers_cons_cons separates (names q List.mem_cons_self)
      (plain q List.mem_cons_self) (reads q List.mem_cons_self) deep (by omega), refused]
    rfl

end Members

end Parts

section Values

private theorem readValue_scalar (other : c ≠ '"' ∧ c ≠ '[' ∧ c ≠ '{')
    (read : readScalar (c :: s) = some (v, rest)) :
    readValue rules (fuel + 1) depth (c :: s) =
      match rules.excess? (c :: s) v with
      | some digits => .error ⟨.hugeInteger digits, (c :: s).length⟩
      | none => .ok (v, rest) := by
  rw [readValue]
  · cases excess : rules.excess? (c :: s) v with
    | _ => simp only [read, excess]
  all_goals
    rintro s same
    cases same
    simp at other

private theorem readValue_int (n : Int) (parted : Parted rest) :
    readValue rules (fuel + 1) depth (writeNumber (.int n) ++ rest) =
      if n.natAbs < 10 ^ digitLimit then .ok (.num (.int n), rest)
      else .error ⟨.hugeInteger (Nat.toDigits 10 n.natAbs).length,
        (writeNumber (.int n) ++ rest).length⟩ := by
  obtain ⟨c, s, starts, opens⟩ := writeNumber_int_cons n
  have other : c ≠ '"' ∧ c ≠ '[' ∧ c ≠ '{' := by
    refine ⟨?_, ?_, ?_⟩
    all_goals
      rintro rfl
      exact absurd opens (by decide)
  have read := readScalar_int parted n
  have digits : (Nat.toDigits 10 n.natAbs).length ≤ digitLimit ↔ n.natAbs < 10 ^ digitLimit :=
    Nat.length_toDigits_le_iff (by decide) (by decide)
  have excess : rules.excess? (writeNumber (.int n) ++ rest) (.num (.int n)) =
      if n.natAbs < 10 ^ digitLimit then none else some (Nat.toDigits 10 n.natAbs).length := by
    simp only [Rules.excess?, wholeLength_int parted, Bool.true_and, decide_eq_true_eq, ← digits,
      ← Nat.not_le, ite_not]
  rw [starts, List.cons_append] at read excess ⊢
  rw [readValue_scalar other read, excess]
  by_cases short : n.natAbs < 10 ^ digitLimit
  · simp only [if_pos short]
  · simp only [if_neg short]

private theorem reads_int {n : Int} (short : n.natAbs < 10 ^ digitLimit) (depth : Nat) :
    Reads f rules depth (.num (.int n)) := by
  intro fuel depth rest deep enough parted
  rw [writeChars] at enough ⊢
  obtain ⟨c, s, starts, -⟩ := writeNumber_int_cons n
  obtain ⟨fuel, rfl⟩ : ∃ k, fuel = k + 1 := ⟨fuel - 1, by simp [starts] at enough; omega⟩
  rw [readValue_int n parted, if_pos short]

private theorem reads_bool (b : Bool) (depth : Nat) : Reads f rules depth (.bool b) := by
  intro fuel depth rest deep enough parted
  obtain ⟨fuel, rfl⟩ : ∃ k, fuel = k + 1 :=
    ⟨fuel - 1, by cases b with | _ => simp [writeChars] at enough; omega⟩
  cases b with
  | _ =>
    refine (readValue_scalar (by decide) rfl).trans ?_
    simp [Rules.excess?, wholeLength, readWhole, isDigit]

private theorem reads_str {s : String} (whole : Text.IsWhole s) (depth : Nat) :
    Reads f rules depth (.str s) := by
  intro fuel depth rest deep enough parted
  obtain ⟨fuel, rfl⟩ : ∃ k, fuel = k + 1 :=
    ⟨fuel - 1, by simp [writeChars, writeString] at enough; omega⟩
  rw [writeChars, writeString, List.cons_append, List.cons_append, List.append_assoc,
    List.singleton_append, readValue, readString_writeString rules whole]
  rfl

private theorem allows_of_le (deep : depth + (n + 1) ≤ rules.depth) (isEmpty : Bool) :
    rules.allows depth isEmpty = true := by
  simp [Rules.allows, show depth < rules.depth by omega]

private theorem reads_arr (separates : f.Separates) {items : List Json}
    (plain : ∀ v ∈ items, Plain n v) (reads : ∀ v ∈ items, Reads f rules n v) :
    Reads f rules (n + 1) (.arr items) := by
  intro fuel depth rest deep enough parted
  obtain ⟨fuel, rfl⟩ : ∃ k, fuel = k + 1 := ⟨fuel - 1, by simp [writeChars] at enough; omega⟩
  rw [writeChars] at enough ⊢
  simp only [List.length_append, List.length_cons, List.length_nil] at enough
  simp only [List.cons_append, List.append_assoc, List.nil_append]
  cases items with
  | nil =>
    rw [writeItems, List.nil_append, readValue,
      skipSpace_cons (show isSpace ']' = false by decide)]
    simp [allows_of_le deep]
  | cons v others =>
    obtain ⟨c, s, starts, opens⟩ := opens_writeItems f (plain v List.mem_cons_self) others
    have inner : depth + 1 + n ≤ rules.depth := by omega
    have left : 2 * (writeItems f (v :: others)).length ≤ fuel := by omega
    have read : readItems rules fuel (depth + 1) (writeItems f (v :: others) ++ ']' :: rest) =
        .ok (v :: others, rest) :=
      readItems_writeItems separates (List.cons_ne_nil v others) plain reads inner left
    rw [starts, List.cons_append] at read ⊢
    rw [readValue, skipSpace_cons opens.1]
    split
    case h_1 rest' closed => exact absurd (List.cons.inj closed).1 opens.2.1
    case h_2 => simp [allows_of_le deep, read, Except.map]

private theorem reads_obj (separates : f.Separates) {members : List (String × Json)}
    (distinct : (Members.names members).Nodup) (names : ∀ p ∈ members, Text.IsWhole p.1)
    (plain : ∀ p ∈ members, Plain n p.2) (reads : ∀ p ∈ members, Reads f rules n p.2) :
    Reads f rules (n + 1) (.obj members) := by
  intro fuel depth rest deep enough parted
  obtain ⟨fuel, rfl⟩ : ∃ k, fuel = k + 1 := ⟨fuel - 1, by simp [writeChars] at enough; omega⟩
  rw [writeChars] at enough ⊢
  simp only [List.length_append, List.length_cons, List.length_nil] at enough
  simp only [List.cons_append, List.append_assoc, List.nil_append]
  cases members with
  | nil =>
    rw [writeMembers, List.nil_append, readValue,
      skipSpace_cons (show isSpace '}' = false by decide)]
    simp [allows_of_le deep]
  | cons p others =>
    obtain ⟨s, starts⟩ := writeMembers_cons f p others
    have inner : depth + 1 + n ≤ rules.depth := by omega
    have left : 2 * (writeMembers f (p :: others)).length ≤ fuel := by omega
    have read : readMembers rules fuel (depth + 1) (writeMembers f (p :: others) ++ '}' :: rest) =
        .ok (p :: others, rest) :=
      readMembers_writeMembers separates (List.cons_ne_nil p others) names plain reads inner left
    rw [starts, List.cons_append] at read ⊢
    rw [readValue, skipSpace_cons (show isSpace '"' = false by decide)]
    simp [allows_of_le deep, read, Except.map, Members.ofPairs_of_nodup distinct]

/-- Whatever is written without loss is read back, before anything that parts it from what
follows. -/
private theorem reads_of_plain (separates : f.Separates) (plain : Plain n v) :
    Reads f rules n v := by
  induction plain with
  | null =>
    intro fuel depth rest deep enough parted
    obtain ⟨fuel, rfl⟩ : ∃ k, fuel = k + 1 := ⟨fuel - 1, by simp [writeChars] at enough; omega⟩
    refine (readValue_scalar (by decide) rfl).trans ?_
    simp [Rules.excess?, wholeLength, readWhole, isDigit]
  | bool b => exact reads_bool b _
  | int short => exact reads_int short _
  | str whole => exact reads_str whole _
  | arr plain ih => exact reads_arr separates plain ih
  | obj distinct names plain ih => exact reads_obj separates distinct names plain ih

theorem refuses_int {n : Int} (long : 10 ^ digitLimit ≤ n.natAbs) :
    Refuses f rules depth (.num (.int n)) := fun _ _ parted =>
  ⟨_, (readValue_int n parted).trans (if_neg (Nat.not_lt.2 long))⟩

private theorem readChars_writeChars (separates : f.Separates) (plain : Plain n v)
    (deep : n ≤ rules.depth) : readChars rules (writeChars f v) = .ok v := by
  obtain ⟨c, s, starts, space, -, mark⟩ := opens_writeChars f plain
  have reads : Reads f rules n v := reads_of_plain separates plain
  have read := reads (2 * (writeChars f v).length + 2) 0 [] (by omega) (by omega) nofun
  rw [List.append_nil, starts] at read
  rw [readChars, starts, if_neg (by simpa using mark), skipSpace_cons space, read]
  rfl

theorem readChars_refused (separates : f.Separates) {before others : List (String × Json)}
    {p : String × Json} (names : ∀ q ∈ before, Text.IsWhole q.1) (name : Text.IsWhole p.1)
    (plain : ∀ q ∈ before, Plain n q.2) (starts : writeChars f p.2 = c :: s) (opens : Opens c)
    (refuses : Refuses f rules 1 p.2) (deep : 1 + n ≤ rules.depth) :
    ∃ stop, readChars rules (writeChars f (.obj (before ++ p :: others))) = .error stop := by
  obtain ⟨q, rest, members⟩ : ∃ q rest, before ++ p :: others = q :: rest :=
    List.exists_cons_of_ne_nil (by simp)
  obtain ⟨t, quote⟩ := writeMembers_cons f q rest
  have text : writeChars f (.obj (before ++ p :: others)) = '{' :: '"' :: (t ++ ['}']) := by
    rw [writeChars, members, quote]
    rfl
  obtain ⟨k, fuel⟩ : ∃ k, k = 2 * (writeChars f (.obj (before ++ p :: others))).length + 1 :=
    ⟨_, rfl⟩
  have enough : 2 * (writeMembers f (before ++ p :: others)).length ≤ k := by
    rw [fuel, writeChars]
    simp only [List.length_append, List.length_cons]
    omega
  obtain ⟨stop, refused⟩ : ∃ stop, readMembers rules k 1
      (writeMembers f (before ++ p :: others) ++ ['}']) = .error stop :=
    readMembers_refused separates before names plain
      (fun q member => reads_of_plain separates (plain q member)) name starts opens refuses deep
      enough
  refine ⟨stop, ?_⟩
  rw [members, quote, List.cons_append] at refused
  rw [readChars, show 2 * (writeChars f (.obj (before ++ p :: others))).length + 2 = k + 1 by omega,
    text, if_neg (by simp only [List.head?_cons, Option.some.injEq]; decide),
    skipSpace_cons (show isSpace '{' = false by decide), readValue,
    skipSpace_cons (show isSpace '"' = false by decide)]
  simp [allows_of_le (show 0 + (n + 1) ≤ rules.depth by omega), refused, Except.map]

theorem parse_write [Nesting] (separates : f.Separates) (plain : Plain n v)
    (deep : n ≤ Nesting.limit) :
    parse (write f v) = .ok v := by
  rw [parse, write, Text.chars_ofChars, readChars_writeChars separates plain deep]

theorem parseStrict?_write (separates : f.Separates) (plain : Plain n v) (deep : n ≤ 200) :
    parseStrict? (write f v) = some v := by
  rw [parseStrict?, write, Codec.utf8_defect?_ofChars, Text.chars_ofChars,
    readChars_writeChars separates plain deep]
  rfl

end Values

end LocatorHealing.Json
