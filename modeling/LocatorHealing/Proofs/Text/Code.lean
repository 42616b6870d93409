import LocatorHealing.Text.Codec

set_option autoImplicit false
set_option relaxedAutoImplicit false

/-!
Characters that are neither the mark nor a stand-in part a spelling from what follows: what stands
before one and what stands behind it spell texts of their own.
-/

namespace LocatorHealing

namespace CodePoint

/-- A character that spells itself wherever it stands, and nothing else. -/
def IsPlain (c : Char) : Prop :=
  c ≠ mark ∧ standsFor? c = none

theorem isPlain_of_lt {c : Char} (low : c.toNat < 0x10D800) : IsPlain c := by
  constructor
  · rintro rfl
    have image : mark.toNat = 0x10FFFF := rfl
    omega
  · rw [standsFor?, dif_neg (by omega)]

variable {c : Char} {s t : List Char}

section Parting

variable (plain : IsPlain c)
include plain

private theorem isMarked_append_cons (s t : List Char) : isMarked (s ++ c :: t) = isMarked s := by
  induction s with
  | nil =>
    change (if c = mark then isMarked t else (standsFor? c).isSome) = false
    rw [if_neg plain.1, plain.2]
    rfl
  | cons d s ih =>
    rw [List.cons_append, isMarked, isMarked, ih]

private theorem read_plain_cons (t : List Char) : read (c :: t) = .char c :: read t :=
  read_cons fun marks => plain.1 marks.1

private theorem read_append_cons (s t : List Char) :
    read (s ++ c :: t) = read s ++ .char c :: read t := by
  induction s using read.induct with
  | case1 => exact read_plain_cons plain t
  | case2 d =>
    have alone : ¬(d = mark ∧ isMarked (c :: t) = true) := by
      rw [show isMarked (c :: t) = false from isMarked_append_cons plain [] t]
      exact fun marks => Bool.false_ne_true marks.2
    rw [List.singleton_append, read_cons alone, read_plain_cons plain]
    rfl
  | case3 d e s marks ih =>
    have marks' : isMarked (e :: (s ++ c :: t)) = true :=
      (isMarked_append_cons plain (e :: s) t).trans marks.2
    rw [List.cons_append, List.cons_append, marks.1, read_marked marks', ih, read_marked marks.2]
    rfl
  | case4 d e s alone ih =>
    have alone' : ¬(d = mark ∧ isMarked ((e :: s) ++ c :: t) = true) := by
      rwa [isMarked_append_cons plain]
    rw [List.cons_append, read_cons alone', ih, read_cons alone]
    rfl

theorem spell_append_cons (a b : List CodePoint) :
    spell (a ++ .char c :: b) = spell a ++ c :: spell b := by
  have parts := read_append_cons plain (spell a) (spell b)
  rw [read_spell, read_spell] at parts
  rw [← parts, spell_read]

end Parting

private theorem read_plain_append (plain : ∀ c ∈ s, IsPlain c) (t : List Char) :
    read (s ++ t) = s.map .char ++ read t := by
  induction s with
  | nil => rfl
  | cons c s ih =>
    obtain ⟨first, others⟩ := List.forall_mem_cons.1 plain
    rw [List.cons_append, read_plain_cons first, ih others]
    rfl

private theorem read_plain (plain : ∀ c ∈ s, IsPlain c) : read s = s.map .char := by
  have whole := read_plain_append plain []
  rwa [List.append_nil, read, List.append_nil] at whole

private theorem mem_of_mem_read (there : .char c ∈ read s) : c ∈ s := by
  induction s using read.induct with
  | case1 => cases there
  | case2 d => simpa [read] using there
  | case3 d e s marks ih =>
    rw [marks.1, read_marked marks.2] at there
    rcases List.mem_cons.1 there with same | there
    · have same' : c = e := by
        unfold marked at same
        cases stands : standsFor? e with
        | none => simpa [stands] using same
        | some k => simp [stands] at same
      simp [same']
    · exact List.mem_cons_of_mem _ (List.mem_cons_of_mem _ (ih there))
  | case4 d e s alone ih =>
    rw [read_cons alone] at there
    rcases List.mem_cons.1 there with same | there
    · simp [CodePoint.char.inj same]
    · exact List.mem_cons_of_mem _ (ih there)

theorem mem_read_iff (plain : IsPlain c) : .char c ∈ read s ↔ c ∈ s := by
  refine ⟨mem_of_mem_read, fun there => ?_⟩
  obtain ⟨before, behind, rfl⟩ := List.append_of_mem there
  rw [read_append_cons plain]
  simp

section Replacing

/-- A way to replace characters that leaves marks and stand-ins as they are, and puts none in. -/
structure Replaces (f : Char → List Char) : Prop where
  own : ∀ c, ¬IsPlain c → f c = [c]
  some : ∀ c, IsPlain c → f c ≠ []
  plain : ∀ c, IsPlain c → ∀ d ∈ f c, IsPlain d

variable {f : Char → List Char} (replaces : Replaces f)
include replaces

private theorem isMarked_flatMap (s : List Char) : isMarked (s.flatMap f) = isMarked s := by
  induction s with
  | nil => rfl
  | cons c s ih =>
    by_cases plain : IsPlain c
    · obtain ⟨d, ds, parts⟩ := List.exists_cons_of_ne_nil (replaces.some c plain)
      have first : IsPlain d := replaces.plain c plain d (parts ▸ List.mem_cons_self)
      rw [List.flatMap_cons, parts, List.cons_append]
      exact (isMarked_append_cons first [] _).trans (isMarked_append_cons plain [] s).symm
    · rw [List.flatMap_cons, replaces.own c plain, List.singleton_append, isMarked, isMarked, ih]

/-- What is replaced in a spelling is replaced in the text. -/
theorem read_flatMap (s : List Char) :
    read (s.flatMap f) =
      (read s).flatMap fun point => point.char?.elim [point] fun c => (f c).map .char := by
  have first {c : Char} (plain : IsPlain c) (t : List Char) :
      read (f c ++ t) = (f c).map .char ++ read t :=
    read_plain_append (replaces.plain c plain) t
  induction s using read.induct with
  | case1 => rfl
  | case2 c =>
    by_cases plain : IsPlain c
    · rw [List.flatMap_cons, List.flatMap_nil, first plain]
      exact (List.append_nil _).trans (List.append_nil _).symm
    · simp [replaces.own c plain, read, char?]
  | case3 c d s marks ih =>
    have other : ¬IsPlain d := by
      intro plain
      have unmarked := isMarked_append_cons plain [] s
      rw [List.nil_append, marks.2] at unmarked
      cases unmarked
    have own : f mark = [mark] := replaces.own mark fun plain => plain.1 rfl
    have marks' : isMarked (d :: s.flatMap f) = true := by
      have same := isMarked_flatMap replaces (d :: s)
      rwa [List.flatMap_cons, replaces.own d other, marks.2] at same
    have lifted : (marked d).char?.elim [marked d] (fun c => (f c).map .char) = [marked d] := by
      unfold marked
      cases standsFor? d with
      | none => simp [char?, replaces.own d other]
      | some k => rfl
    have parts : (mark :: d :: s).flatMap f = mark :: d :: s.flatMap f := by
      rw [List.flatMap_cons, List.flatMap_cons, own, replaces.own d other]
      rfl
    rw [marks.1, parts, read_marked marks', read_marked marks.2, List.flatMap_cons, lifted, ← ih]
    rfl
  | case4 c d s alone ih =>
    rw [read_cons alone, List.flatMap_cons (x := CodePoint.char c), ← ih, List.flatMap_cons]
    by_cases plain : IsPlain c
    · exact first plain _
    · have alone' : ¬(c = mark ∧ isMarked ((d :: s).flatMap f) = true) := by
        rwa [isMarked_flatMap replaces]
      rw [replaces.own c plain, List.singleton_append, read_cons alone']
      simp [char?, replaces.own c plain]

end Replacing

def Whole (s : List Char) : Prop :=
  ∀ point ∈ read s, point.half? = none

theorem whole_append_cons (plain : IsPlain c) : Whole (s ++ c :: t) ↔ Whole s ∧ Whole t := by
  simp only [Whole, read_append_cons plain, List.forall_mem_append, List.forall_mem_cons]
  exact and_congr_right fun _ => and_iff_right rfl

theorem whole_plain_append (plain : ∀ c ∈ s, IsPlain c) : Whole (s ++ t) ↔ Whole t := by
  simp only [Whole, read_plain_append plain, List.forall_mem_append, List.forall_mem_map]
  exact and_iff_right fun _ _ => rfl

private theorem head?_before (c : Char) (s : List Char) : (before (.char c) s).head? = some c := by
  by_cases marks : c = mark ∧ isMarked s = true
  · rw [before, if_pos marks, marks.1]
    rfl
  · rw [before, if_neg marks]
    rfl

private theorem exists_read_cons (c : Char) (s : List Char) :
    ∃ point rest, read (c :: s) = point :: rest ∧ (∀ t, (before point t).head? = some c) ∧
      ∀ d ∈ point.char?, d = c := by
  by_cases marks : c = mark ∧ isMarked s = true
  · obtain ⟨rfl, marks⟩ := marks
    cases s with
    | nil => cases marks
    | cons d s =>
      refine ⟨marked d, read s, read_marked marks, ?_⟩
      cases stands : standsFor? d with
      | some k =>
        rw [marked, stands]
        exact ⟨fun t => rfl, fun d none => absurd none (Option.not_mem_none d)⟩
      | none =>
        obtain rfl : d = mark := Decidable.byContradiction fun other => by
          rw [isMarked, if_neg other, stands] at marks
          cases marks
        rw [marked_mark]
        exact ⟨head?_before mark, fun d same => (Option.some.inj same).symm⟩
  · exact ⟨.char c, read s, read_cons marks, head?_before c,
      fun d same => (Option.some.inj same).symm⟩

end CodePoint

namespace Text

open CodePoint

variable {p : Char → Bool} {c : Char} {s t : List Char}

theorem isWhole_iff {s : String} : IsWhole s ↔ Whole s.toList := by
  rw [← Codec.utf8_defect?_eq_none_iff, Codec.defect?_eq_none_iff]
  simp [Codec.takes, Whole, codes]

private theorem codes_ofList (plain : ∀ c ∈ s, IsPlain c) :
    codes (String.ofList s) = s.map .char := by
  rw [codes, String.toList_ofList, read_plain plain]

theorem ofChars_plain (plain : ∀ c ∈ s, IsPlain c) : ofChars s = String.ofList s := by
  rw [ofChars, ← codes_ofList plain, ofCodes_codes]

theorem codes_plain_append {a : String} (plain : ∀ c ∈ a.toList, IsPlain c) (b : String) :
    codes (a ++ b) = a.toList.map .char ++ codes b := by
  rw [codes, String.toList_append, read_plain_append plain, codes]

theorem codes_parted {between : String} (one : between.toList = [c]) (plain : IsPlain c)
    (a b : String) : codes (a ++ between ++ b) = codes a ++ .char c :: codes b := by
  rw [codes, String.toList_append, String.toList_append, one, List.append_assoc,
    List.singleton_append, read_append_cons plain, codes, codes]

theorem without_append_cons (plain : IsPlain c) (kept : p c = false) :
    without p (s ++ c :: t) = without p s ++ c :: without p t := by
  unfold without
  rw [read_append_cons plain, List.filter_append, List.filter_cons_of_pos (by simp [char?, kept]),
    spell_append_cons plain]

theorem without_eq_self (none : ∀ c ∈ s, p c = false) : without p s = s := by
  have all : (read s).filter (fun point => !point.char?.any p) = read s := by
    refine List.filter_eq_self.2 fun point there => ?_
    cases point with
    | half k => rfl
    | char c => simp [char?, none c (mem_of_mem_read there)]
  rw [without, all, spell_read]

theorem whole_without (whole : Whole s) (p : Char → Bool) : Whole (without p s) := by
  rw [Whole, without, read_spell]
  exact fun point there => whole point (List.mem_filter.1 there).1

theorem mem_without (plain : IsPlain c) : c ∈ without p s ↔ c ∈ s ∧ p c = false := by
  rw [← mem_read_iff plain, without, read_spell, List.mem_filter, mem_read_iff plain]
  simp [char?]

theorem head?_without (kept : p c = false) (s : List Char) :
    (without p (c :: s)).head? = some c := by
  obtain ⟨point, rest, reads, begins, named⟩ := exists_read_cons c s
  have keeps : (!point.char?.any p) = true := by
    cases h : point.char? with
    | none => rfl
    | some d => simp [named d h, kept]
  rw [without, reads, List.filter_cons, if_pos keeps]
  exact begins _

end Text

end LocatorHealing
