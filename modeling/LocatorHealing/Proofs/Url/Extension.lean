import LocatorHealing.Proofs.Url.Location

set_option autoImplicit false
set_option relaxedAutoImplicit false

/-!
A path put behind a URL. The scheme and the location of the longer text are those of the URL, but
its path is the one that was meant only if the URL ends with its own path: behind a query, a
fragment or parameters, the new path becomes a part of these, and slashes at the end of a text are
not trimmed off where a tab or a line break stands behind them.
-/

namespace LocatorHealing.Url

def trunk (rest : List Char) : List Char :=
  rest.takeWhile fun c => c != '?' && c != '#'

private theorem trunk_isPrefix (rest : List Char) : trunk rest <+: rest :=
  List.takeWhile_prefix _

private theorem path_of_split {s : String} {url : Url} (splits : split s = .ok url) :
    url.path.toList = (cutParameters url.scheme.toList (trunk (behind s.toList))).1 := by
  have cuts (rest : List Char) :
      (Text.cutFirst '?' (Text.cutFirst '#' rest).1).1 = trunk rest := by
    rw [Text.cutFirst_fst, Text.cutFirst_fst, List.takeWhile_takeWhile, trunk]
    congr 1
    funext c
    simp [bne, Bool.beq_eq_decide_eq]
  unfold split at splits
  dsimp only at splits
  split at splits
  · cases splits
  · split at splits
    · cases splits
    · cases splits
      simp only [String.toList_ofList]
      rw [cuts]
      rfl

private theorem split_congr {s s' : String} (same : significant s.toList = significant s'.toList) :
    split s = split s' := by
  unfold split
  rw [same]

section Trunk

variable {r t : List Char}

private theorem trunk_append_of_plain (plain : trunk r = r) : trunk (r ++ t) = r ++ trunk t := by
  unfold trunk at plain ⊢
  rw [List.takeWhile_append, if_pos (congrArg List.length plain)]

private theorem trunk_append_of_cut (cut : trunk r ≠ r) : trunk (r ++ t) = trunk r := by
  have short : ¬(trunk r).length = r.length := fun same =>
    cut ((trunk_isPrefix r).eq_of_length same)
  unfold trunk at short ⊢
  rw [List.takeWhile_append, if_neg short]

end Trunk

private theorem exists_cutParameters (scheme path : List Char) :
    ∃ rest, path = (cutParameters scheme path).1 ++ rest ∧ ∀ c ∈ rest.head?, c = ';' := by
  unfold cutParameters
  split
  case isFalse => exact ⟨[], (List.append_nil _).symm, nofun⟩
  case isTrue =>
    dsimp only
    split
    case h_2 => exact ⟨[], (List.append_nil _).symm, nofun⟩
    case h_1 name parameters cuts =>
      refine ⟨';' :: parameters, ?_, fun c first => (Option.some.inj first).symm⟩
      have segment := Text.eq_of_cutFirst cuts
      cases parts : Text.cutLast '/' path with
      | none => simpa [parts] using segment
      | some p =>
        obtain ⟨directory, last⟩ := p
        have ends : last = name ++ ';' :: parameters := by simpa [parts] using segment
        rw [Text.eq_of_cutLast parts, ends]
        simp

private theorem cutParameters_append {scheme r t : List Char} (slash : '/' ∈ t) (plain : ';' ∉ t) :
    cutParameters scheme (r ++ t) = (r ++ t, []) := by
  obtain ⟨directory, last, cuts, within⟩ := Text.cutLast_append (s := r) slash
  have none : Text.cutFirst ';' last = (last, none) :=
    Text.cutFirst_of_not_mem fun there => plain (within.subset there)
  unfold cutParameters
  split
  · simp [cuts, none]
  · rfl

/-- An absolute path that names something, without parameters, a query, a fragment or a blank at its
end. -/
structure IsSuffix (t : List Char) : Prop extends IsPath t where
  slash : '/' ∈ t
  names : ∃ c ∈ t, c ≠ '/'
  simple : ∀ c ∈ t, c ≠ ';' ∧ c ≠ '?' ∧ c ≠ '#'
  ends : ∀ c ∈ t.getLast?, Text.isBlank c = false

section Suffix

variable {r slashes t : List Char}

private theorem IsSuffix.trunk_eq (suffix : IsSuffix t) : trunk t = t := by
  refine List.takeWhile_eq_self_iff.2 fun c there => ?_
  obtain ⟨-, query, fragment⟩ := suffix.simple c there
  simp [query, fragment]

/-- The path of a longer text is the one that was meant just if the text ended with its path, and no
slash was left at its end. -/
private theorem path_append_iff (scheme : List Char) (all : ∀ c ∈ slashes, c = '/')
    (suffix : IsSuffix t) :
    let path := (cutParameters scheme (trunk (r ++ slashes))).1
    (cutParameters scheme (trunk (r ++ t))).1 = Text.dropRight (· == '/') path ++ t ↔
      path = r ++ slashes ∧ r.getLast? ≠ some '/' := by
  intro path
  obtain ⟨parameters, whole, semicolon⟩ := exists_cutParameters scheme (trunk (r ++ slashes))
  change trunk (r ++ slashes) = path ++ parameters at whole
  obtain ⟨trimmed, parts, slashed⟩ := Text.exists_dropRight (· == '/') path
  by_cases plain : trunk r = r
  case neg =>
    -- what is put behind the text is no part of the path
    have same : (cutParameters scheme (trunk (r ++ t))).1 = path := by
      change _ = (cutParameters scheme (trunk (r ++ slashes))).1
      rw [trunk_append_of_cut plain, trunk_append_of_cut plain]
    rw [trunk_append_of_cut plain] at whole
    rw [same]
    constructor
    · intro meant
      obtain rfl : trimmed = t := List.append_cancel_left (parts.symm.trans meant)
      obtain ⟨c, there, other⟩ := suffix.names
      exact absurd (beq_iff_eq.1 (slashed c there)) other
    · rintro ⟨ends, -⟩
      have longer : r <+: trunk r := by
        rw [whole, ends, List.append_assoc]
        exact List.prefix_append r _
      exact absurd (longer.eq_of_length_le (trunk_isPrefix r).length_le).symm plain
  case pos =>
    have grown : (cutParameters scheme (trunk (r ++ t))).1 = r ++ t := by
      rw [trunk_append_of_plain plain, suffix.trunk_eq,
        cutParameters_append suffix.slash fun there => (suffix.simple _ there).1 rfl]
    have trunks : trunk slashes = slashes := by
      refine List.takeWhile_eq_self_iff.2 fun c there => ?_
      rw [all c there]
      rfl
    rw [trunk_append_of_plain plain, trunks] at whole
    rw [grown, List.append_left_inj]
    constructor
    · intro meant
      have rest : slashes = trimmed ++ parameters := by
        rw [parts, ← meant, List.append_assoc] at whole
        exact List.append_cancel_left whole
      have none : parameters = [] := by
        cases parameters with
        | nil => rfl
        | cons c parameters =>
          have there : c ∈ slashes := by simp [rest]
          exact absurd ((all c there).symm.trans (semicolon c rfl)) (by decide)
      rw [none, List.append_nil] at whole
      refine ⟨whole.symm, fun last => ?_⟩
      have kept := Text.dropRight_eq_self_iff.1 (Text.dropRight_dropRight (· == '/') path)
      rw [← meant] at kept
      exact absurd (kept '/' last) (by decide)
    · rintro ⟨ends, last⟩
      rw [ends, Text.dropRight_append fun c there => beq_iff_eq.2 (all c there)]
      refine (Text.dropRight_eq_self_iff.2 fun c ends => ?_).symm
      exact beq_eq_false_iff_ne.2 fun slash => last (slash ▸ ends)

end Suffix

section Target

/-- Where there is a scheme, a text begins with its first letter, but for what does not count, and a
colon comes before any slash and any number sign. -/
private theorem exists_of_scheme {s : List Char} (scheme : (opening s).1 ≠ []) :
    ∃ lead c word after, s = lead ++ c :: (word ++ ':' :: after) ∧ (∀ d ∈ lead, d.toNat ≤ 32) ∧
      isLetter c = true ∧ ∀ d ∈ c :: word, d ≠ ':' ∧ d ≠ '/' ∧ d ≠ '#' := by
  obtain ⟨first, letters, after, cuts, letter, all⟩ : ∃ first letters after,
      Text.cutFirst ':' (significant s) = (first :: letters, some after) ∧
        isLetter first = true ∧ ∀ d ∈ first :: letters, isSchemeChar d = true := by
    unfold opening cutScheme at scheme
    dsimp only at scheme
    split at scheme
    · rename_i word rest cuts
      split at scheme
      · split at scheme
        case isTrue good =>
          rw [Bool.and_eq_true] at good
          exact ⟨_, _, _, cuts, good.1, List.all_eq_true.1 good.2⟩
        case isFalse => exact absurd rfl scheme
      · exact absurd rfl scheme
    · exact absurd rfl scheme
  have plain {d : Char} (low : d.toNat < 0x10D800) : CodePoint.IsPlain d :=
    CodePoint.isPlain_of_lt low
  have there : ':' ∈ s.dropWhile (·.toNat ≤ 32) := by
    have inside : ':' ∈ significant s := by simp [Text.eq_of_cutFirst cuts]
    exact ((Text.mem_without (plain (by decide))).1 inside).1
  obtain ⟨word, rest, body, absent⟩ := List.eq_append_cons_of_mem there
  -- the word of the scheme is what is kept of the word in the text
  have same : Text.without isIgnored word = first :: letters := by
    have cuts' : Text.cutFirst ':' (significant s) =
        (Text.without isIgnored word, some (Text.without isIgnored rest)) := by
      rw [significant, body, Text.without_append_cons (plain (by decide)) rfl]
      exact Text.cutFirst_append_cons fun inside =>
        absent ((Text.mem_without (plain (by decide))).1 inside).1
    exact (congrArg Prod.fst (cuts'.symm.trans cuts) :)
  cases word with
  | nil => cases same
  | cons c word =>
    have high : 32 < c.toNat := by
      have stops := List.head?_dropWhile_not (·.toNat ≤ 32) s
      rw [body] at stops
      simpa using stops
    obtain rfl : c = first := by
      have head := Text.head?_without (isIgnored_of_high high) word
      rw [same] at head
      exact (Option.some.inj head).symm
    refine ⟨s.takeWhile (·.toNat ≤ 32), c, word, rest, ?_, fun d inside => ?_, letter,
      fun d inside => ?_⟩
    · rw [← List.cons_append, ← body, List.takeWhile_append_dropWhile]
    · simpa using List.mem_takeWhile_imp inside
    · refine ⟨fun colon => absent (colon ▸ inside), ?_⟩
      have ofScheme (low : d.toNat < 0x10D800) (keeps : isIgnored d = false) :
          isSchemeChar d = true :=
        all d (same ▸ (Text.mem_without (plain low)).2 ⟨inside, keeps⟩)
      constructor
      all_goals
        rintro rfl
        exact absurd (ofScheme (by decide) rfl) (by decide)

private theorem significant_lead {lead : List Char} (low : ∀ d ∈ lead, d.toNat ≤ 32)
    (s : List Char) : significant (lead ++ s) = significant s := by
  unfold significant
  rw [List.dropWhile_append_of_pos fun d there => decide_eq_true (low d there)]

private theorem isBlank_of_isLetter {c : Char} (letter : isLetter c = true) :
    Text.isBlank c = false := by
  unfold isLetter at letter
  unfold Text.isBlank Text.isWhiteSpace
  simp only [Bool.or_eq_true, Bool.and_eq_true, decide_eq_true_eq] at letter
  simp only [Bool.or_eq_false_iff, Bool.and_eq_false_iff, decide_eq_false_iff_not,
    beq_eq_false_iff_ne]
  omega

private theorem hasScheme_append {word after : List Char} (some : word ≠ [])
    (plain : ∀ d ∈ word, d ≠ ':' ∧ d ≠ '/') : hasScheme (word ++ ':' :: after) = true := by
  unfold hasScheme
  rw [Text.cutFirst_append_cons fun there => (plain _ there).1 rfl]
  have slash : '/' ∉ word := fun there => (plain _ there).2 rfl
  simp [some, slash]

section Unwrapped

variable {s : String} {lead rest : List Char} {c : Char}

private theorem exists_unwrapped (whole : s.toList = lead ++ c :: rest)
    (low : ∀ d ∈ lead, d.toNat ≤ 32)
    (letter : isLetter c = true) (other : (opening s.toList).1 ≠ "url".toList)
    (last : ∀ d ∈ s.toList.getLast?, Text.isBlank d = false) :
    ∃ front : List Char, (∀ d ∈ front, d.toNat ≤ 32) ∧
      (unwrapped s).toList = front ++ c :: rest := by
  obtain ⟨front, lower, cuts⟩ : ∃ front : List Char, (∀ d ∈ front, d.toNat ≤ 32) ∧
      s.toList.dropWhile Text.isBlank = front ++ c :: rest := by
    refine ⟨lead.dropWhile Text.isBlank,
      fun d there => low d ((List.dropWhile_sublist _).subset there), ?_⟩
    have visible : (c :: rest).dropWhile Text.isBlank = c :: rest :=
      List.dropWhile_cons_of_neg (Bool.eq_false_iff.1 (isBlank_of_isLetter letter))
    rw [whole, List.dropWhile_append, visible]
    split
    case isTrue none => rw [List.isEmpty_iff.1 none, List.nil_append]
    case isFalse => rfl
  have trimmed : Text.trimBy Text.isBlank s.toList = front ++ c :: rest := by
    rw [Text.trimBy, cuts, Text.dropRight_eq_self_iff, List.getLast?_append_cons]
    rwa [whole, List.getLast?_append_cons] at last
  have bare : (front ++ c :: rest).head? ≠ some '<' := by
    intro first
    cases front with
    | nil =>
      obtain rfl := Option.some.inj first
      cases letter
    | cons d front =>
      obtain rfl := Option.some.inj first
      exact absurd (lower '<' List.mem_cons_self) (by decide)
  have unnamed : (front ++ c :: rest).take 4 ≠ ['U', 'R', 'L', ':'] := by
    intro named
    have word : front ++ c :: rest = 'U' :: 'R' :: 'L' :: ':' :: (front ++ c :: rest).drop 4 := by
      have parts := List.take_append_drop 4 (front ++ c :: rest)
      rw [named] at parts
      exact parts.symm
    have counts (t : List Char) : significant ('U' :: 'R' :: 'L' :: ':' :: t) =
        'U' :: 'R' :: 'L' :: ':' :: Text.without isIgnored t :=
      Text.without_append_cons (s := ['U', 'R', 'L']) (CodePoint.isPlain_of_lt (by decide)) rfl
    refine other ?_
    rw [opening, whole, significant_lead low, ← significant_lead lower, word, counts]
    rfl
  refine ⟨front, lower, ?_⟩
  unfold unwrapped
  simp only [trimmed, bare, unnamed, false_and, if_false, String.toList_ofList]

/-- The URL that a request goes to is taken apart like the text that it was made from, and it names
a scheme, if the text names one, other than `url`, and ends with a character that is no blank and no
number sign. -/
private theorem split_target (scheme : (opening s.toList).1 ≠ [])
    (other : (opening s.toList).1 ≠ "url".toList)
    (last : ∀ d ∈ s.toList.getLast?, Text.isBlank d = false ∧ d ≠ '#') :
    split (target s).1 = split s ∧ (target s).2 = true := by
  obtain ⟨lead, c, word, after, whole, low, letter, plain⟩ := exists_of_scheme scheme
  obtain ⟨front, lower, unwraps⟩ :=
    exists_unwrapped whole low letter other fun d ends => (last d ends).1
  have same : significant (front ++ c :: (word ++ ':' :: after)) = significant s.toList := by
    rw [whole, significant_lead low, significant_lead lower]
  have plain' : ∀ d ∈ front ++ c :: word, d ≠ ':' ∧ d ≠ '/' ∧ d ≠ '#' := by
    intro d there
    rcases List.mem_append.1 there with before | inside
    · have := lower d before
      refine ⟨?_, ?_, ?_⟩
      all_goals
        rintro rfl
        exact absurd this (by decide)
    · exact plain d inside
  have schemes (after : List Char) : hasScheme (front ++ c :: (word ++ ':' :: after)) = true := by
    rw [← List.cons_append, ← List.append_assoc]
    exact hasScheme_append (by simp) fun d there => ⟨(plain' d there).1, (plain' d there).2.1⟩
  unfold target
  rw [unwraps]
  dsimp only
  split
  case h_1 => exact ⟨split_congr (by rw [String.toList_ofList, same]), schemes after⟩
  case h_2 url fragment cut =>
    have parts := Text.eq_of_cutLast cut
    have some : fragment ≠ [] := by
      rintro rfl
      have ends : s.toList.getLast? = Option.some '#' := by
        rw [whole, List.getLast?_append_cons, ← List.getLast?_append_cons front, parts]
        simp
      exact (last '#' ends).2 rfl
    refine ⟨split_congr ?_, ?_⟩
    · rw [if_neg (mt List.isEmpty_iff.1 some), String.toList_ofList, same]
    · -- the last number sign stands behind the colon
      have parts' : (front ++ c :: word) ++ ':' :: after = url ++ '#' :: fragment := by
        rw [← parts, List.append_assoc, List.cons_append]
      obtain ⟨x, rfl⟩ : ∃ x, url = front ++ c :: word ++ ':' :: x := by
        rcases List.append_eq_append_iff.1 parts' with ⟨gap, rfl, behind⟩ | ⟨gap, inside, behind⟩
        · cases gap with
          | nil => cases behind
          | cons d gap =>
            obtain ⟨rfl, -⟩ := List.cons.inj behind
            exact ⟨gap, rfl⟩
        · cases gap with
          | nil => cases behind
          | cons d gap =>
            obtain ⟨rfl, -⟩ := List.cons.inj behind
            have there : '#' ∈ front ++ c :: word := by rw [inside]; simp
            exact absurd rfl (plain' _ there).2.2
      rw [List.append_assoc, List.cons_append]
      exact schemes x

end Unwrapped

end Target

/-- A URL that paths can be put behind, once the slashes at its end are trimmed off: nothing but its
path follows the network location, and no slash is left at its end, as one is that has a tab or a
line break behind it. -/
structure IsBase (given : String) (url : Url) : Prop where
  bare : url.path.toList = behind given.toList
  trims : (behind (Text.trimEnd '/' given).toList).getLast? ≠ some '/'

/-- What is requested for a path behind a URL names a scheme and can be taken apart: it has the
scheme and the location of the URL, and as its path that of the URL followed by the other one just
if paths can be put behind the URL. -/
theorem split_below {given t : String} {url : Url} (splits : split given = .ok url)
    (scheme : url.scheme ≠ "" ∧ url.scheme ≠ "url") (location : url.location ≠ "")
    (suffix : IsSuffix t.toList) :
    (target (Text.trimEnd '/' given ++ t)).2 = true ∧
    ∃ sent, split (target (Text.trimEnd '/' given ++ t)).1 = .ok sent ∧
      sent.scheme = url.scheme ∧ sent.location = url.location ∧
      (sent.path = Text.trimEnd '/' url.path ++ t ↔ IsBase given url) := by
  obtain ⟨slashes, whole, all⟩ := Text.exists_trimEnd '/' given
  obtain ⟨opens, sound⟩ := opening_of_split splits
  have path := IsPath.of_slashes all
  have located : (opening (Text.trimEnd '/' given).toList).2 ≠ [] := by
    refine location_of_append all ?_
    rw [← whole, opens]
    exact mt String.toList_eq_nil_iff.1 location
  have opens' : opening (Text.trimEnd '/' given ++ t).toList =
      (url.scheme.toList, url.location.toList) := by
    rw [String.toList_append, opening_append suffix.toIsPath located, ← opening_append path located,
      ← whole, opens]
  obtain ⟨sent, splits', scheme', location'⟩ := exists_split opens' sound
  rw [String.ofList_toList] at scheme' location'
  have last : ∀ c ∈ (Text.trimEnd '/' given ++ t).toList.getLast?,
      Text.isBlank c = false ∧ c ≠ '#' := by
    intro c ends
    have ends' : c ∈ t.toList.getLast? := by
      rwa [String.toList_append, List.getLast?_append_of_ne_nil] at ends
      exact List.ne_nil_of_mem suffix.slash
    exact ⟨suffix.ends c ends', (suffix.simple c (List.mem_of_mem_getLast? ends')).2.2⟩
  have targeted := split_target (by rw [opens']; exact mt String.toList_eq_nil_iff.1 scheme.1)
    (by rw [opens']; exact mt String.toList_inj.1 scheme.2) last
  refine ⟨targeted.2, sent, ?_, scheme', location', ?_⟩
  · rw [targeted.1, splits']
  · have follows : behind given.toList = behind (Text.trimEnd '/' given).toList ++ slashes := by
      rw [← behind_append path located, ← whole]
    have same := path_append_iff (r := behind (Text.trimEnd '/' given).toList) url.scheme.toList all
      suffix
    rw [← follows, ← path_of_split splits, ← behind_append suffix.toIsPath located,
      ← String.toList_append, ← scheme', ← path_of_split splits'] at same
    have texts : Text.trimEnd '/' url.path ++ t = sent.path ↔
        sent.path.toList = Text.dropRight (· == '/') url.path.toList ++ t.toList := by
      rw [← String.toList_inj, String.toList_append, Text.trimEnd, String.toList_ofList, eq_comm]
    exact (eq_comm.trans (texts.trans same)).trans ⟨fun base => ⟨base.1, base.2⟩,
      fun base => ⟨base.bare, base.trims⟩⟩

end LocatorHealing.Url
