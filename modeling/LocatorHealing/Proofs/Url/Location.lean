import LocatorHealing.Proofs.Text.Code
import LocatorHealing.Proofs.Text.Pieces
import LocatorHealing.Url.Basic

set_option autoImplicit false
set_option relaxedAutoImplicit false

/-!
The network location of a URL. Scheme and location decide whether a text can be taken apart, and
slashes at its end belong to neither of them. Where there is neither user information nor a
bracketed literal, the host is what stands before the port.
-/

namespace LocatorHealing.Url

def opening (s : List Char) : List Char × List Char :=
  ((cutScheme (significant s)).1, (cutLocation (cutScheme (significant s)).2).1)

def IsSound (location : List Char) : Prop :=
  checkBrackets location = none ∧ location.any hidesDelimiter = false

def behind (s : List Char) : List Char :=
  (cutLocation (cutScheme (significant s)).2).2

theorem opening_of_split {s : String} {url : Url} (splits : split s = .ok url) :
    opening s.toList = (url.scheme.toList, url.location.toList) ∧ IsSound url.location.toList := by
  unfold split at splits
  dsimp only at splits
  split at splits
  · cases splits
  case h_2 brackets =>
    split at splits
    · cases splits
    case isFalse plain =>
      cases splits
      simp only [String.toList_ofList]
      exact ⟨rfl, brackets, Bool.eq_false_iff.2 plain⟩

theorem exists_split {s : String} {scheme location : List Char}
    (opens : opening s.toList = (scheme, location)) (sound : IsSound location) :
    ∃ url, split s = .ok url ∧ url.scheme = String.ofList scheme ∧
      url.location = String.ofList location := by
  obtain ⟨rfl, rfl⟩ := Prod.mk.inj opens
  obtain ⟨brackets, plain⟩ := sound
  unfold split
  dsimp only
  rw [brackets]
  dsimp only
  rw [if_neg (Bool.eq_false_iff.1 plain)]
  exact ⟨_, rfl, rfl, rfl⟩

private theorem exists_of_cutLocation {s : List Char} (some : (cutLocation s).1 ≠ []) :
    ∃ rest, s = '/' :: '/' :: rest := by
  unfold cutLocation at some
  split at some
  · exact ⟨_, rfl⟩
  · exact absurd rfl some

theorem isIgnored_of_high {c : Char} (high : 32 < c.toNat) : isIgnored c = false := by
  simp only [isIgnored, Bool.or_eq_false_iff, beq_eq_false_iff_ne]
  refine ⟨⟨?_, ?_⟩, ?_⟩
  all_goals
    rintro rfl
    exact absurd high (by decide)

/-- What can be put behind a URL and leaves its scheme and its location as they are: it begins with
a slash, and no character of it is dropped or ends a scheme. -/
structure IsPath (t : List Char) : Prop where
  counts : ∀ c ∈ t, 32 < c.toNat
  plain : ':' ∉ t
  begins : ∀ c ∈ t.head?, c = '/'

theorem IsPath.of_slashes {t : List Char} (slashes : ∀ c ∈ t, c = '/') : IsPath t where
  counts c there := by
    rw [slashes c there]
    decide
  plain there := absurd (slashes _ there) (by decide)
  begins c first := slashes c (List.mem_of_mem_head? first)

section Paths

variable {s t : List Char} (path : IsPath t)
include path

private theorem significant_append : significant (s ++ t) = significant s ++ t := by
  cases t with
  | nil => rw [List.append_nil, List.append_nil]
  | cons c t =>
    obtain rfl : c = '/' := path.begins c rfl
    have kept : ('/' :: t).dropWhile (·.toNat ≤ 32) = '/' :: t := rfl
    have whole : Text.without isIgnored t = t := Text.without_eq_self fun c there =>
      isIgnored_of_high (path.counts c (List.mem_cons_of_mem _ there))
    have slash : CodePoint.IsPlain '/' := CodePoint.isPlain_of_lt (by decide)
    have parts (s : List Char) : Text.without isIgnored (s ++ '/' :: t) =
        Text.without isIgnored s ++ '/' :: t := by
      rw [Text.without_append_cons slash rfl, whole]
    unfold significant
    rw [List.dropWhile_append, kept]
    split
    case isTrue empty => rw [List.isEmpty_iff.1 empty]; exact parts []
    case isFalse => exact parts _

private theorem cutScheme_append :
    cutScheme (s ++ t) = ((cutScheme s).1, (cutScheme s).2 ++ t) := by
  unfold cutScheme
  rw [Text.cutFirst_append path.plain]
  rcases Text.cutFirst ':' s with ⟨word, none | after⟩
  · rfl
  · cases word with
    | nil => rfl
    | cons c word =>
      dsimp only
      split
      · rfl
      · rfl

private theorem cutLocation_append (some : (cutLocation s).1 ≠ []) :
    cutLocation (s ++ t) = ((cutLocation s).1, (cutLocation s).2 ++ t) := by
  obtain ⟨rest, rfl⟩ := exists_of_cutLocation some
  have ends : t.takeWhile (!endsLocation ·) = [] ∧ t.dropWhile (!endsLocation ·) = t := by
    cases t with
    | nil => exact ⟨rfl, rfl⟩
    | cons c t =>
      rw [path.begins c rfl]
      exact ⟨rfl, rfl⟩
  have before : (rest ++ t).takeWhile (!endsLocation ·) = rest.takeWhile (!endsLocation ·) := by
    rw [List.takeWhile_append, ends.1, List.append_nil]
    split
    case isTrue all => exact (List.takeWhile_prefix _).eq_of_length all |>.symm
    case isFalse => rfl
  have after : (rest ++ t).dropWhile (!endsLocation ·) = rest.dropWhile (!endsLocation ·) ++ t := by
    rw [List.dropWhile_append, ends.2]
    split
    case isTrue none => rw [List.isEmpty_iff.1 none, List.nil_append]
    case isFalse => rfl
  exact Prod.ext before after

theorem opening_append (location : (opening s).2 ≠ []) : opening (s ++ t) = opening s := by
  unfold opening at location ⊢
  rw [significant_append path, cutScheme_append path, cutLocation_append path location]

theorem behind_append (location : (opening s).2 ≠ []) : behind (s ++ t) = behind s ++ t := by
  unfold opening at location
  unfold behind
  rw [significant_append path, cutScheme_append path, cutLocation_append path location]

end Paths

section Slashes

variable {s t : List Char} (slashes : ∀ c ∈ t, c = '/')
include slashes

private theorem cutLocation_of_append (some : (cutLocation (s ++ t)).1 ≠ []) :
    (cutLocation s).1 ≠ [] := by
  obtain ⟨rest, opens⟩ := exists_of_cutLocation some
  have short (all : ∀ c ∈ rest, c = '/') : (cutLocation (s ++ t)).1 = [] := by
    rw [opens]
    cases rest with
    | nil => rfl
    | cons c rest =>
      rw [all c List.mem_cons_self]
      rfl
  match s, opens with
  | [], opens =>
    obtain rfl : t = '/' :: '/' :: rest := opens
    exact absurd (short fun c there => slashes c (by simp [there])) some
  | [_], opens =>
    obtain ⟨-, rfl⟩ := List.cons.inj opens
    exact absurd (short fun c there => slashes c (List.mem_cons_of_mem _ there)) some
  | [_, _], opens =>
    obtain ⟨-, -, rfl⟩ : _ ∧ _ ∧ t = rest := by simpa using opens
    exact absurd (short slashes) some
  | _ :: _ :: c :: s, opens =>
    obtain ⟨rfl, rfl, rfl⟩ : _ = '/' ∧ _ = '/' ∧ c :: (s ++ t) = rest := by simpa using opens
    -- the first character of the location stands in front of the slashes
    change (c :: (s ++ t)).takeWhile (!endsLocation ·) ≠ [] at some
    change (c :: s).takeWhile (!endsLocation ·) ≠ []
    rw [List.takeWhile_cons] at some ⊢
    split
    case isTrue => exact List.cons_ne_nil _ _
    case isFalse ends => rwa [if_neg ends] at some

theorem location_of_append (location : (opening (s ++ t)).2 ≠ []) : (opening s).2 ≠ [] := by
  unfold opening at location ⊢
  rw [significant_append (.of_slashes slashes), cutScheme_append (.of_slashes slashes)] at location
  exact cutLocation_of_append slashes location

end Slashes

theorem split_trimEnd {s : String} {url : Url} (splits : split s = .ok url)
    (location : url.location ≠ "") :
    ∃ url', split (Text.trimEnd '/' s) = .ok url' ∧ url'.scheme = url.scheme ∧
      url'.location = url.location := by
  obtain ⟨t, whole, slashes⟩ := Text.exists_trimEnd '/' s
  obtain ⟨opens, sound⟩ := opening_of_split splits
  rw [whole] at opens
  have some : (opening ((Text.trimEnd '/' s).toList ++ t)).2 ≠ [] := by
    rw [opens]
    exact mt String.toList_eq_nil_iff.1 location
  have same := (opening_append (.of_slashes slashes) (location_of_append slashes some)).symm
  obtain ⟨url', splits', scheme', location'⟩ := exists_split (same.trans opens) sound
  exact ⟨url', splits', scheme'.trans String.ofList_toList, location'.trans String.ofList_toList⟩

theorem hostName_plain {location : String} (plain : '@' ∉ location.toList)
    (open_ : '[' ∉ location.toList) :
    hostName location = String.ofList (Text.cutFirst ':' location.toList).1 := by
  have bare : hostAndPort location.toList = location.toList := by
    rw [hostAndPort, Text.cutLast_of_not_mem plain]
  rw [hostName, bare, Text.cutFirst_of_not_mem open_]

end LocatorHealing.Url
