set_option autoImplicit false
set_option relaxedAutoImplicit false

/-!
White space, and trimming it off the ends of a text. Two classes are in use: the wide one of
ordinary texts, and the narrower one of numbers written as text, which leaves out the four
information separators.
-/

namespace LocatorHealing.Text

def isWhiteSpace (c : Char) : Bool :=
  let n := c.toNat
  (9 ≤ n && n ≤ 13) || n == 32 || n == 0x85 || n == 0xA0 || n == 0x1680 ||
    (0x2000 ≤ n && n ≤ 0x200A) || n == 0x2028 || n == 0x2029 || n == 0x202F ||
    n == 0x205F || n == 0x3000

/-- White space together with the information separators U+001C to U+001F. -/
def isBlank (c : Char) : Bool :=
  (28 ≤ c.toNat && c.toNat ≤ 31) || isWhiteSpace c

/-- Drop the longest run at the end whose members all satisfy `p`. -/
def dropRight (p : Char → Bool) (s : List Char) : List Char :=
  (s.reverse.dropWhile p).reverse

/-- Drop the longest runs at both ends whose members all satisfy `p`. -/
def trimBy (p : Char → Bool) (s : List Char) : List Char :=
  dropRight p (s.dropWhile p)

def trim (s : String) : String :=
  String.ofList (trimBy isBlank s.toList)

def isAllBlank (s : String) : Bool :=
  s.toList.all isBlank

def trimEnd (c : Char) (s : String) : String :=
  String.ofList (dropRight (· == c) s.toList)

/-- Cut a list at every occurrence of one character; there is one more piece than cuts. -/
def splitAt (sep : Char) : List Char → List (List Char)
  | [] => [[]]
  | c :: s =>
    if c = sep then [] :: splitAt sep s
    else
      match splitAt sep s with
      | [] => [[c]]
      | piece :: pieces => (c :: piece) :: pieces

def pieces (sep : Char) (s : String) : List String :=
  (splitAt sep s.toList).map String.ofList

/-- What stands before the first occurrence of a character, and what follows it if it occurs. -/
def cutFirst (sep : Char) : List Char → List Char × Option (List Char)
  | [] => ([], none)
  | c :: s =>
    if c = sep then ([], some s)
    else
      let rest := cutFirst sep s
      (c :: rest.1, rest.2)

/-- What follows the last occurrence of a character if it occurs, and what stands before it. -/
def cutLast (sep : Char) (s : List Char) : Option (List Char × List Char) :=
  match cutFirst sep s.reverse with
  | (_, none) => none
  | (after, some before) => some (before.reverse, after.reverse)

theorem splitAt_ne_nil (sep : Char) (s : List Char) : splitAt sep s ≠ [] := by
  induction s with
  | nil => simp [splitAt]
  | cons c s ih =>
    unfold splitAt
    split
    · simp
    · split <;> simp

end LocatorHealing.Text
