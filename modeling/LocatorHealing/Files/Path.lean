import LocatorHealing.Text.Blank

set_option autoImplicit false
set_option relaxedAutoImplicit false

/-!
Paths as they are written: the slashes they start with, and their steps. Empty steps and single
dots are dropped; double dots are kept, since what they lead to depends on the files.
-/

namespace LocatorHealing

structure FilePath where
  /-- A path from the root starts with one slash, or with exactly two. -/
  slashes : Nat
  steps : List String
  deriving DecidableEq, Repr

namespace FilePath

def leadingSlashes (s : List Char) : Nat :=
  let n := (s.takeWhile (· == '/')).length
  if n = 0 then 0 else if n = 2 then 2 else 1

def ofText (s : String) : FilePath :=
  ⟨leadingSlashes s.toList, (Text.pieces '/' s).filter fun step => step != "" && step != "."⟩

def text (p : FilePath) : String :=
  let body := "/".intercalate p.steps
  if p.slashes = 0 then (if p.steps.isEmpty then "." else body)
  else String.ofList (List.replicate p.slashes '/') ++ body

def child (p : FilePath) (name : String) : FilePath :=
  ⟨p.slashes, p.steps ++ [name]⟩

/-- The path of the first so many steps. -/
def upTo (p : FilePath) (n : Nat) : FilePath :=
  ⟨p.slashes, p.steps.take n⟩

def follow (place : List String) : List String → List String
  | [] => place
  | step :: rest => follow (if step = ".." then place.dropLast else place ++ [step]) rest

end FilePath

end LocatorHealing
