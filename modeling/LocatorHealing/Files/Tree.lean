import LocatorHealing.Fault
import LocatorHealing.Files.Path
import LocatorHealing.Text.Lines

set_option autoImplicit false
set_option relaxedAutoImplicit false

/-!
A tree of files and directories, and what the file system allows: a way leads through directories
only, and a refusal names the path that was asked for.
-/

namespace LocatorHealing

inductive FileNode where
  | directory
  | file (octets : List UInt8) (modified : Int)

/-- The nodes of a tree by their places, and the place where paths without a slash start. The
root is always a directory. -/
structure FileTree where
  nodes : List (List String × FileNode)
  start : List String

namespace FileTree

def node? (t : FileTree) (place : List String) : Option FileNode :=
  if place.isEmpty then some .directory else t.nodes.lookup place

def put (t : FileTree) (place : List String) (node : FileNode) : FileTree :=
  { t with nodes := (place, node) :: t.nodes.filter fun p => p.1 != place }

def startOf (t : FileTree) (p : FilePath) : List String :=
  if p.slashes = 0 then t.start else []

/-- The octets that a single name, and a whole path, may have at most. -/
def nameLimit : Nat := 255

def pathLimit : Nat := 4095

/-- Walk from a place along steps; every place that is left has to be a directory. -/
def walk (t : FileTree) (place : List String) : List String → Except FileCause (List String)
  | [] => .ok place
  | step :: rest =>
    match t.node? place with
    | none => .error .missing
    | some (.file _ _) => .error .notDirectory
    | some .directory =>
      if nameLimit < (Utf8.octets step).length then .error .nameTooLong
      else walk t (FilePath.follow place [step]) rest

def place (t : FileTree) (p : FilePath) : Except FileCause (List String) :=
  if pathLimit < (Utf8.octets p.text).length then .error .nameTooLong
  else t.walk (t.startOf p) p.steps

def find (t : FileTree) (p : FilePath) : Except FileCause FileNode := do
  match t.node? (← t.place p) with
  | some node => .ok node
  | none => .error .missing

/-- Why a path cannot be handed to the file system, whatever is there. -/
def unfit? (p : FilePath) : Option Fault :=
  match Codec.utf8.defect? p.text with
  | some defect => some (.unencodable defect)
  | none => if p.text.toList.contains (Char.ofNat 0) then some .zeroInPath else none

/-- Something done with a path that is handed to the file system. -/
def handed {α : Type} (p : FilePath) (r : Except Fault α) : Except Fault α :=
  match unfit? p with
  | some fault => .error fault
  | none => r

/-- The node at a path, if there is one; only a name that is too long is a fault. -/
def seek (t : FileTree) (p : FilePath) : Except Fault (Option FileNode) :=
  match unfit? p, t.find p with
  | some _, _ => .ok none
  | none, .ok node => .ok (some node)
  | none, .error .nameTooLong => .error (.file .nameTooLong p.text)
  | none, .error _ => .ok none

/-- The octets of the file at a path, if there is one, and when it was last modified. -/
def seekFile (t : FileTree) (p : FilePath) : Except Fault (Option (List UInt8 × Int)) :=
  (t.seek p).map fun
    | some (.file octets modified) => some (octets, modified)
    | _ => none

def absolute (t : FileTree) (p : FilePath) : FilePath :=
  ⟨1, FilePath.follow (t.startOf p) p.steps⟩

/-- Read a file. -/
def read (t : FileTree) (p : FilePath) : Except Fault (List UInt8) :=
  handed p <|
    match t.find p with
    | .ok (.file octets _) => .ok octets
    | .ok .directory => .error (.file .isDirectory p.text)
    | .error cause => .error (.file cause p.text)

/-- Read a file of text; all line ends are read as line feeds. -/
def readText (t : FileTree) (p : FilePath) : Except Fault (List Char) := do
  match Utf8.decode (← t.read p) with
  | .ok s => .ok (Text.unifyLineEnds s)
  | .error defect => .error (.undecodable defect)

/-- Append octets to the file at a path, which is made if there is none. -/
def append (t : FileTree) (p : FilePath) (octets : List UInt8) : Except Fault FileTree :=
  handed p <|
    match t.place p with
    | .error cause => .error (.file cause p.text)
    | .ok place =>
      match t.node? place with
      | none => .ok (t.put place (.file octets 1))
      | some (.file before modified) => .ok (t.put place (.file (before ++ octets) modified))
      | some .directory => .error (.file .isDirectory p.text)

def makeDirectory (t : FileTree) (p : FilePath) : Except FileCause FileTree := do
  let place ← t.place p
  match t.node? place with
  | none => .ok (t.put place .directory)
  | some _ => .error .exists

def ensureDirectory (t : FileTree) (p : FilePath) : Except Fault FileTree :=
  match t.makeDirectory p with
  | .ok t => .ok t
  | .error cause =>
    match t.find p with
    | .ok .directory => .ok t
    | _ => .error (.file cause p.text)

/-- Make the directory of the first so many steps of a path. Those that lead to it are made only if
it is missing for want of them. -/
def makeUpTo (t : FileTree) (p : FilePath) : Nat → Except Fault FileTree
  | 0 => .ok t
  | n + 1 =>
    match t.makeDirectory (p.upTo (n + 1)) with
    | .error .missing => (makeUpTo t p n).bind fun t => t.ensureDirectory (p.upTo (n + 1))
    | _ => t.ensureDirectory (p.upTo (n + 1))

/-- Make a directory, with all that lead to it; one that is there already will do. -/
def makeDirectories (t : FileTree) (p : FilePath) : Except Fault FileTree :=
  handed p (t.makeUpTo p p.steps.length)

end FileTree

end LocatorHealing
