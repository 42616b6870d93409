import LocatorHealing.Proofs.Files.Append
import LocatorHealing.Proofs.Text.Utf8

set_option autoImplicit false
set_option relaxedAutoImplicit false

/-!
How files grow. To make a directory and to append to a file take no directory away, and no file but
the one that is appended to is changed or made. So a directory that was made is there from then on,
and another file that a plain path leads to is found just as before.
-/

namespace LocatorHealing

namespace FilePath

/-- The names on a path lead down, and are not too long for the file system. -/
def Plain (p : FilePath) : Prop :=
  ∀ step ∈ p.steps, step ≠ ".." ∧ ¬FileTree.nameLimit < (Utf8.octets step).length

instance (p : FilePath) : Decidable p.Plain :=
  List.decidableBAll _ p.steps

private theorem follow_plain {steps : List String} (plain : ∀ step ∈ steps, step ≠ "..")
    (place : List String) : follow place steps = place ++ steps := by
  induction steps generalizing place with
  | nil => exact (List.append_nil place).symm
  | cons step rest ih =>
    rw [follow, if_neg (plain step List.mem_cons_self),
      ih (fun other there => plain other (List.mem_cons_of_mem step there)), List.append_assoc]
    rfl

private theorem upTo_length (p : FilePath) : p.upTo p.steps.length = p := by
  rw [upTo, List.take_length]

private theorem text_child (p : FilePath) (name : String) :
    (p.child name).text =
      if p.steps = [] then String.ofList (List.replicate p.slashes '/') ++ name
      else p.text ++ "/" ++ name := by
  obtain ⟨slashes, steps⟩ := p
  have named : "/".intercalate [name] = name := rfl
  by_cases empty : steps = []
  · subst empty
    by_cases bare : slashes = 0
    · subst bare
      simp [text, child, named]
    · simp [text, child, named, bare]
  · have joined : "/".intercalate (steps ++ [name]) = "/".intercalate steps ++ "/" ++ name := by
      rw [String.intercalate_append_of_ne_nil empty (by simp), named]
    by_cases bare : slashes = 0
    · simp [text, child, empty, bare, joined]
    · simp [text, child, empty, bare, joined, String.append_assoc]

private theorem size_text_child {name : String} (named : Utf8.octets name ≠ []) (p : FilePath) :
    (Utf8.octets p.text).length ≤ (Utf8.octets (p.child name).text).length := by
  have slash : CodePoint.IsPlain '/' := CodePoint.isPlain_of_lt (by decide)
  rw [text_child]
  split
  case isTrue empty =>
    obtain ⟨slashes, steps⟩ := p
    subst empty
    by_cases bare : slashes = 0
    · have dot : (Utf8.octets ".").length = 1 := by decide
      have one := List.length_pos_iff.2 named
      simp only [text, bare, if_true, List.isEmpty_nil, dot, List.replicate_zero]
      exact one
    · have lead :
          ∀ c ∈ (String.ofList (List.replicate slashes '/')).toList, CodePoint.IsPlain c := by
        intro c there
        rw [String.toList_ofList] at there
        exact List.eq_of_mem_replicate there ▸ slash
      have root : text ⟨slashes, []⟩ = String.ofList (List.replicate slashes '/') ++ "" := by
        simp [text, bare]
      rw [root, Utf8.octets_plain_append lead, Utf8.octets_plain_append lead, List.length_append,
        List.length_append]
      exact Nat.add_le_add_left (Nat.zero_le _) _
  case isFalse =>
    rw [Utf8.octets_parted rfl slash, List.length_append, List.length_append]
    omega

end FilePath

namespace FileTree

/-- A text that can be handed to the file system. -/
def Fit (s : List CodePoint) : Prop :=
  ∀ point ∈ s, point.half? = none ∧ point ≠ .char (Char.ofNat 0)

instance (s : List CodePoint) : Decidable (Fit s) :=
  List.decidableBAll _ s

private theorem unfit?_eq_none_iff {p : FilePath} : unfit? p = none ↔ Fit (Text.codes p.text) := by
  have zero : CodePoint.IsPlain (Char.ofNat 0) := CodePoint.isPlain_of_lt (by decide)
  have split : Fit (Text.codes p.text) ↔
      Codec.utf8.defect? p.text = none ∧ Char.ofNat 0 ∉ p.text.toList := by
    rw [Codec.defect?_eq_none_iff, ← CodePoint.mem_read_iff zero]
    simp only [Codec.takes, decide_eq_true_eq]
    exact ⟨fun all => ⟨fun c there => (all c there).1, fun there => (all _ there).2 rfl⟩,
      fun both c there => ⟨both.1 c there, fun zero => both.2 (zero ▸ there)⟩⟩
  rw [split, unfit?]
  cases Codec.utf8.defect? p.text with
  | some defect => simp
  | none => simp

theorem unfit?_child {p : FilePath} {name : String} (fit : unfit? p = none)
    (named : Fit (Text.codes name)) : unfit? (p.child name) = none := by
  have slash : CodePoint.IsPlain '/' := CodePoint.isPlain_of_lt (by decide)
  have fits : (CodePoint.char '/').half? = none ∧ CodePoint.char '/' ≠ .char (Char.ofNat 0) := by
    decide
  rw [unfit?_eq_none_iff] at fit ⊢
  intro point there
  rw [FilePath.text_child] at there
  split at there
  · rw [Text.codes_plain_append (fun c lead => by
      rw [String.toList_ofList] at lead
      exact List.eq_of_mem_replicate lead ▸ slash), String.toList_ofList] at there
    rcases List.mem_append.1 there with lead | last
    · rw [List.map_replicate] at lead
      rw [List.eq_of_mem_replicate lead]
      exact fits
    · exact named point last
  · rw [Text.codes_parted rfl slash] at there
    rcases List.mem_append.1 there with lead | last
    · exact fit point lead
    · rcases List.mem_cons.1 last with rfl | last
      · exact fits
      · exact named point last

variable {t u : FileTree} {p : FilePath} {place free : List String}

section Walk

private theorem walk_ok {start steps : List String} (walked : t.walk start steps = .ok place) :
    place = FilePath.follow start steps := by
  induction steps generalizing start with
  | nil => exact (Except.ok.inj walked).symm
  | cons step rest ih => exact ih (walk_cons_ok_iff.1 walked).2.2

private theorem place_ok (led : t.place p = .ok place) : place = (t.absolute p).steps := by
  unfold FileTree.place at led
  split at led
  · cases led
  · exact walk_ok led

private theorem walk_plain {steps : List String}
    (plain : ∀ step ∈ steps, step ≠ ".." ∧ ¬nameLimit < (Utf8.octets step).length)
    (start : List String) :
    t.walk start steps = .ok (start ++ steps) ∨
      ∃ cause before step after, t.walk start steps = .error cause ∧ cause ≠ .nameTooLong ∧
        steps = before ++ step :: after ∧ t.node? (start ++ before) ≠ some .directory := by
  induction steps generalizing start with
  | nil => exact .inl (congrArg Except.ok (List.append_nil start).symm)
  | cons step rest ih =>
    obtain ⟨down, short⟩ := plain step List.mem_cons_self
    unfold walk
    split
    case h_1 here =>
      exact .inr ⟨_, [], step, rest, rfl, nofun, rfl, by simp [here]⟩
    case h_2 here =>
      exact .inr ⟨_, [], step, rest, rfl, nofun, rfl, by simp [here]⟩
    case h_3 =>
      rw [if_neg short, FilePath.follow_plain (by simpa using down)]
      have goesOn := ih (fun other there => plain other (List.mem_cons_of_mem step there))
        (start ++ [step])
      rw [List.append_assoc] at goesOn
      rcases goesOn with done | ⟨cause, before, next, after, failed, other, split, blocked⟩
      · exact .inl done
      · refine .inr ⟨cause, step :: before, next, after, failed, other, ?_, ?_⟩
        · rw [split, List.cons_append]
        · rwa [List.append_assoc] at blocked

private theorem walk_concat {start steps : List String} {name : String}
    (walked : t.walk start (steps ++ [name]) = .ok place) :
    ∃ last, t.walk start steps = .ok last ∧ t.node? last = some .directory := by
  induction steps generalizing start with
  | nil => exact ⟨start, rfl, (walk_cons_ok_iff.1 walked).1⟩
  | cons step rest ih =>
    obtain ⟨here, short, walked⟩ := walk_cons_ok_iff.1 walked
    obtain ⟨last, goesOn, directory⟩ := ih walked
    exact ⟨last, walk_cons_ok_iff.2 ⟨here, short, goesOn⟩, directory⟩

end Walk

def fileAt (t : FileTree) (place : List String) : Option (List UInt8 × Int) :=
  match t.node? place with
  | some (.file octets modified) => some (octets, modified)
  | _ => none

def Rooted (t : FileTree) : Prop :=
  ∀ place step rest, t.fileAt (place ++ step :: rest) ≠ none → t.node? place = some .directory

theorem rooted_of_directories (all : ∀ p ∈ t.nodes, p.2 = .directory) : t.Rooted := by
  intro place step rest there
  refine absurd ?_ there
  rw [fileAt, node?, if_neg (by simp)]
  cases here : t.nodes.lookup (place ++ step :: rest) with
  | none => rfl
  | some node =>
    obtain ⟨before, after, split, -⟩ := List.lookup_eq_some_iff.1 here
    have directory := all (place ++ step :: rest, node) (by rw [split]; simp)
    rw [show node = .directory from directory]

/-- One tree has grown to another: its directories are there, and all files are the same but for one
at a free place. -/
structure Grows (free : List String) (t u : FileTree) : Prop where
  start : u.start = t.start
  directories : ∀ {place}, t.node? place = some .directory → u.node? place = some .directory
  files : ∀ {place}, place ≠ free → u.fileAt place = t.fileAt place

namespace Grows

theorem refl (free : List String) (t : FileTree) : t.Grows free t :=
  ⟨rfl, fun there => there, fun _ => rfl⟩

theorem trans {v : FileTree} (first : t.Grows free u) (second : u.Grows free v) :
    t.Grows free v where
  start := second.start.trans first.start
  directories there := second.directories (first.directories there)
  files apart := (second.files apart).trans (first.files apart)

private theorem put_directory (none : t.node? place = none) (free : List String) :
    t.Grows free (t.put place .directory) := by
  have some : place ≠ [] := ne_nil_of_free (t := t) (by simp [none])
  refine ⟨rfl, fun {other} there => ?_, fun {other} _ => ?_⟩
  · by_cases same : other = place
    · subst same
      exact node?_put_self some _
    · rwa [node?_put_other same]
  · by_cases same : other = place
    · subst same
      simp [fileAt, node?_put_self some, none]
    · rw [fileAt, node?_put_other same, fileAt]

private theorem put_file (undirected : t.node? place ≠ some .directory) (octets : List UInt8)
    (modified : Int) : t.Grows place (t.put place (.file octets modified)) := by
  refine ⟨rfl, fun {other} there => ?_, fun {other} apart => ?_⟩
  · have apart : other ≠ place := fun same => undirected (same ▸ there)
    rwa [node?_put_other apart]
  · rw [fileAt, node?_put_other apart, fileAt]

theorem walk (grows : t.Grows free u) {start steps : List String}
    (walked : t.walk start steps = .ok place) : u.walk start steps = .ok place := by
  induction steps generalizing start with
  | nil => exact walked
  | cons step rest ih =>
    obtain ⟨here, short, walked⟩ := walk_cons_ok_iff.1 walked
    exact walk_cons_ok_iff.2 ⟨grows.directories here, short, ih walked⟩

theorem startOf (grows : t.Grows free u) (p : FilePath) : u.startOf p = t.startOf p := by
  rw [FileTree.startOf, grows.start, FileTree.startOf]

theorem absolute (grows : t.Grows free u) (p : FilePath) : u.absolute p = t.absolute p := by
  rw [FileTree.absolute, grows.startOf, FileTree.absolute]

theorem leads (grows : t.Grows free u) (led : t.place p = .ok place) :
    u.place p = .ok place := by
  unfold FileTree.place at led ⊢
  split at led
  · cases led
  case isFalse short =>
    rw [if_neg short, grows.startOf]
    exact grows.walk led

end Grows

private theorem find_directory_iff :
    t.find p = .ok .directory ↔
      ∃ place, t.place p = .ok place ∧ t.node? place = some .directory := by
  cases led : t.place p with
  | error cause => simp [find, led, bind, Except.bind]
  | ok place =>
    rw [find_of_place led]
    cases here : t.node? place with
    | none => simp [here]
    | some node => simp [here]

/-- A directory is found when the tree has grown. -/
theorem Grows.find (grows : t.Grows free u) (found : t.find p = .ok .directory) :
    u.find p = .ok .directory := by
  obtain ⟨place, led, here⟩ := find_directory_iff.1 found
  exact find_directory_iff.2 ⟨place, grows.leads led, grows.directories here⟩

section Directories

private theorem makeDirectory_ok (made : t.makeDirectory p = .ok u) :
    ∃ place, t.place p = .ok place ∧ t.node? place = none ∧ u = t.put place .directory := by
  unfold makeDirectory at made
  cases led : t.place p with
  | error cause =>
    rw [led] at made
    cases made
  | ok place =>
    rw [led] at made
    cases here : t.node? place with
    | some node => simp [here, bind, Except.bind] at made
    | none =>
      simp only [here, bind, Except.bind, Except.ok.injEq] at made
      exact ⟨place, rfl, here, made.symm⟩

private theorem ensureDirectory_ok (made : t.ensureDirectory p = .ok u) (free : List String) :
    t.Grows free u ∧ u.find p = .ok .directory := by
  unfold ensureDirectory at made
  split at made
  case h_1 _ first =>
    cases made
    obtain ⟨place, led, here, rfl⟩ := makeDirectory_ok first
    have grows := Grows.put_directory here free
    have some : place ≠ [] := ne_nil_of_free (t := t) (by simp [here])
    exact ⟨grows, find_directory_iff.2 ⟨place, grows.leads led, node?_put_self some _⟩⟩
  case h_2 =>
    split at made
    case h_1 found =>
      cases made
      exact ⟨.refl free t, found⟩
    · cases made

private theorem makeUpTo_ok {n : Nat} (made : t.makeUpTo p n = .ok u) (free : List String) :
    t.Grows free u ∧ (n ≠ 0 → u.find (p.upTo n) = .ok .directory) := by
  induction n generalizing u with
  | zero =>
    cases made
    exact ⟨.refl free t, fun some => absurd rfl some⟩
  | succ n ih =>
    unfold makeUpTo at made
    split at made
    · cases before : t.makeUpTo p n with
      | error fault =>
        rw [before] at made
        cases made
      | ok v =>
        rw [before] at made
        obtain ⟨grows, found⟩ := ensureDirectory_ok made free
        exact ⟨(ih before).1.trans grows, fun _ => found⟩
    · obtain ⟨grows, found⟩ := ensureDirectory_ok made free
      exact ⟨grows, fun _ => found⟩

theorem makeDirectories_fit (made : t.makeDirectories p = .ok u) : unfit? p = none := by
  unfold makeDirectories handed at made
  split at made
  · cases made
  · assumption

private theorem makeDirectories_eq (fit : unfit? p = none) :
    t.makeDirectories p = t.makeUpTo p p.steps.length := by
  unfold makeDirectories handed
  rw [fit]

theorem makeDirectories_grows (made : t.makeDirectories p = .ok u) (free : List String) :
    t.Grows free u := by
  rw [makeDirectories_eq (makeDirectories_fit made)] at made
  exact (makeUpTo_ok made free).1

private theorem makeDirectories_of_find (fit : unfit? p = none)
    (found : p.steps ≠ [] → t.find p = .ok .directory) : t.makeDirectories p = .ok t := by
  rw [makeDirectories_eq fit]
  cases many : p.steps.length with
  | zero => rfl
  | succ n =>
    have here := found fun empty => by simp [empty] at many
    obtain ⟨place, led, directory⟩ := find_directory_iff.1 here
    have there : t.makeDirectory p = .error .exists := by
      simp [makeDirectory, led, directory, bind, Except.bind]
    rw [makeUpTo, ← many, FilePath.upTo_length, there]
    simp [ensureDirectory, there, here]

theorem makeDirectories_again (made : t.makeDirectories p = .ok u) :
    u.makeDirectories p = .ok u := by
  have fit := makeDirectories_fit made
  refine makeDirectories_of_find fit fun some => ?_
  rw [makeDirectories_eq fit] at made
  have found := (makeUpTo_ok made []).2 fun none => some (List.length_eq_zero_iff.1 none)
  rwa [FilePath.upTo_length] at found

end Directories

section Append

theorem append_ok {octets : List UInt8} (appended : t.append p octets = .ok u) :
    ∃ place, t.place p = .ok place ∧ t.node? place ≠ some .directory ∧
      ∃ octets modified, u = t.put place (.file octets modified) := by
  unfold append handed at appended
  split at appended
  · cases appended
  cases led : t.place p with
  | error cause =>
    simp only [led] at appended
    cases appended
  | ok place =>
    simp only [led] at appended
    split at appended
    case h_1 here =>
      cases appended
      exact ⟨place, rfl, by simp [here], _, _, rfl⟩
    case h_2 here =>
      cases appended
      exact ⟨place, rfl, by simp [here], _, _, rfl⟩
    · cases appended

theorem append_grows {octets : List UInt8} (appended : t.append p octets = .ok u) :
    t.Grows (t.absolute p).steps u := by
  obtain ⟨place, led, undirected, octets, modified, rfl⟩ := append_ok appended
  rw [← place_ok led]
  exact Grows.put_file undirected octets modified

theorem makeDirectories_of_append {name : String} {octets : List UInt8} (fit : unfit? p = none)
    (named : Utf8.octets name ≠ []) (appended : t.append (p.child name) octets = .ok u) :
    u.makeDirectories p = .ok u := by
  -- the way to the file has passed the directory
  refine makeDirectories_of_find fit fun _ => (append_grows appended).find ?_
  obtain ⟨place, led, -⟩ := append_ok appended
  unfold FileTree.place at led
  split at led
  · cases led
  case isFalse short =>
    obtain ⟨last, walked, here⟩ := walk_concat led
    have shorter : ¬pathLimit < (Utf8.octets p.text).length := by
      have le := FilePath.size_text_child named p
      omega
    refine find_directory_iff.2 ⟨last, ?_, here⟩
    rw [FileTree.place, if_neg shorter]
    exact walked

end Append

section Seek

private theorem absolute_plain (plain : p.Plain) : (t.absolute p).steps = t.startOf p ++ p.steps :=
  FilePath.follow_plain (fun step there => (plain step there).1) _

/-- What a plain path leads to, where the places on its way are directories if it leads to a
file. -/
private theorem seekFile_plain (plain : p.Plain) (leads : ∀ before step after,
      p.steps = before ++ step :: after → t.fileAt (t.startOf p ++ p.steps) ≠ none →
      t.node? (t.startOf p ++ before) = some .directory) :
    t.seekFile p =
      if (unfit? p).isSome then .ok none
      else if pathLimit < (Utf8.octets p.text).length then .error (.file .nameTooLong p.text)
      else .ok (t.fileAt (t.startOf p ++ p.steps)) := by
  unfold seekFile seek
  cases unfit? p with
  | some fault => rfl
  | none =>
    by_cases long : pathLimit < (Utf8.octets p.text).length
    · simp [find, FileTree.place, long, bind, Except.bind, Except.map]
    · have led : t.place p = t.walk (t.startOf p) p.steps := by rw [FileTree.place, if_neg long]
      rcases walk_plain plain (t.startOf p) (t := t) with
        walked | ⟨cause, before, step, after, failed, other, split, blocked⟩
      · rw [find_of_place (led.trans walked), fileAt]
        cases t.node? (t.startOf p ++ p.steps) with
        | none => simp [long, Except.map]
        | some node => cases node with | _ => simp [long, Except.map]
      · have none : t.fileAt (t.startOf p ++ p.steps) = none :=
          Decidable.byContradiction fun there => blocked (leads before step after split there)
        rw [none, find, led, failed]
        cases cause with
        | nameTooLong => exact absurd rfl other
        | _ => simp [long, bind, Except.bind, Except.map]

theorem Grows.seekFile (grows : t.Grows free u) (rooted : t.Rooted) (plain : p.Plain)
    (apart : (t.absolute p).steps ≠ free) : u.seekFile p = t.seekFile p := by
  have leads : ∀ before step after, p.steps = before ++ step :: after →
      t.fileAt (t.startOf p ++ p.steps) ≠ none →
      t.node? (t.startOf p ++ before) = some .directory := by
    intro before step after split there
    rw [split, ← List.append_assoc] at there
    exact rooted _ _ _ there
  rw [absolute_plain plain] at apart
  rw [seekFile_plain plain leads, seekFile_plain plain ?_, grows.startOf, grows.files apart]
  intro before step after split there
  rw [grows.startOf, grows.files apart] at there
  rw [grows.startOf]
  exact grows.directories (leads before step after split there)

end Seek

end FileTree

end LocatorHealing
