import LocatorHealing.Files.Tree

set_option autoImplicit false
set_option relaxedAutoImplicit false

/-!
Appending to a file. Where the path of a file leads to a file, or to where one may be made, octets
that are appended come after those that are there, and the path leads there as before.
-/

namespace LocatorHealing.FileTree

variable {t : FileTree} {p : FilePath} {place other : List String} {node : FileNode}

theorem node?_put_self (some : place ≠ []) (node : FileNode) :
    (t.put place node).node? place = .some node := by
  simp [node?, put, some]

private theorem lookup_filter {nodes : List (List String × FileNode)} (apart : other ≠ place) :
    (nodes.filter fun p => p.1 != place).lookup other = nodes.lookup other := by
  induction nodes with
  | nil => rfl
  | cons p rest ih =>
    obtain ⟨q, n⟩ := p
    by_cases same : q = place
    · subst same
      have passed : (other == q) = false := beq_eq_false_iff_ne.2 apart
      rw [List.filter_cons_of_neg (by simp), List.lookup_cons, passed, ih]
    · rw [List.filter_cons_of_pos (by simpa using same), List.lookup_cons, List.lookup_cons, ih]

theorem node?_put_other (apart : other ≠ place) (node : FileNode) :
    (t.put place node).node? other = t.node? other := by
  have passed : (other == place) = false := beq_eq_false_iff_ne.2 apart
  simp only [node?, put, List.lookup_cons, passed, lookup_filter apart]

theorem walk_cons_ok_iff {start rest reached : List String} {step : String} :
    t.walk start (step :: rest) = .ok reached ↔
      t.node? start = some .directory ∧ ¬nameLimit < (Utf8.octets step).length ∧
        t.walk (FilePath.follow start [step]) rest = .ok reached := by
  rw [walk]
  cases t.node? start with
  | none => simp
  | some node =>
    cases node with
    | file octets modified => simp
    | directory =>
      dsimp only
      split
      · simp_all
      · simp_all

private theorem walk_put (free : t.node? place ≠ some .directory) (node : FileNode)
    {steps : List String}
    {start reached : List String} (walked : t.walk start steps = .ok reached) :
    (t.put place node).walk start steps = .ok reached := by
  induction steps generalizing start with
  | nil => exact walked
  | cons step rest ih =>
    obtain ⟨here, short, walked⟩ := walk_cons_ok_iff.1 walked
    have apart : start ≠ place := fun same => free (same ▸ here)
    exact walk_cons_ok_iff.2 ⟨by rwa [node?_put_other apart], short, ih walked⟩

theorem ne_nil_of_free (free : t.node? place ≠ some .directory) : place ≠ [] := by
  rintro rfl
  exact free rfl

/-- A path leads to a file, or to where one may be made. -/
structure Writable (t : FileTree) (p : FilePath) : Prop where
  fit : unfit? p = none
  leads : ∃ place, t.place p = .ok place ∧ t.node? place ≠ some .directory

def octets (t : FileTree) (p : FilePath) : List UInt8 :=
  match t.find p with
  | .ok (.file octets _) => octets
  | _ => []

theorem place_put (led : t.place p = .ok place) (free : t.node? place ≠ some .directory)
    (node : FileNode) : (t.put place node).place p = .ok place := by
  unfold FileTree.place at led ⊢
  split at led
  · cases led
  case isFalse short =>
    rw [if_neg short]
    exact walk_put free node led

theorem find_of_place (led : t.place p = .ok place) :
    t.find p = match t.node? place with
      | some node => .ok node
      | none => .error .missing := by
  unfold find
  rw [led]
  rfl

private theorem octets_put (led : t.place p = .ok place) (free : t.node? place ≠ some .directory)
    (more : List UInt8) (modified : Int) :
    (t.put place (.file more modified)).octets p = more := by
  have some := ne_nil_of_free free
  unfold octets
  rw [find_of_place (place_put led free _), node?_put_self some]

private theorem writable_put (led : t.place p = .ok place)
    (free : t.node? place ≠ some .directory) (fit : unfit? p = none) (more : List UInt8)
    (modified : Int) : (t.put place (.file more modified)).Writable p := by
  have some := ne_nil_of_free free
  refine ⟨fit, place, place_put led free _, ?_⟩
  rw [node?_put_self some]
  exact nofun

theorem Writable.append (writable : t.Writable p) (more : List UInt8) :
    ∃ t', t.append p more = .ok t' ∧ t'.octets p = t.octets p ++ more ∧ t'.Writable p := by
  obtain ⟨fit, place, led, free⟩ := writable
  unfold FileTree.append handed
  rw [fit, led]
  dsimp only
  cases here : t.node? place with
  | none =>
    refine ⟨_, rfl, ?_, writable_put led free fit _ _⟩
    have before : t.octets p = [] := by
      rw [octets, find_of_place led, here]
    rw [octets_put led free, before]
    rfl
  | some node =>
    cases node with
    | directory => exact absurd here free
    | file octets modified =>
      refine ⟨_, rfl, ?_, writable_put led free fit _ _⟩
      have before : t.octets p = octets := by
        rw [FileTree.octets, find_of_place led, here]
      rw [octets_put led free, before]

end LocatorHealing.FileTree
