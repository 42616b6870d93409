import Mathlib.Logic.Function.Basic
import LocatorHealing.Proofs.Launch.Capabilities

set_option autoImplicit false
set_option relaxedAutoImplicit false

/-!
Named entries that may share what is changed of them. The same entry may stand under several names,
and several entries may hold the same set of capabilities; what is left of it under one name is then
there under the others. Where nothing is shared, this is to go through the entries one by one.
-/

namespace LocatorHealing

private theorem Members.put_put (m : Members) (name : String) (v v' : Json) :
    (m.put name v).put name v' = m.put name v' := by
  induction m with
  | nil => simp [put]
  | cons p rest ih =>
    obtain ⟨k, w⟩ := p
    rw [put, put]
    split
    case isTrue => simp [put]
    case isFalse apart => rw [put, if_neg apart, ih]

namespace Launcher

/-- A named entry, by the place of what is changed of it: the entry itself, or the set that it holds
beside other members. -/
inductive Holder where
  | itself (place : Nat)
  | holding (members : Members) (place : Nat)

namespace Holder

def place : Holder → Nat
  | itself place => place
  | holding _ place => place

def view (cells : Nat → Json) : Holder → Json
  | itself place => cells place
  | holding m place => .obj (Members.put m "capabilities" (cells place))

def keep (cells : Nat → Json) (left : Json) : Holder → Nat → Json
  | itself place => Function.update cells place left
  | holding _ place =>
    match left with
    | .obj m => Function.update cells place ((Members.get? m "capabilities").getD .null)
    | _ => cells

variable {cells : Nat → Json} {h : Holder} {left : Json}

private theorem keep_of_ne {n : Nat} (other : n ≠ h.place) : h.keep cells left n = cells n := by
  cases h with
  | itself place => exact Function.update_of_ne other _ _
  | holding m place =>
    cases left with
    | obj m' => exact Function.update_of_ne other _ _
    | _ => rfl

private theorem view_congr {cells' : Nat → Json} (same : cells' h.place = cells h.place) :
    h.view cells' = h.view cells := by
  cases h with
  | itself place => exact same
  | holding m place => rw [view, view, show cells' place = cells place from same]

private theorem view_keep {ε τ : Type} [Outside ε τ] [TimeScale τ] {l : Launcher ε τ}
    {R : Members → Members → Option Fault → Prop}
    (leaves : EntryLeft l.settings R (h.view cells) left) : h.view (h.keep cells left) = left := by
  cases h with
  | itself place => exact Function.update_self _ _ _
  | holding m place =>
    obtain ⟨set, rfl⟩ : ∃ set, left = .obj (Members.put m "capabilities" set) := by
      obtain rfl | ⟨entry, _, set, _, same, -, -, rfl⟩ := leaves
      · exact ⟨cells place, rfl⟩
      · obtain rfl := Json.obj.inj same
        exact ⟨set, by rw [Members.put_put]⟩
    simp [view, keep]

end Holder

def seen (cells : Nat → Json) (entries : List (String × Holder)) : Members :=
  entries.map fun p => (p.1, p.2.view cells)

variable {ε τ : Type} [Outside ε τ] [TimeScale τ]

/-- Inject healing support into named entries, one after the other, each as it is when its turn
comes. What is left are the contents of the places. -/
def augmentShared (l : Launcher ε τ) (auth : AuthResult) (config : LaunchConfig) (run : RunConfig)
    (options : HealingOptions) :
    List (String × Holder) → (Nat → Json) → Action ε τ (Nat → Json)
  | [], cells => return cells
  | (name, h) :: rest, cells => do
    let (left, fault?) ← l.augmentEntry auth config run options name (h.view cells)
    match fault? with
    | some fault =>
      Action.report options
        ("Could not add healing capabilities for " ++ name ++ ": " ++ fault.message)
    | none => pure ()
    l.augmentShared auth config run options rest (h.keep cells left)

/-- Nothing that is changed of an entry is shared with another one. -/
def Unshared (entries : List (String × Holder)) : Prop :=
  (entries.map fun p => p.2.place).Nodup

variable (l : Launcher ε τ) (auth : AuthResult) (config : LaunchConfig) (run : RunConfig)
  (options : HealingOptions)

private theorem run_augmentShared_cons (name : String) (h : Holder) (rest : List (String × Holder))
    (others : Members) (cells : Nat → Json) (w : World ε τ) :
    ∃ left v, EntryLeft l.settings (Capability.SetLeft l.settings) (h.view cells) left ∧
      (l.augmentShared auth config run options ((name, h) :: rest) cells).run w =
        (l.augmentShared auth config run options rest (h.keep cells left)).run v ∧
      (l.augmentEntries auth config run options ((name, h.view cells) :: others)).run w =
        (do return (name, left) :: (← l.augmentEntries auth config run options others)).run v := by
  obtain ⟨⟨left, fault?⟩, v, ran, leaves⟩ :=
    gives_augmentEntry l auth config run options name (h.view cells) w
  rw [augmentShared, augmentEntries, Action.run_bind_ok ran, Action.run_bind_ok ran]
  cases fault? with
  | none => exact ⟨left, v, leaves, rfl, rfl⟩
  | some fault =>
    obtain ⟨log, told⟩ := Action.run_log (if options.selfHeal then .warning else .debug)
      ("Could not add healing capabilities for " ++ name ++ ": " ++ fault.message) v
    exact ⟨left, { v with log }, leaves, Action.run_bind_ok told, Action.run_bind_ok told⟩

theorem run_augmentShared {entries : List (String × Holder)} (unshared : Unshared entries)
    (cells : Nat → Json) (w : World ε τ) :
    ∃ cells' v, (l.augmentShared auth config run options entries cells).run w = (.ok cells', v) ∧
      (l.augmentEntries auth config run options (seen cells entries)).run w =
        (.ok (seen cells' entries), v) ∧
      ∀ n, (∀ p ∈ entries, n ≠ p.2.place) → cells' n = cells n := by
  induction entries generalizing cells w with
  | nil => exact ⟨cells, w, rfl, rfl, fun _ _ => rfl⟩
  | cons p rest ih =>
    obtain ⟨name, h⟩ := p
    obtain ⟨alone, others⟩ := List.nodup_cons.1 unshared
    have apart : ∀ q ∈ rest, h.place ≠ q.2.place := fun q there same =>
      alone (List.mem_map.2 ⟨q, there, same.symm⟩)
    obtain ⟨left, u, leaves, shared, each⟩ :=
      run_augmentShared_cons l auth config run options name h rest (seen cells rest) cells w
    obtain ⟨cells', v, shared', each', kept⟩ := ih others (h.keep cells left) u
    have same : seen (h.keep cells left) rest = seen cells rest :=
      List.map_congr_left fun q there => by
        rw [Holder.view_congr (Holder.keep_of_ne (apart q there).symm)]
    have view : h.view cells' = left := by
      rw [Holder.view_congr (kept _ apart), Holder.view_keep leaves]
    refine ⟨cells', v, shared.trans shared', ?_, fun n other => ?_⟩
    · rw [seen, List.map_cons, ← seen, each, ← same, Action.run_bind_ok each', seen, seen,
        List.map_cons, view]
      rfl
    · rw [kept n fun q there => other q (List.mem_cons_of_mem _ there)]
      exact Holder.keep_of_ne (other _ List.mem_cons_self)

end Launcher

end LocatorHealing
