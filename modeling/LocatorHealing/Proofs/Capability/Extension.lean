import LocatorHealing.Capability.Extension

set_option autoImplicit false
set_option relaxedAutoImplicit false

/-!
The companion extension as a world has it. To read it leaves its text as it is, since a file that
was just encoded is remembered.
-/

namespace LocatorHealing

variable {ε τ : Type}

namespace Capability

private theorem lookup_remember {κ α : Type} [BEq κ] [LawfulBEq κ] (key : κ) (value : α)
    (memory : List (κ × α)) : (remember key value memory).lookup key = some value := by
  rw [remember, memorySize, List.take_succ_cons, List.lookup_cons_self]

theorem encodedExtension_congr (path : String) {w v : World ε τ} (files : v.files = w.files)
    (encoded : v.encoded = w.encoded) :
    ((encodedExtension path).run v).1 = ((encodedExtension path).run w).1 := by
  simp only [encodedExtension, Action.run_bind, Action.run_read, Action.andThen_ok,
    Action.run_ofExcept, files]
  cases w.files.seekFile (FilePath.ofText path) with
  | error fault => rfl
  | ok file =>
    cases file with
    | none => rfl
    | some file =>
      simp only [Action.andThen_ok, Action.run_bind, Action.run_read, Action.run_modify,
        Action.run_pure, encoded]

theorem encodedExtension_again (path : String) (w : World ε τ) :
    ∃ encoded, ((encodedExtension path).run w).2 = { w with encoded } ∧
      ((encodedExtension path).run { w with encoded }).1 = ((encodedExtension path).run w).1 := by
  simp only [encodedExtension, Action.run_bind, Action.run_read, Action.andThen_ok,
    Action.run_ofExcept]
  cases w.files.seekFile (FilePath.ofText path) with
  | error fault => exact ⟨w.encoded, rfl, rfl⟩
  | ok file =>
    cases file with
    | none => exact ⟨w.encoded, rfl, rfl⟩
    | some file =>
      refine ⟨_, rfl, ?_⟩
      simp only [Action.andThen_ok, Action.run_bind, Action.run_read, Action.run_modify,
        Action.run_pure, lookup_remember, Option.getD_some]

end Capability

end LocatorHealing
