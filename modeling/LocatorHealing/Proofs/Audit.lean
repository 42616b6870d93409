import LocatorHealing.Audit

set_option autoImplicit false
set_option relaxedAutoImplicit false

/-!
Auditing that fails by the system alone: where the audit file has a path that can be handed to the
file system, and the disk raises no other faults.
-/

namespace LocatorHealing

theorem Fault.isSystem_file (cause : FileCause) (path : String) :
    (Fault.file cause path).isSystem = true := by
  cases cause with
  | _ => rfl

private theorem FileTree.system_of_append {t : FileTree} {p : FilePath} {octets : List UInt8}
    {fault : Fault} (fit : FileTree.unfit? p = none) (failed : t.append p octets = .error fault) :
    fault.isSystem = true := by
  unfold append handed at failed
  rw [fit] at failed
  cases located : t.place p with
  | error cause =>
    simp only [located] at failed
    cases failed
    exact Fault.isSystem_file _ _
  | ok place =>
    simp only [located] at failed
    split at failed
    · cases failed
    · cases failed
    · cases failed
      exact Fault.isSystem_file _ _

/-- Writing to the audit file fails by the system alone. -/
def Healing.AuditsPlainly {ε τ : Type} [Outside ε τ] (h : Healing ε τ) : Prop :=
  ∀ file, h.auditFile = some file → ∀ record (v u : World ε τ) fault,
    (Audit.write file record).run v = (.error fault, u) → fault.isSystem = true

theorem Healing.auditsPlainly_of_fit {ε τ : Type} [Outside ε τ] {h : Healing ε τ}
    (fit : ∀ file, h.auditFile = some file → FileTree.unfit? file = none)
    (disk : ∀ file, h.auditFile = some file → ∀ line (s : ε) fault,
      (Outside.append file.text line s).1 = some fault → fault.isSystem = true) :
    h.AuditsPlainly := by
  intro file there record v u fault raised
  obtain reacted | ⟨refused, w, reacted, rest⟩ := Action.of_run_bind_error raised
  · cases reacted
  cases refused with
  | some other =>
    cases rest
    exact disk file there _ _ _ (Except.ok.inj (congrArg Prod.fst reacted))
  | none =>
    obtain read | ⟨files, _, -, rest⟩ := Action.of_run_bind_error rest
    · cases read
    obtain failed | ⟨_, _, -, changed⟩ := Action.of_run_bind_error rest
    · rw [Action.run_ofExcept] at failed
      exact FileTree.system_of_append (fit file there) (congrArg Prod.fst failed)
    · cases changed

end LocatorHealing
