import LocatorHealing.Audit
import LocatorHealing.Binding
import LocatorHealing.Proofs.Files.Growth

set_option autoImplicit false
set_option relaxedAutoImplicit false

/-!
What auditing leaves in the files. Where the audit directory can be made, and nothing else is looked
for there, the files differ from what they would be by directories and by the audit file, and the
companion add-on is found, or not, just as it would be.
-/

namespace LocatorHealing

variable {τ : Type}

/-- The settings name a directory to audit in. -/
def Settings.AuditsIn (s : Settings τ) (directory : String) : Prop :=
  s.auditDirectory.filter (· ≠ "") = some directory

def Settings.auditFile? (s : Settings τ) : Option FilePath :=
  (s.auditDirectory.filter (· ≠ "")).map Audit.fileIn

/-- Nothing stands in the way of auditing: the audit directory can be made, or is there, and the
companion add-on is looked for elsewhere. -/
structure Settings.Auditable (s : Settings τ) (files : FileTree) : Prop where
  rooted : files.Rooted
  makes : ∀ directory, s.AuditsIn directory →
    ∃ made, files.makeDirectories (.ofText directory) = .ok made
  apart : ∀ directory path, s.AuditsIn directory → s.firefoxAddon.filter (· ≠ "") = some path →
    (FilePath.ofText path).Plain ∧
      files.absolute (.ofText path) ≠ files.absolute (Audit.fileIn directory)

/-- Files that auditing has left, next to those that were there. -/
structure Settings.Leaves (s : Settings τ) (files audited : FileTree) : Prop where
  auditable : s.Auditable files
  companion : Session.companionFile s audited = Session.companionFile s files
  grows : ∀ directory, s.AuditsIn directory →
    files.Grows (files.absolute (Audit.fileIn directory)).steps audited
  makes : ∀ directory, s.AuditsIn directory →
    ∃ made, audited.makeDirectories (.ofText directory) = .ok made

variable {s : Settings τ} {files audited more : FileTree} {directory : String}

theorem Settings.Auditable.leaves (auditable : s.Auditable files) : s.Leaves files files where
  auditable := auditable
  companion := rfl
  grows _ _ := .refl _ files
  makes := auditable.makes

theorem Settings.Leaves.fit (leaves : s.Leaves files audited) (audits : s.AuditsIn directory) :
    FileTree.unfit? (Audit.fileIn directory) = none := by
  obtain ⟨made, makes⟩ := leaves.makes directory audits
  exact FileTree.unfit?_child (FileTree.makeDirectories_fit makes) (by decide)

theorem Settings.AuditsIn.unique {other : String} (audits : s.AuditsIn directory)
    (also : s.AuditsIn other) : other = directory :=
  Option.some.inj (also.symm.trans audits)

theorem Settings.Leaves.grown (leaves : s.Leaves files audited) (audits : s.AuditsIn directory)
    (grows : audited.Grows (audited.absolute (Audit.fileIn directory)).steps more)
    (again : more.makeDirectories (.ofText directory) = .ok more) : s.Leaves files more := by
  -- all that was left so far, and what is left now, is at the same places
  have all : files.Grows (files.absolute (Audit.fileIn directory)).steps more := by
    have before := leaves.grows directory audits
    rw [before.absolute] at grows
    exact before.trans grows
  refine ⟨leaves.auditable, ?_, fun other also => ?_, fun other also => ?_⟩
  · unfold Session.companionFile
    cases named : s.firefoxAddon.filter (· ≠ "") with
    | none => rfl
    | some path =>
      obtain ⟨plain, apart⟩ := leaves.auditable.apart directory path audits named
      have elsewhere : (files.absolute (.ofText path)).steps ≠
          (files.absolute (Audit.fileIn directory)).steps :=
        fun same => apart (congrArg (FilePath.mk 1) same)
      dsimp only
      rw [all.seekFile leaves.auditable.rooted plain elsewhere, all.absolute]
  · rwa [audits.unique also]
  · rw [audits.unique also]
    exact ⟨more, again⟩

theorem Settings.Leaves.made (leaves : s.Leaves files audited) (audits : s.AuditsIn directory)
    (makes : audited.makeDirectories (.ofText directory) = .ok more) : s.Leaves files more :=
  leaves.grown audits (FileTree.makeDirectories_grows makes _)
    (FileTree.makeDirectories_again makes)

theorem Settings.Leaves.appended {octets : List UInt8} (leaves : s.Leaves files audited)
    (audits : s.AuditsIn directory)
    (appends : audited.append (Audit.fileIn directory) octets = .ok more) :
    s.Leaves files more := by
  obtain ⟨made, makes⟩ := leaves.makes directory audits
  exact leaves.grown audits (FileTree.append_grows appends)
    (FileTree.makeDirectories_of_append (FileTree.makeDirectories_fit makes) (by decide) appends)

end LocatorHealing
