import LocatorHealing.Text.Base64
import LocatorHealing.Action

set_option autoImplicit false
set_option relaxedAutoImplicit false

/-!
The companion extension as text. Files that were encoded are remembered by path and time of
modification; of more than eight, the one used longest ago is forgotten.
-/

namespace LocatorHealing.Capability

def memorySize : Nat := 8

variable {κ α : Type} [BEq κ]

/-- Use a value under a key, which puts it in front. -/
def remember (key : κ) (value : α) (memory : List (κ × α)) : List (κ × α) :=
  ((key, value) :: memory.filter fun p => !(p.1 == key)).take memorySize

variable {ε τ : Type}

def encodedExtension (path : String) : Action ε τ String := do
  let path := FilePath.ofText path
  match ← Action.ofExcept ((← Action.read World.files).seekFile path) with
  | none => Action.raise (.extensionMissing path.text)
  | some (octets, modified) =>
    let key := (path.text, modified)
    let memory ← Action.read World.encoded
    let text := (memory.lookup key).getD (String.ofList (Base64.encode octets))
    Action.modify fun w => { w with encoded := remember key text memory }
    return text

end LocatorHealing.Capability
