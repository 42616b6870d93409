import LocatorHealing.Json.Access

set_option autoImplicit false
set_option relaxedAutoImplicit false

/-!
The layouts in which a test runner hands over capabilities: one set, a list of sets, or a mapping
from names to entries that each hold a set. A change is made at every eligible target, from front
to back; a fault leaves what was changed before it.
-/

namespace LocatorHealing.Capability

inductive Shape where
  | single (capabilities : Members)
  | list (items : List Json) (firstOnly : Bool)
  | named (entries : Members)

/-- The set of capabilities in an entry. -/
def inner? : Json → Option Members
  | .obj entry =>
    match Members.get? entry "capabilities" with
    | some (.obj m) => some m
    | _ => none
  | _ => none

/-- A mapping from names to entries: there is at least one, and each holds a set. -/
def isNamed (m : Members) : Bool :=
  !m.isEmpty && m.all fun p => (inner? p.2).isSome

def Shape.of (raw : Json) (firstOnly : Bool) : Except Fault Shape :=
  match raw with
  | .arr items => .ok (.list items firstOnly)
  | .obj m => .ok (if isNamed m then .named m else .single m)
  | v => .error (.unsupportedShape v.kindName)

def Shape.toJson : Shape → Json
  | .single m => .obj m
  | .list items _ => .arr items
  | .named entries => .obj entries

/-- What a change leaves, at how many targets it was made, and the fault that ended it early. -/
structure Changed (α : Type) where
  left : α
  count : Nat
  fault? : Option Fault

namespace Changed

variable {α β : Type}

def map (f : α → β) (c : Changed α) : Changed β :=
  ⟨f c.left, c.count, c.fault?⟩

def none (a : α) : Changed α :=
  ⟨a, 0, .none⟩

def stop (a : α) (fault : Fault) : Changed α :=
  ⟨a, 0, some fault⟩

/-- What a change of one target leaves; it counts if it came to its end. -/
def ofTarget (a : α) (fault? : Option Fault) : Changed α :=
  ⟨a, if fault?.isSome then 0 else 1, fault?⟩

end Changed

variable {m : Type → Type} [Monad m] {α : Type}

/-- Change what stands in a list, from front to back, up to the first fault. -/
def changeEach (change : α → m (Changed α)) : List α → m (Changed (List α))
  | [] => return .none []
  | a :: rest => do
    let c ← change a
    match c.fault? with
    | some fault => return ⟨c.left :: rest, c.count, some fault⟩
    | none =>
      let d ← changeEach change rest
      return ⟨c.left :: d.left, c.count + d.count, d.fault?⟩

/-- A change of one set of capabilities: what it leaves, and the fault it ended with, if any. -/
abbrev Injector (m : Type → Type) : Type :=
  Members → m (Members × Option Fault)

/-- Decides whether an entry is a target. -/
abbrev Eligibility : Type :=
  Members → Except Fault Bool

/-- Change a target, if the entry that it belongs to is eligible. -/
def changeTarget (inject : Injector m) (isEligible : Eligibility) (entry target : Members) :
    m (Changed Members) := do
  match isEligible entry with
  | .error fault => return .stop target fault
  | .ok false => return .none target
  | .ok true =>
    let (left, fault?) ← inject target
    return .ofTarget left fault?

/-- Change an item of a list, if it is a set of capabilities. -/
def changeItem (inject : Injector m) (isEligible : Eligibility) : Json → m (Changed Json)
  | .obj entry => do
    let c ← changeTarget inject isEligible entry entry
    return c.map Json.obj
  | item => return .none item

def changeEntry (inject : Injector m) (isEligible : Eligibility) (named : String × Json) :
    m (Changed (String × Json)) := do
  match named.2 with
  | .obj entry =>
    match inner? named.2 with
    | some target =>
      let c ← changeTarget inject isEligible entry target
      return c.map fun target => (named.1, .obj (Members.put entry "capabilities" (.obj target)))
    | none => return .none named
  | v => return .stop named (.noMember v.kindName "get")

def Shape.augment (inject : Injector m) (isEligible : Eligibility) : Shape → m (Changed Shape)
  | .single entry => do
    let c ← changeTarget inject isEligible entry entry
    return c.map Shape.single
  | .list items firstOnly => do
    let reach := if firstOnly then 1 else items.length
    let c ← changeEach (changeItem inject isEligible) (items.take reach)
    return c.map fun changed => .list (changed ++ items.drop reach) firstOnly
  | .named entries => do
    let c ← changeEach (changeEntry inject isEligible) entries
    return c.map Shape.named

end LocatorHealing.Capability
