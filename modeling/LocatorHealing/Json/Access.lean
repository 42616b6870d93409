import LocatorHealing.Fault

set_option autoImplicit false
set_option relaxedAutoImplicit false

/-!
Reading parts of values whose shape is not known: a value of the wrong kind is a fault.
-/

namespace LocatorHealing.Json

/-- The members of a value that is used as an object; `name` is the operation asked of it. -/
def membersFor (name : String) : Json → Except Fault Members
  | .obj m => .ok m
  | v => .error (.noMember v.kindName name)

def member? (v : Json) (name : String) : Except Fault (Option Json) :=
  (v.membersFor "get").map (·.get? name)

/-- The text of a value that is used as one; `name` is the operation asked of it. -/
def textFor (name : String) : Json → Except Fault String
  | .str s => .ok s
  | v => .error (.noMember v.kindName name)

/-- The items met in going through a value: of a list, the characters of a text, the names of
an object. -/
def iterated : Json → Except Fault (List Json)
  | .arr items => .ok items
  | .str s => .ok ((Text.codes s).map fun p => .str (Text.ofCodes [p]))
  | .obj m => .ok (m.map fun p => .str p.1)
  | v => .error (.notIterable v.kindName)

def isInfixOf (part : List CodePoint) : List CodePoint → Bool
  | [] => part.isEmpty
  | p :: s => part.isPrefixOf (p :: s) || isInfixOf part s

/-- Whether a text occurs in a value: as an item of a list, as a part of a text, as a name of an
object. -/
def holds (v : Json) (text : String) : Except Fault Bool :=
  match v with
  | .arr items => .ok (items.any (·.same (.str text)))
  | .str s => .ok (isInfixOf (Text.codes text) (Text.codes s))
  | .obj m => .ok (Members.contains m text)
  | v => .error (.notSearchable v.kindName)

end LocatorHealing.Json
