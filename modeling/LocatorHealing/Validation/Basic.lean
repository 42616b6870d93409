import LocatorHealing.Json.Basic

set_option autoImplicit false
set_option relaxedAutoImplicit false

/-!
Checking data against a record type. A check that fails lists every issue it found, in the order
of the fields, each with its place in the data; two checks side by side report the issues of both.
-/

namespace LocatorHealing

namespace Validation

/-- What can be wrong with a piece of data. -/
inductive Problem where
  | missing
  | notRecord (model : String)
  | notText
  | surrogate
  | notFlag
  | unreadableFlag
  | notInteger
  | unreadableInteger
  | fractional
  | notFinite
  | oversized
  | notNumber
  | unreadableNumber
  | notList
  | frozen
  | notJson
  | refused (message : String)
  deriving DecidableEq, Repr

def Problem.code : Problem → String
  | .missing => "missing"
  | .notRecord _ => "model_type"
  | .notText => "string_type"
  | .surrogate => "string_unicode"
  | .notFlag => "bool_type"
  | .unreadableFlag => "bool_parsing"
  | .notInteger => "int_type"
  | .unreadableInteger => "int_parsing"
  | .fractional => "int_from_float"
  | .notFinite => "finite_number"
  | .oversized => "int_parsing_size"
  | .notNumber => "float_type"
  | .unreadableNumber => "float_parsing"
  | .notList => "list_type"
  | .frozen => "frozen_instance"
  | .notJson => "json_invalid"
  | .refused _ => "value_error"

def Problem.text : Problem → String
  | .missing => "Field required"
  | .notRecord model => "Input should be a valid dictionary or instance of " ++ model
  | .notText => "Input should be a valid string"
  | .surrogate => "Input should be a valid string, unable to parse raw data as a unicode string"
  | .notFlag => "Input should be a valid boolean"
  | .unreadableFlag => "Input should be a valid boolean, unable to interpret input"
  | .notInteger => "Input should be a valid integer"
  | .unreadableInteger =>
    "Input should be a valid integer, unable to parse string as an integer"
  | .fractional => "Input should be a valid integer, got a number with a fractional part"
  | .notFinite => "Input should be a finite number"
  | .oversized => "Unable to parse input string as an integer, exceeded maximum size"
  | .notNumber => "Input should be a valid number"
  | .unreadableNumber => "Input should be a valid number, unable to parse string as a number"
  | .notList => "Input should be a valid list"
  | .frozen => "Instance is frozen"
  | .notJson => "Invalid JSON"
  | .refused message => "Value error, " ++ message

def Problem.own : Problem → String
  | .refused message => message
  | _ => ""

/-- One step into data. -/
inductive Place where
  | field (name : String)
  | index (i : Nat)
  deriving DecidableEq, Repr

structure Issue where
  problem : Problem
  path : List Place
  deriving DecidableEq, Repr

def Issue.within (place : Place) (issue : Issue) : Issue :=
  ⟨issue.problem, place :: issue.path⟩

end Validation

/-- A value, or the issues that keep it from being one. -/
inductive Checked (α : Type) where
  | valid (value : α)
  | invalid (issues : List Validation.Issue)

namespace Checked

variable {α β : Type}

def map (f : α → β) : Checked α → Checked β
  | .valid a => .valid (f a)
  | .invalid issues => .invalid issues

/-- Apply a checked function to a checked argument; the issues of both are kept. -/
def apply : Checked (α → β) → Checked α → Checked β
  | .valid f, .valid a => .valid (f a)
  | .valid _, .invalid issues => .invalid issues
  | .invalid issues, .valid _ => .invalid issues
  | .invalid issues, .invalid more => .invalid (issues ++ more)

instance : Functor Checked where
  map := map

instance : Seq Checked where
  seq f a := apply f (a ())

def andThen (c : Checked α) (f : α → Checked β) : Checked β :=
  match c with
  | .valid a => f a
  | .invalid issues => .invalid issues

def fail (problem : Validation.Problem) : Checked α :=
  .invalid [⟨problem, []⟩]

def within (place : Validation.Place) : Checked α → Checked α
  | .valid a => .valid a
  | .invalid issues => .invalid (issues.map (·.within place))

def eachFrom (f : Json → Checked α) (i : Nat) : List Json → Checked (List α)
  | [] => .valid []
  | v :: rest =>
    apply (map List.cons ((f v).within (.index i))) (eachFrom f (i + 1) rest)

def each (f : Json → Checked α) (items : List Json) : Checked (List α) :=
  eachFrom f 0 items

end Checked

namespace Validation

variable {α : Type}

/-- How a field is named in data: the name that wins, and the one that serves without it. -/
structure Naming where
  preferred : String
  plain : String

def Naming.simple (name : String) : Naming := ⟨name, name⟩

/-- The value that data hold for a field, with the name it stands under. -/
def Naming.find? (naming : Naming) (m : Members) : Option (String × Json) :=
  match m.get? naming.preferred with
  | some v => some (naming.preferred, v)
  | none => (m.get? naming.plain).map (naming.plain, ·)

def required (m : Members) (naming : Naming) (read : Json → Checked α) : Checked α :=
  match naming.find? m with
  | some (name, v) => (read v).within (.field name)
  | none => .invalid [⟨.missing, [.field naming.preferred]⟩]

def withDefault (m : Members) (naming : Naming) (read : Json → Checked α) (absent : α) :
    Checked α :=
  match naming.find? m with
  | some (name, v) => (read v).within (.field name)
  | none => .valid absent

def nullable (read : Json → Checked α) : Json → Checked (Option α)
  | .null => .valid none
  | v => (read v).map some

def optional (m : Members) (naming : Naming) (read : Json → Checked α) : Checked (Option α) :=
  withDefault m naming (nullable read) none

def record (model : String) (fields : Members → Checked α) : Json → Checked α
  | .obj m => fields m
  | _ => .fail (.notRecord model)

end Validation

end LocatorHealing
