import LocatorHealing.Json.Writer
import LocatorHealing.Fault
import LocatorHealing.Validation.Scalar

set_option autoImplicit false
set_option relaxedAutoImplicit false

/-!
The outcome of authenticating against the healing service, and the one environment variable that
carries it from the launcher to the workers: compact JSON, without the fields that are absent.
-/

namespace LocatorHealing

structure AuthResult where
  isAuthenticated : Bool := false
  status : Option Int := none
  message : Option String := none
  userId : Option String := none
  groupId : Option String := none
  sessionToken : Option String := none
  isHealingEnabled : Option Bool := none
  isGroupAiEnabled : Option Bool := none
  defaultLogDataEnabled : Option Bool := none
  deriving DecidableEq, Repr

namespace AuthResult

def variableName : String := "SELFHEAL_AUTH_RESULT"

open Validation

/-- Check the members of an object as a result. -/
def checkFields (m : Members) : Checked AuthResult :=
  mk <$> withDefault m ⟨"isAuthenticated", "is_authenticated"⟩ flag false
    <*> optional m ⟨"status", "status"⟩ integer
    <*> optional m ⟨"message", "message"⟩ text
    <*> optional m ⟨"userId", "user_id"⟩ text
    <*> optional m ⟨"groupId", "group_id"⟩ text
    <*> optional m ⟨"sessionToken", "session_token"⟩ text
    <*> optional m ⟨"isHealingEnabled", "is_healing_enabled"⟩ flag
    <*> optional m ⟨"isGroupAIEnabled", "is_group_ai_enabled"⟩ flag
    <*> optional m ⟨"defaultLogDataEnabled", "default_log_data_enabled"⟩ flag

def check : Json → Checked AuthResult :=
  record "AuthResult" checkFields

def ofJson (v : Json) : Except Fault AuthResult :=
  (check v).orFault "AuthResult"

def present (name : String) (v : Json) : Members :=
  if v.isNull then [] else [(name, v)]

def members (a : AuthResult) : Members :=
  present "isAuthenticated" (.bool a.isAuthenticated) ++
    present "status" (Json.ofInt? a.status) ++
    present "message" (Json.ofText? a.message) ++
    present "userId" (Json.ofText? a.userId) ++
    present "groupId" (Json.ofText? a.groupId) ++
    present "sessionToken" (Json.ofText? a.sessionToken) ++
    present "isHealingEnabled" (Json.ofFlag? a.isHealingEnabled) ++
    present "isGroupAIEnabled" (Json.ofFlag? a.isGroupAiEnabled) ++
    present "defaultLogDataEnabled" (Json.ofFlag? a.defaultLogDataEnabled)

def toVariable (a : AuthResult) : String :=
  Json.write .compact (.obj a.members)

def texts (a : AuthResult) : List String :=
  [a.message, a.userId, a.groupId, a.sessionToken].filterMap id

/-- The value of the environment variable for a result that can be handed on: none of its texts
holds an unpaired surrogate. -/
def exported (a : AuthResult) : Except Fault String :=
  match a.texts.findSome? Codec.utf8.defect? with
  | some defect => .error (.notExportable defect)
  | none => .ok a.toVariable

/-- A value of the environment variable that stands for no result. -/
def isVoid (raw : String) : Bool :=
  Text.isAllBlank raw || Text.trim raw == "\x7b\x7d"

/-- The result that a value of the environment variable stands for, if it stands for one; an
unreadable value is a fault. -/
def ofVariable (raw : String) : Except Fault (Option AuthResult) :=
  if isVoid raw then .ok none
  else
    match Json.parseStrict? raw with
    | none => .error (.invalid "AuthResult" [⟨.notJson, []⟩])
    | some v => (ofJson v).map some

/-- Assigning to a field is refused, whichever field it is. A name that starts with an underscore is
none of a field: assigning to it is allowed, and leaves the result as it is. -/
def assign (a : AuthResult) (field : String) (_value : Json) : Except Fault AuthResult :=
  if field.toList.head? = some '_' then .ok a
  else .error (.invalid "AuthResult" [⟨.frozen, [.field field]⟩])

end AuthResult

end LocatorHealing
