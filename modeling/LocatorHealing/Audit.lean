import LocatorHealing.Json.Reader
import LocatorHealing.Json.Writer
import LocatorHealing.Locator
import LocatorHealing.Action

set_option autoImplicit false
set_option relaxedAutoImplicit false

/-!
The audit of healing attempts: one line of JSON for each attempt, appended to a file in the audit
directory.
-/

namespace LocatorHealing.Audit

/-- A finished healing attempt. -/
structure Record where
  timestamp : String
  sessionId : Json
  strategy : String
  value : String
  healed : Option HealedLocator
  states : List String
  success : Bool

namespace Record

def toJson (r : Record) : Json :=
  .obj [("timestamp", .str r.timestamp), ("session_id", r.sessionId),
    ("locator_type", .str r.strategy), ("locator_value", .str r.value),
    ("healed_selector", Json.ofText? (r.healed.map (·.selector))),
    ("healed_value", Json.ofText? (r.healed.map (·.value))),
    ("states", .arr (r.states.map Json.str)), ("success", .bool r.success)]

def line (r : Record) : String :=
  Text.ofChars (Json.writeChars .spaced r.toJson ++ ['\n'])

end Record

def fileIn (directory : String) : FilePath :=
  (FilePath.ofText directory).child "healing_attempts.jsonl"

/-- The values in the lines of a text; blank lines count for nothing. -/
def readLines [Json.Nesting] (text : List Char) : Except Json.Malformed (List Json) :=
  ((Text.lines text).filter fun line => !line.all Text.isBlank).mapM fun line =>
    Json.parse (Text.ofChars line)

variable {ε τ : Type}

def openIn (directory : String) : Action ε τ FilePath := do
  let files ← Action.read World.files
  let files ← Action.ofExcept (files.makeDirectories (FilePath.ofText directory))
  Action.modify fun w => { w with files }
  return fileIn directory

def write [Outside ε τ] (file : FilePath) (r : Record) : Action ε τ Unit := do
  match ← Action.react (Outside.append file.text r.line) with
  | some fault => Action.raise fault
  | none =>
    let files ← Action.read World.files
    let files ← Action.ofExcept (files.append file (Utf8.octets r.line))
    Action.modify fun w => { w with files }

/-- The records of an audit file; without a file there are none. -/
def read [Outside ε τ] (file : FilePath) : Action ε τ (List Json) := do
  let files ← Action.read World.files
  match ← Action.ofExcept (files.seek file) with
  | none => return []
  | some _ =>
    let text ← Action.ofExcept (files.readText file)
    match @readLines (Outside.nesting ε) text with
    | .ok values => return values
    | .error place => Action.raise (.malformed place)

end LocatorHealing.Audit
