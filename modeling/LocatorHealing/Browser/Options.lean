import LocatorHealing.Json.Access
import LocatorHealing.Text.Case

set_option autoImplicit false
set_option relaxedAutoImplicit false

/-!
The options that a browser is started with, built from a set of capabilities: the arguments and
extensions under the vendor's key, and every other capability as it is.
-/

namespace LocatorHealing

/-- The families of browsers. -/
inductive Browser where
  | chrome
  | edge
  | firefox
  deriving DecidableEq, Repr

namespace Browser

def ofName? (name : String) : Option Browser :=
  if name = "chrome" then some .chrome
  else if name = "microsoftedge" ∨ name = "edge" then some .edge
  else if name = "firefox" then some .firefox
  else none

def vendorKey? : Browser → Option String
  | .chrome => some "goog:chromeOptions"
  | .edge => some "ms:edgeOptions"
  | .firefox => none

def isVendorKey (name : String) : Bool :=
  name == "goog:chromeOptions" || name == "ms:edgeOptions"

def headlessArgument : Browser → String
  | .firefox => "-headless"
  | _ => "--headless=new"

/-- The capabilities that fresh options come with, which are up to the drivers' library. -/
class Defaults where
  capabilities : Browser → Members

/-- Options to start a browser with. -/
structure Options where
  browser : Browser
  arguments : List Json
  extensions : List Json
  capabilities : Members

/-- The values to be added to options one by one; an empty one among them is refused. -/
def addable (values : Json) : Except Fault (List Json) := do
  let items ← values.iterated
  if items.all Json.truthy then .ok items else .error .emptyArgument

def isPlainCapability (name : String) : Bool :=
  !isVendorKey name && name != "browserName"

/-- The name of the browser that capabilities ask for; without one it is Chrome. -/
def wantedName (m : Members) : String :=
  Text.lower ((m.get? "browserName").getD "chrome").display

def vendorOptions (browser : Browser) (m : Members) : Except Fault Members :=
  match browser.vendorKey? with
  | some key => ((m.get? key).getD (.obj [])).membersFor "get"
  | none => .ok []

def Options.build [Defaults] (headless : Bool) (capabilities : Json) : Except Fault Options := do
  let m ← capabilities.membersFor "get"
  match ofName? (wantedName m) with
  | none => .error (.unsupportedBrowser (wantedName m))
  | some browser =>
    let vendor ← browser.vendorOptions m
    let arguments ← addable ((vendor.get? "args").getD (.arr []))
    let extensions ← addable ((vendor.get? "extensions").getD (.arr []))
    return {
      browser
      arguments := (if headless then [.str browser.headlessArgument] else []) ++ arguments
      extensions
      capabilities :=
        (m.filter fun p => isPlainCapability p.1).foldl (fun c p => c.put p.1 p.2)
          (Defaults.capabilities browser) }

/-- Where a browser is started. -/
inductive Site where
  | here (browser : Browser)
  | hub (executor : Json)

def Site.word : Site → String
  | .here .chrome => "Chrome"
  | .here .edge => "Edge"
  | .here .firefox => "Firefox"
  | .hub _ => "Remote"

end Browser

end LocatorHealing
