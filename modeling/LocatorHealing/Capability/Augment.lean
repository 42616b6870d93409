import LocatorHealing.Capability.Extension
import LocatorHealing.Capability.Shape

set_option autoImplicit false
set_option relaxedAutoImplicit false

/-!
Injecting healing support into capabilities. An entry is eligible if its browser is supported and
it does not run on the provider's infrastructure. What is injected is the metadata of healing and,
for browsers that take one, the companion extension.
-/

namespace LocatorHealing.Capability

def metadataName : String := "selfheal:options"

variable {ε τ : Type}

def isEligible (settings : Settings τ) (entry : Json) : Except Fault Bool := do
  let m ← entry.membersFor "get"
  let capabilities ← ((m.get? "capabilities").getD entry).membersFor "get"
  if ← settings.supportsBrowser ((capabilities.get? "browserName").getD .null) then
    return !(← settings.isProviderEntry entry)
  else return false

def metadata (settings : Settings τ) : Json :=
  .obj [("enabled", .bool true), ("clientVersion", .str settings.clientVersion),
    ("region", .str settings.region)]

def withExtension (encoded : String) (extensions : Json) : Json × Option Fault :=
  match extensions.holds encoded with
  | .error fault => (extensions, some fault)
  | .ok true => (extensions, none)
  | .ok false =>
    match extensions with
    | .arr items => (.arr (items ++ [.str encoded]), none)
    | v => (v, some (.noMember v.kindName "append"))

/-- Capabilities with an extension among the vendor options under a key. -/
def addExtension (key encoded : String) (m : Members) : Members × Option Fault :=
  match (m.get? key).getD (.obj []) with
  | .obj vendor =>
    let (extensions, fault?) :=
      withExtension encoded ((Members.get? vendor "extensions").getD (.arr []))
    (m.put key (.obj (Members.put vendor "extensions" extensions)), fault?)
  | v => (m, some (.noMember v.kindName "setdefault"))

/-- The keys of the options that take extensions, by the name of the browser. -/
def extensionOptionKeys : List (String × String) :=
  [("chrome", "goog:chromeOptions"), ("microsoftedge", "ms:edgeOptions"),
    ("edge", "ms:edgeOptions")]

/-- The key under which the browser of capabilities takes extensions. -/
def extensionKey? (m : Members) : Option String :=
  extensionOptionKeys.lookup (Text.lower ((m.get? "browserName").getD (.str "")).display)

def inject (settings : Settings τ) : Injector (Action ε τ) := fun m => do
  let m := m.put metadataName (metadata settings)
  match extensionKey? m, settings.chromeExtension.filter (· ≠ "") with
  | some key, some path =>
    match ← Action.attempt (encodedExtension path) with
    | .ok encoded => return addExtension key encoded m
    | .error fault => return (m, some fault)
  | _, _ => return (m, none)

/-- The user is authenticated, and asks for healing or has lookups logged. -/
def isAuthorized (auth : AuthResult) (options : HealingOptions) : Bool :=
  auth.isAuthenticated && (auth.defaultLogDataEnabled == some true || options.selfHeal)

/-- Inject healing support into capabilities of any layout, for a user who may have it. The
capabilities that are left come with the fault that ended it early, if there was one. -/
def augment (settings : Settings τ) (auth : AuthResult) (options : HealingOptions)
    (capabilities : Json) : Action ε τ (Json × Option Fault) := do
  if isAuthorized auth options then
    match Shape.of capabilities settings.firstEntryOnly with
    | .error fault => return (capabilities, some fault)
    | .ok shape =>
      let c ← shape.augment (inject settings) fun entry => isEligible settings (.obj entry)
      match c.fault? with
      | some fault => return (c.left.toJson, some fault)
      | none =>
        Action.log .debug
          ("Injected healing support into " ++ toString c.count ++ " capability set(s)")
        return (c.left.toJson, none)
  else
    if options.selfHeal then
      Action.log .warning
        ("Healing Auth failed. Disabling healing for this session. Reason: " ++
          (Json.ofText? auth.message).display)
    return (capabilities, none)

end LocatorHealing.Capability
