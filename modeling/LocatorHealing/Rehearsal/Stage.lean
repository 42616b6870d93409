import LocatorHealing.Outside

set_option autoImplicit false
set_option relaxedAutoImplicit false

/-!
A world outside that follows a script: the network and the drivers answer each call with the next
entry of a list, and with nothing in particular once the list is used up. An entry may take time,
close sessions and change pages before it answers.
-/

namespace LocatorHealing.Rehearsal

/-- What an entry of a script does before it answers. -/
inductive Act where
  | quit (session : String)
  | lose (session : String)
  | add (session : String) (strategy value : Json)
  | remove (session : String) (strategy value : Json)

/-- An entry of a script. -/
structure Entry (α : Type) where
  delay : Option Number := none
  acts : List Act := []
  result : α

/-- The script of a driver. Each command has its own list; an entry may raise a fault instead of
answering. -/
structure DriverScript where
  elements : List (Json × Json) := []
  finds : List (Entry (Except Fault Unit)) := []
  scripts : List (Entry (Except Fault Json)) := []
  addons : List (Entry (Except Fault Json)) := []
  quits : List (Entry (Except Fault Unit)) := []

/-- The script of the whole world outside, as far as it is not yet used up. -/
structure Stage where
  /-- The replies to requests, by the last part of their URL. -/
  transport : List (String × List (Entry (Except Fault HttpAnswer))) := []
  drivers : List (String × DriverScript) := []
  sinkFault : Option Fault := none
  startFault : Option Fault := none

namespace Stage

def driver (stage : Stage) (session : String) : DriverScript :=
  (stage.drivers.lookup session).getD {}

def setDriver (stage : Stage) (session : String) (d : DriverScript) : Stage :=
  { stage with
    drivers := (session, d) :: stage.drivers.filter fun p => p.1 != session }

/-- The elements of a page without the first that equals one. -/
def without (elements : List (Json × Json)) (strategy value : Json) : List (Json × Json) :=
  elements.eraseP fun p => p.1.same strategy && p.2.same value

def addElement (stage : Stage) (session : String) (strategy value : Json) : Stage :=
  let d := stage.driver session
  stage.setDriver session { d with elements := d.elements ++ [(strategy, value)] }

def removeElement (stage : Stage) (session : String) (strategy value : Json) : Stage :=
  let d := stage.driver session
  stage.setDriver session { d with elements := without d.elements strategy value }

end Stage

/-- What a part of a script comes to: what happens, the fault that ends it if one does, and what is
left of the script. -/
structure Played where
  happenings : List (Happening Number Empty)
  fault? : Option Fault
  stage : Stage

namespace Played

def quiet (stage : Stage) : Played :=
  ⟨[], none, stage⟩

/-- First one thing, then another, unless the first ends in a fault. -/
def andThen (p : Played) (next : Stage → Played) : Played :=
  match p.fault? with
  | some _ => p
  | none =>
    let q := next p.stage
    ⟨p.happenings ++ q.happenings, q.fault?, q.stage⟩

def happens (h : Happening Number Empty) (stage : Stage) : Played :=
  ⟨[h], none, stage⟩

def ends (r : Except Fault Unit) (stage : Stage) : Played :=
  match r with
  | .ok () => quiet stage
  | .error fault => ⟨[], some fault, stage⟩

/-- Time passes. A delay that is no double cannot be added to the clock, which is one. -/
def passes (delay : Option Number) (stage : Stage) : Played :=
  match delay with
  | some d =>
    if d.toFloat?.isSome then happens (.elapse d) stage else ⟨[], some .numberTooLarge, stage⟩
  | none => quiet stage

end Played

/-- Play acts one after the other, given how a session quits. -/
def playActs (quit : String → Stage → Played) : List Act → Stage → Played
  | [], stage => .quiet stage
  | act :: rest, stage =>
    let played :=
      match act with
      | .quit session => quit session stage
      | .lose session => .happens (.lose session) stage
      | .add session strategy value => .quiet (stage.addElement session strategy value)
      | .remove session strategy value => .quiet (stage.removeElement session strategy value)
    played.andThen (playActs quit rest)

def playDriverQuit (quit : String → Stage → Played) (session : String) (stage : Stage) : Played :=
  let d := stage.driver session
  match d.quits with
  | [] => .quiet stage
  | entry :: rest =>
    (((Played.passes entry.delay (stage.setDriver session { d with quits := rest })).andThen
      (playActs quit entry.acts)).andThen (Played.ends entry.result))

/-- Quit a session. The entry of its driver may quit further sessions, to any depth that the
entries left allow. -/
def playQuit : (depth : Nat) → (session : String) → Stage → Played
  | 0, session, stage =>
    (Played.happens (.quit session) stage).andThen (Played.happens (.lose session))
  | depth + 1, session, stage =>
    ((Played.happens (.quit session) stage).andThen
      (playDriverQuit (playQuit depth) session)).andThen (Played.happens (.lose session))

def Stage.quitsLeft (stage : Stage) : Nat :=
  stage.drivers.foldr (fun p left => p.2.quits.length + left) 0

def play {α : Type} (entry : Entry α) (stage : Stage) : Played :=
  (Played.passes entry.delay stage).andThen
    (playActs (playQuit (stage.quitsLeft + 1)) entry.acts)

def answer {α β ρ : Type} (entry : Entry α) (read : α → Stage → Except Fault β) (stage : Stage) :
    Exchange Number ρ β × Stage :=
  let p := play entry stage
  let happenings := p.happenings.map .lift
  match p.fault? with
  | some fault => (⟨happenings, .error fault⟩, p.stage)
  | none => (⟨happenings, read entry.result p.stage⟩, p.stage)

def routeOf (url : String) : String :=
  match Text.cutLast '/' url.toList with
  | some (_, route) => String.ofList route
  | none => url

def nextReply (transport : List (String × List (Entry (Except Fault HttpAnswer))))
    (route : String) :
    Entry (Except Fault HttpAnswer) × List (String × List (Entry (Except Fault HttpAnswer))) :=
  match transport with
  | [] => (⟨none, [], .ok (.reply 200 [])⟩, [])
  | (name, replies) :: rest =>
    if name = route then
      match replies with
      | [] => (⟨none, [], .ok (.reply 200 [])⟩, (name, []) :: rest)
      | reply :: more => (reply, (name, more) :: rest)
    else
      let (reply, rest) := nextReply rest route
      (reply, (name, replies) :: rest)

/-- A reply of a script is an ordinary one below the statuses of errors, and redirects nowhere. -/
def staged : HttpAnswer → HttpAnswer
  | .reply status octets _ => .reply (if status < 400 then 200 else status) octets
  | .unreachable reason => .unreachable reason

def elementAt (session : String) (strategy value : Json) (stage : Stage) : Except Fault Element :=
  if (stage.driver session).elements.any fun p => p.1.same strategy && p.2.same value then
    .ok ⟨strategy, value⟩
  else
    .error (.raised .noSuchElement
      ("no such element: " ++ strategy.display ++ "=" ++ value.display) .null)

/-- What fresh options of Selenium come with. -/
scoped instance : Browser.Defaults where
  capabilities
    | .chrome => [("browserName", "chrome"), ("pageLoadStrategy", "normal")]
    | .edge => [("browserName", "MicrosoftEdge"), ("pageLoadStrategy", "normal")]
    | .firefox =>
      [("browserName", "firefox"), ("acceptInsecureCerts", .bool true),
        ("moz:debuggerAddress", .bool true), ("pageLoadStrategy", "normal")]

/-- What is left where a program calls the reading itself. -/
scoped instance : Json.Nesting where
  limit := 990
  few := by decide

instance : Outside Stage Number where
  checksRequests := false
  nesting := inferInstance
  send r stage :=
    let (reply, transport) := nextReply stage.transport (routeOf r.url)
    answer reply (fun r _ => r.map staged) { stage with transport }
  find session strategy value stage :=
    let d := stage.driver session
    let entry := d.finds.head?.getD ⟨none, [], .ok ()⟩
    answer entry (fun r stage => r.bind fun _ => elementAt session strategy value stage)
      (stage.setDriver session { d with finds := d.finds.tail })
  runScript session _ _ stage :=
    let d := stage.driver session
    let entry := d.scripts.head?.getD ⟨none, [], .ok .null⟩
    answer entry (fun r _ => r) (stage.setDriver session { d with scripts := d.scripts.tail })
  installAddon session _ _ stage :=
    let d := stage.driver session
    let entry := d.addons.head?.getD ⟨none, [], .ok "addon@selfheal"⟩
    answer entry (fun r _ => r) (stage.setDriver session { d with addons := d.addons.tail })
  quit session stage :=
    let p :=
      (playDriverQuit (playQuit (stage.quitsLeft + 1)) session stage).andThen
        (Played.happens (.lose session))
    (⟨p.happenings, match p.fault? with | some fault => .error fault | none => .ok ()⟩, p.stage)
  emit _ _ stage := (⟨[], match stage.sinkFault with | some f => .error f | none => .ok ()⟩, stage)
  start site _ stage :=
    (⟨[], match stage.startFault with
      | some fault => .error fault
      | none => .ok ⟨.str ("session-" ++ site.word), [("browserName", .str site.word)]⟩⟩, stage)
  append _ _ stage := (none, stage)

end LocatorHealing.Rehearsal
