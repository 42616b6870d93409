import LocatorHealing.Proofs.Audit
import LocatorHealing.Proofs.Healing.Steady
import LocatorHealing.Proofs.Service.Redirects
import LocatorHealing.Session.Lookup
import LocatorHealing.TimeScale.Exact

set_option autoImplicit false
set_option relaxedAutoImplicit false

/-!
Still surroundings. Whatever is asked is answered at once and always in the same way, and nothing
happens that a service does not bring about. They are steady for every session if the service brings
nothing about either.
-/

namespace LocatorHealing

/-- What still surroundings answer. -/
structure Still where
  page : Json → Json → Option Element
  script : Except Fault Json := .ok .null
  /-- What the disk refuses to do, if it does. -/
  disk : Option FileCause := none

def Still.answerOf (page : Json → Json → Option Element) (strategy value : Json) :
    Except Fault Element :=
  match page strategy value with
  | some element => .ok element
  | none => .error (.raised .noSuchElement "no such element" .null)

instance : Outside Still Rat where
  checksRequests := true
  nesting := .least
  send _ s := (⟨[], .ok (.reply 200 [])⟩, s)
  find _ strategy value s := (⟨[], Still.answerOf s.page strategy value⟩, s)
  runScript _ _ _ s := (⟨[], s.script⟩, s)
  installAddon _ _ _ s := (⟨[], .ok .null⟩, s)
  quit _ s := (⟨[], .ok ()⟩, s)
  emit _ _ s := (⟨[], .ok ()⟩, s)
  start _ _ s := (⟨[], .ok ⟨.null, []⟩⟩, s)
  append path _ s := (s.disk.map fun cause => .file cause path, s)

namespace Still

private theorem run_find (key : String) (strategy value : Json) (w : World Still Rat) :
    (Action.perform (Session.findCommand key strategy value)).run w =
      (answerOf w.outside.page strategy value,
        { w with trace := w.trace ++ [⟨w.clock, .driver key (.find strategy value)⟩] }) := by
  simp only [Action.perform, Session.findCommand, Call.showing, Action.note, Action.run_bind,
    Action.run_modify, Action.andThen_ok, Action.run_react, Outside.find]
  exact Action.run_ofExcept _ (answerOf w.outside.page strategy value)

theorem answerOf_ok {page : Json → Json → Option Element} {strategy value : Json}
    {element : Element} (found : answerOf page strategy value = .ok element) :
    page strategy value = some element := by
  unfold answerOf at found
  split at found
  · cases found
    assumption
  · cases found

theorem findsPlainly (key : String) : Session.FindsPlainly Still key := by
  intro strategy value w v fault raised
  rw [run_find] at raised
  have failed := congrArg Prod.fst raised
  simp only [answerOf] at failed
  split at failed
  · cases failed
  · cases failed
    rfl

private theorem happenings_post (url : String) (payload : Json) (headers : Members)
    (timeout : Rat) (s : Still) :
    ((Http.post url payload headers timeout : Call Still Rat Json).exchange s).1.happenings =
      [] := by
  unfold Http.post
  dsimp only
  split
  · rfl
  · rw [Call.happenings_mapAnswer,
      Http.exchange_sending_of_stays (HttpAnswer.not_redirects_reply 200 [])]
    rfl

theorem happenings_http (settings : Settings Rat) (inquiry : Inquiry Rat) (s : Still) :
    (((Service.http settings : Service Still Rat).call inquiry).exchange s).1.happenings = [] := by
  simp only [Service.http, Call.happenings_mapAnswer, happenings_post]

def pageWith (held : String) (strategy value : Json) : Option Element :=
  match value with
  | .str s => if s = held then some ⟨strategy, value⟩ else none
  | _ => none

end Still

/-- How a service takes what a run asks of it. -/
structure Manner where
  log : Exchange Rat (FollowUp Rat) (Option String) := ⟨[], .ok none⟩
  heal : Exchange Rat (FollowUp Rat) (Option String) := ⟨[], .ok none⟩
  poll : Exchange Rat (FollowUp Rat) (Option HealedLocator) := ⟨[], .ok none⟩

namespace Manner

def exchange (m : Manner) :
    (inquiry : Inquiry Rat) → Exchange Rat (FollowUp Rat) inquiry.Answer
  | .init _ _ _ _ => ⟨[], .ok {}⟩
  | .token _ _ _ => ⟨[], .ok ()⟩
  | .log _ => m.log
  | .heal _ => m.heal
  | .poll _ _ _ _ => m.poll

def service (m : Manner) : Service Still Rat where
  call inquiry := ⟨none, fun s => (m.exchange inquiry, s)⟩
  shows_request _ _ shown := by cases shown

/-- Nothing happens to a session while the service is asked. -/
def Spares (m : Manner) (key : String) : Prop :=
  ∀ inquiry, ∀ h ∈ (m.exchange inquiry).happenings, h.Spares key

theorem steady {m : Manner} {key : String} (spares : m.Spares key)
    (page : Json → Json → Option Element) :
    Steady m.service key (Still.answerOf page) fun s => s.page = page where
  answers strategy value w same := by
    subst same
    exact congrArg Prod.fst (Still.run_find key strategy value w)
  finds _ _ s same := ⟨same, nofun⟩
  scripts _ s same := ⟨same, nofun⟩
  inquiries inquiry s same := ⟨same, spares inquiry⟩
  disk _ _ s same := same

/-- A service that has a script for every failed lookup, and heals every locator to one value. -/
def mending (value : String) : Manner where
  heal := ⟨[], .ok (some "mark()")⟩
  poll := ⟨[], .ok (some ⟨"id", value, "id"⟩)⟩

theorem spares_mending (value key : String) : (mending value).Spares key := by
  intro inquiry h happens
  cases inquiry with
  | _ => cases happens

/-- A service that a session does not outlast: asked to heal, it answers with the session closed. -/
def closing (key : String) (answer : Except Fault (Option String)) : Manner where
  heal := ⟨[.quit key], answer⟩

/-- Healing through the service, with three polls a second apart, and no more than a minute. -/
def healing (m : Manner) (auth : AuthResult) (auditFile : Option FilePath := none) :
    Healing Still Rat where
  service := m.service
  auth
  settings :=
    { serviceUrl := "https://healing.test", region := "eu", clientVersion := "1.0"
      eventsUrl := none, requestTimeout := 30, pollMaxAttempts := 3, pollTimeout := 60
      pollInterval := 1, supportedBrowsers := [], providerDomains := [], firefoxAddon := none
      chromeExtension := none, firstEntryOnly := false, logLevel := .info, auditDirectory := none
      pollMaxAttempts_pos := by decide }
  auditFile

def auditFile : FilePath :=
  ⟨1, ["healing_attempts.jsonl"]⟩

theorem auditsPlainly (m : Manner) (auth : AuthResult) {file? : Option FilePath}
    (fit : ∀ file, file? = some file → FileTree.unfit? file = none) :
    (m.healing auth file?).AuditsPlainly := by
  refine Healing.auditsPlainly_of_fit fit ?_
  intro file _ line s fault refused
  obtain ⟨cause, -, rfl⟩ := Option.map_eq_some_iff.1 refused
  exact Fault.isSystem_file cause file.text

theorem auditsPlainly_auditFile (m : Manner) (auth : AuthResult) :
    (m.healing auth (some auditFile)).AuditsPlainly := by
  refine auditsPlainly m auth fun file there => ?_
  cases there
  rfl

section Concrete

variable (m : Manner) (auth : AuthResult) (options : HealingOptions)
  (file? : Option FilePath)

/-- A world in which pages have one element, and lookups of every session go through healing. -/
def world (held : String) : World Still Rat where
  clock := 0
  timestamp := "2024-01-01T00:00:00+00:00"
  level := .info
  log := []
  trace := []
  sessions _ :=
    { sessionId := .str "s1", capabilities := []
      middlewares := [(Session.interceptorName,
        .intercepting (.healing (m.healing auth file?)) options)] }
  files := ⟨[], []⟩
  environment := []
  launched := none
  warned := []
  encoded := []
  outside := { page := Still.pageWith held }

def run (value : String) : Healing.Run Still Rat where
  healing := m.healing auth file?
  options
  session := "s"
  attempt := ⟨.str "id", .str value, .str "s1"⟩
  report :=
    { strategy := ScriptLiteral.escape "id", value := ScriptLiteral.escape value
      groupId := auth.groupId, sessionId := .str "s1"
      region := (m.healing auth file?).settings.regionHint }
  look := Session.driverLookup "s"

end Concrete

end Manner

end LocatorHealing
