import LocatorHealing.Authentication
import LocatorHealing.Proofs.AuthResult
import LocatorHealing.Proofs.Service.Recovery
import LocatorHealing.Proofs.Service.Transmission
import LocatorHealing.Proofs.Text.Utf8

set_option autoImplicit false
set_option relaxedAutoImplicit false

/-!
A user is authenticated by nothing but an accepting reply. Whatever else becomes of the request, a
reply with a status that is no success, one that says nothing of authentication, or none at all, is
a result that is not authenticated and says why. A reply that asks for an upgrade is refused as
well, unless it grants access in the very words of a refusal.
-/

namespace LocatorHealing

variable {ε τ : Type}

/-- The status that a fault carries, if there is one, is an integer. -/
def Fault.Carries (fault : Fault) (status : Option Int) : Prop :=
  fault.status = Json.ofInt? status

namespace Authentication

private theorem resultOf_eq {fault : Fault} {status : Option Int} (carries : fault.Carries status) :
    resultOf fault = .ok
      { status
        message := some (if asksForUpgrade fault then upgradeMessage else fault.message) } := by
  rw [resultOf, carries]
  cases status with
  | none => rfl
  | some n => rfl

private theorem carries_authenticationFault {fault : Fault} {status : Option Int}
    (carries : fault.Carries status) :
    (Inquiry.authenticationFault fault).Carries status := by
  unfold Inquiry.authenticationFault
  split
  · exact carries
  split
  · exact carries
  split
  · exact carries
  · exact carries

private theorem asksForUpgrade_of_carries {fault : Fault}
    (carries : fault.Carries (some upgradeStatus)) : asksForUpgrade fault = true := by
  have same : (Json.ofInt? (some upgradeStatus)).same (.num (.int upgradeStatus)) = true := rfl
  rw [asksForUpgrade, carries, same, Bool.or_true]

def inquiry (settings : Settings τ) (user key : Option String) : Inquiry τ :=
  .init key user settings.serviceUrl settings.clientVersion

/-- The status of a reply says that all went well. -/
def Succeeds (code : Int) : Prop :=
  200 ≤ code ∧ code < 300

section Replies

variable (ε) [Outside ε τ]

/-- A request ended with a reply of success, with this content. -/
def Holds (outcome : Except Fault HttpAnswer) (content : Json) : Prop :=
  ∃ code octets redirect, outcome = .ok (.reply code octets redirect) ∧ Succeeds code ∧
    Http.contentOf ε octets = .ok content

/-- A request ended with a reply of success, and its content is a result. -/
def Says (outcome : Except Fault HttpAnswer) (a : AuthResult) : Prop :=
  ∃ content, Holds ε outcome content ∧ AuthResult.ofJson content = .ok a

/-- A reply asks for an upgrade, by its own status or by that in its body. -/
def SignalsUpgrade (outcome : Except Fault HttpAnswer) : Prop :=
  (∃ octets redirect, outcome = .ok (.reply upgradeStatus octets redirect)) ∨
    ∃ m, Holds ε outcome (.obj m) ∧
      Validation.optional m ⟨"status", "status"⟩ Validation.integer = .valid (some upgradeStatus)

/-- A reply grants access and asks for an upgrade at once, and in the words that mark a result as
refused already. -/
def Contradicts (outcome : Except Fault HttpAnswer) : Prop :=
  ∃ a, Says ε outcome a ∧ a.isAuthenticated = true ∧ a.status = some upgradeStatus ∧
    a.message = some upgradeMessage

/-- The content of a reply of success, if there is any, is a result. -/
def Validates (outcome : Except Fault HttpAnswer) : Prop :=
  ∀ content, Holds ε outcome content → ∃ a, AuthResult.ofJson content = .ok a

end Replies

variable [Outside ε τ]

private theorem carries_of_contentOf {octets : List UInt8} {fault : Fault}
    (raised : Http.contentOf ε octets = .error fault) : fault.Carries none := by
  unfold Http.contentOf at raised
  grind [Fault.Carries, Fault.status, Json.ofInt?]

private theorem carries_of_ofJson {v : Json} {fault : Fault}
    (raised : AuthResult.ofJson v = .error fault) : fault.Carries none := by
  unfold AuthResult.ofJson Checked.orFault at raised
  grind [Fault.Carries, Fault.status, Json.ofInt?]

section Reading

variable {outcome : Except Fault HttpAnswer} {timeout : String}

private theorem readAnswer_eq_ok_iff {content : Json} :
    Http.readAnswer ε timeout outcome = .ok content ↔ Holds ε outcome content := by
  rcases outcome with fault | ⟨code, octets, redirect⟩ | reason
  · simp [Http.readAnswer, Holds]
  · have ended : Holds ε (.ok (.reply code octets redirect)) content ↔
        Succeeds code ∧ Http.contentOf ε octets = .ok content := by
      constructor
      · rintro ⟨_, _, _, same, fine, body⟩
        cases same
        exact ⟨fine, body⟩
      · rintro ⟨fine, body⟩
        exact ⟨code, octets, redirect, rfl, fine, body⟩
    rw [ended, Http.readAnswer]
    split
    · rename_i fine
      exact (and_iff_right fine).symm
    · rename_i other
      refine ⟨fun read => ?_, fun both => absurd both.1 other⟩
      cases read
  · simp [Http.readAnswer, Holds]

theorem Holds.unique {v v' : Json} (one : Holds ε outcome v) (other : Holds ε outcome v') :
    v = v' := by
  have read : Http.readAnswer ε "" outcome = .ok v := readAnswer_eq_ok_iff.2 one
  exact Except.ok.inj (read.symm.trans (readAnswer_eq_ok_iff.2 other))

theorem Says.unique {a b : AuthResult} (one : Says ε outcome a) (other : Says ε outcome b) :
    a = b := by
  obtain ⟨content, held, valid⟩ := one
  obtain ⟨content', held', valid'⟩ := other
  cases held.unique held'
  exact Except.ok.inj (valid.symm.trans valid')

private theorem Says.validates {a : AuthResult} (told : Says ε outcome a) :
    Validates ε outcome := by
  intro content held
  obtain ⟨own, held', reads⟩ := told
  cases held.unique held'
  exact ⟨a, reads⟩

private theorem Says.status_eq {a : AuthResult} {m : Members} {status : Option Int}
    (told : Says ε outcome a) (held : Holds ε outcome (.obj m))
    (read : Validation.optional m ⟨"status", "status"⟩ Validation.integer = .valid status) :
    a.status = status := by
  obtain ⟨content, held', valid⟩ := told
  cases held.unique held'
  obtain ⟨_, same, checked⟩ := AuthResult.ofJson_eq_ok_iff.1 valid
  cases same
  have own := (AuthResult.checkFields_eq_valid_iff.1 checked).2.1
  exact Checked.valid.inj (own.symm.trans read)

private theorem Says.signals {a : AuthResult} (told : Says ε outcome a)
    (outdated : a.status = some upgradeStatus) : SignalsUpgrade ε outcome := by
  obtain ⟨content, held, valid⟩ := told
  obtain ⟨m, rfl, checked⟩ := AuthResult.ofJson_eq_ok_iff.1 valid
  refine .inr ⟨m, held, ?_⟩
  rw [← outdated]
  exact (AuthResult.checkFields_eq_valid_iff.1 checked).2.1

private theorem carries_of_readAnswer {fault : Fault}
    (typed : ∀ fault, outcome = .error fault → ∃ status, fault.Carries status)
    (raised : Http.readAnswer ε timeout outcome = .error fault) :
    ∃ status, fault.Carries status ∧
      ∀ code octets redirect, outcome = .ok (.reply code octets redirect) → ¬Succeeds code →
        status = some code := by
  rcases outcome with raw | ⟨code, octets, redirect⟩ | reason
  · obtain ⟨status, carries⟩ := typed raw rfl
    cases raised
    split
    · exact ⟨none, rfl, fun _ _ _ same => by cases same⟩
    · exact ⟨status, carries, fun _ _ _ same => by cases same⟩
  · rw [Http.readAnswer] at raised
    split at raised
    · rename_i fine
      refine ⟨none, carries_of_contentOf raised, fun _ _ _ same error => ?_⟩
      cases same
      exact absurd fine error
    · cases raised
      refine ⟨some code, rfl, fun _ _ _ same _ => ?_⟩
      cases same
      rfl
  · cases raised
    exact ⟨none, rfl, fun _ _ _ same => by cases same⟩

variable {settings : Settings τ} {user key : Option String}

variable (ε) in
def reading (timeout : String) (settings : Settings τ) (user key : Option String)
    (outcome : Except Fault HttpAnswer) : Except Fault AuthResult :=
  (inquiry settings user key).readAnswer (Http.readAnswer ε timeout outcome)

private theorem reading_eq_ok_iff {a : AuthResult} :
    reading ε timeout settings user key outcome = .ok a ↔ Says ε outcome a := by
  simp only [reading, inquiry, Says, ← @readAnswer_eq_ok_iff _ _ _ outcome timeout]
  cases Http.readAnswer ε timeout outcome with
  | ok content => simp [Inquiry.readAnswer]
  | error fault => simp [Inquiry.readAnswer]

private theorem carries_of_reading {fault : Fault}
    (typed : ∀ fault, outcome = .error fault → ∃ status, fault.Carries status)
    (raised : reading ε timeout settings user key outcome = .error fault) :
    ∃ status, fault.Carries status ∧
      ∀ code octets redirect, outcome = .ok (.reply code octets redirect) → ¬Succeeds code →
        status = some code := by
  cases read : Http.readAnswer ε timeout outcome with
  | error raw =>
    obtain ⟨status, carries, coded⟩ := carries_of_readAnswer typed read
    rw [reading, read] at raised
    cases raised
    exact ⟨status, carries_authenticationFault carries, coded⟩
  | ok content =>
    obtain ⟨code, octets, redirect, rfl, fine, -⟩ := readAnswer_eq_ok_iff.1 read
    rw [reading, read] at raised
    refine ⟨none, carries_of_ofJson raised, fun _ _ _ same error => ?_⟩
    cases same
    exact absurd fine error

end Reading

section Outcome

variable [TimeScale τ] (client settings : Settings τ) (user key : Option String)

def outcome (w : World ε τ) : Except Fault HttpAnswer :=
  (((inquiry settings user key).transmit client).run w).1

private theorem run_ask (w : World ε τ) :
    ∃ timeout v, (Action.ask (Service.http client) (inquiry settings user key)).run w =
      (reading ε timeout settings user key (outcome client settings user key w), v) :=
  ⟨_, _, Service.run_ask_http client rfl w⟩

variable {client settings user key}

private theorem run_authenticate_of_ok {w v : World ε τ} {a : AuthResult}
    (asked : (Action.ask (Service.http client) (inquiry settings user key)).run w = (.ok a, v)) :
    (authenticate (Service.http client) settings user key).run w = (.ok (refuseOutdated a), v) := by
  have attempted : (Action.attempt
      (Action.ask (Service.http client) (inquiry settings user key))).run w = (.ok (.ok a), v) := by
    rw [Action.run_attempt, asked]
  exact Action.run_bind_ok attempted

private theorem run_authenticate_of_error {w v : World ε τ} {fault : Fault} {status : Option Int}
    (asked : (Action.ask (Service.http client) (inquiry settings user key)).run w =
      (.error fault, v))
    (carries : fault.Carries status) :
    ∃ u, (authenticate (Service.http client) settings user key).run w =
      (.ok
        { status
          message :=
            some (if asksForUpgrade fault then upgradeMessage else fault.message) }, u) := by
  have attempted : (Action.attempt
      (Action.ask (Service.http client) (inquiry settings user key))).run w =
        (.ok (.error fault), v) := by
    rw [Action.run_attempt, asked]
  obtain ⟨log, logged⟩ :=
    Action.run_log .debug ("Healing authentication failed: " ++ fault.message) v
  refine ⟨{ v with log }, (Action.run_bind_ok attempted).trans ?_⟩
  rw [Action.run_bind_ok logged, Action.run_ofExcept, resultOf_eq carries]

private theorem run_authenticate_of_says {w : World ε τ} {a : AuthResult}
    (told : Says ε (outcome client settings user key w) a) :
    ∃ v, (authenticate (Service.http client) settings user key).run w =
      (.ok (refuseOutdated a), v) := by
  obtain ⟨timeout, v, asked⟩ := run_ask client settings user key w
  rw [reading_eq_ok_iff.2 told] at asked
  exact ⟨v, run_authenticate_of_ok asked⟩

private theorem run_authenticate_of_silent {w : World ε τ}
    (typed : ∀ fault, outcome client settings user key w = .error fault →
      ∃ status, fault.Carries status)
    (silent : ∀ a, ¬ Says ε (outcome client settings user key w) a) :
    ∃ a v, (authenticate (Service.http client) settings user key).run w = (.ok a, v) ∧
      a.isAuthenticated = false ∧
      ((∃ octets redirect,
          outcome client settings user key w = .ok (.reply upgradeStatus octets redirect)) →
        a.message = some upgradeMessage ∧ a.status = some upgradeStatus) := by
  obtain ⟨timeout, v, asked⟩ := run_ask client settings user key w
  cases read : reading ε timeout settings user key (outcome client settings user key w) with
  | ok a => exact absurd (reading_eq_ok_iff.1 read) (silent a)
  | error fault =>
    obtain ⟨status, carries, coded⟩ := carries_of_reading typed read
    rw [read] at asked
    obtain ⟨u, ran⟩ := run_authenticate_of_error asked carries
    refine ⟨_, u, ran, rfl, ?_⟩
    rintro ⟨octets, redirect, ended⟩
    cases coded _ _ _ ended (by rw [Succeeds]; decide)
    rw [asksForUpgrade_of_carries carries]
    exact ⟨rfl, rfl⟩

end Outcome

section Refusing

variable {a : AuthResult}

@[simp] theorem status_refuseOutdated : (refuseOutdated a).status = a.status := by
  unfold refuseOutdated
  split
  · rfl
  · rfl

private theorem message_refuseOutdated (outdated : a.status = some upgradeStatus) :
    (refuseOutdated a).message = some upgradeMessage := by
  unfold refuseOutdated
  split
  · rfl
  case isFalse worded => simpa [outdated] using worded

private theorem isAuthenticated_refuseOutdated :
    (refuseOutdated a).isAuthenticated = true ↔
      a.isAuthenticated = true ∧
        (a.status = some upgradeStatus → a.message = some upgradeMessage) := by
  unfold refuseOutdated
  split
  case isTrue refused => simp [refused.1, refused.2]
  case isFalse kept =>
    have worded : a.status = some upgradeStatus → a.message = some upgradeMessage := by
      simpa using kept
    exact ⟨fun granted => ⟨granted, worded⟩, And.left⟩

variable {outcome : Except Fault HttpAnswer}

private theorem Says.accepting (told : Says ε outcome a) (plain : ¬ Contradicts ε outcome)
    (granted : (refuseOutdated a).isAuthenticated = true) :
    a.isAuthenticated = true ∧ a.status ≠ some upgradeStatus := by
  obtain ⟨accepting, worded⟩ := isAuthenticated_refuseOutdated.1 granted
  exact ⟨accepting, fun outdated => plain ⟨a, told, accepting, outdated, worded outdated⟩⟩

theorem Says.outdated (told : Says ε outcome a) (signals : SignalsUpgrade ε outcome) :
    a.status = some upgradeStatus := by
  rcases signals with ⟨octets, redirect, ended⟩ | ⟨m, held, read⟩
  · obtain ⟨content, ⟨_, _, _, same, fine, -⟩, -⟩ := told
    cases ended.symm.trans same
    exact absurd fine (by rw [Succeeds]; decide)
  · exact told.status_eq held read

end Refusing

end Authentication

/-- A network on which every request ends in the same way. -/
structure Network where
  ending : Except Fault HttpAnswer

namespace Network

instance : Outside Network Rat where
  checksRequests := true
  nesting := .least
  send _ n := (⟨[], n.ending⟩, n)
  find _ _ _ n := (⟨[], .ok ⟨.null, .null⟩⟩, n)
  runScript _ _ _ n := (⟨[], .ok .null⟩, n)
  installAddon _ _ _ n := (⟨[], .ok .null⟩, n)
  quit _ n := (⟨[], .ok ()⟩, n)
  emit _ _ n := (⟨[], .ok ()⟩, n)
  start _ _ n := (⟨[], .ok ⟨.null, []⟩⟩, n)
  append _ _ n := (none, n)

def world (n : Network) : World Network Rat where
  clock := 0
  timestamp := "2024-01-01T00:00:00+00:00"
  level := .info
  log := []
  trace := []
  sessions _ := { sessionId := .null, capabilities := [] }
  files := ⟨[], []⟩
  environment := []
  launched := none
  warned := []
  encoded := []
  outside := n

def client : Settings Rat :=
  (({} : Manner).healing {}).settings

def replying (a : AuthResult) : Network :=
  ⟨.ok (.reply 200 (Utf8.encode (Json.writeChars .spaced (.obj a.members))))⟩

private theorem stays_replying (a : AuthResult) : ¬HttpAnswer.Redirects (replying a).ending :=
  HttpAnswer.not_redirects_reply _ _

private theorem outcome_world {n : Network} (stays : ¬HttpAnswer.Redirects n.ending) :
    Authentication.outcome client client (some "u") (some "k") n.world = n.ending := by
  have leaves :
      (Authentication.inquiry client (some "u") (some "k")).barrier? Network client = none := by
    with_unfolding_all rfl
  exact Inquiry.answer_transmit_of_quiet leaves rfl stays

private theorem says_replying {a : AuthResult} (plain : Json.Plain 1 (.obj a.members)) :
    Authentication.Says Network (replying a).ending a := by
  have ascii : ∀ c ∈ Json.writeChars .spaced (.obj a.members), c.toNat < 0x80 := by
    intro c there
    have printed := Json.printed_writeChars _ c there
    omega
  have filled : Text.isAllBlank (Json.write .spaced (.obj a.members)) = false := by
    have opens : Text.isBlank '{' = false := by decide
    rw [Text.isAllBlank, Json.write, (Json.printed_writeChars _).toList_ofChars]
    simp [Json.writeChars, opens]
  let _ := Outside.nesting Network
  have parsed : Json.parse (Json.write .spaced (.obj a.members)) = .ok (.obj a.members) :=
    Json.parse_write Json.Format.separates_spaced plain (by decide)
  refine ⟨.obj a.members, ⟨200, _, none, rfl, by rw [Authentication.Succeeds]; decide, ?_⟩, ?_⟩
  · rw [Json.write] at filled parsed
    rw [Http.contentOf, Utf8.decode_encode_ascii ascii]
    simp only [filled, parsed]
    rfl
  · rw [AuthResult.ofJson, AuthResult.check_members]
    rfl

def outdated (message : String) : AuthResult where
  isAuthenticated := true
  status := some Authentication.upgradeStatus
  message := some message

private theorem says_outdated {message : String} (whole : Text.IsWhole message) :
    Authentication.Says Network (Authentication.outcome client client (some "u") (some "k")
      (replying (outdated message)).world) (outdated message) := by
  have short : Authentication.upgradeStatus.natAbs < 10 ^ Json.digitLimit :=
    Nat.lt_of_lt_of_le (by decide : 426 < 10 ^ 3) (Nat.pow_le_pow_right (by decide) (by decide))
  rw [outcome_world (stays_replying _)]
  refine says_replying (.named ["isAuthenticated", "status", "message"] rfl (by decide) (by decide)
    fun v member => ?_)
  have values : v ∈ [.bool true, .num (.int Authentication.upgradeStatus), .str message] := member
  simp only [List.mem_cons, List.not_mem_nil, or_false] at values
  rcases values with rfl | rfl | rfl
  · exact .bool true
  · exact .int short
  · exact .str whole

end Network

namespace Authentication

end Authentication

end LocatorHealing
