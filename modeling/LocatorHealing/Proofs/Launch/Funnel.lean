import LocatorHealing.Proofs.Action.Request
import LocatorHealing.Proofs.Launch.Capabilities
import LocatorHealing.Proofs.Service.Request
import LocatorHealing.Proofs.Session.Audited
import LocatorHealing.Proofs.Session.Declined

set_option autoImplicit false
set_option relaxedAutoImplicit false

/-!
What users and the funnel are told over many launches. The result of an authentication decides on a
warning before the event, on the event, and on a warning after it. A sink may fail on its event,
which costs the warning after it and nothing else. What was warned of is remembered from one call to
the next, whatever else happens between them.
-/

namespace LocatorHealing

open LocatorHealing.Action (Keeps)

variable {ε τ : Type}

def Level.texts (level : Level) (log : List (Level × String)) : List String :=
  log.filterMap fun p => if p.1 = level then some p.2 else none

private theorem Level.texts_append (level : Level) (log more : List (Level × String)) :
    level.texts (log ++ more) = level.texts log ++ level.texts more :=
  List.filterMap_append

private theorem Level.texts_warning {log : List (Level × String)}
    (quiet : ∀ p ∈ log, p.1.isQuiet = true ∨ False) : Level.warning.texts log = [] := by
  refine List.filterMap_eq_nil_iff.2 fun p there => if_neg fun warning => ?_
  have isQuiet := (quiet p there).resolve_right id
  exact absurd (warning ▸ isQuiet) (by decide)

/-- Events of the funnel leave by their sink: they are handed to a sink of the caller's own, or
posted to a URL. -/
def Event.isEmission : Event τ → Bool
  | .emitted _ _ => true
  | .http request => request.method = .post
  | _ => false

namespace World

def logged (level : Level) (w u : World ε τ) : List String :=
  level.texts (u.log.drop w.log.length)

def emissions (w u : World ε τ) : List (Event τ) :=
  ((u.trace.drop w.trace.length).map (·.event)).filter Event.isEmission

private theorem logged_eq {level : Level} {w u : World ε τ} {more : List (Level × String)}
    (grown : u.log = w.log ++ more) : logged level w u = level.texts more := by
  rw [logged, grown, List.drop_left]

/-- From one world to another the trace has grown, and these are the events that left by a sink. -/
def Emits (events : List (Event τ)) (w u : World ε τ) : Prop :=
  ∃ more, u.trace = w.trace ++ more ∧ (more.map (·.event)).filter Event.isEmission = events

private theorem Emits.emissions_eq {events : List (Event τ)} {w u : World ε τ}
    (emits : Emits events w u) : emissions w u = events := by
  obtain ⟨more, grown, these⟩ := emits
  rw [emissions, grown, List.drop_left, these]

theorem Emits.refl (w : World ε τ) : Emits [] w w :=
  ⟨[], (List.append_nil _).symm, rfl⟩

theorem Emits.trans {events more : List (Event τ)} {u v w : World ε τ} (first : Emits events u v)
    (second : Emits more v w) : Emits (events ++ more) u w := by
  obtain ⟨s, grown, these⟩ := first
  obtain ⟨t, again, those⟩ := second
  refine ⟨s ++ t, ?_, ?_⟩
  · rw [again, grown, List.append_assoc]
  · rw [List.map_append, List.filter_append, these, those]

private theorem frame_emits : Frame (Emits (ε := ε) (τ := τ) []) where
  refl w := .refl w
  trans first second := first.trans second
  log w _ _ := .refl w
  clock w _ := .refl w

variable {α β : Type} {events more : List (Event τ)} {x : Action ε τ α} {f : α → Action ε τ β}

theorem Emits.andThen (first : Keeps (Emits events) x) (rest : ∀ a, Keeps (Emits []) (f a)) :
    Keeps (Emits events) (x >>= f) := by
  intro w
  have both := (first w).trans (frame_emits.after_bind rest w)
  rwa [List.append_nil] at both

theorem Emits.after {x : Action ε τ Unit} {y : Action ε τ β} (first : Keeps (Emits []) x)
    (ends : ∀ w, (x.run w).1 = .ok ()) (rest : Keeps (Emits events) y) :
    Keeps (Emits events) (x >>= fun _ => y) := by
  intro w
  have ran : x.run w = (.ok (), (x.run w).2) := Prod.ext (ends w) rfl
  rw [Action.run_bind_ok ran]
  exact (first w).trans (rest _)

/-- If debug messages are in force, they still are, and these were logged. -/
def Notes (lines : List String) (w u : World ε τ) : Prop :=
  w.level = .debug →
    u.level = .debug ∧ ∃ more, u.log = w.log ++ more ∧ Level.debug.texts more = lines

theorem Notes.refl (w : World ε τ) : Notes [] w w :=
  fun level => ⟨level, [], (List.append_nil _).symm, rfl⟩

theorem Notes.trans {lines more : List String} {u v w : World ε τ} (first : Notes lines u v)
    (second : Notes more v w) : Notes (lines ++ more) u w := by
  intro level
  obtain ⟨level, s, grown, these⟩ := first level
  obtain ⟨level, t, again, those⟩ := second level
  refine ⟨level, s ++ t, ?_, ?_⟩
  · rw [again, grown, List.append_assoc]
  · rw [Level.texts_append, these, those]

/-- The warnings remembered have grown by fresh ones, and what was logged of warnings is of these.
-/
structure WarnsOf (fresh : List String) (w u : World ε τ) : Prop where
  remembered : u.warned = w.warned ++ fresh
  distinct : w.warned.Nodup → u.warned.Nodup
  told : ∃ more, u.log = w.log ++ more ∧ (Level.warning.texts more).Sublist fresh

theorem WarnsOf.trans {fresh more : List String} {u v w : World ε τ} (first : WarnsOf fresh u v)
    (second : WarnsOf more v w) : WarnsOf (fresh ++ more) u w := by
  obtain ⟨s, grown, these⟩ := first.told
  obtain ⟨t, again, those⟩ := second.told
  refine ⟨?_, second.distinct ∘ first.distinct, s ++ t, ?_, ?_⟩
  · rw [second.remembered, first.remembered, List.append_assoc]
  · rw [again, grown, List.append_assoc]
  · rw [Level.texts_append]
    exact these.append those

/-- No warning is given twice, and none is logged that is not remembered. -/
def Warns (w u : World ε τ) : Prop :=
  ∃ fresh, WarnsOf fresh w u

theorem Warns.of_same {w u : World ε τ} (warned : u.warned = w.warned) (log : u.log = w.log) :
    Warns w u := by
  refine ⟨[], ?_, fun distinct => warned ▸ distinct, [], ?_, .slnil⟩
  · rw [warned, List.append_nil]
  · rw [log, List.append_nil]

private theorem sturdy_warns : Sturdy (Warns (ε := ε) (τ := τ)) False where
  refl w := .of_same rfl rfl
  trans := by
    intro u v w ⟨fresh, first⟩ ⟨more, second⟩
    exact ⟨fresh ++ more, first.trans second⟩
  log := by
    intro w log ⟨more, grown, quiet⟩
    refine ⟨[], (List.append_nil _).symm, id, more, grown, ?_⟩
    rw [Level.texts_warning quiet]
  clock w _ := .of_same rfl rfl
  trace w _ := .of_same rfl rfl
  outside w _ := .of_same rfl rfl
  closes _ w := .of_same rfl rfl
  loses _ w := .of_same rfl rfl

end World

namespace Instrumentation

open World (Emits Notes Warns WarnsOf)

/-- What a result leads to: a warning, an event, and a warning after the event. -/
structure Verdict where
  before : Option String := none
  event : Option FunnelEvent := none
  after : Option String := none

def warning? (selfHeal : Bool) (text : String) : Option String :=
  if selfHeal then some text else none

def verdict (auth : AuthResult) (selfHeal : Bool) : Verdict :=
  let warning := warning? selfHeal
  if auth.message = some Authentication.upgradeMessage then
    { before := warning
        "Please upgrade the selfheal client to the latest version to use the self-healing feature." }
  else if !auth.isAuthenticated then
    if reaches auth.status 500 then
      { before := warning
          "Something went wrong. Disabling healing for this session. Please try again later."
        event := some .serviceDown }
    else
      { before := warning "Authentication Failed. Disabling Healing for this session."
        event := some .authFailure }
  else if isFilled auth.userId && isFilled auth.groupId then
    if auth.isHealingEnabled == some true then { event := some .initSuccessful }
    else { before := warning "Healing is not enabled for your group, please contact the admin" }
  else if isUnset auth.status || reaches auth.status 400 then
    { event :=
        if reaches auth.status 400 then some .initFailed
        else if isUnset auth.status && selfHeal then some .invalidAuth
        else none
      after := warning "Authentication Failed. Healing will be disabled for this session." }
  else {}

section Verdict

variable (auth : AuthResult) (selfHeal : Bool)

private theorem verdict_event_of_upgrade
    (upgrade : auth.message = some Authentication.upgradeMessage) :
    (verdict auth selfHeal).event = none := by
  unfold verdict
  simp only [if_pos upgrade]

private theorem reaches_iff {status : Option Int} {bound : Int} :
    reaches status bound = true ↔ ∃ n, status = some n ∧ bound ≤ n := by
  cases status with
  | none => simp [reaches]
  | some n => simp [reaches]

private theorem isFilled_iff {s : Option String} :
    isFilled s = true ↔ ∃ text, s = some text ∧ text ≠ "" := by
  cases s with
  | none => simp [isFilled]
  | some text => by_cases empty : text = "" <;> simp [isFilled, Option.filter, empty]

private theorem verdict_event_eq_initSuccessful
    (current : auth.message ≠ some Authentication.upgradeMessage) :
    (verdict auth selfHeal).event = some .initSuccessful ↔
      auth.isAuthenticated = true ∧ (∃ user, auth.userId = some user ∧ user ≠ "") ∧
        (∃ group, auth.groupId = some group ∧ group ≠ "") ∧ auth.isHealingEnabled = some true := by
  rw [← isFilled_iff, ← isFilled_iff]
  unfold verdict
  simp only [if_neg current]
  split_ifs <;> simp_all

private theorem verdict_event_eq_serviceDown
    (current : auth.message ≠ some Authentication.upgradeMessage) :
    (verdict auth selfHeal).event = some .serviceDown ↔
      auth.isAuthenticated = false ∧ ∃ n, auth.status = some n ∧ 500 ≤ n := by
  rw [← reaches_iff]
  unfold verdict
  simp only [if_neg current]
  split_ifs <;> simp_all

private theorem FunnelEvent.map_name_eq_iff {event? : Option FunnelEvent} (event : FunnelEvent) :
    event?.map FunnelEvent.name = some event.name ↔ event? = some event := by
  refine ⟨fun named => ?_, congrArg (Option.map FunnelEvent.name)⟩
  obtain ⟨other, rfl, same⟩ := Option.map_eq_some_iff.1 named
  cases other with
  | _ => cases event with
    | _ => first | rfl | exact absurd same (by decide)

end Verdict

def tell : Option String → Action ε τ Unit
  | some text => warnOnce text
  | none => return ()

private theorem warnIf_eq_tell (selfHeal : Bool) (text : String) :
    (warnIf selfHeal text : Action ε τ Unit) = tell (warning? selfHeal text) := by
  cases selfHeal with
  | true => rfl
  | false => rfl

/-- A text is warned of unless it was before, and then it is remembered. It is logged if warnings
are in force. -/
private theorem run_tell (text : Option String) (w : World ε τ) :
    ∃ fresh, fresh.Sublist text.toList ∧ (∀ t ∈ fresh, t ∉ w.warned) ∧
      (tell text).run w = (.ok (), { w with
        warned := w.warned ++ fresh
        log := w.log ++
          if w.level.rank ≤ Level.warning.rank then fresh.map (Level.warning, ·) else [] }) := by
  cases text with
  | none =>
    refine ⟨[], .slnil, nofun, ?_⟩
    simp [tell]
  | some t =>
    by_cases given : t ∈ w.warned
    · refine ⟨[], List.nil_sublist _, nofun, ?_⟩
      simp [tell, warnOnce, given]
    · refine ⟨[t], .refl _, ?_, ?_⟩
      · intro s same
        rwa [List.mem_singleton.1 same]
      · simp [tell, warnOnce, given, Action.log]
        split <;> simp

private theorem emits_tell (text : Option String) :
    Keeps (Emits []) (tell text : Action ε τ Unit) := by
  intro w
  obtain ⟨fresh, -, -, ran⟩ := run_tell text w
  rw [ran]
  exact ⟨[], (List.append_nil _).symm, rfl⟩

private theorem warns_tell (text : Option String) : Keeps Warns (tell text : Action ε τ Unit) := by
  intro w
  obtain ⟨fresh, one, new, ran⟩ := run_tell text w
  rw [ran]
  have distinct : fresh.Nodup := by
    refine one.nodup ?_
    cases text with
    | none => exact List.nodup_nil
    | some t => exact List.nodup_cons.2 ⟨List.not_mem_nil, List.nodup_nil⟩
  refine ⟨fresh, rfl, fun before => ?_, _, rfl, ?_⟩
  · refine List.nodup_append.2 ⟨before, distinct, ?_⟩
    exact fun t given s there same => new s there (same ▸ given)
  · split
    · simp [Level.texts]
    · exact List.nil_sublist _

private theorem notes_tell (text : Option String) (w : World ε τ) :
    ∃ v, (tell text).run w = (.ok (), v) ∧ Notes [] w v := by
  obtain ⟨fresh, -, -, ran⟩ := run_tell text w
  refine ⟨_, ran, fun level => ⟨level, _, rfl, ?_⟩⟩
  split
  · simp [Level.texts]
  · rfl

private theorem tell_ends (text : Option String) (w : World ε τ) :
    ((tell text).run w).1 = .ok () := by
  obtain ⟨fresh, -, -, ran⟩ := run_tell text w
  rw [ran]

section Calls

variable [Outside ε τ] [TimeScale τ]

def hand (sink : EventSink τ) (run : RunConfig) : Option FunnelEvent → Action ε τ Unit
  | some event => send sink run event
  | none => return ()

def Verdict.carryOut (v : Verdict) (sink : EventSink τ) (run : RunConfig) : Action ε τ Unit := do
  tell v.before
  hand sink run v.event
  tell v.after

private theorem report_eq (sink : EventSink τ) (auth : AuthResult) (run : RunConfig)
    (selfHeal : Bool) :
    (report sink auth run selfHeal : Action ε τ Unit) =
      (verdict auth selfHeal).carryOut sink run := by
  unfold report verdict authenticationFailure authenticationSuccess initializationFailure
  simp only [warnIf_eq_tell]
  split_ifs <;> simp [Verdict.carryOut, tell, hand, *]

def properties (run : RunConfig) : Json :=
  .obj [("userName", Json.ofText? run.userName), ("framework", Json.ofText? run.framework),
    ("buildName", Json.ofText? run.buildName)]

variable (ε) in
/-- What a sink shows of an event with this name. A request that is barred shows none. -/
def shows (sink : EventSink τ) (run : RunConfig) (name : String) : List (Event τ) :=
  match sink with
  | .silent => []
  | .outside => [.emitted name (properties run)]
  | .http url timeout =>
    let r := Http.request url
      (.obj [("event_type", .str name), ("event_properties", properties run)])
      [("Content-Type", .str "application/json")] timeout
    if (Http.barrier? ε url r).isSome then [] else [.http r]

def droppedLine (name : String) : String :=
  "Instrumentation event " ++ name ++ " dropped, no sink configured"

omit [Outside ε τ] in
private theorem emits_perform {α : Type} (call : LocatorHealing.Call ε τ α) :
    Keeps (Emits (call.event.toList.filter Event.isEmission)) (Action.perform call) := by
  intro w
  obtain ⟨t, grown, passes⟩ := Action.trace_perform call w
  refine ⟨_, by rw [grown, List.append_assoc], ?_⟩
  have closing : (t.map (·.event)).filter Event.isEmission = [] := by
    rw [List.filter_map, List.map_eq_nil_iff, List.filter_eq_nil_iff]
    intro e there
    have passing := passes e there
    generalize event : e.event = what at passing
    simp only [Function.comp_apply, event]
    cases passing with
    | quit key => exact Bool.false_ne_true
    | send _ => exact Bool.false_ne_true
  rw [List.map_append, List.filter_append, closing, List.append_nil]
  cases call.event with
  | none => rfl
  | some event => rfl

private theorem emits_post (url : String) (payload : Json) (headers : Members) (timeout : τ) :
    Keeps (Emits (
        let r := Http.request url payload headers timeout
        if (Http.barrier? ε url r).isSome then [] else [.http r]))
      (Action.perform (Http.post url payload headers timeout) : Action ε τ Json) := by
  have shown := emits_perform (Http.post url payload headers timeout : LocatorHealing.Call ε τ Json)
  rw [Http.event_post_eq] at shown
  dsimp only at shown ⊢
  split
  case isTrue barred =>
    rwa [if_pos barred] at shown
  case isFalse leaves =>
    rwa [if_neg leaves] at shown

private theorem emits_send (sink : EventSink τ) (run : RunConfig) (event : FunnelEvent) :
    Keeps (Emits (shows ε sink run event.name)) (send sink run event : Action ε τ Unit) := by
  unfold send emit
  cases sink with
  | silent => exact World.frame_emits.keeps_log .debug _
  | outside => exact emits_perform _
  | http url timeout =>
    unfold shows
    refine World.Emits.andThen (Frame.keeps_attempt (emits_post url _ _ timeout)) fun answered => ?_
    cases answered with
    | ok reply => exact World.frame_emits.keeps_pure ()
    | error fault => exact World.frame_emits.keeps_log _ _

private theorem emits_hand (sink : EventSink τ) (run : RunConfig) (event : Option FunnelEvent) :
    Keeps (Emits ((event.map FunnelEvent.name).toList.flatMap (shows ε sink run)))
      (hand sink run event : Action ε τ Unit) := by
  cases event with
  | none => exact World.frame_emits.keeps_pure ()
  | some event =>
    rw [Option.map_some, Option.toList_some, List.flatMap_singleton]
    exact emits_send sink run event

private theorem emits_handle (sink : EventSink τ) (auth : AuthResult) (run : RunConfig)
    (selfHeal : Bool) :
    Keeps (Emits (((verdict auth selfHeal).event.map FunnelEvent.name).toList.flatMap
        (shows ε sink run)))
      (handle sink auth run selfHeal : Action ε τ Unit) := by
  refine World.Emits.andThen (Frame.keeps_attempt ?_) fun told => ?_
  · rw [report_eq]
    refine World.Emits.after (emits_tell _) (tell_ends _) ?_
    exact World.Emits.andThen (emits_hand sink run _) fun _ => emits_tell _
  · cases told with
    | ok done => exact World.frame_emits.keeps_pure ()
    | error fault => exact World.frame_emits.keeps_log _ _

private theorem warns_handle (sink : EventSink τ) (auth : AuthResult) (run : RunConfig)
    (selfHeal : Bool) : Keeps Warns (handle sink auth run selfHeal : Action ε τ Unit) := by
  have hands (event : Option FunnelEvent) :
      Keeps Warns (hand sink run event : Action ε τ Unit) := by
    cases event with
    | none => exact World.sturdy_warns.keeps_pure ()
    | some event => exact keeps_emit World.sturdy_warns _ _ _
  refine World.sturdy_warns.keeps_bind (Frame.keeps_attempt ?_) fun told => ?_
  · rw [report_eq]
    refine World.sturdy_warns.keeps_bind (warns_tell _) fun _ => ?_
    exact World.sturdy_warns.keeps_bind (hands _) fun _ => warns_tell _
  · cases told with
    | ok done => exact World.sturdy_warns.keeps_pure ()
    | error fault => exact World.sturdy_warns.keeps_log .debug _

private theorem notes_hand_silent (run : RunConfig) (event : Option FunnelEvent) (w : World ε τ) :
    ∃ v, (hand .silent run event).run w = (.ok (), v) ∧
      Notes ((event.map FunnelEvent.name).toList.map droppedLine) w v := by
  cases event with
  | none => exact ⟨w, rfl, .refl w⟩
  | some event =>
    refine ⟨_, rfl, fun level => ?_⟩
    have inForce : w.level.rank ≤ Level.debug.rank := Nat.le_of_eq (congrArg Level.rank level)
    simp only [if_pos inForce]
    exact ⟨level, [(.debug, droppedLine event.name)], rfl, rfl⟩

private theorem notes_handle_silent (auth : AuthResult) (run : RunConfig) (selfHeal : Bool)
    (w : World ε τ) :
    Notes (((verdict auth selfHeal).event.map FunnelEvent.name).toList.map droppedLine) w
      ((handle .silent auth run selfHeal : Action ε τ Unit).run w).2 := by
  obtain ⟨v, before, first⟩ := notes_tell (verdict auth selfHeal).before w
  obtain ⟨u, handed, second⟩ := notes_hand_silent run (verdict auth selfHeal).event v
  obtain ⟨t, after, third⟩ := notes_tell (verdict auth selfHeal).after u
  have reported : (report .silent auth run selfHeal).run w = (.ok (), t) := by
    rw [report_eq, Verdict.carryOut, Action.run_bind_ok before, Action.run_bind_ok handed, after]
  have ended : (handle .silent auth run selfHeal).run w = (.ok (), t) := by
    unfold handle
    rw [Action.run_bind, Action.run_attempt, reported]
    rfl
  rw [ended]
  have all := (first.trans second).trans third
  rwa [List.nil_append, List.append_nil] at all

/-- A call of `handle`: what it is told of, and the world that it finds. -/
structure Telling (ε τ : Type) where
  auth : AuthResult
  run : RunConfig
  selfHeal : Bool
  found : World ε τ

namespace Telling

variable (sink : EventSink τ) (t : Telling ε τ)

def ran : Except Fault Unit × World ε τ :=
  (handle sink t.auth t.run t.selfHeal).run t.found

def warnings : List String :=
  World.logged .warning t.found (t.ran sink).2

/-- A call hands one event to its sink, by its name, or none. Where events go nowhere, it notes
which one was dropped, if debug messages are in force. -/
structure Hands (name : Option String) : Prop where
  shown : t.found.emissions (t.ran sink).2 = name.toList.flatMap (shows ε sink t.run)
  dropped : sink = .silent → t.found.level = .debug →
    World.logged .debug t.found (t.ran sink).2 = name.toList.map droppedLine

/-- The names of the events that a call may hand to its sink. -/
structure Apt (name : Option String) : Prop where
  upgrade : t.auth.message = some Authentication.upgradeMessage → name = none
  initSuccessful : t.auth.message ≠ some Authentication.upgradeMessage →
    (name = some "HealingInitSuccessful" ↔
      t.auth.isAuthenticated = true ∧ (∃ user, t.auth.userId = some user ∧ user ≠ "") ∧
        (∃ group, t.auth.groupId = some group ∧ group ≠ "") ∧
        t.auth.isHealingEnabled = some true)
  serviceDown : t.auth.message ≠ some Authentication.upgradeMessage →
    (name = some "HealingServiceDown" ↔
      t.auth.isAuthenticated = false ∧ ∃ n, t.auth.status = some n ∧ 500 ≤ n)

private theorem hands_verdict :
    t.Hands sink ((verdict t.auth t.selfHeal).event.map FunnelEvent.name) where
  shown := World.Emits.emissions_eq (emits_handle sink t.auth t.run t.selfHeal t.found)
  dropped := by
    intro silent level
    subst silent
    obtain ⟨-, more, grown, these⟩ := notes_handle_silent t.auth t.run t.selfHeal t.found level
    exact (World.logged_eq grown).trans these

omit [Outside ε τ] [TimeScale τ] in
private theorem apt_verdict : t.Apt ((verdict t.auth t.selfHeal).event.map FunnelEvent.name) where
  upgrade upgrade := by rw [verdict_event_of_upgrade t.auth t.selfHeal upgrade, Option.map_none]
  initSuccessful current :=
    (FunnelEvent.map_name_eq_iff .initSuccessful).trans
      (verdict_event_eq_initSuccessful t.auth t.selfHeal current)
  serviceDown current :=
    (FunnelEvent.map_name_eq_iff .serviceDown).trans
      (verdict_event_eq_serviceDown t.auth t.selfHeal current)

private theorem warnings_of_declined (declined : t.selfHeal = false) : t.warnings sink = [] := by
  obtain ⟨more, grown, quiet⟩ :=
    keeps_handle sturdy_hushed (fun w _ => .refl w.log) sink t.auth t.run
    t.selfHeal (fun asked => Bool.noConfusion (declined.symm.trans asked)) t.found
  exact (World.logged_eq grown).trans (Level.texts_warning quiet)

end Telling

/-- Calls one after the other, given the warnings that were given before. Each call remembers those
of the calls before it; between two calls the world may change in every other way. -/
def Sequence (sink : EventSink τ) : (warned : List String) → List (Telling ε τ) → Prop
  | _, [] => True
  | warned, t :: rest => t.found.warned = warned ∧ Sequence sink (t.ran sink).2.warned rest

private theorem Sequence.nodup_warnings {sink : EventSink τ} {warned : List String}
    {calls : List (Telling ε τ)} (sequence : Sequence sink warned calls)
    (before : warned.Nodup) : (warned ++ calls.flatMap (Telling.warnings sink)).Nodup := by
  induction calls generalizing warned with
  | nil => rwa [List.flatMap_nil, List.append_nil]
  | cons t rest ih =>
    obtain ⟨rfl, others⟩ := sequence
    obtain ⟨fresh, gives⟩ := warns_handle sink t.auth t.run t.selfHeal t.found
    have after := ih others (gives.distinct before)
    have told : (t.warnings sink).Sublist fresh := by
      obtain ⟨more, grown, told⟩ := gives.told
      rwa [← World.logged_eq grown] at told
    refine after.sublist ?_
    rw [show (t.ran sink).2.warned = t.found.warned ++ fresh from gives.remembered,
      List.flatMap_cons, List.append_assoc]
    exact (told.append (.refl _)).append_left _

/-- Whatever its sink does and whatever it is told of, no call of a sequence that starts afresh
raises. Over the whole sequence each warning is given at most once, and only to users who asked for
healing; each call hands at most one event to its sink, which the result decides on. -/
theorem sequence_tells_once (sink : EventSink τ) (calls : List (Telling ε τ))
    (sequence : Sequence sink [] calls) :
    (∀ t ∈ calls, (t.ran sink).1 = .ok ()) ∧
    (calls.flatMap (Telling.warnings sink)).Nodup ∧
    (∀ t ∈ calls, t.warnings sink ≠ [] → t.selfHeal = true) ∧
    ∀ t ∈ calls, ∃ name, t.Hands sink name ∧ t.Apt name := by
  refine ⟨fun t _ => ?_, sequence.nodup_warnings .nil, fun t _ => ?_, fun t _ => ?_⟩
  · obtain ⟨_, _, ended, -⟩ := Launcher.gives_handle t.auth t.run sink t.selfHeal t.found
    exact congrArg Prod.fst ended
  · contrapose!
    intro declined
    exact t.warnings_of_declined sink (Bool.eq_false_iff.2 declined)
  · exact ⟨_, t.hands_verdict sink, t.apt_verdict⟩

end Calls

section Witness

open Rehearsal (Stage)

def turnedAway : List AuthResult :=
  [{ status := some 401 }, { status := some 401 },
    { isAuthenticated := true, userId := some "u", groupId := some "g",
      isHealingEnabled := some true }]

/-- Calls that are told of one result after the other, each in the world that the one before left.
-/
def callsIn (sink : EventSink Number) (w : World Stage Number) :
    List AuthResult → List (Telling Stage Number)
  | [] => []
  | auth :: rest =>
    let t : Telling Stage Number := ⟨auth, {}, true, w⟩
    t :: callsIn sink (t.ran sink).2 rest

def failingSink : World Stage Number :=
  { Occurrence.stagedWorld [] with
    outside := { sinkFault := some (.raised .runtime "full" .null) } }

/-- All three calls end well and hand over an event, though the sink raises a fault at each. -/
theorem sequence_tells_once_failing :
    let calls := callsIn .outside failingSink turnedAway
    Sequence .outside [] calls ∧ (∀ t ∈ calls, (t.ran .outside).1 = .ok ()) ∧
    (calls.flatMap (Telling.warnings .outside)).Nodup ∧
    calls.flatMap (Telling.warnings .outside) =
      ["Authentication Failed. Disabling Healing for this session."] ∧
    (calls.flatMap fun t => t.found.emissions (t.ran .outside).2) =
      ["HealingAuthFailure", "HealingAuthFailure", "HealingInitSuccessful"].map
        (.emitted · (properties {})) ∧
    ∀ t ∈ calls, ∃ name, t.Hands .outside name ∧ t.Apt name := by
  intro calls
  have sequence : Sequence .outside [] calls := ⟨rfl, rfl, rfl, trivial⟩
  obtain ⟨ends, once, -, hands⟩ := sequence_tells_once .outside calls sequence
  exact ⟨sequence, ends, once, by with_unfolding_all rfl, by with_unfolding_all rfl, hands⟩

end Witness

end Instrumentation

end LocatorHealing
