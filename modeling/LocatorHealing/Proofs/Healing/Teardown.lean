import LocatorHealing.Proofs.Healing.Cost

set_option autoImplicit false
set_option relaxedAutoImplicit false

/-!
A session that goes away while its lookup is healed. Nothing more is looked up, since every command
to the session is refused from then on. The first outcome is kept if the run goes on to its end or
is ended by a fault that says that the session has gone. Any other fault makes the run look once
more, so that it ends with the refusal instead.
-/

namespace LocatorHealing

variable {ε τ : Type} {key : String}

def World.Gone (key : String) (w : World ε τ) : Prop :=
  (w.sessions key).isActive = false

/-- A session that has gone stays away, and no driver is asked for an element. -/
def World.StaysGone (key : String) (strategy value : Json) (w v : World ε τ) : Prop :=
  w.Gone key → v.Gone key ∧ w.Sees (Deed.find.Counts strategy value) 0 v

variable {strategy value : Json}

open LocatorHealing.Action (Keeps)
open World (StaysGone Gone)

private theorem frame_staysGone : Frame (StaysGone (ε := ε) (τ := τ) key strategy value) where
  refl w gone := ⟨gone, .refl w⟩
  trans first second gone := by
    obtain ⟨left, before⟩ := first gone
    obtain ⟨stays, after⟩ := second left
    exact ⟨stays, before.trans after⟩
  log w _ _ gone := ⟨gone, .refl w⟩
  clock w _ gone := ⟨gone, .refl w⟩

namespace StaysGone

theorem note {event : Event τ} (other : ¬Deed.find.Counts strategy value event) :
    Keeps (StaysGone key strategy value) (Action.note event : Action ε τ Unit) :=
  fun w gone => ⟨gone, Action.Costs.note (fun counts => absurd counts other) w⟩

theorem modifySession {other : String} {f : Session ε τ → Session ε τ}
    (ends : ∀ s, (f s).isActive = false) :
    Keeps (StaysGone key strategy value) (Action.modifySession other f : Action ε τ Unit) := by
  intro w gone
  refine ⟨?_, .refl w⟩
  simp only [World.Gone, Action.modifySession, Action.run_modify]
  split
  · exact ends _
  · exact gone

variable [TimeScale τ]

theorem happen (h : Happening τ (FollowUp τ)) :
    Keeps (StaysGone key strategy value) (Action.happen h : Action ε τ Unit) := by
  cases h with
  | elapse duration => exact frame_staysGone.keeps_elapse duration
  | quit other =>
    exact frame_staysGone.keeps_bind (modifySession fun s => by simp [Session.isActive]) fun _ =>
      note id
  | lose other =>
    exact modifySession (f := fun s => { s with sessionId := .null }) fun s => by
      simp [Session.isActive, Json.isNull]
  | send further => exact note id

theorem ask (service : Service ε τ) (inquiry : Inquiry τ) :
    Keeps (StaysGone key strategy value) (Action.ask service inquiry) := by
  refine frame_staysGone.keeps_bind (note ?_) fun _ => frame_staysGone.keeps_perform ?_ ?_
  · cases inquiry with
    | _ => exact id
  · intro event shows
    obtain ⟨request, rfl⟩ := service.shows_request inquiry event shows
    exact note id
  · intro w gone
    exact frame_staysGone.keeps_each (fun h _ => happen h) _ gone

variable [Outside ε τ]

theorem driverLookup (s v : Json) :
    Keeps (StaysGone key strategy value) (Session.driverLookup key s v : Action ε τ Outcome) := by
  intro w gone
  rw [Session.run_driverLookup_inactive gone]
  exact ⟨gone, .refl w⟩

theorem execute (script : String) :
    Keeps (StaysGone key strategy value) (Session.execute key script [] : Action ε τ Json) := by
  intro w gone
  rw [Session.run_execute_inactive gone]
  exact ⟨gone, .refl w⟩

end StaysGone

namespace Healing

/-- The task is to ask the service, or to run a script. -/
def Task.IsCall : Task → Prop
  | .log _ | .ask _ | .script _ _ | .poll _ => True
  | _ => False

def Task.first? : Task → Option Outcome
  | .look => none
  | .log first | .ask first | .script first _ | .poll first | .retry first _ => some first
  | .close _ => none

/-- A point that comes after the first lookup, and bears its outcome. -/
structure Point.Bears (first : Outcome) (x : Point) : Prop where
  later : x.task ≠ .look
  kept : x.progress.first = some first
  held : ∀ other, x.task.first? = some other → other = first

/-- A point that bears the first outcome, and closes with no other. -/
structure Point.Rests (first : Outcome) (x : Point) : Prop extends x.Bears first where
  closes : ∀ outcome, x.task = .close outcome → outcome = first

namespace Run

variable [Outside ε τ] [TimeScale τ] {r : Run ε τ} {x y : Point} {v u w : World ε τ}
  {first : Outcome}

/-- From a point on, a run keeps the first outcome unless a fault is caught that does not say that
the session has gone; with such a fault it comes to the refusal to look once more. -/
structure Settles (r : Run ε τ) (x : Point) (v : World ε τ) (first outcome : Outcome) : Prop where
  keeps : (∀ fault, r.Catches fault x v → fault.isSessionGone = true) → outcome = first
  refuses : ∀ fault, r.Catches fault x v → fault.isSessionGone = false →
    outcome = .failed .sessionClosed

private theorem within_staysGone (plain : r.look = Session.driverLookup r.session)
    (strategy value : Json) :
    r.Within (World.StaysGone r.session strategy value) where
  toActs := .of_asks frame_staysGone (plain ▸ StaysGone.driverLookup)
    (fun inquiry _ => StaysGone.ask r.healing.service inquiry) StaysGone.execute
    fun _ => StaysGone.note id
  audits := auditKeeps_of frame_staysGone (fun _ _ w gone => ⟨gone, .refl w⟩)
    fun w _ gone => ⟨gone, .refl w⟩

omit [Outside ε τ] [TimeScale τ] in
private theorem bears_close {p : Progress} {outcome : Outcome} (kept : p.first = some first) :
    Point.Bears first ⟨.close outcome, p⟩ :=
  ⟨Task.noConfusion, kept, fun _ held => by cases held⟩

omit [Outside ε τ] [TimeScale τ] in
private theorem rests_close {p : Progress} (kept : p.first = some first) :
    Point.Rests first ⟨.close first, p⟩ :=
  ⟨bears_close kept, fun _ closes => (Task.close.inj closes).symm⟩

omit [Outside ε τ] [TimeScale τ] in
private theorem bears_afterLook (p : Progress) (first : Outcome) :
    (r.afterLook p first).Bears first := by
  unfold afterLook
  split
  · exact ⟨Task.noConfusion, rfl, fun _ held => (Option.some.inj held).symm⟩
  split
  · exact ⟨Task.noConfusion, rfl, fun _ held => (Option.some.inj held).symm⟩
  · exact bears_close rfl

/-- A call leads on with the first outcome, or closes with it. -/
theorem Moves.rests (bears : x.Bears first) (call : x.task.IsCall)
    (moves : r.Moves (x, v) (y, u)) : y.Rests first := by
  have does := moves_iff.1 moves
  obtain ⟨task, p⟩ := x
  obtain ⟨-, kept, held⟩ := bears
  cases task with
  | log other =>
    obtain ⟨-, rfl⟩ := does
    obtain rfl := held other rfl
    exact rests_close kept
  | ask other =>
    obtain ⟨answer, -, rfl⟩ := does
    obtain rfl := held other rfl
    cases answer with
    | none => exact rests_close kept
    | some script => exact ⟨⟨Task.noConfusion, kept, held⟩, fun _ => Task.noConfusion⟩
  | script other script =>
    obtain ⟨-, rfl⟩ := does
    obtain rfl := held other rfl
    exact ⟨⟨Task.noConfusion, kept, held⟩, fun _ => Task.noConfusion⟩
  | poll other =>
    obtain ⟨found, -, rfl⟩ := does
    obtain rfl := held other rfl
    cases found with
    | none => exact rests_close kept
    | some healed => exact ⟨⟨Task.noConfusion, kept, held⟩, fun _ => Task.noConfusion⟩
  | look => exact call.elim
  | retry first healed => exact call.elim
  | close outcome => exact call.elim

/-- The first outcome is borne from point to point. -/
private theorem Moves.bears (bears : x.Bears first) (moves : r.Moves (x, v) (y, u)) :
    y.Bears first := by
  obtain ⟨task, p⟩ := x
  cases task with
  | look => exact absurd rfl bears.later
  | retry other healed =>
    obtain ⟨second, -, rfl⟩ := moves_iff.1 moves
    unfold afterRetry
    split
    · exact bears_close bears.kept
    · exact bears_close bears.kept
  | close outcome => exact (moves_iff.1 moves).elim
  | _ => exact (Moves.rests bears trivial moves).toBears

/-- Wherever a run comes after the first lookup, it bears the outcome. -/
private theorem Reaches.bears {t : World ε τ}
    (looked : (r.look r.attempt.strategy r.attempt.value).run w = (.ok first, t))
    (reaches : r.Reaches w x v) (later : x.task ≠ .look) : x.Bears first := by
  have stands : (x = entry ∧ v = w) ∨ x.Bears first := by
    refine reaches.invariant (I := fun x v => (x = entry ∧ v = w) ∨ x.Bears first)
      (.inl ⟨rfl, rfl⟩) ?_
    rintro x v y u (⟨rfl, rfl⟩ | bears) moves
    · obtain ⟨other, again, rfl⟩ := moves_iff.1 moves
      rw [looked] at again
      cases again
      exact .inr (bears_afterLook _ first)
    · exact .inr (Moves.bears bears moves)
  obtain ⟨rfl, -⟩ | bears := stands
  · exact absurd rfl later
  · exact bears

private theorem isCall_of_gone (gone : v.Gone r.session) (bears : x.Bears first)
    (moves : r.Moves (x, v) (y, u)) : x.task.IsCall := by
  obtain ⟨task, p⟩ := x
  cases task with
  | look => exact absurd rfl bears.later
  | retry other healed =>
    obtain ⟨second, tried, -⟩ := moves_iff.1 moves
    have active := (tryHealed_ok tried).1
    rw [gone] at active
    cases active
  | close outcome => exact (moves_iff.1 moves).elim
  | _ => trivial

/-- A run recovers in a session that has gone with the first outcome, or the refusal to look once
more. -/
private theorem recover_gone (plain : r.look = Session.driverLookup r.session)
    (gone : v.Gone r.session) {p : Progress} (kept : p.first = some first) {fault : Fault}
    {e : Ending} (ends : (r.recover p fault).run v = (.ok e, u)) :
    e.outcome = if fault.isSessionGone then first else .failed .sessionClosed := by
  obtain ⟨-, ⟨tells, keeps⟩ | ⟨silent, log, t, looked⟩⟩ := recover_ok ends
  · rw [keeps, kept, tells]
    rfl
  · rw [plain, Session.run_driverLookup_inactive (w := { v with log }) gone] at looked
    rw [← Except.ok.inj (congrArg Prod.fst looked), silent]
    rfl

private theorem settles_of_caught (plain : r.look = Session.driverLookup r.session)
    {fault : Fault} (raised : (r.step x).run v = (.error fault, u)) (gone : u.Gone r.session)
    (kept : x.progress.first = some first) {e : Ending} {t : World ε τ}
    (ends : (r.recover x.progress fault).run u = (.ok e, t)) :
    r.Settles x v first e.outcome := by
  have comes := recover_gone plain gone kept ends
  constructor
  · intro tells
    rwa [tells fault (.now raised)] at comes
  · intro other caught silent
    rw [catches_iff_of_raised raised] at caught
    subst caught
    rwa [silent] at comes

private theorem settles_of_moves (moves : r.Moves (x, v) (y, u)) {outcome : Outcome}
    (settles : r.Settles y u first outcome) : r.Settles x v first outcome where
  keeps tells := settles.keeps fun fault caught => tells fault ((moves.catches_iff fault).2 caught)
  refuses fault caught := settles.refuses fault ((moves.catches_iff fault).1 caught)

/-- A run goes on in a session that has gone to the first outcome, or to the refusal. -/
private theorem Runs.settles (plain : r.look = Session.driverLookup r.session)
    {z : Except Fault Ending × World ε τ} (runs : r.Runs x v z) (gone : v.Gone r.session)
    (rests : x.Rests first) {e : Ending} {u : World ε τ} (ends : z = (.ok e, u)) :
    r.Settles x v first e.outcome := by
  have within := within_staysGone plain r.attempt.strategy r.attempt.value
  induction runs with
  | @ends x v e' u' stepped =>
    cases ends
    obtain ⟨outcome, closes, rfl⟩ := step_ends stepped
    exact ⟨fun _ => rests.closes outcome closes,
      fun fault caught => absurd caught (not_catches_of_ends stepped)⟩
  | @caught x v fault u' raised =>
    have left := (within.step x v gone).1
    rw [raised] at left
    exact settles_of_caught plain raised left rests.kept ends
  | @goes x v y u' z moves _ ih =>
    have call := isCall_of_gone gone rests.toBears moves
    have left := (within.moves moves gone).1
    exact settles_of_moves moves (ih left (Moves.rests rests.toBears call moves) ends)

private theorem Runs.answers (plain : r.look = Session.driverLookup r.session)
    (audits : r.healing.AuditsPlainly) {z : Except Fault Ending × World ε τ}
    (runs : r.Runs x v z) (gone : ((r.step x).run v).2.Gone r.session) :
    ∃ e u, z = (.ok e, u) := by
  have within := within_staysGone plain r.attempt.strategy r.attempt.value
  induction runs with
  | @ends x v e u stepped => exact ⟨e, u, rfl⟩
  | @caught x v fault u raised =>
    rw [raised] at gone
    refine recover_answers audits (fun log => ?_) x.progress fault
    rw [plain]
    exact ⟨_, _, Session.run_driverLookup_inactive (w := { u with log }) gone _ _⟩
  | @goes x v y u z moves _ ih =>
    rw [moves.run_step] at gone
    exact ih (within.step y u gone).1

omit [Outside ε τ] [TimeScale τ] in
private theorem price_call {task : Task} (call : task.IsCall) (key : String)
    (strategy value : Json) (polls : Nat) :
    (Deed.find.tariff τ key strategy value).price polls task = 0 := by
  cases task with
  | log first => rfl
  | ask first => rfl
  | script first script => rfl
  | poll first => rfl
  | look => exact call.elim
  | retry first healed => exact call.elim
  | close outcome => exact call.elim

private theorem Runs.quiet (plain : r.look = Session.driverLookup r.session)
    {z : Except Fault Ending × World ε τ} (runs : r.Runs x v z) (call : x.task.IsCall)
    (gone : ((r.step x).run v).2.Gone r.session) :
    v.Sees (Deed.find.Counts r.attempt.strategy r.attempt.value) 0 z.2 := by
  have within := within_staysGone plain r.attempt.strategy r.attempt.value
  have paid := costs_step (Deed.find.tariff τ r.session r.attempt.strategy r.attempt.value)
    plain x v
  rw [price_call call] at paid
  exact paid.trans (within.runs_step runs gone).2

/-- After a call that the session does not outlast, a run comes to the first outcome, or to the
refusal. -/
private theorem Runs.settles_of_call (plain : r.look = Session.driverLookup r.session)
    {z : Except Fault Ending × World ε τ} (runs : r.Runs x v z) (call : x.task.IsCall)
    (bears : x.Bears first) (gone : ((r.step x).run v).2.Gone r.session) {e : Ending}
    {u : World ε τ} (ends : z = (.ok e, u)) : r.Settles x v first e.outcome := by
  cases runs with
  | ends stepped =>
    obtain ⟨outcome, closes, -⟩ := step_ends stepped
    rw [closes] at call
    exact call.elim
  | caught raised =>
    rw [raised] at gone
    exact settles_of_caught plain raised gone bears.kept ends
  | @goes _ _ y u _ moves rest =>
    rw [moves.run_step] at gone
    exact settles_of_moves moves (Runs.settles plain rest gone (Moves.rests bears call moves) ends)

/-- A session goes away while a call is made for a run. No driver is asked for an element any more,
and the run comes to the outcome of its first lookup, unless its course ends with a fault that does
not say that the session has gone. Then it comes to the refusal to look once more. -/
theorem start_torn_down (plain : r.look = Session.driverLookup r.session) {t : World ε τ}
    (looked : (r.look r.attempt.strategy r.attempt.value).run w = (.ok first, t))
    (came : r.Reaches w x v) (call : x.task.IsCall)
    (gone : ((r.step x).run v).2.Gone r.session) :
    v.Sees (Deed.find.Counts r.attempt.strategy r.attempt.value) 0 (r.start.run w).2 ∧
      (r.healing.AuditsPlainly → ∃ e u, r.start.run w = (.ok e, u)) ∧
      ∀ e u, r.start.run w = (.ok e, u) →
        ((∀ fault, r.Catches fault x v → fault.isSessionGone = true) → e.outcome = first) ∧
        ∀ fault, r.Catches fault x v → fault.isSessionGone = false →
          e.outcome = .failed .sessionClosed := by
  have later : x.task ≠ .look := by
    intro looks
    rw [looks] at call
    exact call
  have bears := Reaches.bears looked came later
  refine ⟨Runs.quiet plain came.runs call gone,
    fun audits => Runs.answers plain audits came.runs gone, fun e u ends => ?_⟩
  have settles := Runs.settles_of_call plain came.runs call bears gone ends
  exact ⟨settles.keeps, settles.refuses⟩

private theorem step_script_gone (gone : v.Gone r.session) {script : String} {p : Progress} :
    (r.step ⟨.script first script, p⟩).run v =
      (.error (.closedWhileHealing (v.sessions r.session).sessionId), v) :=
  Action.run_bind_error (Action.run_bind_error (run_ensureActive_inactive gone))

def asking (first : Outcome) : Point :=
  ⟨.ask first, ⟨[.firstLookup, .attemptHeal], some first, none⟩⟩

theorem reaches_asking
    (looked : (r.look r.attempt.strategy r.attempt.value).run w = (.ok first, v))
    (failed : first.isFailure = true) (may : r.mayHeal = true) :
    r.Reaches w (asking first) v := by
  refine .single (moves_iff.2 ⟨first, looked, ?_⟩)
  simp [afterLook, failed, may, asking, entry, Progress.enter]

namespace Closing

variable (answer : Except Fault (Option String))

/-- A run in a session that is closed while the service is asked to heal. -/
def run : Run Still Rat :=
  (Manner.closing "s" answer).run { isHealingEnabled := some true } { selfHeal := true } none "old"

def world : World Still Rat :=
  (Manner.closing "s" answer).world { isHealingEnabled := some true } { selfHeal := true } none
    "new"

def absent : Outcome :=
  .failed (.raised .noSuchElement "no such element" .null)

def missed : World Still Rat :=
  (((run answer).look (.str "id") (.str "old")).run (world answer)).2

theorem looked :
    ((run answer).look (.str "id") (.str "old")).run (world answer) =
      (.ok absent, missed answer) := by
  with_unfolding_all rfl

theorem gone : (((run answer).step (asking absent)).run (missed answer)).2.Gone "s" := by
  cases answer with
  | ok script? => with_unfolding_all rfl
  | error fault => with_unfolding_all rfl

def script : Except Fault (Option String) :=
  .ok (some "mark()")

def refusal : Except Fault (Option String) :=
  .error (.refused 500 "down")

end Closing

/-- Where the service answers with a script, the first outcome is kept: the script is not run any
more, since the session has gone. -/
theorem start_torn_down_answered :
    ∃ e u, (Closing.run Closing.script).start.run (Closing.world Closing.script) = (.ok e, u) ∧
      e.outcome = Closing.absent := by
  have came : (Closing.run Closing.script).Reaches (Closing.world Closing.script)
      (asking Closing.absent) (Closing.missed Closing.script) :=
    reaches_asking (Closing.looked _) rfl rfl
  obtain ⟨-, answers, comes⟩ :=
    start_torn_down rfl (Closing.looked _) came trivial (Closing.gone _)
  obtain ⟨e, u, ends⟩ := answers (Manner.auditsPlainly _ _ nofun)
  refine ⟨e, u, ends, (comes e u ends).1 fun fault caught => ?_⟩
  obtain ⟨t, moves⟩ : ∃ t, (Closing.run Closing.script).Moves
      (asking Closing.absent, Closing.missed Closing.script) (⟨.script Closing.absent "mark()",
        ⟨[.firstLookup, .attemptHeal, .executeScript], some Closing.absent, none⟩⟩, t) :=
    ⟨_, by with_unfolding_all rfl⟩
  have left : t.Gone "s" := by
    have gone := Closing.gone Closing.script
    rwa [moves.run_step] at gone
  rw [moves.catches_iff, catches_iff_of_raised (step_script_gone left)] at caught
  subst caught
  rfl

/-- Where the service refuses, the first outcome is lost. -/
theorem start_forgets_first :
    (((Closing.run Closing.refusal).look (.str "id") (.str "old")).run
        (Closing.world Closing.refusal) = (.ok Closing.absent, Closing.missed Closing.refusal)) ∧
      (Closing.run Closing.refusal).Reaches (Closing.world Closing.refusal)
        (asking Closing.absent) (Closing.missed Closing.refusal) ∧
      ((Closing.missed Closing.refusal).sessions "s").isActive = true ∧
      (((Closing.run Closing.refusal).step (asking Closing.absent)).run
        (Closing.missed Closing.refusal)).2.Gone "s" ∧
      ((Closing.run Closing.refusal).start.run (Closing.world Closing.refusal)).1.map
        Ending.outcome = .ok (.failed .sessionClosed) ∧
      Closing.absent ≠ .failed .sessionClosed := by
  refine ⟨Closing.looked _, reaches_asking (Closing.looked _) rfl rfl, rfl, Closing.gone _, ?_,
    nofun⟩
  with_unfolding_all rfl

end Run

end Healing

end LocatorHealing
