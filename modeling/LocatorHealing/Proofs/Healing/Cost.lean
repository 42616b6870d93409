import LocatorHealing.Proofs.Action.Cost
import LocatorHealing.Proofs.Healing.Frame
import LocatorHealing.Proofs.Healing.Parts
import LocatorHealing.Proofs.Session.Lookup
import LocatorHealing.Proofs.Still

set_option autoImplicit false
set_option relaxedAutoImplicit false

/-!
What a lookup costs. Every task of a run has its price, and what was spent before a task is bounded
by the prices of the tasks that lead there. After a fault, the run looks once more, and if that or
the audit raises a fault too, so does the middleware.
-/

namespace LocatorHealing

variable {ε τ : Type}

/-- What the things that a lookup does count for, where events of a kind are counted. -/
structure Tariff (kind : Event τ → Prop) (key : String) (strategy value : Json) where
  /-- Looking up the locator itself. -/
  original : Nat
  /-- Looking up any locator. -/
  other : Nat
  report : Nat
  poll : Nat
  script : Nat
  uncounted : Uncounted kind
  original_le : original ≤ other
  of_original : kind (.driver key (.find strategy value)) → 1 ≤ original
  of_find : ∀ strategy value, kind (.driver key (.find strategy value)) → 1 ≤ other
  of_log : ∀ lookup, kind (.asked (.log lookup)) → 1 ≤ report
  of_heal : ∀ failure, kind (.asked (.heal failure)) → 1 ≤ report
  of_poll : ∀ endpoint sessionId token timeout,
    kind (.asked (.poll endpoint sessionId token timeout)) → 1 ≤ poll
  of_script : ∀ text, kind (.driver key (.script text [])) → 1 ≤ script

namespace Tariff

variable {kind : Event τ → Prop} {key : String} {strategy value : Json}

def most (f : Tariff kind key strategy value) (polls : Nat) : Nat :=
  f.original + f.other + f.report + f.script + polls * f.poll

def price (f : Tariff kind key strategy value) (polls : Nat) : Healing.Task → Nat
  | .look => f.original
  | .log _ => f.report + f.script
  | .ask _ => f.report
  | .script _ _ => f.script
  | .poll _ => polls * f.poll
  | .retry _ _ => f.other
  | .close _ => 0

def spent (f : Tariff kind key strategy value) (polls : Nat) : Healing.Task → Nat
  | .look => 0
  | .log _ => f.original
  | .ask _ => f.original
  | .script _ _ => f.original + f.report
  | .poll _ => f.original + f.report + f.script
  | .retry _ _ => f.original + f.report + f.script + polls * f.poll
  | .close _ => f.most polls

private theorem spent_add_price_le (f : Tariff kind key strategy value) (polls : Nat)
    (task : Healing.Task) : f.spent polls task + f.price polls task ≤ f.most polls := by
  cases task with
  | _ =>
    simp only [spent, price, most]
    omega

end Tariff

namespace Healing.Run

open LocatorHealing.Action (Keeps Costs)

variable [Outside ε τ] [TimeScale τ] {r : Run ε τ} {kind : Event τ → Prop}
  (f : Tariff kind r.session r.attempt.strategy r.attempt.value)
include f

omit [TimeScale τ] f in
theorem auditKeeps_sees : AuditKeeps (World.Sees (ε := ε) kind 0) :=
  auditKeeps_of frame_sees (fun _ _ w => .refl w) fun w _ => .refl w

omit f in
/-- A run does nothing of a kind that none of its lookups, inquiries and scripts is of. -/
theorem within_sees (uncounted : Uncounted kind)
    (looks : ∀ strategy value, Costs kind 0 (r.look strategy value))
    (asks : ∀ inquiry, ¬kind (.asked inquiry))
    (scripts : ∀ text, ¬kind (.driver r.session (.script text []))) :
    r.Within (World.Sees kind 0) where
  toActs := .of_asks frame_sees looks
    (fun _ _ => Costs.ask uncounted fun counts => absurd counts (asks _))
    (fun _ => Costs.execute uncounted fun counts => absurd counts (scripts _))
    fun _ => Costs.note fun counts => absurd counts (uncounted.sleeps _)
  audits := auditKeeps_sees

private theorem costs_logUsage : Costs kind (f.report + f.script) r.logUsage := by
  unfold logUsage
  refine (Costs.ask f.uncounted (f.of_log _)).bind fun answer => ?_
  split
  · exact (Costs.execute f.uncounted (f.of_script _)).andQuiet fun _ => frame_sees.keeps_pure _
  · exact .of_keeps (frame_sees.keeps_pure _)

omit [Outside ε τ] in
private theorem costs_request : Costs kind f.report r.request :=
  .quietThen (frame_sees.keeps_log _ _) fun _ =>
    (Costs.ask f.uncounted (f.of_heal _)).andQuiet fun _ => frame_sees.keeps_pure _

private theorem costs_runScript (script : String) : Costs kind f.script (r.runScript script) :=
  .quietThen (r.keeps_ensureActive frame_sees) fun _ =>
    (Costs.execute f.uncounted (f.of_script _)).andQuiet fun _ => frame_sees.keeps_pure _

omit [Outside ε τ] in
private theorem costs_pollOnce (deadline : τ) : Costs kind f.poll (r.pollOnce deadline) := by
  unfold pollOnce
  refine .quietThen (r.keeps_ensureActive frame_sees) fun _ => ?_
  refine .quietThen (frame_sees.keeps_timeUntil deadline) fun remaining => ?_
  split
  · exact .of_keeps (frame_sees.keeps_pure _)
  · exact Costs.ask f.uncounted (f.of_poll _ _ _ _)

omit [Outside ε τ] in
private theorem costs_poll : Costs kind (r.healing.settings.pollMaxAttempts * f.poll) r.poll := by
  have calls : max 1 r.healing.settings.pollMaxAttempts = r.healing.settings.pollMaxAttempts :=
    Nat.max_eq_right r.healing.settings.pollMaxAttempts_pos
  unfold poll Wait.wait
  refine .quietThen (frame_sees.keeps_read _) fun now => ?_
  refine .quietThen (frame_sees.keeps_sum _ _) fun deadline => ?_
  refine .andQuiet ?_ fun _ => frame_sees.keeps_pure _
  refine .quietThen (frame_sees.keeps_read _) fun now => ?_
  refine .quietThen (frame_sees.keeps_sum _ _) fun _ => ?_
  rw [Wait.Calls.count, calls]
  exact Costs.loop f.uncounted _ _ _ _ (costs_pollOnce f deadline) _

private theorem costs_tryHealed (plain : r.look = Session.driverLookup r.session)
    (healed : HealedLocator) : Costs kind f.other (r.tryHealed healed) := by
  refine .andQuiet (.quietThen (r.keeps_ensureActive frame_sees) fun _ => ?_) fun _ => ?_
  · rw [plain]
    exact Costs.driverLookup f.uncounted (f.of_find _ _)
  · exact frame_sees.keeps_bind (frame_sees.keeps_log _ _) fun _ => frame_sees.keeps_pure _

theorem costs_step (plain : r.look = Session.driverLookup r.session) (x : Point) :
    Costs kind (f.price r.healing.settings.pollMaxAttempts x.task) (r.step x) := by
  obtain ⟨task, p⟩ := x
  cases task with
  | look =>
    refine Costs.andQuiet ?_ fun _ => frame_sees.keeps_pure _
    rw [plain]
    exact Costs.driverLookup f.uncounted f.of_original
  | log first => exact (costs_logUsage f).andQuiet fun _ => frame_sees.keeps_pure _
  | ask first => exact (costs_request f).andQuiet fun _ => frame_sees.keeps_pure _
  | script first script =>
    exact (costs_runScript f script).andQuiet fun _ => frame_sees.keeps_pure _
  | poll first => exact (costs_poll f).andQuiet fun _ => frame_sees.keeps_pure _
  | retry first healed =>
    exact (costs_tryHealed f plain healed).andQuiet fun _ => frame_sees.keeps_pure _
  | close outcome =>
    exact frame_sees.keeps_bind (r.keeps_finish frame_sees auditKeeps_sees p outcome) fun _ =>
      frame_sees.keeps_pure _

private theorem spent_moves {x y : Point} {v u : World ε τ} (moves : r.Moves (x, v) (y, u)) :
    f.spent r.healing.settings.pollMaxAttempts x.task +
        f.price r.healing.settings.pollMaxAttempts x.task ≤
      f.spent r.healing.settings.pollMaxAttempts y.task := by
  have does := moves_iff.1 moves
  obtain ⟨task, p⟩ := x
  cases task with
  | look =>
    obtain ⟨first, -, rfl⟩ := does
    unfold afterLook
    split
    · exact Nat.le_of_eq (Nat.zero_add _)
    split
    · exact Nat.le_of_eq (Nat.zero_add _)
    · exact f.spent_add_price_le _ .look
  | log first =>
    obtain ⟨-, rfl⟩ := does
    exact f.spent_add_price_le _ (.log first)
  | ask first =>
    obtain ⟨answer, -, rfl⟩ := does
    cases answer with
    | none => exact f.spent_add_price_le _ (.ask first)
    | some script => exact Nat.le_refl _
  | script first script =>
    obtain ⟨-, rfl⟩ := does
    exact Nat.le_refl _
  | poll first =>
    obtain ⟨found, -, rfl⟩ := does
    cases found with
    | none => exact f.spent_add_price_le _ (.poll first)
    | some healed => exact Nat.le_refl _
  | retry first healed =>
    obtain ⟨second, -, rfl⟩ := does
    unfold afterRetry
    split
    · exact f.spent_add_price_le _ (.retry first healed)
    · exact f.spent_add_price_le _ (.retry first healed)
  | close outcome => exact does.elim

private theorem reaches_sees (plain : r.look = Session.driverLookup r.session) {w v : World ε τ}
    {x : Point} (reaches : r.Reaches w x v) :
    w.Sees kind (f.spent r.healing.settings.pollMaxAttempts x.task) v := by
  refine reaches.invariant (I := fun x v =>
    w.Sees kind (f.spent r.healing.settings.pollMaxAttempts x.task) v) (.refl w) ?_
  intro x v y u sees moves
  have paid := costs_step f plain x v
  rw [moves.run_step] at paid
  exact (sees.trans paid).mono (spent_moves f moves)

private theorem costs_recover (plain : r.look = Session.driverLookup r.session) (p : Progress)
    (fault : Fault) : Costs kind f.original (r.recover p fault) := by
  have finishes (outcome : Outcome) :
      Keeps (World.Sees kind 0) (r.finish (p.enter .returnFirstFailure) outcome) :=
    r.keeps_finish frame_sees auditKeeps_sees _ outcome
  obtain ⟨level, message, same, -⟩ := recover_eq (r := r) p fault
  rw [same]
  refine .quietThen (frame_sees.keeps_log _ _) fun _ => ?_
  unfold fallBack
  split
  · exact .of_keeps (finishes _)
  · rw [plain]
    exact (Costs.driverLookup f.uncounted f.of_original).andQuiet fun _ => finishes _

/-- A run costs what it spends on its course, and one more lookup after a fault. -/
private theorem costs_start (plain : r.look = Session.driverLookup r.session) :
    Costs kind (f.most r.healing.settings.pollMaxAttempts + f.original) r.start := by
  intro w
  obtain ⟨x, v, came, ⟨e, u, stepped, ends⟩ | ⟨fault, u, raised, ends⟩⟩ := start_ends (r := r) w
  all_goals
    have paid := costs_step f plain x v
    have course := ((reaches_sees f plain came).trans paid).mono (f.spent_add_price_le _ _)
  · rw [stepped] at course
    rw [ends]
    exact course.mono (Nat.le_add_right _ _)
  · rw [raised] at course
    rw [ends]
    exact course.trans (costs_recover f plain x.progress fault u)

/-- Where driver and disk raise only their own faults, a task that raises a fault leaves enough to
look once more. -/
private theorem raises_cheaply (plain : r.look = Session.driverLookup r.session)
    (finds : Session.FindsPlainly ε r.session) (audits : r.healing.AuditsPlainly)
    {x : Point} {v u : World ε τ} {fault : Fault}
    (raised : (r.step x).run v = (.error fault, u)) :
    ∃ n, v.Sees kind n u ∧
      f.spent r.healing.settings.pollMaxAttempts x.task + n + f.original ≤
        f.most r.healing.settings.pollMaxAttempts := by
  have looks (strategy value : Json) (v : World ε τ) :
      ∃ outcome u, (r.look strategy value).run v = (.ok outcome, u) := by
    rw [plain]
    exact Session.driverLookup_answers finds strategy value v
  have paid := costs_step f plain x v
  rw [raised] at paid
  have le := f.original_le
  obtain ⟨task, p⟩ := x
  cases task with
  | look =>
    obtain ⟨outcome, t, looked⟩ := looks r.attempt.strategy r.attempt.value v
    rw [step_look_error raised] at looked
    cases looked
  | retry first healed =>
    obtain ⟨rfl, -⟩ | failed := tryHealed_error (of_step_error rfl raised)
    · refine ⟨0, .refl u, ?_⟩
      simp only [Tariff.spent, Tariff.most]
      omega
    · obtain ⟨outcome, t, looked⟩ := looks (.str healed.strategy) (.str healed.value) v
      rw [failed] at looked
      cases looked
  | close outcome =>
    obtain ⟨t, finished⟩ := finish_answers audits p outcome v
    rw [of_step_error rfl raised] at finished
    cases finished
  | _ =>
    refine ⟨_, paid, ?_⟩
    simp only [Tariff.spent, Tariff.price, Tariff.most]
    omega

/-- Where driver and disk raise only their own faults, a run comes to an end, and costs no more than
it spends on its course. -/
theorem start_ends_plainly (plain : r.look = Session.driverLookup r.session)
    (finds : Session.FindsPlainly ε r.session) (audits : r.healing.AuditsPlainly)
    (w : World ε τ) :
    ∃ e u, r.start.run w = (.ok e, u) ∧
      w.Sees kind (f.most r.healing.settings.pollMaxAttempts) u := by
  obtain ⟨x, v, came, ⟨e, u, stepped, ends⟩ | ⟨fault, u, raised, ends⟩⟩ := start_ends (r := r) w
  · have paid := costs_step f plain x v
    rw [stepped] at paid
    refine ⟨e, u, ends, ?_⟩
    exact ((reaches_sees f plain came).trans paid).mono (f.spent_add_price_le _ _)
  · obtain ⟨n, paid, enough⟩ := raises_cheaply f plain finds audits raised
    have looks (log : List (Level × String)) : ∃ outcome t,
        (r.look r.attempt.strategy r.attempt.value).run { u with log } = (.ok outcome, t) := by
      rw [plain]
      exact Session.driverLookup_answers finds _ _ _
    obtain ⟨e, t, recovered⟩ := recover_answers audits looks x.progress fault
    have more := costs_recover f plain x.progress fault u
    rw [recovered] at more
    refine ⟨e, t, ends.trans recovered, ?_⟩
    exact (((reaches_sees f plain came).trans paid).trans more).mono enough

end Healing.Run

/-- The kinds of things a lookup does that are limited. -/
inductive Deed where
  /-- To ask a driver for an element. -/
  | find
  /-- To ask a driver for an element by another locator than the lookup's own. -/
  | stray
  /-- To tell the service of a lookup, for it to log or to heal. -/
  | report
  | poll
  | script
  deriving DecidableEq

namespace Deed

/-- An event is such a deed, in the lookup of a locator. -/
def Counts (strategy value : Json) : Deed → Event τ → Prop
  | .find, .driver _ (.find _ _) => True
  | .stray, .driver _ (.find s v) => ¬(s = strategy ∧ v = value)
  | .report, .asked (.log _) => True
  | .report, .asked (.heal _) => True
  | .poll, .asked (.poll _ _ _ _) => True
  | .script, .driver _ (.script _ _) => True
  | _, _ => False

def once (deed : Deed) (deeds : List Deed) : Nat :=
  if deed ∈ deeds then 1 else 0

def tariff (τ : Type) (deed : Deed) (key : String) (strategy value : Json) :
    Tariff (deed.Counts strategy value : Event τ → Prop) key strategy value where
  original := deed.once [.find]
  other := deed.once [.find, .stray]
  report := deed.once [.report]
  poll := deed.once [.poll]
  script := deed.once [.script]
  uncounted := by
    constructor
    all_goals
      intro _ counted
      cases deed with
      | _ => exact counted
  original_le := by cases deed with | _ => decide
  of_original counted := by
    cases deed with
    | find => decide
    | stray => exact absurd ⟨rfl, rfl⟩ counted
    | _ => exact counted.elim
  of_find _ _ counted := by
    cases deed with
    | find | stray => decide
    | _ => exact counted.elim
  of_log _ counted := by
    cases deed with
    | report => decide
    | _ => exact counted.elim
  of_heal _ counted := by
    cases deed with
    | report => decide
    | _ => exact counted.elim
  of_poll _ _ _ _ counted := by
    cases deed with
    | poll => decide
    | _ => exact counted.elim
  of_script _ counted := by
    cases deed with
    | script => decide
    | _ => exact counted.elim

def limit (polls : Nat) : Deed → Nat
  | .find => 4
  | .poll => polls
  | .stray | .report | .script => 1

private theorem most_add_le (deed : Deed) (key : String) (strategy value : Json) (polls : Nat) :
    (deed.tariff τ key strategy value).most polls +
      2 * (deed.tariff τ key strategy value).original ≤ deed.limit polls := by
  cases deed with
  | _ => simp [tariff, Tariff.most, limit, once]

end Deed

namespace Session

open Healing

variable [Outside ε τ] [TimeScale τ] {key : String} {h : Healing ε τ} {options : HealingOptions}
  {w : World ε τ}

private theorem settled_sees {kind : Event τ → Prop} {strategy value : Json}
    (f : Tariff kind key strategy value) (w : World ε τ) :
    ∃ outcome v, (Outcome.settled (driverLookup key strategy value)).run w = (.ok outcome, v) ∧
      w.Sees kind f.original v := by
  have paid : w.Sees kind f.original ((driverLookup key strategy value).run w).2 :=
    Action.Costs.driverLookup f.uncounted f.of_original w
  rcases looked : (driverLookup key strategy value).run w with ⟨fault | outcome, v⟩
  · rw [looked] at paid
    exact ⟨_, v, Outcome.run_settled_error looked, paid⟩
  · rw [looked] at paid
    exact ⟨_, v, Outcome.run_settled_ok looked, paid⟩

private theorem run_sees {kind : Event τ → Prop} {strategy value sessionId : Json} {r : Run ε τ}
    (ready : h.runOf (driverLookup key) key ⟨strategy, value, sessionId⟩ options = .ok r)
    (f : Tariff kind key strategy value) (w : World ε τ) :
    w.Sees kind (f.most h.settings.pollMaxAttempts + f.original) (r.start.run w).2 ∧
      (FindsPlainly ε key → h.AuditsPlainly → ∃ e u, r.start.run w = (.ok e, u) ∧
        w.Sees kind (f.most h.settings.pollMaxAttempts) u) := by
  obtain ⟨report, -, rfl⟩ := runOf_ok ready
  let r : Run ε τ := ⟨h, options, key, ⟨strategy, value, sessionId⟩, report, driverLookup key⟩
  exact ⟨Run.costs_start (r := r) f rfl w, fun finds audits =>
    Run.start_ends_plainly (r := r) f rfl finds audits w⟩

/-- An intercepted lookup has an outcome. It costs what a run spends and two lookups more; these are
spared where driver and disk raise only their own faults. -/
private theorem lookup_sees {kind : Event τ → Prop} {strategy value : Json}
    (installed : (w.sessions key).middlewares =
      [(interceptorName, .intercepting (.healing h) options)])
    (f : Tariff kind key strategy value) :
    ∃ outcome v, (lookup key strategy value).run w = (.ok outcome, v) ∧
      w.Sees kind (f.most h.settings.pollMaxAttempts + 2 * f.original) v ∧
      (FindsPlainly ε key → h.AuditsPlainly →
        w.Sees kind (f.most h.settings.pollMaxAttempts) v) := by
  rw [run_lookup_intercepted installed]
  cases ready : h.runOf (driverLookup key) key
      ⟨strategy, value, (w.sessions key).sessionId⟩ options with
  | error fault =>
    obtain ⟨log, falls⟩ := Protocol.run_intercept_error (p := .healing h) (run_refused ready)
    obtain ⟨outcome, v, settled, paid⟩ := settled_sees f { w with log }
    have once : f.original ≤ f.most h.settings.pollMaxAttempts := by
      unfold Tariff.most
      omega
    exact ⟨outcome, v, falls.trans settled, paid.mono (Nat.le_add_right_of_le once),
      fun _ _ => paid.mono once⟩
  | ok r =>
    obtain ⟨paid, plainly⟩ := run_sees ready f w
    rcases ran : r.start.run w with ⟨fault | e, v⟩
    all_goals rw [ran] at paid plainly
    · obtain ⟨log, falls⟩ := Protocol.run_intercept_error (p := .healing h) (run_raised ready ran)
      obtain ⟨outcome, u, settled, more⟩ := settled_sees f { v with log }
      refine ⟨outcome, u, falls.trans settled, ?_, fun finds audits => ?_⟩
      · exact (paid.trans more).mono (by omega)
      · obtain ⟨e, t, ends, -⟩ := plainly finds audits
        cases ends
    · refine ⟨e.outcome, v, Protocol.run_intercept_ok (run_ended ready ran), ?_, ?_⟩
      · exact paid.mono (by omega)
      · intro finds audits
        obtain ⟨e', t, ends, few⟩ := plainly finds audits
        cases ends
        exact few

/-- Every lookup in a session with the intercepting middleware comes to an outcome. The driver is
asked for an element four times at most, and twice where driver and disk raise only their own
faults; once at most by another locator. The service is told of the lookup once at most and polled
as often as the settings allow, and one script is run at most. -/
theorem lookup_bounded
    (installed : (w.sessions key).middlewares =
      [(interceptorName, .intercepting (.healing h) options)]) (strategy value : Json) :
    ∃ outcome v t, (lookup key strategy value).run w = (.ok outcome, v) ∧
      v.trace = w.trace ++ t ∧
      tally (Deed.find.Counts strategy value) t ≤ 4 ∧
      (FindsPlainly ε key → h.AuditsPlainly →
        tally (Deed.find.Counts strategy value) t ≤ 2) ∧
      tally (Deed.stray.Counts strategy value) t ≤ 1 ∧
      tally (Deed.report.Counts strategy value) t ≤ 1 ∧
      tally (Deed.poll.Counts strategy value) t ≤ h.settings.pollMaxAttempts ∧
      tally (Deed.script.Counts strategy value) t ≤ 1 := by
  obtain ⟨outcome, v, ends, ⟨t, grown, -⟩, -⟩ :=
    lookup_sees installed (Deed.find.tariff τ key strategy value)
  have spent (deed : Deed) :
      w.Sees (deed.Counts strategy value)
        ((deed.tariff τ key strategy value).most h.settings.pollMaxAttempts +
          2 * (deed.tariff τ key strategy value).original) v ∧
      (FindsPlainly ε key → h.AuditsPlainly →
        w.Sees (deed.Counts strategy value)
          ((deed.tariff τ key strategy value).most h.settings.pollMaxAttempts) v) := by
    obtain ⟨_, _, same, sees⟩ := lookup_sees installed (deed.tariff τ key strategy value)
    rw [ends] at same
    cases same
    exact sees
  have bound (deed : Deed) : tally (deed.Counts strategy value) t ≤
      deed.limit h.settings.pollMaxAttempts :=
    ((spent deed).1.mono (deed.most_add_le key strategy value _)).tally_le grown
  refine ⟨outcome, v, t, ends, grown, bound .find, fun finds audits => ?_, bound .stray,
    bound .report, bound .poll, bound .script⟩
  exact ((spent .find).2 finds audits).tally_le grown

/-- With driver and disk that raise only their own faults, and a service that heals to `#new`, a
lookup of `#old` takes two lookups at most, and three polls. -/
theorem lookup_bounded_mending :
    let h := (Manner.mending "new").healing { isHealingEnabled := some true }
      (some Manner.auditFile)
    let w := (Manner.mending "new").world { isHealingEnabled := some true } { selfHeal := true }
      (some Manner.auditFile) "new"
    (FindsPlainly Still "s" ∧ h.AuditsPlainly) ∧
      ∃ outcome v t,
        (lookup "s" (.str "id") (.str "old")).run w = (.ok outcome, v) ∧
        v.trace = w.trace ++ t ∧
        tally (Deed.find.Counts (.str "id") (.str "old")) t ≤ 2 ∧
        tally (Deed.stray.Counts (.str "id") (.str "old")) t ≤ 1 ∧
        tally (Deed.report.Counts (.str "id") (.str "old")) t ≤ 1 ∧
        tally (Deed.poll.Counts (.str "id") (.str "old")) t ≤ 3 ∧
        tally (Deed.script.Counts (.str "id") (.str "old")) t ≤ 1 := by
  intro h w
  have finds : FindsPlainly Still "s" := Still.findsPlainly "s"
  have audits : h.AuditsPlainly := Manner.auditsPlainly_auditFile _ _
  have installed : (w.sessions "s").middlewares =
      [(interceptorName, .intercepting (.healing h) { selfHeal := true })] := rfl
  obtain ⟨outcome, v, t, ends, grown, -, few, strays, reports, polls, scripts⟩ :=
    lookup_bounded installed (.str "id") (.str "old")
  exact ⟨⟨finds, audits⟩, outcome, v, t, ends, grown, few finds audits, strays, reports, polls,
    scripts⟩

end Session

end LocatorHealing
