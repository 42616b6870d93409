import LocatorHealing.Proofs.Action.Frame
import LocatorHealing.Proofs.Healing.Course

set_option autoImplicit false
set_option relaxedAutoImplicit false

/-!
What a run leaves as it was. A run touches the world by asking the service, by commands to its
session, by sleeping and by writing audit entries; a frame that all these keep is kept by the run.
-/

namespace LocatorHealing.Healing.Run

open LocatorHealing.Action (Keeps)

variable {ε τ : Type} [Outside ε τ] {R : World ε τ → World ε τ → Prop} {warns : Prop}
  (hR : Frame R warns) (r : Run ε τ)

/-- What a run may ask the service. -/
inductive Asks (r : Run ε τ) : Inquiry τ → Prop where
  | log : Asks r (.log r.report)
  | heal : Asks r (.heal r.failureReport)
  | poll (limit : τ) :
    Asks r (.poll r.healing.settings.serviceUrl r.report.sessionId r.healing.auth.sessionToken
      (some limit))

def AuditKeeps (R : World ε τ → World ε τ → Prop) : Prop :=
  ∀ file record, Keeps R (Audit.write file record : Action ε τ Unit)

include hR

theorem auditKeeps_of
    (disk : ∀ path line (w : World ε τ),
      R w { w with outside := (Outside.append path line w.outside).2 })
    (files : ∀ (w : World ε τ) files, R w { w with files }) : AuditKeeps R := by
  intro file record
  unfold Audit.write
  refine hR.keeps_bind (disk file.text record.line) fun refused => ?_
  split
  · exact hR.keeps_raise _
  · refine hR.keeps_bind (hR.keeps_read _) fun _ => ?_
    exact hR.keeps_bind (hR.keeps_ofExcept _) fun changed w => files w changed

omit [Outside ε τ] in
theorem keeps_ensureActive : Keeps R r.ensureActive := by
  refine hR.keeps_bind (hR.keeps_session _) fun s => ?_
  split
  · exact hR.keeps_pure ()
  · exact hR.keeps_raise _

private theorem keeps_audit (audits : AuditKeeps R) (p : Progress) (outcome : Outcome) :
    Keeps R (r.audit p outcome) := by
  unfold audit
  cases r.healing.auditFile with
  | none => exact hR.keeps_pure ()
  | some file =>
    dsimp only
    split
    · refine hR.keeps_bind (hR.keeps_read _) fun timestamp => ?_
      refine hR.keeps_bind (Frame.keeps_attempt (audits file _)) fun written => ?_
      split
      · exact hR.keeps_pure ()
      split
      · exact hR.keeps_log _ _
      · exact hR.keeps_raise _
    · exact hR.keeps_pure ()

theorem keeps_finish (audits : AuditKeeps R) (p : Progress) (outcome : Outcome) :
    Keeps R (r.finish p outcome) :=
  hR.keeps_bind (hR.keeps_log _ _) fun _ =>
    hR.keeps_bind (r.keeps_audit hR audits p outcome) fun _ => hR.keeps_pure _

theorem keeps_recover (audits : AuditKeeps R)
    (looks : Keeps R (r.look r.attempt.strategy r.attempt.value)) (p : Progress) (fault : Fault)
    (wanted : r.options.selfHeal = true → warns := by exact fun _ => trivial) :
    Keeps R (r.recover p fault) := by
  obtain ⟨level, message, same, told⟩ := recover_eq (r := r) p fault
  have may : level.isQuiet = true ∨ warns := told.imp (fun debug => by rw [debug]; rfl) wanted
  rw [same]
  refine hR.keeps_bind (hR.keeps_log _ _ may) fun _ => ?_
  unfold fallBack
  split
  · exact r.keeps_finish hR audits _ _
  · exact hR.keeps_bind looks fun _ => r.keeps_finish hR audits _ _

variable [TimeScale τ]

theorem keeps_logUsage (asks : Keeps R (Action.ask r.healing.service (.log r.report)))
    (scripts : ∀ script, Keeps R (Session.execute r.session script [] : Action ε τ Json)) :
    Keeps R r.logUsage := by
  unfold logUsage
  refine hR.keeps_bind asks fun answer => ?_
  split
  · exact hR.keeps_bind (scripts _) fun _ => hR.keeps_pure ()
  · exact hR.keeps_pure ()

omit [Outside ε τ] in
theorem keeps_request (asks : Keeps R (Action.ask r.healing.service (.heal r.failureReport))) :
    Keeps R r.request :=
  hR.keeps_bind (hR.keeps_log _ _) fun _ => hR.keeps_bind asks fun _ => hR.keeps_pure _

theorem keeps_runScript {script : String}
    (scripts : Keeps R (Session.execute r.session script [] : Action ε τ Json)) :
    Keeps R (r.runScript script) :=
  hR.keeps_bind (r.keeps_ensureActive hR) fun _ =>
    hR.keeps_bind scripts fun _ => hR.keeps_pure ()

omit [Outside ε τ] in
theorem keeps_pollOnce
    (polls : ∀ limit, Keeps R (Action.ask r.healing.service (.poll r.healing.settings.serviceUrl
      r.report.sessionId r.healing.auth.sessionToken (some limit))))
    (deadline : τ) : Keeps R (r.pollOnce deadline) := by
  unfold pollOnce
  refine hR.keeps_bind (r.keeps_ensureActive hR) fun _ => ?_
  refine hR.keeps_bind (hR.keeps_timeUntil deadline) fun remaining => ?_
  split
  · exact hR.keeps_pure none
  · exact polls _

omit [Outside ε τ] in
theorem keeps_poll (polls : ∀ deadline, Keeps R (r.pollOnce deadline))
    (sleeps : ∀ duration, Keeps R (Action.note (.slept duration) : Action ε τ Unit)) :
    Keeps R r.poll := by
  unfold poll Wait.wait
  refine hR.keeps_bind (hR.keeps_read _) fun now => hR.keeps_bind (hR.keeps_sum _ _) fun _ => ?_
  refine hR.keeps_bind ?_ fun _ => hR.keeps_pure _
  refine hR.keeps_bind (hR.keeps_read _) fun now => hR.keeps_bind (hR.keeps_sum _ _) fun _ => ?_
  exact hR.keeps_loop _ _ _ _ _ (polls _) sleeps

omit [Outside ε τ] [TimeScale τ] in
theorem keeps_tryHealed (looks : ∀ strategy value, Keeps R (r.look strategy value))
    (healed : HealedLocator) : Keeps R (r.tryHealed healed) :=
  hR.keeps_bind
    (hR.keeps_bind (r.keeps_ensureActive hR) fun _ => looks _ _) fun _ =>
      hR.keeps_bind (hR.keeps_log _ _) fun _ => hR.keeps_pure _

omit hR

/-- All that a run asks and commands keeps a frame, whatever becomes of its audit entries. -/
structure Acts (R : World ε τ → World ε τ → Prop) (warns : Prop := True) : Prop where
  frame : Frame R warns
  looks : ∀ strategy value, Keeps R (r.look strategy value)
  logs : Keeps R (Action.ask r.healing.service (.log r.report))
  pleads : Keeps R (Action.ask r.healing.service (.heal r.failureReport))
  polls : ∀ deadline, Keeps R (r.pollOnce deadline)
  scripts : ∀ script, Keeps R (Session.execute r.session script [] : Action ε τ Json)
  sleeps : ∀ duration, Keeps R (Action.note (.slept duration) : Action ε τ Unit)

namespace Acts

variable {r}

theorem of_asks (frame : Frame R warns) (looks : ∀ strategy value, Keeps R (r.look strategy value))
    (asks : ∀ inquiry, r.Asks inquiry → Keeps R (Action.ask r.healing.service inquiry))
    (scripts : ∀ script, Keeps R (Session.execute r.session script [] : Action ε τ Json))
    (sleeps : ∀ duration, Keeps R (Action.note (.slept duration) : Action ε τ Unit)) :
    r.Acts R warns where
  frame
  looks
  logs := asks _ .log
  pleads := asks _ .heal
  polls := r.keeps_pollOnce frame fun limit => asks _ (.poll limit)
  scripts
  sleeps

variable (acts : r.Acts R warns)
include acts

theorem step {x : Point} (goes : ∀ outcome, x.task ≠ .close outcome) : Keeps R (r.step x) := by
  have hR := acts.frame
  obtain ⟨task, p⟩ := x
  cases task with
  | look => exact hR.keeps_bind (acts.looks _ _) fun _ => hR.keeps_pure _
  | log first =>
    exact hR.keeps_bind (r.keeps_logUsage hR acts.logs acts.scripts) fun _ =>
      hR.keeps_pure _
  | ask first =>
    exact hR.keeps_bind (r.keeps_request hR acts.pleads) fun _ => hR.keeps_pure _
  | script first script =>
    exact hR.keeps_bind (r.keeps_runScript hR (acts.scripts script)) fun _ => hR.keeps_pure _
  | poll first =>
    exact hR.keeps_bind (r.keeps_poll hR acts.polls acts.sleeps) fun _ => hR.keeps_pure _
  | retry first healed =>
    exact hR.keeps_bind (r.keeps_tryHealed hR acts.looks healed) fun _ => hR.keeps_pure _
  | close outcome => exact absurd rfl (goes outcome)

theorem moves {x y : Point} {v u : World ε τ} (moves : r.Moves (x, v) (y, u)) : R v u := by
  have kept := acts.step (x := x) (fun outcome closes => by
    have does := moves_iff.1 moves
    rw [closes] at does
    exact does) v
  rwa [moves.run_step] at kept

theorem reaches {w v : World ε τ} {x : Point} (reaches : r.Reaches w x v) : R w v :=
  reaches.invariant (acts.frame.refl w) fun kept moves =>
    acts.frame.trans kept (acts.moves moves)

end Acts

/-- All that a run asks and commands keeps a frame, and so do its audit entries. If it warns, its
options ask for healing. -/
structure Within (R : World ε τ → World ε τ → Prop) (warns : Prop := True) : Prop
    extends r.Acts R warns where
  audits : AuditKeeps R
  wanted : r.options.selfHeal = true → warns := by exact fun _ => trivial

namespace Within

variable {r} (within : r.Within R warns)
include within

theorem recover (p : Progress) (fault : Fault) : Keeps R (r.recover p fault) :=
  r.keeps_recover within.frame within.audits (within.looks _ _) p fault within.wanted

theorem step (x : Point) : Keeps R (r.step x) := by
  by_cases closes : ∃ outcome, x.task = .close outcome
  · obtain ⟨outcome, closes⟩ := closes
    have hR := within.frame
    unfold Run.step
    rw [closes]
    exact hR.keeps_bind (r.keeps_finish hR within.audits x.progress outcome) fun _ =>
      hR.keeps_pure _
  · exact within.toActs.step (not_exists.1 closes)

theorem moves {x y : Point} {v u : World ε τ} (moves : r.Moves (x, v) (y, u)) : R v u :=
  within.toActs.moves moves

theorem reaches {w v : World ε τ} {x : Point} (reaches : r.Reaches w x v) : R w v :=
  within.toActs.reaches reaches

theorem runs {x : Point} {v : World ε τ} {z : Except Fault Ending × World ε τ}
    (runs : r.Runs x v z) : R v z.2 := by
  induction runs with
  | @ends x v e u ends =>
    have kept := within.step x v
    rwa [ends] at kept
  | @caught x v fault u raised =>
    have kept := within.step x v
    rw [raised] at kept
    exact within.frame.trans kept (within.recover x.progress fault u)
  | goes moves _ ih => exact within.frame.trans (within.moves moves) ih

theorem runs_step {x : Point} {v : World ε τ} {z : Except Fault Ending × World ε τ}
    (runs : r.Runs x v z) : R ((r.step x).run v).2 z.2 := by
  cases runs with
  | ends stepped =>
    rw [stepped]
    exact within.frame.refl _
  | @caught _ _ fault u raised =>
    rw [raised]
    exact within.recover x.progress fault u
  | @goes _ _ y u _ moves rest =>
    rw [moves.run_step]
    exact within.runs rest

theorem start : Keeps R r.start :=
  fun w => within.runs (start_runs w)

end Within

end LocatorHealing.Healing.Run
