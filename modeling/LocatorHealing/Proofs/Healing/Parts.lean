import LocatorHealing.Proofs.Audit
import LocatorHealing.Proofs.Healing.Course

set_option autoImplicit false
set_option relaxedAutoImplicit false

/-!
What the parts of a run come to: nothing more is run or looked up in a session that has gone, and
what a run hands over is the outcome that it was closed with, or what is made of a fault.
-/

namespace LocatorHealing.Healing

namespace Run

variable {ε τ : Type} [Outside ε τ] {r : Run ε τ} {p : Progress} {outcome : Outcome}
  {fault : Fault} {v u : World ε τ} {e : Ending}

section Active

omit [Outside ε τ]

theorem run_ensureActive_active (active : (v.sessions r.session).isActive = true) :
    r.ensureActive.run v = (.ok (), v) := by
  simp [ensureActive, Action.session, active]

theorem run_ensureActive_inactive (gone : (v.sessions r.session).isActive = false) :
    r.ensureActive.run v =
      (.error (.closedWhileHealing (v.sessions r.session).sessionId), v) := by
  simp [ensureActive, Action.session, gone]

theorem ensureActive_ok {a : Unit} (h : r.ensureActive.run v = (.ok a, u)) :
    u = v ∧ (v.sessions r.session).isActive = true := by
  cases active : (v.sessions r.session).isActive with
  | true =>
    rw [run_ensureActive_active active] at h
    cases h
    exact ⟨rfl, rfl⟩
  | false =>
    rw [run_ensureActive_inactive active] at h
    cases h

theorem tryHealed_ok {healed : HealedLocator} {second : Outcome}
    (tried : (r.tryHealed healed).run v = (.ok second, u)) :
    (v.sessions r.session).isActive = true ∧
      ∃ t, (r.look (.str healed.strategy) (.str healed.value)).run v = (.ok second, t) := by
  obtain ⟨_, t, lookedAgain, logged⟩ := Action.of_run_bind_ok tried
  obtain ⟨_, _, _, given⟩ := Action.of_run_bind_ok logged
  cases given
  obtain ⟨_, _, active, looked⟩ := Action.of_run_bind_ok lookedAgain
  obtain ⟨rfl, there⟩ := ensureActive_ok active
  exact ⟨there, t, looked⟩

private theorem ensureActive_error (raised : r.ensureActive.run v = (.error fault, u)) :
    u = v ∧ (v.sessions r.session).isActive = false ∧
      fault = .closedWhileHealing (v.sessions r.session).sessionId := by
  cases active : (v.sessions r.session).isActive with
  | true =>
    rw [run_ensureActive_active active] at raised
    cases raised
  | false =>
    rw [run_ensureActive_inactive active] at raised
    cases raised
    exact ⟨rfl, rfl, rfl⟩

theorem tryHealed_error {healed : HealedLocator}
    (raised : (r.tryHealed healed).run v = (.error fault, u)) :
    (u = v ∧ (v.sessions r.session).isActive = false ∧
        fault = .closedWhileHealing (v.sessions r.session).sessionId) ∨
      (r.look (.str healed.strategy) (.str healed.value)).run v = (.error fault, u) := by
  obtain lookedAgain | ⟨second, t, -, rest⟩ := Action.of_run_bind_error raised
  · obtain gone | ⟨_, _, active, looked⟩ := Action.of_run_bind_error lookedAgain
    · exact .inl (ensureActive_error gone)
    · obtain ⟨rfl, -⟩ := ensureActive_ok active
      exact .inr looked
  · obtain ⟨log, logged⟩ := Action.run_log .info (retryMessage healed second) t
    rw [Action.run_bind_ok logged] at rest
    cases rest

end Active

private theorem finish_ok (ends : (r.finish p outcome).run v = (.ok e, u)) : e = ⟨p, outcome⟩ := by
  obtain ⟨_, _, _, audited⟩ := Action.of_run_bind_ok ends
  obtain ⟨_, _, _, given⟩ := Action.of_run_bind_ok audited
  exact (Except.ok.inj (congrArg Prod.fst given)).symm

private theorem audit_answers (plainly : r.healing.AuditsPlainly) (p : Progress)
    (outcome : Outcome) (v : World ε τ) : ∃ u, (r.audit p outcome).run v = (.ok (), u) := by
  unfold audit
  cases there : r.healing.auditFile with
  | none => exact ⟨v, rfl⟩
  | some file =>
    dsimp only
    split
    · rcases written : (Audit.write file (r.record p v.timestamp outcome)).run v with
        ⟨fault | _, u⟩
      · have system := plainly file there _ _ _ _ written
        obtain ⟨log, told⟩ := Action.run_log .debug
          ("Could not write healing audit entry: " ++ fault.message) u
        exact ⟨{ u with log }, by simp [written, system, told]⟩
      · exact ⟨u, by simp [written]⟩
    · exact ⟨v, rfl⟩

theorem finish_answers (plainly : r.healing.AuditsPlainly) (p : Progress) (outcome : Outcome)
    (v : World ε τ) : ∃ u, (r.finish p outcome).run v = (.ok ⟨p, outcome⟩, u) := by
  obtain ⟨log, logged⟩ := Action.run_log .debug
    ("Lookup " ++ r.report.strategy ++ "=" ++ r.report.value ++ " on session " ++
      r.report.sessionId.display ++ " finished: " ++ " -> ".intercalate (p.trail.map State.name)) v
  obtain ⟨u, audited⟩ := audit_answers plainly p outcome { v with log }
  exact ⟨u, (Action.run_bind_ok logged).trans (Action.run_bind_ok audited)⟩

variable [TimeScale τ] in
theorem step_ends {x : Point} (ends : (r.step x).run v = (.ok (.inr e), u)) :
    ∃ outcome, x.task = .close outcome ∧ e = ⟨x.progress, outcome⟩ := by
  obtain ⟨task, p⟩ := x
  cases task with
  | close outcome =>
    obtain ⟨_, _, finished, given⟩ := Action.of_run_bind_ok ends
    cases given
    exact ⟨outcome, rfl, finish_ok finished⟩
  | _ =>
    obtain ⟨_, _, _, given⟩ := Action.of_run_bind_ok ends
    cases given

variable [TimeScale τ] in
theorem of_step_error {α : Type} {x : Point} {act : Action ε τ α} {f : α → Point ⊕ Ending}
    (does : r.step x = act >>= fun a => pure (f a))
    (raised : (r.step x).run v = (.error fault, u)) : act.run v = (.error fault, u) := by
  rw [does] at raised
  obtain failed | ⟨_, _, _, given⟩ := Action.of_run_bind_error raised
  · exact failed
  · cases given

variable [TimeScale τ] in
theorem step_look_error (raised : (r.step ⟨.look, p⟩).run v = (.error fault, u)) :
    (r.look r.attempt.strategy r.attempt.value).run v = (.error fault, u) :=
  of_step_error rfl raised

/-- A run that recovers from a fault keeps the first outcome if the session is gone, and looks once
more otherwise. -/
theorem recover_ok (ends : (r.recover p fault).run v = (.ok e, u)) :
    e.progress = p.enter .returnFirstFailure ∧
      (fault.isSessionGone = true ∧ e.outcome = p.first.getD (.failed fault) ∨
        fault.isSessionGone = false ∧ ∃ log u,
          (r.look r.attempt.strategy r.attempt.value).run { v with log } = (.ok e.outcome, u)) := by
  obtain ⟨level, message, same, -⟩ := recover_eq (r := r) p fault
  obtain ⟨log, logged⟩ := Action.run_log level message v
  rw [same, Action.run_bind_ok logged] at ends
  unfold fallBack at ends
  split at ends
  case isTrue gone =>
    cases finish_ok ends
    exact ⟨rfl, .inl ⟨gone, rfl⟩⟩
  case isFalse stays =>
    obtain ⟨outcome, t, looked, finished⟩ := Action.of_run_bind_ok ends
    cases finish_ok finished
    exact ⟨rfl, .inr ⟨by simpa using stays, log, t, looked⟩⟩

/-- Where looking once more comes to an outcome, and only the system refuses to audit, a run
recovers from any fault. -/
theorem recover_answers (plainly : r.healing.AuditsPlainly)
    (looks : ∀ log, ∃ outcome u,
      (r.look r.attempt.strategy r.attempt.value).run { v with log } = (.ok outcome, u))
    (p : Progress) (fault : Fault) : ∃ e u, (r.recover p fault).run v = (.ok e, u) := by
  have finishes := finish_answers plainly (p.enter .returnFirstFailure)
  obtain ⟨level, message, same, -⟩ := recover_eq (r := r) p fault
  obtain ⟨log, logged⟩ := Action.run_log level message v
  rw [same, Action.run_bind_ok logged]
  unfold fallBack
  split
  · obtain ⟨u, finished⟩ := finishes (p.first.getD (.failed fault)) { v with log }
    exact ⟨_, u, finished⟩
  · obtain ⟨outcome, t, looked⟩ := looks log
    obtain ⟨u, finished⟩ := finishes outcome t
    exact ⟨_, u, (Action.run_bind_ok looked).trans finished⟩

end Run

section Hand

variable {ε τ : Type} {h : Healing ε τ} {look : Json → Json → Action ε τ Outcome}
  {session : String} {attempt : LocatorAttempt} {options : HealingOptions} {r : Run ε τ}

theorem runOf_ok (ready : h.runOf look session attempt options = .ok r) :
    ∃ report, h.report attempt = .ok report ∧
      r = { healing := h, options, session, attempt, report, look } := by
  unfold runOf at ready
  cases reported : h.report attempt with
  | error fault =>
    rw [reported] at ready
    cases ready
  | ok report =>
    rw [reported] at ready
    cases ready
    exact ⟨report, rfl, rfl⟩

variable [Outside ε τ] [TimeScale τ] {w v : World ε τ}

theorem run_refused {fault : Fault}
    (refused : h.runOf look session attempt options = .error fault) :
    (h.run look session attempt options).run w = (.error fault, w) := by
  unfold Healing.run
  rw [refused]
  rfl

theorem run_ended {e : Ending} (ready : h.runOf look session attempt options = .ok r)
    (ends : r.start.run w = (.ok e, v)) :
    (h.run look session attempt options).run w = (.ok e.outcome, v) := by
  unfold Healing.run
  rw [ready, Action.run_bind_ok rfl]
  exact Action.run_bind_ok ends

theorem run_raised {fault : Fault} (ready : h.runOf look session attempt options = .ok r)
    (raises : r.start.run w = (.error fault, v)) :
    (h.run look session attempt options).run w = (.error fault, v) := by
  unfold Healing.run
  rw [ready, Action.run_bind_ok rfl]
  exact Action.run_bind_error raises

end Hand

end LocatorHealing.Healing
