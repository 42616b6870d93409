import LocatorHealing.Proofs.Session.History
import LocatorHealing.Proofs.Unaudited.Worker
import Mathlib.Data.List.Forall2

set_option autoImplicit false
set_option relaxedAutoImplicit false

/-!
Whole runs with and without auditing. A process starts workers, sets up sessions with them, and
looks up elements, in any order. Where the audit directory can be made, all this comes to the same
as without one: the same answers, requests and commands, whatever becomes of the audit entries.
Where it cannot be made, no worker starts.
-/

namespace LocatorHealing.Worker

open LocatorHealing.Action (Pairs Gives pairs_pure pairs_ending pairs_bind pairs_then
  gives_pure gives_bind gives_attempt)
open World (Audited)

variable {ε τ : Type}

/-- What a process does, one thing at a time. -/
inductive Step (τ : Type) where
  | start
  /-- Set up healing with the worker that was started at this place. -/
  | selfHeal (worker : Nat) (options : HealingOptions) (capabilities : Json) (target : Target)
  | lookup (session : String) (strategy value : Json)
  /-- Add a middleware of the user's own to a session. -/
  | add (session name : String) (behaviour : Behaviour)
  | quit (session : String)
  | meanwhile (happening : Happening τ Empty)

/-- What a step comes to for whoever takes it: the outcome of a lookup, or no more than that it is
done, or a fault. -/
abbrev Answer : Type :=
  Except Fault (Option Outcome)

variable [Outside ε τ] [TimeScale τ]

def healWith (k? : Option (Worker ε τ)) (options : HealingOptions) (capabilities : Json)
    (target : Target) : Action ε τ Unit :=
  match k? with
  | some k => k.selfHeal options capabilities target
  | none => pure ()

/-- Take a step, with the workers there are; the workers there are then, and what it comes to. -/
def Step.take (service : Service ε τ) (settings : Settings τ) (workers : List (Worker ε τ)) :
    Step τ → Action ε τ (List (Worker ε τ) × Option Outcome)
  | .start => do return (workers ++ [← ofEnvironment service settings], none)
  | .selfHeal i options capabilities target => do
    healWith workers[i]? options capabilities target
    return (workers, none)
  | .lookup session strategy value => do
    return (workers, some (← Session.lookup session strategy value))
  | .add session name behaviour => do
    let _ ← Session.addMiddleware session name (.custom behaviour)
    return (workers, none)
  | .quit session => do
    Session.quit session
    return (workers, none)
  | .meanwhile happening => do
    Action.happen happening.lift
    return (workers, none)

def process (service : Service ε τ) (settings : Settings τ) :
    List (Worker ε τ) → List (Step τ) → Action ε τ (List Answer)
  | _, [] => return []
  | workers, step :: rest => do
    match ← Action.attempt (step.take service settings workers) with
    | .ok (workers, answer) => return .ok answer :: (← process service settings workers rest)
    | .error fault => return .error fault :: (← process service settings workers rest)

section Pairs

variable {same : ε → ε → Prop} {service : Service ε τ} {settings : Settings τ}
  (overlooks : Overlooks same service settings)
include overlooks

private theorem Step.pairs_take {workers : List (Worker ε τ)}
    (belong : ∀ k ∈ workers, k.Belongs service settings) (step : Step τ) :
    Pairs (Audited same service settings)
      (fun r r' => (∀ k ∈ r.1, k.Belongs service settings) ∧ r' = (r.1.map unaudited, r.2))
      (step.take service settings workers)
      (step.take service settings.unaudited (workers.map unaudited)) := by
  cases step with
  | start =>
    refine pairs_bind (pairs_ofEnvironment service settings) fun k _ ⟨belongs, without⟩ => ?_
    subst without
    refine pairs_pure ⟨fun other there => ?_, by rw [List.map_append]; rfl⟩
    rcases List.mem_append.1 there with before | last
    · exact belong other before
    · rwa [List.mem_singleton.1 last]
  | selfHeal i options capabilities target =>
    refine pairs_then (x := healWith workers[i]? options capabilities target)
      (y := healWith (workers.map unaudited)[i]? options capabilities target) ?_
      fun _ => pairs_pure ⟨belong, rfl⟩
    rw [List.getElem?_map]
    cases taken : workers[i]? with
    | none => exact pairs_pure rfl
    | some k =>
      exact pairs_selfHeal overlooks (belong k (List.mem_of_getElem? taken)) options capabilities
        target
  | lookup session strategy value =>
    exact pairs_then (Session.pairs_lookup overlooks session strategy value) fun _ =>
      pairs_pure ⟨belong, rfl⟩
  | add session name behaviour =>
    exact pairs_then (Session.pairs_addMiddleware (m := .custom behaviour) trivial name) fun _ =>
      pairs_pure ⟨belong, rfl⟩
  | quit session =>
    exact pairs_then (Session.pairs_quit overlooks session) fun _ => pairs_pure ⟨belong, rfl⟩
  | meanwhile happening =>
    exact pairs_then (twins_audited.pairs_happen happening.lift) fun _ => pairs_pure ⟨belong, rfl⟩

private theorem pairs_process {workers : List (Worker ε τ)}
    (belong : ∀ k ∈ workers, k.Belongs service settings) (steps : List (Step τ)) :
    Pairs (Audited same service settings) Eq (process service settings workers steps)
      (process service settings.unaudited (workers.map unaudited) steps) := by
  -- a start adds a worker, so the workers vary in the induction
  induction steps generalizing workers with
  | nil => exact pairs_pure rfl
  | cons step rest ih =>
    refine pairs_bind (pairs_ending (step.pairs_take overlooks belong)) fun end_ _ alike => ?_
    cases alike with
    | @ok r _ related =>
      obtain ⟨belong', without⟩ := related
      subst without
      exact pairs_then (ih belong') fun _ => pairs_pure rfl
    | error fault => exact pairs_then (ih belong) fun _ => pairs_pure rfl

end Pairs

private theorem run_process_start {service : Service ε τ} {settings : Settings τ}
    (workers : List (Worker ε τ)) {k : Worker ε τ} {w v : World ε τ}
    (started : (ofEnvironment service settings).run w = (.ok k, v)) (rest : List (Step τ)) :
    (process service settings workers (.start :: rest)).run w =
      (process service settings (workers ++ [k]) rest >>= fun answers =>
        (pure (Except.ok none :: answers) : Action ε τ (List Answer))).run v := by
  have taken : (Step.start.take service settings workers).run w = (.ok (workers ++ [k], none), v) :=
    Action.run_bind_ok started
  rw [process, Action.run_bind_ok (Action.run_attempt _ _), taken]

def Starts (steps : List (Step τ)) (answers : List Answer) : Prop :=
  List.Forall₂ (fun step answer => step = .start → answer = .ok none) steps answers

private theorem gives_process_unaudited (service : Service ε τ) (settings : Settings τ)
    (workers : List (Worker ε τ)) (steps : List (Step τ)) :
    Gives (Starts steps) (process service settings.unaudited workers steps) := by
  induction steps generalizing workers with
  | nil => exact gives_pure .nil
  | cons step rest ih =>
    have first : Gives (fun r => step = .start → ∃ more, r = .ok (more, none))
        (Action.attempt (step.take service settings.unaudited workers)) := by
      cases step with
      | start =>
        intro w
        obtain ⟨k, v, ran, -⟩ := gives_ofEnvironment_unaudited service settings w
        have taken : (Step.start.take service settings.unaudited workers).run w =
            (.ok (workers ++ [k], none), v) :=
          Action.run_bind_ok ran
        exact ⟨.ok (workers ++ [k], none), v, by rw [Action.run_attempt, taken], fun _ => ⟨_, rfl⟩⟩
      | _ => exact fun w => ⟨_, _, rfl, nofun⟩
    refine gives_bind first fun r begins => ?_
    cases r with
    | ok r =>
      refine gives_bind (ih r.1) fun answers starts => gives_pure (.cons (fun begun => ?_) starts)
      obtain ⟨more, same⟩ := begins begun
      rw [Except.ok.inj same]
    | error fault =>
      refine gives_bind (ih workers) fun answers starts =>
        gives_pure (.cons (fun begun => ?_) starts)
      obtain ⟨more, same⟩ := begins begun
      cases same

/-- Auditing is not noticed by those who work. Where the audit directory can be made, a process
comes to the same answers with auditing as without, with the same requests and commands at the same
times, and every start of a worker succeeds: whatever is refused when audit entries are written. -/
theorem auditing_unnoticed {same : ε → ε → Prop} {service : Service ε τ} {settings : Settings τ}
    {w : World ε τ} (overlooks : Overlooks same service settings)
    (auditable : settings.Auditable w.files)
    (fresh : ∀ key, ∀ p ∈ (w.sessions key).middlewares, ∃ b, p.2 = .custom b)
    (steps : List (Step τ)) :
    ∃ answers, ((process service settings [] steps).run w).1 = .ok answers ∧
      ((process service settings.unaudited [] steps).run w).1 = .ok answers ∧
      ((process service settings [] steps).run w).2.trace =
        ((process service settings.unaudited [] steps).run w).2.trace ∧
      Starts steps answers := by
  have worlds : w.Audited same service settings w :=
    { clock := rfl, boundsSleep := rfl, trace := rfl, environment := rfl
      sessions := fun key => by
        have unchanged : ∀ p ∈ (w.sessions key).middlewares, (p.1, p.2.unaudited) = p := by
          intro p there
          obtain ⟨b, custom⟩ := fresh key p there
          rw [custom, Middleware.unaudited, ← custom]
        rw [Session.unaudited, List.map_congr_left unchanged, List.map_id']
      belongs := fun key p there => by
        obtain ⟨b, custom⟩ := fresh key p there
        rw [custom]
        trivial
      files := auditable.leaves
      outside := overlooks.refl _ }
  have none : ∀ k ∈ ([] : List (Worker ε τ)), k.Belongs service settings := by
    intro k there
    cases there
  have pairs := pairs_process overlooks none steps
  rw [List.map_nil] at pairs
  obtain ⟨alike, after⟩ := pairs w w worlds
  obtain ⟨answers, v, ran, starts⟩ := gives_process_unaudited service settings [] steps w
  have ended : ((process service settings.unaudited [] steps).run w).1 = .ok answers := by rw [ran]
  exact ⟨answers, alike.eq.trans ended, ended, after.trace, starts⟩

private theorem overlooks_still (m : Manner) (settings : Settings Rat) :
    Overlooks (ε := Still) Eq m.service settings where
  refl _ := rfl
  finds _ _ _ := respects_eq _
  scripts _ _ _ := respects_eq _
  addons _ _ _ := respects_eq _
  quits _ := respects_eq _
  inquiries _ := respects_eq _
  appends _ _ _ _ _ same := same
  plainly file _ line s fault refused := by
    obtain ⟨cause, -, rfl⟩ := Option.map_eq_some_iff.1 refused
    exact Fault.isSystem_file cause file.text

def auditedSettings : Settings Rat :=
  { (Manner.healing {} {}).settings with
    supportedBrowsers := ["chrome", "firefox"], firefoxAddon := some "/addon.xpi"
    auditDirectory := some "/audit" }

def handedResult : AuthResult :=
  { isAuthenticated := true, isHealingEnabled := some true }

/-- A launcher has handed over a result. The audit file is a directory, and the disk writes
nothing. -/
def refusingWorld : World Still Rat :=
  { Deal.chromeWorld with
    files := ⟨[(["audit"], .directory), (["audit", "healing_attempts.jsonl"], .directory)], []⟩
    environment := [(AuthResult.variableName, handedResult.toVariable)]
    outside := { page := Still.pageWith "here", disk := some .isDirectory } }

private theorem auditable_refusingWorld : auditedSettings.Auditable refusingWorld.files where
  rooted := FileTree.rooted_of_directories
    (List.forall_mem_cons.2 ⟨rfl, List.forall_mem_cons.2 ⟨rfl, fun _ there => by cases there⟩⟩)
  makes directory audits := by
    obtain rfl := Option.some.inj audits
    exact ⟨refusingWorld.files, by with_unfolding_all rfl⟩
  apart directory path audits named := by
    obtain rfl := Option.some.inj audits
    obtain rfl := Option.some.inj named
    exact ⟨by decide, by decide⟩

def handedWorker : Worker Still Rat :=
  ⟨(Manner.mending "here").service, auditedSettings.unaudited, some handedResult, none⟩

private theorem run_ofEnvironment_refusingWorld :
    (ofEnvironment handedWorker.service auditedSettings.unaudited).run refusingWorld =
      (.ok handedWorker, { refusingWorld with level := .info }) := by
  have portable : handedResult.Portable := ⟨nofun, by decide⟩
  exact (run_ofEnvironment portable rfl).trans rfl

/-- A worker sets up a session, and an element that is gone is looked up. -/
def healedSteps : List (Step Rat) :=
  [.selfHeal 0 { selfHeal := true } .null (.one "s"), .lookup "s" (.str "id") (.str "gone")]

def healedAnswers : List Answer :=
  [.ok none, .ok (some (.found ⟨.str "id", .str "here"⟩))]

private theorem run_healedSteps :
    ((process handedWorker.service auditedSettings.unaudited [] (.start :: healedSteps)).run
      refusingWorld).1 = .ok (.ok none :: healedAnswers) := by
  have goesOn : ((process handedWorker.service auditedSettings.unaudited [handedWorker]
      healedSteps).run { refusingWorld with level := .info }).1 = .ok healedAnswers := by
    with_unfolding_all rfl
  rw [run_process_start [] run_ofEnvironment_refusingWorld healedSteps]
  rcases ran : (process handedWorker.service auditedSettings.unaudited [handedWorker]
    healedSteps).run { refusingWorld with level := .info } with ⟨r, v⟩
  rw [ran] at goesOn
  obtain rfl : r = .ok healedAnswers := goesOn
  rw [List.nil_append, Action.run_bind_ok ran]
  rfl

/-- A lookup is healed though no entry can be written. -/
theorem auditing_unnoticed_directory :
    ((process handedWorker.service auditedSettings [] (.start :: healedSteps)).run
        refusingWorld).1 = .ok (.ok none :: healedAnswers) ∧
      ((process handedWorker.service auditedSettings [] (.start :: healedSteps)).run
          refusingWorld).2.trace =
        ((process handedWorker.service auditedSettings.unaudited [] (.start :: healedSteps)).run
          refusingWorld).2.trace := by
  have fresh (key : String) :
      ∀ p ∈ (refusingWorld.sessions key).middlewares, ∃ b, p.2 = .custom b := by
    intro p there
    cases there
  have overlooks : Overlooks Eq handedWorker.service auditedSettings :=
    overlooks_still (Manner.mending "here") auditedSettings
  obtain ⟨answers, audited, plain, alike, -⟩ :=
    auditing_unnoticed overlooks auditable_refusingWorld fresh (.start :: healedSteps)
  cases plain.symm.trans run_healedSteps
  exact ⟨audited, alike⟩

/-- Where a file stands in place of the audit directory no worker starts, though one starts without
auditing. -/
theorem auditing_noticed_at_start :
    let w : World Still Rat := { Deal.chromeWorld with files := ⟨[(["audit"], .file [] 0)], []⟩ }
    let service := (Manner.mending "here").service
    ((process service auditedSettings [] [.start]).run w).1 =
      .ok [.error (.file .exists "/audit")] ∧
    ((process service auditedSettings.unaudited [] [.start]).run w).1 = .ok [.ok none] := by
  refine ⟨rfl, rfl⟩

end LocatorHealing.Worker
