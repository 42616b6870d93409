import Mathlib.Data.List.Chain
import LocatorHealing.Proofs.Healing.Cost
import LocatorHealing.Proofs.Healing.Teardown

set_option autoImplicit false
set_option relaxedAutoImplicit false

/-!
The trail of a run records its course. It leads from the first lookup to a last state by the steps
that are allowed, and passes no state twice. A state is on it exactly where the run has done what
leads there, and the service is asked to heal exactly where the trail has the state for it.
-/

namespace LocatorHealing.Healing

def State.rank : State → Nat
  | .firstLookup => 0
  | .logAndReturn | .attemptHeal => 1
  | .executeScript => 2
  | .pollResult => 3
  | .retryWithHealedLocator => 4
  | .returnHealedResult | .returnFirstFailure => 5

private theorem State.Leads.rank_lt {a b : State} (leads : State.Leads a b) : a.rank < b.rank := by
  cases leads with
  | _ => decide

private theorem State.nodup_of_leads {trail : List State} (leads : trail.IsChain State.Leads) :
    trail.Nodup := by
  have farther : trail.IsChain (fun a b => a.rank < b.rank) :=
    leads.imp fun _ _ step => step.rank_lt
  refine List.Pairwise.imp ?_ farther.pairwise
  rintro a b less rfl
  exact Nat.lt_irrefl _ less

/-- A trail that starts with the first lookup, leads on from state to state, and has come to one. -/
structure Leading (trail : List State) (state : State) : Prop where
  starts : trail.head? = some .firstLookup
  leads : trail.IsChain State.Leads
  last : trail.getLast? = some state

theorem Leading.enter {p : Progress} {state next : State} (leading : Leading p.trail state)
    (step : State.Leads state next) : Leading (p.enter next).trail next := by
  obtain ⟨starts, leads, last⟩ := leading
  refine ⟨?_, leads.append (.singleton next) ?_, List.getLast?_concat⟩
  · rw [Progress.enter, List.head?_append, starts]
    rfl
  · rintro a at_last b ⟨⟩
    rw [last] at at_last
    cases at_last
    exact step

/-- The state in which a task is done. A run is closed in a last one. -/
def Task.At : Task → State → Prop
  | .look, state => state = .firstLookup
  | .log _, state => state = .logAndReturn
  | .ask _, state => state = .attemptHeal
  | .script _ _, state => state = .executeScript
  | .poll _, state => state = .pollResult
  | .retry _ _, state => state = .retryWithHealedLocator
  | .close _, state => state.isLast = true

/-- The trail of a point leads to the state of its task. -/
def Point.Tracks (x : Point) : Prop :=
  ∃ state, Leading x.progress.trail state ∧ x.task.At state

namespace Run

variable {ε τ : Type} [Outside ε τ] [TimeScale τ] {r : Run ε τ} {x y : Point} {v u w : World ε τ}

/-- A trail leads on from point to point. -/
private theorem Moves.tracks (tracks : x.Tracks) (moves : r.Moves (x, v) (y, u)) : y.Tracks := by
  have does := moves_iff.1 moves
  obtain ⟨task, p⟩ := x
  obtain ⟨state, leading, here⟩ := tracks
  cases task with
  | look =>
    obtain ⟨first, -, rfl⟩ := does
    obtain rfl : state = _ := here
    unfold afterLook
    split
    · exact ⟨_, leading.enter .found, rfl⟩
    split
    · exact ⟨_, leading.enter .missed, rfl⟩
    · exact ⟨_, leading.enter .unhealed, rfl⟩
  | log first =>
    obtain ⟨-, rfl⟩ := does
    obtain rfl : state = _ := here
    exact ⟨_, leading, rfl⟩
  | ask first =>
    obtain ⟨answer, -, rfl⟩ := does
    obtain rfl : state = _ := here
    cases answer with
    | none => exact ⟨_, leading.enter .refused, rfl⟩
    | some script => exact ⟨_, leading.enter .given, rfl⟩
  | script first script =>
    obtain ⟨-, rfl⟩ := does
    obtain rfl : state = _ := here
    exact ⟨_, leading.enter .ran, rfl⟩
  | poll first =>
    obtain ⟨found, -, rfl⟩ := does
    obtain rfl : state = _ := here
    cases found with
    | none => exact ⟨_, leading.enter .unpolled, rfl⟩
    | some healed => exact ⟨_, leading.enter .polled, rfl⟩
  | retry first healed =>
    obtain ⟨second, -, rfl⟩ := does
    obtain rfl : state = _ := here
    unfold afterRetry
    split
    · exact ⟨_, leading.enter .missedAgain, rfl⟩
    · exact ⟨_, leading.enter .healed, rfl⟩
  | close outcome => exact does.elim

omit [Outside ε τ] [TimeScale τ] in
private theorem tracks_entry : entry.Tracks :=
  ⟨.firstLookup, ⟨rfl, .singleton _, rfl⟩, rfl⟩

private theorem Reaches.tracks (reaches : r.Reaches w x v) : x.Tracks :=
  reaches.invariant (I := fun x _ => x.Tracks) tracks_entry Moves.tracks

private theorem leads_of_at {task : Task} {state : State} (here : task.At state)
    (goes : ∀ outcome, task ≠ .close outcome) : State.Leads state .returnFirstFailure := by
  cases task with
  | look => exact here ▸ .unhealed
  | log first => exact here ▸ .unlogged
  | ask first => exact here ▸ .refused
  | script first script => exact here ▸ .failed
  | poll first => exact here ▸ .unpolled
  | retry first healed => exact here ▸ .missedAgain
  | close outcome => exact absurd rfl (goes outcome)

/-- What a run has come to, for a state to be on its trail. The first lookup and the return of its
failure need nothing. -/
def Earns (r : Run ε τ) (w : World ε τ) : State → Prop
  | .firstLookup | .returnFirstFailure => True
  | .logAndReturn => ∃ first v,
      (r.look r.attempt.strategy r.attempt.value).run w = (.ok first, v) ∧ first.isFailure = false
  | .attemptHeal => ∃ first v,
      (r.look r.attempt.strategy r.attempt.value).run w = (.ok first, v) ∧
        first.isFailure = true ∧ r.options.selfHeal = true ∧
        r.healing.auth.isHealingEnabled = some true
  | .executeScript => ∃ first p v script u, r.Reaches w ⟨.ask first, p⟩ v ∧
      r.request.run v = (.ok (some script), u)
  | .pollResult => ∃ first script p v u, r.Reaches w ⟨.script first script, p⟩ v ∧
      (r.runScript script).run v = (.ok (), u)
  | .retryWithHealedLocator => ∃ healed, r.Polls w healed
  | .returnHealedResult => ∃ first healed p v second u, r.Reaches w ⟨.retry first healed, p⟩ v ∧
      (r.tryHealed healed).run v = (.ok second, u) ∧ second.isFailure = false

omit [Outside ε τ] [TimeScale τ] in
private theorem mayHeal_iff :
    r.mayHeal = true ↔
      r.options.selfHeal = true ∧ r.healing.auth.isHealingEnabled = some true := by
  simp [mayHeal]

private theorem earns_of_moves (came : r.Reaches w x v) (moves : r.Moves (x, v) (y, u))
    {state : State} (new : state ∈ y.progress.trail) (old : state ∉ x.progress.trail) :
    r.Earns w state := by
  have does := moves_iff.1 moves
  obtain ⟨task, p⟩ := x
  have entered {next : State} (on : state ∈ p.trail ++ [next]) : state = next := by
    simpa [old] using on
  cases task with
  | look =>
    obtain ⟨first, looked, rfl⟩ := does
    obtain ⟨here, rfl⟩ := came.at_look rfl
    cases here
    unfold afterLook at new
    split at new
    case isTrue found =>
      obtain rfl := entered new
      exact ⟨first, u, looked, by simpa using found⟩
    case isFalse failed =>
      split at new
      case isTrue may =>
        obtain rfl := entered new
        exact ⟨first, u, looked, by simpa using failed, mayHeal_iff.1 may⟩
      case isFalse =>
        obtain rfl := entered new
        trivial
  | log first =>
    obtain ⟨-, rfl⟩ := does
    exact absurd new old
  | ask first =>
    obtain ⟨answer, asked, rfl⟩ := does
    cases answer with
    | none =>
      obtain rfl := entered new
      trivial
    | some script =>
      obtain rfl := entered new
      exact ⟨first, p, v, script, u, came, asked⟩
  | script first script =>
    obtain ⟨ran, rfl⟩ := does
    obtain rfl := entered new
    exact ⟨first, script, p, v, u, came, ran⟩
  | poll first =>
    obtain ⟨found, polled, rfl⟩ := does
    cases found with
    | none =>
      obtain rfl := entered new
      trivial
    | some healed =>
      obtain rfl := entered new
      exact ⟨healed, first, p, v, u, came, polled⟩
  | retry first healed =>
    obtain ⟨second, tried, rfl⟩ := does
    unfold afterRetry at new
    split at new
    case isTrue =>
      obtain rfl := entered new
      trivial
    case isFalse found =>
      obtain rfl := entered new
      exact ⟨first, healed, p, v, second, u, came, tried, by simpa using found⟩
  | close outcome => exact does.elim

/-- The states on the trail of a run are earned. -/
private theorem Reaches.earns (reaches : r.Reaches w x v) {state : State}
    (on : state ∈ x.progress.trail) : r.Earns w state := by
  have holds : r.Reaches w x v ∧ ∀ state ∈ x.progress.trail, r.Earns w state := by
    refine reaches.invariant
      (I := fun x v => r.Reaches w x v ∧ ∀ state ∈ x.progress.trail, r.Earns w state) ?_ ?_
    · refine ⟨.refl, fun state on => ?_⟩
      obtain rfl := List.mem_singleton.1 on
      trivial
    · rintro x v y u ⟨came, earned⟩ moves
      refine ⟨came.move moves, fun state on => ?_⟩
      by_cases had : state ∈ x.progress.trail
      · exact earned state had
      · exact earns_of_moves came moves on had
  exact holds.2 state on

/-- Where a state is earned, a run comes to a point with the state on its trail. -/
private theorem reaches_of_earns {state : State} (other : state ≠ .returnFirstFailure)
    (earns : r.Earns w state) : ∃ x v, r.Reaches w x v ∧ state ∈ x.progress.trail := by
  cases state with
  | firstLookup => exact ⟨entry, w, .refl, List.mem_singleton.2 rfl⟩
  | returnFirstFailure => exact absurd rfl other
  | logAndReturn =>
    obtain ⟨first, v, looked, found⟩ := earns
    refine ⟨_, v, .single (moves_iff.2 ⟨first, looked, rfl⟩), ?_⟩
    simp [afterLook, found, Progress.enter]
  | attemptHeal =>
    obtain ⟨first, v, looked, failed, may⟩ := earns
    refine ⟨_, v, reaches_asking looked failed (mayHeal_iff.2 may), ?_⟩
    simp [asking]
  | executeScript =>
    obtain ⟨first, p, v, script, u, came, asked⟩ := earns
    refine ⟨_, u, came.move (moves_iff.2 ⟨some script, asked, rfl⟩), ?_⟩
    simp [afterAsk, Progress.enter]
  | pollResult =>
    obtain ⟨first, script, p, v, u, came, ran⟩ := earns
    refine ⟨_, u, came.move (moves_iff.2 ⟨ran, rfl⟩), ?_⟩
    simp [Progress.enter]
  | retryWithHealedLocator =>
    obtain ⟨healed, first, p, v, u, came, polled⟩ := earns
    refine ⟨_, u, came.move (moves_iff.2 ⟨some healed, polled, rfl⟩), ?_⟩
    simp [afterPoll, Progress.enter]
  | returnHealedResult =>
    obtain ⟨first, healed, p, v, second, u, came, tried, found⟩ := earns
    refine ⟨_, u, came.move (moves_iff.2 ⟨second, tried, rfl⟩), ?_⟩
    simp [afterRetry, found, Progress.enter]

private theorem trail_subset {a b : Point × World ε τ} (goes : Relation.ReflTransGen r.Moves a b) :
    a.1.progress.trail ⊆ b.1.progress.trail := by
  induction goes with
  | refl => exact List.Subset.refl _
  | @tail b c _ moves ih =>
    obtain ⟨more, grown⟩ := (Moves.onward (x := b.1) (y := c.1) moves).grows
    rw [grown]
    exact List.subset_append_of_subset_left more ih

/-- Where only the system refuses to audit, a run that returns was closed, or returned the first
failure from a task that raised a fault. -/
private theorem start_closes (plainly : r.healing.AuditsPlainly) {e : Ending}
    (ends : r.start.run w = (.ok e, u)) :
    ∃ x v, r.Reaches w x v ∧ r.Runs x v (.ok e, u) ∧ (∀ b, ¬r.Moves (x, v) b) ∧
      ((∃ outcome, x.task = .close outcome) ∧ e.progress = x.progress ∨
        (∀ outcome, x.task ≠ .close outcome) ∧
          e.progress = x.progress.enter .returnFirstFailure) := by
  obtain ⟨x, v, came, ⟨e', t, stepped, ended⟩ | ⟨fault, t, raised, recovers⟩⟩ :=
    start_ends (r := r) w
  · have runs := came.runs
    rw [ends] at ended runs
    cases ended
    obtain ⟨outcome, closes, rfl⟩ := step_ends stepped
    refine ⟨x, v, came, runs, fun b moves => ?_, .inl ⟨⟨outcome, closes⟩, rfl⟩⟩
    rw [Moves.run_step moves] at stepped
    cases stepped
  · have runs := came.runs
    rw [ends] at runs recovers
    refine ⟨x, v, came, runs, fun b moves => ?_, .inr ⟨fun outcome closes => ?_, ?_⟩⟩
    · rw [Moves.run_step moves] at raised
      cases raised
    · obtain ⟨task, p⟩ := x
      obtain rfl : task = .close outcome := closes
      obtain ⟨t', finished⟩ := finish_answers plainly p outcome v
      rw [of_step_error rfl raised] at finished
      cases finished
    · exact (recover_ok recovers.symm).1

/-- The trail of a run that returns leads from the first lookup to a last state. -/
private theorem start_leading (plainly : r.healing.AuditsPlainly) {e : Ending}
    (ends : r.start.run w = (.ok e, u)) :
    ∃ last, Leading e.progress.trail last ∧ last.isLast = true := by
  obtain ⟨x, v, came, -, -, ⟨⟨outcome, closes⟩, same⟩ | ⟨goes, same⟩⟩ := start_closes plainly ends
  · obtain ⟨state, leading, here⟩ := came.tracks
    rw [closes] at here
    exact ⟨state, same ▸ leading, here⟩
  · obtain ⟨state, leading, here⟩ := came.tracks
    exact ⟨_, same ▸ leading.enter (leads_of_at here goes), rfl⟩

/-- A state other than the return of the first failure is on the trail of a run that returns exactly
where it is earned. -/
theorem mem_trail_iff (plainly : r.healing.AuditsPlainly) {e : Ending}
    (ends : r.start.run w = (.ok e, u)) {state : State} (other : state ≠ .returnFirstFailure) :
    state ∈ e.progress.trail ↔ r.Earns w state := by
  obtain ⟨x, v, came, -, stops, how⟩ := start_closes plainly ends
  have same : state ∈ e.progress.trail ↔ state ∈ x.progress.trail := by
    obtain ⟨-, same⟩ | ⟨-, same⟩ := how
    · rw [same]
    · rw [same]
      simp [Progress.enter, other]
  rw [same]
  constructor
  · exact came.earns
  · intro earns
    obtain ⟨y, t, there, on⟩ := reaches_of_earns other earns
    obtain goes | goes := Relation.ReflTransGen.total_of_right_unique moves_unique there came
    · exact trail_subset goes on
    · obtain same | ⟨b, moves, -⟩ := Relation.ReflTransGen.cases_head goes
      · cases same
        exact on
      · exact absurd moves (stops b)

section Plea

open LocatorHealing.Action (Keeps Costs)

def IsPlea : Event τ → Prop
  | .asked (.heal _) => True
  | _ => False

omit [Outside ε τ] [TimeScale τ] in
private theorem uncounted_isPlea : Uncounted (IsPlea (τ := τ)) :=
  ⟨fun _ => id, fun _ => id, fun _ => id⟩

/-- The lookups of a run do not themselves ask the service to heal. -/
def LooksQuietly (r : Run ε τ) : Prop :=
  ∀ strategy value, Keeps (World.Sees IsPlea 0) (r.look strategy value)

private theorem looksQuietly_of_plain (plain : r.look = Session.driverLookup r.session) :
    r.LooksQuietly := by
  intro strategy value
  rw [plain]
  exact Costs.driverLookup uncounted_isPlea False.elim

private theorem step_quiet (looks : r.LooksQuietly)
    (other : ∀ first, x.task ≠ .ask first) :
    Keeps (World.Sees IsPlea 0) (r.step x) := by
  have hR : Frame (World.Sees (ε := ε) (IsPlea (τ := τ)) 0) := frame_sees
  have scripts (text : String) :
      Keeps (World.Sees IsPlea 0) (Session.execute r.session text [] : Action ε τ Json) :=
    Costs.execute uncounted_isPlea False.elim
  obtain ⟨task, p⟩ := x
  cases task with
  | look => exact hR.keeps_bind (looks _ _) fun _ => hR.keeps_pure _
  | log first =>
    exact hR.keeps_bind (r.keeps_logUsage hR (Costs.ask uncounted_isPlea False.elim) scripts)
      fun _ => hR.keeps_pure _
  | ask first => exact absurd rfl (other first)
  | script first text =>
    exact hR.keeps_bind (r.keeps_runScript hR (scripts text)) fun _ => hR.keeps_pure _
  | poll first =>
    refine hR.keeps_bind (r.keeps_poll hR (r.keeps_pollOnce hR fun _ => ?_) fun _ => ?_) fun _ =>
      hR.keeps_pure _
    · exact Costs.ask uncounted_isPlea False.elim
    · exact Costs.note False.elim
  | retry first healed =>
    exact hR.keeps_bind (r.keeps_tryHealed hR looks healed) fun _ => hR.keeps_pure _
  | close outcome =>
    exact hR.keeps_bind (r.keeps_finish hR auditKeeps_sees p outcome) fun _ => hR.keeps_pure _

omit [Outside ε τ] [TimeScale τ] in
private theorem mem_of_ask (tracks : x.Tracks) {first : Outcome} (asks : x.task = .ask first) :
    .attemptHeal ∈ x.progress.trail := by
  obtain ⟨state, leading, here⟩ := tracks
  rw [asks] at here
  obtain rfl : state = .attemptHeal := here
  exact List.mem_of_getLast? leading.last

private theorem Reaches.quiet (looks : r.LooksQuietly)
    (reaches : r.Reaches w x v) (never : .attemptHeal ∉ x.progress.trail) :
    w.Sees IsPlea 0 v := by
  have holds : x.Tracks ∧ (.attemptHeal ∉ x.progress.trail → w.Sees IsPlea 0 v) := by
    refine reaches.invariant (I := fun x v =>
      x.Tracks ∧ (.attemptHeal ∉ x.progress.trail → w.Sees IsPlea 0 v)) ?_ ?_
    · exact ⟨tracks_entry, fun _ => .refl w⟩
    · rintro x v y u ⟨tracks, quiet⟩ moves
      refine ⟨Moves.tracks tracks moves, fun never => ?_⟩
      obtain ⟨more, grown⟩ := (Moves.onward moves).grows
      rw [grown] at never
      have before : .attemptHeal ∉ x.progress.trail :=
        fun on => never (List.mem_append_left more on)
      have stepped := step_quiet looks (fun first asks => before (mem_of_ask tracks asks)) v
      rw [moves.run_step] at stepped
      exact (quiet before).trans stepped
  exact holds.2 never

private theorem Runs.quiet_of_stops (looks : r.LooksQuietly)
    {z : Except Fault Ending × World ε τ} (runs : r.Runs x v z) (stops : ∀ b, ¬r.Moves (x, v) b)
    (stepped : v.Sees IsPlea 0 ((r.step x).run v).2) : v.Sees IsPlea 0 z.2 := by
  cases runs with
  | ends given => rwa [given] at stepped
  | @caught _ _ fault u raised =>
    rw [raised] at stepped
    exact stepped.trans
      ((r.keeps_recover frame_sees auditKeeps_sees (looks _ _) x.progress fault) u)
  | goes moves rest => exact absurd moves (stops _)

private theorem start_quiet (looks : r.LooksQuietly) (plainly : r.healing.AuditsPlainly)
    {e : Ending} (ends : r.start.run w = (.ok e, u))
    (never : .attemptHeal ∉ e.progress.trail) : w.Sees IsPlea 0 u := by
  obtain ⟨x, v, came, runs, stops, how⟩ := start_closes plainly ends
  have before : .attemptHeal ∉ x.progress.trail := by
    obtain ⟨-, same⟩ | ⟨-, same⟩ := how
    · rwa [same] at never
    · rw [same] at never
      exact fun on => never (List.mem_append_left _ on)
  have stepped := step_quiet looks (fun first asks => before (mem_of_ask came.tracks asks)) v
  exact (Reaches.quiet looks came before).trans (Runs.quiet_of_stops looks runs stops stepped)

/-- The world after something that lets the trace grow by a request to heal, and maybe more. -/
private def Pleads (w v : World ε τ) : Prop :=
  ∃ entry t, v.trace = w.trace ++ entry :: t ∧ IsPlea entry.event

omit [Outside ε τ] [TimeScale τ] in
private theorem Pleads.grows (pleads : Pleads v u) (more : u.Sees (fun _ => False) 0 w) :
    Pleads v w := by
  obtain ⟨entry, s, grown, plea⟩ := pleads
  obtain ⟨t, again, -⟩ := more
  exact ⟨entry, s ++ t, by rw [again, grown, List.append_assoc]; rfl, plea⟩

omit [Outside ε τ] [TimeScale τ] in
private theorem pleads_bind {α β : Type} {a : Action ε τ α} {f : α → Action ε τ β}
    (first : Keeps Pleads a) (after : ∀ b, Keeps (World.Sees (fun _ => False) 0) (f b)) :
    Keeps Pleads (a >>= f) := by
  intro v
  have pleads := first v
  rcases h : a.run v with ⟨fault | b, u⟩
  · rw [h] at pleads
    rwa [Action.run_bind_error h]
  · rw [h] at pleads
    rw [Action.run_bind_ok h]
    exact pleads.grows (after b u)

omit [Outside ε τ] in
private theorem pleads_ask (service : Service ε τ) (failure : FailureReport) :
    Keeps Pleads (Action.ask service (.heal failure)) := by
  refine fun v => pleads_bind (a := Action.note (.asked (.heal failure))) ?_ (fun _ => ?_) v
  · exact fun v => ⟨⟨v.clock, .asked (.heal failure)⟩, [], rfl, trivial⟩
  · exact Costs.perform uncounted_false fun _ _ => False.elim

private theorem step_pleads {first : Outcome} {p : Progress} :
    Keeps Pleads (r.step ⟨.ask first, p⟩) := by
  refine pleads_bind ?_ fun _ => frame_sees.keeps_pure _
  intro v
  obtain ⟨log, logged⟩ := Action.run_log .info "findElement failed, trying to heal" v
  rw [request, Action.run_bind_ok logged]
  exact pleads_bind (pleads_ask r.healing.service r.failureReport)
    (fun _ => frame_sees.keeps_pure _) { v with log }

/-- The service is asked to heal exactly where the trail has the state for it. -/
private theorem plea_iff (looks : r.LooksQuietly) (plainly : r.healing.AuditsPlainly) {e : Ending}
    (ends : r.start.run w = (.ok e, u)) :
    ∃ t, u.trace = w.trace ++ t ∧
      (.attemptHeal ∈ e.progress.trail ↔ ∃ entry ∈ t, IsPlea entry.event) := by
  have within : r.Within (World.Sees (fun _ => False) 0) :=
    within_sees uncounted_false (fun strategy value w => (looks strategy value w).grows)
      (fun _ => id) fun _ => id
  obtain ⟨t, grown, -⟩ : w.Sees (fun _ => False) 0 u := by
    have grows := within.start w
    rwa [ends] at grows
  refine ⟨t, grown, fun on => ?_, fun ⟨entry, member, plea⟩ => ?_⟩
  · obtain ⟨first, v, looked, failed, may⟩ :=
      (mem_trail_iff plainly ends State.noConfusion).1 on
    have came := reaches_asking looked failed (mayHeal_iff.2 may)
    obtain ⟨s, before, -⟩ := within.reaches came
    obtain ⟨entry, s', after, plea⟩ :=
      (step_pleads (r := r) v).grows (within.runs_step came.runs)
    rw [ends] at after
    refine ⟨entry, ?_, plea⟩
    rw [before, grown, List.append_assoc] at after
    rw [List.append_cancel_left after]
    exact List.mem_append_right s List.mem_cons_self
  · by_contra never
    exact (start_quiet looks plainly ends never).not_mem grown entry member plea

end Plea

/-- Where only the system refuses to audit, the trail of a run that returns is a record of it. It
starts with the first lookup, repeats no state, takes only allowed steps and ends in a last state.
Every state but the return of the first failure is on it exactly where the run has come to what
leads there, and the service is asked to heal exactly where the state for it is on the trail. -/
theorem trail_records (looks : r.LooksQuietly) (plainly : r.healing.AuditsPlainly) {e : Ending}
    (ends : r.start.run w = (.ok e, u)) :
    e.progress.trail.head? = some .firstLookup ∧
      e.progress.trail.Nodup ∧
      e.progress.trail.IsChain State.Leads ∧
      (∃ last, e.progress.trail.getLast? = some last ∧ last.isLast = true) ∧
      (∀ state, state ≠ .returnFirstFailure → (state ∈ e.progress.trail ↔ r.Earns w state)) ∧
      ∃ t, u.trace = w.trace ++ t ∧
        (.attemptHeal ∈ e.progress.trail ↔ ∃ entry ∈ t, IsPlea entry.event) := by
  obtain ⟨last, leading, final⟩ := start_leading plainly ends
  refine ⟨leading.starts, State.nodup_of_leads leading.leads, leading.leads,
    ⟨last, leading.last, final⟩, fun state other => mem_trail_iff plainly ends other, ?_⟩
  exact plea_iff looks plainly ends

/-- A page without the element `old`, and a service that has a script for it: the run attempts to
heal, asks the service for it, and passes no state twice. -/
theorem trail_records_mending :
    let m := Manner.mending "new"
    let auth : AuthResult := { isHealingEnabled := some true }
    let r := m.run auth { selfHeal := true } (some Manner.auditFile) "old"
    let w := m.world auth { selfHeal := true } (some Manner.auditFile) "new"
    ∃ e u t, r.start.run w = (.ok e, u) ∧ e.progress.trail.Nodup ∧
      .attemptHeal ∈ e.progress.trail ∧ u.trace = w.trace ++ t ∧
      ∃ entry ∈ t, IsPlea entry.event := by
  intro m auth r w
  have plainly : r.healing.AuditsPlainly := Manner.auditsPlainly_auditFile m auth
  obtain ⟨e, u, ends, -⟩ := start_ends_plainly (Deed.find.tariff Rat "s" (.str "id") (.str "old"))
    (r := r) rfl (Still.findsPlainly "s") plainly w
  obtain ⟨-, once, -, -, exactly, t, grown, pleads⟩ :=
    trail_records (looksQuietly_of_plain rfl) plainly ends
  have on : .attemptHeal ∈ e.progress.trail :=
    (exactly .attemptHeal State.noConfusion).2
      ⟨.failed (.raised .noSuchElement "no such element" .null), _, by with_unfolding_all rfl, rfl,
        rfl, rfl⟩
  exact ⟨e, u, t, ends, once, on, grown, pleads.1 on⟩

end Run

end LocatorHealing.Healing
