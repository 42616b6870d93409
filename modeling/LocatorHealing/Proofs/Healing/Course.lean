import Mathlib.Logic.Relation
import LocatorHealing.Healing.Run

set_option autoImplicit false
set_option relaxedAutoImplicit false

/-!
The course of a run, step by step. A run stands at a point: it has a task to do next, and has come
as far as its progress says. A step does the task and leads to the next point or to the end. The
first fault that a step raises is caught, and ends the course. Every run follows its course
(`start_runs`), so that whatever holds at the entry and passes from point to point holds wherever a
run comes.
-/

namespace LocatorHealing.Healing

/-- What a run does next. -/
inductive Task where
  | look
  | log (first : Outcome)
  | ask (first : Outcome)
  | script (first : Outcome) (script : String)
  | poll (first : Outcome)
  | retry (first : Outcome) (healed : HealedLocator)
  | close (outcome : Outcome)

/-- Where a run stands. -/
structure Point where
  task : Task
  progress : Progress

namespace Run

variable {ε τ : Type} (r : Run ε τ)

def entry : Point :=
  ⟨.look, ⟨[.firstLookup], none, none⟩⟩

def afterLook (p : Progress) (first : Outcome) : Point :=
  let p := { p with first := some first }
  if !first.isFailure then ⟨.log first, p.enter .logAndReturn⟩
  else if r.mayHeal then ⟨.ask first, p.enter .attemptHeal⟩
  else ⟨.close first, p.enter .returnFirstFailure⟩

def afterAsk (p : Progress) (first : Outcome) : Option String → Point
  | none => ⟨.close first, p.enter .returnFirstFailure⟩
  | some script => ⟨.script first script, p.enter .executeScript⟩

def afterPoll (p : Progress) (first : Outcome) : Option HealedLocator → Point
  | none => ⟨.close first, p.enter .returnFirstFailure⟩
  | some healed =>
    ⟨.retry first healed, { p with healed := some healed }.enter .retryWithHealedLocator⟩

def afterRetry (p : Progress) (first second : Outcome) : Point :=
  if second.isFailure then ⟨.close first, p.enter .returnFirstFailure⟩
  else ⟨.close second, p.enter .returnHealedResult⟩

def retryMessage (healed : HealedLocator) (second : Outcome) : String :=
  if second.isFailure then
    "Healed locator " ++ healed.selector ++ ": " ++ healed.value ++ " did not match either"
  else "Healing worked, element found: " ++ healed.selector ++ ": " ++ healed.value

variable [Outside ε τ] [TimeScale τ]

def request : Action ε τ (Option String) := do
  Action.log .info "findElement failed, trying to heal"
  let answer ← Action.ask r.healing.service (.heal r.failureReport)
  return Option.filter (· ≠ "") answer

def tryHealed (healed : HealedLocator) : Action ε τ Outcome := do
  let second ← r.lookAgain healed
  Action.log .info (retryMessage healed second)
  return second

def fallBack (p : Progress) (fault : Fault) : Action ε τ Ending :=
  if fault.isSessionGone then
    r.finish (p.enter .returnFirstFailure) (p.first.getD (.failed fault))
  else do
    let outcome ← r.look r.attempt.strategy r.attempt.value
    r.finish (p.enter .returnFirstFailure) outcome

def step (x : Point) : Action ε τ (Point ⊕ Ending) :=
  match x.task with
  | .look => do
    return .inl (r.afterLook x.progress (← r.look r.attempt.strategy r.attempt.value))
  | .log first => do
    r.logUsage
    return .inl ⟨.close first, x.progress⟩
  | .ask first => do
    return .inl (afterAsk x.progress first (← r.request))
  | .script first script => do
    r.runScript script
    return .inl ⟨.poll first, x.progress.enter .pollResult⟩
  | .poll first => do
    return .inl (afterPoll x.progress first (← r.poll))
  | .retry first healed => do
    return .inl (afterRetry x.progress first (← r.tryHealed healed))
  | .close outcome => do
    return .inr (← r.finish x.progress outcome)

/-- A step leads from one point and world to the next. -/
def Moves (a b : Point × World ε τ) : Prop :=
  (r.step a.1).run a.2 = (.ok (.inl b.1), b.2)

/-- A run that starts in a world comes to a point, in another world. -/
def Reaches (w : World ε τ) (x : Point) (v : World ε τ) : Prop :=
  Relation.ReflTransGen r.Moves (entry, w) (x, v)

/-- A run that starts in a world comes to polling, and polling finds a locator. -/
def Polls (w : World ε τ) (healed : HealedLocator) : Prop :=
  ∃ first p v u, r.Reaches w ⟨.poll first, p⟩ v ∧ r.poll.run v = (.ok (some healed), u)

/-- The course from a point ends with a fault that is caught. -/
inductive Catches (fault : Fault) : Point → World ε τ → Prop where
  | now {x v u} : (r.step x).run v = (.error fault, u) → Catches fault x v
  | later {x v y u} : r.Moves (x, v) (y, u) → Catches fault y u → Catches fault x v

/-- How a run goes on from a point, up to what it gives in the end. -/
inductive Runs : Point → World ε τ → Except Fault Ending × World ε τ → Prop where
  | ends {x v e u} : (r.step x).run v = (.ok (.inr e), u) → Runs x v (.ok e, u)
  | caught {x v fault u} : (r.step x).run v = (.error fault, u) →
      Runs x v ((r.recover x.progress fault).run u)
  | goes {x v y u z} : r.Moves (x, v) (y, u) → Runs y u z → Runs x v z

variable {r}

omit [TimeScale τ] in
/-- A run tells of a fault, and falls back. It is worth a warning at most to users who asked for
healing. -/
theorem recover_eq (p : Progress) (fault : Fault) :
    ∃ level message, r.recover p fault =
        (Action.log level message >>= fun _ => r.fallBack p fault) ∧
      (level = .debug ∨ r.options.selfHeal = true) := by
  unfold recover fallBack
  split
  · exact ⟨_, _, rfl, .inl rfl⟩
  split
  case isTrue wanted => exact ⟨_, _, rfl, .inr wanted⟩
  case isFalse => exact ⟨_, _, rfl, .inl rfl⟩

section Guarded

variable {α : Type} {x : Action ε τ α} {p : Progress} {next : α → Action ε τ Ending}
  {v u : World ε τ}

omit [TimeScale τ]

private theorem run_guarded_ok {a : α} (h : x.run v = (.ok a, u)) :
    (r.guarded p x next).run v = (next a).run u := by
  simp [guarded, h]

private theorem run_guarded_error {fault : Fault} (h : x.run v = (.error fault, u)) :
    (r.guarded p x next).run v = (r.recover p fault).run u := by
  simp [guarded, h]

end Guarded

private theorem runs_guarded {α : Type} {x : Point} {act : Action ε τ α} {f : α → Point}
    {rest : α → Action ε τ Ending}
    (does : r.step x = act >>= fun a => pure (.inl (f a)))
    (goes : ∀ a u, r.Runs (f a) u ((rest a).run u)) (v : World ε τ) :
    r.Runs x v ((r.guarded x.progress act rest).run v) := by
  rcases h : act.run v with ⟨fault | a, u⟩
  · rw [run_guarded_error h]
    exact .caught (does ▸ Action.run_bind_error h)
  · rw [run_guarded_ok h]
    have moves : r.Moves (x, v) (f a, u) := by
      rw [Moves, does]
      exact Action.run_bind_ok h
    exact .goes moves (goes a u)

private theorem runs_close (p : Progress) (state : State) (outcome : Outcome) (v : World ε τ) :
    r.Runs ⟨.close outcome, p.enter state⟩ v ((r.close p state outcome).run v) := by
  unfold close
  rcases h : (r.finish (p.enter state) outcome).run v with ⟨fault | e, u⟩
  · rw [run_guarded_error h]
    exact .caught (Action.run_bind_error h)
  · rw [run_guarded_ok h]
    exact .ends (Action.run_bind_ok h)

private theorem runs_retry (p : Progress) (first : Outcome) (healed : HealedLocator)
    (v : World ε τ) :
    r.Runs ⟨.retry first healed, p.enter .retryWithHealedLocator⟩ v
      ((r.retry p first healed).run v) := by
  unfold retry
  rcases h : (r.lookAgain healed).run v with ⟨fault | second, u⟩
  · rw [run_guarded_error h]
    exact .caught (Action.run_bind_error (Action.run_bind_error h))
  · rw [run_guarded_ok h]
    -- What is logged of the lookup belongs to the step, and comes after the guarded action.
    have tried : (r.tryHealed healed).run v =
        (.ok second, ((Action.log .info (retryMessage healed second)).run u).2) :=
      Action.run_bind_ok h
    refine .goes (y := afterRetry (p.enter .retryWithHealedLocator) first second)
      (Action.run_bind_ok tried) ?_
    cases failed : second.isFailure with
    | true =>
      simp only [afterRetry, retryMessage, failed, if_true]
      exact runs_close _ _ _ _
    | false =>
      simp only [afterRetry, retryMessage, failed, Bool.false_eq_true, if_false]
      exact runs_close _ _ _ _

private theorem runs_execute (p : Progress) (first : Outcome) (script : String) (v : World ε τ) :
    r.Runs ⟨.script first script, p.enter .executeScript⟩ v
      ((r.execute p first script).run v) := by
  refine runs_guarded (x := ⟨.script first script, p.enter .executeScript⟩)
    (f := fun _ => ⟨.poll first, (p.enter .executeScript).enter .pollResult⟩) rfl ?_ v
  intro _ u
  refine runs_guarded (x := ⟨.poll first, (p.enter .executeScript).enter .pollResult⟩)
    (f := afterPoll _ first) rfl ?_ u
  rintro (_ | healed) u
  · exact runs_close _ _ _ _
  · exact runs_retry _ _ _ _

private theorem runs_heal (p : Progress) (first : Outcome) (v : World ε τ) :
    r.Runs ⟨.ask first, p.enter .attemptHeal⟩ v ((r.heal p first).run v) := by
  unfold heal
  -- What is logged before the request belongs to the step, and comes before the guarded action.
  let logged := ((Action.log .info "findElement failed, trying to heal").run v).2
  rw [Action.run_bind_ok (v := logged) rfl]
  rcases h : (Action.ask r.healing.service (.heal r.failureReport)).run logged with
    ⟨fault | answer, u⟩
  · rw [run_guarded_error h]
    have requested : r.request.run v = (.error fault, u) :=
      (Action.run_bind_ok rfl).trans (Action.run_bind_error h)
    exact .caught (Action.run_bind_error requested)
  · rw [run_guarded_ok h]
    have requested : r.request.run v = (.ok (Option.filter (· ≠ "") answer), u) :=
      (Action.run_bind_ok rfl).trans (Action.run_bind_ok h)
    refine .goes (y := afterAsk (p.enter .attemptHeal) first (Option.filter (· ≠ "") answer))
      (Action.run_bind_ok requested) ?_
    cases Option.filter (· ≠ "") answer with
    | none => exact runs_close _ _ _ _
    | some script => exact runs_execute _ _ _ _

/-- Every run follows its course. -/
theorem start_runs (w : World ε τ) : r.Runs entry w (r.start.run w) := by
  refine runs_guarded (x := entry) (f := r.afterLook _) rfl ?_ w
  intro first v
  unfold afterLook
  split
  · refine runs_guarded (x := ⟨.log first, _⟩) (f := fun _ => ⟨.close first, _⟩) rfl ?_ v
    intro _ u
    exact runs_close _ _ _ _
  split
  · exact runs_heal _ _ _
  · exact runs_close _ _ _ _

theorem Moves.run_step {x y : Point} {v u : World ε τ} (moves : r.Moves (x, v) (y, u)) :
    (r.step x).run v = (.ok (.inl y), u) :=
  moves

/-- Every move is determined by where the run stands. -/
theorem moves_unique : Relator.RightUnique r.Moves := by
  rintro ⟨x, v⟩ ⟨y, u⟩ ⟨z, t⟩ first second
  have same := (Moves.run_step first).symm.trans (Moves.run_step second)
  cases same
  rfl

private theorem Moves.runs {x y : Point} {v u : World ε τ} {z : Except Fault Ending × World ε τ}
    (moves : r.Moves (x, v) (y, u)) (runs : r.Runs x v z) : r.Runs y u z := by
  cases runs with
  | ends h => simp [moves.run_step] at h
  | caught h => simp [moves.run_step] at h
  | goes again rest =>
    cases moves_unique moves again
    exact rest

theorem Moves.catches_iff {x y : Point} {v u : World ε τ} (moves : r.Moves (x, v) (y, u))
    (fault : Fault) : r.Catches fault x v ↔ r.Catches fault y u := by
  constructor
  · intro catches
    cases catches with
    | now raised => simp [moves.run_step] at raised
    | later again rest =>
      cases moves_unique moves again
      exact rest
  · exact .later moves

/-- No other fault than the one raised is caught. -/
theorem catches_iff_of_raised {x : Point} {v u : World ε τ} {raised fault : Fault}
    (h : (r.step x).run v = (.error raised, u)) : r.Catches fault x v ↔ fault = raised := by
  constructor
  · intro catches
    cases catches with
    | now again =>
      rw [h] at again
      cases again
      rfl
    | later moves _ => simp [moves.run_step] at h
  · rintro rfl
    exact .now h

theorem not_catches_of_ends {x : Point} {v u : World ε τ} {e : Ending} {fault : Fault}
    (h : (r.step x).run v = (.ok (.inr e), u)) : ¬r.Catches fault x v := by
  intro catches
  cases catches with
  | now raised => simp [h] at raised
  | later moves _ => simp [moves.run_step] at h

theorem Reaches.runs {w v : World ε τ} {x : Point} (reaches : r.Reaches w x v) :
    r.Runs x v (r.start.run w) := by
  suffices ∀ b, Relation.ReflTransGen r.Moves (entry, w) b → r.Runs b.1 b.2 (r.start.run w) from
    this (x, v) reaches
  intro b reaches
  induction reaches with
  | refl => exact start_runs w
  | tail _ moves ih => exact Moves.runs moves ih

theorem Reaches.move {w v u : World ε τ} {x y : Point} (reaches : r.Reaches w x v)
    (moves : r.Moves (x, v) (y, u)) : r.Reaches w y u :=
  reaches.tail moves

/-- What holds at the entry and passes from point to point holds wherever a run comes. -/
theorem Reaches.invariant {I : Point → World ε τ → Prop} {w v : World ε τ} {x : Point}
    (reaches : r.Reaches w x v) (start : I entry w)
    (step : ∀ {x v y u}, I x v → r.Moves (x, v) (y, u) → I y u) : I x v := by
  suffices ∀ b, Relation.ReflTransGen r.Moves (entry, w) b → I b.1 b.2 from this (x, v) reaches
  intro b reaches
  induction reaches with
  | refl => exact start
  | tail _ moves ih => exact step ih moves

/-- A run ends at a point that it reaches: with what the step there gives, or by recovering from
the fault that it raises. -/
theorem start_ends (w : World ε τ) :
    ∃ x v, r.Reaches w x v ∧
      ((∃ e u, (r.step x).run v = (.ok (.inr e), u) ∧ r.start.run w = (.ok e, u)) ∨
        ∃ fault u, (r.step x).run v = (.error fault, u) ∧
          r.start.run w = (r.recover x.progress fault).run u) := by
  suffices ∀ x v z, r.Runs x v z → r.Reaches w x v → ∃ x v, r.Reaches w x v ∧
      ((∃ e u, (r.step x).run v = (.ok (.inr e), u) ∧ z = (.ok e, u)) ∨
        ∃ fault u, (r.step x).run v = (.error fault, u) ∧
          z = (r.recover x.progress fault).run u) from
    this _ _ _ (start_runs w) .refl
  intro x v z runs
  induction runs with
  | ends h => exact fun reaches => ⟨_, _, reaches, .inl ⟨_, _, h, rfl⟩⟩
  | caught h => exact fun reaches => ⟨_, _, reaches, .inr ⟨_, _, h, rfl⟩⟩
  | goes moves _ ih => exact fun reaches => ih (reaches.move moves)

omit [Outside ε τ] [TimeScale τ] in
private theorem run_bind_inl_iff {α : Type} {act : Action ε τ α} {f : α → Point}
    {v u : World ε τ} {y : Point} :
    (act >>= fun a => (pure (.inl (f a)) : Action ε τ (Point ⊕ Ending))).run v =
        (.ok (.inl y), u) ↔
      ∃ a, act.run v = (.ok a, u) ∧ y = f a := by
  rw [Action.run_bind]
  rcases act.run v with ⟨fault | a, t⟩
  · simp
  · simp only [Action.andThen_ok, Action.run_pure, Prod.mk.injEq, Except.ok.injEq, Sum.inl.injEq]
    constructor
    · rintro ⟨rfl, rfl⟩
      exact ⟨a, ⟨rfl, rfl⟩, rfl⟩
    · rintro ⟨b, ⟨rfl, rfl⟩, rfl⟩
      exact ⟨rfl, rfl⟩

theorem moves_iff {x y : Point} {v u : World ε τ} :
    r.Moves (x, v) (y, u) ↔
      match x.task with
      | .look => ∃ first, (r.look r.attempt.strategy r.attempt.value).run v = (.ok first, u) ∧
          y = r.afterLook x.progress first
      | .log first => r.logUsage.run v = (.ok (), u) ∧ y = ⟨.close first, x.progress⟩
      | .ask first => ∃ answer, r.request.run v = (.ok answer, u) ∧
          y = afterAsk x.progress first answer
      | .script first script => (r.runScript script).run v = (.ok (), u) ∧
          y = ⟨.poll first, x.progress.enter .pollResult⟩
      | .poll first => ∃ found, r.poll.run v = (.ok found, u) ∧
          y = afterPoll x.progress first found
      | .retry first healed => ∃ second, (r.tryHealed healed).run v = (.ok second, u) ∧
          y = afterRetry x.progress first second
      | .close _ => False := by
  obtain ⟨task, p⟩ := x
  unfold Moves step
  cases task with
  | look => exact run_bind_inl_iff
  | log first => exact run_bind_inl_iff.trans ⟨fun ⟨(), h⟩ => h, fun h => ⟨(), h⟩⟩
  | ask first => exact run_bind_inl_iff
  | script first script => exact run_bind_inl_iff.trans ⟨fun ⟨(), h⟩ => h, fun h => ⟨(), h⟩⟩
  | poll first => exact run_bind_inl_iff
  | retry first healed => exact run_bind_inl_iff
  | close outcome =>
    rcases h : (r.finish p outcome).run v with ⟨fault | e, t⟩
    · rw [Action.run_bind_error h]
      simp
    · rw [Action.run_bind_ok h]
      simp

/-- What all moves have in common: none leads back to the first lookup, the trail grows, and the
first outcome stays what it is. -/
structure Onward (x y : Point) : Prop where
  later : y.task ≠ .look
  grows : ∃ more, y.progress.trail = x.progress.trail ++ more
  first : x.task ≠ .look → y.progress.first = x.progress.first

theorem Moves.onward {x y : Point} {v u : World ε τ} (moves : r.Moves (x, v) (y, u)) :
    Onward x y := by
  have does := moves_iff.1 moves
  obtain ⟨task, p⟩ := x
  cases task with
  | look =>
    obtain ⟨first, -, rfl⟩ := does
    unfold afterLook
    split
    · exact ⟨Task.noConfusion, ⟨_, rfl⟩, absurd rfl⟩
    split
    · exact ⟨Task.noConfusion, ⟨_, rfl⟩, absurd rfl⟩
    · exact ⟨Task.noConfusion, ⟨_, rfl⟩, absurd rfl⟩
  | log first =>
    obtain ⟨-, rfl⟩ := does
    exact ⟨Task.noConfusion, ⟨[], (List.append_nil _).symm⟩, fun _ => rfl⟩
  | ask first =>
    obtain ⟨answer, -, rfl⟩ := does
    cases answer with
    | none => exact ⟨Task.noConfusion, ⟨_, rfl⟩, fun _ => rfl⟩
    | some script => exact ⟨Task.noConfusion, ⟨_, rfl⟩, fun _ => rfl⟩
  | script first script =>
    obtain ⟨-, rfl⟩ := does
    exact ⟨Task.noConfusion, ⟨_, rfl⟩, fun _ => rfl⟩
  | poll first =>
    obtain ⟨found, -, rfl⟩ := does
    cases found with
    | none => exact ⟨Task.noConfusion, ⟨_, rfl⟩, fun _ => rfl⟩
    | some healed => exact ⟨Task.noConfusion, ⟨_, rfl⟩, fun _ => rfl⟩
  | retry first healed =>
    obtain ⟨second, -, rfl⟩ := does
    unfold afterRetry
    split
    · exact ⟨Task.noConfusion, ⟨_, rfl⟩, fun _ => rfl⟩
    · exact ⟨Task.noConfusion, ⟨_, rfl⟩, fun _ => rfl⟩
  | close outcome => exact does.elim

omit [Outside ε τ] [TimeScale τ] in
private theorem first_afterLook (p : Progress) (first : Outcome) :
    (r.afterLook p first).progress.first = some first := by
  unfold afterLook
  split
  · rfl
  split
  · rfl
  · rfl

/-- The first outcome is what the first lookup gives, and stays so. -/
theorem Moves.first {x y : Point} {v u : World ε τ} (moves : r.Moves (x, v) (y, u)) :
    x.task = .look ∧ (∃ first, y.progress.first = some first ∧
        (r.look r.attempt.strategy r.attempt.value).run v = (.ok first, u)) ∨
      x.task ≠ .look ∧ y.progress.first = x.progress.first := by
  by_cases looks : x.task = .look
  · obtain ⟨task, p⟩ := x
    obtain rfl : task = .look := looks
    obtain ⟨first, looked, rfl⟩ := moves_iff.1 moves
    exact .inl ⟨rfl, first, first_afterLook p first, looked⟩
  · exact .inr ⟨looks, (Moves.onward moves).first looks⟩

theorem Reaches.at_look {w v : World ε τ} {x : Point} (reaches : r.Reaches w x v)
    (looks : x.task = .look) : x = entry ∧ v = w := by
  obtain same | ⟨⟨y, u⟩, -, moves⟩ := Relation.ReflTransGen.cases_tail reaches
  · cases same
    exact ⟨rfl, rfl⟩
  · exact absurd looks (Moves.onward moves).later

end Run

end LocatorHealing.Healing
