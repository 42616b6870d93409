import LocatorHealing.Proofs.Healing.Parts
import LocatorHealing.Proofs.Healing.Steady
import LocatorHealing.Proofs.Session.Lookup
import LocatorHealing.Proofs.Still

set_option autoImplicit false
set_option relaxedAutoImplicit false

/-!
Healing fails open. In steady surroundings a lookup through the intercepting middleware ends as the
driver's own lookup does, whatever service, scripts and disk answer and raise. There is one way to
end otherwise: where healing is wanted and enabled and the lookup fails, with the element of a
locator that polling has found.
-/

namespace LocatorHealing.Healing

variable {ε τ : Type}

namespace Run

variable [Outside ε τ] [TimeScale τ]

/-- The page has an element for a locator that polling finds, once the lookup itself has failed with
a fault of the driver and healing is wanted and enabled. -/
structure Heals (r : Run ε τ) (page : Json → Json → Except Fault Element) (w : World ε τ)
    (element : Element) : Prop where
  may : r.mayHeal = true
  missed : ∃ fault, page r.attempt.strategy r.attempt.value = .error fault ∧
    fault.isDriver = true
  found : ∃ healed, r.Polls w healed ∧
    page (.str healed.strategy) (.str healed.value) = .ok element

/-- An answer is the page's own, or the element of a healed locator. -/
def Fair (r : Run ε τ) (page : Json → Json → Except Fault Element) (w : World ε τ)
    (answer : Except Fault Element) : Prop :=
  answer = page r.attempt.strategy r.attempt.value ∨
    ∃ element, r.Heals page w element ∧ answer = .ok element

/-- The lookup itself fails as the page does, and may be healed. -/
structure Missed (r : Run ε τ) (page : Json → Json → Except Fault Element) (first : Outcome) :
    Prop where
  may : r.mayHeal = true
  failed : first.isFailure = true
  comes : Outcome.ofDriver (page r.attempt.strategy r.attempt.value) = .ok first

/-- What a run has in hand for its task is what the page and polling gave. -/
def Task.Sound (r : Run ε τ) (page : Json → Json → Except Fault Element) (w : World ε τ) :
    Task → Prop
  | .look => True
  | .log first => Outcome.ofDriver (page r.attempt.strategy r.attempt.value) = .ok first
  | .ask first => r.Missed page first
  | .script first _ => r.Missed page first
  | .poll first => r.Missed page first
  | .retry first healed => r.Missed page first ∧ r.Polls w healed
  | .close outcome => r.Fair page w outcome.orRaise

/-- Where a run stands in steady surroundings. -/
structure Stands (r : Run ε τ) (page : Json → Json → Except Fault Element) (P : ε → Prop)
    (w : World ε τ) (x : Point) (v : World ε τ) : Prop where
  reaches : r.Reaches w x v
  calm : v.Calm P r.session
  sound : Task.Sound r page w x.task
  /-- The first outcome is the page's, and is there once the first lookup is made. -/
  first : match x.progress.first with
    | none => x.task = .look
    | some first => first.orRaise = page r.attempt.strategy r.attempt.value

variable {r : Run ε τ} {page : Json → Json → Except Fault Element} {P : ε → Prop}
  {w v u : World ε τ} {x y : Point}

private theorem within_staysCalm (steady : Steady r.healing.service r.session page P)
    (plain : r.look = Session.driverLookup r.session) :
    r.Within (World.StaysCalm P r.session) where
  toActs := .of_asks frame_staysCalm (plain ▸ steady.keeps_driverLookup)
    (fun inquiry _ => StaysCalm.ask (steady.inquiries inquiry)) steady.keeps_execute
    fun _ => StaysCalm.note _
  audits := steady.auditKeeps

private theorem run_look (steady : Steady r.healing.service r.session page P)
    (plain : r.look = Session.driverLookup r.session) (calm : v.Calm P r.session)
    (strategy value : Json) :
    ((r.look strategy value).run v).1 = Outcome.ofDriver (page strategy value) := by
  rw [plain]
  exact steady.run_driverLookup calm strategy value

private theorem Missed.fair {first : Outcome} (missed : r.Missed page first) :
    r.Fair page w first.orRaise :=
  .inl (Outcome.orRaise_of_ofDriver missed.comes)

private theorem sound_moves (steady : Steady r.healing.service r.session page P)
    (plain : r.look = Session.driverLookup r.session) (stands : r.Stands page P w x v)
    (moves : r.Moves (x, v) (y, u)) : Task.Sound r page w y.task := by
  have does := moves_iff.1 moves
  obtain ⟨task, p⟩ := x
  cases task with
  | look =>
    obtain ⟨first, looked, rfl⟩ := does
    have comes : Outcome.ofDriver (page r.attempt.strategy r.attempt.value) = .ok first := by
      rw [← run_look steady plain stands.calm, looked]
    unfold afterLook
    split
    · exact comes
    case isFalse failed =>
      split
      case isTrue may => exact ⟨may, by simpa using failed, comes⟩
      case isFalse => exact .inl (Outcome.orRaise_of_ofDriver comes)
  | log first =>
    obtain ⟨-, rfl⟩ := does
    exact .inl (Outcome.orRaise_of_ofDriver stands.sound)
  | ask first =>
    obtain ⟨answer, -, rfl⟩ := does
    cases answer with
    | none => exact Missed.fair stands.sound
    | some script => exact stands.sound
  | script first script =>
    obtain ⟨-, rfl⟩ := does
    exact stands.sound
  | poll first =>
    obtain ⟨found, polled, rfl⟩ := does
    cases found with
    | none => exact Missed.fair stands.sound
    | some healed => exact ⟨stands.sound, first, p, v, u, stands.reaches, polled⟩
  | retry first healed =>
    obtain ⟨second, tried, rfl⟩ := does
    obtain ⟨missed, polls⟩ := stands.sound
    unfold afterRetry
    split
    · exact missed.fair
    case isFalse found =>
      obtain ⟨-, t, looked⟩ := tryHealed_ok tried
      have comes : Outcome.ofDriver (page (.str healed.strategy) (.str healed.value)) =
          .ok second := by
        rw [← run_look steady plain stands.calm, looked]
      cases second with
      | failed fault => exact absurd rfl found
      | found element =>
        obtain ⟨fault, missing, driver⟩ := Outcome.driver_of_isFailure missed.comes missed.failed
        have healedTo := Outcome.orRaise_of_ofDriver comes
        exact .inr ⟨element, ⟨missed.may, ⟨fault, missing, driver⟩, healed, polls, healedTo.symm⟩,
          rfl⟩
  | close outcome => exact does.elim

private theorem first_moves (steady : Steady r.healing.service r.session page P)
    (plain : r.look = Session.driverLookup r.session) (stands : r.Stands page P w x v)
    (moves : r.Moves (x, v) (y, u)) :
    ∃ first, y.progress.first = some first ∧
      first.orRaise = page r.attempt.strategy r.attempt.value := by
  obtain ⟨-, first, kept, looked⟩ | ⟨later, kept⟩ := moves.first
  · refine ⟨first, kept, Outcome.orRaise_of_ofDriver ?_⟩
    rw [← run_look steady plain stands.calm, looked]
  · have had := stands.first
    rw [kept]
    cases first : x.progress.first with
    | none =>
      rw [first] at had
      exact absurd had later
    | some outcome =>
      rw [first] at had
      exact ⟨outcome, rfl, had⟩

/-- A run in steady surroundings stands soundly wherever it comes. -/
theorem Reaches.stands (steady : Steady r.healing.service r.session page P)
    (plain : r.look = Session.driverLookup r.session) (calm : w.Calm P r.session)
    (reaches : r.Reaches w x v) : r.Stands page P w x v := by
  refine reaches.invariant ?_ ?_
  · exact ⟨.refl, calm, trivial, rfl⟩
  · intro x v y u stands moves
    obtain ⟨first, kept, comes⟩ := first_moves steady plain stands moves
    refine ⟨stands.reaches.move moves, ?_, sound_moves steady plain stands moves, ?_⟩
    · exact (within_staysCalm steady plain).moves moves stands.calm
    · rw [kept]
      exact comes

private theorem start_fair (steady : Steady r.healing.service r.session page P)
    (plain : r.look = Session.driverLookup r.session) (calm : w.Calm P r.session) {e : Ending}
    (ends : r.start.run w = (.ok e, u)) : r.Fair page w e.outcome.orRaise := by
  obtain ⟨x, v, came, ⟨e', t, stepped, ended⟩ | ⟨fault, t, raised, recovers⟩⟩ :=
    start_ends (r := r) w
  · rw [ended] at ends
    cases ends
    obtain ⟨outcome, closes, rfl⟩ := step_ends stepped
    have sound := (came.stands steady plain calm).sound
    rw [closes] at sound
    exact sound
  · rw [recovers] at ends
    have stands := came.stands steady plain calm
    obtain ⟨-, ⟨-, keeps⟩ | ⟨-, log, t', looked⟩⟩ := recover_ok ends
    · rw [keeps]
      have had := stands.first
      cases first : x.progress.first with
      | some outcome =>
        rw [first] at had
        exact .inl had
      | none =>
        -- No lookup has come to an outcome, so the fault is that of the first one.
        rw [first] at had
        obtain ⟨task, p⟩ := x
        obtain rfl : task = .look := had
        refine .inl (Outcome.answer_of_ofDriver ?_).symm
        rw [← run_look steady plain stands.calm, step_look_error raised]
    · have left : t.Calm P r.session := by
        have kept := (within_staysCalm steady plain).step x v stands.calm
        rwa [raised] at kept
      have comes : Outcome.ofDriver (page r.attempt.strategy r.attempt.value) =
          .ok e.outcome := by
        rw [← run_look steady plain (v := { t with log }) left, looked]
      exact .inl (Outcome.orRaise_of_ofDriver comes)

end Run

end LocatorHealing.Healing

namespace LocatorHealing.Session

open Healing

variable {ε τ : Type} [Outside ε τ] [TimeScale τ] {P : ε → Prop} {key : String}
  {page : Json → Json → Except Fault Element} {w : World ε τ}

private theorem run_findElement_bare {service : Service ε τ}
    (steady : Steady service key page P) (calm : w.Calm P key) (strategy value : Json) :
    ((findElement key strategy value).run (w.bare key)).1 = page strategy value := by
  have bare : (w.bare key).Calm P key := by
    refine ⟨calm.1, ?_⟩
    rw [World.sessions_bare]
    exact calm.2
  have answered := steady.run_driverLookup bare strategy value
  rcases looked : (driverLookup key strategy value).run (w.bare key) with ⟨fault | outcome, v⟩
  · rw [looked] at answered
    have lookup := (run_lookup_bare key strategy value w).trans looked
    rw [findElement, Action.run_bind_error lookup, Outcome.answer_of_ofDriver answered.symm]
  · rw [looked] at answered
    have lookup := (run_lookup_bare key strategy value w).trans looked
    rw [findElement, Action.run_bind_ok lookup, Action.run_ofExcept]
    exact Outcome.orRaise_of_ofDriver answered.symm

private theorem run_settled {service : Service ε τ} (steady : Steady service key page P)
    (calm : w.Calm P key) (strategy value : Json) :
    ∃ outcome v, (Outcome.settled (driverLookup key strategy value)).run w = (.ok outcome, v) ∧
      outcome.orRaise = page strategy value := by
  have answered := steady.run_driverLookup calm strategy value
  rcases looked : (driverLookup key strategy value).run w with ⟨fault | outcome, v⟩
  · rw [looked] at answered
    refine ⟨_, v, Outcome.run_settled_error looked, ?_⟩
    exact (Outcome.answer_of_ofDriver answered.symm).symm
  · rw [looked] at answered
    refine ⟨_, v, Outcome.run_settled_ok looked, ?_⟩
    exact Outcome.orRaise_of_ofDriver answered.symm

private theorem run_findElement {outcome : Outcome} {v : World ε τ} {strategy value : Json}
    (looked : (lookup key strategy value).run w = (.ok outcome, v)) :
    ((findElement key strategy value).run w).1 = outcome.orRaise := by
  rw [findElement, Action.run_bind_ok looked, Action.run_ofExcept]

private theorem run_fair {h : Healing ε τ} {options : HealingOptions} {attempt : LocatorAttempt}
    {r : Run ε τ} (ready : h.runOf (driverLookup key) key attempt options = .ok r)
    (steady : Steady h.service key page P) (calm : w.Calm P key) :
    (r.start.run w).2.Calm P key ∧
      ∀ e u, r.start.run w = (.ok e, u) → r.Fair page w e.outcome.orRaise := by
  obtain ⟨report, -, rfl⟩ := runOf_ok ready
  let r : Run ε τ := ⟨h, options, key, attempt, report, driverLookup key⟩
  exact ⟨(Run.within_staysCalm (r := r) steady rfl).start w calm,
    fun e u => Run.start_fair (r := r) steady rfl calm⟩

/-- In steady surroundings an intercepted lookup gives the element or raises the fault that the same
session without the middleware does. Only a lookup that fails with a fault of the driver, where
healing is wanted and enabled, may give the element of a locator found by polling instead. -/
theorem findElement_fails_open {h : Healing ε τ} {options : HealingOptions}
    (steady : Steady h.service key page P) (calm : w.Calm P key)
    (installed : (w.sessions key).middlewares =
      [(interceptorName, .intercepting (.healing h) options)]) (strategy value : Json) :
    ((findElement key strategy value).run w).1 =
        ((findElement key strategy value).run (w.bare key)).1 ∨
      options.selfHeal = true ∧ h.auth.isHealingEnabled = some true ∧
        ∃ fault r healed element,
          ((findElement key strategy value).run (w.bare key)).1 = .error fault ∧
          fault.isDriver = true ∧
          h.runOf (driverLookup key) key ⟨strategy, value, (w.sessions key).sessionId⟩ options =
            .ok r ∧
          r.Polls w healed ∧
          page (.str healed.strategy) (.str healed.value) = .ok element ∧
          ((findElement key strategy value).run w).1 = .ok element := by
  rw [run_findElement_bare steady calm]
  -- Wherever the protocol raises a fault, the driver is asked once more, and answers as it does.
  have falls {fault : Fault} {v : World ε τ} (quiet : v.Calm P key)
      (raised : ((Protocol.healing h).run (driverLookup key) key
        ⟨strategy, value, (w.sessions key).sessionId⟩ options).run w = (.error fault, v)) :
      ((findElement key strategy value).run w).1 = page strategy value := by
    obtain ⟨log, falls⟩ := Protocol.run_intercept_error raised
    obtain ⟨outcome, u, settled, comes⟩ :=
      run_settled (w := { v with log }) steady quiet strategy value
    rw [run_findElement ((run_lookup_intercepted installed _ _).trans (falls.trans settled)), comes]
  cases ready : h.runOf (driverLookup key) key
      ⟨strategy, value, (w.sessions key).sessionId⟩ options with
  | error fault =>
    exact .inl (falls calm (run_refused ready))
  | ok r =>
    obtain ⟨left, fair⟩ := run_fair ready steady calm
    rcases ran : r.start.run w with ⟨fault | e, v⟩
    · rw [ran] at left
      exact .inl (falls left (run_raised ready ran))
    · have gives : ((findElement key strategy value).run w).1 = e.outcome.orRaise := by
        refine run_findElement (v := v) ?_
        rw [run_lookup_intercepted installed]
        exact Protocol.run_intercept_ok (run_ended ready ran)
      rw [gives]
      have ended := fair e v ran
      obtain ⟨report, -, rfl⟩ := runOf_ok ready
      obtain same | ⟨element, heals, healed⟩ := ended
      · exact .inl same
      · obtain ⟨may, ⟨fault, missed, driver⟩, locator, polls, found⟩ := heals
        have wanted : options.selfHeal = true ∧ h.auth.isHealingEnabled = some true := by
          simpa [Run.mayHeal] using may
        exact .inr ⟨wanted.1, wanted.2, fault, _, locator, element, missed, driver, rfl, polls,
          found, healed⟩

private theorem run_findElement_mending :
    ((findElement "s" (.str "id") (.str "old")).run
      ((Manner.mending "new").world { isHealingEnabled := some true } { selfHeal := true }
        none "new")).1 = .ok ⟨.str "id", .str "new"⟩ := by
  with_unfolding_all rfl

/-- Where the page has only `new`, which the service heals to, a lookup of `old` gives it. -/
theorem findElement_fails_open_mending :
    let h := (Manner.mending "new").healing { isHealingEnabled := some true }
    let options : HealingOptions := { selfHeal := true }
    let w := (Manner.mending "new").world { isHealingEnabled := some true } options none "new"
    let old : LocatorAttempt := ⟨.str "id", .str "old", .str "s1"⟩
    Steady h.service "s" (Still.answerOf (Still.pageWith "new"))
        (fun s => s.page = Still.pageWith "new") ∧
      ∃ r healed element, h.runOf (driverLookup "s") "s" old options = .ok r ∧
        r.Polls w healed ∧
        Still.pageWith "new" (.str healed.strategy) (.str healed.value) = some element ∧
        ((findElement "s" old.strategy old.value).run w).1 = .ok element := by
  intro h options w old
  have steady : Steady h.service "s" (Still.answerOf (Still.pageWith "new"))
      (fun s => s.page = Still.pageWith "new") :=
    Manner.steady (Manner.spares_mending "new" "s") _
  have calm : w.Calm (fun s => s.page = Still.pageWith "new") "s" := ⟨rfl, rfl⟩
  have installed : (w.sessions "s").middlewares =
      [(interceptorName, .intercepting (.healing h) options)] := rfl
  have bare : ((findElement "s" old.strategy old.value).run (w.bare "s")).1 =
      .error (.raised .noSuchElement "no such element" .null) :=
    run_findElement_bare steady calm old.strategy old.value
  refine ⟨steady, ?_⟩
  have fair := findElement_fails_open steady calm installed old.strategy old.value
  rw [run_findElement_mending, bare] at fair
  obtain same | ⟨-, -, _, r, healed, element, -, -, ready, polls, found, gives⟩ := fair
  · cases same
  · refine ⟨r, healed, element, ready, polls, ?_, run_findElement_mending.trans gives⟩
    exact Still.answerOf_ok found

end LocatorHealing.Session
