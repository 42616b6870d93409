import LocatorHealing.Proofs.Files.Append
import LocatorHealing.Proofs.Healing.Trail
import LocatorHealing.Proofs.Json.Printed
import LocatorHealing.Proofs.Session.History
import LocatorHealing.Rehearsal.Stage

set_option autoImplicit false
set_option relaxedAutoImplicit false

/-!
What lookups leave in the audit file. A run that asked for healing and comes to an outcome writes
one record, with that outcome, and nothing else that happens to a session writes any. A run whose
last lookup raises a fault writes none, though it may have asked for healing.
-/

namespace LocatorHealing

open LocatorHealing.Action (Keeps)

variable {ε τ : Type}

namespace World

def SameFiles (w v : World ε τ) : Prop :=
  v.files = w.files ∧ v.timestamp = w.timestamp

private theorem sturdy_sameFiles : Sturdy (SameFiles (ε := ε) (τ := τ)) where
  refl _ := ⟨rfl, rfl⟩
  trans first second := ⟨second.1.trans first.1, second.2.trans first.2⟩
  log _ _ _ := ⟨rfl, rfl⟩
  clock _ _ := ⟨rfl, rfl⟩
  trace _ _ := ⟨rfl, rfl⟩
  outside _ _ := ⟨rfl, rfl⟩
  closes _ _ := ⟨rfl, rfl⟩
  loses _ _ := ⟨rfl, rfl⟩

/-- A file that can be written to has grown, and can be written to still. -/
structure Gains (file : FilePath) (more : List Char) (w v : World ε τ) : Prop where
  octets : v.files.octets file = w.files.octets file ++ Utf8.encode more
  timestamp : v.timestamp = w.timestamp
  writable : v.files.Writable file

variable {file : FilePath} {more rest : List Char} {u v w : World ε τ}

theorem Gains.trans (first : u.Gains file more v) (second : v.Gains file rest w) :
    u.Gains file (more ++ rest) w where
  octets := by
    rw [second.octets, first.octets, List.append_assoc, Utf8.encode, Utf8.encode, Utf8.encode,
      List.flatMap_append]
  timestamp := second.timestamp.trans first.timestamp
  writable := second.writable

theorem SameFiles.gains (same : w.SameFiles v) (writable : w.files.Writable file) :
    w.Gains file [] v where
  octets := by rw [same.1]; exact (List.append_nil _).symm
  timestamp := same.2
  writable := by rwa [same.1]

end World

open World (SameFiles Gains sturdy_sameFiles)

def Audit.linesOf (records : List Record) : List Char :=
  records.flatMap fun r => Text.chars r.line

variable [Outside ε τ]

/-- The disk lets every line be appended to a file. -/
def Accepts (ε : Type) {τ : Type} [Outside ε τ] (file : FilePath) : Prop :=
  ∀ line (s : ε), (Outside.append file.text line s).1 = none

section Write

variable {file : FilePath} (accepts : Accepts ε file) {w : World ε τ}
  (writable : w.files.Writable file)
include accepts writable

theorem Audit.run_write (record : Audit.Record) :
    ∃ v, (Audit.write file record).run w = (.ok (), v) ∧
      w.Gains file (Text.chars record.line) v := by
  obtain ⟨files, appended, octets, still⟩ := writable.append (Utf8.octets record.line)
  have passes := accepts record.line w.outside
  refine ⟨{ w with files, outside := (Outside.append file.text record.line w.outside).2 }, ?_,
    octets, rfl, still⟩
  simp [Audit.write, passes, appended]

end Write

namespace Healing.Run

variable {file : FilePath} {r : Run ε τ} {w v u : World ε τ} {p : Progress} {outcome : Outcome}

def record? (r : Run ε τ) (timestamp : String) (e : Ending) : Option Audit.Record :=
  if e.progress.trail.contains .attemptHeal then some (r.record e.progress timestamp e.outcome)
  else none

/-- What becomes of a run in the files: it leaves its record if it ends, and nothing if it raises a
fault. -/
def Leaves (r : Run ε τ) (file : FilePath) (w : World ε τ) : Except Fault Ending × World ε τ → Prop
  | (.ok e, v) => w.Gains file (Audit.linesOf (r.record? w.timestamp e).toList) v
  | (.error _, v) => w.SameFiles v

section Ends

variable (accepts : Accepts ε file) (audited : r.healing.auditFile = some file)
include accepts audited

private theorem run_audit (writable : w.files.Writable file) (p : Progress) (outcome : Outcome) :
    ∃ v, (r.audit p outcome).run w = (.ok (), v) ∧
      w.Gains file (Audit.linesOf (r.record? w.timestamp ⟨p, outcome⟩).toList) v := by
  unfold audit record?
  rw [audited]
  dsimp only
  split
  · obtain ⟨v, written, gains⟩ :=
      Audit.run_write accepts writable (r.record p w.timestamp outcome)
    refine ⟨v, by simp [written], ?_⟩
    simpa [Audit.linesOf] using gains
  · exact ⟨w, rfl, (sturdy_sameFiles.refl w).gains writable⟩

private theorem run_finish (writable : w.files.Writable file) (p : Progress) (outcome : Outcome) :
    ∃ v, (r.finish p outcome).run w = (.ok ⟨p, outcome⟩, v) ∧
      w.Gains file (Audit.linesOf (r.record? w.timestamp ⟨p, outcome⟩).toList) v := by
  obtain ⟨log, logged⟩ := Action.run_log .debug
    ("Lookup " ++ r.report.strategy ++ "=" ++ r.report.value ++ " on session " ++
      r.report.sessionId.display ++ " finished: " ++ " -> ".intercalate (p.trail.map State.name)) w
  obtain ⟨v, ran, gains⟩ := run_audit accepts audited (w := { w with log }) writable p outcome
  exact ⟨v, (Action.run_bind_ok logged).trans (Action.run_bind_ok ran),
    gains.octets, gains.timestamp, gains.writable⟩

variable (looks : ∀ strategy value, Keeps SameFiles (r.look strategy value))
include looks

private theorem run_recover (writable : w.files.Writable file) (p : Progress) (fault : Fault) :
    r.Leaves file w ((r.recover p fault).run w) := by
  obtain ⟨level, message, same, -⟩ := recover_eq (r := r) p fault
  obtain ⟨log, logged⟩ := Action.run_log level message w
  rw [same, Action.run_bind_ok logged]
  unfold fallBack
  split
  · obtain ⟨v, finished, gains⟩ := run_finish accepts audited (w := { w with log }) writable
      (p.enter .returnFirstFailure) (p.first.getD (.failed fault))
    rw [finished]
    exact ⟨gains.octets, gains.timestamp, gains.writable⟩
  · have looked := looks r.attempt.strategy r.attempt.value { w with log }
    rcases again : (r.look r.attempt.strategy r.attempt.value).run { w with log } with
      ⟨other | outcome, v⟩
    · rw [again] at looked
      rw [Action.run_bind_error again]
      exact looked
    · rw [again] at looked
      have writable' : v.files.Writable file := by rwa [looked.1]
      obtain ⟨u, finished, gains⟩ := run_finish accepts audited writable'
        (p.enter .returnFirstFailure) outcome
      rw [Action.run_bind_ok again, finished]
      have first : w.SameFiles v := looked
      have all := (first.gains writable).trans gains
      rwa [first.2, List.nil_append] at all

variable [TimeScale τ]

private theorem start_leaves (writable : w.files.Writable file) :
    r.Leaves file w (r.start.run w) := by
  have acts : r.Acts SameFiles := Session.acts_of_sturdy sturdy_sameFiles looks
  have after {v : World ε τ} (first : w.SameFiles v) {z : Except Fault Ending × World ε τ}
      (leaves : r.Leaves file v z) : r.Leaves file w z := by
    obtain ⟨ended | e, u⟩ := z
    · exact sturdy_sameFiles.trans first leaves
    · have all := (first.gains writable).trans leaves
      rwa [first.2, List.nil_append] at all
  obtain ⟨x, v, came, ⟨e, u, stepped, ended⟩ | ⟨fault, u, raised, recovers⟩⟩ :=
    start_ends (r := r) w
  · have first := acts.reaches came
    have writable' : v.files.Writable file := by rwa [first.1]
    obtain ⟨outcome, closes, rfl⟩ := step_ends stepped
    obtain ⟨t, finished, gains⟩ := run_finish accepts audited writable' x.progress outcome
    unfold step at stepped
    rw [closes, Action.run_bind_ok finished] at stepped
    cases stepped
    rw [ended]
    exact after first gains
  · have first := acts.reaches came
    have writable' : v.files.Writable file := by rwa [first.1]
    have goes (outcome : Outcome) : x.task ≠ .close outcome := by
      intro closes
      obtain ⟨t, finished, -⟩ := run_finish accepts audited writable' x.progress outcome
      unfold step at raised
      rw [closes, Action.run_bind_ok finished] at raised
      cases raised
    have second := acts.step goes v
    rw [raised] at second
    have writable'' : u.files.Writable file := by rwa [second.1]
    rw [recovers]
    exact after (sturdy_sameFiles.trans first second)
      (run_recover accepts audited looks writable'' x.progress fault)

end Ends

end Healing.Run

/-- A lookup that reaches the intercepting middleware of a session, with what its healing is and
the middlewares of the user's own that stand behind it, of which the first is entered first. -/
structure Interception (ε τ : Type) where
  healing : Healing ε τ
  options : HealingOptions
  session : String
  behind : List (String × Behaviour)
  strategy : Json
  value : Json

namespace Interception

variable [TimeScale τ] (i : Interception ε τ) {w : World ε τ}

def middlewares : List (String × Middleware ε τ) :=
  i.behind.map fun p => (p.1, .custom p.2)

def look : Json → Json → Action ε τ Outcome :=
  Session.lookupThrough i.session i.middlewares

def run : Action ε τ Outcome :=
  (Protocol.healing i.healing).intercept i.options i.session i.look i.strategy i.value

def attempt (w : World ε τ) : LocatorAttempt :=
  ⟨i.strategy, i.value, (w.sessions i.session).sessionId⟩

def runOf (w : World ε τ) : Except Fault (Healing.Run ε τ) :=
  i.healing.runOf i.look i.session (i.attempt w) i.options

def record? (w : World ε τ) : Option Audit.Record :=
  match i.runOf w with
  | .error _ => none
  | .ok r =>
    match (r.start.run w).1 with
    | .error _ => none
    | .ok e => r.record? w.timestamp e

def Heals (w : World ε τ) : Prop :=
  ∃ r, i.runOf w = .ok r ∧ r.Earns w .attemptHeal

/-- Healing ends with a fault, and the lookup is made without it. -/
def Breaks (w : World ε τ) : Prop :=
  ∃ fault v, (i.healing.run i.look i.session (i.attempt w) i.options).run w = (.error fault, v)

private theorem keeps_look (strategy value : Json) : Keeps SameFiles (i.look strategy value) := by
  have hR := sturdy_sameFiles (ε := ε) (τ := τ)
  unfold look middlewares
  induction i.behind generalizing strategy value with
  | nil => exact Session.keeps_driverLookup hR i.session strategy value
  | cons p rest ih =>
    exact hR.keeps_bind (hR.keeps_note _) fun _ => Session.keeps_behaviour hR.toFrame ih p.2 _ _

variable {i}

private theorem run_of_broken {fault : Fault} {v : World ε τ}
    (broken : (i.healing.run i.look i.session (i.attempt w) i.options).run w = (.error fault, v)) :
    ∃ outcome u, i.run.run w = (.ok outcome, u) ∧ v.SameFiles u := by
  obtain ⟨log, recovered⟩ := Protocol.run_intercept_error (p := .healing i.healing) broken
  have looked := i.keeps_look i.strategy i.value { v with log }
  rcases again : (i.look i.strategy i.value).run { v with log } with ⟨other | outcome, u⟩
  · rw [again] at looked
    exact ⟨_, u, recovered.trans (Outcome.run_settled_error again), looked⟩
  · rw [again] at looked
    exact ⟨outcome, u, recovered.trans (Outcome.run_settled_ok again), looked⟩

variable {file : FilePath} (accepts : Accepts ε file)
  (audited : i.healing.auditFile = some file) (writable : w.files.Writable file)
include accepts audited writable

omit [TimeScale τ] writable in
theorem auditsPlainly (fit : FileTree.unfit? file = none) : i.healing.AuditsPlainly := by
  refine Healing.auditsPlainly_of_fit (fun other there => ?_)
    (fun other there line s fault refused => ?_)
  · obtain rfl := Option.some.inj (audited.symm.trans there)
    exact fit
  · obtain rfl := Option.some.inj (audited.symm.trans there)
    rw [accepts] at refused
    cases refused

/-- A lookup comes to an outcome and leaves its record, which there is just if the lookup asked for
healing and healing did not end with a fault; it tells of success just if the outcome is none of
failure. -/
private theorem run_leaves :
    ∃ outcome v, i.run.run w = (.ok outcome, v) ∧
      w.Gains file (Audit.linesOf (i.record? w).toList) v ∧
      ((i.record? w).isSome = true ↔ i.Heals w ∧ ¬i.Breaks w) ∧
      ∀ record, i.record? w = some record → record.success = !outcome.isFailure := by
  cases ready : i.runOf w with
  | error fault =>
    have refused := Healing.run_refused (w := w) ready
    have none : i.record? w = none := by rw [record?, ready]
    obtain ⟨outcome, v, ran, same⟩ := run_of_broken refused
    refine ⟨outcome, v, ran, ?_, ?_, ?_⟩
    · rw [none]
      exact same.gains writable
    · simp [none, Heals, ready]
    · simp [none]
  | ok r =>
    have heals : i.Heals w ↔ r.Earns w .attemptHeal := by simp [Heals, ready]
    obtain ⟨report, -, same⟩ := Healing.runOf_ok ready
    have healing : r.healing = i.healing := by rw [same]
    have looks : r.look = i.look := by rw [same]
    have leaves := Healing.Run.start_leaves accepts (r := r) (healing ▸ audited)
      (looks ▸ i.keeps_look) writable
    rcases ended : r.start.run w with ⟨fault | e, v⟩
    · rw [ended] at leaves
      have broken := Healing.run_raised ready ended
      have none : i.record? w = none := by simp only [record?, ready, ended]
      obtain ⟨outcome, u, ran, same⟩ := run_of_broken broken
      refine ⟨outcome, u, ran, ?_, ?_, ?_⟩
      · rw [none]
        exact (sturdy_sameFiles.trans leaves same).gains writable
      · rw [none]
        exact iff_of_false nofun fun both => both.2 ⟨fault, v, broken⟩
      · simp [none]
    · rw [ended] at leaves
      have handed := Healing.run_ended ready ended
      have record : i.record? w = r.record? w.timestamp e := by simp only [record?, ready, ended]
      have whole : ¬i.Breaks w := by
        rintro ⟨fault, u, broken⟩
        rw [handed] at broken
        cases broken
      have plainly : r.healing.AuditsPlainly :=
        healing ▸ auditsPlainly accepts audited writable.fit
      refine ⟨e.outcome, v, Protocol.run_intercept_ok (p := .healing i.healing) handed, ?_, ?_, ?_⟩
      · rw [record]
        exact leaves
      · have other : Healing.State.attemptHeal ≠ .returnFirstFailure := nofun
        have on := Healing.Run.mem_trail_iff plainly ended other
        rw [record, heals, ← on]
        simp [Healing.Run.record?, whole]
      · intro left there
        rw [record, Healing.Run.record?] at there
        split at there
        · cases there
          rfl
        · cases there

/-- Where nothing stands behind the intercepting middleware, and the driver raises only its own
faults, healing never ends with a fault in a lookup that asks for it. -/
private theorem not_breaks_of_plain (alone : i.behind = [])
    (finds : Session.FindsPlainly ε i.session) (heals : i.Heals w) : ¬i.Breaks w := by
  rintro ⟨fault, v, broken⟩
  obtain ⟨r, ready, -⟩ := heals
  obtain ⟨report, -, same⟩ := Healing.runOf_ok ready
  have plain : r.look = Session.driverLookup r.session := by
    rw [same]
    change Session.lookupThrough i.session (i.behind.map _) = _
    rw [alone]
    rfl
  have plainly : r.healing.AuditsPlainly := by
    rw [same]
    exact auditsPlainly accepts audited writable.fit
  obtain ⟨e, u, ended, -⟩ := Healing.Run.start_ends_plainly
    (Deed.find.tariff τ r.session r.attempt.strategy r.attempt.value) plain
    (by rw [same]; exact finds) plainly w
  rw [Healing.run_ended ready ended] at broken
  cases broken

omit accepts audited writable in
private theorem run_lookup
    (installed : (w.sessions i.session).middlewares = i.middlewares.reverse ++
      [(Session.interceptorName, .intercepting (.healing i.healing) i.options)]) :
    (Session.lookup i.session i.strategy i.value).run w = i.run.run w := by
  simp [Session.lookup, Action.session, installed, Session.lookupThrough, Middleware.apply, run,
    look]

end Interception

/-- What happens to sessions, seen from an audit file. -/
inductive Occurrence (ε τ : Type) where
  | lookup (i : Interception ε τ)
  /-- Anything else, which leaves the file alone: time that passes, set-ups, sessions that are
  closed or lost. -/
  | meanwhile (change : World ε τ → World ε τ)

namespace Occurrence

variable [TimeScale τ]

def after (w : World ε τ) : Occurrence ε τ → World ε τ
  | lookup i => (i.run.run w).2
  | meanwhile change => change w

def history (w : World ε τ) (occurrences : List (Occurrence ε τ)) : World ε τ :=
  occurrences.foldl after w

/-- Lookups are audited in the file, and nothing else touches it. -/
def Audits (file : FilePath) : Occurrence ε τ → Prop
  | lookup i => i.healing.auditFile = some file
  | meanwhile change => ∀ w, (change w).files.octets file = w.files.octets file ∧
      (w.files.Writable file → (change w).files.Writable file)

def record? (w : World ε τ) : Occurrence ε τ → Option Audit.Record
  | lookup i => i.record? w
  | meanwhile _ => none

def records (w : World ε τ) : List (Occurrence ε τ) → List Audit.Record
  | [] => []
  | o :: rest => (o.record? w).toList ++ records (o.after w) rest

private theorem records_append (w : World ε τ) (before : List (Occurrence ε τ)) (o : Occurrence ε τ)
    (rest : List (Occurrence ε τ)) :
    records w (before ++ o :: rest) = records w before ++ (o.record? (history w before)).toList ++
      records (history (history w before) [o]) rest := by
  induction before generalizing w with
  | nil => rfl
  | cons p before ih =>
    rw [List.cons_append, records, ih, records, List.append_assoc, List.append_assoc,
      List.append_assoc]
    rfl

private theorem audits_deal (file : FilePath) {d : Deal ε τ}
    (other : ∀ key strategy value, d ≠ .lookup key strategy value) :
    Audits file (meanwhile fun w => d.after w) := by
  intro w
  have same : w.SameFiles (d.after w) := by
    have hR := sturdy_sameFiles (ε := ε) (τ := τ)
    cases d with
    | selfHeal k options capabilities target =>
      exact Worker.keeps_selfHeal hR (fun key _ _ => Session.keeps_intercept hR.toFrame fun w =>
        ⟨rfl, rfl⟩) capabilities target w
    | lookup key strategy value => exact absurd rfl (other key strategy value)
    | quit key => exact Session.keeps_quit hR key w
    | lose key => exact hR.keeps_happen (.lose key) w
    | meanwhile clock outside => exact ⟨rfl, rfl⟩
  rw [same.1]
  exact ⟨rfl, id⟩

section History

variable {file : FilePath} (accepts : Accepts ε file)
include accepts

/-- One occurrence adds the lines of its record to the file. -/
private theorem after_leaves {w : World ε τ} (writable : w.files.Writable file) {o : Occurrence ε τ}
    (audits : o.Audits file) :
    (o.after w).files.octets file =
        w.files.octets file ++ Utf8.encode (Audit.linesOf (o.record? w).toList) ∧
      (o.after w).files.Writable file := by
  cases o with
  | lookup i =>
    obtain ⟨outcome, v, ran, gains, -⟩ := Interception.run_leaves accepts audits writable
    have left : (lookup i).after w = v := congrArg Prod.snd ran
    rw [left]
    exact ⟨gains.octets, gains.writable⟩
  | meanwhile change =>
    refine ⟨(audits w).1.trans ?_, (audits w).2 writable⟩
    exact (List.append_nil _).symm

private theorem history_leaves {w : World ε τ} (writable : w.files.Writable file)
    {occurrences : List (Occurrence ε τ)} (audits : ∀ o ∈ occurrences, o.Audits file) :
    (history w occurrences).files.octets file =
        w.files.octets file ++ Utf8.encode (Audit.linesOf (records w occurrences)) ∧
      (history w occurrences).files.Writable file := by
  induction occurrences generalizing w with
  | nil => exact ⟨(List.append_nil _).symm, writable⟩
  | cons o rest ih =>
    obtain ⟨octets, still⟩ := after_leaves accepts writable (audits o List.mem_cons_self)
    obtain ⟨more, last⟩ := ih still fun p there => audits p (List.mem_cons_of_mem o there)
    refine ⟨?_, last⟩
    rw [history, List.foldl_cons, ← history, more, octets, List.append_assoc, records,
      Audit.linesOf, Audit.linesOf, Audit.linesOf, List.flatMap_append, Utf8.encode, Utf8.encode,
      Utf8.encode, List.flatMap_append]

end History

/-- Lookups that ask for healing are audited once each. Over whatever happens to sessions, the audit
file grows by the records of the lookups in their order, each on a line of its own, and by nothing
else. A lookup that asks for healing leaves one record unless healing ends with a fault, and in its
line `success` is true just if the caller's outcome is none of failure; any other lookup leaves
none. Healing does not end with a fault where the driver raises only its own. -/
theorem audited_once {file : FilePath} (accepts : Accepts ε file) {w : World ε τ}
    (writable : w.files.Writable file) {occurrences : List (Occurrence ε τ)}
    (audits : ∀ o ∈ occurrences, o.Audits file) :
    let lines := Audit.linesOf (records w occurrences)
    (history w occurrences).files.octets file = w.files.octets file ++ Utf8.encode lines ∧
    Text.lines lines =
      (records w occurrences).map (fun r => Text.chars (Json.write .spaced r.toJson)) ∧
    ∀ before i rest, occurrences = before ++ .lookup i :: rest →
      let now := history w before
      records w occurrences =
        records w before ++ (i.record? now).toList ++ records (history now [.lookup i]) rest ∧
      ∃ outcome v, i.run.run now = (.ok outcome, v) ∧
        ((now.sessions i.session).middlewares = i.middlewares.reverse ++
            [(Session.interceptorName, .intercepting (.healing i.healing) i.options)] →
          (Session.lookup i.session i.strategy i.value).run now = (.ok outcome, v)) ∧
        (i.Heals now → ¬i.Breaks now →
          ∃ (record : Audit.Record) (m : Members), i.record? now = some record ∧
            record.success = !outcome.isFailure ∧ record.toJson = .obj m ∧
            m.get? "success" = some (.bool !outcome.isFailure)) ∧
        (¬i.Heals now ∨ i.Breaks now → i.record? now = none) ∧
        (i.behind = [] → Session.FindsPlainly ε i.session → i.Heals now → ¬i.Breaks now) := by
  refine ⟨(history_leaves accepts writable audits).1, Audit.lines_records _, ?_⟩
  rintro before i rest rfl now
  have early : ∀ o ∈ before, o.Audits file := fun o there =>
    audits o (List.mem_append_left _ there)
  have audited : i.healing.auditFile = some file :=
    audits (.lookup i) (List.mem_append_right _ List.mem_cons_self)
  have still := (history_leaves accepts writable early).2
  obtain ⟨outcome, v, ran, -, exactly, tells⟩ := Interception.run_leaves accepts audited still
  refine ⟨records_append w before (.lookup i) rest, outcome, v, ran, fun installed => ?_,
    fun heals whole => ?_, fun other => ?_, fun alone finds heals => ?_⟩
  · rw [Interception.run_lookup installed, ran]
  · obtain ⟨record, left⟩ := Option.isSome_iff_exists.1 (exactly.2 ⟨heals, whole⟩)
    have success := tells record left
    refine ⟨record, _, left, success, rfl, ?_⟩
    rw [← success]
    rfl
  · refine Option.not_isSome_iff_eq_none.1 fun left => ?_
    obtain ⟨heals, whole⟩ := exactly.1 left
    exact other.elim (fun not => not heals) whole
  · exact Interception.not_breaks_of_plain accepts audited still alone finds heals

section Staged

open Rehearsal (Stage)

def downService : Service Stage Number where
  call _ := .fail (.refused 500 "down")
  shows_request _ _ shown := by cases shown

/-- The lookup of an element that no page has, while the service is down. -/
def missing : Interception Stage Number where
  healing :=
    { service := downService
      auth := { isHealingEnabled := some true }
      settings :=
        { serviceUrl := "https://healing.test", region := "eu", clientVersion := "1.0"
          eventsUrl := none, requestTimeout := .int 30, pollMaxAttempts := 2
          pollTimeout := .int 60, pollInterval := .int 1, supportedBrowsers := []
          providerDomains := [], firefoxAddon := none, chromeExtension := none
          firstEntryOnly := false, logLevel := .info, auditDirectory := some "/"
          pollMaxAttempts_pos := by decide }
      auditFile := some Manner.auditFile }
  options := { selfHeal := true }
  session := "s"
  behind := []
  strategy := .str "id"
  value := .str "gone"

/-- A world with an empty disk, in which a driver answers lookups by a script. -/
def stagedWorld (finds : List (Rehearsal.Entry (Except Fault Unit))) : World Stage Number where
  clock := .int 0
  timestamp := "2024-01-01T00:00:00+00:00"
  level := .info
  log := []
  trace := []
  sessions _ :=
    { sessionId := .str "s1", capabilities := []
      middlewares := [(Session.interceptorName,
        .intercepting (.healing missing.healing) missing.options)] }
  files := ⟨[], []⟩
  environment := []
  launched := none
  warned := []
  encoded := []
  outside := { drivers := [("s", { finds })] }

theorem accepts_stage (file : FilePath) : Accepts Stage file :=
  fun _ _ => rfl

theorem writable_stagedWorld (finds : List (Rehearsal.Entry (Except Fault Unit))) :
    (stagedWorld finds).files.Writable Manner.auditFile :=
  ⟨rfl, ["healing_attempts.jsonl"], rfl, nofun⟩

def interrupted : List (Occurrence Stage Number) :=
  [.lookup missing, .meanwhile fun w => (Deal.quit "s").after w, .lookup missing]

/-- Both leave a record, though the service is down and the session gone. -/
theorem audited_once_interrupted :
    (∀ o ∈ interrupted, o.Audits Manner.auditFile) ∧
    (history (stagedWorld []) interrupted).files.octets Manner.auditFile =
      Utf8.encode (Audit.linesOf (records (stagedWorld []) interrupted)) ∧
    (records (stagedWorld []) interrupted).map Audit.Record.success = [false, false] := by
  have audits : ∀ o ∈ interrupted, o.Audits Manner.auditFile := by
    intro o there
    simp only [interrupted, List.mem_cons, List.not_mem_nil, or_false] at there
    obtain rfl | rfl | rfl := there
    · rfl
    · exact audits_deal _ nofun
    · rfl
  obtain ⟨grown, -⟩ :=
    audited_once (accepts_stage Manner.auditFile) (writable_stagedWorld []) audits
  have empty : (stagedWorld []).files.octets Manner.auditFile = [] := rfl
  rw [empty, List.nil_append] at grown
  exact ⟨audits, grown, by with_unfolding_all rfl⟩

/-- The driver fails the first lookup as it should, and loses its connection in the second. -/
def dropping : List (Rehearsal.Entry (Except Fault Unit)) :=
  [⟨none, [], .ok ()⟩, ⟨none, [], .error (.raised .connectionReset "reset" .null)⟩]

/-- Where the driver loses its connection while healing looks once more, a lookup that asked for
healing leaves no record. -/
theorem lookup_leaves_nothing :
    Accepts Stage Manner.auditFile ∧
    (stagedWorld dropping).files.Writable Manner.auditFile ∧
    missing.healing.auditFile = some Manner.auditFile ∧
    missing.Heals (stagedWorld dropping) ∧
    (missing.run.run (stagedWorld dropping)).1.map Outcome.isFailure = .ok true ∧
    (missing.run.run (stagedWorld dropping)).2.files.octets Manner.auditFile = [] := by
  refine ⟨accepts_stage _, writable_stagedWorld _, rfl, ?_, ?_, ?_⟩
  · obtain ⟨r, ready⟩ : ∃ r, missing.runOf (stagedWorld dropping) = .ok r :=
      ⟨{ healing := missing.healing, options := missing.options, session := missing.session
         attempt := missing.attempt (stagedWorld dropping)
         report :=
          { strategy := ScriptLiteral.escape "id", value := ScriptLiteral.escape "gone"
            groupId := none, sessionId := .str "s1", region := missing.healing.settings.regionHint }
         look := missing.look }, rfl⟩
    obtain ⟨report, -, rfl⟩ := Healing.runOf_ok ready
    exact ⟨_, ready, .failed (.raised .noSuchElement "no such element: id=gone" .null),
      ((missing.look (.str "id") (.str "gone")).run (stagedWorld dropping)).2,
      Prod.ext (by with_unfolding_all rfl) rfl, rfl, rfl, rfl⟩
  · with_unfolding_all rfl
  · with_unfolding_all rfl

end Staged

end Occurrence

end LocatorHealing
