import LocatorHealing.Proofs.Service.Recovery
import LocatorHealing.Proofs.Session.Audited
import LocatorHealing.Proofs.Text.Utf8
import Mathlib.Data.List.Forall2

set_option autoImplicit false
set_option relaxedAutoImplicit false

/-!
The audit file is read as it was written. The text of a record is printed ASCII on one line, so that
what is appended to the file is cut again where it was joined, whatever kinds of line breaks stand
in the locators; and the text of each line is read as the record that it was written for.
-/

namespace LocatorHealing

private theorem Text.unifyLineEnds_of_not_mem {s : List Char} (none : '\r' ∉ s) :
    unifyLineEnds s = s := by
  induction s with
  | nil => rfl
  | cons c s ih =>
    simp only [List.mem_cons, not_or] at none
    rw [unifyLineEnds.eq_def]
    simp only [if_neg (Ne.symm none.1), ih none.2]

namespace FileTree

variable {t u : FileTree} {p : FilePath} {s more : List Char} {octets : List UInt8}

private theorem writable_of_append (appended : t.append p octets = .ok u) : t.Writable p := by
  obtain ⟨place, led, free, -⟩ := append_ok appended
  refine ⟨?_, place, led, free⟩
  unfold append handed at appended
  split at appended
  · cases appended
  · assumption

private theorem find_append (appended : t.append p octets = .ok u) :
    ∃ modified, u.find p = .ok (.file (t.octets p ++ octets) modified) := by
  obtain ⟨u', again, grown, -⟩ := (writable_of_append appended).append octets
  obtain rfl : u = u' := Except.ok.inj (appended.symm.trans again)
  obtain ⟨place, led, free, all, modified, rfl⟩ := append_ok appended
  have found : (t.put place (.file all modified)).find p = .ok (.file all modified) := by
    rw [find_of_place (place_put led free _), node?_put_self (ne_nil_of_free free)]
  rw [FileTree.octets, found] at grown
  exact ⟨modified, grown ▸ found⟩

/-- A text is what the file at a path holds. As long as there is no file, it is the empty one. -/
inductive Holds (t : FileTree) (p : FilePath) (s : List Char) : Prop where
  | nothing (empty : s = []) (none : t.seek p = .ok none)
  | file (fit : unfit? p = none) (modified : Int)
      (found : t.find p = .ok (.file (Utf8.encode s) modified))

private theorem Holds.octets_eq (holds : t.Holds p s) (fit : unfit? p = none) :
    t.octets p = Utf8.encode s := by
  cases holds with
  | file _ modified found => rw [octets, found]
  | nothing empty none =>
    unfold seek at none
    rw [fit] at none
    rw [octets, empty]
    cases found : t.find p with
    | error cause => rfl
    | ok node => simp [found] at none

theorem Holds.append (holds : t.Holds p s)
    (appended : t.append p (Utf8.encode more) = .ok u) : u.Holds p (s ++ more) := by
  have fit := (writable_of_append appended).fit
  obtain ⟨modified, found⟩ := find_append appended
  refine .file fit modified ?_
  rw [found, holds.octets_eq fit, Utf8.encode, Utf8.encode, Utf8.encode, List.flatMap_append]

end FileTree

namespace Audit

/-- The texts in a record are made of characters, and its session has a text for an identifier, or
none. -/
structure Record.Sound (r : Record) : Prop where
  timestamp : Text.IsWhole r.timestamp
  session : ∃ id : Option String, r.sessionId = Json.ofText? id ∧ ∀ s ∈ id, Text.IsWhole s
  strategy : Text.IsWhole r.strategy
  value : Text.IsWhole r.value
  healed : ∀ h ∈ r.healed, Text.IsWhole h.selector ∧ Text.IsWhole h.value
  states : ∀ state ∈ r.states, Text.IsWhole state

/-- What an object has to hold to be a record. -/
structure Record.Tells (r : Record) (m : Members) : Prop where
  names : m.names = ["timestamp", "session_id", "locator_type", "locator_value", "healed_selector",
    "healed_value", "states", "success"]
  timestamp : m.get? "timestamp" = some (.str r.timestamp)
  session : m.get? "session_id" = some r.sessionId
  strategy : m.get? "locator_type" = some (.str r.strategy)
  value : m.get? "locator_value" = some (.str r.value)
  healed : ∀ h, r.healed = some h →
    m.get? "healed_selector" = some (.str h.selector) ∧ m.get? "healed_value" = some (.str h.value)
  unhealed : r.healed = none →
    m.get? "healed_selector" = some .null ∧ m.get? "healed_value" = some .null
  states : m.get? "states" = some (.arr (r.states.map .str))
  success : m.get? "success" = some (.bool r.success)

private theorem Record.tells_toJson (r : Record) : ∃ m, r.toJson = .obj m ∧ r.Tells m := by
  refine ⟨_, rfl, rfl, rfl, rfl, rfl, rfl, fun h some => ?_, fun none => ?_, rfl, rfl⟩
  · rw [some]
    exact ⟨rfl, rfl⟩
  · rw [none]
    exact ⟨rfl, rfl⟩

theorem Record.Sound.plain {r : Record} (sound : r.Sound) : Json.Plain 2 r.toJson := by
  obtain ⟨id, session, known⟩ := sound.session
  have healed (part : HealedLocator → String) (whole : ∀ h ∈ r.healed, Text.IsWhole (part h)) :
      Json.Plain 1 (Json.ofText? (r.healed.map part)) := by
    refine plain_ofText? fun s there => ?_
    obtain ⟨h, here, rfl⟩ := Option.map_eq_some_iff.1 there
    exact whole h here
  have states : Json.Plain 1 (.arr (r.states.map Json.str)) := by
    refine .arr fun v there => ?_
    obtain ⟨state, here, rfl⟩ := List.mem_map.1 there
    exact .str (sound.states state here)
  refine .named ["timestamp", "session_id", "locator_type", "locator_value", "healed_selector",
    "healed_value", "states", "success"] rfl (by decide) (by decide) ?_
  simp only [List.map_cons, List.map_nil, List.forall_mem_cons]
  exact ⟨.str sound.timestamp, session ▸ plain_ofText? known, .str sound.strategy,
    .str sound.value, healed _ fun h here => (sound.healed h here).1,
    healed _ fun h here => (sound.healed h here).2, states, .bool _, nofun⟩

private theorem chars_line (r : Record) :
    Text.chars r.line = Json.writeChars .spaced r.toJson ++ ['\n'] :=
  Text.chars_ofChars _

private theorem printed_linesOf {records : List Record} {c : Char} (there : c ∈ linesOf records) :
    32 ≤ c.toNat ∧ c.toNat < 127 ∨ c = '\n' := by
  obtain ⟨r, -, here⟩ := List.mem_flatMap.1 there
  rw [chars_line] at here
  rcases List.mem_append.1 here with text | ends
  · exact .inl (Json.printed_writeChars _ c text)
  · exact .inr (List.mem_singleton.1 ends)

private theorem readLines_linesOf [Json.Nesting] {records : List Record}
    (sound : ∀ r ∈ records, r.Sound) :
    readLines (linesOf records) = .ok (records.map Record.toJson) := by
  have kept : ∀ line ∈ records.map fun r => Text.chars (Json.write .spaced r.toJson),
      (!line.all Text.isBlank) = true := by
    intro line there
    obtain ⟨r, -, rfl⟩ := List.mem_map.1 there
    have opens : Text.isBlank '{' = false := by decide
    simp [Json.write, Record.toJson, Json.writeChars, opens]
  rw [readLines, linesOf, lines_records, List.filter_eq_self.2 kept, List.mapM_map]
  induction records with
  | nil => rfl
  | cons r rest ih =>
    obtain ⟨first, others⟩ := List.forall_mem_cons.1 sound
    have parsed : Json.parse (Text.ofChars (Text.chars (Json.write .spaced r.toJson))) =
        .ok r.toJson := by
      rw [Json.write, Text.chars_ofChars, ← Json.write]
      exact Json.parse_write Json.Format.separates_spaced first.plain
        (Nat.le_trans (by decide) Json.Nesting.few)
    rw [List.mapM_cons, Function.comp, parsed]
    have later := ih others fun line there => kept line (List.mem_cons_of_mem _ there)
    rw [later]
    rfl

section Run

variable {ε τ : Type} [Outside ε τ] {file : FilePath} {w v : World ε τ} {records : List Record}

theorem run_read (sound : ∀ r ∈ records, r.Sound)
    (holds : w.files.Holds file (linesOf records)) :
    (read file).run w = (.ok (records.map Record.toJson), w) := by
  have ascii (c : Char) (there : c ∈ linesOf records) : c.toNat < 0x80 ∧ c ≠ '\r' := by
    rcases printed_linesOf there with ⟨low, high⟩ | rfl
    · refine ⟨by omega, ?_⟩
      rintro rfl
      exact absurd low (by decide)
    · decide
  cases holds with
  | nothing empty none =>
    cases records with
    | nil => simp [read, none]
    | cons r rest => simp [linesOf, chars_line] at empty
  | file fit modified found =>
    have sought :
        w.files.seek file = .ok (some (.file (Utf8.encode (linesOf records)) modified)) := by
      rw [FileTree.seek, fit, found]
    have text : w.files.readText file = .ok (linesOf records) := by
      simp only [FileTree.readText, FileTree.read, FileTree.handed, fit, found, bind, Except.bind,
        Utf8.decode_encode_ascii fun c there => (ascii c there).1]
      rw [Text.unifyLineEnds_of_not_mem fun there => (ascii _ there).2 rfl]
    have parsed := @readLines_linesOf (Outside.nesting ε) _ sound
    simp [read, sought, text, parsed]

/-- A write that comes to its end appends the line of its record, and one that does not changes no
file. -/
private theorem run_write_cases (file : FilePath) (r : Record) (w : World ε τ) :
    (∃ v, (write file r).run w = (.ok (), v) ∧
      w.files.append file (Utf8.octets r.line) = .ok v.files) ∨
    ∃ fault v, (write file r).run w = (.error fault, v) ∧ v.files = w.files := by
  unfold write
  rw [Action.run_bind, Action.run_react, Action.andThen_ok]
  cases (Outside.append file.text r.line w.outside).1 with
  | some fault => exact .inr ⟨fault, _, rfl, rfl⟩
  | none =>
    dsimp only
    rw [Action.run_bind, Action.run_read, Action.andThen_ok, Action.run_bind, Action.run_ofExcept]
    cases w.files.append file (Utf8.octets r.line) with
    | error fault => exact .inr ⟨fault, _, rfl, rfl⟩
    | ok files => exact .inl ⟨_, rfl, rfl⟩

/-- Write records one after the other. A fault of one does not keep the next from being written;
what is given are the records whose writing came to its end. -/
def writeEach (file : FilePath) : List Record → Action ε τ (List Record)
  | [] => return []
  | r :: rest => do
    match ← Action.attempt (write file r) with
    | .ok () => return r :: (← writeEach file rest)
    | .error _ => writeEach file rest

private theorem run_writeEach_ok {r : Record} {rest written : List Record} {u : World ε τ}
    (wrote : (write file r).run w = (.ok (), v))
    (others : (writeEach file rest).run v = (.ok written, u)) :
    (writeEach file (r :: rest)).run w = (.ok (r :: written), u) := by
  rw [writeEach, Action.run_bind, Action.run_attempt, wrote, Action.andThen_ok]
  exact Action.run_bind_ok others

private theorem run_writeEach_error {r : Record} {rest : List Record} {fault : Fault}
    (failed : (write file r).run w = (.error fault, v)) :
    (writeEach file (r :: rest)).run w = (writeEach file rest).run v := by
  rw [writeEach, Action.run_bind, Action.run_attempt, failed, Action.andThen_ok]

private theorem writeEach_holds {before : List Record} (holds : w.files.Holds file (linesOf before))
    (records : List Record) :
    ∃ written v, (writeEach file records).run w = (.ok written, v) ∧ written.Sublist records ∧
      v.files.Holds file (linesOf (before ++ written)) := by
  induction records generalizing w before with
  | nil => exact ⟨[], w, rfl, .slnil, by rwa [List.append_nil]⟩
  | cons r rest ih =>
    rcases run_write_cases file r w with ⟨v, wrote, appended⟩ | ⟨fault, v, failed, same⟩
    · have longer : v.files.Holds file (linesOf (before ++ [r])) := by
        have grown := holds.append appended
        simpa [linesOf] using grown
      obtain ⟨written, u, others, part, held⟩ := ih longer
      refine ⟨r :: written, u, run_writeEach_ok wrote others, part.cons_cons r, ?_⟩
      rwa [List.append_assoc] at held
    · obtain ⟨written, u, others, part, held⟩ := ih (same ▸ holds)
      exact ⟨written, u, (run_writeEach_error failed).trans others, part.cons r, held⟩

/-- Nothing keeps a record from being written where the disk accepts all lines and the path leads to
where a file may be. -/
private theorem writeEach_all (accepts : Accepts ε file) (writable : w.files.Writable file)
    (records : List Record) : ∃ v, (writeEach file records).run w = (.ok records, v) := by
  induction records generalizing w with
  | nil => exact ⟨w, rfl⟩
  | cons r rest ih =>
    obtain ⟨v, wrote, gains⟩ := run_write accepts writable r
    obtain ⟨u, others⟩ := ih gains.writable
    exact ⟨u, run_writeEach_ok wrote others⟩

/-- Reading the audit file undoes writing it. Where there is no file yet, and whatever records are
written then, reading gives the records that were written, each with all that it says, in their
order; and all of them were, if the disk lets them be written. -/
theorem read_written (fresh : w.files.seek file = .ok none) (sound : ∀ r ∈ records, r.Sound) :
    ∃ written values v, (writeEach file records).run w = (.ok written, v) ∧
      written.Sublist records ∧ (read file).run v = (.ok values, v) ∧
      List.Forall₂ (fun r value => ∃ m, value = .obj m ∧ r.Tells m) written values ∧
      (Accepts ε file → w.files.Writable file → written = records) := by
  have empty : w.files.Holds file (linesOf []) := .nothing rfl fresh
  obtain ⟨written, v, wrote, part, holds⟩ := writeEach_holds empty records
  refine ⟨written, written.map Record.toJson, v, wrote, part,
    run_read (fun r there => sound r (part.subset there)) holds, ?_, fun accepts writable => ?_⟩
  · exact List.forall₂_map_right_iff.2 (List.forall₂_same.2 fun r _ => r.tells_toJson)
  · obtain ⟨u, all⟩ := writeEach_all accepts writable records
    exact Except.ok.inj (congrArg Prod.fst (wrote.symm.trans all))

end Run

section Concrete

open Occurrence (stagedWorld accepts_stage writable_stagedWorld)

/-- An attempt with line breaks of several kinds, quotes and a backslash in its locators. -/
def brokenLines : Record where
  timestamp := "2024-01-01T00:00:00+00:00"
  sessionId := .str "s\x0b1\x1c"
  strategy := "xpath"
  value := "//a[.=\"\r\n\x0c\x85\"]\\\u2028"
  healed := some ⟨"css", "\u2029#ok'\n\n", "css selector"⟩
  states := ["attempt_original", "attempt_heal"]
  success := true

def brokenLinesUnhealed : Record :=
  { brokenLines with sessionId := .null, healed := none, success := false }

theorem read_written_broken_lines :
    (stagedWorld []).files.seek Manner.auditFile = .ok none ∧
    (∀ r ∈ [brokenLines, brokenLinesUnhealed], r.Sound) ∧
    ∃ (m m' : Members) (v : World Rehearsal.Stage Number),
      (writeEach Manner.auditFile [brokenLines, brokenLinesUnhealed]).run (stagedWorld []) =
        (.ok [brokenLines, brokenLinesUnhealed], v) ∧
      (read Manner.auditFile).run v = (.ok [.obj m, .obj m'], v) ∧
      m.get? "locator_value" = some (.str "//a[.=\"\r\n\x0c\x85\"]\\\u2028") ∧
      m'.get? "session_id" = some .null ∧ m'.get? "success" = some (.bool false) := by
  have fresh : (stagedWorld []).files.seek Manner.auditFile = .ok none := rfl
  have sound : ∀ r ∈ [brokenLines, brokenLinesUnhealed], r.Sound := by
    simp only [List.forall_mem_cons]
    exact ⟨{
      timestamp := by decide
      session := ⟨some "s\x0b1\x1c", rfl, by decide⟩
      strategy := by decide
      value := by decide
      healed := by decide
      states := by decide }, {
      timestamp := by decide
      session := ⟨none, rfl, nofun⟩
      strategy := by decide
      value := by decide
      healed := nofun
      states := by decide }, nofun⟩
  obtain ⟨written, values, v, wrote, -, back, told, all⟩ := read_written fresh sound
  obtain rfl := all (accepts_stage _) (writable_stagedWorld [])
  cases told with
  | cons first told =>
    cases told with
    | cons second told =>
      cases told
      obtain ⟨m, rfl, tells⟩ := first
      obtain ⟨m', rfl, tells'⟩ := second
      exact ⟨fresh, sound, m, m', v, wrote, back, tells.value, tells'.session, tells'.success⟩

end Concrete

end Audit

end LocatorHealing
