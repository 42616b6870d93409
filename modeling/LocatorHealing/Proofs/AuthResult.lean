import LocatorHealing.AuthResult
import LocatorHealing.Proofs.Json.RoundTrip
import LocatorHealing.Proofs.Text.Code

set_option autoImplicit false
set_option relaxedAutoImplicit false

/-!
A result of authentication is read from the environment variable as it was written to it. Its
members have different names, each of which is that of a field, so that checking them gives back
every field; and the text is never one that stands for no result.
-/

namespace LocatorHealing

namespace Members

def filled (m : Members) : Members :=
  m.filter fun p => !p.2.isNull

theorem get?_eq_none {m : Members} {name : String} (new : name ∉ m.names) : m.get? name = none := by
  induction m with
  | nil => rfl
  | cons p rest ih =>
    simp only [names, List.map_cons, List.mem_cons, not_or] at new
    rw [get?, if_neg (Ne.symm new.1), ih new.2]

private theorem get?_filled {m : Members} (distinct : m.names.Nodup) (name : String) :
    m.filled.get? name = (m.get? name).filter fun v => !v.isNull := by
  induction m with
  | nil => rfl
  | cons p rest ih =>
    obtain ⟨k, v⟩ := p
    obtain ⟨new, others⟩ := List.nodup_cons.1 distinct
    have later := ih others
    cases null : v.isNull with
    | true =>
      rw [filled, List.filter_cons_of_neg (by simp [null]), get?]
      split
      case isTrue same =>
        subst same
        rw [← filled, later, get?_eq_none new]
        simp [Option.filter, null]
      case isFalse => exact later
    | false =>
      rw [filled, List.filter_cons_of_pos (by simp [null]), get?, get?]
      split
      · simp [Option.filter, null]
      · exact later

end Members

namespace Checked

variable {α β : Type}

theorem forall_valid_seq {f : Checked (α → β)} {c : Checked α} {P : β → Prop} :
    (∀ {b}, f <*> c = .valid b → P b) ↔ ∀ {g}, f = .valid g → ∀ {a}, c = .valid a → P (g a) := by
  change (∀ {b}, f.apply c = .valid b → P b) ↔ _
  cases f with
  | valid g => cases c with
    | valid a => simp [apply]
    | invalid issues => simp [apply]
  | invalid issues => cases c with
    | valid a => simp [apply]
    | invalid more => simp [apply]

theorem forall_valid_map {f : α → β} {c : Checked α} {P : β → Prop} :
    (∀ {b}, f <$> c = .valid b → P b) ↔ ∀ {a}, c = .valid a → P (f a) := by
  change (∀ {b}, c.map f = .valid b → P b) ↔ _
  cases c with
  | valid a => simp [map]
  | invalid issues => simp [map]

theorem orFault_eq_ok_iff {model : String} {c : Checked α} {a : α} :
    c.orFault model = .ok a ↔ c = .valid a := by
  cases c with
  | valid b => simp [orFault]
  | invalid issues =>
    rw [orFault]
    split
    · simp
    · simp

end Checked

namespace Validation

variable {α : Type} {read : Json → Checked α} {m : Members} {naming : Naming}

private theorem optional_eq_valid (encode : α → Json) (reads : ∀ a, read (encode a) = .valid a)
    (filled : ∀ a, encode a ≠ .null) {a? : Option α}
    (found : naming.find? m = a?.map fun a => (naming.preferred, encode a)) :
    optional m naming read = .valid a? := by
  rw [optional, withDefault, found]
  cases a? with
  | none => rfl
  | some a =>
    have read : nullable read (encode a) = .valid (some a) := by
      rw [nullable, reads a]
      · rfl
      · exact filled a
    simp only [Option.map_some, read]
    rfl

end Validation

namespace AuthResult

open Validation

variable (a : AuthResult)

def fields : Members :=
  [("isAuthenticated", .bool a.isAuthenticated), ("status", Json.ofInt? a.status),
    ("message", Json.ofText? a.message), ("userId", Json.ofText? a.userId),
    ("groupId", Json.ofText? a.groupId), ("sessionToken", Json.ofText? a.sessionToken),
    ("isHealingEnabled", Json.ofFlag? a.isHealingEnabled),
    ("isGroupAIEnabled", Json.ofFlag? a.isGroupAiEnabled),
    ("defaultLogDataEnabled", Json.ofFlag? a.defaultLogDataEnabled)]

private theorem nodup_fields : a.fields.names.Nodup := by
  change ["isAuthenticated", "status", "message", "userId", "groupId", "sessionToken",
    "isHealingEnabled", "isGroupAIEnabled", "defaultLogDataEnabled"].Nodup
  decide

private theorem present_append (name : String) (v : Json) (rest : Members) :
    present name v ++ Members.filled rest = Members.filled ((name, v) :: rest) := by
  rw [present, Members.filled, Members.filled, List.filter_cons]
  cases v.isNull with
  | true => rfl
  | false => rfl

private theorem members_eq : a.members = a.fields.filled := by
  simp only [members, List.append_assoc, fields, ← present_append]
  rw [Members.filled, List.filter_nil, List.append_nil]

private theorem nodup_members : a.members.names.Nodup := by
  rw [members_eq]
  exact (List.filter_sublist.map Prod.fst).nodup a.nodup_fields

private theorem find?_members {naming : Naming} (v : Json)
    (there : a.fields.get? naming.preferred = some v)
    (simple : naming.plain = naming.preferred ∨ a.fields.get? naming.plain = none) :
    naming.find? a.members = if v.isNull then none else some (naming.preferred, v) := by
  have found (name : String) := Members.get?_filled a.nodup_fields name
  rw [members_eq, Naming.find?, found, there]
  cases null : v.isNull with
  | false => simp [Option.filter, null]
  | true =>
    rcases simple with same | none
    · simp [Option.filter, same, found, there, null]
    · simp [Option.filter, found, none, null]

variable {a} {naming : Naming}

private theorem optional_text (s? : Option String)
    (there : a.fields.get? naming.preferred = some (Json.ofText? s?))
    (simple : naming.plain = naming.preferred ∨ a.fields.get? naming.plain = none) :
    optional a.members naming text = .valid s? := by
  refine optional_eq_valid Json.str (fun s => rfl) (fun s => nofun) ?_
  rw [find?_members a _ there simple]
  cases s? with | _ => rfl

private theorem optional_flag (b? : Option Bool)
    (there : a.fields.get? naming.preferred = some (Json.ofFlag? b?))
    (simple : naming.plain = naming.preferred ∨ a.fields.get? naming.plain = none) :
    optional a.members naming flag = .valid b? := by
  refine optional_eq_valid Json.bool (fun b => rfl) (fun b => nofun) ?_
  rw [find?_members a _ there simple]
  cases b? with | _ => rfl

private theorem optional_integer (n? : Option Int)
    (there : a.fields.get? naming.preferred = some (Json.ofInt? n?))
    (simple : naming.plain = naming.preferred ∨ a.fields.get? naming.plain = none) :
    optional a.members naming integer = .valid n? := by
  refine optional_eq_valid (fun n => .num (.int n)) (fun n => rfl) (fun n => nofun) ?_
  rw [find?_members a _ there simple]
  cases n? with | _ => rfl

theorem checkFields_eq_valid_iff {m : Members} :
    checkFields m = .valid a ↔
      withDefault m ⟨"isAuthenticated", "is_authenticated"⟩ flag false = .valid a.isAuthenticated ∧
        optional m ⟨"status", "status"⟩ integer = .valid a.status ∧
        optional m ⟨"message", "message"⟩ text = .valid a.message ∧
        optional m ⟨"userId", "user_id"⟩ text = .valid a.userId ∧
        optional m ⟨"groupId", "group_id"⟩ text = .valid a.groupId ∧
        optional m ⟨"sessionToken", "session_token"⟩ text = .valid a.sessionToken ∧
        optional m ⟨"isHealingEnabled", "is_healing_enabled"⟩ flag = .valid a.isHealingEnabled ∧
        optional m ⟨"isGroupAIEnabled", "is_group_ai_enabled"⟩ flag = .valid a.isGroupAiEnabled ∧
        optional m ⟨"defaultLogDataEnabled", "default_log_data_enabled"⟩ flag =
          .valid a.defaultLogDataEnabled := by
  constructor
  · revert a
    simp only [checkFields, Checked.forall_valid_seq, Checked.forall_valid_map]
    intros
    and_intros
    all_goals assumption
  · rintro ⟨authenticated, status, message, user, group, token, healing, ai, log⟩
    rw [checkFields, authenticated, status, message, user, group, token, healing, ai, log]
    rfl

theorem ofJson_eq_ok_iff {v : Json} :
    ofJson v = .ok a ↔ ∃ m, v = .obj m ∧ checkFields m = .valid a := by
  rw [ofJson, Checked.orFault_eq_ok_iff]
  cases v with
  | obj m => simp [check, record]
  | _ => simp [check, record, Checked.fail]

variable (a)

theorem check_members : check (.obj a.members) = .valid a := by
  have authenticated : withDefault a.members ⟨"isAuthenticated", "is_authenticated"⟩ flag false =
      .valid a.isAuthenticated := by
    rw [withDefault, find?_members a (.bool a.isAuthenticated) rfl (.inr rfl)]
    rfl
  rw [check, record, checkFields, authenticated,
    optional_integer a.status rfl (.inl rfl),
    optional_text a.message rfl (.inl rfl),
    optional_text a.userId rfl (.inr rfl),
    optional_text a.groupId rfl (.inr rfl),
    optional_text a.sessionToken rfl (.inr rfl),
    optional_flag a.isHealingEnabled rfl (.inr rfl),
    optional_flag a.isGroupAiEnabled rfl (.inr rfl),
    optional_flag a.defaultLogDataEnabled rfl (.inr rfl)]
  rfl

/-- A result whose status has few enough digits to be read back. -/
def Readable : Prop :=
  ∀ n, a.status = some n → n.natAbs < 10 ^ Json.digitLimit

/-- A result that can be handed on: its status has few enough digits to be read back, and its texts
are made of characters. -/
structure Portable : Prop where
  readable : a.Readable
  texts : ∀ s ∈ a.texts, Text.IsWhole s

variable {a}

theorem exported_of_portable (portable : a.Portable) : a.exported = .ok a.toVariable := by
  have whole : ∀ s ∈ a.texts, Codec.utf8.defect? s = none := fun s there =>
    Codec.utf8_defect?_eq_none_iff.2 (portable.texts s there)
  rw [exported, List.findSome?_eq_none_iff.2 whole]

private theorem whole_members (a : AuthResult) : ∀ p ∈ a.members, Text.IsWhole p.1 := by
  intro p member
  rw [members_eq] at member
  have field := (List.mem_filter.1 member).1
  simp only [fields, List.mem_cons, List.not_mem_nil, or_false] at field
  rcases field with rfl | rfl | rfl | rfl | rfl | rfl | rfl | rfl | rfl
  all_goals
    dsimp only
    decide

private theorem plain_members (portable : a.Portable) : Json.Plain 1 (.obj a.members) := by
  refine .obj a.nodup_members a.whole_members fun p member => ?_
  rw [members_eq] at member
  obtain ⟨field, filled⟩ := List.mem_filter.1 member
  have flag (b? : Option Bool) (some : (Json.ofFlag? b?).isNull = false) :
      Json.Plain 0 (Json.ofFlag? b?) := by
    cases b? with
    | none => cases some
    | some b => exact .bool b
  have text {s? : Option String} (there : s? ∈ [a.message, a.userId, a.groupId, a.sessionToken])
      (some : (Json.ofText? s?).isNull = false) : Json.Plain 0 (Json.ofText? s?) := by
    cases s? with
    | none => cases some
    | some s => exact .str (portable.texts s (List.mem_filterMap.2 ⟨_, there, rfl⟩))
  have filled : p.2.isNull = false := by simpa using filled
  simp only [fields, List.mem_cons, List.not_mem_nil, or_false] at field
  rcases field with rfl | rfl | rfl | rfl | rfl | rfl | rfl | rfl | rfl
  · exact .bool _
  · cases status : a.status with
    | none => simp [status, Json.ofInt?, Json.isNull] at filled
    | some n => exact .int (portable.readable n status)
  · exact text (by simp) filled
  · exact text (by simp) filled
  · exact text (by simp) filled
  · exact text (by simp) filled
  · exact flag _ filled
  · exact flag _ filled
  · exact flag _ filled

private theorem toList_toVariable (a : AuthResult) :
    ∃ s, a.toVariable.toList = '{' :: '"' :: s ++ ['}'] := by
  have first : a.members = ("isAuthenticated", .bool a.isAuthenticated) :: a.members.tail := rfl
  obtain ⟨s, starts⟩ := Json.writeMembers_cons .compact
    ("isAuthenticated", .bool a.isAuthenticated) a.members.tail
  refine ⟨CodePoint.spell (s.map .char), ?_⟩
  rw [toVariable, Json.write, Json.writeChars, first, starts, Text.ofChars, Text.ofCodes,
    String.toList_ofList, List.map_append, List.map_singleton,
    CodePoint.spell_append_cons (CodePoint.isPlain_of_lt (by decide))]
  rfl

private theorem isVoid_toVariable (a : AuthResult) : isVoid a.toVariable = false := by
  obtain ⟨s, text⟩ := a.toList_toVariable
  have opens : Text.isBlank '{' = false := by decide
  have closes : Text.isBlank '}' = false := by decide
  have trimmed : Text.trim a.toVariable = a.toVariable := by
    have kept : Text.trimBy Text.isBlank ('{' :: '"' :: s ++ ['}']) = '{' :: '"' :: s ++ ['}'] := by
      simp [Text.trimBy, Text.dropRight, opens, closes]
    rw [Text.trim, text, kept, ← text, String.ofList_toList]
  have filled : a.toVariable ≠ "\x7b\x7d" := by
    intro void
    rw [void] at text
    simp at text
  have some : Text.isAllBlank a.toVariable = false := by simp [Text.isAllBlank, text, opens]
  simp [isVoid, some, trimmed, filled]

/-- What is written to the variable is read from it. -/
theorem ofVariable_toVariable (portable : a.Portable) :
    ofVariable a.toVariable = .ok (some a) := by
  have parsed : Json.parseStrict? a.toVariable = some (.obj a.members) :=
    Json.parseStrict?_write Json.Format.separates_compact (plain_members portable) (by decide)
  rw [ofVariable, isVoid_toVariable, if_neg Bool.false_ne_true, parsed]
  change (ofJson (.obj a.members)).map some = .ok (some a)
  rw [ofJson, check_members]
  rfl

private theorem parseStrict?_of_long {n : Int} (status : a.status = some n)
    (long : 10 ^ Json.digitLimit ≤ n.natAbs) : Json.parseStrict? a.toVariable = none := by
  obtain ⟨others, members⟩ : ∃ others, a.members =
      [("isAuthenticated", .bool a.isAuthenticated)] ++ ("status", .num (.int n)) :: others := by
    obtain ⟨_, _⟩ := a
    subst status
    exact ⟨_, rfl⟩
  obtain ⟨c, t, starts, opens⟩ := Json.opens_writeNumber_int n
  obtain ⟨stop, refused⟩ : ∃ stop,
      Json.readChars .strict (Json.writeChars .compact (.obj a.members)) = .error stop := by
    rw [members]
    have named := a.whole_members
    rw [members] at named
    have name : Text.IsWhole "status" := named ("status", .num (.int n)) (by simp)
    refine Json.readChars_refused Json.Format.separates_compact (fun q there => ?_) name ?_ starts
      opens (Json.refuses_int long) (by decide : 1 + 0 ≤ 200)
    · exact named q (List.mem_append_left _ there)
    · intro q member
      rw [List.mem_singleton.1 member]
      exact .bool _
  rw [Json.parseStrict?, toVariable, Json.write, Codec.utf8_defect?_ofChars, Text.chars_ofChars,
    refused]
  rfl

private theorem ofVariable_of_long {n : Int} (status : a.status = some n)
    (long : 10 ^ Json.digitLimit ≤ n.natAbs) :
    ofVariable a.toVariable = .error (.invalid "AuthResult" [⟨.notJson, []⟩]) := by
  rw [ofVariable, isVoid_toVariable, if_neg Bool.false_ne_true, parseStrict?_of_long status long]

theorem readable_of_ofVariable (read : ofVariable a.toVariable = .ok (some a)) : a.Readable := by
  intro n status
  refine Nat.lt_of_not_le fun long => ?_
  rw [ofVariable_of_long status long] at read
  cases read

end AuthResult

end LocatorHealing
