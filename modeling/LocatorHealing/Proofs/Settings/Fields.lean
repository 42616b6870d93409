import LocatorHealing.Proofs.AuthResult
import LocatorHealing.Settings

set_option autoImplicit false
set_option relaxedAutoImplicit false

/-!
Settings that were found valid, field by field: what is in them is what the members of an object
were read as, or what stands in for members that are not there.
-/

namespace LocatorHealing

namespace Validation

variable {α : Type} {m : Members} {naming : Naming} {read : Json → Checked α} {a : α}

private theorem within_eq_valid {place : Place} {c : Checked α}
    (valid : c.within place = .valid a) : c = .valid a := by
  cases c with
  | valid b => exact valid
  | invalid issues => cases valid

private theorem read_of_required {name : String}
    (valid : required m (.simple name) read = .valid a) :
    ∃ v, m.get? name = some v ∧ read v = .valid a := by
  cases there : m.get? name with
  | none =>
    have absent : (Naming.simple name).find? m = none := by
      simp [Naming.find?, Naming.simple, there]
    rw [required, absent] at valid
    cases valid
  | some v =>
    have found : (Naming.simple name).find? m = some (name, v) := by
      simp [Naming.find?, Naming.simple, there]
    rw [required, found] at valid
    exact ⟨v, rfl, within_eq_valid valid⟩

theorem read_of_withDefault {absent : α} (valid : withDefault m naming read absent = .valid a) :
    a = absent ∨ ∃ v, read v = .valid a := by
  unfold withDefault at valid
  split at valid
  · exact .inr ⟨_, within_eq_valid valid⟩
  · cases valid
    exact .inl rfl

end Validation

namespace Settings

open Validation

section Fields

variable {m : Members} {s : Settings Number}

private theorem serviceUrl_of_checkFields :
    ∀ {s}, checkFields m = .valid s →
      required m (.simple "service_url") (fun v => (text v).andThen serviceUrlOf) =
        .valid s.serviceUrl := by
  simp only [checkFields, Checked.forall_valid_seq, Checked.forall_valid_map]
  intros
  assumption

theorem pollTimeout_of_checkFields :
    ∀ {s}, checkFields m = .valid s →
      withDefault m (.simple "poll_timeout_seconds") number (.int 10) = .valid s.pollTimeout := by
  simp only [checkFields, Checked.forall_valid_seq, Checked.forall_valid_map]
  intros
  assumption

theorem pollInterval_of_checkFields :
    ∀ {s}, checkFields m = .valid s →
      withDefault m (.simple "poll_interval_seconds") number (.real 0.5) =
        .valid s.pollInterval := by
  simp only [checkFields, Checked.forall_valid_seq, Checked.forall_valid_map]
  intros
  assumption

theorem providerDomains_of_checkFields :
    ∀ {s}, checkFields m = .valid s →
      withDefault m (.simple "provider_domains") (fun v => (texts v).map namesOf) [] =
        .valid s.providerDomains := by
  simp only [checkFields, Checked.forall_valid_seq, Checked.forall_valid_map]
  intros
  assumption

theorem checkFields_of_ofJson {data : Json} (valid : ofJson data = .ok s) :
    ∃ m, data = .obj m ∧ checkFields m = .valid s := by
  have checked : check data = .valid s := Checked.orFault_eq_ok_iff.1 valid
  cases data with
  | obj m => exact ⟨m, rfl, checked⟩
  | _ => cases checked

end Fields

theorem absolute_of_serviceUrlOf {given kept : String} (valid : serviceUrlOf given = .valid kept) :
    kept = Text.trimEnd '/' given ∧ ∃ url, Url.split given = .ok url ∧
      (url.scheme = "http" ∨ url.scheme = "https") ∧ url.location ≠ "" := by
  unfold serviceUrlOf at valid
  split at valid
  · cases valid
  case h_2 url splits =>
    split at valid
    case isTrue absolute =>
      cases valid
      exact ⟨rfl, url, splits, absolute⟩
    case isFalse => cases valid

theorem serviceUrl_given {m : Members} {s : Settings Number} (valid : checkFields m = .valid s) :
    ∃ given, m.get? "service_url" = some (.str given) ∧
      serviceUrlOf given = .valid s.serviceUrl := by
  obtain ⟨v, there, read⟩ := read_of_required (serviceUrl_of_checkFields valid)
  cases v with
  | str given => exact ⟨given, there, read⟩
  | _ => cases read

def namedBy (given : String) : Json :=
  .obj [("service_url", .str given)]

def servedAt (serviceUrl : String) : Settings Number where
  serviceUrl
  region := "us-east-1"
  clientVersion := "0.1.0"
  eventsUrl := none
  requestTimeout := .int 30
  pollMaxAttempts := 20
  pollTimeout := .int 10
  pollInterval := .real 0.5
  supportedBrowsers := defaultBrowsers
  providerDomains := []
  firefoxAddon := none
  chromeExtension := none
  firstEntryOnly := false
  logLevel := .info
  auditDirectory := none
  pollMaxAttempts_pos := Nat.succ_pos 19

theorem ofJson_namedBy {given kept : String} (valid : serviceUrlOf given = .valid kept) :
    ofJson (namedBy given) = .ok (servedAt kept) := by
  have named : required [("service_url", .str given)] (.simple "service_url")
      (fun v => (text v).andThen serviceUrlOf) = .valid kept := by
    change (serviceUrlOf given).within _ = _
    rw [valid]
    rfl
  have checked : checkFields [("service_url", .str given)] = .valid (servedAt kept) := by
    unfold checkFields
    rw [named]
    rfl
  exact congrArg (Checked.orFault "HealingSettings") checked

end Settings

end LocatorHealing
