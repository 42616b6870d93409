import Mathlib.Data.List.Forall2
import LocatorHealing.Launch
import LocatorHealing.Proofs.Capability.Injection
import LocatorHealing.Proofs.Launch.Handover

set_option autoImplicit false
set_option relaxedAutoImplicit false

/-!
The capabilities that a launch goes on with. A set-up always ends, and whatever fault ends it early,
every set of capabilities is left alone, injected into completely, or left with the metadata where
its extension could not be read or be added.
-/

namespace LocatorHealing.Launcher

open LocatorHealing.Action (Gives gives_pure gives_bind gives_attempt gives_ofExcept gives_log
  gives_read)
open Capability (Left SetLeft Whole marked)

variable {ε τ : Type} {settings : Settings τ} {R S : Members → Members → Option Fault → Prop}

def EntryLeft (settings : Settings τ) (R : Members → Members → Option Fault → Prop)
    (v v' : Json) : Prop :=
  v' = v ∨ ∃ entry capabilities left fault?, v = .obj entry ∧
    Members.get? entry "capabilities" = some capabilities ∧
    Left settings R capabilities left fault? ∧
    v' = .obj (Members.put entry "capabilities" left)

/-- What a launch leaves of capabilities, with the fault that ended it early, if there was one. A
fault at one of several named entries is no fault of the launch. -/
inductive DescriptorLeft (settings : Settings τ) (R : Members → Members → Option Fault → Prop) :
    (isMultiremote : Bool) → Json → Json → Option Fault → Prop where
  | plain {v v' : Json} {fault? : Option Fault} (left : Left settings R v v' fault?) :
      DescriptorLeft settings R false v v' fault?
  | alone (isMultiremote : Bool) (v : Json) (fault? : Option Fault) :
      DescriptorLeft settings R isMultiremote v v fault?
  | entries {entries entries' : Members}
      (left : List.Forall₂ (fun p p' => p'.1 = p.1 ∧ EntryLeft settings R p.2 p'.2)
        entries entries') :
      DescriptorLeft settings R true (.obj entries) (.obj entries') none

theorem DescriptorLeft.mono (weaker : ∀ {m m' fault?}, R m m' fault? → S m m' fault?)
    {isMultiremote : Bool} {v v' : Json} {fault? : Option Fault}
    (left : DescriptorLeft settings R isMultiremote v v' fault?) :
    DescriptorLeft settings S isMultiremote v v' fault? := by
  cases left with
  | plain left => exact .plain (left.mono weaker)
  | alone => exact .alone _ _ _
  | entries left =>
    refine .entries (left.imp fun p p' ⟨name, entry⟩ => ⟨name, entry.imp_right ?_⟩)
    rintro ⟨m, capabilities, inner, fault?, object, held, set, after⟩
    exact ⟨m, capabilities, inner, fault?, object, held, set.mono weaker, after⟩

variable [Outside ε τ] [TimeScale τ] (l : Launcher ε τ) (auth : AuthResult) (config : LaunchConfig)
  (run : RunConfig) (options : HealingOptions)

theorem gives_handle (sink : EventSink τ) (selfHeal : Bool) :
    Gives (fun _ => True) (Instrumentation.handle sink auth run selfHeal : Action ε τ Unit) := by
  refine gives_bind (gives_attempt _) fun told _ => ?_
  cases told with
  | ok done => exact gives_pure trivial
  | error fault => exact gives_log _ _

theorem gives_augmentEntry (name : String) (entry : Json) :
    Gives (fun r => EntryLeft l.settings (SetLeft l.settings) entry r.1)
      (l.augmentEntry auth config run options name entry) := by
  unfold augmentEntry
  split
  case h_2 => exact gives_pure (.inl rfl)
  case h_1 m =>
    dsimp only
    cases held : Members.get? m "capabilities" with
    | none =>
      refine gives_bind (gives_ofExcept _) fun isTarget same => ?_
      rw [show isTarget = .ok false from same]
      exact gives_bind (gives_log _ _) fun _ _ => gives_pure (.inl rfl)
    | some capabilities =>
      refine gives_bind (gives_attempt _) fun isTarget _ => ?_
      split
      · exact gives_pure (.inl rfl)
      · exact gives_bind (gives_log _ _) fun _ _ => gives_pure (.inl rfl)
      · refine gives_bind (gives_read _) fun environment _ => ?_
        split
        · exact gives_pure (.inl rfl)
        · refine gives_bind (gives_handle auth run l.sink options.selfHeal) fun _ _ => ?_
          refine gives_bind (Capability.gives_augment l.settings auth options _) fun r left => ?_
          exact gives_pure (.inr ⟨m, capabilities, r.1, r.2, rfl, held, left, rfl⟩)

theorem gives_augmentEntries {Q : Json → Json → Prop}
    (each : ∀ name entry, Gives (fun r => Q entry r.1)
      (l.augmentEntry auth config run options name entry)) (entries : Members) :
    Gives (fun r => List.Forall₂ (fun p p' => p'.1 = p.1 ∧ Q p.2 p'.2) entries r)
      (l.augmentEntries auth config run options entries) := by
  induction entries with
  | nil => exact gives_pure .nil
  | cons p rest ih =>
    obtain ⟨name, entry⟩ := p
    refine gives_bind (each name entry) fun r left => ?_
    obtain ⟨v, fault?⟩ := r
    have others : Gives (fun r => List.Forall₂ (fun p p' => p'.1 = p.1 ∧ Q p.2 p'.2)
        ((name, entry) :: rest) r)
        (do return (name, v) :: (← l.augmentEntries auth config run options rest)) :=
      gives_bind ih fun rest' left' => gives_pure (.cons ⟨rfl, left⟩ left')
    cases fault? with
    | none => exact others
    | some fault => exact gives_bind (gives_log _ _) fun _ _ => others

variable (capabilities : Json) (isMultiremote : Bool)

private theorem gives_injection :
    Gives (fun r =>
        DescriptorLeft l.settings (SetLeft l.settings) isMultiremote capabilities r.1 r.2)
      (if isMultiremote then l.augmentAll auth config run options capabilities
        else l.augmentPlain auth run options capabilities) := by
  cases isMultiremote with
  | true =>
    rw [if_pos rfl]
    unfold augmentAll
    split
    · have each := gives_augmentEntry l auth config run options
      exact gives_bind (gives_augmentEntries l auth config run options each _) fun entries left =>
        gives_pure (.entries left)
    · exact gives_pure (.alone _ _ _)
  | false =>
    rw [if_neg Bool.false_ne_true]
    unfold augmentPlain
    dsimp only
    split
    · exact gives_pure (.alone _ _ _)
    · exact gives_pure (.alone _ _ _)
    · refine gives_bind (gives_handle auth run l.sink options.selfHeal) fun _ _ w => ?_
      obtain ⟨r, v, ran, left⟩ := Capability.gives_augment l.settings auth options capabilities w
      exact ⟨r, v, ran, .plain left⟩

theorem gives_attemptSetup :
    Gives (fun r =>
        DescriptorLeft l.settings (SetLeft l.settings) isMultiremote capabilities r.1 r.2)
      (l.attemptSetup config run options capabilities isMultiremote) := by
  refine gives_bind (gives_read _) fun environment _ => ?_
  split
  · exact gives_bind (gives_log _ _) fun _ _ => gives_pure (.alone _ _ _)
  · refine gives_bind (gives_attempt _) fun authenticated _ => ?_
    split
    · exact gives_pure (.alone _ _ _)
    · exact gives_injection l _ config run options capabilities isMultiremote

def Unextended (settings : Settings τ) : Prop :=
  settings.chromeExtension.filter (· ≠ "") = none

/-- The sets that a launch for one session injects into, if it comes to that: a single set has to be
eligible itself first. -/
def injectedInto (settings : Settings τ) (capabilities : Json) : List Members :=
  match capabilities with
  | .obj _ =>
    if Capability.isEligible settings capabilities matches .ok true then
      Capability.injectedInto settings capabilities
    else []
  | _ => Capability.injectedInto settings capabilities

/-- A launch comes to inject: there are credentials, the result of authentication can be exported,
and it is that of a user who may have healing. -/
def Injects (w : World ε τ) : Prop :=
  ∃ credentials auth, Credentials.resolve? config options w.environment = some credentials ∧
    ((l.authenticate credentials).run w).1 = .ok auth ∧
    Capability.isAuthorized auth options = true

variable {l} in
private theorem gives_augmentPlain_front (unextended : Unextended l.settings) :
    Gives (fun r => r.1 = capabilities ↔ (Capability.isAuthorized auth options = true →
        ∀ t ∈ injectedInto l.settings capabilities, marked l.settings t = t))
      (l.augmentPlain auth run options capabilities) := by
  have injects : Gives (fun r => r.1 = capabilities ↔ (Capability.isAuthorized auth options = true →
        ∀ t ∈ Capability.injectedInto l.settings capabilities, marked l.settings t = t))
      (do
        Instrumentation.handle l.sink auth run options.selfHeal
        Capability.augment l.settings auth options capabilities :
        Action ε τ (Json × Option Fault)) :=
    gives_bind (gives_handle auth run l.sink options.selfHeal) fun _ _ =>
      Capability.gives_augment_front unextended auth options capabilities
  cases capabilities with
  | obj m =>
    simp only [augmentPlain, injectedInto]
    cases Capability.isEligible l.settings (.obj m) with
    | error fault => exact gives_pure (iff_of_true rfl fun _ _ there => absurd there List.not_mem_nil)
    | ok isTarget =>
      cases isTarget with
      | false => exact gives_pure (iff_of_true rfl fun _ _ there => absurd there List.not_mem_nil)
      | true => exact injects
  | _ => exact injects

variable {l config run options capabilities} in
/-- Where a launch for one session does not come to inject, or has nothing new to inject, it leaves
its capabilities as they were. -/
private theorem attemptSetup_front (unextended : Unextended l.settings) {w v : World ε τ}
    {left : Json} {fault? : Option Fault}
    (ran : (l.attemptSetup config run options capabilities false).run w = (.ok (left, fault?), v)) :
    left = capabilities ↔ (Injects l config options w →
      ∀ t ∈ injectedInto l.settings capabilities, marked l.settings t = t) := by
  rw [attemptSetup, Action.run_bind, Action.run_read, Action.andThen_ok] at ran
  cases resolved : Credentials.resolve? config options w.environment with
  | none =>
    rw [resolved] at ran
    cases ran
    refine iff_of_true rfl ?_
    rintro ⟨credentials, auth, found, -⟩
    cases resolved.symm.trans found
  | some credentials =>
    simp only [resolved, Action.run_bind, Action.run_attempt, Action.andThen_ok] at ran
    cases authenticated : ((l.authenticate credentials).run w).1 with
    | error fault =>
      rw [authenticated] at ran
      cases ran
      refine iff_of_true rfl ?_
      rintro ⟨credentials', auth, found, came, -⟩
      cases resolved.symm.trans found
      cases authenticated.symm.trans came
    | ok auth =>
      simp only [authenticated, Bool.false_eq_true, if_false] at ran
      obtain ⟨r, u, came, same⟩ := gives_augmentPlain_front auth run options capabilities unextended
        ((l.authenticate credentials).run w).2
      cases came.symm.trans ran
      refine same.trans ⟨?_, fun all authorized => all ⟨credentials, auth, resolved, authenticated,
        authorized⟩⟩
      rintro all ⟨credentials', auth', found, came', authorized⟩
      cases resolved.symm.trans found
      cases authenticated.symm.trans came'
      exact all authorized

/-- A set-up ends with capabilities to go on with, whatever happens in it. Each set of them is left
alone, injected into, or, where its own injection was cut short, left with the metadata; without an
extension to inject, no injection is cut short. If a fault ended a set-up for several sessions, all
capabilities are as they were. Those for one session are, without an extension, just if no set was
injected into before the end, or none to which the metadata were new. -/
theorem setup_left (w : World ε τ) :
    ∃ left fault?,
      ((l.attemptSetup config run options capabilities isMultiremote).run w).1 =
        .ok (left, fault?) ∧
      ((l.setup config run options capabilities isMultiremote).run w).1 = .ok left ∧
      DescriptorLeft l.settings (SetLeft l.settings) isMultiremote capabilities left fault? ∧
      (Unextended l.settings →
        DescriptorLeft l.settings (Whole l.settings) isMultiremote capabilities left fault?) ∧
      (fault? ≠ none → isMultiremote = true → left = capabilities) ∧
      (isMultiremote = false → Unextended l.settings →
        (left = capabilities ↔ (Injects l config options w →
          ∀ t ∈ injectedInto l.settings capabilities, marked l.settings t = t))) := by
  obtain ⟨⟨left, fault?⟩, v, attempted, sets⟩ :=
    gives_attemptSetup l config run options capabilities isMultiremote w
  have ended : ((l.setup config run options capabilities isMultiremote).run w).1 = .ok left := by
    rw [setup, Action.run_bind_ok attempted]
    cases fault? with | _ => rfl
  refine ⟨left, fault?, by rw [attempted], ended, sets,
    fun unextended => sets.mono fun set => set.toWhole unextended, fun fault several => ?_,
    fun one unextended => ?_⟩
  · subst several
    cases sets with
    | alone => rfl
    | entries => exact absurd rfl fault
  · subst one
    exact attemptSetup_front unextended attempted

def chrome : Json :=
  .obj [("browserName", .str "chrome")]

def nameless : Json :=
  .obj [("browserName", .num (.int 5))]

def chromeLauncher (extension : Option String) : Launcher Still Rat :=
  let l := admittingLauncher { isAuthenticated := true }
  { l with settings :=
      { l.settings with supportedBrowsers := ["chrome"], chromeExtension := extension } }

/-- A list with nothing but a nameless browser is handed back as it was. -/
theorem setup_left_nameless :
    ∃ fault, (((chromeLauncher none).attemptSetup runnerConfig {} { selfHeal := true }
        (.arr [nameless]) false).run freshWorld).1 = .ok (.arr [nameless], some fault) ∧
      (((chromeLauncher none).setup runnerConfig {} { selfHeal := true } (.arr [nameless])
        false).run freshWorld).1 = .ok (.arr [nameless]) ∧
      DescriptorLeft (chromeLauncher none).settings (Whole (chromeLauncher none).settings) false
        (.arr [nameless]) (.arr [nameless]) (some fault) := by
  obtain ⟨left, fault?, attempted, ended, -, whole, -, kept⟩ :=
    setup_left (chromeLauncher none) runnerConfig {} { selfHeal := true } (.arr [nameless]) false
      freshWorld
  have unextended : Unextended (chromeLauncher none).settings := rfl
  have raised : fault? = some (.noMember "int" "lower") :=
    congrArg Prod.snd (Except.ok.inj attempted).symm
  subst raised
  have same := (kept rfl unextended).2 fun _ => nofun
  subst same
  exact ⟨_, attempted, ended, whole unextended⟩

/-- Two set-ups that are ended by a fault and yet leave their traces. The extension of the first is
missing, and its browser is left with the metadata; in the second, the browser in front was injected
into before the other one could not be judged. -/
theorem setup_leaves_traces :
    let marked : Json := .obj [("browserName", .str "chrome"), (Capability.metadataName,
      Capability.metadata (chromeLauncher none).settings)]
    let attempted (extension : Option String) (capabilities : Json) :=
      (((chromeLauncher extension).attemptSetup runnerConfig {} { selfHeal := true } capabilities
        false).run freshWorld).1
    let ended (extension : Option String) (capabilities : Json) :=
      (((chromeLauncher extension).setup runnerConfig {} { selfHeal := true } capabilities
        false).run freshWorld).1
    (attempted (some "/none.crx") chrome = .ok (marked, some (.extensionMissing "/none.crx")) ∧
      ended (some "/none.crx") chrome = .ok marked) ∧
    (attempted none (.arr [chrome, nameless]) =
        .ok (.arr [marked, nameless], some (.noMember "int" "lower")) ∧
      ended none (.arr [chrome, nameless]) = .ok (.arr [marked, nameless])) :=
  ⟨⟨rfl, rfl⟩, rfl, rfl⟩

end LocatorHealing.Launcher
