import LocatorHealing.Launch
import LocatorHealing.Proofs.Action.Traffic

set_option autoImplicit false
set_option relaxedAutoImplicit false

/-!
What a launch leaves as it was. Telling of a result may add to the warnings given, injecting may add
to the encoded files remembered, and otherwise both only make calls and write to the log.
-/

namespace LocatorHealing

open LocatorHealing.Action (Keeps)

variable {ε τ : Type} {R : World ε τ → World ε τ → Prop} {warns : Prop}

namespace Instrumentation

variable [Outside ε τ] [TimeScale τ]

theorem keeps_emit (hR : Sturdy R warns) (sink : EventSink τ) (name : String) (properties : Json) :
    Keeps R (emit sink name properties : Action ε τ Unit) := by
  unfold emit
  cases sink with
  | silent => exact hR.keeps_log _ _
  | outside => exact hR.keeps_call _
  | http url timeout =>
    refine hR.keeps_bind (Frame.keeps_attempt (hR.keeps_call _)) fun sent => ?_
    cases sent with
    | ok v => exact hR.keeps_pure ()
    | error fault => exact hR.keeps_log _ _

section Emits

variable (hR : Frame R warns) (warned : ∀ (w : World ε τ) warned, R w { w with warned })
include hR warned

omit [Outside ε τ] [TimeScale τ] in
private theorem keeps_warnIf (wanted : Bool) (message : String)
    (may : wanted = true → warns := by exact fun _ => trivial) :
    Keeps R (warnIf wanted message : Action ε τ Unit) := by
  unfold warnIf warnOnce
  split
  case isTrue asked =>
    refine hR.keeps_bind (hR.keeps_read _) fun given => ?_
    split
    · exact hR.keeps_pure ()
    · exact hR.keeps_bind (fun w => warned w _) fun _ => hR.keeps_log _ _ (.inr (may asked))
  case isFalse => exact hR.keeps_pure ()

variable {sink : EventSink τ}
  (emits : ∀ name properties, Keeps R (emit sink name properties : Action ε τ Unit))
include emits

theorem keeps_report (auth : AuthResult) (run : RunConfig) (selfHeal : Bool)
    (may : selfHeal = true → warns := by exact fun _ => trivial) :
    Keeps R (report sink auth run selfHeal : Action ε τ Unit) := by
  have tells (message : String) : Keeps R (warnIf selfHeal message : Action ε τ Unit) :=
    keeps_warnIf hR warned selfHeal message may
  have sends (event : FunnelEvent) : Keeps R (send sink run event : Action ε τ Unit) :=
    emits _ _
  unfold report
  split
  · exact tells _
  split
  · unfold authenticationFailure
    split
    · exact hR.keeps_bind (tells _) fun _ => sends _
    · exact hR.keeps_bind (tells _) fun _ => sends _
  split
  · unfold authenticationSuccess
    split
    · exact sends _
    · exact tells _
  split
  · unfold initializationFailure
    split
    · exact hR.keeps_bind (sends _) fun _ => tells _
    split
    · exact hR.keeps_bind (sends _) fun _ => tells _
    · exact hR.keeps_bind (hR.keeps_pure ()) fun _ => tells _
  · exact hR.keeps_pure ()

theorem keeps_handle_of (auth : AuthResult) (run : RunConfig) (selfHeal : Bool)
    (may : selfHeal = true → warns := by exact fun _ => trivial) :
    Keeps R (handle sink auth run selfHeal : Action ε τ Unit) := by
  refine hR.keeps_bind (Frame.keeps_attempt (keeps_report hR warned emits _ _ _ may)) fun told => ?_
  cases told with
  | ok done => exact hR.keeps_pure ()
  | error fault => exact hR.keeps_log _ _

end Emits

theorem keeps_handle (hR : Sturdy R warns)
    (warned : ∀ (w : World ε τ) warned, R w { w with warned })
    (sink : EventSink τ) (auth : AuthResult) (run : RunConfig) (selfHeal : Bool)
    (may : selfHeal = true → warns := by exact fun _ => trivial) :
    Keeps R (handle sink auth run selfHeal : Action ε τ Unit) :=
  keeps_handle_of hR.toFrame warned (keeps_emit hR sink) auth run selfHeal may

end Instrumentation

namespace Capability

variable {α : Type} (hR : Frame R warns)
include hR

private theorem keeps_changeEach {change : α → Action ε τ (Changed α)}
    (changes : ∀ a, Keeps R (change a)) (items : List α) : Keeps R (changeEach change items) := by
  induction items with
  | nil => exact hR.keeps_pure _
  | cons a rest ih =>
    refine hR.keeps_bind (changes a) fun c => ?_
    split
    · exact hR.keeps_pure _
    · exact hR.keeps_bind ih fun _ => hR.keeps_pure _

variable {inject : Injector (Action ε τ)} (injects : ∀ m, Keeps R (inject m))
  (isEligible : Eligibility)
include injects

private theorem keeps_changeTarget (entry target : Members) :
    Keeps R (changeTarget inject isEligible entry target) := by
  unfold changeTarget
  split
  · exact hR.keeps_pure _
  · exact hR.keeps_pure _
  · exact hR.keeps_bind (injects target) fun _ => hR.keeps_pure _

private theorem keeps_augmentShape (shape : Shape) : Keeps R (shape.augment inject isEligible) := by
  have target := keeps_changeTarget hR injects isEligible
  cases shape with
  | single entry => exact hR.keeps_bind (target _ _) fun _ => hR.keeps_pure _
  | list items firstOnly =>
    refine hR.keeps_bind (keeps_changeEach hR (fun item => ?_) _) fun _ => hR.keeps_pure _
    cases item with
    | obj entry => exact hR.keeps_bind (target _ _) fun _ => hR.keeps_pure _
    | _ => exact hR.keeps_pure _
  | named entries =>
    refine hR.keeps_bind (keeps_changeEach hR (fun named => ?_) _) fun _ => hR.keeps_pure _
    unfold changeEntry
    split
    · split
      · exact hR.keeps_bind (target _ _) fun _ => hR.keeps_pure _
      · exact hR.keeps_pure _
    · exact hR.keeps_pure _

omit injects

variable (encoded : ∀ (w : World ε τ) encoded, R w { w with encoded })
include encoded

private theorem keeps_inject (settings : Settings τ) (m : Members) :
    Keeps R (Capability.inject settings m : Action ε τ (Members × Option Fault)) := by
  have encodes (path : String) : Keeps R (encodedExtension path : Action ε τ String) := by
    refine hR.keeps_bind (hR.keeps_read _) fun files => ?_
    refine hR.keeps_bind (hR.keeps_ofExcept _) fun file => ?_
    split
    · exact hR.keeps_raise _
    · refine hR.keeps_bind (hR.keeps_read _) fun memory => ?_
      exact hR.keeps_bind (fun w => encoded w _) fun _ => hR.keeps_pure _
  unfold Capability.inject
  dsimp only
  split
  · refine hR.keeps_bind (Frame.keeps_attempt (encodes _)) fun text => ?_
    split
    · exact hR.keeps_pure _
    · exact hR.keeps_pure _
  · exact hR.keeps_pure _

private theorem keeps_augment (settings : Settings τ) (auth : AuthResult) (options : HealingOptions)
    (capabilities : Json)
    (may : options.selfHeal = true → warns := by exact fun _ => trivial) :
    Keeps R (augment settings auth options capabilities : Action ε τ (Json × Option Fault)) := by
  unfold augment
  dsimp only
  split
  · split
    · exact hR.keeps_pure _
    · refine hR.keeps_bind (keeps_augmentShape hR (keeps_inject hR encoded settings) _ _)
        fun c => ?_
      split
      · exact hR.keeps_pure _
      · exact hR.keeps_bind (hR.keeps_log _ _) fun _ => hR.keeps_pure _
  · split
    case isTrue asked =>
      exact hR.keeps_bind (hR.keeps_log _ _ (.inr (may asked))) fun _ => hR.keeps_pure _
    case isFalse => exact hR.keeps_pure _

end Capability

namespace Launcher

variable [Outside ε τ] [TimeScale τ]

section Handles

variable (hR : Frame R warns) (encoded : ∀ (w : World ε τ) encoded, R w { w with encoded })
  (l : Launcher ε τ) (auth : AuthResult) (config : LaunchConfig) (run : RunConfig)
  (options : HealingOptions)
  (handles : Keeps R (Instrumentation.handle l.sink auth run options.selfHeal : Action ε τ Unit))
  (may : options.selfHeal = true → warns)
include hR encoded handles may

private theorem keeps_augmentEntry (name : String) (entry : Json) :
    Keeps R (l.augmentEntry auth config run options name entry) := by
  have augments (capabilities : Json) : Keeps R
      (Capability.augment l.settings auth options capabilities :
        Action ε τ (Json × Option Fault)) :=
    Capability.keeps_augment hR encoded l.settings auth options capabilities may
  unfold augmentEntry
  split
  · refine hR.keeps_bind (Frame.keeps_attempt (hR.keeps_ofExcept _)) fun isTarget => ?_
    split
    · exact hR.keeps_pure _
    · exact hR.keeps_bind (hR.keeps_log _ _) fun _ => hR.keeps_pure _
    · refine hR.keeps_bind (hR.keeps_read _) fun environment => ?_
      split
      · exact hR.keeps_pure _
      · refine hR.keeps_bind handles fun _ => ?_
        exact hR.keeps_bind (augments _) fun _ => hR.keeps_pure _
  · exact hR.keeps_pure _

private theorem keeps_augmentEntries (entries : Members) :
    Keeps R (l.augmentEntries auth config run options entries) := by
  induction entries with
  | nil => exact hR.keeps_pure _
  | cons p rest ih =>
    obtain ⟨name, entry⟩ := p
    refine hR.keeps_bind (keeps_augmentEntry hR encoded l auth config run options handles may _ _)
      fun left => ?_
    have goes : Keeps R (do
        return (name, left.1) :: (← l.augmentEntries auth config run options rest)) :=
      hR.keeps_bind ih fun _ => hR.keeps_pure _
    obtain ⟨left, fault?⟩ := left
    cases fault? with
    | none => exact goes
    | some fault => exact hR.keeps_bind (hR.keeps_report options _ may) fun _ => goes

/-- Injecting into capabilities, however they are laid out, keeps a frame that telling of the result
keeps. -/
theorem keeps_injection_of (capabilities : Json) (isMultiremote : Bool) :
    Keeps R (if isMultiremote then l.augmentAll auth config run options capabilities
      else l.augmentPlain auth run options capabilities) := by
  split
  · unfold augmentAll
    split
    · exact hR.keeps_bind (keeps_augmentEntries hR encoded l auth config run options handles may _)
        fun _ => hR.keeps_pure _
    · exact hR.keeps_pure _
  · unfold augmentPlain
    dsimp only
    split
    · exact hR.keeps_pure _
    · exact hR.keeps_pure _
    · refine hR.keeps_bind handles fun _ => ?_
      exact Capability.keeps_augment hR encoded _ _ _ _ may

end Handles

theorem keeps_injection (hR : Sturdy R warns)
    (warned : ∀ (w : World ε τ) warned, R w { w with warned })
    (encoded : ∀ (w : World ε τ) encoded, R w { w with encoded })
    (l : Launcher ε τ) (auth : AuthResult) (config : LaunchConfig) (run : RunConfig)
    (options : HealingOptions) (may : options.selfHeal = true → warns)
    (capabilities : Json) (isMultiremote : Bool) :
    Keeps R (if isMultiremote then l.augmentAll auth config run options capabilities
      else l.augmentPlain auth run options capabilities) :=
  keeps_injection_of hR.toFrame encoded l auth config run options
    (Instrumentation.keeps_handle hR warned _ _ _ _ may) may capabilities isMultiremote

end Launcher

end LocatorHealing
