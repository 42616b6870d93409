import LocatorHealing.Launch
import LocatorHealing.Proofs.Action.Pair

set_option autoImplicit false
set_option relaxedAutoImplicit false

/-!
Two injections side by side. Which targets are changed and what is put there is decided by the
settings, by the text of the extension and by whether there are credentials. Where these are the
same, and telling of a result comes to the same, the same is injected, with the same faults.
-/

namespace LocatorHealing

open LocatorHealing.Action (Pairs pairs_pure pairs_ofExcept pairs_read pairs_bind pairs_then
  pairs_attempt)

variable {ε τ : Type} {R : World ε τ → World ε τ → Prop}

namespace Instrumentation

variable [Outside ε τ] [TimeScale τ] {T : τ → τ → Prop} [Parallel T] (hR : Companions T R)
  (reacts : ∀ {α : Type} (f : ε → α × ε), ReactsAlike R f)
  (logs : ∀ level message, Pairs R Eq (Action.log level message) (Action.log level message))
include hR reacts logs

private theorem pairs_emit (sink : EventSink τ) (name : String) (properties : Json) :
    Pairs R Eq (emit sink name properties) (emit sink name properties) := by
  unfold emit
  cases sink with
  | silent => exact logs _ _
  | outside => exact hR.pairs_perform (reacts _)
  | http url timeout =>
    refine pairs_then (pairs_attempt (hR.pairs_perform (reacts _))) fun sent => ?_
    cases sent with
    | ok v => exact pairs_pure rfl
    | error fault => exact logs _ _

variable (warns : Pairs R Eq (Action.read World.warned) (Action.read World.warned))
  (warned : ∀ message, Pairs R Eq
    (Action.modify fun w => { w with warned := w.warned ++ [message] })
    (Action.modify fun w => { w with warned := w.warned ++ [message] }))
include warns warned

omit [Outside ε τ] [TimeScale τ] [Parallel T] hR reacts in
private theorem pairs_warnIf (wanted : Bool) (message : String) :
    Pairs R Eq (warnIf wanted message) (warnIf wanted message) := by
  unfold warnIf warnOnce
  split
  · refine pairs_then warns fun given => ?_
    split
    · exact pairs_pure rfl
    · exact pairs_then (warned message) fun _ => logs _ _
  · exact pairs_pure rfl

private theorem pairs_report (sink : EventSink τ) (auth : AuthResult) (run : RunConfig)
    (selfHeal : Bool) :
    Pairs R Eq (report sink auth run selfHeal) (report sink auth run selfHeal) := by
  have tells := pairs_warnIf logs warns warned
  have sends (event : FunnelEvent) : Pairs R Eq (send sink run event) (send sink run event) :=
    pairs_emit hR reacts logs _ _ _
  unfold report
  split
  · exact tells _ _
  split
  · unfold authenticationFailure
    split
    · exact pairs_then (tells _ _) fun _ => sends _
    · exact pairs_then (tells _ _) fun _ => sends _
  split
  · unfold authenticationSuccess
    split
    · exact sends _
    · exact tells _ _
  split
  · unfold initializationFailure
    split
    · exact pairs_then (sends _) fun _ => tells _ _
    split
    · exact pairs_then (sends _) fun _ => tells _ _
    · exact tells selfHeal _
  · exact pairs_pure rfl

theorem pairs_handle (sink : EventSink τ) (auth : AuthResult) (run : RunConfig)
    (selfHeal : Bool) :
    Pairs R Eq (handle sink auth run selfHeal) (handle sink auth run selfHeal) := by
  refine pairs_then (pairs_attempt (pairs_report hR reacts logs warns warned _ _ _ _))
    fun told => ?_
  cases told with
  | ok done => exact pairs_pure rfl
  | error fault => exact logs _ _

end Instrumentation

namespace Capability

variable {α : Type}

private theorem pairs_changeEach {change : α → Action ε τ (Changed α)}
    (changes : ∀ a, Pairs R Eq (change a) (change a)) (items : List α) :
    Pairs R Eq (changeEach change items) (changeEach change items) := by
  induction items with
  | nil => exact pairs_pure rfl
  | cons a rest ih =>
    refine pairs_then (changes a) fun c => ?_
    split
    · exact pairs_pure rfl
    · exact pairs_then ih fun _ => pairs_pure rfl

variable {inject : Injector (Action ε τ)} (injects : ∀ m, Pairs R Eq (inject m) (inject m))
  (isEligible : Eligibility)
include injects

private theorem pairs_changeTarget (entry target : Members) :
    Pairs R Eq (changeTarget inject isEligible entry target)
      (changeTarget inject isEligible entry target) := by
  unfold changeTarget
  split
  · exact pairs_pure rfl
  · exact pairs_pure rfl
  · exact pairs_then (injects target) fun _ => pairs_pure rfl

private theorem pairs_augmentShape (shape : Shape) :
    Pairs R Eq (shape.augment inject isEligible) (shape.augment inject isEligible) := by
  have target := pairs_changeTarget injects isEligible
  cases shape with
  | single entry => exact pairs_then (target _ _) fun _ => pairs_pure rfl
  | list items firstOnly =>
    refine pairs_then (pairs_changeEach (fun item => ?_) _) fun _ => pairs_pure rfl
    cases item with
    | obj entry => exact pairs_then (target _ _) fun _ => pairs_pure rfl
    | _ => exact pairs_pure rfl
  | named entries =>
    refine pairs_then (pairs_changeEach (fun named => ?_) _) fun _ => pairs_pure rfl
    unfold changeEntry
    split
    · split
      · exact pairs_then (target _ _) fun _ => pairs_pure rfl
      · exact pairs_pure rfl
    · exact pairs_pure rfl

omit injects

variable {settings : Settings τ}
  (logs : ∀ level message, Pairs R Eq (Action.log level message) (Action.log level message))
  (encodes : ∀ path, settings.chromeExtension.filter (· ≠ "") = some path →
    Pairs R Eq (encodedExtension path) (encodedExtension path))
include encodes

private theorem pairs_inject (m : Members) :
    Pairs R Eq (Capability.inject settings m) (Capability.inject settings m) := by
  unfold Capability.inject
  dsimp only
  split
  next key path _ there =>
    refine pairs_then (pairs_attempt (encodes path there)) fun encoded => ?_
    cases encoded with
    | ok text => exact pairs_pure rfl
    | error fault => exact pairs_pure rfl
  next => exact pairs_pure rfl

include logs

private theorem pairs_augment (auth : AuthResult) {options options' : HealingOptions}
    (heals : options'.selfHeal = options.selfHeal) (capabilities : Json) :
    Pairs R Eq (augment settings auth options capabilities)
      (augment settings auth options' capabilities) := by
  unfold augment isAuthorized
  rw [heals]
  split
  · split
    · exact pairs_pure rfl
    · refine pairs_then (pairs_augmentShape (pairs_inject encodes) _ _) fun c => ?_
      split
      · exact pairs_pure rfl
      · exact pairs_then (logs _ _) fun _ => pairs_pure rfl
  · split
    · exact pairs_then (logs _ _) fun _ => pairs_pure rfl
    · exact pairs_pure rfl

end Capability

namespace Launcher

variable [Outside ε τ] [TimeScale τ]

/-- Two injections that are given the same but for the credentials, in related worlds: what they
read, and what they do on the way, comes to the same. -/
structure Alike (R : World ε τ → World ε τ → Prop) (l : Launcher ε τ) (auth : AuthResult)
    (config config' : LaunchConfig) (run run' : RunConfig) (options options' : HealingOptions) :
    Prop where
  heals : options'.selfHeal = options.selfHeal
  resolves : ∀ w v, R w v → (Credentials.resolve? config options w.environment).isSome =
    (Credentials.resolve? config' options' v.environment).isSome
  logs : ∀ level message, Pairs R Eq (Action.log level message) (Action.log level message)
  encodes : ∀ path, l.settings.chromeExtension.filter (· ≠ "") = some path →
    Pairs R Eq (Capability.encodedExtension path) (Capability.encodedExtension path)
  handles : Pairs R Eq (Instrumentation.handle l.sink auth run options.selfHeal)
    (Instrumentation.handle l.sink auth run' options'.selfHeal)

variable {l : Launcher ε τ} {auth : AuthResult} {config config' : LaunchConfig}
  {run run' : RunConfig} {options options' : HealingOptions}
  (alike : l.Alike R auth config config' run run' options options')
include alike

private theorem pairs_report (message : String) :
    Pairs R Eq (Action.report options message) (Action.report options' message) := by
  unfold Action.report
  rw [alike.heals]
  exact alike.logs _ _

theorem pairs_augmentEntry (name : String) (entry : Json) :
    Pairs R Eq (l.augmentEntry auth config run options name entry)
      (l.augmentEntry auth config' run' options' name entry) := by
  have augments := Capability.pairs_augment alike.logs alike.encodes auth alike.heals
  unfold augmentEntry
  cases entry with
  | obj m =>
    refine pairs_then (pairs_attempt (pairs_ofExcept (.refl _))) fun isTarget => ?_
    dsimp only
    split
    · exact pairs_pure rfl
    · exact pairs_then (alike.logs _ _) fun _ => pairs_pure rfl
    · -- of the credentials it only matters whether there are any
      refine pairs_bind (pairs_read (V := fun vars vars' =>
        (Credentials.resolve? config options vars).isSome =
          (Credentials.resolve? config' options' vars').isSome) alike.resolves) ?_
      intro vars vars' same
      cases found : Credentials.resolve? config options vars with
      | none =>
        have missing : Credentials.resolve? config' options' vars' = none := by
          rw [found, Option.isSome_none] at same
          exact Option.not_isSome_iff_eq_none.1 (ne_true_of_eq_false same.symm)
        rw [missing]
        exact pairs_pure rfl
      | some credentials =>
        rw [found, Option.isSome_some] at same
        obtain ⟨credentials', found'⟩ := Option.isSome_iff_exists.1 same.symm
        rw [found']
        exact pairs_then alike.handles fun _ => pairs_then (augments _) fun _ => pairs_pure rfl
  | _ => exact pairs_pure rfl

private theorem pairs_augmentEntries (entries : Members) :
    Pairs R Eq (l.augmentEntries auth config run options entries)
      (l.augmentEntries auth config' run' options' entries) := by
  induction entries with
  | nil => exact pairs_pure rfl
  | cons p rest ih =>
    obtain ⟨name, entry⟩ := p
    refine pairs_then (pairs_augmentEntry alike name entry) fun left => ?_
    obtain ⟨left, fault?⟩ := left
    have others : Pairs R Eq
        (do return (name, left) :: (← l.augmentEntries auth config run options rest))
        (do return (name, left) :: (← l.augmentEntries auth config' run' options' rest)) :=
      pairs_then ih fun _ => pairs_pure rfl
    cases fault? with
    | none => exact others
    | some fault => exact pairs_then (pairs_report alike _) fun _ => others

theorem pairs_injection (capabilities : Json) (isMultiremote : Bool) :
    Pairs R Eq
      (if isMultiremote then l.augmentAll auth config run options capabilities
        else l.augmentPlain auth run options capabilities)
      (if isMultiremote then l.augmentAll auth config' run' options' capabilities
        else l.augmentPlain auth run' options' capabilities) := by
  split
  · unfold augmentAll
    cases capabilities with
    | obj entries =>
      exact pairs_then (pairs_augmentEntries alike entries) fun _ => pairs_pure rfl
    | _ => exact pairs_pure rfl
  · unfold augmentPlain
    dsimp only
    split
    · exact pairs_pure rfl
    · exact pairs_pure rfl
    · refine pairs_then alike.handles fun _ => ?_
      exact Capability.pairs_augment alike.logs alike.encodes auth alike.heals capabilities

end Launcher

end LocatorHealing
