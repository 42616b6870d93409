import Mathlib.Data.List.Forall2
import LocatorHealing.Proofs.Capability.Extension
import LocatorHealing.Proofs.Launch.Capabilities
import LocatorHealing.Proofs.Launch.Pair
import LocatorHealing.Proofs.Launch.Sharing
import LocatorHealing.Proofs.Session.History

set_option autoImplicit false
set_option relaxedAutoImplicit false

/-!
Named entries are on their own. What is left of an entry depends on the environment, the files and
the text of the extension, and none of its siblings changes these, whichever of them fail: warnings
given, events sent and files remembered are all that passes from one to the next. Sessions under
names are set up one after the other, each of them once.
-/

namespace LocatorHealing

open LocatorHealing.Action (Pairs Keeps)

variable {ε τ : Type}

namespace World

/-- A world holds all that injecting reads in another one: the environment, the files, and the text
of the extension that the settings name. -/
structure SameGround (settings : Settings τ) (w v : World ε τ) : Prop where
  environment : v.environment = w.environment
  files : v.files = w.files
  extension : ∀ path, settings.chromeExtension.filter (· ≠ "") = some path →
    ((Capability.encodedExtension path).run v).1 = ((Capability.encodedExtension path).run w).1

variable {settings : Settings τ} {u w v : World ε τ}

theorem SameGround.refl (w : World ε τ) : w.SameGround settings w :=
  ⟨rfl, rfl, fun _ _ => rfl⟩

theorem SameGround.trans (first : u.SameGround settings v) (second : v.SameGround settings w) :
    u.SameGround settings w where
  environment := second.environment.trans first.environment
  files := second.files.trans first.files
  extension path named := (second.extension path named).trans (first.extension path named)

theorem SameGround.symm (ground : w.SameGround settings v) : v.SameGround settings w where
  environment := ground.environment.symm
  files := ground.files.symm
  extension path named := (ground.extension path named).symm

private theorem SameGround.of_encoded (environment : v.environment = w.environment)
    (files : v.files = w.files) (encoded : v.encoded = w.encoded) : w.SameGround settings v :=
  ⟨environment, files, fun path _ => Capability.encodedExtension_congr path files encoded⟩

def OnGround (settings : Settings τ) (u w v : World ε τ) : Prop :=
  u.SameGround settings w ∧ u.SameGround settings v

def SameStock (w v : World ε τ) : Prop :=
  v.environment = w.environment ∧ v.files = w.files ∧ v.encoded = w.encoded

private theorem sturdy_sameStock : Sturdy (SameStock (ε := ε) (τ := τ)) where
  refl _ := ⟨rfl, rfl, rfl⟩
  trans first second :=
    ⟨second.1.trans first.1, second.2.1.trans first.2.1, second.2.2.trans first.2.2⟩
  log _ _ _ := ⟨rfl, rfl, rfl⟩
  clock _ _ := ⟨rfl, rfl, rfl⟩
  trace _ _ := ⟨rfl, rfl, rfl⟩
  outside _ _ := ⟨rfl, rfl, rfl⟩
  closes _ _ := ⟨rfl, rfl, rfl⟩
  loses _ _ := ⟨rfl, rfl, rfl⟩

private theorem SameStock.sameGround (stock : w.SameStock v) : w.SameGround settings v :=
  .of_encoded stock.1 stock.2.1 stock.2.2

end World

open World (SameGround OnGround SameStock sturdy_sameStock)

section Ground

variable {settings : Settings τ} {α : Type}

private theorem keeps_encodedExtension {path : String}
    (named : settings.chromeExtension.filter (· ≠ "") = some path) :
    Keeps (SameGround settings) (Capability.encodedExtension path : Action ε τ String) := by
  intro w
  obtain ⟨encoded, after, again⟩ := Capability.encodedExtension_again path w
  rw [after]
  refine ⟨rfl, rfl, fun other named' => ?_⟩
  obtain rfl : path = other := Option.some.inj (named.symm.trans named')
  exact again

/-- On common ground an action comes to the same twice, if the ground decides what it comes to and
is left as it is. -/
private theorem pairs_onGround {x : Action ε τ α} (u : World ε τ)
    (decided : ∀ w v, u.SameGround settings w → u.SameGround settings v →
      (x.run w).1 = (x.run v).1)
    (keeps : Keeps (SameGround settings) x) : Pairs (OnGround settings u) Eq x x := by
  intro w v ⟨first, second⟩
  rw [decided w v first second]
  exact ⟨.refl _, first.trans (keeps w), second.trans (keeps v)⟩

private theorem pairs_onGround_of_gives {x : Action ε τ Unit} (u : World ε τ)
    (gives : Action.Gives (fun _ => True) x) (keeps : Keeps SameStock x) :
    Pairs (OnGround settings u) Eq x x := by
  refine pairs_onGround u (fun w v _ _ => ?_) fun w => (keeps w).sameGround
  obtain ⟨_, _, first, -⟩ := gives w
  obtain ⟨_, _, second, -⟩ := gives v
  rw [first, second]

end Ground

namespace Launcher

variable [Outside ε τ] [TimeScale τ] (l : Launcher ε τ) (auth : AuthResult) (config : LaunchConfig)
  (run : RunConfig) (options : HealingOptions)

private theorem alike_onGround (u : World ε τ) :
    l.Alike (OnGround l.settings u) auth config config run run options options where
  heals := rfl
  resolves w v grounds := by rw [grounds.1.environment, grounds.2.environment]
  logs level message :=
    pairs_onGround_of_gives u (Action.gives_log level message)
      (sturdy_sameStock.keeps_log level message)
  encodes path named :=
    pairs_onGround u
      (fun w v first second =>
        (first.extension path named).trans (second.extension path named).symm)
      (keeps_encodedExtension named)
  handles := by
    have leaves : Keeps SameStock
        (Instrumentation.handle l.sink auth run options.selfHeal : Action ε τ Unit) :=
      Instrumentation.keeps_handle sturdy_sameStock (fun _ _ => ⟨rfl, rfl, rfl⟩) _ _ _ _
    exact pairs_onGround_of_gives u (gives_handle auth run l.sink options.selfHeal) leaves

def Leaves (w : World ε τ) (name : String) (entry left : Json) : Prop :=
  ∃ fault?, ((l.augmentEntry auth config run options name entry).run w).1 = .ok (left, fault?)

variable {l auth config run options}

theorem Leaves.unique {w : World ε τ} {name : String} {entry left left' : Json}
    (leaves : l.Leaves auth config run options w name entry left)
    (leaves' : l.Leaves auth config run options w name entry left') : left = left' := by
  obtain ⟨_, ran⟩ := leaves
  obtain ⟨_, ran'⟩ := leaves'
  cases ran.symm.trans ran'
  rfl

private theorem Leaves.of_sameGround {w v : World ε τ} {name : String} {entry left : Json}
    (leaves : l.Leaves auth config run options w name entry left)
    (ground : w.SameGround l.settings v) :
    l.Leaves auth config run options v name entry left := by
  obtain ⟨fault?, ran⟩ := leaves
  have same := (pairs_augmentEntry (alike_onGround l auth config run options w) name entry w v
    ⟨.refl w, ground⟩).1.eq
  exact ⟨fault?, same.symm.trans ran⟩

variable (l auth config run options)

private theorem run_augmentEntries_cons (name : String) (entry : Json) (rest : Members)
    (w : World ε τ) :
    ∃ left v, l.Leaves auth config run options w name entry left ∧
      w.SameGround l.settings v ∧
      (l.augmentEntries auth config run options ((name, entry) :: rest)).run w =
        (do return (name, left) :: (← l.augmentEntries auth config run options rest)).run v := by
  have kept := (pairs_augmentEntry (alike_onGround l auth config run options w) name entry w w
    ⟨.refl w, .refl w⟩).2.1
  obtain ⟨⟨left, fault?⟩, v, ran, -⟩ := gives_augmentEntry l auth config run options name entry w
  rw [ran] at kept
  have leaves : l.Leaves auth config run options w name entry left := ⟨fault?, by rw [ran]⟩
  rw [augmentEntries, Action.run_bind_ok ran]
  cases fault? with
  | none => exact ⟨left, v, leaves, kept, rfl⟩
  | some fault =>
    obtain ⟨log, told⟩ := Action.run_log (if options.selfHeal then .warning else .debug)
      ("Could not add healing capabilities for " ++ name ++ ": " ++ fault.message) v
    refine ⟨left, { v with log }, leaves, kept.trans (.of_encoded rfl rfl rfl), ?_⟩
    exact Action.run_bind_ok told

private theorem run_augmentEntries (entries : Members) (w : World ε τ) :
    ∃ left v, (l.augmentEntries auth config run options entries).run w = (.ok left, v) ∧
      List.Forall₂ (fun p q => q.1 = p.1 ∧ l.Leaves auth config run options w p.1 p.2 q.2)
        entries left := by
  induction entries generalizing w with
  | nil => exact ⟨[], w, rfl, .nil⟩
  | cons p rest ih =>
    obtain ⟨name, entry⟩ := p
    obtain ⟨first, u, leaves, ground, ran⟩ :=
      run_augmentEntries_cons l auth config run options name entry rest w
    obtain ⟨others, v, went, left⟩ := ih u
    refine ⟨(name, first) :: others, v, ?_, .cons ⟨rfl, leaves⟩ ?_⟩
    · rw [ran, Action.run_bind_ok went]
      rfl
    · exact left.imp fun p q ⟨named, leaves⟩ => ⟨named, leaves.of_sameGround ground.symm⟩

variable {l auth config run options}

theorem Leaves.alone {v : World ε τ} {name : String} {entry left : Json}
    (leaves : l.Leaves auth config run options v name entry left) :
    ((l.augmentAll auth config run options (.obj [(name, entry)])).run v).1 =
      .ok (.obj [(name, left)], none) := by
  obtain ⟨entries, u, ran, each⟩ := run_augmentEntries l auth config run options [(name, entry)] v
  obtain ⟨⟨name', left'⟩, others, ⟨named, leaves'⟩, none, rfl⟩ := List.forall₂_cons_left_iff.1 each
  obtain rfl := List.forall₂_nil_left_iff.1 none
  obtain rfl : name' = name := named
  obtain rfl : left' = left := leaves'.unique leaves
  rw [augmentAll, Action.run_bind_ok ran]
  rfl

end Launcher

/-- Calls made one after the other: each of them once, in the world that the one before it has left,
where nothing is added but to the log. -/
inductive Calls {α : Type} (call : String → Action ε τ α) :
    List String → World ε τ → World ε τ → Prop where
  | done (w : World ε τ) : Calls call [] w w
  | next {key : String} {rest : List String} {w v : World ε τ} (log : List (Level × String))
      (others : Calls call rest { ((call key).run w).2 with log } v) :
      Calls call (key :: rest) w v

private theorem Worker.setupEach_calls {α : Type} (options : HealingOptions)
    (setupOne : String → Action ε τ α) (sessions : List (String × String)) (w : World ε τ) :
    ∃ v, (setupEach options setupOne sessions).run w = (.ok (), v) ∧
      Calls setupOne (sessions.map Prod.snd) w v := by
  induction sessions generalizing w with
  | nil => exact ⟨w, rfl, .done w⟩
  | cons p rest ih =>
    obtain ⟨name, key⟩ := p
    have first : ∃ log, (setupEach options setupOne ((name, key) :: rest)).run w =
        (setupEach options setupOne rest).run { ((setupOne key).run w).2 with log } := by
      rw [setupEach, Action.each_cons, bind_assoc, Action.run_bind_ok (Action.run_attempt _ _)]
      cases ((setupOne key).run w).1 with
      | ok _ => exact ⟨_, rfl⟩
      | error fault =>
        obtain ⟨log, told⟩ := Action.run_log (if options.selfHeal then .warning else .debug)
          ("Error while setting up self-healing for " ++ name ++ ": " ++ fault.message)
          ((setupOne key).run w).2
        exact ⟨log, Action.run_bind_ok told⟩
    obtain ⟨log, ran⟩ := first
    obtain ⟨v, went, calls⟩ := ih { ((setupOne key).run w).2 with log }
    exact ⟨v, ran.trans went, .next log calls⟩

namespace Launcher

variable [Outside ε τ] [TimeScale τ] (l : Launcher ε τ) (auth : AuthResult) (config : LaunchConfig)
  (run : RunConfig) (options : HealingOptions)

private theorem augmentAll_isolated (entries : Members) (w : World ε τ) :
    ∃ left v,
      (l.augmentAll auth config run options (.obj entries)).run w = (.ok (.obj left, none), v) ∧
      List.Forall₂ (fun p q => q.1 = p.1 ∧ ∀ u : World ε τ, w.SameGround l.settings u →
        ((l.augmentAll auth config run options (.obj [p])).run u).1 = .ok (.obj [q], none))
        entries left := by
  obtain ⟨left, v, ran, each⟩ := l.run_augmentEntries auth config run options entries w
  refine ⟨left, v, ?_, each.imp fun p q ⟨named, leaves⟩ => ⟨named, fun u ground => ?_⟩⟩
  · rw [augmentAll, Action.run_bind_ok ran]
    rfl
  · obtain ⟨name, entry⟩ := p
    obtain ⟨name', after⟩ := q
    obtain rfl : name' = name := named
    exact (leaves.of_sameGround ground).alone

private theorem augmentAll_of_shared {entries : List (String × Holder)}
    (unshared : Unshared entries) (cells : Nat → Json) (w : World ε τ) :
    ∃ cells' v, (l.augmentShared auth config run options entries cells).run w = (.ok cells', v) ∧
      (l.augmentAll auth config run options (.obj (seen cells entries))).run w =
        (.ok (.obj (seen cells' entries), none), v) := by
  obtain ⟨cells', v, shared, each, -⟩ :=
    run_augmentShared l auth config run options unshared cells w
  refine ⟨cells', v, shared, ?_⟩
  rw [augmentAll, Action.run_bind_ok each]
  rfl

end Launcher

open Launcher (Holder Unshared seen)

/-- Entries and sessions under names do not meet. To inject into a mapping whose entries share
nothing never fails, keeps the names in their order, and leaves each entry as it would be left if
there were no other one, whichever of them fail; so it does with a mapping of values. To set up
sessions never fails either, and calls for a set-up once for each name. -/
theorem named_isolated [Outside ε τ] [TimeScale τ] :
    (∀ (l : Launcher ε τ) (auth : AuthResult) (config : LaunchConfig) (run : RunConfig)
      (options : HealingOptions) (entries : List (String × Holder)) (cells : Nat → Json)
      (w : World ε τ), Unshared entries → ∃ cells' v,
        (l.augmentShared auth config run options entries cells).run w = (.ok cells', v) ∧
        (l.augmentAll auth config run options (.obj (seen cells entries))).run w =
          (.ok (.obj (seen cells' entries), none), v) ∧
        ∀ p ∈ entries, ∀ u : World ε τ, w.SameGround l.settings u → ∃ alone v',
          (l.augmentShared auth config run options [p] cells).run u = (.ok alone, v') ∧
          p.2.view cells' = p.2.view alone) ∧
    (∀ (l : Launcher ε τ) (auth : AuthResult) (config : LaunchConfig) (run : RunConfig)
      (options : HealingOptions) (entries : Members) (w : World ε τ), ∃ left v,
        (l.augmentAll auth config run options (.obj entries)).run w = (.ok (.obj left, none), v) ∧
        List.Forall₂ (fun p q => q.1 = p.1 ∧ ∀ u : World ε τ, w.SameGround l.settings u →
          ((l.augmentAll auth config run options (.obj [p])).run u).1 = .ok (.obj [q], none))
          entries left) ∧
    ∀ (α : Type) (setupOne : String → Action ε τ α) (options : HealingOptions)
      (sessions : List (String × String)) (w : World ε τ), ∃ v,
        (Worker.setupEach options setupOne sessions).run w = (.ok (), v) ∧
        Calls setupOne (sessions.map Prod.snd) w v := by
  refine ⟨?_, Launcher.augmentAll_isolated,
    fun α setupOne options => Worker.setupEach_calls options setupOne⟩
  intro l auth config run options entries cells w unshared
  obtain ⟨cells', v, shared, together⟩ :=
    l.augmentAll_of_shared auth config run options unshared cells w
  obtain ⟨left, v', ran, each⟩ :=
    l.augmentAll_isolated auth config run options (seen cells entries) w
  cases ran.symm.trans together
  rw [seen, seen, List.forall₂_map_left_iff, List.forall₂_map_right_iff, List.forall₂_same] at each
  refine ⟨cells', v, shared, together, fun p there u ground => ?_⟩
  have sole : Unshared [p] := List.pairwise_singleton _ p.2.place
  obtain ⟨alone, t, single, one⟩ := l.augmentAll_of_shared auth config run options sole cells u
  have same := (congrArg Prod.fst one).symm.trans ((each p there).2 u ground)
  refine ⟨alone, t, single, ?_⟩
  simp only [seen, List.map_cons, List.map_nil, Except.ok.injEq, Prod.mk.injEq, Json.obj.injEq,
    List.cons.injEq, and_true, true_and] at same
  exact same.symm

namespace Launcher

def admitted (entries : List (String × Holder)) (cells : Nat → Json) :
    Action Still Rat (Nat → Json) :=
  (chromeLauncher none).augmentShared { isAuthenticated := true } runnerConfig {}
    { selfHeal := true } entries cells

def markedChrome : Json :=
  .obj [("browserName", .str "chrome"),
    (Capability.metadataName, Capability.metadata (chromeLauncher none).settings)]

def mixed : List (String × Holder) :=
  [("empty", .itself 0), ("unnamed", .holding [] 1), ("browser", .holding [] 2)]

def mixedCells : Nat → Json
  | 0 => .null
  | 1 => nameless
  | _ => chrome

/-- Two of the entries fail. The third one comes last, and is injected into as if it had come
alone. -/
theorem named_isolated_mixed :
    Unshared mixed ∧ ∃ cells v,
      (admitted mixed mixedCells).run freshWorld = (.ok cells, v) ∧
      seen cells mixed = [("empty", .null), ("unnamed", .obj [("capabilities", nameless)]),
        ("browser", .obj [("capabilities", markedChrome)])] ∧
      ∀ u, freshWorld.SameGround (chromeLauncher none).settings u → ∃ alone v',
        (admitted [("browser", .holding [] 2)] mixedCells).run u = (.ok alone, v') ∧
        (Holder.holding [] 2).view alone = .obj [("capabilities", markedChrome)] := by
  have unshared : Unshared mixed := by
    rw [Unshared]
    decide
  obtain ⟨isolated, -⟩ := @named_isolated Still Rat _ _
  obtain ⟨cells, v, ran, -, each⟩ := isolated (chromeLauncher none) { isAuthenticated := true }
    runnerConfig {} { selfHeal := true } mixed mixedCells freshWorld unshared
  have together : ((admitted mixed mixedCells).run freshWorld).1.map (seen · mixed) =
      .ok [("empty", .null), ("unnamed", .obj [("capabilities", nameless)]),
        ("browser", .obj [("capabilities", markedChrome)])] := rfl
  rw [admitted, ran] at together
  have left := Except.ok.inj together
  refine ⟨unshared, cells, v, ran, left, fun u ground => ?_⟩
  obtain ⟨alone, v', single, same⟩ := each ("browser", .holding [] 2) (by simp [mixed]) u ground
  refine ⟨alone, v', single, same.symm.trans ?_⟩
  simp only [seen, mixed, List.map_cons, List.cons.injEq, Prod.mk.injEq] at left
  exact left.2.2.1.2

/-- An entry on the provider's own infrastructure, and one that is not. Both hold the same set. -/
def sharing : List (String × Holder) :=
  [("grid", .holding [("hostname", .str "hub.healing.test")] 0), ("local", .holding [] 0)]

/-- Where two entries hold the same set, what is injected for one of them is there in the other,
which is spared when it comes alone. And where a session stands under two names, it is set up
twice. -/
theorem named_meet :
    let grid (set : Json) : Json :=
      .obj [("hostname", .str "hub.healing.test"), ("capabilities", set)]
    let under (name : String) (entries : List (String × Holder)) :=
      ((admitted entries fun _ => chrome).run freshWorld).1.map
        fun cells => Members.get? (seen cells sharing) name
    under "grid" sharing = .ok (some (grid markedChrome)) ∧
    under "grid" (sharing.take 1) = .ok (some (grid chrome)) ∧
    ((((Deal.chromeWorker { isAuthenticated := true }).setupAll { selfHeal := true }
        [("a", "s"), ("b", "s")]).run Deal.chromeWorld).2.trace.filter
      fun e => e.event matches .asked (.token ..)).length = 2 :=
  ⟨rfl, rfl, rfl⟩

end Launcher

end LocatorHealing
