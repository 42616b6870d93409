import LocatorHealing.Capability.Augment
import LocatorHealing.Proofs.Action.Result

set_option autoImplicit false
set_option relaxedAutoImplicit false

/-!
What injecting leaves of capabilities. A set that is not a target is left alone, and so is all that
stands behind the target at which a fault ended the change. A target is injected into completely,
unless its companion extension cannot be read or be added: then the metadata are left in it.
-/

namespace LocatorHealing

namespace Members

theorem put_of_get? {m : Members} {name : String} {v : Json} (there : m.get? name = some v) :
    m.put name v = m := by
  induction m with
  | nil => cases there
  | cons p rest ih =>
    obtain ⟨k, w⟩ := p
    rw [get?] at there
    rw [put]
    split
    case isTrue same =>
      rw [if_pos same] at there
      rw [← same, ← Option.some.inj there]
    case isFalse apart =>
      rw [if_neg apart] at there
      rw [ih there]

end Members

namespace Capability

open LocatorHealing.Action (Gives gives_pure gives_bind gives_attempt gives_log)

variable {ε τ α : Type} {settings : Settings τ} {m m' : Members} {fault? : Option Fault}

def marked (settings : Settings τ) (m : Members) : Members :=
  m.put metadataName (metadata settings)

/-- Where the extension of a set goes, and the path that it comes from, if it is to have one. -/
def extensionFor? (settings : Settings τ) (m : Members) : Option (String × String) :=
  match extensionKey? (marked settings m), settings.chromeExtension.filter (· ≠ "") with
  | some key, some path => some (key, path)
  | _, _ => none

/-- What is left of a set of capabilities, with the fault that ended the change, if there was one.
-/
inductive SetLeft (settings : Settings τ) (m : Members) : Members → Option Fault → Prop where
  /-- Not a target. -/
  | alone (fault? : Option Fault) : SetLeft settings m m fault?
  | whole (plain : extensionFor? settings m = none) : SetLeft settings m (marked settings m) none
  | extended {key path encoded : String} {m' : Members}
      (takes : extensionFor? settings m = some (key, path))
      (added : addExtension key encoded (marked settings m) = (m', none)) :
      SetLeft settings m m' none
  | cut {key path : String} (takes : extensionFor? settings m = some (key, path)) (fault : Fault) :
      SetLeft settings m (marked settings m) (some fault)

/-- A set is injected into completely or not at all. -/
def Whole (settings : Settings τ) (m m' : Members) (fault? : Option Fault) : Prop :=
  SetLeft settings m m' fault? ∧ (fault? ≠ none → m' = m)

theorem SetLeft.toWhole (left : SetLeft settings m m' fault?)
    (none : settings.chromeExtension.filter (· ≠ "") = none) : Whole settings m m' fault? := by
  refine ⟨left, fun fault => ?_⟩
  cases left with
  | alone => rfl
  | whole => exact absurd rfl fault
  | extended => exact absurd rfl fault
  | cut takes =>
    rw [extensionFor?, none] at takes
    split at takes
    · contradiction
    · cases takes

theorem withExtension_fault {encoded : String} {extensions left : Json} {fault : Fault}
    (failed : withExtension encoded extensions = (left, some fault)) :
    left = extensions ∧ ∀ items, extensions ≠ .arr items := by
  unfold withExtension at failed
  split at failed
  case h_1 other raised =>
    cases failed
    refine ⟨rfl, fun items list => ?_⟩
    rw [list] at raised
    cases raised
  case h_2 => cases failed
  case h_3 =>
    split at failed
    case h_1 => cases failed
    case h_2 other =>
      cases failed
      exact ⟨rfl, other⟩

private theorem addExtension_fault {key encoded : String} {fault : Fault}
    (failed : addExtension key encoded m = (m', some fault)) : m' = m := by
  unfold addExtension at failed
  split at failed
  case h_2 => exact (congrArg Prod.fst failed).symm
  case h_1 vendor options =>
    dsimp only at failed
    rcases refused : withExtension encoded ((Members.get? vendor "extensions").getD (.arr []))
      with ⟨left, raised⟩
    rw [refused] at failed
    obtain ⟨rfl, rfl⟩ := Prod.mk.inj failed
    obtain ⟨same, other⟩ := withExtension_fault refused
    -- Extensions that are no list are there already, and so are the options that hold them.
    have extensions : Members.get? vendor "extensions" = some left := by
      cases there : Members.get? vendor "extensions" with
      | none => exact absurd (by rw [there]; rfl) (other [])
      | some v => rw [same, there]; rfl
    have there : m.get? key = some (.obj vendor) := by
      cases found : m.get? key with
      | none =>
        rw [found] at options
        cases options
        cases extensions
      | some v =>
        rw [found] at options
        exact congrArg some options
    rw [Members.put_of_get? extensions, Members.put_of_get? there]

private theorem gives_inject (settings : Settings τ) (m : Members) :
    Gives (fun r => SetLeft settings m r.1 r.2)
      (inject settings m : Action ε τ (Members × Option Fault)) := by
  unfold inject
  dsimp only
  split
  case h_1 key path browser extension =>
    have takes : extensionFor? settings m = some (key, path) := by
      rw [extensionFor?, marked, browser, extension]
    refine gives_bind (gives_attempt _) fun read _ => ?_
    cases read with
    | error fault => exact gives_pure (.cut takes fault)
    | ok encoded =>
      rcases added : addExtension key encoded (marked settings m) with ⟨left, fault?⟩
      refine gives_pure ?_
      change SetLeft settings m (addExtension key encoded (marked settings m)).1
        (addExtension key encoded (marked settings m)).2
      rw [added]
      cases fault? with
      | none => exact .extended takes added
      | some fault =>
        rw [addExtension_fault added]
        exact .cut takes fault
  case h_2 other =>
    refine gives_pure (.whole ?_)
    rw [extensionFor?, marked]
    split
    · exact absurd (by assumption) (other _ _ ‹_›)
    · rfl

/-- What is left of several targets that are changed from front to back: a fault at one of them
leaves those behind it as they are. -/
inductive EachLeft (R : α → α → Option Fault → Prop) : List α → List α → Option Fault → Prop where
  | nil : EachLeft R [] [] none
  | stop {a a' : α} {rest : List α} {fault : Fault} (last : R a a' (some fault)) :
      EachLeft R (a :: rest) (a' :: rest) (some fault)
  | next {a a' : α} {rest rest' : List α} {fault? : Option Fault} (first : R a a' none)
      (others : EachLeft R rest rest' fault?) : EachLeft R (a :: rest) (a' :: rest') fault?

variable {R : Members → Members → Option Fault → Prop}

def ItemLeft (R : Members → Members → Option Fault → Prop) (v v' : Json) (fault? : Option Fault) :
    Prop :=
  v' = v ∨ ∃ m m', v = .obj m ∧ v' = .obj m' ∧ R m m' fault?

def EntryLeft (R : Members → Members → Option Fault → Prop) (p p' : String × Json)
    (fault? : Option Fault) : Prop :=
  p' = p ∨ ∃ entry m m', p.2 = .obj entry ∧ Members.get? entry "capabilities" = some (.obj m) ∧
    R m m' fault? ∧ p' = (p.1, .obj (Members.put entry "capabilities" (.obj m')))

/-- What is left of capabilities of any layout. -/
inductive Left (settings : Settings τ) (R : Members → Members → Option Fault → Prop) :
    Json → Json → Option Fault → Prop where
  | alone (v : Json) (fault? : Option Fault) : Left settings R v v fault?
  | single {m m' : Members} {fault? : Option Fault} (set : R m m' fault?) :
      Left settings R (.obj m) (.obj m') fault?
  | list {items items' : List Json} {fault? : Option Fault}
      (changed : EachLeft (ItemLeft R)
        (items.take (if settings.firstEntryOnly then 1 else items.length)) items' fault?) :
      Left settings R (.arr items)
        (.arr (items' ++ items.drop (if settings.firstEntryOnly then 1 else items.length))) fault?
  | named {entries entries' : Members} {fault? : Option Fault} (named : isNamed entries = true)
      (changed : EachLeft (EntryLeft R) entries entries' fault?) :
      Left settings R (.obj entries) (.obj entries') fault?

section Mono

variable {S : Members → Members → Option Fault → Prop}

theorem EachLeft.mono {Q Q' : α → α → Option Fault → Prop}
    (weaker : ∀ {a a' fault?}, Q a a' fault? → Q' a a' fault?) {items items' : List α}
    (left : EachLeft Q items items' fault?) : EachLeft Q' items items' fault? := by
  induction left with
  | nil => exact .nil
  | stop last => exact .stop (weaker last)
  | next first _ ih => exact .next (weaker first) ih

theorem Left.mono (weaker : ∀ {m m' fault?}, R m m' fault? → S m m' fault?) {v v' : Json}
    (left : Left settings R v v' fault?) : Left settings S v v' fault? := by
  cases left with
  | alone => exact .alone _ _
  | single set => exact .single (weaker set)
  | list changed =>
    refine .list (changed.mono fun item => ?_)
    exact item.imp_right fun ⟨m, m', before, after, set⟩ => ⟨m, m', before, after, weaker set⟩
  | named isNamed changed =>
    refine .named isNamed (changed.mono fun entry => ?_)
    exact entry.imp_right fun ⟨e, m, m', object, held, set, after⟩ =>
      ⟨e, m, m', object, held, weaker set, after⟩

end Mono

private theorem gives_changeEach {R : α → α → Option Fault → Prop}
    {change : α → Action ε τ (Changed α)}
    (changes : ∀ a, Gives (fun c => R a c.left c.fault?) (change a)) (items : List α) :
    Gives (fun c => EachLeft R items c.left c.fault?) (changeEach change items) := by
  induction items with
  | nil => exact gives_pure .nil
  | cons a rest ih =>
    refine gives_bind (changes a) fun c left => ?_
    split
    case h_1 fault ended =>
      rw [ended] at left
      exact gives_pure (.stop left)
    case h_2 ended =>
      rw [ended] at left
      exact gives_bind ih fun d others => gives_pure (.next left others)

section Targets

variable {inject : Injector (Action ε τ)}
  (injects : ∀ m, Gives (fun r => R m r.1 r.2) (inject m)) (alone : ∀ m fault?, R m m fault?)
  (isEligible : Eligibility)
include injects alone

private theorem gives_changeTarget (entry target : Members) :
    Gives (fun c => R target c.left c.fault?) (changeTarget inject isEligible entry target) := by
  unfold changeTarget
  split
  · exact gives_pure (alone _ _)
  · exact gives_pure (alone _ _)
  · exact gives_bind (injects target) fun r left => gives_pure left

private theorem gives_changeItem (item : Json) :
    Gives (fun c => ItemLeft R item c.left c.fault?) (changeItem inject isEligible item) := by
  cases item with
  | obj entry =>
    exact gives_bind (gives_changeTarget injects alone isEligible entry entry) fun c left =>
      gives_pure (.inr ⟨entry, c.left, rfl, rfl, left⟩)
  | _ => exact gives_pure (.inl rfl)

omit injects alone in
theorem get?_of_inner? {entry target : Members}
    (inner : inner? (.obj entry) = some target) :
    Members.get? entry "capabilities" = some (.obj target) := by
  simp only [inner?] at inner
  split at inner
  · rw [← Option.some.inj inner]
    assumption
  · cases inner

private theorem gives_changeEntry (named : String × Json) :
    Gives (fun c => EntryLeft R named c.left c.fault?) (changeEntry inject isEligible named) := by
  obtain ⟨name, v⟩ := named
  unfold changeEntry
  split
  case h_2 => exact gives_pure (.inl rfl)
  case h_1 entry object =>
    split
    case h_2 => exact gives_pure (.inl rfl)
    case h_1 target inner =>
      have held : Members.get? entry "capabilities" = some (.obj target) :=
        get?_of_inner? (object ▸ inner)
      exact gives_bind (gives_changeTarget injects alone isEligible entry target) fun c left =>
        gives_pure (.inr ⟨entry, target, c.left, object, held, left, rfl⟩)

private theorem gives_augmentShape {raw : Json} {shape : Shape}
    (laidOut : Shape.of raw settings.firstEntryOnly = .ok shape) :
    Gives (fun c => Left settings R raw c.left.toJson c.fault?)
      (shape.augment inject isEligible) := by
  unfold Shape.of at laidOut
  split at laidOut
  case h_1 items =>
    cases laidOut
    refine gives_bind (gives_changeEach (gives_changeItem injects alone isEligible) _)
      fun c left => gives_pure (.list left)
  case h_2 entry =>
    cases laidOut
    split
    case isTrue named =>
      exact gives_bind (gives_changeEach (gives_changeEntry injects alone isEligible) _)
        fun c left => gives_pure (.named named left)
    case isFalse =>
      exact gives_bind (gives_changeTarget injects alone isEligible entry entry) fun c left =>
        gives_pure (.single left)
  case h_3 => cases laidOut

end Targets

theorem gives_augment (settings : Settings τ) (auth : AuthResult) (options : HealingOptions)
    (capabilities : Json) :
    Gives (fun r => Left settings (SetLeft settings) capabilities r.1 r.2)
      (augment settings auth options capabilities : Action ε τ (Json × Option Fault)) := by
  unfold augment
  dsimp only
  split
  · split
    · exact gives_pure (.alone _ _)
    case h_2 shape laidOut =>
      refine gives_bind (gives_augmentShape (gives_inject settings) (fun _ => .alone) _ laidOut)
        fun c left => ?_
      split
      case h_1 fault ended =>
        rw [ended] at left
        exact gives_pure left
      case h_2 ended =>
        rw [ended] at left
        exact gives_bind (gives_log _ _) fun _ _ => gives_pure left
  · split
    · exact gives_bind (gives_log _ _) fun _ _ => gives_pure (.alone _ _)
    · exact gives_pure (.alone _ _)

section Marking

variable {a : α} {c : Changed α}

/-- The verdict on the target that belongs to an entry: it is one, it is none, or it cannot be
judged. -/
def verdict (settings : Settings τ) (entry target : Members) : Except Fault (Option Members) :=
  (isEligible settings (.obj entry)).map fun eligible => if eligible then some target else none

def judgeItem (settings : Settings τ) : Json → Except Fault (Option Members)
  | .obj m => verdict settings m m
  | _ => .ok none

def judgeEntry (settings : Settings τ) (named : String × Json) : Except Fault (Option Members) :=
  match named.2 with
  | .obj entry =>
    match inner? named.2 with
    | some target => verdict settings entry target
    | none => .ok none
  | v => .error (.noMember v.kindName "get")

def front (judge : α → Except Fault (Option Members)) : List α → List Members
  | [] => []
  | a :: rest =>
    match judge a with
    | .error _ => []
    | .ok target? => target?.toList ++ front judge rest

def injectedInto (settings : Settings τ) : Json → List Members
  | .arr items =>
    front (judgeItem settings) (items.take (if settings.firstEntryOnly then 1 else items.length))
  | .obj m =>
    if isNamed m then front (judgeEntry settings) m else front (judgeItem settings) [.obj m]
  | _ => []

/-- A change follows a verdict with the metadata alone: only a target that lacks them is changed. -/
inductive Marks (settings : Settings τ) (a : α) (c : Changed α) :
    Except Fault (Option Members) → Prop where
  | stopped (fault : Fault) (same : c.left = a) (ended : c.fault? ≠ none) :
      Marks settings a c (.error fault)
  | went (target? : Option Members) (fine : c.fault? = none)
      (same : c.left = a ↔ ∀ t ∈ target?, marked settings t = t) : Marks settings a c (.ok target?)

theorem Marks.map {β : Type} {judged : Except Fault (Option Members)} {f : α → β} {b : β}
    (marks : Marks settings a c judged) (injective : ∀ a', f a' = b ↔ a' = a) :
    Marks settings b (c.map f) judged := by
  cases marks with
  | stopped fault same ended => exact .stopped fault ((injective _).2 same) ended
  | went target? fine same => exact .went target? fine ((injective _).trans same)

private theorem gives_inject_unextended
    (unextended : settings.chromeExtension.filter (· ≠ "") = none) (m : Members) :
    Gives (fun r => r = (marked settings m, none))
      (inject settings m : Action ε τ (Members × Option Fault)) := by
  unfold inject
  dsimp only
  rw [unextended]
  split
  case h_1 extension => cases extension
  case h_2 => exact gives_pure rfl

variable (unextended : settings.chromeExtension.filter (· ≠ "") = none)
include unextended

private theorem gives_changeTarget_marks (entry target : Members) :
    Gives (fun c => Marks settings target c (verdict settings entry target))
      (changeTarget (inject settings) (fun entry => isEligible settings (.obj entry)) entry target :
        Action ε τ (Changed Members)) := by
  unfold changeTarget verdict
  dsimp only
  cases isEligible settings (.obj entry) with
  | error fault => exact gives_pure (.stopped fault rfl nofun)
  | ok eligible =>
    cases eligible with
    | false => exact gives_pure (.went none rfl (iff_of_true rfl nofun))
    | true =>
      refine gives_bind (gives_inject_unextended unextended target) ?_
      rintro _ rfl
      exact gives_pure (.went (some target) rfl (by simp [Changed.ofTarget]))

private theorem gives_changeItem_marks (item : Json) :
    Gives (fun c => Marks settings item c (judgeItem settings item))
      (changeItem (inject settings) (fun entry => isEligible settings (.obj entry)) item :
        Action ε τ (Changed Json)) := by
  cases item with
  | obj m =>
    exact gives_bind (gives_changeTarget_marks unextended m m) fun c marks =>
      gives_pure (marks.map fun left => by rw [Json.obj.injEq])
  | _ => exact gives_pure (.went none rfl (iff_of_true rfl nofun))

private theorem gives_changeEntry_marks (named : String × Json) :
    Gives (fun c => Marks settings named c (judgeEntry settings named))
      (changeEntry (inject settings) (fun entry => isEligible settings (.obj entry)) named :
        Action ε τ (Changed (String × Json))) := by
  obtain ⟨name, v⟩ := named
  cases v with
  | obj entry =>
    unfold changeEntry judgeEntry
    dsimp only
    cases inner : inner? (.obj entry) with
    | none => exact gives_pure (.went none rfl (iff_of_true rfl nofun))
    | some target =>
      have held := get?_of_inner? inner
      refine gives_bind (gives_changeTarget_marks unextended entry target) fun c marks =>
        gives_pure (marks.map fun target' => ?_)
      constructor
      · intro same
        have kept : Members.put entry "capabilities" (.obj target') = entry := by
          simpa using same
        have read : Members.get? entry "capabilities" = some (.obj target') := by
          rw [← kept, Members.get?_put, if_pos rfl]
        simpa using read.symm.trans held
      · rintro rfl
        rw [Members.put_of_get? held]
  | _ => exact gives_pure (.stopped _ rfl nofun)

omit unextended in
/-- A list is left as it was just if all targets are that stand before what cannot be judged. -/
private theorem gives_changeEach_front {judge : α → Except Fault (Option Members)}
    {change : α → Action ε τ (Changed α)}
    (marks : ∀ a, Gives (fun c => Marks settings a c (judge a)) (change a)) (items : List α) :
    Gives (fun c => c.left = items ↔ ∀ t ∈ front judge items, marked settings t = t)
      (changeEach change items) := by
  induction items with
  | nil => exact gives_pure (iff_of_true rfl nofun)
  | cons a rest ih =>
    refine gives_bind (marks a) fun c first => ?_
    rw [front]
    generalize judge a = judged at first
    cases first with
    | stopped fault same ended =>
      obtain ⟨other, ended⟩ := Option.ne_none_iff_exists'.1 ended
      rw [ended, same]
      exact gives_pure (iff_of_true rfl nofun)
    | went target? fine same =>
      rw [fine]
      refine gives_bind ih fun d others => gives_pure ?_
      rw [List.cons.injEq, same, others, List.forall_mem_append]
      simp only [Option.mem_toList, Option.mem_def]

private theorem gives_augmentShape_front {raw : Json} {shape : Shape}
    (laidOut : Shape.of raw settings.firstEntryOnly = .ok shape) :
    Gives (fun c => c.left.toJson = raw ↔
        ∀ t ∈ injectedInto settings raw, marked settings t = t)
      (shape.augment (inject settings) (fun entry => isEligible settings (.obj entry)) :
        Action ε τ (Changed Shape)) := by
  unfold Shape.of at laidOut
  split at laidOut
  case h_1 items =>
    cases laidOut
    refine gives_bind (gives_changeEach_front (gives_changeItem_marks unextended) _) fun c same =>
      gives_pure (Iff.trans ?_ same)
    -- what is out of reach stays behind what is left of the rest
    have whole := List.take_append_drop (if settings.firstEntryOnly then 1 else items.length) items
    simp only [Changed.map, Shape.toJson, Json.arr.injEq]
    exact ⟨fun all => List.append_cancel_right (all.trans whole.symm), fun part => part ▸ whole⟩
  case h_2 m =>
    cases laidOut
    rw [injectedInto]
    split
    case isTrue =>
      refine gives_bind (gives_changeEach_front (gives_changeEntry_marks unextended) _)
        fun c same => gives_pure ?_
      exact (iff_of_eq (Json.obj.injEq _ _)).trans same
    case isFalse =>
      refine gives_bind (gives_changeTarget_marks unextended m m) fun c marks => gives_pure ?_
      change Json.obj c.left = .obj m ↔ _
      rw [Json.obj.injEq, front, judgeItem, front]
      generalize verdict settings m m = judged at marks
      cases marks with
      | stopped fault same =>
        exact iff_of_true same fun _ there => absurd there List.not_mem_nil
      | went target? fine same => simpa using same
  case h_3 => cases laidOut

theorem gives_augment_front (auth : AuthResult) (options : HealingOptions) (raw : Json) :
    Gives (fun r => r.1 = raw ↔ (isAuthorized auth options = true →
        ∀ t ∈ injectedInto settings raw, marked settings t = t))
      (augment settings auth options raw : Action ε τ (Json × Option Fault)) := by
  unfold augment
  split
  case isTrue authorized =>
    split
    case h_1 fault refused =>
      refine gives_pure (iff_of_true rfl fun _ => ?_)
      cases raw with
      | arr items => cases refused
      | obj m => cases refused
      | _ => exact nofun
    case h_2 shape laidOut =>
      refine gives_bind (gives_augmentShape_front unextended laidOut) fun c same => ?_
      have left : c.left.toJson = raw ↔ (isAuthorized auth options = true →
          ∀ t ∈ injectedInto settings raw, marked settings t = t) := by
        rw [same, authorized, forall_prop_of_true rfl]
      split
      · exact gives_pure left
      · exact gives_bind (gives_log _ _) fun _ _ => gives_pure left
  case isFalse denied =>
    have same : raw = raw ↔ (isAuthorized auth options = true →
        ∀ t ∈ injectedInto settings raw, marked settings t = t) :=
      iff_of_true rfl fun authorized => absurd authorized denied
    split
    · exact gives_bind (gives_log _ _) fun _ _ => gives_pure same
    · exact gives_pure same

end Marking

end Capability

end LocatorHealing
