import Mathlib.Data.List.Forall2
import LocatorHealing.Proofs.Capability.Extension
import LocatorHealing.Proofs.Capability.Injection
import LocatorHealing.Proofs.Still

set_option autoImplicit false
set_option relaxedAutoImplicit false

/-!
Injecting once more. What is injected into a set decides neither the layout of the capabilities nor
whether the set is a target, and what is there already is not put there again. So a second pass goes
the way of the first one, changes nothing, and is ended by the same fault, if the first one was.
-/

namespace LocatorHealing

variable {ε τ : Type}

/-- The text of the companion extension, or the fault that reading it raises; none if the settings
name no extension. -/
def World.extension? (settings : Settings τ) (w : World ε τ) : Option (Except Fault String) :=
  (settings.chromeExtension.filter (· ≠ "")).map fun path =>
    ((Capability.encodedExtension path).run w).1

private theorem World.extension?_congr {settings : Settings τ} {w v : World ε τ}
    (files : v.files = w.files) (encoded : v.encoded = w.encoded) :
    v.extension? settings = w.extension? settings := by
  unfold World.extension?
  simp only [Capability.encodedExtension_congr _ files encoded]

namespace Capability

variable {settings : Settings τ} {extension? : Option (Except Fault String)} {m : Members}
  {key encoded name : String}

/-- What injecting leaves of a set, and the fault that it ends with, given the text of the
extension. -/
def injected (settings : Settings τ) (extension? : Option (Except Fault String)) (m : Members) :
    Members × Option Fault :=
  match extensionKey? (marked settings m), extension? with
  | some key, some (.ok encoded) => addExtension key encoded (marked settings m)
  | some _, some (.error fault) => (marked settings m, some fault)
  | _, _ => (marked settings m, none)

section Set

private theorem get?_addExtension (apart : key ≠ name) :
    (addExtension key encoded m).1.get? name = m.get? name := by
  unfold addExtension
  split
  · rw [Members.get?_put, if_neg apart]
  · rfl

/-- Extensions are written under the key that options are read from. -/
theorem lookup_extensionOptionKeys (name : String) :
    extensionOptionKeys.lookup name = (Browser.ofName? name).bind Browser.vendorKey? := by
  unfold Browser.ofName?
  grind [extensionOptionKeys, Browser.vendorKey?]

theorem isVendorKey_of_extensionKey? (takes : extensionKey? m = some key) :
    Browser.isVendorKey key = true := by
  rw [extensionKey?, lookup_extensionOptionKeys] at takes
  obtain ⟨browser, -, takes⟩ := Option.bind_eq_some_iff.1 takes
  cases browser with
  | chrome => cases takes; rfl
  | edge => cases takes; rfl
  | firefox => cases takes

theorem get?_injected (apart : metadataName ≠ name) (plain : Browser.isVendorKey name = false) :
    (injected settings extension? m).1.get? name = m.get? name := by
  have unmarked : (marked settings m).get? name = m.get? name := by
    rw [marked, Members.get?_put, if_neg apart]
  unfold injected
  split
  case h_1 key encoded takes =>
    have other : key ≠ name := by
      rintro rfl
      rw [isVendorKey_of_extensionKey? takes] at plain
      cases plain
    rw [get?_addExtension other, unmarked]
  · exact unmarked
  · exact unmarked

theorem get?_injected_metadata :
    (injected settings extension? m).1.get? metadataName = some (metadata settings) := by
  have there : (marked settings m).get? metadataName = some (metadata settings) :=
    Members.get?_put_self _ _ _
  unfold injected
  split
  case h_1 key encoded takes =>
    have other : key ≠ metadataName := by
      rintro rfl
      cases isVendorKey_of_extensionKey? takes
    rw [get?_addExtension other, there]
  · exact there
  · exact there

theorem holds_append (items : List Json) :
    (Json.arr (items ++ [.str encoded])).holds encoded = .ok true := by
  simp [Json.holds, Json.same]

private theorem withExtension_again (extensions : Json) :
    withExtension encoded (withExtension encoded extensions).1 =
      withExtension encoded extensions := by
  rcases added : withExtension encoded extensions with ⟨left, fault?⟩
  dsimp only
  cases fault? with
  | some fault =>
    obtain ⟨rfl, -⟩ := withExtension_fault added
    exact added
  | none =>
    -- the extension is among those that are left, whether it was before or not
    have there : left.holds encoded = .ok true := by
      unfold withExtension at added
      split at added
      · cases added
      · cases added
        assumption
      · split at added
        · cases added
          exact holds_append _
        · cases added
    unfold withExtension
    rw [there]

theorem addExtension_obj {vendor : Members} (options : (m.get? key).getD (.obj []) = .obj vendor) :
    addExtension key encoded m =
      let added := withExtension encoded ((Members.get? vendor "extensions").getD (.arr []))
      (m.put key (.obj (Members.put vendor "extensions" added.1)), added.2) := by
  unfold addExtension
  rw [options]

private theorem addExtension_again (m : Members) :
    addExtension key encoded (addExtension key encoded m).1 = addExtension key encoded m := by
  cases options : (m.get? key).getD (.obj []) with
  | obj vendor =>
    rw [addExtension_obj options]
    dsimp only
    rw [addExtension_obj (by rw [Members.get?_put_self]; rfl)]
    dsimp only
    rw [Members.get?_put_self, Option.getD_some, withExtension_again,
      Members.put_of_get? (Members.get?_put_self _ _ _),
      Members.put_of_get? (Members.get?_put_self _ _ _)]
  | _ =>
    unfold addExtension
    rw [options]
    dsimp only
    rw [options]

private theorem marked_injected :
    marked settings (injected settings extension? m).1 = (injected settings extension? m).1 :=
  Members.put_of_get? get?_injected_metadata

theorem extensionKey?_congr {m' : Members} (same : m'.get? "browserName" = m.get? "browserName") :
    extensionKey? m' = extensionKey? m := by
  rw [extensionKey?, extensionKey?, same]

private theorem extensionKey?_injected :
    extensionKey? (injected settings extension? m).1 = extensionKey? (marked settings m) := by
  refine extensionKey?_congr ?_
  rw [get?_injected (by decide) rfl, marked, Members.get?_put, if_neg (by decide)]

/-- To inject into a set once more changes nothing, and ends as it did before. -/
private theorem injected_again :
    injected settings extension? (injected settings extension? m).1 =
      injected settings extension? m := by
  have there : marked settings (injected settings extension? m).1 = _ := marked_injected
  have browser : extensionKey? (injected settings extension? m).1 = _ := extensionKey?_injected
  rcases left : injected settings extension? m with ⟨m', fault?⟩
  rw [left] at there browser
  dsimp only at there browser ⊢
  unfold injected at left ⊢
  rw [there, browser]
  split at left
  case h_1 key encoded takes =>
    rw [← left, ← show _ = m' from congrArg Prod.fst left]
    exact addExtension_again _
  · exact congrArg (fun r => (m', r.2)) left
  · exact congrArg (fun r => (m', r.2)) left

end Set

section Eligible

def browserOf (entry : Members) : Except Fault (Option Json) :=
  (((entry.get? "capabilities").getD (.obj entry)).membersFor "get").map (·.get? "browserName")

private theorem isEligible_obj (entry : Members) :
    isEligible settings (.obj entry) = (do
      if ← settings.supportsBrowser ((← browserOf entry).getD .null) then
        return !(← settings.isProviderEntry (.obj entry))
      else return false) := by
  unfold browserOf
  change ((entry.get? "capabilities").getD (.obj entry)).membersFor "get" >>= _ = _
  cases ((entry.get? "capabilities").getD (.obj entry)).membersFor "get" with | _ => rfl

private theorem isProviderEntry_congr {entry entry' : Members}
    (same : ∀ name ∈ ["hostname", "user", "key"], entry'.get? name = entry.get? name) :
    settings.isProviderEntry (.obj entry') = settings.isProviderEntry (.obj entry) := by
  simp only [List.mem_cons, List.not_mem_nil, or_false, forall_eq_or_imp, forall_eq] at same
  obtain ⟨hostname, user, key⟩ := same
  have credentials : Settings.hasProviderCredentials entry' =
      Settings.hasProviderCredentials entry := by
    rw [Settings.hasProviderCredentials, Settings.hasProviderCredentials, user, key]
  unfold Settings.isProviderEntry
  simp only [Json.membersFor, bind, Except.bind, hostname, credentials]

private theorem isEligible_injected :
    isEligible settings (.obj (injected settings extension? m).1) =
      isEligible settings (.obj m) := by
  have provider : settings.isProviderEntry (.obj (injected settings extension? m).1) =
      settings.isProviderEntry (.obj m) := by
    refine isProviderEntry_congr fun name named => ?_
    simp only [List.mem_cons, List.not_mem_nil, or_false] at named
    rcases named with rfl | rfl | rfl
    · exact get?_injected (by decide) rfl
    · exact get?_injected (by decide) rfl
    · exact get?_injected (by decide) rfl
  have browser : browserOf (injected settings extension? m).1 = browserOf m := by
    unfold browserOf
    rw [get?_injected (by decide) rfl]
    cases m.get? "capabilities" with
    | some v => rfl
    | none => exact congrArg Except.ok (get?_injected (by decide) rfl)
  rw [isEligible_obj, isEligible_obj, provider, browser]

private theorem isEligible_put_injected {entry : Members}
    (held : entry.get? "capabilities" = some (.obj m)) :
    isEligible settings
        (.obj (entry.put "capabilities" (.obj (injected settings extension? m).1))) =
      isEligible settings (.obj entry) := by
  have provider : settings.isProviderEntry
      (.obj (entry.put "capabilities" (.obj (injected settings extension? m).1))) =
      settings.isProviderEntry (.obj entry) := by
    refine isProviderEntry_congr fun name named => ?_
    rw [Members.get?_put, if_neg]
    rintro rfl
    simp at named
  have browser : browserOf (entry.put "capabilities" (.obj (injected settings extension? m).1)) =
      browserOf entry := by
    unfold browserOf
    rw [Members.get?_put_self, held]
    exact congrArg Except.ok (get?_injected (by decide) rfl)
  rw [isEligible_obj, isEligible_obj, provider, browser]

end Eligible

def changed (settings : Settings τ) (extension? : Option (Except Fault String))
    (eligible : Except Fault Bool) (target : Members) : Changed Members :=
  match eligible with
  | .error fault => .stop target fault
  | .ok false => .none target
  | .ok true =>
    .ofTarget (injected settings extension? target).1 (injected settings extension? target).2

private theorem changed_again (eligible : Except Fault Bool) (target : Members) :
    changed settings extension? eligible (changed settings extension? eligible target).left =
      changed settings extension? eligible target := by
  unfold changed
  split
  · rfl
  · rfl
  · simp only [Changed.ofTarget, injected_again]

private theorem mem_of_get? {v : Json} (there : m.get? name = some v) : (name, v) ∈ m := by
  induction m with
  | nil => cases there
  | cons p rest ih =>
    rw [Members.get?] at there
    split at there
    case isTrue same =>
      obtain rfl := Option.some.inj there
      rw [← same]
      exact List.mem_cons_self
    case isFalse => exact List.mem_cons_of_mem p (ih there)

private theorem isNamed_injected : isNamed (injected settings extension? m).1 = false := by
  have stands : (injected settings extension? m).1.get? metadataName = some (metadata settings) :=
    get?_injected_metadata
  have there := mem_of_get? stands
  refine Bool.eq_false_iff.2 fun named => ?_
  have holds := List.all_eq_true.1 (Bool.and_eq_true_iff.1 named).2 _ there
  cases holds

private theorem isNamed_changed (eligible : Except Fault Bool) (single : isNamed m = false) :
    isNamed (changed settings extension? eligible m).left = false := by
  unfold changed
  split
  · exact single
  · exact single
  · exact isNamed_injected

section Runs

variable {w u : World ε τ} {α : Type}

theorem run_inject (m : Members) (same : w.extension? settings = extension?) :
    ∃ v, (inject settings m).run w = (.ok (injected settings extension? m), v) ∧
      v.extension? settings = extension? := by
  subst same
  unfold inject injected marked
  dsimp only
  cases takes : extensionKey? (m.put metadataName (metadata settings)) with
  | none => exact ⟨w, rfl, rfl⟩
  | some key =>
    cases named : settings.chromeExtension.filter (· ≠ "") with
    | none =>
      refine ⟨w, ?_, rfl⟩
      rw [World.extension?, named]
      rfl
    | some path =>
      obtain ⟨encoded, after, again⟩ := encodedExtension_again path w
      refine ⟨{ w with encoded }, ?_, ?_⟩
      · dsimp only
        rw [Action.run_bind_ok (Action.run_attempt _ _), after, World.extension?, named,
          Option.map_some]
        cases ((encodedExtension path).run w).1 with | _ => rfl
      · rw [World.extension?, World.extension?, named, Option.map_some, Option.map_some, again]

theorem run_changeTarget (isEligible : Eligibility) (entry target : Members)
    (same : w.extension? settings = extension?) :
    ∃ v, (changeTarget (inject settings) isEligible entry target).run w =
        (.ok (changed settings extension? (isEligible entry) target), v) ∧
      v.extension? settings = extension? := by
  unfold changeTarget
  cases isEligible entry with
  | error fault => exact ⟨w, rfl, same⟩
  | ok eligible =>
    cases eligible with
    | false => exact ⟨w, rfl, same⟩
    | true =>
      obtain ⟨v, ran, kept⟩ := run_inject target same
      exact ⟨v, Action.run_bind_ok ran, kept⟩

/-- A change comes to an end wherever the extension has its text, and to change what it leaves once
more comes to the same. What it leaves is like what it found. -/
def Settles (settings : Settings τ) (extension? : Option (Except Fault String))
    (Like : α → α → Prop) (change : α → Action ε τ (Changed α)) : Prop :=
  ∀ a (w u : World ε τ), w.extension? settings = extension? → u.extension? settings = extension? →
    ∃ c v t, (change a).run w = (.ok c, v) ∧ (change c.left).run u = (.ok c, t) ∧ Like a c.left ∧
      v.extension? settings = extension? ∧ t.extension? settings = extension?

private theorem settles_changeEach {Like : α → α → Prop} {change : α → Action ε τ (Changed α)}
    (refl : ∀ a, Like a a) (settles : Settles settings extension? Like change) :
    Settles settings extension? (List.Forall₂ Like) (changeEach change) := by
  intro items
  induction items with
  | nil => exact fun w u same same' => ⟨_, w, u, rfl, rfl, .nil, same, same'⟩
  | cons a rest ih =>
    intro w u same same'
    obtain ⟨c, v, t, ran, again, like, kept, kept'⟩ := settles a w u same same'
    cases ended : c.fault? with
    | some fault =>
      refine ⟨⟨c.left :: rest, c.count, some fault⟩, v, t, ?_, ?_,
        .cons like (List.forall₂_same.2 fun b _ => refl b), kept, kept'⟩
      · rw [changeEach, Action.run_bind_ok ran, ended]
        rfl
      · rw [changeEach, Action.run_bind_ok again, ended]
        rfl
    | none =>
      obtain ⟨d, v', t', ran', again', likes, kept, kept'⟩ := ih v t kept kept'
      refine ⟨⟨c.left :: d.left, c.count + d.count, d.fault?⟩, v', t', ?_, ?_, .cons like likes,
        kept, kept'⟩
      · rw [changeEach, Action.run_bind_ok ran, ended]
        exact Action.run_bind_ok ran'
      · rw [changeEach, Action.run_bind_ok again, ended]
        exact Action.run_bind_ok again'

private theorem isEligible_changed (eligible : Except Fault Bool) (entry : Members) :
    isEligible settings (.obj (changed settings extension? eligible entry).left) =
      isEligible settings (.obj entry) := by
  unfold changed
  split
  · rfl
  · rfl
  · exact isEligible_injected

private theorem settles_changeTarget :
    Settles (ε := ε) settings extension? (fun m m' => isNamed m = false → isNamed m' = false)
      fun entry => changeTarget (inject settings) (fun entry => isEligible settings (.obj entry))
        entry entry := by
  intro entry w u same same'
  let isTarget (entry : Members) := isEligible settings (.obj entry)
  let left := (changed settings extension? (isTarget entry) entry).left
  obtain ⟨v, ran, kept⟩ := run_changeTarget isTarget entry entry same
  obtain ⟨t, again, kept'⟩ := run_changeTarget isTarget left left same'
  rw [show isTarget left = isTarget entry from isEligible_changed _ entry, changed_again] at again
  exact ⟨_, v, t, ran, again, isNamed_changed _, kept, kept'⟩

private theorem settles_changeItem :
    Settles (ε := ε) settings extension? (fun _ _ => True)
      (changeItem (inject settings) fun entry => isEligible settings (.obj entry)) := by
  intro item w u same same'
  cases item with
  | obj entry =>
    obtain ⟨c, v, t, ran, again, -, kept, kept'⟩ := settles_changeTarget entry w u same same'
    exact ⟨c.map Json.obj, v, t, Action.run_bind_ok ran, Action.run_bind_ok again, trivial, kept,
      kept'⟩
  | _ => exact ⟨_, w, u, rfl, rfl, trivial, same, same'⟩

/-- Two entries of a mapping have the same name, and hold a set both or neither. -/
def LikeEntries (p p' : String × Json) : Prop :=
  p'.1 = p.1 ∧ (inner? p'.2).isSome = (inner? p.2).isSome

private theorem inner?_put (entry target : Members) :
    inner? (.obj (Members.put entry "capabilities" (.obj target))) = some target := by
  simp only [inner?, Members.get?_put_self]

private theorem isEligible_put_changed {entry target : Members} (eligible : Except Fault Bool)
    (held : Members.get? entry "capabilities" = some (.obj target)) :
    isEligible settings (.obj (Members.put entry "capabilities"
        (.obj (changed settings extension? eligible target).left))) =
      isEligible settings (.obj entry) := by
  unfold changed
  split
  · rw [Changed.stop, Members.put_of_get? held]
  · rw [Changed.none, Members.put_of_get? held]
  · exact isEligible_put_injected held

private theorem settles_changeEntry :
    Settles (ε := ε) settings extension? LikeEntries
      (changeEntry (inject settings) fun entry => isEligible settings (.obj entry)) := by
  rintro ⟨name, v⟩ w u same same'
  cases v with
  | obj entry =>
    let isTarget (entry : Members) := isEligible settings (.obj entry)
    cases inner : inner? (.obj entry) with
    | none =>
      have unchanged (w : World ε τ) : (changeEntry (inject settings) isTarget
          (name, .obj entry)).run w = (.ok (.none (name, .obj entry)), w) := by
        simp only [changeEntry, inner]
        rfl
      exact ⟨_, w, u, unchanged w, unchanged u, ⟨rfl, rfl⟩, same, same'⟩
    | some target =>
      have held : Members.get? entry "capabilities" = some (.obj target) := get?_of_inner? inner
      let c := changed settings extension? (isTarget entry) target
      let entry' := Members.put entry "capabilities" (.obj c.left)
      obtain ⟨v, ran, kept⟩ := run_changeTarget isTarget entry target same
      obtain ⟨t, again, kept'⟩ := run_changeTarget isTarget entry' c.left same'
      rw [show isTarget entry' = isTarget entry from isEligible_put_changed _ held,
        changed_again] at again
      refine ⟨c.map fun target => (name, .obj (Members.put entry "capabilities" (.obj target))),
        v, t, ?_, ?_, ⟨rfl, ?_⟩, kept, kept'⟩
      · simp only [changeEntry, inner]
        exact Action.run_bind_ok ran
      · have there : Members.put entry' "capabilities" (.obj c.left) = entry' :=
          Members.put_of_get? (Members.get?_put_self _ _ _)
        simp only [changeEntry, Changed.map, inner?_put]
        rw [Action.run_bind_ok again]
        exact congrArg (fun e => (Except.ok (Changed.mk (name, Json.obj e) c.count c.fault?), t))
          there
      · exact (congrArg Option.isSome (inner?_put entry c.left)).trans
          (congrArg Option.isSome inner).symm
  | _ => exact ⟨_, w, u, rfl, rfl, ⟨rfl, rfl⟩, same, same'⟩

/-- Two layouts are of one shape: two sets, two lists of one length, or two mappings from the same
names. -/
inductive Shape.Like : Shape → Shape → Prop where
  | single (m m' : Members) : Like (.single m) (.single m')
  | list {items items' : List Json} (firstOnly : Bool) (length : items'.length = items.length) :
      Like (.list items firstOnly) (.list items' firstOnly)
  | named {entries entries' : Members} (names : entries'.names = entries.names) :
      Like (.named entries) (.named entries')

private theorem isNamed_of_like {entries entries' : Members}
    (like : List.Forall₂ LikeEntries entries entries') : isNamed entries' = isNamed entries := by
  have all : entries'.all (fun p => (inner? p.2).isSome) =
      entries.all fun p => (inner? p.2).isSome := by
    induction like with
    | nil => rfl
    | cons first _ ih => rw [List.all_cons, List.all_cons, first.2, ih]
  have empty : entries'.isEmpty = entries.isEmpty := by
    cases like with | _ => rfl
  rw [isNamed, isNamed, all, empty]

private theorem names_of_like {entries entries' : Members}
    (like : List.Forall₂ LikeEntries entries entries') :
    Members.names entries' = Members.names entries := by
  induction like with
  | nil => rfl
  | cons first _ ih => exact congrArg₂ List.cons first.1 ih

def Shape.LaidOut (settings : Settings τ) (shape : Shape) : Prop :=
  Shape.of shape.toJson settings.firstEntryOnly = .ok shape

theorem Shape.laidOut_of {raw : Json} {shape : Shape}
    (laidOut : Shape.of raw settings.firstEntryOnly = .ok shape) :
    shape.LaidOut settings ∧ shape.toJson = raw := by
  have same : shape.toJson = raw := by
    unfold Shape.of at laidOut
    split at laidOut
    · cases laidOut
      rfl
    · cases laidOut
      split
      · rfl
      · rfl
    · cases laidOut
  exact ⟨(congrArg (Shape.of · settings.firstEntryOnly) same).trans laidOut, same⟩

private theorem Shape.laidOut_single_iff :
    (Shape.single m).LaidOut settings ↔ isNamed m = false := by
  change (Except.ok (if isNamed m then .named m else .single m) : Except Fault Shape) = _ ↔ _
  cases isNamed m with
  | false => simp
  | true => simp

private theorem Shape.laidOut_named_iff : (Shape.named m).LaidOut settings ↔ isNamed m = true := by
  change (Except.ok (if isNamed m then .named m else .single m) : Except Fault Shape) = _ ↔ _
  cases isNamed m with
  | false => simp
  | true => simp

private theorem Shape.laidOut_list_iff {items : List Json} {firstOnly : Bool} :
    (Shape.list items firstOnly).LaidOut settings ↔ firstOnly = settings.firstEntryOnly :=
  ⟨fun laidOut => by cases laidOut; rfl, fun same => by rw [same]; rfl⟩

theorem take_reach {items left : List α} (firstOnly : Bool)
    (length : left.length = (items.take (if firstOnly then 1 else items.length)).length) :
    let reach := if firstOnly then 1 else items.length
    let items' := left ++ items.drop reach
    let reach' := if firstOnly then 1 else items'.length
    items'.take reach' = left ∧ items'.drop reach' = items.drop reach ∧
      items'.length = items.length := by
  cases firstOnly with
  | true =>
    cases items with
    | nil =>
      obtain rfl := List.eq_nil_of_length_eq_zero length
      exact ⟨rfl, rfl, rfl⟩
    | cons a rest =>
      obtain ⟨b, rfl⟩ := List.length_eq_one_iff.1 length
      exact ⟨rfl, rfl, rfl⟩
  | false => simpa using length

theorem settles_augment (shape : Shape) (laidOut : shape.LaidOut settings)
    (same : w.extension? settings = extension?) (same' : u.extension? settings = extension?) :
    let isTarget (entry : Members) := isEligible settings (.obj entry)
    ∃ c v t, (shape.augment (inject settings) isTarget).run w = (.ok c, v) ∧
      (c.left.augment (inject settings) isTarget).run u = (.ok c, t) ∧
      shape.Like c.left ∧ c.left.LaidOut settings ∧
      v.extension? settings = extension? ∧ t.extension? settings = extension? := by
  intro isTarget
  cases shape with
  | single entry =>
    obtain ⟨c, v, t, ran, again, single, kept, kept'⟩ := settles_changeTarget entry w u same same'
    refine ⟨c.map Shape.single, v, t, Action.run_bind_ok ran, Action.run_bind_ok again,
      .single _ _, ?_, kept, kept'⟩
    exact Shape.laidOut_single_iff.2 (single (Shape.laidOut_single_iff.1 laidOut))
  | list items firstOnly =>
    obtain ⟨c, v, t, ran, again, likes, kept, kept'⟩ :=
      settles_changeEach (fun _ => trivial) settles_changeItem
        (items.take (if firstOnly then 1 else items.length)) w u same same'
    obtain ⟨front, back, length⟩ := take_reach firstOnly likes.length_eq.symm
    refine ⟨c.map fun left => .list (left ++ items.drop (if firstOnly then 1 else items.length))
      firstOnly, v, t, Action.run_bind_ok ran, ?_, .list firstOnly length,
      Shape.laidOut_list_iff.2 (Shape.laidOut_list_iff.1 laidOut), kept, kept'⟩
    simp only [Changed.map, Shape.augment]
    rw [front, back, Action.run_bind_ok again]
    rfl
  | named entries =>
    obtain ⟨c, v, t, ran, again, likes, kept, kept'⟩ :=
      settles_changeEach (fun _ => ⟨rfl, rfl⟩) settles_changeEntry entries w u same same'
    refine ⟨c.map Shape.named, v, t, Action.run_bind_ok ran, Action.run_bind_ok again,
      .named (names_of_like likes), ?_, kept, kept'⟩
    exact Shape.laidOut_named_iff.2
      ((isNamed_of_like likes).trans (Shape.laidOut_named_iff.1 laidOut))

theorem Shape.Like.refl (shape : Shape) : shape.Like shape := by
  cases shape with
  | single m => exact .single m m
  | list items firstOnly => exact .list firstOnly rfl
  | named entries => exact .named rfl

theorem augment_of_run {auth : AuthResult} {options : HealingOptions} {capabilities : Json}
    {shape : Shape} {c : Changed Shape} (authorized : isAuthorized auth options = true)
    (laidOut : Shape.of capabilities settings.firstEntryOnly = .ok shape)
    (ran : (shape.augment (inject settings) fun entry => isEligible settings (.obj entry)).run w =
      (.ok c, u)) :
    ∃ log, (augment settings auth options capabilities).run w =
      (.ok (c.left.toJson, c.fault?), { u with log }) := by
  simp only [augment, authorized, if_true, laidOut]
  rw [Action.run_bind_ok ran]
  cases c.fault? with
  | some fault => exact ⟨u.log, rfl⟩
  | none =>
    obtain ⟨log, logged⟩ := Action.run_log .debug
      ("Injected healing support into " ++ toString c.count ++ " capability set(s)") u
    exact ⟨log, Action.run_bind_ok logged⟩

/-- To inject into capabilities once more, where the companion extension is as it was, changes
nothing. The first time leaves capabilities of the same shape, and the second time leaves them as
they are and ends with the same fault, if the first one did with one. -/
theorem augment_again (settings : Settings τ) (auth : AuthResult) (options : HealingOptions)
    (capabilities : Json) (w : World ε τ) :
    ∃ left fault? v,
      (augment settings auth options capabilities).run w = (.ok (left, fault?), v) ∧
      v.extension? settings = w.extension? settings ∧
      (∀ shape, Shape.of capabilities settings.firstEntryOnly = .ok shape →
        ∃ shape', Shape.of left settings.firstEntryOnly = .ok shape' ∧ shape.Like shape') ∧
      ∀ u : World ε τ, u.extension? settings = w.extension? settings →
        ∃ t, (augment settings auth options left).run u = (.ok (left, fault?), t) := by
  by_cases authorized : isAuthorized auth options = true
  case neg =>
    have unchanged (w : World ε τ) : ∃ log, (augment settings auth options capabilities).run w =
        (.ok (capabilities, none), { w with log }) := by
      simp only [augment, authorized, Bool.false_eq_true, if_false]
      cases options.selfHeal with
      | false => exact ⟨w.log, rfl⟩
      | true =>
        obtain ⟨log, logged⟩ := Action.run_log .warning
          ("Healing Auth failed. Disabling healing for this session. Reason: " ++
            (Json.ofText? auth.message).display) w
        exact ⟨log, Action.run_bind_ok logged⟩
    obtain ⟨log, ran⟩ := unchanged w
    refine ⟨capabilities, none, _, ran, World.extension?_congr rfl rfl,
      fun shape laidOut => ⟨shape, laidOut, .refl shape⟩, fun u _ => ?_⟩
    obtain ⟨log', again⟩ := unchanged u
    exact ⟨_, again⟩
  case pos =>
    cases laidOut : Shape.of capabilities settings.firstEntryOnly with
    | error fault =>
      have unchanged (w : World ε τ) : (augment settings auth options capabilities).run w =
          (.ok (capabilities, some fault), w) := by
        simp only [augment, authorized, if_true, laidOut]
        rfl
      exact ⟨capabilities, some fault, w, unchanged w, rfl, nofun, fun u _ => ⟨u, unchanged u⟩⟩
    | ok shape =>
      obtain ⟨stays, -⟩ := Shape.laidOut_of laidOut
      obtain ⟨c, v, -, ran, -, like, stays', kept, -⟩ :=
        settles_augment (w := w) (u := w) shape stays rfl rfl
      obtain ⟨log, first⟩ := augment_of_run authorized laidOut ran
      have text : ({ v with log } : World ε τ).extension? settings = v.extension? settings :=
        World.extension?_congr rfl rfl
      refine ⟨c.left.toJson, c.fault?, _, first, text.trans kept, ?_,
        fun u same => ?_⟩
      · rintro shape' ⟨⟩
        exact ⟨c.left, stays', like⟩
      · -- the first run is the same one, in whatever world the second one takes place
        obtain ⟨c', v', t, ran', again, -⟩ := settles_augment (w := w) (u := u) shape stays rfl same
        cases ran.symm.trans ran'
        obtain ⟨log', second⟩ := augment_of_run authorized stays' again
        exact ⟨_, second⟩

end Runs

section Concrete

def companionSettings : Settings Rat :=
  { ((Manner.mending "a").healing {}).settings with
    supportedBrowsers := ["chrome"], chromeExtension := some "/companion.crx" }

def companionWorld : World Still Rat :=
  { (Manner.mending "a").world {} {} none "a" with
    files := ⟨[(["companion.crx"], .file [67, 114, 50, 52] 1)], []⟩ }

/-- Two sets for Chrome: the first one takes the extension, the options of the second are no
options. -/
def companionList : Json :=
  .arr [.obj [("browserName", .str "chrome")],
    .obj [("browserName", .str "chrome"), ("goog:chromeOptions", .num (.int 5))]]

theorem augment_again_malformed :
    let marks := metadata companionSettings
    let left : Json := .arr [
      .obj [("browserName", .str "chrome"), (metadataName, marks),
        ("goog:chromeOptions", .obj [("extensions", .arr [.str "Q3IyNA=="])])],
      .obj [("browserName", .str "chrome"), ("goog:chromeOptions", .num (.int 5)),
        (metadataName, marks)]]
    let augmented (capabilities : Json) : Action Still Rat (Json × Option Fault) :=
      augment companionSettings { isAuthenticated := true } { selfHeal := true } capabilities
    ∃ v t, (augmented companionList).run companionWorld =
        (.ok (left, some (.noMember "int" "setdefault")), v) ∧
      (augmented left).run v = (.ok (left, some (.noMember "int" "setdefault")), t) := by
  intro marks left augmented
  obtain ⟨left', fault?, v, ran, same, -, again⟩ :=
    augment_again companionSettings { isAuthenticated := true } { selfHeal := true } companionList
      companionWorld
  have first : ((augmented companionList).run companionWorld).1 =
      .ok (left, some (.noMember "int" "setdefault")) := rfl
  obtain ⟨rfl, rfl⟩ : left' = left ∧ fault? = some (.noMember "int" "setdefault") := by
    have came := (congrArg Prod.fst ran).symm.trans first
    exact Prod.mk.inj (Except.ok.inj came)
  obtain ⟨t, ran'⟩ := again v same
  exact ⟨v, t, ran, ran'⟩

end Concrete

end Capability

end LocatorHealing
