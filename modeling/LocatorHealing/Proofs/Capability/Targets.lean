import LocatorHealing.Proofs.Capability.Again

set_option autoImplicit false
set_option relaxedAutoImplicit false

/-!
A change of capabilities reaches its targets and nothing else. The targets stand in the order in
which they are changed, each of them is changed once, and what is left has them replaced where they
stood. Injecting changes of a target no more than the metadata and the extensions of its browser.
-/

namespace LocatorHealing.Capability

variable {ε τ α : Type}

/-- Targets with what a change leaves of them, in the order of the changes. -/
abbrev Changes : Type :=
  List (Members × Members)

/-- The changes are made one after the other, and nothing is done in between. -/
inductive Applied (inject : Injector (Action ε τ)) : World ε τ → Changes → World ε τ → Prop where
  | nil (w : World ε τ) : Applied inject w [] w
  | cons {t t' : Members} {changes : Changes} {w u v : World ε τ}
      (ran : (inject t).run w = (.ok (t', none), u)) (rest : Applied inject u changes v) :
      Applied inject w ((t, t') :: changes) v

theorem Applied.append {inject : Injector (Action ε τ)} {u v w : World ε τ} {changes more : Changes}
    (first : Applied inject w changes u) (others : Applied inject u more v) :
    Applied inject w (changes ++ more) v := by
  induction first with
  | nil => exact others
  | cons ran _ ih => exact .cons ran (ih others)

/-- What is left of a list has the targets replaced that its elements hold; other elements stay as
they are. -/
inductive Replaced (target? : α → Option Members) (put : α → Members → α) :
    List α → Changes → List α → Prop where
  | nil : Replaced target? put [] [] []
  | kept {a : α} {rest rest' : List α} {changes : Changes} (spared : target? a = none)
      (others : Replaced target? put rest changes rest') :
      Replaced target? put (a :: rest) changes (a :: rest')
  | changed {a : α} {t : Members} {rest rest' : List α} {changes : Changes}
      (target : target? a = some t) (t' : Members)
      (others : Replaced target? put rest changes rest') :
      Replaced target? put (a :: rest) ((t, t') :: changes) (put a t' :: rest')

section Replaced

variable {target? : α → Option Members} {put : α → Members → α} {items items' left left' : List α}
  {changes more : Changes}

theorem Replaced.targets (replaced : Replaced target? put items changes left) :
    changes.map Prod.fst = items.filterMap target? := by
  induction replaced with
  | nil => rfl
  | kept spared others ih => rw [List.filterMap_cons_none spared, ih]
  | changed target t' others ih => rw [List.filterMap_cons_some target, List.map_cons, ih]

theorem Replaced.length_eq (replaced : Replaced target? put items changes left) :
    left.length = items.length := by
  induction replaced with
  | nil => rfl
  | kept spared others ih => rw [List.length_cons, List.length_cons, ih]
  | changed target t' others ih => rw [List.length_cons, List.length_cons, ih]

theorem Replaced.append (first : Replaced target? put items changes left)
    (others : Replaced target? put items' more left') :
    Replaced target? put (items ++ items') (changes ++ more) (left ++ left') := by
  induction first with
  | nil => exact others
  | kept spared _ ih => exact .kept spared ih
  | changed target t' _ ih => exact .changed target t' ih

end Replaced

/-- A mapping from names to entries: it is not empty, and each of its values is an object with an
object under the name of capabilities. -/
def NamesEntries (m : Members) : Prop :=
  m ≠ [] ∧ ∀ p ∈ m, ∃ entry t, p.2 = .obj entry ∧
    Members.get? entry "capabilities" = some (.obj t)

theorem isSome_inner?_iff {v : Json} :
    (inner? v).isSome = true ↔
      ∃ entry t, v = .obj entry ∧ Members.get? entry "capabilities" = some (.obj t) := by
  cases v with
  | obj entry =>
    cases inner : inner? (.obj entry) with
    | some t => simpa using ⟨t, get?_of_inner? inner⟩
    | none =>
      refine ⟨nofun, ?_⟩
      rintro ⟨_, t, same, held⟩
      cases same
      simp [inner?, held] at inner
  | _ => simp [inner?]

private theorem isNamed_iff {m : Members} : isNamed m = true ↔ NamesEntries m := by
  simp [isNamed, NamesEntries, isSome_inner?_iff]

instance (m : Members) : Decidable (NamesEntries m) :=
  decidable_of_iff _ isNamed_iff

theorem shape_cases {raw : Json} {firstOnly : Bool} {shape : Shape}
    (laidOut : Shape.of raw firstOnly = .ok shape) :
    (∃ items, raw = .arr items ∧ shape = .list items firstOnly) ∨
      (∃ m, raw = .obj m ∧ NamesEntries m ∧ shape = .named m) ∨
      ∃ m, raw = .obj m ∧ ¬ NamesEntries m ∧ shape = .single m := by
  cases raw with
  | arr items =>
    cases laidOut
    exact .inl ⟨items, rfl, rfl⟩
  | obj m =>
    by_cases names : NamesEntries m
    · rw [Shape.of, if_pos (isNamed_iff.2 names)] at laidOut
      cases laidOut
      exact .inr (.inl ⟨m, rfl, names, rfl⟩)
    · rw [Shape.of, if_neg (mt isNamed_iff.1 names)] at laidOut
      cases laidOut
      exact .inr (.inr ⟨m, rfl, names, rfl⟩)
  | _ => cases laidOut

section Layouts

variable (isEligible : Eligibility)

/-- An item is itself a target, if it is a set of capabilities and eligible. -/
def itemTarget? : Json → Option Members
  | .obj m => if isEligible m matches .ok true then some m else none
  | _ => none

def entryTarget? (named : String × Json) : Option Members :=
  match named.2 with
  | .obj entry => if isEligible entry matches .ok true then inner? named.2 else none
  | _ => none

def putItem (_ : Json) (t : Members) : Json :=
  .obj t

def putEntry (named : String × Json) (t : Members) : String × Json :=
  match named.2 with
  | .obj entry => (named.1, .obj (Members.put entry "capabilities" (.obj t)))
  | _ => named

def reach (firstOnly : Bool) (items : List Json) : Nat :=
  if firstOnly then 1 else items.length

def targets (firstOnly : Bool) : Json → List Members
  | .arr items => (items.take (reach firstOnly items)).filterMap (itemTarget? isEligible)
  | .obj m =>
    if NamesEntries m then m.filterMap (entryTarget? isEligible)
    else (itemTarget? isEligible (.obj m)).toList
  | _ => []

/-- What is left of capabilities of any layout, and the changes that were made of it. -/
inductive Altered (firstOnly : Bool) : Json → Changes → Json → Prop where
  | single {m : Members} {changes : Changes} {left : Json} (plain : ¬ NamesEntries m)
      (replaced : Replaced (itemTarget? isEligible) putItem [.obj m] changes [left]) :
      Altered firstOnly (.obj m) changes left
  | list {items front : List Json} {changes : Changes}
      (replaced : Replaced (itemTarget? isEligible) putItem
        (items.take (reach firstOnly items)) changes front) :
      Altered firstOnly (.arr items) changes
        (.arr (front ++ items.drop (reach firstOnly items)))
  | named {entries entries' : Members} {changes : Changes} (names : NamesEntries entries)
      (replaced : Replaced (entryTarget? isEligible) putEntry entries changes entries') :
      Altered firstOnly (.obj entries) changes (.obj entries')

variable {isEligible}

/-- Replacing the targets of a mapping keeps its names. -/
private theorem Replaced.names_eq {entries left : Members} {changes : Changes}
    (replaced : Replaced (entryTarget? isEligible) putEntry entries changes left) :
    Members.names left = Members.names entries := by
  induction replaced with
  | nil => rfl
  | kept spared others ih => exact congrArg (List.cons _) ih
  | @changed named t rest rest' changes target t' others ih =>
    have name : (putEntry named t').1 = named.1 := by
      unfold putEntry
      split
      · rfl
      · rfl
    exact congrArg₂ List.cons name ih

variable {firstOnly : Bool} {raw left : Json} {changes : Changes}

theorem Altered.targets (altered : Altered isEligible firstOnly raw changes left) :
    changes.map Prod.fst = targets isEligible firstOnly raw := by
  cases altered with
  | single plain replaced =>
    rw [replaced.targets, Capability.targets, if_neg plain]
    cases item : itemTarget? isEligible _ with
    | none => simp [item]
    | some t => simp [item]
  | list replaced => exact replaced.targets
  | named names replaced => rw [replaced.targets, Capability.targets, if_pos names]

end Layouts

section Runs

variable {inject : Injector (Action ε τ)} {isEligible : Eligibility} {u v w : World ε τ}

/-- A change of one element that ends without a fault is the change of its target, if it has one. -/
def Alters (inject : Injector (Action ε τ)) (target? : α → Option Members)
    (put : α → Members → α) (change : α → Action ε τ (Changed α)) : Prop :=
  ∀ a (w v : World ε τ) c, (change a).run w = (.ok c, v) → c.fault? = none →
    ∃ changes, Replaced target? put [a] changes [c.left] ∧ c.count = changes.length ∧
      Applied inject w changes v

private theorem run_changeEach {target? : α → Option Members} {put : α → Members → α}
    {change : α → Action ε τ (Changed α)} (alters : Alters inject target? put change)
    {items : List α} {c : Changed (List α)}
    (ran : (changeEach change items).run w = (.ok c, v)) (fine : c.fault? = none) :
    ∃ changes, Replaced target? put items changes c.left ∧ c.count = changes.length ∧
      Applied inject w changes v := by
  induction items generalizing w c with
  | nil =>
    cases ran
    exact ⟨[], .nil, rfl, .nil v⟩
  | cons a rest ih =>
    obtain ⟨first, u, here, ran⟩ := Action.of_run_bind_ok ran
    cases ended : first.fault? with
    | some fault =>
      rw [ended] at ran
      cases ran
      cases fine
    | none =>
      rw [ended] at ran
      obtain ⟨others, u', there, ran⟩ := Action.of_run_bind_ok ran
      cases ran
      -- the first element is changed in the world at hand, the others in the one that this leaves
      obtain ⟨changes, replaced, count, applied⟩ := alters a w u first here ended
      obtain ⟨more, replaced', count', applied'⟩ := ih there fine
      refine ⟨changes ++ more, replaced.append replaced', ?_, applied.append applied'⟩
      rw [List.length_append, count, count']

private theorem run_changeTarget_cases {entry target : Members} {c : Changed Members}
    (ran : (changeTarget inject isEligible entry target).run w = (.ok c, v))
    (fine : c.fault? = none) :
    (isEligible entry = .ok false ∧ c = .none target ∧ v = w) ∨
      (isEligible entry = .ok true ∧ ∃ t', c = ⟨t', 1, none⟩ ∧
        (inject target).run w = (.ok (t', none), v)) := by
  unfold changeTarget at ran
  split at ran
  · cases ran
    cases fine
  case h_2 spared =>
    cases ran
    exact .inl ⟨spared, rfl, rfl⟩
  case h_3 eligible =>
    obtain ⟨⟨t', fault?⟩, u, injected, ran⟩ := Action.of_run_bind_ok ran
    cases ran
    cases fine
    exact .inr ⟨eligible, t', rfl, injected⟩

private theorem alters_changeItem :
    Alters inject (itemTarget? isEligible) putItem (changeItem inject isEligible) := by
  intro item w v c ran fine
  cases item with
  | obj m =>
    obtain ⟨d, u, here, ran⟩ := Action.of_run_bind_ok ran
    cases ran
    obtain ⟨spared, rfl, rfl⟩ | ⟨eligible, t', rfl, injected⟩ := run_changeTarget_cases here fine
    · refine ⟨[], .kept ?_ .nil, rfl, .nil _⟩
      simp [itemTarget?, spared]
    · refine ⟨[(m, t')], .changed ?_ t' .nil, rfl, .cons injected (.nil _)⟩
      simp [itemTarget?, eligible]
  | _ =>
    cases ran
    exact ⟨[], .kept rfl .nil, rfl, .nil _⟩

private theorem alters_changeEntry :
    Alters inject (entryTarget? isEligible) putEntry (changeEntry inject isEligible) := by
  rintro ⟨name, value⟩ w v c ran fine
  cases value with
  | obj entry =>
    cases inner : inner? (.obj entry) with
    | none =>
      simp only [changeEntry, inner] at ran
      cases ran
      exact ⟨[], .kept (by simp [entryTarget?, inner]) .nil, rfl, .nil _⟩
    | some target =>
      simp only [changeEntry, inner] at ran
      obtain ⟨d, u, here, ran⟩ := Action.of_run_bind_ok ran
      cases ran
      obtain ⟨spared, rfl, rfl⟩ | ⟨eligible, t', rfl, injected⟩ := run_changeTarget_cases here fine
      · -- to put back the set that an entry holds leaves the entry as it is
        have same : Members.put entry "capabilities" (.obj target) = entry :=
          Members.put_of_get? (get?_of_inner? inner)
        simp only [Changed.map, Changed.none, same]
        exact ⟨[], .kept (by simp [entryTarget?, spared]) .nil, rfl, .nil _⟩
      · refine ⟨[(target, t')], .changed ?_ t' .nil, rfl, .cons injected (.nil _)⟩
        simp [entryTarget?, eligible, inner]
  | _ =>
    cases ran
    cases fine

theorem run_augment {firstOnly : Bool} {raw : Json} {shape : Shape} {c : Changed Shape}
    (laidOut : Shape.of raw firstOnly = .ok shape)
    (ran : (shape.augment inject isEligible).run w = (.ok c, v)) (fine : c.fault? = none) :
    ∃ changes, Altered isEligible firstOnly raw changes c.left.toJson ∧
      c.count = changes.length ∧ Applied inject w changes v ∧ shape.Like c.left := by
  rcases shape_cases laidOut with ⟨items, rfl, rfl⟩ | ⟨m, rfl, names, rfl⟩ | ⟨m, rfl, plain, rfl⟩
  · obtain ⟨d, u, here, ran⟩ := Action.of_run_bind_ok ran
    cases ran
    obtain ⟨changes, replaced, count, applied⟩ := run_changeEach alters_changeItem here fine
    obtain ⟨-, -, length⟩ := take_reach firstOnly replaced.length_eq
    exact ⟨changes, .list replaced, count, applied, .list firstOnly length⟩
  · obtain ⟨d, u, here, ran⟩ := Action.of_run_bind_ok ran
    cases ran
    obtain ⟨changes, replaced, count, applied⟩ := run_changeEach alters_changeEntry here fine
    exact ⟨changes, .named names replaced, count, applied, .named replaced.names_eq⟩
  · -- a single set is changed as an item of a list is
    have item : ∃ d, (changeItem inject isEligible (.obj m)).run w = (.ok d, v) ∧
        d.left = c.left.toJson ∧ d.count = c.count ∧ d.fault? = c.fault? ∧
          (Shape.single m).Like c.left := by
      obtain ⟨d, u, here, ran⟩ := Action.of_run_bind_ok ran
      cases ran
      exact ⟨_, Action.run_bind_ok here, rfl, rfl, rfl, .single _ _⟩
    obtain ⟨d, here, left, count, ended, like⟩ := item
    obtain ⟨changes, replaced, count', applied⟩ :=
      alters_changeItem _ w v d here (ended.trans fine)
    rw [left] at replaced
    exact ⟨changes, .single plain replaced, count.symm.trans count', applied, like⟩

open LocatorHealing.Action (Gives gives_pure gives_bind)

private theorem gives_changeEach_fine {change : α → Action ε τ (Changed α)} {items : List α}
    (fine : ∀ a ∈ items, Gives (fun c => c.fault? = none) (change a)) :
    Gives (fun c => c.fault? = none) (changeEach change items) := by
  induction items with
  | nil => exact gives_pure rfl
  | cons a rest ih =>
    refine gives_bind (fine a List.mem_cons_self) fun c ended => ?_
    rw [ended]
    exact gives_bind (ih fun b there => fine b (List.mem_cons_of_mem a there)) fun d ended =>
      gives_pure ended

section Fine

variable (injects : ∀ m, Gives (fun r => r.2 = none) (inject m))
  (decides : ∀ entry, ∃ eligible, isEligible entry = .ok eligible)
include injects decides

private theorem gives_changeTarget_fine (entry target : Members) :
    Gives (fun c => c.fault? = none) (changeTarget inject isEligible entry target) := by
  obtain ⟨eligible, decided⟩ := decides entry
  rw [changeTarget, decided]
  cases eligible with
  | false => exact gives_pure rfl
  | true => exact gives_bind (injects target) fun r ended => gives_pure ended

private theorem gives_changeItem_fine (item : Json) :
    Gives (fun c => c.fault? = none) (changeItem inject isEligible item) := by
  cases item with
  | obj m => exact gives_bind (gives_changeTarget_fine injects decides m m) fun c ended =>
      gives_pure ended
  | _ => exact gives_pure rfl

private theorem gives_changeEntry_fine {named : String × Json}
    (holds : (inner? named.2).isSome = true) :
    Gives (fun c => c.fault? = none) (changeEntry inject isEligible named) := by
  obtain ⟨name, value⟩ := named
  obtain ⟨entry, t, rfl, held⟩ := isSome_inner?_iff.1 holds
  simp only [changeEntry, inner?, held]
  exact gives_bind (gives_changeTarget_fine injects decides entry t) fun c ended =>
      gives_pure ended

private theorem gives_augment_fine {firstOnly : Bool} {raw : Json} {shape : Shape}
    (laidOut : Shape.of raw firstOnly = .ok shape) :
    Gives (fun c => c.fault? = none) (shape.augment inject isEligible) := by
  rcases shape_cases laidOut with ⟨items, rfl, rfl⟩ | ⟨m, rfl, names, rfl⟩ | ⟨m, rfl, plain, rfl⟩
  · refine gives_bind (gives_changeEach_fine fun item _ => ?_) fun c ended => gives_pure ended
    exact gives_changeItem_fine injects decides item
  · refine gives_bind (gives_changeEach_fine fun named there => ?_) fun c ended =>
      gives_pure ended
    exact gives_changeEntry_fine injects decides (isSome_inner?_iff.2 (names.2 named there))
  · exact gives_bind (gives_changeTarget_fine injects decides m m) fun c ended => gives_pure ended

end Fine

end Runs

section Injected

/-- The options of a browser that take extensions, by the browser's name in letters of any case. -/
def optionsFor? (m : Members) : Option String :=
  let name := Text.lower ((m.get? "browserName").getD (.str "")).display
  if name = "chrome" then some "goog:chromeOptions"
  else if name = "edge" ∨ name = "microsoftedge" then some "ms:edgeOptions"
  else none

/-- Extensions with one more at the end, unless it is among them. -/
inductive Extended (encoded : String) : Json → Json → Prop where
  | added {items : List Json} (new : .str encoded ∉ items) :
      Extended encoded (.arr items) (.arr (items ++ [.str encoded]))
  | listed {items : List Json} (there : .str encoded ∈ items) :
      Extended encoded (.arr items) (.arr items)
  /-- Extensions that are no list hold the text in their own way. -/
  | held {v : Json} (other : ∀ items, v ≠ .arr items) (there : v.holds encoded = .ok true) :
      Extended encoded v v

/-- What injecting changes of a set: the metadata and, if there is an extension for its browser, the
extensions among the browser's options. Names stay in their order, and new ones stand behind them.
-/
structure Injected (settings : Settings τ) (extension? : Option (Except Fault String))
    (t t' : Members) : Prop where
  metadata : t'.get? "selfheal:options" = some (metadata settings)
  elsewhere : ∀ name, name ≠ "selfheal:options" →
    (∀ encoded, extension? = some (.ok encoded) → optionsFor? t ≠ some name) →
    t'.get? name = t.get? name
  extensions : ∀ key encoded, optionsFor? t = some key → extension? = some (.ok encoded) →
    ∃ vendor vendor' old new, (t.get? key).getD (.obj []) = .obj vendor ∧
      t'.get? key = some (.obj vendor') ∧
      (Members.get? vendor "extensions").getD (.arr []) = old ∧
      Members.get? vendor' "extensions" = some new ∧ Extended encoded old new ∧
      (∀ name, name ≠ "extensions" → Members.get? vendor' name = Members.get? vendor name) ∧
      Members.names vendor <+: Members.names vendor'
  order : t.names <+: t'.names

private theorem names_put (m : Members) (name : String) (v : Json) :
    m.names <+: (m.put name v).names := by
  induction m with
  | nil => exact List.nil_prefix
  | cons p rest ih =>
    obtain ⟨k, w⟩ := p
    rw [Members.put]
    split
    case isTrue same =>
      subst same
      exact List.prefix_rfl
    case isFalse => exact (List.prefix_cons_inj k).2 ih

theorem extensionKey?_eq (m : Members) : extensionKey? m = optionsFor? m := by
  rw [extensionKey?, optionsFor?]
  generalize Text.lower ((m.get? "browserName").getD (.str "")).display = name
  grind [extensionOptionKeys]

theorem extensionKey?_marked {settings : Settings τ} (m : Members) :
    extensionKey? (marked settings m) = optionsFor? m := by
  rw [← extensionKey?_eq]
  refine extensionKey?_congr ?_
  rw [marked, Members.get?_put, if_neg (by decide)]

theorem same_str_iff {v : Json} {s : String} : v.same (.str s) = true ↔ v = .str s := by
  cases v with
  | _ => simp [Json.same, Json.asNumber?]

theorem holds_arr {items : List Json} {s : String} {found : Bool}
    (searched : (Json.arr items).holds s = .ok found) : found = true ↔ .str s ∈ items := by
  rw [← Except.ok.inj searched, List.any_eq_true]
  simp [same_str_iff]

private theorem extended_of_withExtension {encoded : String} {old new : Json}
    (added : withExtension encoded old = (new, none)) : Extended encoded old new := by
  unfold withExtension at added
  split at added
  · cases added
  case h_2 there =>
    cases added
    cases old with
    | arr items => exact .listed ((holds_arr there).1 rfl)
    | _ => exact .held (fun _ => nofun) there
  case h_3 missing =>
    split at added
    case h_1 items =>
      cases added
      exact .added (mt (holds_arr missing).2 Bool.false_ne_true)
    case h_2 => cases added

private theorem addExtension_ok {key encoded : String} {m m' : Members}
    (added : addExtension key encoded m = (m', none)) :
    ∃ vendor new, (m.get? key).getD (.obj []) = .obj vendor ∧
      Extended encoded ((Members.get? vendor "extensions").getD (.arr [])) new ∧
      m' = m.put key (.obj (Members.put vendor "extensions" new)) := by
  cases options : (m.get? key).getD (.obj []) with
  | obj vendor =>
    rw [addExtension_obj options] at added
    obtain ⟨rfl, ended⟩ := Prod.mk.inj added
    exact ⟨vendor, _, rfl, extended_of_withExtension (Prod.ext rfl ended), rfl⟩
  | _ =>
    rw [addExtension, options] at added
    cases added

theorem injected_of_ok {settings : Settings τ} {extension? : Option (Except Fault String)}
    {t t' : Members} (ran : injected settings extension? t = (t', none)) :
    Injected settings extension? t t' := by
  have mark : t'.get? metadataName = some (metadata settings) := by
    rw [← show _ = t' from congrArg Prod.fst ran]
    exact get?_injected_metadata
  have unmarked (name : String) (apart : name ≠ metadataName) :
      (marked settings t).get? name = t.get? name := by
    rw [marked, Members.get?_put, if_neg apart.symm]
  unfold injected at ran
  rw [extensionKey?_marked] at ran
  split at ran
  case h_1 key encoded takes =>
    obtain ⟨vendor, new, options, extended, rfl⟩ := addExtension_ok ran
    have apart : key ≠ metadataName := by
      rintro rfl
      cases isVendorKey_of_extensionKey? ((extensionKey?_eq t).trans takes)
    refine
      { metadata := mark
        elsewhere := fun name other spared => ?_
        extensions := fun key' encoded' takes' text => ?_
        order := (names_put _ _ _).trans (names_put _ _ _) }
    · have elsewhere : key ≠ name :=
        fun same => spared encoded rfl (takes.trans (congrArg some same))
      rw [Members.get?_put, if_neg elsewhere, unmarked name other]
    · cases takes.symm.trans takes'
      cases text
      rw [unmarked key apart] at options
      refine ⟨vendor, _, _, new, options, Members.get?_put_self _ _ _, rfl,
        Members.get?_put_self _ _ _, extended, fun name other => ?_, names_put _ _ _⟩
      rw [Members.get?_put, if_neg other.symm]
  case h_2 => cases ran
  case h_3 plain failed =>
    cases ran
    exact
      { metadata := mark
        elsewhere := fun name other _ => unmarked name other
        extensions := fun key encoded takes text => absurd text (plain key encoded takes)
        order := names_put _ _ _ }

/-- Each of the changes is what injecting makes of its target. -/
theorem Applied.eq_injected {settings : Settings τ} {w v : World ε τ} {changes : Changes}
    (applied : Applied (inject settings) w changes v) :
    ∀ t t', (t, t') ∈ changes → injected settings (w.extension? settings) t = (t', none) := by
  induction applied with
  | nil => exact fun _ _ => nofun
  | @cons t t' changes w u v ran rest ih =>
    intro s s' there
    obtain ⟨u', ran', kept⟩ := run_inject t (rfl : w.extension? settings = _)
    obtain ⟨came, rfl⟩ := Prod.mk.inj (ran.symm.trans ran')
    rcases List.mem_cons.1 there with same | later
    · cases same
      exact (Except.ok.inj came).symm
    · rw [← kept]
      exact ih s s' later

theorem Applied.injected {settings : Settings τ} {w v : World ε τ} {changes : Changes}
    (applied : Applied (inject settings) w changes v) (t t' : Members)
    (there : (t, t') ∈ changes) : Injected settings (w.extension? settings) t t' :=
  injected_of_ok (applied.eq_injected t t' there)

end Injected

/-- A change of capabilities of any layout comes to its end, where no fault ends it, with every
target changed once, in the order in which they stand, and nothing else done. It counts them, and
leaves capabilities of the same shape in which they alone are replaced. Injecting changes of each of
them what is injected. -/
theorem augment_targets (raw : Json) (firstOnly : Bool)
    (layout : (∃ items, raw = .arr items) ∨ ∃ m, raw = .obj m) :
    ∃ shape, Shape.of raw firstOnly = .ok shape ∧
      ∀ (inject : Injector (Action ε τ)) (isEligible : Eligibility) (w : World ε τ),
        ((∀ m u, ∃ m' v, (inject m).run u = (.ok (m', none), v)) →
          (∀ entry, ∃ eligible, isEligible entry = .ok eligible) →
          ∃ c v, (shape.augment inject isEligible).run w = (.ok c, v) ∧ c.fault? = none) ∧
        ∀ c v, (shape.augment inject isEligible).run w = (.ok c, v) → c.fault? = none →
          ∃ changes : Changes, changes.map Prod.fst = targets isEligible firstOnly raw ∧
            c.count = changes.length ∧ Applied inject w changes v ∧
            Altered isEligible firstOnly raw changes c.left.toJson ∧ shape.Like c.left ∧
            ∀ settings, inject = Capability.inject settings →
              ∀ t t', (t, t') ∈ changes → Injected settings (w.extension? settings) t t' := by
  obtain ⟨shape, laidOut⟩ : ∃ shape, Shape.of raw firstOnly = .ok shape := by
    obtain ⟨items, rfl⟩ | ⟨m, rfl⟩ := layout
    · exact ⟨_, rfl⟩
    · exact ⟨_, rfl⟩
  refine ⟨shape, laidOut, fun inject isEligible w => ⟨fun injects decides => ?_, ?_⟩⟩
  · have smooth (m : Members) : Action.Gives (fun r => r.2 = none) (inject m) := fun u => by
      obtain ⟨m', v, ran⟩ := injects m u
      exact ⟨_, v, ran, rfl⟩
    exact gives_augment_fine smooth decides laidOut w
  · intro c v ran fine
    obtain ⟨changes, altered, count, applied, like⟩ := run_augment laidOut ran fine
    refine ⟨changes, altered.targets, count, applied, altered, like, ?_⟩
    rintro settings rfl
    exact applied.injected

def companionEntries : Members :=
  [("local", .obj [("capabilities", .obj [("browserName", .str "Chrome")])]),
    ("mobile", .obj [("capabilities", .obj [("platformName", .str "Android")])])]

def noting : Injector (Action Still Rat) := fun m =>
  return (m.put "seen" (.bool true), none)

theorem augment_targets_companion :
    (∃ c v, ((Shape.named companionEntries).augment noting fun _ => .ok true).run companionWorld =
      (.ok c, v) ∧ c.count = 2) ∧
    ∃ c v t', ((Shape.named companionEntries).augment (inject companionSettings) fun entry =>
        isEligible companionSettings (.obj entry)).run companionWorld = (.ok c, v) ∧
      c.count = 1 ∧
      Altered (fun entry => isEligible companionSettings (.obj entry)) false (.obj companionEntries)
        [([("browserName", .str "Chrome")], t')] c.left.toJson ∧
      Injected companionSettings (some (.ok "Q3IyNA==")) [("browserName", .str "Chrome")] t' := by
  obtain ⟨shape, laidOut, all⟩ :=
    augment_targets (.obj companionEntries) false (.inr ⟨companionEntries, rfl⟩)
  have named : Shape.of (.obj companionEntries) false = .ok (.named companionEntries) := rfl
  obtain rfl := Except.ok.inj (laidOut.symm.trans named)
  constructor
  · obtain ⟨ends, runs⟩ := all noting (fun _ => .ok true) companionWorld
    obtain ⟨c, v, ran, fine⟩ := ends (fun m u => ⟨_, u, rfl⟩) fun _ => ⟨true, rfl⟩
    obtain ⟨changes, reached, count, -⟩ := runs c v ran fine
    refine ⟨c, v, ran, ?_⟩
    rw [count, ← List.length_map Prod.fst, reached]
    rfl
  · obtain ⟨-, runs⟩ := all (inject companionSettings)
      (fun entry => isEligible companionSettings (.obj entry)) companionWorld
    obtain ⟨c, came, counted, ended⟩ : ∃ c, (((Shape.named companionEntries).augment
        (inject companionSettings) fun entry => isEligible companionSettings (.obj entry)).run
          companionWorld).1 = .ok c ∧ c.count = 1 ∧ c.fault? = none := ⟨_, rfl, rfl, rfl⟩
    obtain ⟨changes, reached, count, -, altered, -, injected⟩ := runs c _ (Prod.ext came rfl) ended
    obtain ⟨⟨t, t'⟩, rfl⟩ := List.length_eq_one_iff.1 (count.symm.trans counted)
    have chrome : [t] = [[("browserName", .str "Chrome")]] := reached
    cases chrome
    have text : companionWorld.extension? companionSettings = some (.ok "Q3IyNA==") := rfl
    refine ⟨c, _, t', Prod.ext came rfl, counted, altered, ?_⟩
    rw [← text]
    exact injected companionSettings rfl _ t' List.mem_cons_self

end LocatorHealing.Capability
