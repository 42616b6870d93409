import LocatorHealing.Proofs.Capability.Targets

set_option autoImplicit false
set_option relaxedAutoImplicit false

/-!
The set of capabilities that says which browser an entry is for. Eligibility is decided on this set,
and what is injected goes to the set that the layout takes for the target. In a mapping from names
the two are the same set, and so they are for an entry that has nothing under the name of
capabilities.
-/

namespace LocatorHealing

theorem Fault.of_bind_ok {α β : Type} {x : Except Fault α} {f : α → Except Fault β} {b : β}
    (came : x >>= f = .ok b) : ∃ a, x = .ok a ∧ f a = .ok b := by
  cases x with
  | error fault => cases came
  | ok a => exact ⟨a, rfl, came⟩

namespace Capability

variable {ε τ α β : Type} {settings : Settings τ} {extension? : Option (Except Fault String)}

/-- The set that says which browser an entry is for: the one that it holds, or else itself. -/
def bearer (entry : Json) : Except Fault Members := do
  let m ← entry.membersFor "get"
  ((m.get? "capabilities").getD entry).membersFor "get"

private theorem isEligible_eq_bearer (entry : Json) :
    isEligible settings entry = (do
      let set ← bearer entry
      if ← settings.supportsBrowser ((set.get? "browserName").getD .null) then
        return !(← settings.isProviderEntry entry)
      else return false) := by
  rw [isEligible, bearer, bind_assoc]

private theorem bearer_of_eligible {entry : Json}
    (eligible : isEligible settings entry = .ok true) :
    ∃ set, bearer entry = .ok set ∧
      settings.supportsBrowser ((set.get? "browserName").getD .null) = .ok true := by
  rw [isEligible_eq_bearer] at eligible
  obtain ⟨set, borne, decided⟩ := Fault.of_bind_ok eligible
  obtain ⟨found, supported, decided⟩ := Fault.of_bind_ok decided
  cases found with
  | true => exact ⟨set, borne, supported⟩
  | false => cases decided

private theorem bearer_of_absent {m : Members} (absent : m.get? "capabilities" = none) :
    bearer (.obj m) = .ok m := by
  change ((m.get? "capabilities").getD (.obj m)).membersFor "get" = .ok m
  rw [absent]
  rfl

private theorem bearer_of_held {m set : Members} (held : m.get? "capabilities" = some (.obj set)) :
    bearer (.obj m) = .ok set := by
  change ((m.get? "capabilities").getD (.obj m)).membersFor "get" = .ok set
  rw [held]
  rfl

/-- A set has all that healing wants of it: the metadata and, if there is an extension for its
browser, that among the extensions of the browser's options. -/
structure Equipped (settings : Settings τ) (extension? : Option (Except Fault String))
    (set : Members) : Prop where
  metadata : set.get? "selfheal:options" = some (metadata settings)
  extension : extension? ≠ none → ∀ key, optionsFor? set = some key →
    ∃ encoded vendor extensions, extension? = some (.ok encoded) ∧
      set.get? key = some (.obj vendor) ∧
      Members.get? vendor "extensions" = some extensions ∧ extensions.holds encoded = .ok true

theorem Extended.holds {encoded : String} {old new : Json} (extended : Extended encoded old new) :
    new.holds encoded = .ok true := by
  cases extended with
  | added => exact holds_append _
  | listed there =>
    refine congrArg Except.ok (List.any_eq_true.2 ⟨_, there, ?_⟩)
    exact same_str_iff.2 rfl
  | held other there => exact there

theorem optionsFor?_congr {m m' : Members} (same : m'.get? "browserName" = m.get? "browserName") :
    optionsFor? m' = optionsFor? m := by
  rw [optionsFor?, optionsFor?, same]

theorem get?_of_injected {set set' : Members} {fault? : Option Fault} {name : String}
    (ran : injected settings extension? set = (set', fault?)) (apart : metadataName ≠ name)
    (plain : Browser.isVendorKey name = false) : set'.get? name = set.get? name := by
  have left : (injected settings extension? set).1 = set' := congrArg Prod.fst ran
  rw [← left]
  exact get?_injected apart plain

/-- Where the text of the extension cannot be read, injecting into a set that takes it does not come
to its end. -/
theorem read_of_injected {text : Except Fault String} {set set' : Members} {key : String}
    (ran : injected settings (some text) set = (set', none)) (takes : optionsFor? set = some key) :
    ∃ encoded, text = .ok encoded := by
  cases text with
  | ok encoded => exact ⟨encoded, rfl⟩
  | error fault =>
    unfold injected at ran
    rw [extensionKey?_marked, takes] at ran
    cases ran

private theorem equipped_of_injected {set set' : Members}
    (ran : injected settings extension? set = (set', none)) :
    set'.get? "browserName" = set.get? "browserName" ∧ Equipped settings extension? set' := by
  have browser : set'.get? "browserName" = set.get? "browserName" :=
    get?_of_injected ran (by decide) rfl
  have all := injected_of_ok ran
  refine ⟨browser, all.metadata, fun configured key takes => ?_⟩
  rw [optionsFor?_congr browser] at takes
  cases extension? with
  | none => exact absurd rfl configured
  | some text =>
    obtain ⟨encoded, rfl⟩ := read_of_injected ran takes
    obtain ⟨-, vendor', old, new, -, there, -, extensions, extended, -⟩ :=
      all.extensions key encoded takes rfl
    exact ⟨encoded, vendor', new, rfl, there, extensions, extended.holds⟩

/-- An entry that is eligible has the set of its browser equipped in what is left of it, if that set
is the one that its layout takes for the target. -/
def Carried (settings : Settings τ) (extension? : Option (Except Fault String)) (named : Prop)
    (entry entry' : Json) : Prop :=
  isEligible settings entry = .ok true → named ∨ entry.member? "capabilities" = .ok none →
    ∃ set set', bearer entry = .ok set ∧
      settings.supportsBrowser ((set.get? "browserName").getD .null) = .ok true ∧
      bearer entry' = .ok set' ∧ set'.get? "browserName" = set.get? "browserName" ∧
      Equipped settings extension? set'

def eligible (settings : Settings τ) (entry : Json) : Bool :=
  isEligible settings entry matches .ok true

section Passing

/-- A change of one element counts once if the element counts and no fault ends the change. Without
a fault, the element is related to what is left of it. -/
structure Passes (R : α → α → Prop) (counts : α → Bool) (a : α) (c : Changed α) : Prop where
  related : c.fault? = none → R a c.left
  count : c.count = if counts a = true ∧ c.fault? = none then 1 else 0

/-- A change of elements from front to back goes through the first ones, up to the fault that ends
it: those among them count that are to count, and each of them is related to what is left of it. -/
structure Through (R : α → α → Prop) (counts : α → Bool) (items : List α) (c : Changed (List α))
    (n : Nat) : Prop where
  whole : c.fault? = none → n = items.length
  length : c.left.length = items.length
  count : c.count = (items.take n).countP counts
  related : List.Forall₂ R (items.take n) (c.left.take n)

variable {R : α → α → Prop} {counts : α → Bool}

theorem Through.nil : Through R counts [] (.none []) 0 where
  whole _ := rfl
  length := rfl
  count := rfl
  related := .nil

theorem Passes.stop {a : α} {c : Changed α} (passes : Passes R counts a c) {fault : Fault}
    (ended : c.fault? = some fault) (rest : List α) :
    Through R counts (a :: rest) ⟨c.left :: rest, c.count, some fault⟩ 0 where
  whole := nofun
  length := rfl
  count := by rw [passes.count, if_neg (by simp [ended]), List.take_zero, List.countP_nil]
  related := .nil

theorem Passes.next {a : α} {c : Changed α} (passes : Passes R counts a c) (fine : c.fault? = none)
    {rest : List α} {d : Changed (List α)} {n : Nat} (others : Through R counts rest d n) :
    Through R counts (a :: rest) ⟨c.left :: d.left, c.count + d.count, d.fault?⟩ (n + 1) where
  whole ended := congrArg (· + 1) (others.whole ended)
  length := congrArg (· + 1) others.length
  count := by
    simp only [passes.count, fine, and_true, others.count, List.take_succ_cons, List.countP_cons]
    exact Nat.add_comm _ _
  related := .cons (passes.related fine) others.related

theorem Passes.sole {a : α} {c : Changed α} (passes : Passes R counts a c) :
    ∃ n, Through R counts [a] (c.map fun b => [b]) n := by
  cases ended : c.fault? with
  | some fault =>
    refine ⟨0, ?_⟩
    rw [Changed.map, ended]
    exact passes.stop ended []
  | none =>
    refine ⟨1, ?_⟩
    rw [Changed.map, ended]
    exact passes.next ended .nil

theorem Through.map {R : β → β → Prop} {counts : β → Bool} {f : α → β} {items : List α}
    {c : Changed (List α)} {n : Nat}
    (through : Through (fun a a' => R (f a) (f a')) (fun a => counts (f a)) items c n) :
    Through R counts (items.map f) (c.map (List.map f)) n where
  whole ended := by rw [List.length_map, through.whole ended]
  length := by simp only [Changed.map, List.length_map, through.length]
  count := by
    rw [Changed.map, through.count, ← List.map_take, List.countP_map]
    rfl
  related := by
    rw [Changed.map, ← List.map_take, ← List.map_take, List.forall₂_map_left_iff,
      List.forall₂_map_right_iff]
    exact through.related

private theorem run_changeEach_through {change : α → Action ε τ (Changed α)} (items : List α)
    {w : World ε τ}
    (passes : ∀ a ∈ items, ∀ w : World ε τ, w.extension? settings = extension? →
      ∃ c v, (change a).run w = (.ok c, v) ∧ v.extension? settings = extension? ∧
        Passes R counts a c)
    (same : w.extension? settings = extension?) :
    ∃ c v n, (changeEach change items).run w = (.ok c, v) ∧ Through R counts items c n := by
  induction items generalizing w with
  | nil => exact ⟨_, w, 0, rfl, .nil⟩
  | cons a rest ih =>
    obtain ⟨c, u, ran, kept, here⟩ := passes a List.mem_cons_self w same
    rw [changeEach, Action.run_bind_ok ran]
    cases ended : c.fault? with
    | some fault => exact ⟨_, u, 0, rfl, here.stop ended rest⟩
    | none =>
      obtain ⟨d, v, n, ran', others⟩ :=
        ih (fun b there => passes b (List.mem_cons_of_mem a there)) kept
      exact ⟨_, v, n + 1, Action.run_bind_ok ran', here.next ended others⟩

end Passing

section Layouts

private theorem count_changed (decided : Except Fault Bool) (target : Members) :
    (changed settings extension? decided target).count =
      if (decided matches .ok true) = true ∧
        (changed settings extension? decided target).fault? = none then 1 else 0 := by
  unfold changed
  split
  · rfl
  · rfl
  · rw [Changed.ofTarget]
    cases (injected settings extension? target).2 with | _ => rfl

private theorem injected_of_changed {decided : Except Fault Bool} {target : Members}
    (counts : decided = .ok true)
    (fine : (changed settings extension? decided target).fault? = none) :
    injected settings extension? target =
      ((changed settings extension? decided target).left, none) := by
  subst counts
  exact Prod.ext rfl fine

private theorem passes_entry {named : Prop} (other : ¬ named) (m : Members) :
    Passes (Carried settings extension? named) (eligible settings) (.obj m)
      ((changed settings extension? (isEligible settings (.obj m)) m).map Json.obj) where
  count := count_changed _ _
  related fine counts plain := by
    have absent : m.get? "capabilities" = none := by
      obtain named | absent := plain
      · exact absurd named other
      · exact Except.ok.inj absent
    have ran := injected_of_changed counts fine
    obtain ⟨browser, equipped⟩ := equipped_of_injected ran
    obtain ⟨set, borne, supported⟩ := bearer_of_eligible counts
    obtain rfl : m = set := Except.ok.inj ((bearer_of_absent absent).symm.trans borne)
    have absent' := (get?_of_injected ran (by decide) rfl).trans absent
    exact ⟨m, _, borne, supported, bearer_of_absent absent', browser, equipped⟩

private theorem passes_held {named : Prop} {name : String} {entry target : Members}
    (held : Members.get? entry "capabilities" = some (.obj target)) :
    Passes (fun p p' => Carried settings extension? named p.2 p'.2) (fun p => eligible settings p.2)
      (name, .obj entry)
      ((changed settings extension? (isEligible settings (.obj entry)) target).map fun target =>
        (name, Json.obj (Members.put entry "capabilities" (.obj target)))) where
  count := count_changed _ _
  related fine counts _ := by
    have ran := injected_of_changed counts fine
    obtain ⟨browser, equipped⟩ := equipped_of_injected ran
    obtain ⟨set, borne, supported⟩ := bearer_of_eligible counts
    obtain rfl : target = set := Except.ok.inj ((bearer_of_held held).symm.trans borne)
    exact ⟨target, _, borne, supported, bearer_of_held (Members.get?_put_self _ _ _), browser,
      equipped⟩

def Shape.entries : Shape → List Json
  | .single m => [.obj m]
  | .list items firstOnly => items.take (reach firstOnly items)
  | .named entries => entries.map Prod.snd

def Shape.IsNamed (shape : Shape) : Prop :=
  ∃ entries, shape = .named entries

variable {w : World ε τ}

private theorem passes_changeItem {named : Prop} (other : ¬ named) (item : Json)
    (same : w.extension? settings = extension?) :
    ∃ c v,
      (changeItem (inject settings) (fun entry => isEligible settings (.obj entry)) item).run w =
        (.ok c, v) ∧
      v.extension? settings = extension? ∧
      Passes (Carried settings extension? named) (eligible settings) item c := by
  cases item with
  | obj m =>
    obtain ⟨v, ran, kept⟩ :=
      run_changeTarget (fun entry => isEligible settings (.obj entry)) m m same
    exact ⟨_, v, Action.run_bind_ok ran, kept, passes_entry other m⟩
  | _ => exact ⟨_, w, rfl, same, ⟨fun _ => nofun, rfl⟩⟩

private theorem passes_changeEntry (named : Prop) {p : String × Json}
    (holds : (inner? p.2).isSome = true) (same : w.extension? settings = extension?) :
    ∃ c v,
      (changeEntry (inject settings) (fun entry => isEligible settings (.obj entry)) p).run w =
        (.ok c, v) ∧
      v.extension? settings = extension? ∧
      Passes (fun p p' => Carried settings extension? named p.2 p'.2)
        (fun p => eligible settings p.2) p c := by
  obtain ⟨name, value⟩ := p
  obtain ⟨entry, target, rfl, held⟩ := isSome_inner?_iff.1 holds
  obtain ⟨v, ran, kept⟩ :=
    run_changeTarget (fun entry => isEligible settings (.obj entry)) entry target same
  refine ⟨_, v, ?_, kept, passes_held held⟩
  simp only [changeEntry, inner?, held]
  exact Action.run_bind_ok ran

private theorem run_augment_through {raw : Json} {firstOnly : Bool} {shape : Shape}
    (laidOut : Shape.of raw firstOnly = .ok shape) (same : w.extension? settings = extension?) :
    ∃ c v n,
      (shape.augment (inject settings) fun entry => isEligible settings (.obj entry)).run w =
        (.ok c, v) ∧
      Through (Carried settings extension? shape.IsNamed) (eligible settings) shape.entries
        (c.map Shape.entries) n := by
  rcases shape_cases laidOut with ⟨items, rfl, rfl⟩ | ⟨m, rfl, names, rfl⟩ | ⟨m, rfl, plain, rfl⟩
  · have other : ¬ (Shape.list items firstOnly).IsNamed := by
      rintro ⟨entries, same⟩
      cases same
    obtain ⟨c, v, n, ran, through⟩ :=
      run_changeEach_through (items.take (reach firstOnly items))
        (fun item _ _ same => passes_changeItem other item same) same
    refine ⟨_, v, n, Action.run_bind_ok ran, ?_⟩
    -- what is left of a list has as much of it within reach
    obtain ⟨front, -, -⟩ := take_reach firstOnly through.length
    simp only [Changed.map, Shape.entries, reach]
    rw [front]
    exact through
  · obtain ⟨c, v, n, ran, through⟩ := run_changeEach_through m
      (fun p there _ same => passes_changeEntry (Shape.named m).IsNamed
        (isSome_inner?_iff.2 (names.2 p there)) same) same
    exact ⟨_, v, n, Action.run_bind_ok ran, through.map⟩
  · obtain ⟨v, ran, -⟩ := run_changeTarget (fun entry => isEligible settings (.obj entry)) m m same
    have other : ¬ (Shape.single m).IsNamed := by
      rintro ⟨entries, same⟩
      cases same
    obtain ⟨n, through⟩ := (passes_entry other m).sole
    exact ⟨_, v, n, Action.run_bind_ok ran, through⟩

end Layouts

/-- A user who may have healing has it injected into the entries of a layout from front to back, up
to the fault that ends it. It counts the eligible ones among those that it went through. Of each of
them, the set that says which browser it is for is equipped afterwards, if the layout is a mapping
from names or the entry has nothing under the name of capabilities. -/
theorem augment_equips_bearer {auth : AuthResult} {options : HealingOptions} {raw : Json}
    {shape : Shape} (authorized : isAuthorized auth options = true)
    (laidOut : Shape.of raw settings.firstEntryOnly = .ok shape) (w : World ε τ) :
    ∃ c u v n,
      (shape.augment (inject settings) fun entry => isEligible settings (.obj entry)).run w =
        (.ok c, u) ∧
      (augment settings auth options raw).run w = (.ok (c.left.toJson, c.fault?), v) ∧
      shape.Like c.left ∧
      Through (Carried settings (w.extension? settings) shape.IsNamed) (eligible settings)
        shape.entries (c.map Shape.entries) n := by
  obtain ⟨c, u, n, ran, through⟩ := run_augment_through (w := w) laidOut rfl
  obtain ⟨stays, -⟩ := Shape.laidOut_of laidOut
  obtain ⟨c', u', t', ran', -, like, -⟩ := settles_augment (w := w) (u := w) shape stays rfl rfl
  cases ran.symm.trans ran'
  obtain ⟨log, all⟩ := augment_of_run authorized laidOut ran
  exact ⟨c, u, _, n, ran, all, like, through⟩

theorem augment_equips_bearer_companion :
    ∃ (c : Changed Shape) (v : World Still Rat) (entry' : Json) (set' : Members),
      (augment companionSettings { isAuthenticated := true } { selfHeal := true }
        (.obj companionEntries)).run companionWorld = (.ok (c.left.toJson, none), v) ∧
      c.count = 1 ∧ entry' ∈ c.left.entries ∧ bearer entry' = .ok set' ∧
      Equipped companionSettings (some (.ok "Q3IyNA==")) set' := by
  have laidOut : Shape.of (.obj companionEntries) companionSettings.firstEntryOnly =
      .ok (.named companionEntries) := rfl
  have authorized : isAuthorized { isAuthenticated := true } { selfHeal := true } = true := rfl
  obtain ⟨c, u, v, n, ran, all, -, through⟩ :=
    augment_equips_bearer authorized laidOut companionWorld
  obtain ⟨d, came, counted, ended⟩ : ∃ d, (((Shape.named companionEntries).augment
      (inject companionSettings) fun entry => isEligible companionSettings (.obj entry)).run
        companionWorld).1 = .ok d ∧ d.count = 1 ∧ d.fault? = none := ⟨_, rfl, rfl, rfl⟩
  obtain rfl := Except.ok.inj ((congrArg Prod.fst ran).symm.trans came)
  obtain rfl : n = 2 := through.whole ended
  obtain ⟨entry', there, carried⟩ : ∃ entry' ∈ c.left.entries,
      Carried companionSettings (companionWorld.extension? companionSettings)
        (Shape.named companionEntries).IsNamed
        (.obj [("capabilities", .obj [("browserName", .str "Chrome")])]) entry' := by
    obtain ⟨entry', rest, carried, -, left⟩ := List.forall₂_cons_left_iff.1 through.related
    have front : entry' ∈ c.left.entries.take 2 := left ▸ List.mem_cons_self
    exact ⟨entry', List.mem_of_mem_take front, carried⟩
  obtain ⟨-, set', -, -, borne, -, equipped⟩ := carried rfl (.inl ⟨_, rfl⟩)
  rw [ended] at all
  exact ⟨c, v, entry', set', all, counted, there, borne, equipped⟩

def wrapped : Members :=
  [("capabilities", .obj [("browserName", .str "chrome")]), ("hostname", .str "localhost")]

theorem augment_misses_bearer :
    let isTarget entry := isEligible companionSettings (.obj entry)
    let left := wrapped ++ [("selfheal:options", metadata companionSettings)]
    let set : Members := [("browserName", .str "chrome")]
    (∃ c v, ((Shape.single wrapped).augment (inject companionSettings) isTarget).run
        companionWorld = (.ok c, v) ∧ c.count = 1 ∧ c.left.toJson = .obj left) ∧
      (∃ v, (augment companionSettings { isAuthenticated := true } { selfHeal := true }
        (.obj wrapped)).run companionWorld = (.ok (.obj left, none), v)) ∧
      bearer (.obj wrapped) = .ok set ∧ bearer (.obj left) = .ok set ∧
      ¬ Equipped companionSettings (companionWorld.extension? companionSettings) set := by
  refine ⟨⟨_, _, rfl, rfl, rfl⟩, ⟨_, rfl⟩, rfl, rfl, fun equipped => ?_⟩
  cases equipped.metadata

end Capability

end LocatorHealing
