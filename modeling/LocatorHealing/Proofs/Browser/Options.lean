import LocatorHealing.Proofs.AuthResult
import LocatorHealing.Proofs.Capability.Bearer

set_option autoImplicit false
set_option relaxedAutoImplicit false

/-!
The options that a browser is started with, where healing support was injected into its
capabilities. The key under which the extension is written is the one that options are read from,
however the name of the browser is spelled.
-/

namespace LocatorHealing

namespace Members

private theorem names_put_of_mem {m : Members} {name : String} (there : name ∈ m.names) (v : Json) :
    (m.put name v).names = m.names := by
  induction m with
  | nil => cases there
  | cons p rest ih =>
    obtain ⟨k, w⟩ := p
    rw [put]
    split
    case isTrue same => rw [names, names, List.map_cons, List.map_cons, same]
    case isFalse apart =>
      have later : name ∈ names rest := (List.mem_cons.1 there).resolve_left (Ne.symm apart)
      exact congrArg (List.cons k) (ih later)

private theorem nodup_put {m : Members} (distinct : m.names.Nodup) (name : String) (v : Json) :
    (m.put name v).names.Nodup := by
  by_cases there : name ∈ m.names
  · rw [names_put_of_mem there]
    exact distinct
  · rw [put_of_not_mem there, names, List.map_append, List.nodup_append]
    refine ⟨distinct, List.pairwise_singleton _ _, fun k old k' new => ?_⟩
    rw [List.mem_singleton.1 new]
    rintro rfl
    exact there old

private theorem get?_foldl_put {pairs : Members} (distinct : pairs.names.Nodup) (m : Members)
    (name : String) :
    Members.get? (pairs.foldl (fun c p => c.put p.1 p.2) m) name =
      (pairs.get? name).or (m.get? name) := by
  induction pairs generalizing m with
  | nil => rfl
  | cons p rest ih =>
    obtain ⟨k, v⟩ := p
    obtain ⟨new, others⟩ := List.nodup_cons.1 distinct
    rw [List.foldl_cons, ih others, get?_put, get?]
    split
    case isTrue same =>
      subst same
      rw [get?_eq_none new]
      rfl
    case isFalse => rfl

private theorem get?_filter {m : Members} {keeps : String → Bool} {name : String}
    (kept : keeps name = true) :
    Members.get? (m.filter fun p => keeps p.1) name = m.get? name := by
  induction m with
  | nil => rfl
  | cons p rest ih =>
    obtain ⟨k, v⟩ := p
    rw [get?, List.filter_cons]
    split
    case isTrue => rw [get?, ih]
    case isFalse dropped =>
      have apart : k ≠ name := by
        rintro rfl
        exact dropped kept
      rw [if_neg apart, ih]

private theorem nodup_filter {m : Members} (distinct : m.names.Nodup)
    (keeps : String × Json → Bool) : (Members.names (m.filter keeps)).Nodup :=
  distinct.sublist (List.filter_sublist.map Prod.fst)

end Members

private theorem Json.eq_obj_of_membersFor {name : String} {v : Json} {m : Members}
    (found : v.membersFor name = .ok m) : v = .obj m := by
  cases v with
  | obj m' => rw [Except.ok.inj found]
  | _ => cases found

namespace Browser

/-- Options are built from the browser that is asked for, from the vendor's options for it, and from
the capabilities that are taken over. -/
private theorem of_build [Defaults] {headless : Bool} {m : Members} {o : Options}
    (built : Options.build headless (.obj m) = .ok o) :
    ofName? (wantedName m) = some o.browser ∧
      (∃ vendor, o.browser.vendorOptions m = .ok vendor ∧
        ((Members.get? vendor "extensions").getD (.arr [])).iterated = .ok o.extensions) ∧
      o.capabilities = (m.filter fun p => isPlainCapability p.1).foldl
        (fun c p => c.put p.1 p.2) (Defaults.capabilities o.browser) := by
  unfold Options.build at built
  obtain ⟨m', same, built⟩ := Fault.of_bind_ok built
  cases same
  split at built
  case h_1 => cases built
  case h_2 browser family =>
    obtain ⟨vendor, options, built⟩ := Fault.of_bind_ok built
    obtain ⟨arguments, -, built⟩ := Fault.of_bind_ok built
    obtain ⟨extensions, added, built⟩ := Fault.of_bind_ok built
    cases built
    refine ⟨family, ⟨vendor, options, ?_⟩, rfl⟩
    obtain ⟨items, listed, checked⟩ := Fault.of_bind_ok added
    split at checked
    · cases checked
      exact listed
    · cases checked

end Browser

namespace Capability

variable {ε τ : Type} {settings : Settings τ} {extension? : Option (Except Fault String)}
  {t t' : Members}

private theorem nodup_injected (distinct : t.names.Nodup) :
    (injected settings extension? t).1.names.Nodup := by
  have marks : (marked settings t).names.Nodup := Members.nodup_put distinct _ _
  unfold injected
  split
  case h_1 =>
    unfold addExtension
    split
    · exact Members.nodup_put marks _ _
    · exact marks
  · exact marks
  · exact marks

/-- What options have that are built from a set that healing support was injected into: the
metadata, the other capabilities as they were, and for a browser that takes extensions those that
the set had, with the companion extension behind them if it is configured and was not there. -/
structure Started (settings : Settings τ) (extension? : Option (Except Fault String)) (t : Members)
    (o : Browser.Options) : Prop where
  metadata : o.capabilities.get? "selfheal:options" = some (metadata settings)
  capabilities :
    ∀ name ∉ ["selfheal:options", "browserName", "goog:chromeOptions", "ms:edgeOptions"],
    ∀ v, t.get? name = some v → o.capabilities.get? name = some v
  family : o.browser.vendorKey? = optionsFor? t
  extensions : ∀ key, optionsFor? t = some key →
    ∃ vendor old own, (t.get? key).getD (.obj []) = .obj vendor ∧
      (Members.get? vendor "extensions").getD (.arr []) = old ∧ old.iterated = .ok own ∧
      (extension? = none ∧ o.extensions = own ∨
        ∃ encoded there, extension? = some (.ok encoded) ∧ old.holds encoded = .ok there ∧
          o.extensions = own ++ if there then [] else [.str encoded])

theorem Extended.iterated {encoded : String} {old new : Json} {all : List Json}
    (extended : Extended encoded old new) (listed : new.iterated = .ok all) :
    ∃ own there, old.iterated = .ok own ∧ old.holds encoded = .ok there ∧
      all = own ++ if there then [] else [.str encoded] := by
  cases extended with
  | @added items missing =>
    cases listed
    cases found : items.any (·.same (.str encoded)) with
    | true => exact absurd ((holds_arr (congrArg Except.ok found)).1 rfl) missing
    | false => exact ⟨items, false, rfl, congrArg Except.ok found, rfl⟩
  | @listed items there =>
    obtain rfl := Except.ok.inj listed
    exact ⟨items, true, rfl, (Extended.listed there).holds, (List.append_nil _).symm⟩
  | held other there => exact ⟨all, true, listed, there, (List.append_nil _).symm⟩

private theorem vendorKey?_of_build [Browser.Defaults] {headless : Bool} {m : Members}
    {o : Browser.Options} (built : Browser.Options.build headless (.obj m) = .ok o)
    (named : (m.get? "browserName").isSome = true) : o.browser.vendorKey? = optionsFor? m := by
  obtain ⟨v, named⟩ := Option.isSome_iff_exists.1 named
  obtain ⟨family, -⟩ := Browser.of_build built
  rw [Browser.wantedName, named, Option.getD_some] at family
  rw [← extensionKey?_eq, extensionKey?, lookup_extensionOptionKeys, named, Option.getD_some,
    family, Option.bind_some]

private theorem started_of_injected [Browser.Defaults]
    (ran : injected settings extension? t = (t', none))
    (distinct : t.names.Nodup) (named : (t.get? "browserName").isSome = true) {headless : Bool}
    {o : Browser.Options} (built : Browser.Options.build headless (.obj t') = .ok o) :
    Started settings extension? t o := by
  have all := injected_of_ok ran
  have browser : t'.get? "browserName" = t.get? "browserName" :=
    get?_of_injected ran (by decide) rfl
  have family : o.browser.vendorKey? = optionsFor? t := by
    rw [vendorKey?_of_build built (browser ▸ named), optionsFor?_congr browser]
  have distinct' : t'.names.Nodup := by
    rw [← show _ = t' from congrArg Prod.fst ran]
    exact nodup_injected distinct
  obtain ⟨-, ⟨vendor', options, listed⟩, capabilities⟩ := Browser.of_build built
  have taken {name : String} {v : Json} (plain : Browser.isPlainCapability name = true)
      (there : t'.get? name = some v) : o.capabilities.get? name = some v := by
    rw [capabilities, Members.get?_foldl_put (Members.nodup_filter distinct' _),
      Members.get?_filter plain, there]
    rfl
  refine
    { metadata := taken rfl all.metadata
      capabilities := fun name other v there => ?_
      family := family
      extensions := fun key takes => ?_ }
  · simp only [List.mem_cons, List.not_mem_nil, or_false, not_or] at other
    obtain ⟨apart, notBrowser, notChrome, notEdge⟩ := other
    have plain : Browser.isVendorKey name = false := by
      simp [Browser.isVendorKey, notChrome, notEdge]
    refine taken ?_ ((get?_of_injected ran (Ne.symm apart) plain).trans there)
    simp [Browser.isPlainCapability, plain, notBrowser]
  · have read : (t'.get? key).getD (.obj []) = .obj vendor' := by
      rw [Browser.vendorOptions, family, takes] at options
      exact Json.eq_obj_of_membersFor options
    cases extension? with
    | none =>
      have apart : key ≠ "selfheal:options" := by
        rintro rfl
        cases isVendorKey_of_extensionKey? ((extensionKey?_eq t).trans takes)
      rw [all.elsewhere key apart nofun] at read
      exact ⟨vendor', _, _, read, rfl, listed, .inl ⟨rfl, rfl⟩⟩
    | some text =>
      obtain ⟨encoded, rfl⟩ := read_of_injected ran takes
      obtain ⟨vendor, left, old, new, held, there, before, after, extended, -, -⟩ :=
        all.extensions key encoded takes rfl
      rw [there, Option.getD_some] at read
      cases read
      rw [after, Option.getD_some] at listed
      obtain ⟨own, found, listed', holds, same⟩ := extended.iterated listed
      exact ⟨vendor, old, own, held, before, listed', .inr ⟨encoded, found, rfl, holds, same⟩⟩

private theorem of_run_augment {auth : AuthResult} {options : HealingOptions} {raw left : Json}
    {w v : World ε τ} (authorized : isAuthorized auth options = true)
    (ran : (augment settings auth options raw).run w = (.ok (left, none), v)) :
    ∃ changes u,
      changes.map Prod.fst =
        targets (fun entry => isEligible settings (.obj entry)) settings.firstEntryOnly raw ∧
      Altered (fun entry => isEligible settings (.obj entry)) settings.firstEntryOnly raw changes
        left ∧
      Applied (inject settings) w changes u := by
  cases laidOut : Shape.of raw settings.firstEntryOnly with
  | error fault =>
    simp only [augment, authorized, if_true, laidOut] at ran
    cases ran
  | ok shape =>
    obtain ⟨stays, -⟩ := Shape.laidOut_of laidOut
    obtain ⟨c, u, -, here, -⟩ := settles_augment (w := w) (u := w) shape stays rfl rfl
    obtain ⟨log, all⟩ := augment_of_run authorized laidOut here
    obtain ⟨came, -⟩ := Prod.mk.inj (ran.symm.trans all)
    obtain ⟨rfl, fine⟩ := Prod.mk.inj (Except.ok.inj came)
    obtain ⟨changes, altered, -, applied, -⟩ := run_augment laidOut here fine.symm
    exact ⟨changes, u, altered.targets, altered, applied⟩

/-- For a user who may have healing, every target of capabilities of any layout is injected into, if
injecting ends well. Where it names a browser, and options can be built from what is left of it,
they have what was injected. -/
theorem augment_started [Browser.Defaults] {auth : AuthResult} {options : HealingOptions}
    {raw left : Json} {w v : World ε τ} (authorized : isAuthorized auth options = true)
    (ran : (augment settings auth options raw).run w = (.ok (left, none), v)) :
    ∃ changes,
      changes.map Prod.fst =
        targets (fun entry => isEligible settings (.obj entry)) settings.firstEntryOnly raw ∧
      Altered (fun entry => isEligible settings (.obj entry)) settings.firstEntryOnly raw changes
        left ∧
      ∀ t t', (t, t') ∈ changes → t.names.Nodup → (t.get? "browserName").isSome = true →
        ∀ headless o, Browser.Options.build headless (.obj t') = .ok o →
          Started settings (w.extension? settings) t o := by
  obtain ⟨changes, u, reached, altered, applied⟩ := of_run_augment authorized ran
  refine ⟨changes, reached, altered, fun t t' there distinct named headless o built => ?_⟩
  exact started_of_injected (applied.eq_injected t t' there) distinct named built

def extendedSet : Members :=
  [("browserName", .str "Chrome"), ("platformName", .str "linux"),
    ("goog:chromeOptions", .obj [("extensions", .arr [.str "b3du"])])]

@[reducible]
def bareDefaults : Browser.Defaults where
  capabilities
    | .chrome => [("browserName", .str "chrome")]
    | .edge => [("browserName", .str "MicrosoftEdge")]
    | .firefox => [("browserName", .str "firefox")]

theorem augment_started_companion :
    ∃ left v o, (augment companionSettings { isAuthenticated := true } { selfHeal := true }
        (.obj extendedSet)).run companionWorld = (.ok (left, none), v) ∧
      @Browser.Options.build bareDefaults true left = .ok o ∧
      Started companionSettings (some (.ok "Q3IyNA==")) extendedSet o ∧
      o.extensions = [.str "b3du", .str "Q3IyNA=="] := by
  obtain ⟨left, v, o, ran, built, extensions⟩ : ∃ left v o,
      (augment companionSettings { isAuthenticated := true } { selfHeal := true }
        (.obj extendedSet)).run companionWorld = (.ok (left, none), v) ∧
      @Browser.Options.build bareDefaults true left = .ok o ∧
      o.extensions = [.str "b3du", .str "Q3IyNA=="] := ⟨_, _, _, rfl, rfl, rfl⟩
  obtain ⟨changes, reached, altered, started⟩ :=
    @augment_started _ _ _ bareDefaults _ _ _ _ _ _ rfl ran
  have sole : changes.map Prod.fst = [extendedSet] := reached
  obtain ⟨⟨t, t'⟩, rfl⟩ := List.length_eq_one_iff.1
    ((List.length_map Prod.fst).symm.trans (congrArg List.length sole))
  obtain rfl : t = extendedSet := (List.cons.inj sole).1
  obtain rfl : left = .obj t' := by
    cases altered with
    | single plain replaced =>
      cases replaced with
      | kept spared others => cases others
      | changed target t' others =>
        cases others
        rfl
    | named names => exact absurd names (by decide)
  have distinct : (Members.names extendedSet).Nodup := by decide
  refine ⟨_, v, o, ran, built, ?_, extensions⟩
  exact started extendedSet t' List.mem_cons_self distinct rfl true o built

end Capability

end LocatorHealing
