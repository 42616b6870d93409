import LocatorHealing.Proofs.Launch.Handover
import LocatorHealing.Proofs.Launch.Pair
import LocatorHealing.Proofs.Service.Authentication
import LocatorHealing.Proofs.Service.Rekeyed

set_option autoImplicit false
set_option relaxedAutoImplicit false

/-!
Where the access key goes. Two launches that differ in the key alone, wherever it is taken from, do
the same and leave the same, but for a header of the request that authenticates, and of what this
request is redirected to. This rests on a service that answers both in the same way, and on keys
that can be sent in a header: a client that refuses a key says which one it was.
-/

namespace LocatorHealing

open LocatorHealing.Action (Pairs pairs_pure pairs_raise pairs_ofExcept pairs_read pairs_modify
  pairs_bind pairs_then pairs_attempt)

variable {ε τ : Type}

/-- A key that is not empty, and that a client takes as the value of a header. -/
structure IsKey (key : String) : Prop where
  filled : key ≠ ""
  fits : Http.headerFault? key = none

/-- One access key in the place of another: the same one, or both can be sent. -/
inductive Rekeyed : Option String → Option String → Prop where
  | same (key : Option String) : Rekeyed key key
  | other {key key' : String} (isKey : IsKey key) (isKey' : IsKey key') :
    Rekeyed (some key) (some key')

namespace Rekeyed

variable {key key' fallback fallback' : Option String}

theorem filter (rekeyed : Rekeyed key key') :
    Rekeyed (key.filter (· ≠ "")) (key'.filter (· ≠ "")) := by
  have kept {k : String} (filled : k ≠ "") : (some k).filter (· ≠ "") = some k :=
    Option.filter_some_pos (decide_eq_true filled)
  cases rekeyed with
  | same => exact .same _
  | other isKey isKey' =>
    rw [kept isKey.filled, kept isKey'.filled]
    exact .other isKey isKey'

theorem or (rekeyed : Rekeyed key key') (others : Rekeyed fallback fallback') :
    Rekeyed (key.or fallback) (key'.or fallback') := by
  cases rekeyed with
  | same =>
    cases key with
    | none => exact others
    | some key => exact .same _
  | other isKey isKey' => exact .other isKey isKey'

end Rekeyed

namespace Credentials

/-- The credentials of one user, each with a key. -/
structure SameUser (c c' : Credentials) : Prop where
  user : c'.user = c.user
  named : c.user ≠ ""
  rekeyed : Rekeyed (some c.key) (some c'.key)

private theorem complete?_rekeyed (user : Option String) {key key' : Option String}
    (rekeyed : Rekeyed key key') :
    Option.Rel SameUser (complete? user key) (complete? user key') := by
  cases user with
  | none => exact .none
  | some user =>
    cases rekeyed with
    | same =>
      cases key with
      | none => exact .none
      | some key =>
        unfold complete?
        dsimp only
        split
        · rename_i both
          exact .some ⟨rfl, both.1, .same _⟩
        · exact .none
    | @other key key' isKey isKey' =>
      unfold complete?
      dsimp only
      by_cases named : user ≠ ""
      · rw [if_pos ⟨named, isKey.filled⟩, if_pos ⟨named, isKey'.filled⟩]
        exact .some ⟨rfl, named, .other isKey isKey'⟩
      · rw [if_neg fun both => named both.1, if_neg fun both => named both.1]
        exact .none

private theorem rel_or {α β : Type} {r : α → β → Prop} {x x' : Option α} {y y' : Option β}
    (first : Option.Rel r x y) (second : Option.Rel r x' y') :
    Option.Rel r (x.or x') (y.or y') := by
  cases first with
  | none => exact second
  | some related => exact .some related

def keyVariable : String := "SELFHEAL_ACCESS_KEY"

private theorem resolve?_rekeyed {config : LaunchConfig} {options : HealingOptions}
    {vars vars' : Variables}
    {configKey optionsKey : Option String} (configured : Rekeyed config.key configKey)
    (chosen : Rekeyed options.key optionsKey)
    (others : ∀ name, name ≠ keyVariable → vars'.get? name = vars.get? name)
    (inherited : Rekeyed (vars.get? keyVariable) (vars'.get? keyVariable)) :
    Option.Rel SameUser (resolve? config options vars)
      (resolve? { config with key := configKey } { options with key := optionsKey } vars') := by
  have user : vars'.filled? "SELFHEAL_USERNAME" = vars.filled? "SELFHEAL_USERNAME" :=
    congrArg (Option.filter (· ≠ "")) (others _ (by decide))
  unfold resolve?
  dsimp only
  rw [user]
  exact rel_or (complete?_rekeyed _ (inherited.filter.or chosen))
    (complete?_rekeyed config.user configured)

end Credentials

namespace Inquiry

private theorem headers_init [TimeScale τ] (client : Settings τ) {key user : String}
    (named : user ≠ "") (filled : key ≠ "") (endpoint version : String) :
    ((Inquiry.init (some key) (some user) endpoint version).request client).headers =
      [("Content-type", .str "application/json"),
        ("X-selfheal-client", .str ("selfheal-python/" ++ client.clientVersion)),
        ("X-selfheal-user", .str user), ("X-selfheal-key", .str key)] := by
  have kept {s : String} (filled : s ≠ "") : (some s).filter (· ≠ "") = some s :=
    Option.filter_some_pos (decide_eq_true filled)
  obtain ⟨content, clientName, userName, keyName⟩ :
      Text.capitalized "Content-Type" = "Content-type" ∧
      Text.capitalized "x-selfheal-client" = "X-selfheal-client" ∧
      Text.capitalized "x-selfheal-user" = "X-selfheal-user" ∧
      Text.capitalized "x-selfheal-key" = "X-selfheal-key" := by decide
  simp only [Inquiry.request, Http.request, headers, credentialHeaders, kept named, kept filled,
    List.cons_append, List.nil_append, List.map_cons, List.map_nil, content, clientName, userName,
    keyName]
  exact Members.ofPairs_of_nodup (by simp [Members.names])

private theorem rekeyed_init [TimeScale τ] (client : Settings τ) {key key' user : String}
    (named : user ≠ "") (isKey : IsKey key) (isKey' : IsKey key') (endpoint version : String) :
    ((Inquiry.init (some key) (some user) endpoint version).request client).Rekeyed
      ((Inquiry.init (some key') (some user) endpoint version).request client) := by
  have fits {key : String} (isKey : IsKey key) :
      ((Inquiry.init (some key) (some user) endpoint version).request client).KeyFits := by
    intro value there
    rw [headers_init client named isKey.filled] at there
    obtain rfl : value = key := by simpa [HttpRequest.keyHeader] using there
    exact isKey.fits
  have dropped (key : String) : List.filter (fun p => p.1 ≠ HttpRequest.keyHeader)
      [("Content-type", Json.str "application/json"),
        ("X-selfheal-client", .str ("selfheal-python/" ++ client.clientVersion)),
        ("X-selfheal-user", .str user), ("X-selfheal-key", .str key)] =
      [("Content-type", .str "application/json"),
        ("X-selfheal-client", .str ("selfheal-python/" ++ client.clientVersion)),
        ("X-selfheal-user", .str user)] := by
    simp [HttpRequest.keyHeader]
  refine ⟨?_, fits isKey, fits isKey'⟩
  unfold HttpRequest.keyless
  rw [headers_init client named isKey.filled, headers_init client named isKey'.filled, dropped,
    dropped]
  rfl

end Inquiry

/-- Two entries of the traces of two launches with different keys: one and the same, or the inquiry
that hands over the key, the request for it, which has the key in a header, or what is sent where
this request is redirected to, which has it as well. -/
inductive TraceEntry.SameButKey [TimeScale τ] (client : Settings τ) :
    TraceEntry τ → TraceEntry τ → Prop where
  | same (e : TraceEntry τ) : SameButKey client e e
  | asked (clock : τ) (key key' user : Option String) (endpoint version : String) :
    SameButKey client ⟨clock, .asked (.init key user endpoint version)⟩
      ⟨clock, .asked (.init key' user endpoint version)⟩
  | sent (clock : τ) {key key' user : Option String} {endpoint version : String}
    (alike : ((Inquiry.init key user endpoint version).request client).keyless =
      ((Inquiry.init key' user endpoint version).request client).keyless) :
    SameButKey client ⟨clock, .http ((Inquiry.init key user endpoint version).request client)⟩
      ⟨clock, .http ((Inquiry.init key' user endpoint version).request client)⟩
  | further (clock : τ) {key key' user : Option String} {endpoint version : String}
    {f f' : FollowUp τ} (alike : f.request.keyless = f'.request.keyless)
    (continues : Http.Continues ((Inquiry.init key user endpoint version).request client) f)
    (continues' : Http.Continues ((Inquiry.init key' user endpoint version).request client) f') :
    SameButKey client ⟨clock, .http f.request⟩ ⟨clock, .http f'.request⟩

/-- Two worlds in which a user has different keys. -/
structure World.SameButKey [TimeScale τ] (client : Settings τ) (w v : World ε τ) : Prop where
  rest : v = { w with environment := v.environment, trace := v.trace }
  others : ∀ name, name ≠ Credentials.keyVariable →
    v.environment.get? name = w.environment.get? name
  key : Rekeyed (w.environment.get? Credentials.keyVariable)
    (v.environment.get? Credentials.keyVariable)
  trace : List.Forall₂ (TraceEntry.SameButKey client) w.trace v.trace

open World (SameButKey)

section Steps

variable [TimeScale τ] {client : Settings τ} {α : Type}

private theorem pairs_see {f : World ε τ → α}
    (free : ∀ w environment trace, f { w with environment, trace } = f w) :
    Pairs (SameButKey client) Eq (Action.read f) (Action.read f) := by
  refine pairs_read fun w v worlds => ?_
  rw [worlds.rest]
  exact (free w v.environment v.trace).symm

private theorem pairs_change {f : World ε τ → World ε τ}
    (free : ∀ w environment trace, f { w with environment, trace } =
      { f w with environment, trace }) :
    Pairs (SameButKey client) Eq (Action.modify f) (Action.modify f) := by
  have environment (w : World ε τ) : (f w).environment = w.environment :=
    (congrArg World.environment (free w w.environment w.trace) :)
  have trace (w : World ε τ) : (f w).trace = w.trace :=
    (congrArg World.trace (free w w.environment w.trace) :)
  refine pairs_modify fun w v worlds => ⟨?_, ?_, ?_, ?_⟩
  · rw [environment, trace]
    exact (congrArg f worlds.rest).trans (free w v.environment v.trace)
  · rw [environment, environment]
    exact worlds.others
  · rw [environment, environment]
    exact worlds.key
  · rw [trace, trace]
    exact worlds.trace

private theorem pairs_react (f : ε → α × ε) :
    ReactsAlike (SameButKey client : World ε τ → _) f := by
  intro w v worlds
  have outside : v.outside = w.outside := (congrArg World.outside worlds.rest :)
  rw [Action.run_react, Action.run_react, outside]
  refine ⟨.ok rfl, { worlds with rest := ?_ }⟩
  exact (congrArg (fun u : World ε τ => { u with outside := (f w.outside).2 }) worlds.rest :)

private theorem pairs_entries {event event' : Event τ}
    (alike : ∀ clock, TraceEntry.SameButKey client ⟨clock, event⟩ ⟨clock, event'⟩) :
    Pairs (SameButKey client : World ε τ → _) Eq (Action.note event) (Action.note event') := by
  refine pairs_modify fun w v worlds => ?_
  have clock : v.clock = w.clock := (congrArg World.clock worlds.rest :)
  refine { worlds with rest := ?_, trace := ?_ }
  · let last : TraceEntry τ := ⟨v.clock, event'⟩
    exact (congrArg (fun u : World ε τ => { u with trace := v.trace ++ [last] }) worlds.rest :)
  · have last : TraceEntry.SameButKey client ⟨w.clock, event⟩ ⟨v.clock, event'⟩ := by
      rw [clock]
      exact alike w.clock
    exact List.rel_append worlds.trace (.cons last .nil)

private theorem companions_sameButKey :
    Companions Eq (SameButKey client : World ε τ → World ε τ → Prop) where
  clock worlds := (congrArg World.clock worlds.rest :).symm
  later {w v c d} same worlds := by
    subst same
    exact { worlds with
      rest := (congrArg (fun u : World ε τ => { u with clock := c }) worlds.rest :) }
  notes event := pairs_entries fun clock => .same ⟨clock, event⟩
  sleeps worlds duration := by
    have bounds := (congrArg World.boundsSleep worlds.rest :)
    rw [bounds]
  closes key := pairs_change fun _ _ _ => rfl
  loses key := pairs_change fun _ _ _ => rfl

private theorem pairs_told (level : Level) (message : String) :
    Pairs (SameButKey client : World ε τ → _) Eq (Action.log level message)
      (Action.log level message) := by
  refine pairs_change fun w environment trace => ?_
  dsimp only
  split
  · rfl
  · rfl

private theorem pairs_encodedExtension (path : String) :
    Pairs (SameButKey client : World ε τ → _) Eq (Capability.encodedExtension path)
      (Capability.encodedExtension path) := by
  refine pairs_then (pairs_see fun _ _ _ => rfl) fun files => ?_
  refine pairs_then (pairs_ofExcept (.refl _)) fun file => ?_
  cases file with
  | none => exact pairs_raise _
  | some file =>
    refine pairs_then (pairs_see fun _ _ _ => rfl) fun memory => ?_
    exact pairs_then (pairs_change fun _ _ _ => rfl) fun _ => pairs_pure rfl

end Steps

section Launch

variable [Outside ε τ] [TimeScale τ] (deaf : Keyless ε) {client settings : Settings τ}
include deaf

section Init

variable {key key' : Option String} (rekeyed : Rekeyed key key') {user : String} (named : user ≠ "")
include rekeyed named

/-- Authenticating one user with two keys makes requests that differ in the keys' header, and that
end in the same way. -/
private theorem pairs_transmitInit (endpoint version : String) :
    Pairs (SameButKey client : World ε τ → _) Eq
      (Inquiry.transmit (.init key (some user) endpoint version) client)
      (Inquiry.transmit (.init key' (some user) endpoint version) client) := by
  refine pairs_then (pairs_entries fun clock => .asked clock _ _ _ _ _) fun _ => ?_
  cases rekeyed with
  | same => exact companions_sameButKey.pairs_perform (pairs_react _)
  | @other key key' isKey isKey' =>
    generalize init : (Inquiry.init (some key) (some user) endpoint version : Inquiry τ) = q
    generalize init' : (Inquiry.init (some key') (some user) endpoint version : Inquiry τ) = q'
    have url : q'.url client = q.url client := by
      rw [← init, ← init']
      rfl
    have requests : (q.request client).Rekeyed (q'.request client) := by
      rw [← init, ← init']
      exact Inquiry.rekeyed_init client named isKey isKey' endpoint version
    have barrier : q'.barrier? ε client = q.barrier? ε client := by
      rw [Inquiry.barrier?, Inquiry.barrier?, url]
      exact Http.barrier?_rekeyed requests _
    unfold Inquiry.transmission
    rw [barrier]
    cases q.barrier? ε client with
    | some fault => exact companions_sameButKey.pairs_perform (pairs_react _)
    | none =>
      have entry (clock : τ) : TraceEntry.SameButKey client ⟨clock, .http (q.request client)⟩
          ⟨clock, .http (q'.request client)⟩ := by
        rw [← init, ← init'] at requests ⊢
        exact .sent clock requests.rest.symm
      refine Attuned.pairs_calls (.some (pairs_entries entry)) fun w v worlds => ?_
      have outside : v.outside = w.outside := (congrArg World.outside worlds.rest :)
      obtain ⟨after, answer, happens⟩ :=
        Http.exchange_rekeyed deaf requests Http.redirectLimit [] w.outside
      rw [Action.run_react, Action.run_react, outside]
      refine ⟨.ok ⟨answer, happens.imp fun h h' alike => ?_⟩, { worlds with rest := ?_ }⟩
      · cases alike with
        | same h => exact companions_sameButKey.pairs_happen h
        | send alike continues continues' =>
          rw [← init] at continues
          rw [← init'] at continues'
          exact pairs_entries fun clock => .further clock alike continues continues'
      · change _ = { w with
          outside := (Http.exchange _ _ _ w.outside).2, environment := _, trace := _ }
        rw [← after]
        exact (congrArg (fun u : World ε τ => { u with
          outside := (Http.exchange Http.redirectLimit [] (q'.request client) w.outside).2 })
          worlds.rest :)

private theorem pairs_askInit (endpoint version : String) :
    Pairs (SameButKey client : World ε τ → _) Eq
      (Action.ask (Service.http client) (.init key (some user) endpoint version))
      (Action.ask (Service.http client) (.init key' (some user) endpoint version)) := by
  intro w v worlds
  have reads (reply : Except Fault Json) :
      (Inquiry.init key' (some user) endpoint version : Inquiry τ).readAnswer reply =
        (Inquiry.init key (some user) endpoint version : Inquiry τ).readAnswer reply := by
    cases reply with | _ => rfl
  have timeout : (Inquiry.init key' (some user) endpoint version : Inquiry τ).timeout client =
      (Inquiry.init key (some user) endpoint version : Inquiry τ).timeout client := rfl
  obtain ⟨ends, after⟩ := pairs_transmitInit deaf rekeyed named endpoint version w v worlds
  rw [Service.run_ask_http client rfl, Service.run_ask_http client rfl, ends.eq, reads, timeout]
  dsimp only
  exact ⟨.refl _, after⟩

end Init

variable {credentials credentials' : Credentials} (user : credentials.SameUser credentials')
include user

variable (sink : EventSink τ)

omit [Outside ε τ] deaf user in
private theorem pairs_handOver (value : String) :
    Pairs (SameButKey client : World ε τ → _) Eq
      (Action.modify fun w =>
        { w with environment := w.environment.put AuthResult.variableName value })
      (Action.modify fun w =>
        { w with environment := w.environment.put AuthResult.variableName value }) := by
  have apart : AuthResult.variableName ≠ Credentials.keyVariable := by decide
  refine pairs_modify fun w v worlds => { worlds with rest := ?_, others := ?_, key := ?_ }
  · exact (congrArg (fun u : World ε τ =>
      { u with environment := v.environment.put AuthResult.variableName value }) worlds.rest :)
  · intro name other
    rw [Variables.get?_put, Variables.get?_put, worlds.others name other]
  · rw [Variables.get?_put, Variables.get?_put, if_neg apart, if_neg apart]
    exact worlds.key

private theorem pairs_authenticate :
    Pairs (SameButKey client : World ε τ → _) Eq
      (Launcher.authenticate ⟨Service.http client, settings, sink⟩ credentials)
      (Launcher.authenticate ⟨Service.http client, settings, sink⟩ credentials') := by
  refine pairs_then ?_ fun auth => ?_
  · obtain ⟨same, named, rekeyed⟩ := user
    unfold Authentication.authenticate
    rw [same]
    refine pairs_then (pairs_attempt (pairs_askInit deaf rekeyed named _ _)) fun answer => ?_
    cases answer with
    | ok result => exact pairs_pure rfl
    | error fault =>
      exact pairs_then (pairs_told _ _) fun _ => pairs_ofExcept (.refl _)
  · refine pairs_then (pairs_change fun _ _ _ => rfl) fun _ => ?_
    refine pairs_then (pairs_ofExcept (.refl _)) fun value => ?_
    exact pairs_then (pairs_handOver value) fun _ => pairs_pure rfl

end Launch

namespace Launcher

variable [Outside ε τ] [TimeScale τ] {client : Settings τ} {config : LaunchConfig}
  {options : HealingOptions} {configKey optionsKey : Option String}
  (configured : Rekeyed config.key configKey) (chosen : Rekeyed options.key optionsKey)
include configured chosen

omit [Outside ε τ] in
private theorem resolves_sameButKey {w v : World ε τ} (worlds : w.SameButKey client v) :
    Option.Rel Credentials.SameUser (Credentials.resolve? config options w.environment)
      (Credentials.resolve? { config with key := configKey } { options with key := optionsKey }
        v.environment) :=
  Credentials.resolve?_rekeyed configured chosen worlds.others worlds.key

private theorem alike_sameButKey (l : Launcher ε τ) (auth : AuthResult) (run : RunConfig)
    (runKey : Option String) :
    l.Alike (SameButKey client) auth config { config with key := configKey } run
      { run with accessKey := runKey } options { options with key := optionsKey } where
  heals := rfl
  resolves w v worlds := by
    have resolved := resolves_sameButKey configured chosen worlds
    generalize Credentials.resolve? config options w.environment = first at resolved ⊢
    generalize Credentials.resolve? _ _ v.environment = second at resolved ⊢
    cases resolved with
    | none => rfl
    | some => rfl
  logs := pairs_told
  encodes path _ := pairs_encodedExtension path
  handles :=
    Instrumentation.pairs_handle companions_sameButKey pairs_react pairs_told
      (pairs_see fun _ _ _ => rfl) (fun _ => pairs_change fun _ _ _ => rfl) l.sink auth run
      options.selfHeal

variable (deaf : Keyless ε) (settings : Settings τ) (sink : EventSink τ) (run : RunConfig)
  (runKey : Option String) (capabilities : Json) (isMultiremote : Bool)
include deaf

private theorem pairs_attemptSetup :
    Pairs (SameButKey client : World ε τ → _) Eq
      (attemptSetup ⟨Service.http client, settings, sink⟩ config run options capabilities
        isMultiremote)
      (attemptSetup ⟨Service.http client, settings, sink⟩ { config with key := configKey }
        { run with accessKey := runKey } { options with key := optionsKey } capabilities
        isMultiremote) := by
  refine pairs_bind (pairs_read (V := fun vars vars' => Option.Rel Credentials.SameUser
    (Credentials.resolve? config options vars)
    (Credentials.resolve? { config with key := configKey } { options with key := optionsKey }
      vars')) fun w v worlds => resolves_sameButKey configured chosen worlds) ?_
  intro vars vars' resolved
  generalize Credentials.resolve? config options vars = first at resolved ⊢
  generalize Credentials.resolve? _ _ vars' = second at resolved ⊢
  cases resolved with
  | none => exact pairs_then (pairs_told _ _) fun _ => pairs_pure rfl
  | some user =>
    refine pairs_then (pairs_attempt (pairs_authenticate deaf user sink)) fun authenticated => ?_
    cases authenticated with
    | error fault => exact pairs_pure rfl
    | ok auth =>
      exact pairs_injection (alike_sameButKey configured chosen _ auth run runKey) capabilities
        isMultiremote

private theorem pairs_setup :
    Pairs (SameButKey client : World ε τ → _) Eq
      (setup ⟨Service.http client, settings, sink⟩ config run options capabilities isMultiremote)
      (setup ⟨Service.http client, settings, sink⟩ { config with key := configKey }
        { run with accessKey := runKey } { options with key := optionsKey } capabilities
        isMultiremote) := by
  refine pairs_then (pairs_attemptSetup configured chosen deaf settings sink run runKey
    capabilities isMultiremote) fun left => ?_
  obtain ⟨left, fault?⟩ := left
  cases fault? with
  | none => exact pairs_pure rfl
  | some fault => exact pairs_then (pairs_told _ _) fun _ => pairs_pure rfl

end Launcher

/-- The access key is confined to the request that authenticates, and to what this one is redirected
to. Of two launches that differ in keys that can be sent, in whichever places they are given, both
go on with the same capabilities, keep and hand over the same result, log the same, and do the same,
entry by entry, but for the key in the inquiry that authenticates and in one header of its requests.
-/
theorem Launcher.setup_confines_key [Outside ε τ] [TimeScale τ] (deaf : Keyless ε)
    (client settings : Settings τ) (sink : EventSink τ) (config : LaunchConfig) (run : RunConfig)
    (options : HealingOptions) (capabilities : Json) (isMultiremote : Bool) (w : World ε τ)
    {configKey optionsKey : Option String} (runKey : Option String) {vars : Variables}
    (configured : Rekeyed config.key configKey) (chosen : Rekeyed options.key optionsKey)
    (inherited : Rekeyed (w.environment.get? Credentials.keyVariable)
      (vars.get? Credentials.keyVariable))
    (others : ∀ name, name ≠ Credentials.keyVariable → vars.get? name = w.environment.get? name) :
    let l : Launcher ε τ := ⟨Service.http client, settings, sink⟩
    let first := (l.setup config run options capabilities isMultiremote).run w
    let second := (l.setup { config with key := configKey } { run with accessKey := runKey }
      { options with key := optionsKey } capabilities isMultiremote).run
        { w with environment := vars }
    second.1 = first.1 ∧ second.2.launched = first.2.launched ∧
      second.2.environment.get? AuthResult.variableName =
        first.2.environment.get? AuthResult.variableName ∧
      second.2.log = first.2.log ∧
      List.Forall₂ (TraceEntry.SameButKey client) first.2.trace second.2.trace := by
  intro l first second
  have worlds : w.SameButKey client { w with environment := vars } :=
    ⟨rfl, others, inherited, List.forall₂_same.2 fun e _ => .same e⟩
  obtain ⟨ends, after⟩ := pairs_setup configured chosen deaf settings sink run runKey capabilities
    isMultiremote w _ worlds
  exact ⟨ends.eq.symm, (congrArg World.launched after.rest :), after.others _ (by decide),
    (congrArg World.log after.rest :), after.trace⟩

private theorem keyless_still : Keyless Still :=
  fun _ _ _ _ => rfl

def keyedVariables (key : String) : Variables :=
  [("SELFHEAL_USERNAME", "ada"), (Credentials.keyVariable, key)]

/-- A launch with one key in the environment and in the identity of the run, and another one in the
settings of the test runner. -/
def keyedLaunch (key : String) : Except Fault Json × World Still Rat :=
  let settings := (Manner.healing {} {}).settings
  let l : Launcher Still Rat := ⟨Service.http settings, settings, .http "https://events.test" 5⟩
  (l.setup runnerConfig { accessKey := some key } { selfHeal := true }
    (.obj [("browserName", .str "chrome")]) false).run
    { freshWorld with environment := keyedVariables key }

/-- The key from the environment is taken, and it is not seen which one it is. -/
theorem Launcher.setup_confines_key_inherited :
    Credentials.resolve? runnerConfig { selfHeal := true } (keyedVariables "hidden") =
        some ⟨"ada", "hidden"⟩ ∧
      (keyedLaunch "hidden").1 = (keyedLaunch "secret").1 ∧
      (keyedLaunch "hidden").2.log = (keyedLaunch "secret").2.log ∧
      List.Forall₂ (TraceEntry.SameButKey (Manner.healing {} {}).settings)
        (keyedLaunch "secret").2.trace (keyedLaunch "hidden").2.trace := by
  have others (name : String) (other : name ≠ Credentials.keyVariable) :
      (keyedVariables "hidden").get? name = (keyedVariables "secret").get? name := by
    simp only [keyedVariables, Variables.get?, if_neg (Ne.symm other)]
  have inherited : Rekeyed ((keyedVariables "secret").get? Credentials.keyVariable)
      ((keyedVariables "hidden").get? Credentials.keyVariable) :=
    .other ⟨by decide, by decide⟩ ⟨by decide, by decide⟩
  obtain ⟨ends, -, -, log, trace⟩ := Launcher.setup_confines_key keyless_still
    (Manner.healing {} {}).settings (Manner.healing {} {}).settings
    (.http "https://events.test" 5) runnerConfig { accessKey := some "secret" }
    { selfHeal := true } (.obj [("browserName", .str "chrome")]) false
    { freshWorld with environment := keyedVariables "secret" } (some "hidden") (.same _) (.same _)
    inherited others
  exact ⟨by decide, ends, log, trace⟩

def ownedLaunch (n : Network) (key : String) : World Network Rat :=
  ((Launcher.setup ⟨Service.http Network.client, Network.client, .silent⟩ {} {}
    { user := some "ada", key := some key } .null false).run n.world).2

/-- A key with a line break is refused by the client, which says so in words that are kept and
handed over; and a key goes wherever the service redirects the request that authenticates to. -/
theorem Launcher.setup_confines_key_told :
    let n : Network := ⟨.ok (.reply 302 [] (some "https://elsewhere.test/"))⟩
    ((ownedLaunch n "one\n").launched ≠ (ownedLaunch n "two\n").launched ∧
      (ownedLaunch n "one\n").environment.get? AuthResult.variableName ≠
        (ownedLaunch n "two\n").environment.get? AuthResult.variableName) ∧
    ∃ entry ∈ (ownedLaunch n "one").trace, ∃ request, entry.event = .http request ∧
      request.url = "https://elsewhere.test/" ∧
      (HttpRequest.keyHeader, .str "one") ∈ request.headers := by
  intro n
  refine ⟨⟨by decide +kernel, by decide +kernel⟩, ?_⟩
  have followed : (ownedLaunch n "one").trace[2]? = some ⟨0, .http
      { method := .get, url := "https://elsewhere.test/", timeout := 30, body := ""
        headers := [("X-selfheal-client", .str "selfheal-python/1.0"),
          ("X-selfheal-user", .str "ada"), ("X-selfheal-key", .str "one")] }⟩ := by
    with_unfolding_all rfl
  exact ⟨_, List.mem_of_getElem? followed, _, rfl, rfl, by simp [HttpRequest.keyHeader]⟩

end LocatorHealing
