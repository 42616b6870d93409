import Mathlib.Data.List.Forall2
import LocatorHealing.Proofs.Service.Redirects

set_option autoImplicit false
set_option relaxedAutoImplicit false

/-!
Requests that differ in nothing but an access key. If no header is refused for the key, the client
takes both in the same way. A network that is deaf to the key then redirects both to the same URLs,
where the key goes as well, and answers both in the same way.
-/

namespace LocatorHealing

variable {ε τ : Type}

namespace HttpRequest

def keyHeader : String := "X-selfheal-key"

def keyless (r : HttpRequest τ) : HttpRequest τ :=
  { r with headers := r.headers.filter fun p => p.1 ≠ keyHeader }

/-- A client does not refuse a request for its access key. -/
def KeyFits (r : HttpRequest τ) : Prop :=
  ∀ value, (keyHeader, .str value) ∈ r.headers → Http.headerFault? value = none

/-- One request with another access key. -/
structure Rekeyed (r r' : HttpRequest τ) : Prop where
  rest : r'.keyless = r.keyless
  fits : r.KeyFits
  fits' : r'.KeyFits

end HttpRequest

namespace Http

open HttpRequest (keyHeader)

private theorem headersFault?_keyless {headers : Members}
    (fits : ∀ value, (keyHeader, .str value) ∈ headers → headerFault? value = none) :
    headersFault? (headers.filter fun p => p.1 ≠ keyHeader) = headersFault? headers := by
  have fit {p : String × Json} (there : p ∈ headers) (keyed : p.1 = keyHeader) :
      valueFault? p.2 = none := by
    obtain ⟨name, value⟩ := p
    obtain rfl : name = keyHeader := keyed
    cases value with
    | str value => exact fits value there
    | _ => rfl
  induction headers with
  | nil => rfl
  | cons p rest ih =>
    have others := ih (fun value there => fits value (List.mem_cons_of_mem _ there))
      fun there => fit (List.mem_cons_of_mem _ there)
    rw [headersFault?] at others ⊢
    rw [List.filter_cons, headersFault?, List.findSome?_cons]
    split
    · rw [List.findSome?_cons, others, headersFault?]
    · rename_i keyed
      rw [others, fit List.mem_cons_self (by simpa using keyed), headersFault?]

variable {r r' : HttpRequest τ} (rekeyed : r.Rekeyed r')
include rekeyed

private theorem method_rekeyed : r'.method = r.method :=
  (congrArg HttpRequest.method rekeyed.rest :)

private theorem headersFault?_rekeyed : headersFault? r'.headers = headersFault? r.headers := by
  have rest : r'.keyless.headers = r.keyless.headers :=
    (congrArg HttpRequest.headers rekeyed.rest :)
  rw [← headersFault?_keyless rekeyed.fits, ← headersFault?_keyless rekeyed.fits']
  exact congrArg headersFault? rest

private theorem objection?_rekeyed (url : String) : objection? url r' = objection? url r := by
  unfold objection? lineFault?
  rw [method_rekeyed rekeyed, headersFault?_rekeyed rekeyed]

private theorem rekeyed_followUp (url : String) :
    (followUp r url).request.Rekeyed (followUp r' url).request := by
  have fits {r : HttpRequest τ} (fits : r.KeyFits) : (followUp r url).request.KeyFits :=
    fun value there => fits value (List.mem_of_mem_filter there)
  refine ⟨?_, fits rekeyed.fits, fits rekeyed.fits'⟩
  have timeout : r'.timeout = r.timeout := (congrArg HttpRequest.timeout rekeyed.rest :)
  have headers : r'.headers.filter (fun p => p.1 ≠ keyHeader) =
      r.headers.filter fun p => p.1 ≠ keyHeader := (congrArg HttpRequest.headers rekeyed.rest :)
  have apart (l : Members) : (l.filter fun p => !describesBody p.1).filter
      (fun p => p.1 ≠ keyHeader) =
        (l.filter fun p => p.1 ≠ keyHeader).filter fun p => !describesBody p.1 := by
    rw [List.filter_filter, List.filter_filter]
    exact List.filter_congr fun p _ => Bool.and_comm _ _
  unfold HttpRequest.keyless FollowUp.request followUp
  dsimp only
  rw [timeout, apart, apart, headers]

variable [Outside ε τ]

private theorem objected?_rekeyed (url : String) : objected? ε url r' = objected? ε url r := by
  rw [objected?, objected?, objection?_rekeyed rekeyed]

theorem barrier?_rekeyed (url : String) : barrier? ε url r' = barrier? ε url r := by
  rw [barrier?, barrier?, objected?_rekeyed rekeyed]

private theorem redirection_rekeyed (visited : List String) (answer : Except Fault HttpAnswer) :
    redirection ε visited r' answer = redirection ε visited r answer := by
  unfold redirection
  rw [method_rekeyed rekeyed]
  split
  · rw [objected?_rekeyed (rekeyed_followUp rekeyed _)]
  · rfl

end Http

/-- The network answers requests that differ in the access key in the same way. -/
def Keyless (ε : Type) {τ : Type} [Outside ε τ] : Prop :=
  ∀ (request request' : HttpRequest τ) (s : ε), request.keyless = request'.keyless →
    Outside.send request s = Outside.send request' s

/-- What happens while requests with different access keys are under way: the same, or both go on,
and take their keys with them. -/
inductive Happening.SameButKey (r r' : HttpRequest τ) :
    Happening τ (FollowUp τ) → Happening τ (FollowUp τ) → Prop where
  | same (h : Happening τ (FollowUp τ)) : SameButKey r r' h h
  | send {f f' : FollowUp τ} (alike : f.request.keyless = f'.request.keyless)
    (continues : Http.Continues r f) (continues' : Http.Continues r' f') :
    SameButKey r r' (.send f) (.send f')

namespace Http

variable [Outside ε τ] (deaf : Keyless ε) {r r' : HttpRequest τ} (rekeyed : r.Rekeyed r')
include deaf rekeyed

/-- A network that is deaf to the key answers both requests in the same way, and sends both to the
same places. -/
theorem exchange_rekeyed (left : Nat) (visited : List String) (s : ε) :
    let x := exchange left visited r s
    let y := exchange left visited r' s
    y.2 = x.2 ∧ y.1.answer = x.1.answer ∧
      List.Forall₂ (Happening.SameButKey r r') x.1.happenings y.1.happenings := by
  have sent : Outside.send r' s = Outside.send r s := deaf _ _ s rekeyed.rest
  have first : List.Forall₂ (Happening.SameButKey r r')
      (Outside.send r s).1.lift.happenings (Outside.send r s).1.lift.happenings :=
    List.forall₂_same.2 fun h _ => .same h
  induction left generalizing visited r r' s with
  | zero =>
    rw [exchange, exchange, sent]
    exact ⟨rfl, rfl, first⟩
  | succ left ih =>
    rw [exchange, exchange, sent]
    dsimp only
    rw [redirection_rekeyed rekeyed]
    split
    · exact ⟨rfl, rfl, first⟩
    · exact ⟨rfl, rfl, first⟩
    · rename_i url goes
      have further := rekeyed_followUp rekeyed url
      obtain ⟨after, answer, later⟩ := ih further (url :: visited) (Outside.send r s).2
        (deaf _ _ _ further.rest) (List.forall₂_same.2 fun h _ => .same h)
      have continues := continues_followUp r url
      have continues' := continues_followUp r' url
      refine ⟨after, answer, List.rel_append first (.cons (.send further.rest.symm continues
        continues') (later.imp fun h h' alike => ?_))⟩
      cases alike with
      | same h => exact .same h
      | send alike on on' => exact .send alike (continues.trans on) (continues'.trans on')

end Http

end LocatorHealing
