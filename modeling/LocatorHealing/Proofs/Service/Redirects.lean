import LocatorHealing.Service.Http

set_option autoImplicit false
set_option relaxedAutoImplicit false

/-!
Where redirections lead. They come to an end before their number is used up, as no URL is gone to
more than four times and no more than ten are gone to. Whatever is sent on the way gets the time and
the headers of the first request, without those that describe its body.
-/

namespace LocatorHealing

def HttpAnswer.Redirects (answer : Except Fault HttpAnswer) : Prop :=
  ∃ status octets url, answer = .ok (.reply status octets (some url))

theorem HttpAnswer.not_redirects_reply (status : Int) (octets : List UInt8) :
    ¬Redirects (.ok (.reply status octets)) := by
  rintro ⟨_, _, _, same⟩
  cases same

private theorem Exchange.send_not_mem_lift {τ ρ α : Type} (x : Exchange τ Empty α) (further : ρ) :
    .send further ∉ (x.lift : Exchange τ ρ α).happenings := by
  intro there
  obtain ⟨h, -, same⟩ := List.mem_map.1 there
  cases h with
  | send nothing => exact nothing.elim
  | _ => cases same

namespace Http

/-- A list in which no text stands more than four times has at most four times as many texts as
different ones. -/
private theorem length_le_of_count_le (l : List String) (repeats : ∀ u, l.count u ≤ 4) :
    l.length ≤ 4 * l.eraseDups.length := by
  cases l with
  | nil => exact Nat.zero_le _
  | cons u rest =>
    have fewer (v : String) : (rest.filter (!· == u)).count v ≤ 4 :=
      Nat.le_trans ((List.filter_sublist.cons u).count_le v) (repeats v)
    have others := length_le_of_count_le (rest.filter (!· == u)) fewer
    have parts := List.length_eq_countP_add_countP (· == u) (l := rest)
    have same :
        (rest.countP fun v => decide ¬(v == u) = true) = (rest.filter (!· == u)).length := by
      rw [List.countP_eq_length_filter]
      exact congrArg List.length (List.filter_congr fun v _ => by cases v == u with | _ => rfl)
    have few := repeats u
    rw [List.count_cons_self, List.count] at few
    rw [List.eraseDups_cons, List.length_cons, List.length_cons]
    omega
termination_by l.length
decreasing_by
  have fewer := List.length_filter_le (!· == u) rest
  simp only [List.length_cons, *]
  omega

/-- URLs that a request may have been redirected to. -/
private structure Visitable (visited : List String) : Prop where
  repeats : ∀ u, visited.count u ≤ 4
  few : visited.length ≤ 37

variable {ε τ : Type} [Outside ε τ] {visited : List String} {url : String} {r : HttpRequest τ}
  {s : ε}

private theorem Visitable.cons (visitable : Visitable visited)
    (goes : isCircling visited url = false) : Visitable (url :: visited) := by
  simp only [isCircling, Bool.or_eq_false_iff, decide_eq_false_iff_not, Nat.not_le] at goes
  refine ⟨fun u => ?_, ?_⟩
  · rw [List.count_cons]
    split
    case isTrue same =>
      rw [← eq_of_beq same]
      omega
    case isFalse => exact visitable.repeats u
  · have length := length_le_of_count_le visited visitable.repeats
    rw [List.length_cons]
    omega

private theorem redirection_of_stays {answer : Except Fault HttpAnswer}
    (stays : ¬HttpAnswer.Redirects answer) : redirection ε visited r answer = .ok none := by
  unfold redirection
  split
  · exact absurd ⟨_, _, _, rfl⟩ stays
  · rfl

private theorem circles_of_redirection {answer : Except Fault HttpAnswer}
    (goes : redirection ε visited r answer = .ok (some url)) : isCircling visited url = false := by
  unfold redirection at goes
  grind

private theorem exchange_of_stays (stays : ¬HttpAnswer.Redirects (Outside.send r s).1.answer)
    (left : Nat) (visited : List String) :
    exchange left visited r s = ((Outside.send r s).1.lift, (Outside.send r s).2) := by
  cases left with
  | zero => rfl
  | succ left =>
    simp only [exchange, redirection_of_stays stays]

theorem exchange_sending_of_stays (stays : ¬HttpAnswer.Redirects (Outside.send r s).1.answer) :
    (sending r : Call ε τ HttpAnswer).exchange s =
      ((Outside.send r s).1.lift, (Outside.send r s).2) :=
  exchange_of_stays stays redirectLimit []

private theorem exchange_enough {left : Nat} (visitable : Visitable visited)
    (enough : 38 ≤ left + visited.length) :
    exchange (left + 1) visited r s = exchange left visited r s := by
  induction left generalizing visited r s with
  | zero =>
    have := visitable.few
    omega
  | succ left ih =>
    rw [exchange, exchange]
    dsimp only
    split
    · rfl
    · rfl
    · rename_i url goes
      rw [ih (visitable.cons (circles_of_redirection goes)) (by rw [List.length_cons]; omega)]

/-- No exchange comes to the limit of redirections: it would be the same with any more. -/
theorem exchange_redirectLimit (more : Nat) (r : HttpRequest τ) (s : ε) :
    exchange (redirectLimit + more) [] r s = exchange redirectLimit [] r s := by
  induction more with
  | zero => rfl
  | succ more ih =>
    rw [← Nat.add_assoc, exchange_enough ⟨fun u => Nat.zero_le _, Nat.zero_le _⟩
      (by rw [redirectLimit]; omega), ih]

/-- A request is what is sent where another one was redirected to. -/
structure Continues (r : HttpRequest τ) (f : FollowUp τ) : Prop where
  timeout : f.timeout = r.timeout
  headers : f.headers = r.headers.filter fun p => !describesBody p.1

theorem continues_followUp (r : HttpRequest τ) (url : String) : Continues r (followUp r url) :=
  ⟨rfl, rfl⟩

theorem Continues.trans {f g : FollowUp τ} (first : Continues r f)
    (second : Continues f.request g) : Continues r g where
  timeout := second.timeout.trans first.timeout
  headers := by
    rw [second.headers, FollowUp.request, first.headers, List.filter_filter]
    simp only [Bool.and_self]

private theorem continues_of_exchange {left : Nat} {f : FollowUp τ}
    (sent : .send f ∈ (exchange left visited r s).1.happenings) : Continues r f := by
  have quiet {x : Exchange τ Empty HttpAnswer} {P : Prop}
      (there : .send f ∈ (x.lift : Exchange τ (FollowUp τ) HttpAnswer).happenings) : P :=
    absurd there (x.send_not_mem_lift f)
  induction left generalizing visited r s with
  | zero => exact quiet sent
  | succ left ih =>
    rw [exchange] at sent
    dsimp only at sent
    split at sent
    · exact quiet sent
    · exact quiet sent
    · rename_i url goes
      rcases List.mem_append.1 sent with first | further
      · exact quiet first
      · rcases List.mem_cons.1 further with same | later
        · rw [Happening.send.inj same]
          exact continues_followUp r url
        · exact (continues_followUp r url).trans (ih later)

end Http

/-- A call sends nothing further but what continues its request. -/
def Call.Follows {ε τ α : Type} (call : Call ε τ α) : Prop :=
  ∀ s f, .send f ∈ (call.exchange s).1.happenings →
    ∃ r, call.event = some (.http r) ∧ Http.Continues r f

section Follows

variable {ε τ α β : Type}

theorem Call.follows_showing (event : Event τ) (exchange : ε → Exchange τ Empty α × ε) :
    (Call.showing event exchange).Follows :=
  fun s f sent => absurd sent ((exchange s).1.send_not_mem_lift f)

theorem Call.Follows.mapAnswer {call : Call ε τ α} (follows : call.Follows)
    (g : Except Fault α → Except Fault β) : (call.mapAnswer g).Follows :=
  follows

variable [Outside ε τ] [TimeScale τ]

theorem Http.follows_post (url : String) (payload : Json) (headers : Members) (timeout : τ) :
    (post url payload headers timeout : Call ε τ Json).Follows := by
  unfold post
  dsimp only
  split
  · exact fun _ _ sent => nomatch sent
  · exact Call.Follows.mapAnswer (fun s f sent => ⟨_, rfl, continues_of_exchange sent⟩) _

theorem Service.follows_http (client : Settings τ) (q : Inquiry τ) :
    ((Service.http client : Service ε τ).call q).Follows :=
  (Http.follows_post _ _ _ _).mapAnswer q.readAnswer

end Follows

end LocatorHealing
