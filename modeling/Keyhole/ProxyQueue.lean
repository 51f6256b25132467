import Keyhole.ProxyOrigin
import Mathlib.Data.List.Forall2

/-!
# The order of the proxy's requests

The requests of the local clients wait in one queue.  Over every run they are taken in the order
they came in, none is lost and none is taken twice; and what is sent upstream comes from the
requests taken, in this order, byte for byte, and once for each at most.

* `Sends`: what is sent upstream for a request;
* `Served`: what the handler of one request does to the queue and the log;
* `run_inOrder`: the run theorem. -/

namespace KeyholeProxy

open UrlAuthority

/-- What is sent for a request: the opening of a stream, or its message. -/
def Sends (upstream : Text) (r : LocalRequest) (out : Outgoing) : Prop :=
  out.method = r.command ∧ (r.command = "GET" ∧ out.url = streamUrl upstream r.path ∧ out.body = []
    ∨ r.command = "POST" ∧ r.body = some out.body)

/-- The requests that came in. -/
def arrivals (events : List Event) : List LocalRequest :=
  events.filterMap fun | .arrive r => some r | _ => none

/-- Of the requests that came in, the first were taken and the rest wait; each of those taken was
    sent once or not at all. -/
def InOrder (upstream : Text) (arrived : List LocalRequest) (s : Proxy) : Prop :=
  ∃ taken, arrived = taken ++ s.waiting ∧
    ∃ forwarded, forwarded.Sublist taken ∧ List.Forall₂ (Sends upstream) forwarded s.sent

/-- What the handler of a request does to the queue and the log. -/
def Served (upstream : Text) (r : LocalRequest) (s s' : Proxy) : Prop :=
  s'.waiting = s.waiting ∧
    (s'.sent = s.sent ∨ ∃ out, s'.sent = s.sent ++ [out] ∧ Sends upstream r out)

variable {lib : UrlLib} {upstream : Text} {s s' : Proxy} {r : LocalRequest}

theorem served_handleSse (env : HandlerEnv) (hget : r.command = "GET") :
    Served upstream r s (handleSse lib upstream env r s) := by
  have hsends : ∀ headers, Sends upstream r ⟨"GET", streamUrl upstream r.path, headers, []⟩ :=
    fun _ => ⟨hget.symm, .inl ⟨hget, rfl, rfl⟩⟩
  unfold handleSse
  cases env.token with
  | error text => exact ⟨rfl, .inl rfl⟩
  | ok token =>
    dsimp only
    split
    · exact ⟨rfl, .inl rfl⟩
    · cases env.opens <;> exact ⟨rfl, .inr ⟨_, rfl, hsends _⟩⟩

theorem served_doPost (env : HandlerEnv) (hpost : r.command = "POST") :
    Served upstream r s (doPost lib upstream env r s) := by
  unfold doPost
  split
  · rename_i body url hbody _
    have hsends : ∀ headers, Sends upstream r ⟨"POST", url, headers, body⟩ :=
      fun _ => ⟨hpost.symm, .inr ⟨hpost, hbody⟩⟩
    unfold postTo
    cases env.token with
    | error text => exact ⟨rfl, .inl rfl⟩
    | ok token =>
      dsimp only
      split
      · exact ⟨rfl, .inl rfl⟩
      · cases env.reply <;> exact ⟨rfl, .inr ⟨_, rfl, hsends _⟩⟩
  · exact ⟨rfl, .inl rfl⟩

theorem served_handle (env : HandlerEnv) (r : LocalRequest) (s : Proxy) :
    Served upstream r s (handle lib upstream env r s) := by
  unfold handle doGet
  by_cases hget : r.command = "GET"
  · rw [if_pos hget]
    dsimp only
    split
    · exact served_handleSse env hget
    · split <;> exact ⟨rfl, .inl rfl⟩
  · rw [if_neg hget]
    by_cases hpost : r.command = "POST"
    · rw [if_pos hpost]
      exact served_doPost env hpost
    · rw [if_neg hpost]
      split <;> exact ⟨rfl, .inl rfl⟩

/-- A line of the stream takes no request. -/
theorem forwardLine_waiting (text : Text) :
    (forwardLine lib stream text s).waiting = s.waiting := by
  unfold forwardLine forwardEndpoint register
  repeat' split
  all_goals rfl

theorem InOrder.step {arrived : List LocalRequest} {e : Event} (h : InOrder upstream arrived s)
    (hstep : step lib upstream s e = some s') : InOrder upstream (arrived ++ arrivals [e]) s' := by
  obtain ⟨taken, harrived, forwarded, hsub, hall⟩ := h
  cases e with
  | arrive r =>
    rw [← Option.some.inj hstep]
    exact ⟨taken, by rw [harrived, List.append_assoc]; rfl, forwarded, hsub, hall⟩
  | serve env =>
    obtain ⟨-, r, rest, hwaiting, rfl⟩ := step_serve hstep
    obtain ⟨hrest, hsent⟩ := @served_handle lib upstream env r
      { s with waiting := rest }
    refine ⟨taken ++ [r], ?_, ?_⟩
    · rw [hrest, harrived, hwaiting]
      exact (List.append_nil _).trans (List.append_cons taken r rest)
    · rcases hsent with hsame | ⟨out, hmore, hout⟩
      · rw [hsame]
        exact ⟨forwarded, hsub.trans (List.sublist_append_left _ _), hall⟩
      · rw [hmore]
        exact ⟨forwarded ++ [r], hsub.append (.refl _), List.rel_append hall (.cons hout .nil)⟩
  | line text =>
    obtain ⟨stream, -, rfl⟩ := step_line hstep
    rw [InOrder, forwardLine_waiting, (forwardLine_cases lib stream text s).sent]
    exact ⟨taken, (List.append_nil _).trans harrived, forwarded, hsub, hall⟩
  | close =>
    rw [step_close hstep]
    exact ⟨taken, (List.append_nil _).trans harrived, forwarded, hsub, hall⟩

/-- In every run the requests are taken in the order they came in, and what is sent upstream comes
    from those taken, in their order and once for each at most. -/
theorem run_inOrder {events : List Event} (hrun : run lib upstream start events = some s) :
    InOrder upstream (arrivals events) s := by
  have hgrown : ∀ (events : List Event) (arrived : List LocalRequest) (v : Proxy),
      InOrder upstream arrived v → run lib upstream v events = some s →
        InOrder upstream (arrived ++ arrivals events) s := by
    intro events
    induction events with
    | nil =>
      intro arrived v hv hrun
      rw [← Option.some.inj hrun]
      exact (List.append_nil arrived).symm ▸ hv
    | cons e events ih =>
      intro arrived v hv hrun
      obtain ⟨next, hnext, hrest⟩ := Option.bind_eq_some_iff.mp hrun
      have hall := ih _ next (hv.step hnext) hrest
      rwa [List.append_assoc, arrivals, arrivals, ← List.filterMap_append] at hall
  exact hgrown events [] start ⟨[], rfl, [], .refl _, .nil⟩ hrun

/-- Of two messages one was taken, and the other waits. -/
theorem next_message_waits : ∃ s, InOrder exampleUpstream
    [posted "/messages?sessionId=s1", posted "/messages?sessionId=s2"] s ∧
      s.sent.length = 1 ∧ s.waiting = [posted "/messages?sessionId=s2"] :=
  ⟨_, @run_inOrder plainLib _ _ [.arrive (posted "/messages?sessionId=s1"),
    .arrive (posted "/messages?sessionId=s2"), .serve acceptingEnv] rfl, rfl, rfl⟩

end KeyholeProxy
