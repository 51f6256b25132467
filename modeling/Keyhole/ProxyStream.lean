import Keyhole.ProxyOrigin

/-!
# An open stream and a waiting message

The handler of `GET /sse` returns when its upstream stream ends, and `HTTPServer` takes the
next request when the handler has returned.  A message posted for the stream's own session
therefore waits for the end of the stream, which an upstream that waits for the message
does not bring about.

* `PostWaits`: a message for the session of the stream being forwarded waits;
* `not_enabled_of_open`: while the stream is open, no message is forwarded;
* `nonBlocking_iff`: the proxy never gets there only where it can open no stream at all. -/

namespace KeyholeProxy

open KeyholeJson UrlAuthority

variable (lib : UrlLib) (upstream : Text)

/-- A stream is being forwarded, and a message for its session waits. -/
structure PostWaits (s : Proxy) (r : LocalRequest) : Prop where
  waits : r ∈ s.waiting
  post : r.command = "POST"
  session : ∃ stream id, s.stream = some stream ∧ stream.session = some id
    ∧ extractSessionId lib r.path = some (some id)

/-- The loop can take the request now. -/
def ForwardingEnabled (s : Proxy) (r : LocalRequest) : Prop :=
  ∃ rest env s', s.waiting = r :: rest ∧ step lib upstream s (.serve env) = some s'

/-- In every state the proxy can reach, a message that waits beside the open stream of its
    session can be forwarded. -/
def NonBlocking : Prop :=
  ∀ events s, run lib upstream start events = some s →
    ∀ r, PostWaits lib s r → ForwardingEnabled lib upstream s r

variable {lib upstream}

/-! ## While the stream is open -/

theorem not_enabled_of_open {s : Proxy} {stream : Stream} (h : s.stream = some stream)
    (r : LocalRequest) : ¬ ForwardingEnabled lib upstream s r := by
  rintro ⟨rest, env, s', -, hstep⟩
  obtain ⟨hidle, -⟩ := step_serve hstep
  rw [h] at hidle
  exact nomatch hidle

/-! ## Getting there -/

/-- Where there is an upstream to connect to, its URL can be split. -/
theorem urlsplit_of_origin (h : originOf lib.badNetloc upstream ≠ none) :
    ∃ parsed, urlsplit lib.badNetloc upstream = some parsed := by
  unfold originOf originFrom at h
  by_cases hscheme : (authorityOf upstream).1 = "http".toList
      ∨ (authorityOf upstream).1 = "https".toList
  · rw [if_pos hscheme] at h
    by_cases hbad : (authorityOf upstream).2 ≠ []
        ∧ lib.badNetloc (authorityOf upstream).2 = true
    · rw [if_pos hbad] at h
      exact absurd rfl h
    · unfold urlsplit
      exact ⟨_, if_neg hbad⟩
  · rw [if_neg hscheme] at h
    exact absurd rfl h

/-- The client's request for the stream. -/
def streamRequest : LocalRequest where
  client := 1
  command := "GET"
  path := "/sse".toList

/-- The message the client posts when the stream has named its session. -/
def sessionMessage : LocalRequest := posted "/messages?sessionId=s1"

variable (lib) in
/-- Opening the stream: the request for it is the only one that waits. -/
theorem serve_stream (hconnects : connects lib upstream = true) :
    ∃ s, step lib upstream { start with waiting := [streamRequest] } (.serve acceptingEnv) = some s
      ∧ s.stream = some ⟨1, upstream, none, none⟩ := by
  have hurl : streamUrl upstream streamRequest.path = upstream := rfl
  refine ⟨_, rfl, ?_⟩
  show (handleSse lib upstream acceptingEnv streamRequest
    { start with waiting := [] }).stream = _
  unfold handleSse
  simp only [acceptingEnv, hurl, hconnects, Bool.not_true, Bool.false_eq_true, if_false]
  rfl

variable (lib) in
/-- The first line of the endpoint event. -/
theorem line_event {s : Proxy} (h : s.stream = some ⟨1, upstream, none, none⟩) :
    ∃ s', step lib upstream s (.line "event: endpoint".toList) = some s'
      ∧ s'.stream = some ⟨1, upstream, some "endpoint".toList, none⟩ := by
  refine ⟨forwardLine lib ⟨1, upstream, none, none⟩ "event: endpoint".toList s, ?_, rfl⟩
  unfold step
  simp only [h]

/-- The second line names the session. -/
theorem line_data {s : Proxy} {parsed : Parsed}
    (hparsed : urlsplit lib.badNetloc upstream = some parsed)
    (h : s.stream = some ⟨1, upstream, some "endpoint".toList, none⟩) :
    ∃ s', step lib upstream s (.line "data: /messages?sessionId=s1".toList) = some s'
      ∧ s'.stream = some ⟨1, upstream, none, some "s1".toList⟩ := by
  refine ⟨forwardLine lib ⟨1, upstream, some "endpoint".toList, none⟩
    "data: /messages?sessionId=s1".toList s, ?_, ?_⟩
  · unfold step
    simp only [h]
  · show (forwardEndpoint lib ⟨1, upstream, some "endpoint".toList, none⟩
      "/messages?sessionId=s1".toList s).stream = _
    have hurl : resolveUpstreamMessageUrl lib upstream "/messages?sessionId=s1".toList
        = some (parsed.scheme ++ "://".toList ++ parsed.netloc
            ++ "/messages?sessionId=s1".toList) := by
      show (urlsplit lib.badNetloc upstream).map _ = _
      rw [hparsed]
      rfl
    have hsession : extractSessionId lib "/messages?sessionId=s1".toList
        = some (some "s1".toList) := rfl
    have hpath : localPathForEndpoint lib "/messages?sessionId=s1".toList
        = some "/messages?sessionId=s1".toList := rfl
    unfold forwardEndpoint
    simp only [hurl, hsession, hpath]

/-- Wherever the proxy can open a stream, a message can come to wait beside it. -/
theorem message_can_wait (h : originOf lib.badNetloc upstream ≠ none) :
    ∃ events s stream, run lib upstream start events = some s ∧ s.stream = some stream
      ∧ PostWaits lib s sessionMessage := by
  obtain ⟨parsed, hparsed⟩ := urlsplit_of_origin h
  obtain ⟨s₁, hserve, hopen⟩ := serve_stream lib (Option.isSome_iff_ne_none.mpr h)
  obtain ⟨s₂, hevent, hnamed⟩ := line_event lib hopen
  obtain ⟨s₃, hdata, hsession⟩ := line_data hparsed hnamed
  refine ⟨[.arrive streamRequest, .serve acceptingEnv, .line "event: endpoint".toList,
      .line "data: /messages?sessionId=s1".toList, .arrive sessionMessage],
    { s₃ with waiting := s₃.waiting ++ [sessionMessage] }, _, ?_, hsession, ?_⟩
  · have harrive : step lib upstream start (.arrive streamRequest)
        = some { start with waiting := [streamRequest] } := rfl
    rw [run_cons harrive, run_cons hserve, run_cons hevent, run_cons hdata]
    rfl
  · exact ⟨List.mem_append_right _ List.mem_cons_self, rfl, _, _, hsession, rfl, rfl⟩

/-! ## Where no stream can be opened -/

/-- Without an origin to connect to, no step opens a stream. -/
theorem no_stream_step (h : originOf lib.badNetloc upstream = none) {s s' : Proxy} {e : Event}
    (hnone : s.stream = none) (hstep : step lib upstream s e = some s') : s'.stream = none := by
  cases e with
  | arrive r =>
    rw [← Option.some.inj hstep]
    exact hnone
  | serve env =>
    obtain ⟨-, r, rest, -, rfl⟩ := step_serve hstep
    rcases (handle_cases lib upstream env r { s with waiting := rest }).stream with
      hsame | ⟨client, hconnects, -⟩
    · rw [hsame]
      exact hnone
    · unfold connects at hconnects
      rw [originOf_streamUrl, h] at hconnects
      exact nomatch hconnects
  | line text =>
    obtain ⟨stream, hopen, -⟩ := step_line hstep
    rw [hnone] at hopen
    exact nomatch hopen
  | close => rw [step_close hstep]

/-- The proxy never leaves a message waiting beside its open stream exactly where it can
    open no stream: where the configured URL leads nowhere. -/
theorem nonBlocking_iff (lib : UrlLib) (upstream : Text) :
    NonBlocking lib upstream ↔ originOf lib.badNetloc upstream = none := by
  constructor
  · intro hnonblocking
    by_contra horigin
    obtain ⟨events, s, stream, hrun, hopen, hwaits⟩ := message_can_wait horigin
    exact not_enabled_of_open hopen _ (hnonblocking events s hrun _ hwaits)
  · intro horigin events s hrun r hwaits
    have hnone : s.stream = none :=
      run_induction (I := fun s => s.stream = none)
        (fun _ _ _ hs hstep => no_stream_step horigin hs hstep) rfl hrun
    obtain ⟨stream, id, hopen, -⟩ := hwaits.session
    rw [hnone] at hopen
    exact nomatch hopen

/-- The client's message waits beside its open stream, and the loop does not take it. -/
theorem message_blocked : ¬ NonBlocking plainLib exampleUpstream := by
  intro hnonblocking
  have horigin : originOf plainLib.badNetloc exampleUpstream ≠ none := by decide
  obtain ⟨events, s, stream, hrun, hopen, hwaits⟩ := message_can_wait horigin
  exact not_enabled_of_open hopen _ (hnonblocking events s hrun _ hwaits)

end KeyholeProxy
