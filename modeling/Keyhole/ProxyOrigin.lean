import Keyhole.McpProxy

/-!
# Where the proxy's token goes

Every request the proxy sends upstream carries the bearer token.  Its URL is the configured
one, or one taken from an endpoint event, or the upstream's authority with the raw target
of a local request behind it.  This module says for which events the last two keep the
origin of the configured URL, and that a run of such events sends the token nowhere else.

* `handle_cases`, `forwardLine_cases`: what one step sends and keeps;
* `Careful`: an event that leads nowhere else;
* `token_stays`: the run theorem. -/

namespace KeyholeProxy

open KeyholeJson UrlAuthority

variable (lib : UrlLib) (upstream : Text)

/-- The URL leads nowhere, or to the configured origin. -/
def SameOrigin (url : Text) : Prop :=
  originOf lib.badNetloc url = none
    ∨ originOf lib.badNetloc url = originOf lib.badNetloc upstream

/-- The target of a local request, written behind the upstream's authority, does not begin
    inside it, or still denotes the upstream's origin. -/
def KeepsAuthority (path : Text) : Prop :=
  extension path = []
    ∨ originFrom lib.badNetloc (authorityOf upstream).1
        ((authorityOf upstream).2 ++ extension path) = none
    ∨ originFrom lib.badNetloc (authorityOf upstream).1
        ((authorityOf upstream).2 ++ extension path) = originOf lib.badNetloc upstream

/-! ## The three sources of a URL -/

variable {url : Text} {s s' : Proxy} {r : LocalRequest}

theorem urlsplit_authority {badNetloc : Text → Bool} {parsed : Parsed}
    (h : urlsplit badNetloc url = some parsed) :
    parsed.scheme ++ "://".toList ++ parsed.netloc = baseOf url := by
  unfold urlsplit at h
  by_cases hbad : (splitNetloc (splitScheme (cleaned url)).2).1 ≠ []
      ∧ badNetloc (splitNetloc (splitScheme (cleaned url)).2).1 = true
  · simp only [if_pos hbad] at h
    exact nomatch h
  · simp only [if_neg hbad, Option.some.injEq] at h
    rw [← h]
    rfl

/-- A stream is opened at the configured origin. -/
theorem originOf_streamUrl (path : Text) :
    originOf lib.badNetloc (streamUrl upstream path) = originOf lib.badNetloc upstream := by
  unfold streamUrl
  by_cases h : path.contains '?' = true
  · rw [if_pos h, originOf_append_query]
  · rw [if_neg h]

theorem authorityOf_streamUrl (path : Text) :
    authorityOf (streamUrl upstream path) = authorityOf upstream := by
  unfold streamUrl
  by_cases h : path.contains '?' = true
  · rw [if_pos h, authorityOf_append_query]
  · rw [if_neg h]

/-- The URL built from a raw target leads to the configured origin, or nowhere, exactly when
    the target keeps the authority. -/
theorem sameOrigin_fallback_iff (path : Text) :
    SameOrigin lib upstream (baseOf upstream ++ path) ↔ KeepsAuthority lib upstream path := by
  unfold SameOrigin KeepsAuthority
  rw [originOf_base_append]
  constructor
  · exact fun h => .inr h
  · rintro (hnone | h)
    · right
      rw [hnone, List.append_nil]
      rfl
    · exact h

/-- A relative endpoint resolves to the configured origin. -/
theorem sameOrigin_relative {sseUrl data : Text}
    (hauthority : authorityOf sseUrl = authorityOf upstream)
    (hrelative : begins data "http" = false)
    (h : resolveUpstreamMessageUrl lib sseUrl data = some url) :
    SameOrigin lib upstream url := by
  unfold resolveUpstreamMessageUrl at h
  rw [if_neg (by rw [hrelative]; simp)] at h
  obtain ⟨parsed, hparsed, rfl⟩ := Option.map_eq_some_iff.mp h
  have hbase : baseOf sseUrl = baseOf upstream := by
    unfold baseOf
    rw [hauthority]
  right
  rw [urlsplit_authority hparsed, hbase]
  exact originOf_base_append_of_extension lib.badNetloc rfl upstream

/-! ## What one step does -/

/-- Where the handler of a request sends to. -/
def Destination (s : Proxy) (r : LocalRequest) (url : Text) : Prop :=
  r.command = "GET" ∧ url = streamUrl upstream r.path
    ∨ r.command = "POST" ∧ messageUrl lib upstream s r.path = some url

/-- A handler keeps the registry, sends at most one request, and opens at most one stream,
    at the configured URL. -/
structure Handled (r : LocalRequest) (s s' : Proxy) : Prop where
  registry : s'.registry = s.registry
  sent : s'.sent = s.sent ∨ ∃ request, s'.sent = s.sent ++ [request]
    ∧ connects lib request.url = true ∧ Destination lib upstream s r request.url
  stream : s'.stream = s.stream ∨ ∃ client, connects lib (streamUrl upstream r.path) = true
    ∧ s'.stream = some ⟨client, streamUrl upstream r.path, none, none⟩

/-- A handler that only answers. -/
theorem Handled.quiet (hregistry : s'.registry = s.registry)
    (hsent : s'.sent = s.sent) (hstream : s'.stream = s.stream) : Handled lib upstream r s s' :=
  ⟨hregistry, .inl hsent, .inl hstream⟩

theorem handleSse_cases (env : HandlerEnv) (hget : r.command = "GET")
    (s : Proxy) : Handled lib upstream r s (handleSse lib upstream env r s) := by
  unfold handleSse
  cases env.token with
  | error text => exact .quiet lib upstream rfl rfl rfl
  | ok token =>
    by_cases hconnects : connects lib (streamUrl upstream r.path) = true
    · simp only [hconnects, Bool.not_true, Bool.false_eq_true, if_false]
      cases env.opens with
      | error text => exact ⟨rfl, .inr ⟨_, rfl, hconnects, .inl ⟨hget, rfl⟩⟩, .inl rfl⟩
      | ok _ =>
        exact ⟨rfl, .inr ⟨_, rfl, hconnects, .inl ⟨hget, rfl⟩⟩, .inr ⟨_, hconnects, rfl⟩⟩
    · simp only [Bool.eq_false_iff.mpr hconnects, Bool.not_false, if_true]
      exact .quiet lib upstream rfl rfl rfl

theorem doPost_cases (env : HandlerEnv) (hpost : r.command = "POST")
    (s : Proxy) : Handled lib upstream r s (doPost lib upstream env r s) := by
  unfold doPost
  cases r.body with
  | none => exact .quiet lib upstream rfl rfl rfl
  | some body =>
    cases hurl : messageUrl lib upstream s r.path with
    | none => exact .quiet lib upstream rfl rfl rfl
    | some url =>
      show Handled lib upstream r s (postTo lib env r body url s)
      unfold postTo
      cases env.token with
      | error text => exact .quiet lib upstream rfl rfl rfl
      | ok token =>
        by_cases hconnects : connects lib url = true
        · simp only [hconnects, Bool.not_true, Bool.false_eq_true, if_false]
          cases env.reply with
          | error text =>
            exact ⟨rfl, .inr ⟨_, rfl, hconnects, .inr ⟨hpost, hurl⟩⟩, .inl rfl⟩
          | ok reply =>
            exact ⟨rfl, .inr ⟨_, rfl, hconnects, .inr ⟨hpost, hurl⟩⟩, .inl rfl⟩
        · simp only [Bool.eq_false_iff.mpr hconnects, Bool.not_false, if_true]
          exact .quiet lib upstream rfl rfl rfl

/-- What the handler of a request does. -/
theorem handle_cases (env : HandlerEnv) (r : LocalRequest) (s : Proxy) :
    Handled lib upstream r s (handle lib upstream env r s) := by
  unfold handle
  by_cases hget : r.command = "GET"
  · rw [if_pos hget]
    unfold doGet
    by_cases hsse : (splitOnce '?' r.path).1 = "/sse".toList
    · simp only [if_pos hsse]
      exact handleSse_cases lib upstream env hget s
    · by_cases hhealth : (splitOnce '?' r.path).1 = "/".toList
          ∨ (splitOnce '?' r.path).1 = "/health".toList
      · simp only [if_neg hsse, if_pos hhealth]
        exact .quiet lib upstream rfl rfl rfl
      · simp only [if_neg hsse, if_neg hhealth]
        exact .quiet lib upstream rfl rfl rfl
  · rw [if_neg hget]
    by_cases hpost : r.command = "POST"
    · rw [if_pos hpost]
      exact doPost_cases lib upstream env hpost s
    · rw [if_neg hpost]
      by_cases hoptions : r.command = "OPTIONS"
      · rw [if_pos hoptions]
        exact .quiet lib upstream rfl rfl rfl
      · rw [if_neg hoptions]
        exact .quiet lib upstream rfl rfl rfl

/-- A line sends nothing; it keeps the stream at its URL or ends it; and it registers at most
    the URL its endpoint data resolves to. -/
structure Forwarded (stream : Stream) (text : Text) (s s' : Proxy) : Prop where
  sent : s'.sent = s.sent
  keeps : s'.stream = none ∨ ∃ stream', s'.stream = some stream' ∧ stream'.url = stream.url
  registry : s'.registry = s.registry ∨ ∃ data id url,
    endpointData stream text = some data
      ∧ extractSessionId lib data = some (some id) ∧ id ≠ []
      ∧ resolveUpstreamMessageUrl lib stream.url data = some url
      ∧ s'.registry = (id, url) :: s.registry

theorem forwardLine_cases (stream : Stream) (text : Text) (s : Proxy) :
    Forwarded lib stream text s (forwardLine lib stream text s) := by
  unfold forwardLine
  by_cases hevent : begins text "event:" = true
  · rw [if_pos hevent]
    exact ⟨rfl, .inr ⟨_, rfl, rfl⟩, .inl rfl⟩
  · rw [if_neg hevent]
    cases hdata : endpointData stream text with
    | none => exact ⟨rfl, .inr ⟨_, rfl, rfl⟩, .inl rfl⟩
    | some data =>
      show Forwarded lib stream text s (forwardEndpoint lib stream data s)
      unfold forwardEndpoint
      cases hurl : resolveUpstreamMessageUrl lib stream.url data with
      | none => exact ⟨rfl, .inl rfl, .inl rfl⟩
      | some url =>
        cases hsession : extractSessionId lib data with
        | none => exact ⟨rfl, .inl rfl, .inl rfl⟩
        | some session =>
          cases localPathForEndpoint lib data with
          | none => exact ⟨rfl, .inl rfl, .inl rfl⟩
          | some path =>
            unfold register
            cases session with
            | none => exact ⟨rfl, .inr ⟨_, rfl, rfl⟩, .inl rfl⟩
            | some id =>
              by_cases hid : id = []
              · simp only [if_pos hid]
                exact ⟨rfl, .inr ⟨_, rfl, rfl⟩, .inl rfl⟩
              · simp only [if_neg hid]
                exact ⟨rfl, .inr ⟨_, rfl, rfl⟩,
                  .inr ⟨data, id, url, hdata, hsession, hid, hurl, rfl⟩⟩

/-! ## Runs -/

/-- The event leads the token nowhere else: an endpoint that names a session by an absolute
    URL has the configured origin, and a message for which no URL is registered has a target
    that keeps the upstream's authority. -/
def Careful (s : Proxy) : Event → Prop
  | .line text => ∀ stream data id, s.stream = some stream → endpointData stream text = some data →
      extractSessionId lib data = some (some id) → id ≠ [] → begins data "http" = true →
      SameOrigin lib upstream data
  | .serve _ => ∀ r rest session, s.waiting = r :: rest → r.command = "POST" →
      extractSessionId lib r.path = some session → registered s session = none →
      KeepsAuthority lib upstream r.path
  | _ => True

/-- Every event of the run is careful in the state it meets. -/
def CarefulRun (s : Proxy) : List Event → Prop
  | [] => True
  | e :: events => Careful lib upstream s e
      ∧ ∀ s', step lib upstream s e = some s' → CarefulRun s' events

/-- Every request with the token went to the configured scheme, host and port. -/
def TokenStays (s : Proxy) : Prop :=
  ∀ request ∈ s.sent, originOf lib.badNetloc request.url = originOf lib.badNetloc upstream

/-- What careful events preserve: the token stayed, every registered URL leads to the
    configured origin or nowhere, and the open stream has the configured authority. -/
structure Guarded (s : Proxy) : Prop where
  sent : TokenStays lib upstream s
  registry : ∀ entry ∈ s.registry, SameOrigin lib upstream entry.2
  stream : ∀ stream, s.stream = some stream → authorityOf stream.url = authorityOf upstream

variable {lib upstream}

/-- A URL the library connects to and that leads nowhere else has the configured origin. -/
theorem SameOrigin.of_connects (h : SameOrigin lib upstream url)
    (hconnects : connects lib url = true) :
    originOf lib.badNetloc url = originOf lib.badNetloc upstream := by
  rcases h with hnone | hsame
  · unfold connects at hconnects
    rw [hnone] at hconnects
    exact nomatch hconnects
  · exact hsame

/-- A registered URL is one of the registry. -/
theorem registered_mem {session : Option Text}
    (h : registered s session = some url) : ∃ entry ∈ s.registry, entry.2 = url := by
  cases session with
  | none => exact nomatch h
  | some id =>
    unfold registered at h
    by_cases hid : id = []
    · simp only [if_pos hid] at h
      exact nomatch h
    · simp only [if_neg hid, Option.filter_eq_some_iff] at h
      obtain ⟨entry, hentry⟩ : ∃ entry ∈ s.registry, entry = (id, url) := by
        refine ⟨(id, url), ?_, rfl⟩
        have hlookup := h.1
        generalize s.registry = registry at hlookup
        induction registry with
        | nil => exact nomatch hlookup
        | cons first rest ih =>
          obtain ⟨key, value⟩ := first
          rw [List.lookup_cons] at hlookup
          by_cases hkey : (id == key) = true
          · simp only [hkey] at hlookup
            have hkey' : id = key := eq_of_beq hkey
            subst hkey'
            rw [Option.some.inj hlookup]
            exact List.mem_cons_self
          · simp only [Bool.eq_false_iff.mpr hkey] at hlookup
            exact List.mem_cons_of_mem _ (ih hlookup)
      exact ⟨entry, hentry.1, by rw [hentry.2]⟩

/-- Where a careful handler sends to. -/
theorem Guarded.destination (h : Guarded lib upstream s)
    (hdestination : Destination lib upstream s r url) (hconnects : connects lib url = true)
    (hcareful : ∀ session, r.command = "POST" → extractSessionId lib r.path = some session →
      registered s session = none → KeepsAuthority lib upstream r.path) :
    originOf lib.badNetloc url = originOf lib.badNetloc upstream := by
  rcases hdestination with ⟨-, rfl⟩ | ⟨hpost, hurl⟩
  · exact originOf_streamUrl lib upstream r.path
  · obtain ⟨session, hsession, hurl⟩ := Option.bind_eq_some_iff.mp hurl
    cases hregistered : registered s session with
    | some known =>
      rw [hregistered] at hurl
      obtain ⟨entry, hentry, rfl⟩ := registered_mem hregistered
      rw [← Option.some.inj hurl] at hconnects ⊢
      exact (h.registry entry hentry).of_connects hconnects
    | none =>
      rw [hregistered] at hurl
      obtain ⟨parsed, hparsed, rfl⟩ := Option.map_eq_some_iff.mp hurl
      rw [urlsplit_authority hparsed] at hconnects ⊢
      exact ((sameOrigin_fallback_iff lib upstream r.path).mpr
        (hcareful session hpost hsession hregistered)).of_connects hconnects

/-- A careful step keeps the token where it belongs. -/
theorem Guarded.step {e : Event} (h : Guarded lib upstream s)
    (hcareful : Careful lib upstream s e) (hstep : step lib upstream s e = some s') :
    Guarded lib upstream s' := by
  cases e with
  | arrive r =>
    rw [← Option.some.inj hstep]
    exact ⟨h.sent, h.registry, h.stream⟩
  | serve env =>
    obtain ⟨hidle, r, rest, hwaiting, rfl⟩ := step_serve hstep
    obtain ⟨hregistry, hsent, hopened⟩ :=
      handle_cases lib upstream env r { s with waiting := rest }
    refine ⟨?_, fun entry hentry => h.registry entry (hregistry ▸ hentry), ?_⟩
    · intro request hrequest
      rcases hsent with hsame | ⟨new, hmore, hconnects, hdestination⟩
      · exact h.sent request (hsame ▸ hrequest)
      · rw [hmore] at hrequest
        rcases List.mem_append.mp hrequest with hold | hnew
        · exact h.sent request hold
        · rw [List.mem_singleton.mp hnew]
          exact h.destination (s := s) (r := r) hdestination hconnects
            (fun session hpost hsession hnone =>
              hcareful r rest session hwaiting hpost hsession hnone)
    · intro stream hstream
      rcases hopened with hsame | ⟨client, -, hopen⟩
      · exact h.stream stream (hsame ▸ hstream)
      · rw [hopen] at hstream
        rw [← Option.some.inj hstream]
        exact authorityOf_streamUrl upstream r.path
  | line text =>
    obtain ⟨stream, hstream, rfl⟩ := step_line hstep
    obtain ⟨hsent, hkeeps, hregistry⟩ := forwardLine_cases lib stream text s
    refine ⟨fun request hrequest => h.sent request (hsent ▸ hrequest), ?_, ?_⟩
    · rcases hregistry with hsame | ⟨data, id, url, hdata, hsession, hid, hurl, hmore⟩
      · exact fun entry hentry => h.registry entry (hsame ▸ hentry)
      · rw [hmore]
        intro entry hentry
        rcases List.mem_cons.mp hentry with rfl | hold
        · cases habsolute : begins data "http" with
          | true =>
            have hsame : data = url := by
              unfold resolveUpstreamMessageUrl at hurl
              rw [if_pos habsolute] at hurl
              exact Option.some.inj hurl
            exact hsame ▸ hcareful stream data id hstream hdata hsession hid habsolute
          | false =>
            exact sameOrigin_relative lib upstream (h.stream stream hstream) habsolute hurl
        · exact h.registry entry hold
    · intro stream' hstream'
      rcases hkeeps with hnone | ⟨kept, hkept, hurl⟩
      · rw [hnone] at hstream'
        exact nomatch hstream'
      · rw [hkept] at hstream'
        rw [← Option.some.inj hstream', hurl]
        exact h.stream stream hstream
  | close =>
    rw [step_close hstep]
    exact ⟨h.sent, h.registry, nofun⟩

theorem Guarded.run {events : List Event} (h : Guarded lib upstream s)
    (hcareful : CarefulRun lib upstream s events)
    (hrun : run lib upstream s events = some s') : Guarded lib upstream s' := by
  induction events generalizing s with
  | nil => exact Option.some.inj hrun ▸ h
  | cons e events ih =>
    obtain ⟨next, hnext, hrest⟩ := Option.bind_eq_some_iff.mp hrun
    exact ih (h.step hcareful.1 hnext) (hcareful.2 next hnext) hrest

theorem guarded_start : Guarded lib upstream start :=
  ⟨nofun, nofun,
    nofun⟩

/-- In a run of careful events, every request that carries the token goes to the configured
    origin. -/
theorem token_stays {events : List Event} {s : Proxy}
    (hcareful : CarefulRun lib upstream start events)
    (hrun : run lib upstream start events = some s) : TokenStays lib upstream s :=
  (guarded_start.run hcareful hrun).sent

/-! ## Two targets -/

/-- A library that refuses no authority and decodes nothing. -/
def plainLib : UrlLib where
  badNetloc := fun _ => false
  percentDecode := id

/-- The configured URL of the two runs. -/
def exampleUpstream : Text := "https://mcp.example.com/sse".toList

/-- A token, and an upstream that takes the message. -/
def acceptingEnv : HandlerEnv where
  token := .ok "token-1".toList
  opens := .ok ()
  reply := .ok ⟨202, none, []⟩

/-- A message posted to a target. -/
def posted (target : String) : LocalRequest where
  client := 1
  command := "POST"
  path := target.toList

/-- The run that forwards one message. -/
def postRun (target : String) : List Event := [.arrive (posted target), .serve acceptingEnv]

/-- A message to `/messages` goes to the configured origin. -/
theorem ordinary_target_stays :
    ∃ s, run plainLib exampleUpstream start (postRun "/messages") = some s
      ∧ s.sent.map (fun request => request.url) = ["https://mcp.example.com/messages".toList]
      ∧ TokenStays plainLib exampleUpstream s := by
  have hcareful : CarefulRun plainLib exampleUpstream start (postRun "/messages") := ?_
  · exact ⟨_, rfl, by decide, token_stays hcareful rfl⟩
  refine ⟨trivial, fun s' hstep => ⟨?_, fun _ _ => trivial⟩⟩
  intro r rest session hwaiting _ _ _
  rw [← Option.some.inj hstep] at hwaiting
  rw [← (List.cons.inj hwaiting).1]
  exact .inl (by decide)

/-- A message to `@other.example/x` carries the token to `other.example`. -/
theorem userinfo_target_leaks :
    ¬ ∀ s, run plainLib exampleUpstream start (postRun "@other.example/x") = some s →
      TokenStays plainLib exampleUpstream s := by
  intro hstays
  have hsent := hstays _ rfl _ List.mem_cons_self
  exact absurd hsent (by decide)

end KeyholeProxy
