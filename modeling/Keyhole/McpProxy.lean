import Keyhole.JsonDocument
import Keyhole.UrlAuthority

/-!
# The MCP proxy

`keyhole mcp-proxy` runs a standard-library `HTTPServer` whose handler forwards a local
client to the configured upstream and adds a bearer token.  The server takes one request
at a time: the next one is handled when the handler of the current one has returned.  A
`GET /sse` returns only when its upstream stream ends.

* `Proxy`: the requests that wait, the stream being forwarded, the registry of message
  URLs, and everything sent upstream or told to the clients;
* `step`: what the loop does on an event; `run`: a sequence of them;
* `run_induction`: what every step preserves, a run preserves. -/

namespace KeyholeProxy

open KeyholeJson UrlAuthority

/-! ## Requests -/

/-- What the proxy calls of `urllib`: the authorities that `urlsplit` refuses, and the
    decoding of percent escapes. -/
structure UrlLib where
  badNetloc : Text → Bool
  percentDecode : Text → Text

/-- A request of a local client; `body` is `none` where `Content-Length` is no number. -/
structure LocalRequest where
  client : Nat
  command : String
  path : Text
  contentType : Option Text := none
  body : Option (List UInt8) := some []

/-- A request sent upstream. -/
structure Outgoing where
  method : String
  url : Text
  headers : List (String × Text)
  body : List UInt8

/-- An answer from upstream. -/
structure UpstreamReply where
  statusCode : Nat
  contentType : Option Text
  content : List UInt8

/-- What a handler meets outside: the token, the opening of the upstream stream, the answer
    to a message. -/
structure HandlerEnv where
  token : Except Text Text
  opens : Except Text Unit
  reply : Except Text UpstreamReply

/-- What a client is told. -/
inductive Told where
  | response (code : Nat) (headers : List (String × Text)) (body : List UInt8)
  | error (code : Nat) (message : Text)
  | line (text : Text)

/-- The `GET /sse` handler in its loop. -/
structure Stream where
  client : Nat
  url : Text
  currentEvent : Option Text
  /-- the session its endpoint event named -/
  session : Option Text

/-- The state of the proxy; the registry has its newest entry first. -/
structure Proxy where
  waiting : List LocalRequest := []
  stream : Option Stream := none
  registry : List (Text × Text) := []
  sent : List Outgoing := []
  told : List (Nat × Told) := []

/-- The proxy when it starts to listen. -/
def start : Proxy := {}

/-- Tell a client. -/
def Proxy.tell (s : Proxy) (client : Nat) (told : Told) : Proxy :=
  { s with told := s.told ++ [(client, told)] }

/-- Send a request upstream. -/
def Proxy.send (s : Proxy) (request : Outgoing) : Proxy :=
  { s with sent := s.sent ++ [request] }

/-! ## URL helpers -/

/-- `text.startswith(p)`. -/
def begins (text : Text) (p : String) : Bool := p.toList.isPrefixOf text

/-- `text.strip()`. -/
def stripText (text : Text) : Text :=
  ((text.dropWhile isSpace).reverse.dropWhile isSpace).reverse

/-- `text.split(sep)`. -/
def splitAll (sep : Char) : Text → List Text
  | [] => [[]]
  | c :: rest =>
      if c = sep then [] :: splitAll sep rest
      else match splitAll sep rest with
        | [] => [[c]]
        | field :: fields => (c :: field) :: fields

/-- `urllib.parse.unquote`. -/
def unquote (lib : UrlLib) (text : Text) : Text :=
  if text.contains '%' then lib.percentDecode text else text

/-- `name.replace("+", " ")`, unquoted. -/
def unquotePlus (lib : UrlLib) (text : Text) : Text :=
  unquote lib (text.map fun c => if c = '+' then ' ' else c)

/-- `parse_qs`, as the list of its pairs: fields without `=` or without a value are
    dropped. -/
def parseQs (lib : UrlLib) (query : Text) : List (Text × Text) :=
  (splitAll '&' query).filterMap fun field =>
    if field.contains '=' then
      let (name, value) := splitOnce '=' field
      if value = [] then none else some (unquotePlus lib name, unquotePlus lib value)
    else none

/-- `_extract_session_id`; the outer `none` is the `ValueError` of `urlparse`. -/
def extractSessionId (lib : UrlLib) (pathOrUrl : Text) : Option (Option Text) :=
  (urlsplit lib.badNetloc pathOrUrl).map fun parsed =>
    (parseQs lib parsed.query).lookup "sessionId".toList

/-- `_resolve_upstream_message_url`; `none` is a `ValueError`. -/
def resolveUpstreamMessageUrl (lib : UrlLib) (upstreamSseUrl endpointData : Text) :
    Option Text :=
  if begins endpointData "http" then some endpointData
  else (urlsplit lib.badNetloc upstreamSseUrl).map fun parsed =>
    parsed.scheme ++ "://".toList ++ parsed.netloc
      ++ '/' :: endpointData.dropWhile (fun c => c == '/')

/-- The schemes whose paths have parameters. -/
def usesParams : List Text :=
  ["", "ftp", "hdl", "prospero", "http", "https", "shttp", "rtsp", "rtsps", "rtspu", "sip",
    "sips", "mms", "sftp", "tel"].map String.toList

/-- The path without the parameters of its last segment. -/
def dropParams (path : Text) : Text :=
  let last := (path.reverse.takeWhile (fun c => c != '/')).reverse
  path.take (path.length - last.length) ++ last.takeWhile (fun c => c != ';')

/-- `_local_path_for_endpoint`; `none` is a `ValueError`. -/
def localPathForEndpoint (lib : UrlLib) (endpointData : Text) : Option Text :=
  if !begins endpointData "http" then some endpointData
  else (urlsplit lib.badNetloc endpointData).map fun parsed =>
    let path := if usesParams.contains parsed.scheme then dropParams parsed.path else parsed.path
    if parsed.query = [] then path else path ++ '?' :: parsed.query

/-! ## The handlers -/

/-- `_cors_headers`. -/
def corsHeaders : List (String × Text) :=
  [("Access-Control-Allow-Origin", "*".toList),
    ("Access-Control-Allow-Methods", "GET, POST, OPTIONS".toList),
    ("Access-Control-Allow-Headers", "Content-Type, Authorization".toList)]

/-- The `Authorization` header. -/
def bearer (token : Text) : String × Text := ("Authorization", "Bearer ".toList ++ token)

/-- `upstream_sse_url`, with the query of the local request. -/
def streamUrl (upstream path : Text) : Text :=
  if path.contains '?' then upstream ++ '?' :: (splitOnce '?' path).2 else upstream

variable (lib : UrlLib) (upstream : Text)

/-- Does the HTTP library find somewhere to send the request to? -/
def connects (url : Text) : Bool := (originOf lib.badNetloc url).isSome

/-- `_handle_sse`, up to its loop. -/
def handleSse (env : HandlerEnv) (r : LocalRequest) (s : Proxy) : Proxy :=
  match env.token with
  | .error _ => s.tell r.client
      (.error 503 "Authentication token unavailable — run 'keyhole login'".toList)
  | .ok token =>
      let url := streamUrl upstream r.path
      if !connects lib url then
        s.tell r.client (.error 502 "Upstream connect failed".toList)
      else
        let s := s.send { method := "GET", url := url, body := []
                          headers := [bearer token, ("Accept", "text/event-stream".toList),
                            ("Cache-Control", "no-cache".toList)] }
        match env.opens with
        | .error text =>
            s.tell r.client (.error 502 ("Upstream connect failed: ".toList ++ text))
        | .ok _ =>
            { s.tell r.client (.response 200
                ([("Content-Type", "text/event-stream".toList),
                  ("Cache-Control", "no-cache".toList), ("X-Accel-Buffering", "no".toList)]
                  ++ corsHeaders) []) with
              stream := some ⟨r.client, url, none, none⟩ }

/-- `_handle_health`. -/
def handleHealth (r : LocalRequest) (s : Proxy) : Proxy :=
  let body : String := "\x7b\"status\":\"ok\",\"service\":\"keyhole-mcp-proxy\"\x7d"
  s.tell r.client (.response 200 (("Content-Type", "application/json".toList) :: corsHeaders)
    body.toUTF8.toList)

/-- `do_GET`. -/
def doGet (env : HandlerEnv) (r : LocalRequest) (s : Proxy) : Proxy :=
  let path := (splitOnce '?' r.path).1
  if path = "/sse".toList then handleSse lib upstream env r s
  else if path = "/".toList ∨ path = "/health".toList then handleHealth r s
  else s.tell r.client (.error 404 [])

/-- The registered message URL of a session. -/
def registered (s : Proxy) (session : Option Text) : Option Text :=
  match session with
  | none => none
  | some id => if id = [] then none else (s.registry.lookup id).filter (fun url => url != [])

/-- The URL of a message for which none is registered. -/
def fallbackUrl (path : Text) : Option Text :=
  (urlsplit lib.badNetloc upstream).map fun parsed =>
    parsed.scheme ++ "://".toList ++ parsed.netloc ++ path

/-- The URL a message goes to; `none` is a `ValueError`. -/
def messageUrl (s : Proxy) (path : Text) : Option Text :=
  (extractSessionId lib path).bind fun session =>
    match registered s session with
    | some url => some url
    | none => fallbackUrl lib upstream path

/-- The forwarding of a message to its URL. -/
def postTo (env : HandlerEnv) (r : LocalRequest) (body : List UInt8) (url : Text) (s : Proxy) :
    Proxy :=
  match env.token with
  | .error text => s.tell r.client (.error 503 ("Token error: ".toList ++ text))
  | .ok token =>
      if !connects lib url then s.tell r.client (.error 502 "Upstream POST error".toList)
      else
        let s := s.send { method := "POST", url := url, body := body
                          headers := [bearer token, ("Content-Type",
                            r.contentType.getD "application/json".toList)] }
        match env.reply with
        | .error text => s.tell r.client (.error 502 ("Upstream POST error: ".toList ++ text))
        | .ok reply => s.tell r.client (.response reply.statusCode
            ((match reply.contentType with
              | some text => [("Content-Type", text)]
              | none => []) ++ corsHeaders) reply.content)

/-- `do_POST`; a request that raises gets no answer. -/
def doPost (env : HandlerEnv) (r : LocalRequest) (s : Proxy) : Proxy :=
  match r.body, messageUrl lib upstream s r.path with
  | some body, some url => postTo lib env r body url s
  | _, _ => s

/-- The handler of a request. -/
def handle (env : HandlerEnv) (r : LocalRequest) (s : Proxy) : Proxy :=
  if r.command = "GET" then doGet lib upstream env r s
  else if r.command = "POST" then doPost lib upstream env r s
  else if r.command = "OPTIONS" then s.tell r.client (.response 204 corsHeaders [])
  else s.tell r.client (.error 501 ("Unsupported method".toList))

/-! ## The stream -/

/-- The data of an endpoint event, where the line is one. -/
def endpointData (stream : Stream) (text : Text) : Option Text :=
  if !begins text "event:" && begins text "data:" && stream.currentEvent == some "endpoint".toList
  then some (stripText (text.drop 5)) else none

/-- Keep the message URL of a session. -/
def register (session : Option Text) (url : Text) (s : Proxy) : Proxy :=
  match session with
  | some id => if id = [] then s else { s with registry := (id, url) :: s.registry }
  | none => s

/-- The endpoint event: its message URL is kept, and the client is told the local path.  An
    exception ends the stream. -/
def forwardEndpoint (stream : Stream) (data : Text) (s : Proxy) : Proxy :=
  match resolveUpstreamMessageUrl lib stream.url data, extractSessionId lib data,
      localPathForEndpoint lib data with
  | some url, some session, some path =>
      { (register session url s).tell stream.client (.line ("data: ".toList ++ path)) with
        stream := some { stream with currentEvent := none, session := session } }
  | _, _, _ => { s with stream := none }

/-- One line of the upstream stream. -/
def forwardLine (stream : Stream) (text : Text) (s : Proxy) : Proxy :=
  if begins text "event:" then
    { s.tell stream.client (.line text) with
      stream := some { stream with currentEvent := some (stripText (text.drop 6)) } }
  else match endpointData stream text with
    | some data => forwardEndpoint lib stream data s
    | none =>
        { s.tell stream.client (.line text) with
          stream := some { stream with
            currentEvent := if text = [] then none else stream.currentEvent } }

/-! ## The loop -/

/-- What can happen: a request arrives, the loop takes the next one, the open stream brings
    a line, the open stream ends (or its client is gone). -/
inductive Event where
  | arrive (r : LocalRequest)
  | serve (env : HandlerEnv)
  | line (text : Text)
  | close

/-- One step of the proxy; `none` where the event cannot happen. -/
def step (s : Proxy) : Event → Option Proxy
  | .arrive r => some { s with waiting := s.waiting ++ [r] }
  | .serve env =>
      -- `serve_forever` takes the next request only when the handler has returned
      match s.stream, s.waiting with
      | none, r :: rest => some (handle lib upstream env r { s with waiting := rest })
      | _, _ => none
  | .line text =>
      match s.stream with
      | some stream => some (forwardLine lib stream text s)
      | none => none
  | .close =>
      match s.stream with
      | some _ => some { s with stream := none }
      | none => none

/-- The state after a sequence of events. -/
def run (s : Proxy) : List Event → Option Proxy
  | [] => some s
  | e :: events => (step lib upstream s e).bind fun s' => run s' events

section Steps

variable {lib : UrlLib} {upstream : Text} {s s' : Proxy}

/-- A request is handled when no stream is open, and it is the first that waits. -/
theorem step_serve {env : HandlerEnv} (h : step lib upstream s (.serve env) = some s') :
    s.stream = none ∧ ∃ r rest, s.waiting = r :: rest
      ∧ s' = handle lib upstream env r { s with waiting := rest } := by
  obtain ⟨waiting, stream, registry, sent, told⟩ := s
  cases stream with
  | some stream => exact nomatch h
  | none =>
    cases waiting with
    | nil => exact nomatch h
    | cons r rest => exact ⟨rfl, r, rest, rfl, (Option.some.inj h).symm⟩

theorem step_line {text : Text} (h : step lib upstream s (.line text) = some s') :
    ∃ stream, s.stream = some stream ∧ s' = forwardLine lib stream text s := by
  obtain ⟨waiting, stream, registry, sent, told⟩ := s
  cases stream with
  | some stream => exact ⟨stream, rfl, (Option.some.inj h).symm⟩
  | none => exact nomatch h

theorem step_close (h : step lib upstream s .close = some s') :
    s' = { s with stream := none } := by
  obtain ⟨waiting, stream, registry, sent, told⟩ := s
  cases stream with
  | some stream => exact (Option.some.inj h).symm
  | none => exact nomatch h

theorem run_cons {e : Event} {events : List Event} (h : step lib upstream s e = some s') :
    run lib upstream s (e :: events) = run lib upstream s' events := by
  show (step lib upstream s e).bind _ = _
  rw [h]
  rfl

end Steps

/-- What every step preserves, a run preserves. -/
theorem run_induction {lib : UrlLib} {upstream : Text} {I : Proxy → Prop}
    (hstep : ∀ s e s', I s → step lib upstream s e = some s' → I s')
    {s s' : Proxy} {events : List Event} (hs : I s)
    (hrun : run lib upstream s events = some s') : I s' := by
  induction events generalizing s with
  | nil => exact Option.some.inj hrun ▸ hs
  | cons e events ih =>
    obtain ⟨next, hnext, hrest⟩ := Option.bind_eq_some_iff.mp hrun
    exact ih (hstep s e next hs hnext) hrest

end KeyholeProxy
