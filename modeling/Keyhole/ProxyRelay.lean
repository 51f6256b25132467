import Keyhole.EventStream
import Keyhole.ProxyOrigin
import Mathlib.Data.List.Forall2

/-!
# What the proxy's client reads

`_handle_sse` reads its upstream in chunks, cuts them into lines and writes each line again,
with the data of endpoint events replaced by local paths.  It decides line by line; the
client reads events.  This module compares the two for every upstream stream.

* `iterLines`, `relayed`, `written`: the bytes the handler writes;
* `iterLines_flatten`: they do not depend on the chunks;
* `Clear`: the streams the line-at-a-time rewriting leaves correct;
* `relay_faithful_iff`: these are the streams that are relayed faithfully. -/

namespace KeyholeProxy

open EventStream UrlAuthority Utf8Text

/-- Bytes of a stream. -/
abbrev Octets := List UInt8

/-! ## Reading lines -/

/-- The loop over `buf.split(b"\n", 1)`: the lines that end in the buffer, and what is left. -/
def cutLines : Octets → List Octets × Octets
  | [] => ([], [])
  | b :: buf =>
      if b = 10 then ([] :: (cutLines buf).1, (cutLines buf).2)
      else match (cutLines buf).1 with
        | [] => ([], b :: (cutLines buf).2)
        | raw :: raws => ((b :: raw) :: raws, (cutLines buf).2)

/-- `raw.rstrip(b"\r")`. -/
def stripCr (raw : Octets) : Octets := (raw.reverse.dropWhile (fun b => b == 13)).reverse

/-- `_iter_sse_lines`, with the buffer so far. -/
def iterLines (buf : Octets) : List Octets → List Octets
  | [] => if buf = [] then [] else [stripCr buf]
  | chunk :: chunks =>
      (cutLines (buf ++ chunk)).1.map stripCr ++ iterLines (cutLines (buf ++ chunk)).2 chunks

/-! ## Writing lines -/

section Relay

variable (lib : UrlLib) (url : Text)

/-- One line of the loop of `_handle_sse`: the line written, without its line break, and
    `current_event`; `none` is an exception, which ends the loop. -/
def relayLine (current : Option Text) (raw : Octets) : Option (Octets × Option Text) :=
  let line := decode raw
  if begins line "event:" then some (raw, some (stripText (line.drop 6)))
  else if begins line "data:" && current == some "endpoint".toList then
    let data := stripText (line.drop 5)
    match resolveUpstreamMessageUrl lib url data, extractSessionId lib data,
        localPathForEndpoint lib data with
    | some _, some _, some path => some (encode ("data: ".toList ++ path), none)
    | _, _, _ => none
  else some (raw, if line = [] then none else current)

/-- The lines the loop writes. -/
def relayed (current : Option Text) : List Octets → List Octets
  | [] => []
  | raw :: raws =>
      match relayLine lib url current raw with
      | some (out, next) => out :: relayed next raws
      | none => []

/-- The bytes `_handle_sse` writes for a stream that arrives in chunks. -/
def written (chunks : List Octets) : Octets :=
  (relayed lib url none (iterLines [] chunks)).flatMap (ended false)

end Relay

/-! ## Chunks -/

theorem cutLines_lf (buf : Octets) :
    cutLines (10 :: buf) = ([] :: (cutLines buf).1, (cutLines buf).2) := rfl

theorem cutLines_other {b : UInt8} (hb : b ≠ 10) (buf : Octets) :
    cutLines (b :: buf) = match (cutLines buf).1 with
      | [] => ([], b :: (cutLines buf).2)
      | raw :: raws => ((b :: raw) :: raws, (cutLines buf).2) := by
  rw [cutLines, if_neg hb]

/-- A buffer is cut where another begins, and what is left is cut with it. -/
theorem cutLines_append (a b : Octets) :
    cutLines (a ++ b) = ((cutLines a).1 ++ (cutLines ((cutLines a).2 ++ b)).1,
      (cutLines ((cutLines a).2 ++ b)).2) := by
  induction a with
  | nil => rfl
  | cons c a ih =>
    by_cases hc : c = 10
    · subst hc
      rw [List.cons_append, cutLines_lf, cutLines_lf, ih]
      rfl
    · rw [List.cons_append, cutLines_other hc, cutLines_other hc a, ih]
      cases hcut : (cutLines a).1 with
      | nil => exact (cutLines_other hc _).symm
      | cons raw raws => rfl

/-- What is left has no line in it. -/
theorem cutLines_rest (a : Octets) : cutLines (cutLines a).2 = ([], (cutLines a).2) := by
  have h := cutLines_append a []
  rw [List.append_nil, List.append_nil] at h
  obtain ⟨hfst, hsnd⟩ := Prod.ext_iff.mp h
  exact Prod.ext (List.append_right_eq_self.mp hfst.symm) hsnd.symm

/-- The lines of a stream do not depend on its chunks. -/
theorem iterLines_flatten : ∀ (chunks : List Octets) {buf : Octets},
    cutLines buf = ([], buf) →
    iterLines buf chunks = (cutLines (buf ++ chunks.flatten)).1.map stripCr
      ++ iterLines (cutLines (buf ++ chunks.flatten)).2 [] := by
  intro chunks
  induction chunks with
  | nil =>
    intro buf hbuf
    rw [List.flatten_nil, List.append_nil, hbuf]
    rfl
  | cons chunk chunks ih =>
    intro buf hbuf
    show (cutLines (buf ++ chunk)).1.map stripCr
      ++ iterLines (cutLines (buf ++ chunk)).2 chunks = _
    rw [ih (cutLines_rest _), List.flatten_cons, ← List.append_assoc buf,
      cutLines_append (buf ++ chunk), List.map_append, List.append_assoc]

/-- The lines the upstream sent, without their line breaks. -/
structure WireLine where
  content : Octets
  crlf : Bool
  unbroken : Unbroken content

/-- The bytes of a stream of lines. -/
def wireBytes (wire : List WireLine) : Octets :=
  wire.flatMap fun w => ended w.crlf w.content

theorem stripCr_ended {content : Octets} (h : Unbroken content) :
    stripCr content = content ∧ stripCr (content ++ [13]) = content := by
  have hstrip : stripCr content = content := by
    rw [stripCr]
    cases hrev : content.reverse with
    | nil =>
      rw [List.reverse_eq_nil_iff.mp hrev]
      rfl
    | cons b rest =>
      have hb : b ∈ content := List.mem_reverse.mp (hrev ▸ List.mem_cons_self)
      rw [List.dropWhile_cons_of_neg (by simpa using (h b hb).2), ← hrev,
        List.reverse_reverse]
  refine ⟨hstrip, ?_⟩
  rw [stripCr, List.reverse_append]
  exact hstrip

theorem cutLines_line {content : Octets} (h : ∀ b ∈ content, b ≠ 10) (rest : Octets) :
    cutLines (content ++ 10 :: rest)
      = (content :: (cutLines rest).1, (cutLines rest).2) := by
  induction content with
  | nil => rfl
  | cons b content ih =>
    rw [List.cons_append, cutLines_other (h b List.mem_cons_self),
      ih (fun c hc => h c (List.mem_cons_of_mem _ hc))]

/-- One line is cut off the front, without its line break. -/
theorem cutLines_ended (w : WireLine) (rest : Octets) :
    (cutLines (ended w.crlf w.content ++ rest)).1.map stripCr
        = w.content :: (cutLines rest).1.map stripCr
      ∧ (cutLines (ended w.crlf w.content ++ rest)).2 = (cutLines rest).2 := by
  obtain ⟨content, crlf, h⟩ := w
  obtain ⟨hlf, hcr⟩ := stripCr_ended h
  cases crlf with
  | false =>
    have hcut : cutLines (ended false content ++ rest)
        = (content :: (cutLines rest).1, (cutLines rest).2) := by
      rw [ended, List.append_assoc]
      exact cutLines_line (fun b hb => (h b hb).1) rest
    rw [hcut, List.map_cons, hlf]
    exact ⟨rfl, rfl⟩
  | true =>
    have hcut : cutLines (ended true content ++ rest)
        = ((content ++ [13]) :: (cutLines rest).1, (cutLines rest).2) := by
      have hsplit : ended true content ++ rest = (content ++ [13]) ++ 10 :: rest := by
        rw [ended, List.append_assoc, List.append_assoc]
        rfl
      rw [hsplit]
      refine cutLines_line (fun b hb => ?_) rest
      cases List.mem_append.mp hb with
      | inl hb => exact (h b hb).1
      | inr hb =>
        rw [List.mem_singleton.mp hb]
        decide
    rw [hcut, List.map_cons, hcr]
    exact ⟨rfl, rfl⟩

variable {value data path line : Text} {got : List Text} {wire : List WireLine}
variable {entries : List (Text × Bool)}

/-- Every chunking of a stream of lines is read as these lines. -/
theorem iterLines_wire {chunks : List Octets} (h : chunks.flatten = wireBytes wire) :
    iterLines [] chunks = wire.map (·.content) := by
  have hcut : (cutLines (wireBytes wire)).1.map stripCr = wire.map (·.content)
      ∧ (cutLines (wireBytes wire)).2 = [] := by
    clear h
    induction wire with
    | nil => exact ⟨rfl, rfl⟩
    | cons w wire ih =>
      rw [wireBytes, List.flatMap_cons]
      obtain ⟨hlines, hrest⟩ := cutLines_ended w (wireBytes wire)
      exact ⟨hlines.trans (congrArg (w.content :: ·) ih.1), hrest.trans ih.2⟩
  rw [iterLines_flatten chunks rfl, List.nil_append, h, hcut.1, hcut.2]
  exact List.append_nil _

/-! ## Local paths -/

section Paths

variable {lib : UrlLib}

theorem splitScheme_subset (text : Text) : (splitScheme text).2 ⊆ text := by
  rw [splitScheme]
  intro c hc
  cases hrest : text.dropWhile (fun c => c != ':') with
  | nil =>
    rw [hrest] at hc
    exact hc
  | cons d rest =>
    rw [hrest] at hc
    have hsub : rest ⊆ text := fun x hx =>
      (List.dropWhile_sublist _).subset (hrest ▸ List.mem_cons_of_mem d hx)
    by_cases hscheme : isScheme (text.takeWhile (fun c => c != ':')) = true
    · simp only [if_pos hscheme] at hc
      exact hsub hc
    · simp only [if_neg hscheme] at hc
      exact hc

theorem splitNetloc_subset (text : Text) : (splitNetloc text).2 ⊆ text := by
  rw [splitNetloc]
  intro c hc
  by_cases hslashes : text.take 2 = ['/', '/']
  · rw [if_pos hslashes] at hc
    exact List.mem_of_mem_drop ((List.dropWhile_sublist _).subset hc)
  · rw [if_neg hslashes] at hc
    exact hc

theorem splitOnce_subset (sep : Char) (text : Text) :
    (splitOnce sep text).1 ⊆ text ∧ (splitOnce sep text).2 ⊆ text :=
  ⟨(List.takeWhile_sublist _).subset,
    fun _ hc => (List.dropWhile_sublist _).subset (List.mem_of_mem_drop hc)⟩

/-- The path and the query of a URL are characters of its cleaned text. -/
theorem urlsplit_subset {url : Text} {parsed : Parsed}
    (h : urlsplit lib.badNetloc url = some parsed) :
    parsed.path ⊆ cleaned url ∧ parsed.query ⊆ cleaned url := by
  rw [urlsplit] at h
  by_cases hbad : (splitNetloc (splitScheme (cleaned url)).2).1 ≠ []
      ∧ lib.badNetloc (splitNetloc (splitScheme (cleaned url)).2).1 = true
  · simp only [if_pos hbad] at h
    exact nomatch h
  · simp only [if_neg hbad, Option.some.injEq] at h
    have hrest : (splitOnce '#' (splitNetloc (splitScheme (cleaned url)).2).2).1 ⊆ cleaned url :=
      fun c hc => splitScheme_subset _ (splitNetloc_subset _ ((splitOnce_subset _ _).1 hc))
    rw [← h]
    exact ⟨fun c hc => hrest ((splitOnce_subset _ _).1 hc),
      fun c hc => hrest ((splitOnce_subset _ _).2 hc)⟩

theorem dropParams_subset (path : Text) : dropParams path ⊆ path := by
  intro c hc
  rw [dropParams] at hc
  cases List.mem_append.mp hc with
  | inl hc => exact List.mem_of_mem_take hc
  | inr hc =>
    have hlast := List.mem_reverse.mp ((List.takeWhile_sublist _).subset hc)
    exact List.mem_reverse.mp ((List.takeWhile_sublist _).subset hlast)

/-- The local path of a URL. -/
theorem mem_localPath (h : localPathForEndpoint lib data = some path)
    (hhttp : begins data "http" = true) : ∀ c ∈ path, c ∈ cleaned data ∨ c = '?' := by
  rw [localPathForEndpoint, hhttp, if_neg (by decide)] at h
  obtain ⟨parsed, hparsed, rfl⟩ := Option.map_eq_some_iff.mp h
  obtain ⟨hpath, hquery⟩ := urlsplit_subset hparsed
  have hdropped : ∀ c, c ∈ (if usesParams.contains parsed.scheme = true
      then dropParams parsed.path else parsed.path) → c ∈ cleaned data := by
    intro c hc
    by_cases hparams : usesParams.contains parsed.scheme = true
    · rw [if_pos hparams] at hc
      exact hpath (dropParams_subset _ hc)
    · rw [if_neg hparams] at hc
      exact hpath hc
  intro c hc
  by_cases hempty : parsed.query = []
  · simp only [if_pos hempty] at hc
    exact .inl (hdropped c hc)
  · simp only [if_neg hempty] at hc
    cases List.mem_append.mp hc with
    | inl hc => exact .inl (hdropped c hc)
    | inr hc =>
      cases List.mem_cons.mp hc with
      | inl hc => exact .inr hc
      | inr hc => exact .inl (hquery hc)

/-- The local path of a URL is one line. -/
theorem localPath_oneLine (h : localPathForEndpoint lib data = some path)
    (hhttp : begins data "http" = true) : OneLine path := by
  have hremoved : ∀ c, isUnsafe c = true → c ≠ '?' → c ∉ path := by
    intro c hc hquestion hmem
    cases mem_localPath h hhttp c hmem with
    | inl hcleaned =>
      have hsafe := (List.mem_filter.mp hcleaned).2
      rw [hc] at hsafe
      exact nomatch hsafe
    | inr h => exact hquestion h
  exact ⟨hremoved '\n' rfl (by decide), hremoved '\r' rfl (by decide)⟩

theorem localPath_relative (hhttp : begins data "http" = false) :
    localPathForEndpoint lib data = some data := by
  rw [localPathForEndpoint, hhttp]
  rfl

/-- The local path of a line is a line. -/
theorem localPath_of_oneLine (h : localPathForEndpoint lib data = some path)
    (hdata : OneLine data) : OneLine path := by
  cases hhttp : begins data "http" with
  | true => exact localPath_oneLine h hhttp
  | false =>
    rw [localPath_relative hhttp] at h
    exact Option.some.inj h ▸ hdata

theorem stripText_subset (text : Text) : stripText text ⊆ text := by
  intro c hc
  have hc := (List.dropWhile_sublist _).subset (List.mem_reverse.mp hc)
  exact (List.dropWhile_sublist _).subset (List.mem_reverse.mp hc)

end Paths

/-! ## Streams the rewriting leaves correct -/

section Scan

variable (lib : UrlLib) (url : Text)

/-- An event and the one the client reads for it. -/
structure Relayed (e e' : ServerEvent) : Prop where
  type : e'.type = e.type
  id : e'.id = e.id
  retry : e'.retry = e.retry
  data : if e.type = "endpoint".toList then localPathForEndpoint lib e.data = some e'.data
    else e'.data = e.data

/-- Rewriting a data value meets no exception. -/
def Readable (value : Text) : Prop :=
  (urlsplit lib.badNetloc (stripText value)).isSome = true
    ∧ (begins (stripText value) "http" = true ∨ (urlsplit lib.badNetloc url).isSome = true)

/-- What was read of a block: the `current_event` of the proxy, the event type of the
    client, and the values of the data lines, with whether the proxy rewrites each. -/
structure Scan where
  current : Option Text := none
  type : Text := []
  data : List (Text × Bool) := []

/-- Does the proxy rewrite the line? -/
def rewrites (current : Option Text) (line : Text) : Bool :=
  !begins line "event:" && (begins line "data:" && current == some "endpoint".toList)

/-- The `current_event` behind a line. -/
def currentAfter (current : Option Text) (line : Text) : Option Text :=
  if begins line "event:" then some (stripText (line.drop 6))
  else if rewrites current line = true ∨ line = [] then none else current

/-- One line, as the proxy reads it and as the client does. -/
def Scan.read (scan : Scan) (line seen : Text) : Scan where
  current := currentAfter scan.current line
  type := if seen = [] then []
    else if (field seen).1 = "event".toList then (field seen).2 else scan.type
  data := if seen = [] then []
    else if (field seen).1 = "data".toList then
      scan.data ++ [((field seen).2, rewrites scan.current line)]
    else scan.data

/-- The block may end here.  An endpoint that is a URL has one data line, which is rewritten
    to its local path or is that path; elsewhere, rewriting changes nothing. -/
def Scan.BlockClear (scan : Scan) : Prop :=
  if scan.type = "endpoint".toList ∧ begins (joined (scan.data.map (·.1))) "http" = true then
    ∃ value rewritten path, scan.data = [(value, rewritten)]
      ∧ localPathForEndpoint lib value = some path
      ∧ if rewritten then
          Readable lib url value ∧ localPathForEndpoint lib (stripText value) = some path
        else path = value
  else ∀ value, (value, true) ∈ scan.data →
    Readable lib url value ∧ localPathForEndpoint lib (stripText value) = some value

/-- Every block that ends, ends clear. -/
def ClearFrom (scan : Scan) : List Text → Prop
  | [] => True
  | line :: rest => (line = [] → scan.BlockClear lib url) ∧ ClearFrom (scan.read line line) rest

/-- The lines of a stream; the client reads the first without its byte order mark. -/
def Clear : List Text → Prop
  | [] => True
  | line :: rest => ClearFrom lib url (Scan.read {} line (unmarked line)) rest

/-- Every chunking of the stream is written as the same bytes, and the client reads the
    events of the stream in them. -/
def Faithful (wire : List WireLine) : Prop :=
  ∃ out, (∀ chunks, chunks.flatten = wireBytes wire → written lib url chunks = out)
    ∧ List.Forall₂ (Relayed lib) (parse (wireBytes wire)) (parse out)

end Scan

/-! ## One line -/

section Lines

variable {lib : UrlLib} {url : Text}

theorem begins_iff {text : Text} {p : String} :
    begins text p = true ↔ ∃ rest, text = p.toList ++ rest := by
  rw [begins, List.isPrefixOf_iff_prefix]
  exact ⟨fun ⟨rest, h⟩ => ⟨rest, h.symm⟩, fun ⟨rest, h⟩ => ⟨rest, h.symm⟩⟩

/-- Spaces around a value are stripped with it. -/
theorem stripText_unspaced (value : Text) : stripText (unspaced value) = stripText value := by
  cases value with
  | nil => rfl
  | cons c value =>
    by_cases hc : c = ' '
    · subst hc
      show stripText value = stripText (' ' :: value)
      rw [stripText, stripText, List.dropWhile_cons_of_pos (by decide)]
    · have hsame : unspaced (c :: value) = c :: value := by
        rw [unspaced]
        rintro rest ⟨rfl, rfl⟩
        exact hc rfl
      rw [hsame]

theorem field_data (rest : Text) :
    field ("data:".toList ++ rest) = ("data".toList, unspaced rest) := rfl

/-- A line the proxy does not rewrite is written as it came. -/
theorem relayLine_pass {current : Option Text} {raw : Octets}
    (h : rewrites current (decode raw) = false) :
    relayLine lib url current raw = some (raw, currentAfter current (decode raw)) := by
  rw [relayLine, currentAfter, h]
  by_cases hevent : begins (decode raw) "event:" = true
  · rw [if_pos hevent, if_pos hevent]
  · rw [Bool.not_eq_true] at hevent
    rw [rewrites, hevent, Bool.not_false, Bool.true_and] at h
    simp only [hevent, h, Bool.false_eq_true, if_false, false_or]

/-- The three URL helpers return exactly on readable data. -/
theorem helpers_readable (h : Readable lib url value) :
    ∃ target session path,
      resolveUpstreamMessageUrl lib url (stripText value) = some target
        ∧ extractSessionId lib (stripText value) = some session
        ∧ localPathForEndpoint lib (stripText value) = some path := by
  obtain ⟨hparse, hbase⟩ := h
  obtain ⟨parsed, hparsed⟩ := Option.isSome_iff_exists.mp hparse
  have hsession : ∃ session, extractSessionId lib (stripText value) = some session := by
    rw [extractSessionId, hparsed]
    exact ⟨_, rfl⟩
  obtain ⟨session, hsession⟩ := hsession
  cases hhttp : begins (stripText value) "http" with
  | true =>
    have hpath : ∃ path, localPathForEndpoint lib (stripText value) = some path := by
      rw [localPathForEndpoint, hhttp, hparsed]
      exact ⟨_, rfl⟩
    obtain ⟨path, hpath⟩ := hpath
    exact ⟨_, session, path, by rw [resolveUpstreamMessageUrl, if_pos hhttp], hsession, hpath⟩
  | false =>
    obtain ⟨base, hbase⟩ := Option.isSome_iff_exists.mp
      (hbase.resolve_left (by rw [hhttp]; exact Bool.false_ne_true))
    have htarget : ∃ target,
        resolveUpstreamMessageUrl lib url (stripText value) = some target := by
      rw [resolveUpstreamMessageUrl, hhttp, if_neg Bool.false_ne_true, hbase]
      exact ⟨_, rfl⟩
    obtain ⟨target, htarget⟩ := htarget
    exact ⟨target, session, _, htarget, hsession, localPath_relative hhttp⟩

theorem readable_of_helpers {target : Text} {session : Option Text}
    (htarget : resolveUpstreamMessageUrl lib url (stripText value) = some target)
    (hsession : extractSessionId lib (stripText value) = some session) :
    Readable lib url value := by
  obtain ⟨parsed, hparsed, -⟩ := Option.map_eq_some_iff.mp hsession
  refine ⟨Option.isSome_iff_exists.mpr ⟨parsed, hparsed⟩, ?_⟩
  cases hhttp : begins (stripText value) "http" with
  | true => exact .inl rfl
  | false =>
    rw [resolveUpstreamMessageUrl, hhttp, if_neg Bool.false_ne_true] at htarget
    obtain ⟨base, hbase, -⟩ := Option.map_eq_some_iff.mp htarget
    exact .inr (Option.isSome_iff_exists.mpr ⟨base, hbase⟩)

/-- One line is written as the model of the proxy tells it to its client. -/
theorem forwardLine_relayLine (stream : Stream) (raw : Octets) (s : Proxy) :
    match relayLine lib stream.url stream.currentEvent raw with
    | some (out, next) => ∃ session, forwardLine lib stream (decode raw) s
        = { forwardLine lib stream (decode raw) s with
            told := s.told ++ [(stream.client, .line (decode out))]
            stream := some { stream with currentEvent := next, session := session } }
    | none => (forwardLine lib stream (decode raw) s).stream = none := by
  rw [relayLine, forwardLine]
  by_cases hevent : begins (decode raw) "event:" = true
  · simp only [if_pos hevent]
    exact ⟨_, rfl⟩
  simp only [if_neg hevent]
  by_cases hdata : (begins (decode raw) "data:"
      && stream.currentEvent == some "endpoint".toList) = true
  · have hendpoint : endpointData stream (decode raw)
        = some (stripText ((decode raw).drop 5)) := by
      rw [endpointData, Bool.eq_false_iff.mpr hevent, Bool.not_false, Bool.true_and, if_pos hdata]
    simp only [if_pos hdata, hendpoint, forwardEndpoint]
    cases resolveUpstreamMessageUrl lib stream.url (stripText ((decode raw).drop 5)) with
    | none => rfl
    | some target =>
      cases extractSessionId lib (stripText ((decode raw).drop 5)) with
      | none => rfl
      | some session =>
        cases localPathForEndpoint lib (stripText ((decode raw).drop 5)) with
        | none => rfl
        | some path =>
          refine ⟨session, ?_⟩
          simp only [decode_encode]
          cases session with
          | none => rfl
          | some id =>
            by_cases hid : id = []
            · simp only [register, if_pos hid, Proxy.tell]
            · simp only [register, if_neg hid, Proxy.tell]
  · have hother : endpointData stream (decode raw) = none := by
      rw [endpointData, Bool.eq_false_iff.mpr hevent, Bool.not_false, Bool.true_and, if_neg hdata]
    simp only [if_neg hdata, hother]
    exact ⟨_, rfl⟩

/-- A line the proxy rewrites. -/
theorem relayLine_rewrite (lib : UrlLib) (url : Text) {current : Option Text} {raw : Octets}
    (h : rewrites current (decode raw) = true) :
    ∃ value, decode raw = "data:".toList ++ value
      ∧ currentAfter current (decode raw) = none
      ∧ ((∃ path, Readable lib url value ∧ localPathForEndpoint lib (stripText value) = some path
          ∧ relayLine lib url current raw = some (encode ("data: ".toList ++ path), none))
        ∨ ¬ Readable lib url value ∧ relayLine lib url current raw = none) := by
  have h' := h
  rw [rewrites, Bool.and_eq_true, Bool.and_eq_true, Bool.not_eq_true'] at h'
  obtain ⟨hevent, hdata, hcurrent⟩ := h'
  obtain ⟨value, hvalue⟩ := begins_iff.mp hdata
  have hdrop : (decode raw).drop 5 = value := by
    rw [hvalue]
    rfl
  have hline : relayLine lib url current raw
      = match resolveUpstreamMessageUrl lib url (stripText value),
          extractSessionId lib (stripText value), localPathForEndpoint lib (stripText value) with
        | some _, some _, some path => some (encode ("data: ".toList ++ path), none)
        | _, _, _ => none := by
    rw [relayLine]
    simp only [hevent, hdata, hcurrent, hdrop, Bool.and_self, Bool.false_eq_true, if_false,
      if_true]
  refine ⟨value, hvalue, ?_, ?_⟩
  · rw [currentAfter, hevent, h]
    rfl
  by_cases hreadable : Readable lib url value
  · obtain ⟨target, session, path, htarget, hsession, hpath⟩ := helpers_readable hreadable
    rw [htarget, hsession, hpath] at hline
    exact .inl ⟨path, hreadable, hpath, hline⟩
  · right
    refine ⟨hreadable, hline.trans ?_⟩
    cases htarget : resolveUpstreamMessageUrl lib url (stripText value) with
    | none => rfl
    | some target =>
      cases hsession : extractSessionId lib (stripText value) with
      | none => rfl
      | some session => exact absurd (readable_of_helpers htarget hsession) hreadable

end Lines

/-! ## One block -/

section Blocks

variable {lib : UrlLib} {url : Text}

/-- What the client reads for a data value. -/
def Wrote (lib : UrlLib) (url : Text) (entry : Text × Bool) (got : Text) : Prop :=
  if entry.2 then
    Readable lib url entry.1 ∧ localPathForEndpoint lib (stripText entry.1) = some got
  else got = entry.1

theorem Wrote.oneLine {entry : Text × Bool} {got : Text} (h : Wrote lib url entry got)
    (hentry : OneLine entry.1) : OneLine got := by
  obtain ⟨value, rewritten⟩ := entry
  cases rewritten with
  | false => exact (show got = value from h) ▸ hentry
  | true =>
    refine localPath_of_oneLine h.2 ⟨fun hc => hentry.1 ?_, fun hc => hentry.2 ?_⟩
    · exact stripText_subset _ hc
    · exact stripText_subset _ hc

theorem wrote_oneLine
    (h : List.Forall₂ (Wrote lib url) entries got) (hone : ∀ entry ∈ entries, OneLine entry.1) :
    ∀ path ∈ got, OneLine path := by
  induction h with
  | nil => exact fun _ hpath => absurd hpath List.not_mem_nil
  | cons hwrote _ ih =>
    intro path hpath
    cases List.mem_cons.mp hpath with
    | inl hpath => exact hpath ▸ hwrote.oneLine (hone _ List.mem_cons_self)
    | inr hpath => exact ih (fun e he => hone e (List.mem_cons_of_mem _ he)) path hpath

/-- Every value is written as it is exactly when rewriting changes none of them. -/
theorem wrote_same_iff (h : List.Forall₂ (Wrote lib url) entries got) :
    got = entries.map (·.1) ↔ ∀ value, (value, true) ∈ entries →
      Readable lib url value ∧ localPathForEndpoint lib (stripText value) = some value := by
  induction h with
  | nil => exact ⟨fun _ _ hvalue => absurd hvalue List.not_mem_nil, fun _ => rfl⟩
  | @cons entry path entries got hwrote _ ih =>
    obtain ⟨value, rewritten⟩ := entry
    rw [List.map_cons, List.cons.injEq, ih]
    constructor
    · rintro ⟨hpath, hrest⟩ v hv
      cases List.mem_cons.mp hv with
      | inl hv =>
        obtain ⟨rfl, rfl⟩ := Prod.mk.inj hv
        rw [show path = v from hpath] at hwrote
        exact hwrote
      | inr hv => exact hrest v hv
    · intro hall
      refine ⟨?_, fun v hv => hall v (List.mem_cons_of_mem _ hv)⟩
      cases rewritten with
      | false => exact hwrote
      | true =>
        obtain ⟨-, hvalue⟩ := hall value List.mem_cons_self
        exact Option.some.inj (hwrote.2.symm.trans hvalue)

/-- The data the client reads is the local path of a URL exactly when it is one line, and
    that line is the path. -/
theorem localPath_joined_iff (h : List.Forall₂ (Wrote lib url) entries got) (hne : entries ≠ [])
    (hhttp : begins (joined (entries.map (·.1))) "http" = true) :
    localPathForEndpoint lib (joined (entries.map (·.1))) = some (joined got)
      ↔ ∃ value rewritten path, entries = [(value, rewritten)]
        ∧ localPathForEndpoint lib value = some path
        ∧ if rewritten then
            Readable lib url value ∧ localPathForEndpoint lib (stripText value) = some path
          else path = value := by
  constructor
  · intro hpath
    have hone := localPath_oneLine hpath hhttp
    cases h with
    | nil => exact absurd rfl hne
    | @cons entry path entries got hwrote hrest =>
      cases hrest with
      | cons _ _ =>
        rw [joined_cons_cons] at hone
        exact absurd (List.mem_append_right _ List.mem_cons_self) hone.1
      | nil =>
        obtain ⟨value, rewritten⟩ := entry
        exact ⟨value, rewritten, path, rfl, hpath, hwrote⟩
  · rintro ⟨value, rewritten, path, rfl, hpath, hrewritten⟩
    cases h with
    | @cons _ got _ _ hwrote hrest =>
      cases hrest
      refine hpath.trans (congrArg some ?_)
      cases rewritten with
      | false => exact Eq.trans hrewritten (Eq.symm hwrote)
      | true => exact Option.some.inj (hrewritten.2.symm.trans hwrote.2)

/-- The data of the client is the data of the event, or its local path, exactly when the
    block is clear. -/
theorem data_iff {scan : Scan}
    (h : List.Forall₂ (Wrote lib url) scan.data got) (hone : ∀ entry ∈ scan.data, OneLine entry.1)
    (hne : scan.data ≠ []) :
    (if scan.type = "endpoint".toList then
        localPathForEndpoint lib (joined (scan.data.map (·.1))) = some (joined got)
      else joined got = joined (scan.data.map (·.1))) ↔ scan.BlockClear lib url := by
  have hsame : joined got = joined (scan.data.map (·.1)) ↔ ∀ value, (value, true) ∈ scan.data →
      Readable lib url value ∧ localPathForEndpoint lib (stripText value) = some value := by
    rw [← wrote_same_iff h]
    refine ⟨fun hjoined => ?_, fun h => by rw [h]⟩
    refine joined_inj ?_ (fun a ha => (wrote_oneLine h hone a ha).1) ?_ hjoined
    · rw [List.length_map, h.length_eq]
    · intro b hb
      obtain ⟨entry, hentry, rfl⟩ := List.mem_map.mp hb
      exact (hone entry hentry).1
  rw [Scan.BlockClear]
  by_cases htype : scan.type = "endpoint".toList
  · rw [if_pos htype]
    cases hhttp : begins (joined (scan.data.map (·.1))) "http" with
    | false =>
      rw [localPath_relative hhttp, if_neg (fun h => nomatch h.2), ← hsame, Option.some.injEq]
      exact eq_comm
    | true =>
      rw [if_pos ⟨htype, rfl⟩]
      exact localPath_joined_iff h hne hhttp
  · rw [if_neg htype, if_neg (fun h => htype h.1), hsame]

end Blocks

/-! ## The two parses -/

section Parses

variable {lib : UrlLib} {url : Text} {scan : Scan} {sent got : Pending}

/-- What the upstream sent of a block, and what the client got of it. -/
structure Tracks (lib : UrlLib) (url : Text) (scan : Scan) (sent got : Pending) : Prop where
  sentType : sent.type = scan.type
  gotType : got.type = scan.type
  id : got.id = sent.id
  retry : got.retry = sent.retry
  values : sent.data = scan.data.map (·.1)
  wrote : List.Forall₂ (Wrote lib url) scan.data got.data
  oneLine : ∀ entry ∈ scan.data, OneLine entry.1

theorem Tracks.start (current : Option Text) :
    Tracks lib url ⟨current, [], []⟩ {} {} where
  sentType := rfl
  gotType := rfl
  id := rfl
  retry := rfl
  values := rfl
  wrote := .nil
  oneLine := fun _ h => absurd h List.not_mem_nil

/-- A blank line. -/
theorem Tracks.blank (h : Tracks lib url scan sent got) (line : Text) :
    Tracks lib url (scan.read line []) sent.cleared got.cleared where
  sentType := rfl
  gotType := rfl
  id := h.id
  retry := h.retry
  values := rfl
  wrote := .nil
  oneLine := fun _ h => absurd h List.not_mem_nil

theorem field_oneLine (h : OneLine line) : OneLine (field line).2 := by
  have hsub : (field line).2 ⊆ line := by
    intro c hc
    have hspace : ∀ value : Text, unspaced value ⊆ value := by
      intro value d hd
      rw [unspaced.eq_def] at hd
      split at hd
      · exact List.mem_cons_of_mem _ hd
      · exact hd
    exact (List.dropWhile_sublist _).subset (List.mem_of_mem_drop (hspace _ hc))
  exact ⟨fun hc => h.1 (hsub hc), fun hc => h.2 (hsub hc)⟩

/-- A line that is not blank is read as a field by both; where it is data, the client may get
    another value. -/
theorem Tracks.read {seen gotLine : Text} (h : Tracks lib url scan sent got)
    (hseen : seen ≠ []) (hone : OneLine seen) (hname : (field gotLine).1 = (field seen).1)
    (hother : (field seen).1 ≠ "data".toList → (field gotLine).2 = (field seen).2)
    (hdata : (field seen).1 = "data".toList →
      Wrote lib url ((field seen).2, rewrites scan.current line) (field gotLine).2) :
    Tracks lib url (scan.read line seen) (sent.read seen) (got.read gotLine) := by
  rw [Pending.read, Pending.read, hname]
  by_cases hisData : (field seen).1 = "data".toList
  · have hread : scan.read line seen = ⟨currentAfter scan.current line, scan.type,
        scan.data ++ [((field seen).2, rewrites scan.current line)]⟩ := by
      rw [Scan.read, if_neg hseen, if_neg hseen, if_pos hisData, hisData, if_neg (by decide)]
    rw [hread, hisData, set_data, set_data]
    exact {
      sentType := h.sentType
      gotType := h.gotType
      id := h.id
      retry := h.retry
      values := by
        show sent.data ++ [(field seen).2]
          = (scan.data ++ [((field seen).2, rewrites scan.current line)]).map (·.1)
        rw [h.values, List.map_append]
        rfl
      wrote := List.rel_append h.wrote (.cons (hdata hisData) .nil)
      oneLine := by
        intro entry hentry
        cases List.mem_append.mp hentry with
        | inl hentry => exact h.oneLine entry hentry
        | inr hentry =>
          rw [List.mem_singleton.mp hentry]
          exact field_oneLine hone }
  · rw [hother hisData]
    obtain ⟨hid, hretry⟩ := set_inForce h.id h.retry hisData (field seen).2
    by_cases hevent : (field seen).1 = "event".toList
    · have hread : scan.read line seen
          = ⟨currentAfter scan.current line, (field seen).2, scan.data⟩ := by
        rw [Scan.read, if_neg hseen, if_neg hseen, if_pos hevent, if_neg hisData]
      rw [hread, hevent, set_event, set_event]
      exact ⟨rfl, rfl, h.id, h.retry, h.values, h.wrote, h.oneLine⟩
    · have hread : scan.read line seen
          = ⟨currentAfter scan.current line, scan.type, scan.data⟩ := by
        rw [Scan.read, if_neg hseen, if_neg hseen, if_neg hevent, if_neg hisData]
      obtain ⟨hsentType, hsentData⟩ := set_other sent (field seen).2 hevent hisData
      obtain ⟨hgotType, hgotData⟩ := set_other got (field seen).2 hevent hisData
      rw [hread]
      exact {
        sentType := hsentType.trans h.sentType
        gotType := hgotType.trans h.gotType
        id := hid
        retry := hretry
        values := hsentData.trans h.values
        wrote := hgotData.symm ▸ h.wrote
        oneLine := h.oneLine }

/-- A line the proxy does not rewrite. -/
theorem Tracks.pass {seen : Text} (h : Tracks lib url scan sent got) (hseen : seen ≠ [])
    (hone : OneLine seen) (hrewrites : rewrites scan.current line = false) :
    Tracks lib url (scan.read line seen) (sent.read seen) (got.read seen) :=
  h.read hseen hone rfl (fun _ => rfl) (fun _ => by rw [hrewrites]; rfl)

/-- A line the proxy rewrites. -/
theorem Tracks.rewrite (h : Tracks lib url scan sent got) (hone : OneLine ("data:".toList ++ value))
    (hrewrites : rewrites scan.current ("data:".toList ++ value) = true)
    (hreadable : Readable lib url value)
    (hpath : localPathForEndpoint lib (stripText value) = some path) :
    Tracks lib url (scan.read ("data:".toList ++ value) ("data:".toList ++ value))
      (sent.read ("data:".toList ++ value)) (got.read ("data: ".toList ++ path)) := by
  refine h.read nofun hone rfl (fun h => absurd rfl h) (fun _ => ?_)
  rw [hrewrites, field_data]
  show Readable lib url (unspaced value) ∧ _
  rw [stripText_unspaced]
  exact ⟨by rw [Readable, stripText_unspaced]; exact hreadable, hpath⟩

theorem Tracks.dispatch_length (h : Tracks lib url scan sent got) :
    sent.dispatch.length = got.dispatch.length := by
  have hlength : sent.data = [] ↔ got.data = [] := by
    rw [← List.length_eq_zero_iff, ← List.length_eq_zero_iff, h.values, List.length_map,
      h.wrote.length_eq]
  rw [Pending.dispatch, Pending.dispatch]
  by_cases hempty : sent.data = []
  · rw [if_pos hempty, if_pos (hlength.mp hempty)]
  · rw [if_neg hempty, if_neg (mt hlength.mpr hempty)]
    rfl

/-- At a blank line the two events are related exactly when the block is clear. -/
theorem Tracks.dispatch_iff (h : Tracks lib url scan sent got) :
    List.Forall₂ (Relayed lib) sent.dispatch got.dispatch ↔ scan.BlockClear lib url := by
  have hlength : got.data = [] ↔ scan.data = [] := by
    rw [← List.length_eq_zero_iff, ← h.wrote.length_eq, List.length_eq_zero_iff]
  have hvalues : sent.data = [] ↔ scan.data = [] := by
    rw [h.values, List.map_eq_nil_iff]
  by_cases hne : scan.data = []
  · rw [Pending.dispatch, Pending.dispatch, if_pos (hvalues.mpr hne), if_pos (hlength.mpr hne),
      Scan.BlockClear, hne, if_neg (fun h => nomatch h.2)]
    exact ⟨fun _ value hvalue => absurd hvalue List.not_mem_nil, fun _ => .nil⟩
  · rw [Pending.dispatch, Pending.dispatch, if_neg (mt hvalues.mp hne),
      if_neg (mt hlength.mp hne), ← data_iff h.wrote h.oneLine hne, List.forall₂_cons, h.values,
      h.sentType, h.gotType]
    have htype : (if scan.type = [] then "message".toList else scan.type) = "endpoint".toList
        ↔ scan.type = "endpoint".toList := by
      by_cases hempty : scan.type = []
      · rw [hempty, if_pos rfl]
        exact ⟨fun h => absurd h (by decide), nofun⟩
      · rw [if_neg hempty]
    constructor
    · rintro ⟨hrelated, -⟩
      have hdata := hrelated.data
      simp only [htype] at hdata
      exact hdata
    · intro hdata
      refine ⟨⟨rfl, h.id, h.retry, ?_⟩, .nil⟩
      simp only [htype]
      exact hdata

/-- A block with data that meets an exception never ends clear. -/
theorem not_blockClear (hvalue : (value, true) ∈ scan.data)
    (hreadable : ¬ Readable lib url value) : ¬ scan.BlockClear lib url := by
  intro h
  rw [Scan.BlockClear] at h
  split at h
  · obtain ⟨v, rewritten, path, hdata, -, hrewritten⟩ := h
    rw [hdata] at hvalue
    obtain ⟨rfl, rfl⟩ := Prod.mk.inj (List.mem_singleton.mp hvalue)
    exact hreadable hrewritten.1
  · exact hreadable (h value hvalue).1

/-- A line that is not blank adds its value to the data, or leaves the data alone. -/
theorem read_values (hsent : sent.data = scan.data.map (·.1)) (hline : line ≠ []) :
    (sent.read line).data = (scan.read line line).data.map (·.1)
      ∧ scan.data ⊆ (scan.read line line).data := by
  rw [Pending.read, Scan.read]
  by_cases hdata : (field line).1 = "data".toList
  · rw [hdata, set_data, if_neg hline, if_neg hline, if_pos rfl, List.map_append]
    exact ⟨congrArg (· ++ [(field line).2]) hsent, List.subset_append_left _ _⟩
  · have hkept : (sent.set (field line).1 (field line).2).data = sent.data := by
      by_cases hevent : (field line).1 = "event".toList
      · rw [hevent, set_event]
      · exact (set_other _ _ hevent hdata).2
    rw [hkept, if_neg hline, if_neg hline, if_neg hdata]
    exact ⟨hsent, fun _ h => h⟩

/-- Behind an exception nothing is written; that is right exactly when no block ends. -/
theorem events_stopped (hreadable : ¬ Readable lib url value) :
    ∀ (lines : List Text) {scan : Scan} {sent : Pending}, sent.data = scan.data.map (·.1) →
      (value, true) ∈ scan.data → (events sent lines = [] ↔ ClearFrom lib url scan lines) := by
  intro lines
  induction lines with
  | nil => exact fun _ _ => ⟨fun _ => trivial, fun _ => rfl⟩
  | cons line lines ih =>
    intro scan sent hsent hvalue
    rw [events, ClearFrom]
    by_cases hline : line = []
    · have hne : sent.data ≠ [] := by
        rw [hsent]
        exact List.ne_nil_of_mem (List.mem_map_of_mem hvalue)
      rw [if_pos hline, Pending.dispatch, if_neg hne]
      exact ⟨nofun,
        fun h => absurd (h.1 hline) (not_blockClear hvalue hreadable)⟩
    · obtain ⟨hread, hsub⟩ := read_values hsent hline
      rw [if_neg hline, ih hread (hsub hvalue)]
      exact ⟨fun h => ⟨fun hblank => absurd hblank hline, h⟩, fun h => h.2⟩

/-- A blank line splits the comparison. -/
theorem forall₂_append_iff {α β : Type} {R : α → β → Prop} {as rest : List α} {bs rest' : List β}
    (hlength : as.length = bs.length) :
    List.Forall₂ R (as ++ rest) (bs ++ rest') ↔ List.Forall₂ R as bs ∧ List.Forall₂ R rest rest' := by
  constructor
  · intro h
    have htake := List.forall₂_take_append _ bs rest' h
    have hdrop := List.forall₂_drop_append _ bs rest' h
    rw [← hlength, List.take_left] at htake
    rw [← hlength, List.drop_left] at hdrop
    exact ⟨htake, hdrop⟩
  · exact fun ⟨h, hrest⟩ => List.rel_append h hrest

/-- The two parses, line by line. -/
theorem events_relayed : ∀ (raws : List Octets) {scan : Scan} {sent got : Pending},
    Tracks lib url scan sent got → (∀ raw ∈ raws, Unbroken raw) →
    (List.Forall₂ (Relayed lib) (events sent (raws.map decode))
        (events got ((relayed lib url scan.current raws).map decode))
      ↔ ClearFrom lib url scan (raws.map decode)) := by
  intro raws
  induction raws with
  | nil => exact fun _ _ => ⟨fun _ => trivial, fun _ => .nil⟩
  | cons raw raws ih =>
    intro scan sent got h hraws
    have hone : OneLine (decode raw) := decode_oneLine (hraws raw List.mem_cons_self)
    have hrest : ∀ r ∈ raws, Unbroken r := fun r hr => hraws r (List.mem_cons_of_mem _ hr)
    rw [List.map_cons, events, ClearFrom, relayed]
    cases hrewrites : rewrites scan.current (decode raw) with
    | false =>
      rw [relayLine_pass hrewrites]
      simp only [List.map_cons]
      rw [events]
      by_cases hline : decode raw = []
      · have hblank := ih (h.blank (decode raw)) hrest
        rw [if_pos hline, if_pos hline, forall₂_append_iff h.dispatch_length, h.dispatch_iff]
        rw [hline] at hblank ⊢
        exact ⟨fun h => ⟨fun _ => h.1, hblank.mp h.2⟩, fun h => ⟨h.1 rfl, hblank.mpr h.2⟩⟩
      · have hnext := ih (h.pass hline hone hrewrites) hrest
        rw [if_neg hline, if_neg hline]
        exact hnext.trans ⟨fun h => ⟨fun hblank => absurd hblank hline, h⟩, fun h => h.2⟩
    | true =>
      obtain ⟨value, hvalue, hcurrent, hwritten⟩ :=
        relayLine_rewrite lib url hrewrites
      have hline : decode raw ≠ [] := fun h => nomatch hvalue.symm.trans h
      have hfield : (field (decode raw)).1 = "data".toList
          ∧ (field (decode raw)).2 = unspaced value := by
        rw [hvalue]
        exact ⟨rfl, rfl⟩
      rw [if_neg hline]
      refine Iff.trans ?_ (show ClearFrom lib url (scan.read (decode raw) (decode raw)) _ ↔ _
        from ⟨fun h => ⟨fun hblank => absurd hblank hline, h⟩, fun h => h.2⟩)
      obtain ⟨path, hreadable, hpath, hout⟩ | ⟨hreadable, hout⟩ := hwritten
      · rw [hout]
        simp only [List.map_cons, decode_encode]
        rw [events, if_neg nofun]
        have htracks := h.rewrite (hvalue ▸ hone) (hvalue ▸ hrewrites) hreadable hpath
        rw [← hvalue] at htracks
        have hnext := ih htracks hrest
        rw [show (scan.read (decode raw) (decode raw)).current = none from hcurrent] at hnext
        exact hnext
      · rw [hout]
        show List.Forall₂ _ _ [] ↔ _
        rw [List.forall₂_nil_right_iff]
        have hreadable' : ¬ Readable lib url (unspaced value) := by
          rw [Readable, stripText_unspaced]
          exact hreadable
        have hentry : (unspaced value, true)
            ∈ (scan.read (decode raw) (decode raw)).data := by
          show _ ∈ if decode raw = [] then [] else if (field (decode raw)).1 = "data".toList then
            scan.data ++ [((field (decode raw)).2, rewrites scan.current (decode raw))]
            else scan.data
          rw [if_neg hline, if_pos hfield.1, hfield.2, hrewrites]
          exact List.mem_append_right _ List.mem_cons_self
        exact events_stopped hreadable' _ (read_values h.values hline).1 hentry

end Parses

/-! ## The stream -/

section Stream

variable {lib : UrlLib} {url : Text}

/-- What the proxy writes has no line breaks in its lines. -/
theorem relayed_unbroken {raws : List Octets} (h : ∀ raw ∈ raws, Unbroken raw) :
    ∀ current, ∀ out ∈ relayed lib url current raws, Unbroken out := by
  induction raws with
  | nil => exact fun _ _ hout => absurd hout List.not_mem_nil
  | cons raw raws ih =>
    intro current out hout
    have hraw := h raw List.mem_cons_self
    have hrest := ih (fun r hr => h r (List.mem_cons_of_mem _ hr))
    rw [relayed] at hout
    cases hrewrites : rewrites current (decode raw) with
    | false =>
      rw [relayLine_pass hrewrites] at hout
      cases List.mem_cons.mp hout with
      | inl hout => exact hout ▸ hraw
      | inr hout => exact hrest _ out hout
    | true =>
      obtain ⟨value, hvalue, -, ⟨path, -, hpath, hline⟩ | ⟨-, hline⟩⟩ :=
        relayLine_rewrite lib url hrewrites
      · rw [hline] at hout
        cases List.mem_cons.mp hout with
        | inl hout =>
          have hone : OneLine (decode raw) := decode_oneLine hraw
          have hstrip : OneLine (stripText value) := by
            have hsub : stripText value ⊆ decode raw := fun c hc =>
              hvalue ▸ List.mem_append_right _ (stripText_subset value hc)
            exact ⟨fun hc => hone.1 (hsub hc), fun hc => hone.2 (hsub hc)⟩
          obtain ⟨hlf, hcr⟩ := localPath_of_oneLine hpath hstrip
          rw [hout]
          refine encode_unbroken ⟨fun hc => ?_, fun hc => ?_⟩
          · exact (List.mem_append.mp hc).elim (by decide) hlf
          · exact (List.mem_append.mp hc).elim (by decide) hcr
        | inr hout => exact hrest _ out hout
      · rw [hline] at hout
        exact absurd hout List.not_mem_nil

theorem wire_unbroken (wire : List WireLine) : ∀ raw ∈ wire.map (·.content), Unbroken raw := by
  intro raw hraw
  obtain ⟨w, -, rfl⟩ := List.mem_map.mp hraw
  exact w.unbroken

/-- The client reads the lines that were written. -/
theorem parse_written {chunks : List Octets} (h : chunks.flatten = wireBytes wire) :
    parse (written lib url chunks)
      = events {} (unmarkFirst ((relayed lib url none (wire.map (·.content))).map decode)) := by
  have hlines : lines ((relayed lib url none (wire.map (·.content))).flatMap (ended false))
      = relayed lib url none (wire.map (·.content)) :=
    (lines_flatMap (fun _ => false) (relayed_unbroken (wire_unbroken wire) none)).trans (List.map_id' _)
  rw [parse, written, iterLines_wire h, hlines]

theorem parse_wire (wire : List WireLine) :
    parse (wireBytes wire) = events {} (unmarkFirst ((wire.map (·.content)).map decode)) := by
  have hlines : lines (wireBytes wire) = wire.map WireLine.content :=
    lines_flatMap WireLine.crlf (fun w _ => w.unbroken)
  rw [parse, hlines]

/-- The client reads the events of the stream exactly when every block ends clear. -/
theorem events_relayed_first (lib : UrlLib) (url : Text) (raws : List Octets) (h : ∀ raw ∈ raws, Unbroken raw) :
    List.Forall₂ (Relayed lib) (events {} (unmarkFirst (raws.map decode)))
        (events {} (unmarkFirst ((relayed lib url none raws).map decode)))
      ↔ Clear lib url (raws.map decode) := by
  cases raws with
  | nil => exact ⟨fun _ => trivial, fun _ => .nil⟩
  | cons raw raws =>
    have hone : OneLine (decode raw) := decode_oneLine (h raw List.mem_cons_self)
    have hrewrites : rewrites none (decode raw) = false := by
      rw [rewrites]
      simp
    have hrest : ∀ r ∈ raws, Unbroken r := fun r hr => h r (List.mem_cons_of_mem _ hr)
    rw [relayed, relayLine_pass hrewrites]
    show List.Forall₂ _ (events {} (unmarked (decode raw) :: raws.map decode))
      (events {} (unmarked (decode raw)
        :: (relayed lib url (currentAfter none (decode raw)) raws).map decode)) ↔ _
    have hstart : Tracks lib url {} {} {} := .start none
    rw [events, events, List.map_cons, Clear]
    by_cases hseen : unmarked (decode raw) = []
    · rw [if_pos hseen, if_pos hseen, hseen]
      exact events_relayed raws (hstart.blank (decode raw)) hrest
    · have hsub : unmarked (decode raw) ⊆ decode raw := by
        intro c hc
        cases hline : decode raw with
        | nil =>
          rw [hline] at hc
          exact hc
        | cons d text =>
          rw [hline, unmarked] at hc
          split at hc
          · exact List.mem_cons_of_mem _ hc
          · exact hc
      rw [if_neg hseen, if_neg hseen]
      exact events_relayed raws (hstart.pass hseen
        ⟨fun hc => hone.1 (hsub hc), fun hc => hone.2 (hsub hc)⟩ hrewrites) hrest

/-- What the client reads of the stream, in one chunk, decides. -/
theorem written_clear_iff (wire : List WireLine) :
    List.Forall₂ (Relayed lib) (parse (wireBytes wire))
        (parse (written lib url [wireBytes wire]))
      ↔ Clear lib url (wire.map fun w => decode w.content) := by
  have hfirst := events_relayed_first lib url _ (wire_unbroken wire)
  rw [List.map_map] at hfirst
  rw [parse_written List.flatten_singleton, parse_wire, List.map_map]
  exact hfirst

theorem clear_of_faithful (h : Faithful lib url wire) :
    Clear lib url (wire.map fun w => decode w.content) := by
  obtain ⟨out, hout, hrelated⟩ := h
  rw [← hout [wireBytes wire] List.flatten_singleton] at hrelated
  exact (written_clear_iff wire).mp hrelated

/-- The stream is relayed faithfully exactly when every block that ends, ends clear. -/
theorem relay_faithful_iff (lib : UrlLib) (url : Text) (wire : List WireLine) :
    Faithful lib url wire ↔ Clear lib url (wire.map fun w => decode w.content) := by
  refine ⟨clear_of_faithful, fun hclear => ?_⟩
  refine ⟨written lib url [wireBytes wire], fun chunks h => ?_, (written_clear_iff wire).mpr hclear⟩
  rw [written, written, iterLines_wire h, iterLines_wire List.flatten_singleton]

/-- A line of text that ends with LF. -/
def WireLine.ofText (text : Text) (h : OneLine text) : WireLine :=
  ⟨encode text, false, encode_unbroken h⟩

/-- An endpoint event whose data comes before its type. -/
def earlyData : List WireLine :=
  [.ofText "data: http://h/m".toList (by decide), .ofText "event: endpoint".toList (by decide),
    .ofText [] (by decide)]

/-- Its data is not rewritten. -/
theorem early_data_not_rewritten : ¬ Faithful plainLib exampleUpstream earlyData := by
  intro h
  have hclear := clear_of_faithful h
  simp only [earlyData, List.map_cons, List.map_nil, WireLine.ofText, decode_encode] at hclear
  obtain ⟨-, hblock, -⟩ := hclear
  have hblock := hblock rfl
  rw [Scan.BlockClear, if_pos (by decide)] at hblock
  obtain ⟨value, rewritten, path, hdata, hpath, hrest⟩ := hblock
  obtain ⟨hvalue, hrewritten⟩ := Prod.mk.inj (List.cons.inj hdata).1
  rw [← hrewritten] at hrest
  rw [show path = value from hrest, ← hvalue] at hpath
  exact absurd hpath (by decide)

end Stream

end KeyholeProxy
