import Keyhole.JsonDocument
import Keyhole.LastWrite

/-!
# The records of local runs

`LocalRunRecordStore` keeps one file per record.  The name of the file is the run id of the
record, or its request id, or its correlation id, with every character that is not plain replaced
and cut to 128 characters; `load` looks for the file of an identifier, and walks through the
directory where there is none.

* `saveRecord`, `load`, `Step`: the store and its calls;
* `MapLike`: every identifier finds the record that was saved last under it;
* `Fits`: the saves that keep the store so;
* `mapLike_of_run`: every run of such calls does;
* `loaded_of_history`: what every run whatever leaves to be loaded. -/

namespace KeyholeRunRecords

open KeyholeJson LastWrite

/-! ## Records -/

/-- `RunRecord`. -/
structure RunRecord where
  requestId : String := ""
  runId : String := ""
  command : String := "keyhole run"
  mode : String := "regular"
  runType : String := ""
  ctxpackDigest : String := ""
  submittedAt : String := ""
  lastKnownStatus : String := "accepted"
  proofPath : String := ""
  repoName : String := ""
  repoPath : String := ""
  correlationId : String := ""
  deriving DecidableEq, Repr

/-- `to_dict`. -/
def RunRecord.toDict (r : RunRecord) : Dict :=
  [("request_id", .str r.requestId), ("run_id", .str r.runId), ("command", .str r.command),
    ("mode", .str r.mode), ("run_type", .str r.runType),
    ("ctxpack_digest", .str r.ctxpackDigest), ("submitted_at", .str r.submittedAt),
    ("last_known_status", .str r.lastKnownStatus), ("proof_path", .str r.proofPath),
    ("repo_name", .str r.repoName), ("repo_path", .str r.repoPath),
    ("correlation_id", .str r.correlationId)]

/-- A field as the store writes it: a string. -/
def textField : Json → Option String
  | .str s => some s
  | _ => none

/-- `from_dict` of what `_parse_file` found in a file. -/
def parseFile : Json → Option RunRecord
  | .obj data => do
      let requestId ← textField (Dict.getOr data "request_id" (.str ""))
      let runId ← textField (Dict.getOr data "run_id" (.str ""))
      let command ← textField (Dict.getOr data "command" (.str "keyhole run"))
      let mode ← textField (Dict.getOr data "mode" (.str "regular"))
      let runType ← textField (Dict.getOr data "run_type" (.str ""))
      let ctxpackDigest ← textField (Dict.getOr data "ctxpack_digest" (.str ""))
      let submittedAt ← textField (Dict.getOr data "submitted_at" (.str ""))
      let lastKnownStatus ← textField (Dict.getOr data "last_known_status" (.str "accepted"))
      let proofPath ← textField (Dict.getOr data "proof_path" (.str ""))
      let repoName ← textField (Dict.getOr data "repo_name" (.str ""))
      let repoPath ← textField (Dict.getOr data "repo_path" (.str ""))
      let correlationId ← textField (Dict.getOr data "correlation_id" (.str ""))
      return {
        requestId, runId, command, mode, runType, ctxpackDigest, submittedAt, lastKnownStatus,
        proofPath, repoName, repoPath, correlationId }
  | _ => none

/-- `record.run_id or record.request_id or record.correlation_id`. -/
def RunRecord.primary (r : RunRecord) : String :=
  if r.runId ≠ "" then r.runId else if r.requestId ≠ "" then r.requestId else r.correlationId

/-- The record bears the identifier. -/
def RunRecord.bears (r : RunRecord) (k : String) : Bool :=
  r.runId == k || r.requestId == k || r.correlationId == k

/-- A record, and the time it was saved at. -/
structure Saved where
  record : RunRecord
  updatedAt : String

/-- What is written to the file. -/
def document (a : Saved) : Json := .obj (a.record.toDict ++ [("updated_at", .str a.updatedAt)])

/-! ## The directory -/

section Store

-- `str.isalnum` of one character
variable (isAlnum : Char → Bool)

/-- One character of a file name. -/
def safeChar (c : Char) : Char := if isAlnum c || ['-', '_', '.'].contains c then c else '_'

/-- `_safe_filename`. -/
def safeFilename (key : String) : String :=
  String.ofList ((key.toList.map (safeChar isAlnum)).take 128)

/-- The name of the file for an identifier. -/
def fileName (key : String) : String := safeFilename isAlnum key ++ ".json"

/-- The directory by name, and every record that was saved, in order. -/
structure Store where
  files : List (String × Json)
  saved : List Saved

/-- Before the first call. -/
def Store.empty : Store := ⟨[], []⟩

/-- `save`, with the exception of a record without an identifier. -/
def saveRecord (s : Store) (r : RunRecord) (now : String) : Except String Store :=
  if r.primary = "" then
    .error "RunRecord must have run_id, request_id, or correlation_id"
  else
    .ok ⟨assign s.files (fileName isAlnum r.primary) (document ⟨r, now⟩), s.saved ++ [⟨r, now⟩]⟩

/-- `_scan_for`, with the directory in the order `glob` lists it. -/
def scanFor (listing : List (String × Json)) (k : String) : Option RunRecord :=
  (listing.filterMap fun file => parseFile file.2).find? fun r => r.bears k

/-- `load`. -/
def load (s : Store) (listing : List (String × Json)) (k : String) : Option RunRecord :=
  match s.files.lookup (fileName isAlnum k) with
  | some content => parseFile content
  | none => scanFor listing k

/-- A call of the store. -/
inductive Call where
  | save (record : RunRecord)
  | updateStatus (k status : String)

/-- What a call may lead to; `glob` lists the directory in any order. -/
inductive Step : Store → Call → Store → Prop
  | saved {s s' : Store} {r : RunRecord} {now : String}
      (h : saveRecord isAlnum s r now = .ok s') : Step s (.save r) s'
  | refused {s : Store} {r : RunRecord} (h : r.primary = "") : Step s (.save r) s
  | updated {s s' : Store} {listing : List (String × Json)} {k status : String} {r : RunRecord}
      {now : String} (hlisting : listing.Perm s.files) (hload : load isAlnum s listing k = some r)
      (h : saveRecord isAlnum s { r with lastKnownStatus := status } now = .ok s') :
      Step s (.updateStatus k status) s'
  | unnamed {s : Store} {listing : List (String × Json)} {k status : String} {r : RunRecord}
      (hlisting : listing.Perm s.files) (hload : load isAlnum s listing k = some r)
      (h : r.primary = "") : Step s (.updateStatus k status) s
  | unknown {s : Store} {listing : List (String × Json)} {k status : String}
      (hlisting : listing.Perm s.files) (hload : load isAlnum s listing k = none) :
      Step s (.updateStatus k status) s

/-! ## The promise -/

/-- The record that was saved last under an identifier. -/
def lastBearing (saved : List Saved) (k : String) : Option Saved :=
  saved.reverse.find? fun a => a.record.bears k

/-- The store is a map from identifiers to the records saved last. -/
structure MapLike (s : Store) : Prop where
  /-- an identifier finds the record saved last under it, and nothing else -/
  found : ∀ k, k ≠ "" → ∀ listing : List (String × Json), listing.Perm s.files →
    load isAlnum s listing k = (lastBearing s.saved k).map Saved.record
  /-- no record is overwritten by one with another primary identifier -/
  kept : ∀ a, Latest (fun b : Saved => b.record.primary) s.saved a →
    (fileName isAlnum a.record.primary, document a) ∈ s.files

/-! ## The saves that keep it -/

/-- A name no other identifier is flattened or cut to. -/
structure PlainName (key : String) : Prop where
  plain : ∀ c ∈ key.toList, safeChar isAlnum c = c ∧ c ≠ '_'
  short : key.toList.length < 128

/-- A save after which every identifier still finds its record. -/
structure Fits (saved : List Saved) (r : RunRecord) : Prop where
  name : PlainName isAlnum r.primary
  /-- under its other identifiers no record of another name was saved -/
  alone : ∀ k, k ≠ "" → r.bears k = true → k ≠ r.primary →
    ∀ old ∈ saved, old.record.bears k = true → old.record.primary = r.primary
  /-- it keeps the identifiers of the records it replaces -/
  keeps : ∀ old ∈ saved, old.record.primary = r.primary →
    ∀ k, k ≠ "" → old.record.bears k = true → r.bears k = true

/-- Every record a call saves fits. -/
def Keeps (s : Store) : Call → Prop
  | .save r => r.primary ≠ "" → Fits isAlnum s.saved r
  | .updateStatus k status => ∀ listing r, listing.Perm s.files →
      load isAlnum s listing k = some r →
        Fits isAlnum s.saved { r with lastKnownStatus := status }

/-- A run of calls whose saves all fit. -/
inductive Run : Store → Prop
  | start : Run Store.empty
  | call {s s' : Store} {c : Call} (hs : Run s) (hc : Keeps isAlnum s c)
      (h : Step isAlnum s c s') : Run s'

end Store

/-! ## Names and documents -/

theorem parseFile_document (a : Saved) : parseFile (document a) = some a.record := rfl

theorem bears_iff (r : RunRecord) (k : String) :
    r.bears k = true ↔ r.runId = k ∨ r.requestId = k ∨ r.correlationId = k := by
  rw [RunRecord.bears, Bool.or_eq_true, Bool.or_eq_true, beq_iff_eq, beq_iff_eq, beq_iff_eq,
    or_assoc]

theorem bears_primary (r : RunRecord) : r.bears r.primary = true := by
  rw [bears_iff, RunRecord.primary]
  by_cases hrun : r.runId ≠ ""
  · rw [if_pos hrun]
    exact .inl rfl
  · rw [if_neg hrun]
    by_cases hrequest : r.requestId ≠ ""
    · rw [if_pos hrequest]
      exact .inr (.inl rfl)
    · rw [if_neg hrequest]
      exact .inr (.inr rfl)

variable {k : String} {saved : List Saved} {isAlnum : Char → Bool}

section Names

variable {isAlnum : Char → Bool}

/-- Replacing characters without an underscore to show for it changes none. -/
theorem of_map_safeChar {key plain : List Char} (h : ∀ c ∈ plain, c ≠ '_')
    (hmap : key.map (safeChar isAlnum) = plain) : key = plain := by
  induction key generalizing plain with
  | nil => exact hmap
  | cons c key ih =>
    subst hmap
    have hc : safeChar isAlnum c ≠ '_' := h _ List.mem_cons_self
    have hsame : safeChar isAlnum c = c := by
      rw [safeChar] at hc ⊢
      split
      · rfl
      · rename_i hbad
        rw [if_neg hbad] at hc
        exact absurd rfl hc
    have hrest := ih (fun d hd => h d (List.mem_cons_of_mem _ hd)) rfl
    rw [List.map_cons, hsame, ← hrest]

theorem PlainName.map_eq {p : String} (h : PlainName isAlnum p) :
    p.toList.map (safeChar isAlnum) = p.toList := by
  conv => rhs; rw [← List.map_id p.toList]
  exact List.map_congr_left fun c hc => (h.plain c hc).1

/-- No other identifier has the file of a plain name. -/
theorem PlainName.unique {p : String} (h : PlainName isAlnum p)
    (heq : fileName isAlnum k = fileName isAlnum p) : k = p := by
  rw [fileName, fileName, ← String.toList_inj, String.toList_append, String.toList_append] at heq
  have hcut := List.append_cancel_right heq
  rw [safeFilename, safeFilename, String.toList_ofList, String.toList_ofList, h.map_eq,
    List.take_of_length_le (Nat.le_of_lt h.short)] at hcut
  -- a text that was cut would be longer
  have hlength : (k.toList.map (safeChar isAlnum)).length ≤ 128 := by
    by_contra hlong
    have hcount := congrArg List.length hcut
    rw [List.length_take, Nat.min_eq_left (Nat.le_of_not_le hlong)] at hcount
    have hshort := h.short
    omega
  rw [List.take_of_length_le hlength] at hcut
  exact String.toList_inj.mp (of_map_safeChar (fun c hc => (h.plain c hc).2) hcut)

end Names

/-! ## The latest records -/

theorem lastBearing_append (saved : List Saved) (a : Saved) (k : String) :
    lastBearing (saved ++ [a]) k =
      if a.record.bears k = true then some a else lastBearing saved k := by
  rw [lastBearing, List.reverse_append]
  by_cases h : a.record.bears k = true
  · rw [if_pos h]
    exact List.find?_cons_of_pos h
  · rw [if_neg h]
    exact List.find?_cons_of_neg h

theorem lastBearing_split {a : Saved} (h : lastBearing saved k = some a) : a.record.bears k = true ∧
      ∃ before after, saved = before ++ a :: after ∧
        ∀ b ∈ after, ¬ b.record.bears k = true := by
  rw [lastBearing, List.find?_eq_some_iff_append] at h
  obtain ⟨hbears, front, back, hsplit, hnone⟩ := h
  refine ⟨hbears, back.reverse, front.reverse, ?_, fun b hb => ?_⟩
  · have hrev := congrArg List.reverse hsplit
    rw [List.reverse_reverse] at hrev
    rw [hrev]
    simp
  · have hb' := hnone b (List.mem_reverse.mp hb)
    exact fun hbears => by rw [hbears] at hb'; exact nomatch hb'

theorem lastBearing_none (h : lastBearing saved k = none) :
    ∀ b ∈ saved, ¬ b.record.bears k = true :=
  fun b hb => List.find?_eq_none.mp h b (List.mem_reverse.mpr hb)

theorem lastBearing_of_mem {b : Saved} (hb : b ∈ saved)
    (hbears : b.record.bears k = true) : ∃ a, lastBearing saved k = some a := by
  cases h : lastBearing saved k with
  | none => exact absurd hbears (lastBearing_none h b hb)
  | some a => exact ⟨a, rfl⟩

theorem latest_of_after {κ : Type} {key : Saved → κ} {before after : List Saved} {l : Saved}
    (h : Latest key after l) : Latest key (before ++ after) l := by
  obtain ⟨front, back, rfl, hback⟩ := h
  exact ⟨before ++ front, back, (List.append_assoc _ _ _).symm, hback⟩

/-! ## The invariant -/

/-- The primary identifier of a saved record. -/
abbrev name (a : Saved) : String := a.record.primary

/-- What fitting saves keep true of the records saved so far. -/
structure Sound (isAlnum : Char → Bool) (saved : List Saved) : Prop where
  plain : ∀ a ∈ saved, PlainName isAlnum (name a)
  /-- the last record under an identifier that is a name has that name -/
  newest : ∀ k, k ≠ "" → (∃ b ∈ saved, name b = k) →
    ∀ a, lastBearing saved k = some a → name a = k
  /-- the records under any other identifier have one name -/
  shared : ∀ k, k ≠ "" → (∀ b ∈ saved, name b ≠ k) →
    ∀ a ∈ saved, ∀ b ∈ saved, a.record.bears k = true → b.record.bears k = true →
      name a = name b
  /-- the last record of a name bears what the earlier ones do -/
  gathers : ∀ l, Latest name saved l → ∀ a ∈ saved, name a = name l →
    ∀ k, k ≠ "" → a.record.bears k = true → l.record.bears k = true

theorem sound_nil (isAlnum : Char → Bool) : Sound isAlnum [] where
  plain := nofun
  newest := fun _ _ h => by
    obtain ⟨b, hb, -⟩ := h
    exact nomatch hb
  shared := nofun
  gathers := nofun

/-- A save that fits keeps the invariant. -/
theorem Sound.save (h : Sound isAlnum saved)
    {r : RunRecord} (hr : Fits isAlnum saved r) (now : String) :
    Sound isAlnum (saved ++ [⟨r, now⟩]) where
  plain a ha := by
    rcases List.mem_append.mp ha with ha | ha
    · exact h.plain a ha
    · rw [List.mem_singleton.mp ha]
      exact hr.name
  newest k hk hname a ha := by
    rw [lastBearing_append] at ha
    by_cases hbears : r.bears k = true
    · rw [if_pos hbears] at ha
      obtain rfl := Option.some.inj ha
      by_contra hne
      obtain ⟨b, hb, hbk⟩ := hname
      rcases List.mem_append.mp hb with hb | hb
      · -- a second identifier of the record would be the name of another
        have hbk' : b.record.bears k = true := hbk ▸ bears_primary b.record
        have hsame := hr.alone k hk hbears (fun heq => hne heq.symm) b hb hbk'
        exact hne (hsame.symm.trans hbk)
      · rw [List.mem_singleton.mp hb] at hbk
        exact hne hbk
    · rw [if_neg hbears] at ha
      obtain ⟨b, hb, hbk⟩ := hname
      rcases List.mem_append.mp hb with hb | hb
      · exact h.newest k hk ⟨b, hb, hbk⟩ a ha
      · rw [List.mem_singleton.mp hb] at hbk
        exact absurd (hbk ▸ bears_primary r) hbears
  shared k hk hname a ha b hb hak hbk := by
    have hold : ∀ c ∈ saved, name c ≠ k := fun c hc => hname c (List.mem_append_left _ hc)
    have hnew : k ≠ r.primary := fun heq =>
      hname ⟨r, now⟩ (List.mem_append_right _ (List.mem_singleton_self _)) heq.symm
    rcases List.mem_append.mp ha with ha | ha
    · rcases List.mem_append.mp hb with hb | hb
      · exact h.shared k hk hold a ha b hb hak hbk
      · rw [List.mem_singleton.mp hb] at hbk ⊢
        exact hr.alone k hk hbk hnew a ha hak
    · rw [List.mem_singleton.mp ha] at hak ⊢
      rcases List.mem_append.mp hb with hb | hb
      · exact (hr.alone k hk hak hnew b hb hbk).symm
      · rw [List.mem_singleton.mp hb]
  gathers l hl a ha hname k hk hak := by
    rcases latest_append_iff.mp hl with rfl | ⟨hne, hl⟩
    · rcases List.mem_append.mp ha with ha | ha
      · exact hr.keeps a ha hname k hk hak
      · rw [List.mem_singleton.mp ha] at hak
        exact hak
    · rcases List.mem_append.mp ha with ha | ha
      · exact h.gathers l hl a ha hname k hk hak
      · rw [List.mem_singleton.mp ha] at hname
        exact absurd hname hne

/-- The last record under an identifier is the last one of its name. -/
theorem Sound.latest (h : Sound isAlnum saved)
    (hk : k ≠ "") {a : Saved} (ha : lastBearing saved k = some a) :
    Latest name saved a := by
  obtain ⟨hbears, before, after, rfl, hafter⟩ := lastBearing_split ha
  refine ⟨before, after, rfl, fun b hb hname => ?_⟩
  -- the last of that name after it would bear the identifier too
  obtain ⟨l, hl, hlb⟩ := exists_latest name hb
  have hfront : Latest name ([a] ++ after) l := latest_of_after hl
  have hwhole : Latest name (before ++ a :: after) l := latest_of_after hfront
  refine hafter l hl.mem (h.gathers l hwhole a ?_ (hname.symm.trans hlb.symm) k hk hbears)
  exact List.mem_append_right _ List.mem_cons_self

/-! ## What is found -/

section Found

variable {isAlnum : Char → Bool} {saved : List Saved} {k : String}

/-- The directory after these saves. -/
def directory (isAlnum : Char → Bool) (saved : List Saved) : List (String × Json) :=
  fill (fun a => fileName isAlnum (name a)) document saved

/-- It holds the last record of every name. -/
theorem Sound.mem_directory (h : Sound isAlnum saved) (file : String × Json) :
    file ∈ directory isAlnum saved ↔
      ∃ a, Latest name saved a ∧ file = (fileName isAlnum (name a), document a) := by
  have hagree : ∀ a, Latest (fun a => fileName isAlnum (name a)) saved a ↔ Latest name saved a :=
    (latest_agree_iff saved fun a b heq => congrArg (fileName isAlnum) heq).mpr
      fun a ha b hb heq => (h.plain b hb).unique heq
  rw [directory, mem_fill]
  constructor
  · rintro ⟨a, ha, rfl⟩
    exact ⟨a, (hagree a).mp ha, rfl⟩
  · rintro ⟨a, ha, rfl⟩
    exact ⟨a, (hagree a).mpr ha, rfl⟩

/-- An identifier that is a name finds its file. -/
theorem Sound.load_name (h : Sound isAlnum saved) (hk : k ≠ "") (hname : ∃ b ∈ saved, name b = k)
    (listing : List (String × Json)) :
    load isAlnum ⟨directory isAlnum saved, saved⟩ listing k
      = (lastBearing saved k).map Saved.record := by
  obtain ⟨b, hb, hbk⟩ := hname
  have hbears : b.record.bears k = true := by
    rw [← hbk]
    exact bears_primary b.record
  obtain ⟨a, ha⟩ := lastBearing_of_mem hb hbears
  have hak : name a = k := h.newest k hk ⟨b, hb, hbk⟩ a ha
  have hfile : (fileName isAlnum k, document a) ∈ directory isAlnum saved :=
    (h.mem_directory _).mpr ⟨a, h.latest hk ha, by rw [hak]⟩
  have hlookup : (directory isAlnum saved).lookup (fileName isAlnum k) = some (document a) :=
    lookup_of_mem (nodup_keys_fill _ _ _) hfile
  rw [load, hlookup, ha]
  exact parseFile_document a

/-- The records the directory is scanned for, in whatever order it is listed. -/
theorem Sound.mem_scanned (h : Sound isAlnum saved) {listing : List (String × Json)}
    (hlisting : listing.Perm (directory isAlnum saved)) (r : RunRecord) :
    r ∈ listing.filterMap (fun file => parseFile file.2) ↔
      ∃ a, Latest name saved a ∧ r = a.record := by
  rw [List.mem_filterMap]
  constructor
  · rintro ⟨file, hfile, hr⟩
    obtain ⟨a, ha, rfl⟩ := (h.mem_directory file).mp (hlisting.mem_iff.mp hfile)
    exact ⟨a, ha, (Option.some.inj ((parseFile_document a).symm.trans hr)).symm⟩
  · rintro ⟨a, ha, rfl⟩
    exact ⟨_, hlisting.mem_iff.mpr ((h.mem_directory _).mpr ⟨a, ha, rfl⟩), parseFile_document a⟩

/-- Any other identifier finds the one record that bears it. -/
theorem Sound.load_other (h : Sound isAlnum saved) (hk : k ≠ "") (hname : ∀ b ∈ saved, name b ≠ k)
    {listing : List (String × Json)} (hlisting : listing.Perm (directory isAlnum saved)) :
    load isAlnum ⟨directory isAlnum saved, saved⟩ listing k
      = (lastBearing saved k).map Saved.record := by
  have hnofile : (directory isAlnum saved).lookup (fileName isAlnum k) = none := by
    rw [List.lookup_eq_none_iff]
    intro file hfile
    obtain ⟨a, ha, rfl⟩ := (h.mem_directory file).mp hfile
    refine bne_iff_ne.mpr fun heq => hname a ha.mem ?_
    exact ((h.plain a ha.mem).unique heq).symm
  rw [load, hnofile]
  show scanFor listing k = _
  cases hlast : lastBearing saved k with
  | none =>
    refine List.find?_eq_none.mpr fun r hr hbears => ?_
    obtain ⟨a, ha, rfl⟩ := (h.mem_scanned hlisting r).mp hr
    exact lastBearing_none hlast a ha.mem hbears
  | some a =>
    have hak := (lastBearing_split hlast).1
    have ha : Latest name saved a := h.latest hk hlast
    have hscanned := (h.mem_scanned hlisting a.record).mpr ⟨a, ha, rfl⟩
    cases hfind : scanFor listing k with
    | none => exact absurd hak (List.find?_eq_none.mp hfind _ hscanned)
    | some r =>
      obtain ⟨b, hb, rfl⟩ := (h.mem_scanned hlisting r).mp (List.mem_of_find?_eq_some hfind)
      rw [scanFor] at hfind
      have hbk := List.find?_some hfind
      have hsame : b = a := hb.unique ha (h.shared k hk hname b hb.mem a ha.mem hbk hak)
      rw [hsame]
      rfl

theorem Sound.mapLike (h : Sound isAlnum saved) :
    MapLike isAlnum ⟨directory isAlnum saved, saved⟩ where
  found k hk listing hlisting := by
    by_cases hname : ∃ b ∈ saved, name b = k
    · exact h.load_name hk hname listing
    · exact h.load_other hk (fun b hb heq => hname ⟨b, hb, heq⟩) hlisting
  kept a ha := (h.mem_directory _).mpr ⟨a, ha, rfl⟩

end Found

/-! ## Every run -/

/-- What a run of fitting saves leaves: sound records, and the directory of them. -/
theorem sound_of_run {s : Store} (h : Run isAlnum s) :
    Sound isAlnum s.saved ∧ s.files = directory isAlnum s.saved := by
  -- the one thing a call does is to save a record that fits
  have hsave : ∀ {s s' : Store} {r : RunRecord} {now : String},
      Sound isAlnum s.saved ∧ s.files = directory isAlnum s.saved →
        (r.primary ≠ "" → Fits isAlnum s.saved r) → saveRecord isAlnum s r now = .ok s' →
          Sound isAlnum s'.saved ∧ s'.files = directory isAlnum s'.saved := by
    intro s s' r now hs hfits hsaved
    rw [saveRecord] at hsaved
    by_cases hname : r.primary = ""
    · rw [if_pos hname] at hsaved
      exact nomatch hsaved
    · rw [if_neg hname] at hsaved
      rw [← Except.ok.inj hsaved]
      refine ⟨hs.1.save (hfits hname) now, ?_⟩
      show assign s.files _ _ = _
      rw [hs.2, directory, directory, fill_append]
  induction h with
  | start => exact ⟨sound_nil isAlnum, rfl⟩
  | call hs hc hstep ih =>
    cases hstep with
    | saved hsaved => exact hsave ih hc hsaved
    | refused _ => exact ih
    | updated hlisting hload hsaved =>
      exact hsave ih (fun _ => hc _ _ hlisting hload) hsaved
    | unnamed _ _ _ => exact ih
    | unknown _ _ => exact ih

/-- In every run whose saves fit, the store is a map from identifiers to the records saved
    last. -/
theorem mapLike_of_run {isAlnum : Char → Bool} {s : Store} (h : Run isAlnum s) :
    MapLike isAlnum s := by
  obtain ⟨hsound, hfiles⟩ := sound_of_run h
  obtain ⟨files, saved⟩ := s
  obtain rfl : files = directory isAlnum saved := hfiles
  exact hsound.mapLike

/-- A name of plain characters, checked one after the other. -/
theorem plainName_of_all {key : String}
    (h : key.toList.all (fun c => safeChar Char.isAlphanum c == c && c != '_') = true)
    (hshort : key.toList.length < 128) : PlainName Char.isAlphanum key := by
  refine ⟨fun c hc => ?_, hshort⟩
  have hboth := List.all_eq_true.mp h c hc
  rw [Bool.and_eq_true, beq_iff_eq, bne_iff_ne] at hboth
  exact hboth

/-- A run, and another one. -/
def firstRun : RunRecord := { runId := "run-1", correlationId := "corr-1" }

def secondRun : RunRecord := { runId := "run-2" }

/-- Saved one after the other, each is found. -/
theorem two_runs_mapLike : MapLike Char.isAlphanum
    ⟨[("run-1.json", document ⟨firstRun, "t1"⟩), ("run-2.json", document ⟨secondRun, "t2"⟩)],
      [⟨firstRun, "t1"⟩, ⟨secondRun, "t2"⟩]⟩ := by
  have hfirst : saveRecord Char.isAlphanum .empty firstRun "t1" = .ok _ := rfl
  have hsecond : saveRecord Char.isAlphanum
      ⟨[("run-1.json", document ⟨firstRun, "t1"⟩)], [⟨firstRun, "t1"⟩]⟩ secondRun "t2" = .ok _ := rfl
  refine mapLike_of_run (.call (.call .start ?_ (.saved hfirst)) ?_ (.saved hsecond))
  · exact fun _ => ⟨plainName_of_all (by decide) (by decide), (fun _ _ _ _ _ h => nomatch h),
      fun _ h => nomatch h⟩
  · intro _
    refine ⟨plainName_of_all (by decide) (by decide), fun k hk hbears hname => ?_,
      fun old hold hname => ?_⟩
    · rcases (bears_iff _ _).mp hbears with heq | heq | heq
      · exact absurd heq.symm hname
      · exact absurd heq.symm hk
      · exact absurd heq.symm hk
    · rw [List.mem_singleton.mp hold] at hname
      exact absurd hname (by decide)

/-- A run as it was submitted, and with the id the server gave it. -/
def submitted : RunRecord := { requestId := "req-1" }

def accepted : RunRecord := { requestId := "req-1", runId := "run-1", lastKnownStatus := "running" }

/-- Under its request id the run is found as it was submitted. -/
theorem request_id_stale : ∃ s s', Step Char.isAlphanum .empty (.save submitted) s ∧
    Step Char.isAlphanum s (.save accepted) s' ∧ ¬ MapLike Char.isAlphanum s' := by
  have hsubmitted : saveRecord Char.isAlphanum .empty submitted "t1" = .ok _ := rfl
  have haccepted : saveRecord Char.isAlphanum
      ⟨[("req-1.json", document ⟨submitted, "t1"⟩)], [⟨submitted, "t1"⟩]⟩ accepted "t2" = .ok _ := rfl
  refine ⟨_, _, .saved hsubmitted, .saved haccepted, fun h => ?_⟩
  have hfound := h.found "req-1" (by decide) _ (List.Perm.refl _)
  have hstale : submitted = accepted := Option.some.inj hfound
  exact absurd hstale (by decide)

/-! ## Any run -/

section History

variable {isAlnum : Char → Bool} {s s' : Store} {listing : List (String × Json)}

/-- A run of any calls. -/
inductive History (isAlnum : Char → Bool) : Store → Prop
  | start : History isAlnum .empty
  | call {s s' : Store} {c : Call} (hs : History isAlnum s) (h : Step isAlnum s c s') :
      History isAlnum s'

/-- Every file holds a record saved under its name, and every record saved has a file. -/
structure Filed (isAlnum : Char → Bool) (s : Store) : Prop where
  holds : ∀ file ∈ s.files, ∃ a ∈ s.saved, file = (fileName isAlnum (name a), document a)
  kept : ∀ a ∈ s.saved, fileName isAlnum (name a) ∈ s.files.map (·.1)

theorem mem_of_mem_assign {m : List (String × Json)} {k : String} {v : Json} {file : String × Json}
    (h : file ∈ assign m k v) : file = (k, v) ∨ file ∈ m := by
  induction m with
  | nil => exact .inl (List.mem_singleton.mp h)
  | cons first rest ih =>
    rw [assign] at h
    split at h
    · exact (List.mem_cons.mp h).imp_right (List.mem_cons_of_mem _)
    · rcases List.mem_cons.mp h with rfl | hrest
      · exact .inr List.mem_cons_self
      · exact (ih hrest).imp_right (List.mem_cons_of_mem _)

theorem Filed.save (h : Filed isAlnum s) {r : RunRecord} {now : String}
    (hsaved : saveRecord isAlnum s r now = .ok s') : Filed isAlnum s' := by
  rw [saveRecord] at hsaved
  split at hsaved
  · exact nomatch hsaved
  · rw [← Except.ok.inj hsaved]
    refine ⟨fun file hfile => ?_, fun a ha => (mem_keys_assign _ _ _ _).mpr ?_⟩
    · rcases mem_of_mem_assign hfile with rfl | hold
      · exact ⟨⟨r, now⟩, List.mem_append_right _ (List.mem_singleton_self _), rfl⟩
      · obtain ⟨a, ha, heq⟩ := h.holds file hold
        exact ⟨a, List.mem_append_left _ ha, heq⟩
    · rcases List.mem_append.mp ha with hold | hnew
      · exact .inr (h.kept a hold)
      · rw [List.mem_singleton.mp hnew]
        exact .inl rfl

theorem History.filed (h : History isAlnum s) : Filed isAlnum s := by
  induction h with
  | start => exact ⟨nofun, nofun⟩
  | call _ hstep ih =>
    cases hstep with
    | saved hsaved => exact ih.save hsaved
    | updated _ _ hsaved => exact ih.save hsaved
    | refused | unnamed | unknown => exact ih

/-- Whatever was called, what is loaded is a record that was saved, and it bears the identifier
    or shares its file; and the primary identifier of a record that was saved loads one. -/
theorem loaded_of_history (h : History isAlnum s) (hlisting : listing.Perm s.files) :
    (∀ k r, load isAlnum s listing k = some r → (∃ a ∈ s.saved, a.record = r) ∧
      (r.bears k = true ∨ fileName isAlnum r.primary = fileName isAlnum k)) ∧
    ∀ a ∈ s.saved, (load isAlnum s listing a.record.primary).isSome = true := by
  have hparsed : ∀ file ∈ s.files, ∃ a ∈ s.saved, file.1 = fileName isAlnum (name a) ∧
      parseFile file.2 = some a.record := by
    intro file hfile
    obtain ⟨a, ha, rfl⟩ := h.filed.holds file hfile
    exact ⟨a, ha, rfl, parseFile_document a⟩
  refine ⟨fun k r hload => ?_, fun a ha => ?_⟩
  · rw [load] at hload
    cases hlookup : s.files.lookup (fileName isAlnum k) with
    | some content =>
      rw [hlookup] at hload
      obtain ⟨a, ha, hfile, hparse⟩ := hparsed _ (LastWrite.mem_of_lookup hlookup)
      obtain rfl : a.record = r := Option.some.inj (hparse.symm.trans hload)
      exact ⟨⟨a, ha, rfl⟩, .inr hfile.symm⟩
    | none =>
      rw [hlookup] at hload
      change scanFor listing k = some r at hload
      rw [scanFor] at hload
      obtain ⟨file, hfile, hr⟩ := List.mem_filterMap.mp (List.mem_of_find?_eq_some hload)
      obtain ⟨a, ha, -, hparse⟩ := hparsed file (hlisting.mem_iff.mp hfile)
      have hbears := List.find?_some hload
      exact ⟨⟨a, ha, Option.some.inj (hparse.symm.trans hr)⟩, .inl hbears⟩
  · rw [load]
    cases hlookup : s.files.lookup (fileName isAlnum a.record.primary) with
    | some content =>
      obtain ⟨b, -, -, hparse⟩ := hparsed _ (LastWrite.mem_of_lookup hlookup)
      exact Option.isSome_of_eq_some hparse
    | none => exact absurd (h.filed.kept a ha) (lookup_eq_none.mp hlookup)

end History

/-- After a save, the record is loaded by its primary identifier. -/
theorem first_run_loaded : ∃ s, (load Char.isAlphanum s s.files firstRun.primary).isSome = true :=
  have hfirst : saveRecord Char.isAlphanum .empty firstRun "t1" = .ok _ := rfl
  ⟨_, (loaded_of_history (.call .start (.saved hfirst)) (.refl _)).2
    ⟨firstRun, "t1"⟩ (List.mem_singleton_self _)⟩

end KeyholeRunRecords
