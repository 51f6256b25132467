import Keyhole.HostCoherence
import Keyhole.JsonDocument
import Keyhole.LastWrite

/-!
# The attestation store

Each host writes one file per logical binding: host kind, integration name and machine
scope.  The file name joins the three components with `__`, after slashes and double dots
have been replaced, so that two bindings may spell the same name.

* `writeAttestation`, `loadAttestations`: the directory as the two functions see it;
* `MapLike`: the store behaves like a map from bindings to attestations;
* `mapLike_iff`: it does exactly when no two written bindings flatten to one text. -/

namespace KeyholeAttestations

open KeyholeJson LastWrite
open KeyholeCoherence (AttestationConfidence)

/-! ## Attestations -/

/-- `HostIdentityAttestation`, all of it. -/
structure Attestation where
  schemaVersion : String := "1"
  hostKind : String
  hostDisplayName : String := ""
  integrationName : String := "keyhole"
  serverUrl : String := ""
  realm : String := ""
  effectivePrincipal : String
  effectiveSubject : String := ""
  proofMethod : String := "live_whoami"
  confidence : AttestationConfidence := .confirmed
  observedAt : String
  expiresAt : String
  machineScope : String := ""
  workspaceScope : Option String := none
  correlationId : String := ""
  notes : String := ""
  toolVersion : String := ""
  deriving DecidableEq

/-- The values of `AttestationConfidence`. -/
def confidences : List (String × AttestationConfidence) :=
  [("confirmed", .confirmed), ("probable", .probable), ("unknown", .unknown)]

/-- The value of a confidence. -/
def confidenceValue : AttestationConfidence → String
  | .confirmed => "confirmed"
  | .probable => "probable"
  | .unknown => "unknown"

/-- A string, or `None`. -/
def optional : Option String → Json
  | none => .null
  | some s => .str s

/-- `to_dict`. -/
def Attestation.toDict (a : Attestation) : Dict :=
  [("schema_version", .str a.schemaVersion), ("host_kind", .str a.hostKind),
    ("host_display_name", .str a.hostDisplayName), ("integration_name", .str a.integrationName),
    ("server_url", .str a.serverUrl), ("realm", .str a.realm),
    ("effective_principal", .str a.effectivePrincipal),
    ("effective_subject", .str a.effectiveSubject), ("proof_method", .str a.proofMethod),
    ("confidence", .str (confidenceValue a.confidence)), ("observed_at", .str a.observedAt),
    ("expires_at", .str a.expiresAt), ("machine_scope", .str a.machineScope),
    ("workspace_scope", optional a.workspaceScope), ("correlation_id", .str a.correlationId),
    ("notes", .str a.notes), ("tool_version", .str a.toolVersion)]

/-- A field that has to be a string. -/
def textField : Json → Option String
  | .str s => some s
  | _ => none

/-- A field that has to be a string or `None`. -/
def optionalField : Json → Option (Option String)
  | .str s => some (some s)
  | .null => some none
  | _ => none

/-- `HostIdentityAttestation(**raw)`; `none` is an exception. -/
def readAttestation : Json → Option Attestation
  | .obj raw => do
      let schemaVersion ← textField (Dict.getOr raw "schema_version" (.str "1"))
      let hostKind ← textField (Dict.get raw "host_kind")
      let hostDisplayName ← textField (Dict.getOr raw "host_display_name" (.str ""))
      let integrationName ← textField (Dict.getOr raw "integration_name" (.str "keyhole"))
      let serverUrl ← textField (Dict.getOr raw "server_url" (.str ""))
      let realm ← textField (Dict.getOr raw "realm" (.str ""))
      let effectivePrincipal ← textField (Dict.get raw "effective_principal")
      let effectiveSubject ← textField (Dict.getOr raw "effective_subject" (.str ""))
      let proofMethod ← textField (Dict.getOr raw "proof_method" (.str "live_whoami"))
      let confidence ←
        confidences.lookup (← textField (Dict.getOr raw "confidence" (.str "confirmed")))
      let observedAt ← textField (Dict.get raw "observed_at")
      let expiresAt ← textField (Dict.get raw "expires_at")
      let machineScope ← textField (Dict.getOr raw "machine_scope" (.str ""))
      let workspaceScope ← optionalField (Dict.get raw "workspace_scope")
      let correlationId ← textField (Dict.getOr raw "correlation_id" (.str ""))
      let notes ← textField (Dict.getOr raw "notes" (.str ""))
      let toolVersion ← textField (Dict.getOr raw "tool_version" (.str ""))
      return {
        schemaVersion, hostKind, hostDisplayName, integrationName, serverUrl, realm,
        effectivePrincipal, effectiveSubject, proofMethod, confidence, observedAt, expiresAt,
        machineScope, workspaceScope, correlationId, notes, toolVersion }
  | _ => none

/-! ## File names -/

/-- `s or default`. -/
def orDefault (s default : String) : String := if s = "" then default else s

/-- `replace("..", "_")`. -/
def replaceDots : List Char → List Char
  | '.' :: '.' :: rest => '_' :: replaceDots rest
  | c :: rest => c :: replaceDots rest
  | [] => []

/-- One character after the two slashes have been replaced. -/
def replaceSlash (c : Char) : Char := if c = '/' ∨ c = '\\' then '_' else c

/-- `safe`. -/
def safe (s : String) : String := String.ofList (replaceDots (s.toList.map replaceSlash))

/-- The logical binding of an attestation. -/
def Attestation.binding (a : Attestation) : String × String × String :=
  (orDefault a.hostKind "unknown", orDefault a.integrationName "keyhole",
    orDefault a.machineScope "default")

/-- A binding as one text. -/
def flattened (binding : String × String × String) : String :=
  safe binding.1 ++ "__" ++ safe binding.2.1 ++ "__" ++ safe binding.2.2

/-- `_attestation_filename`. -/
def attestationFilename (a : Attestation) : String := flattened a.binding ++ ".json"

/-! ## The directory -/

/-- The attestation directory: its files by name, each with the document in it. -/
abbrev Directory := List (String × Json)

/-- The document of an attestation. -/
def document (a : Attestation) : Json := .obj a.toDict

/-- `write_attestation`: the file is replaced whole.  `accepts` says which names the file
    system takes; for the others the rename raises and the directory stays as it is. -/
def writeAttestation (accepts : String → Bool) (dir : Directory) (a : Attestation) :
    Except String Directory :=
  if accepts (attestationFilename a) then .ok (assign dir (attestationFilename a) (document a))
  else .error "OSError"

/-- The directory after a call, whether it raised or not. -/
def afterWrite (accepts : String → Bool) (dir : Directory) (a : Attestation) : Directory :=
  match writeAttestation accepts dir a with
  | .ok dir' => dir'
  | .error _ => dir

/-- The directory after a sequence of calls. -/
def runWrites (accepts : String → Bool) (writes : List Attestation) : Directory :=
  writes.foldl (afterWrite accepts) []

/-- The attestation in a file; malformed files are skipped. -/
def loadEntry (entry : String × Json) : Option Attestation :=
  if endsWith entry.1 ".json" then readAttestation entry.2 else none

/-- `load_attestations`, in the order of the names. -/
def loadAttestations (dir : Directory) : List Attestation :=
  (dir.mergeSort (fun a b => decide (a.1 ≤ b.1))).filterMap loadEntry

/-! ## The promise -/

/-- The calls that wrote. -/
def written (accepts : String → Bool) (writes : List Attestation) : List Attestation :=
  writes.filter fun a => accepts (attestationFilename a)

/-- A name that stays in the directory it is joined to. -/
def Inside (name : String) : Prop :=
  '/' ∉ name.toList ∧ '\\' ∉ name.toList ∧ name ≠ "" ∧ name ≠ "." ∧ name ≠ ".."

/-- The store is a map from bindings to the attestations written last. -/
structure MapLike (accepts : String → Bool) (writes : List Attestation) : Prop where
  exact : ∀ a, a ∈ loadAttestations (runWrites accepts writes) ↔
    Latest Attestation.binding (written accepts writes) a
  single : ((loadAttestations (runWrites accepts writes)).map Attestation.binding).Nodup
  inside : ∀ a ∈ writes, Inside (attestationFilename a)

/-- Different bindings of these attestations do not flatten to one text. -/
def KeptApart (attestations : List Attestation) : Prop :=
  ∀ a ∈ attestations, ∀ b ∈ attestations,
    flattened a.binding = flattened b.binding → a.binding = b.binding

/-! ## The round trip -/

theorem lookup_confidenceValue (c : AttestationConfidence) :
    confidences.lookup (confidenceValue c) = some c := by
  cases c with
  | confirmed => rfl
  | probable => rfl
  | unknown => rfl

theorem optionalField_optional (s : Option String) : optionalField (optional s) = some s := by
  cases s with
  | none => rfl
  | some s => rfl

/-- A written attestation is read back field by field. -/
theorem readAttestation_document (a : Attestation) : readAttestation (document a) = some a := by
  show (do
    let confidence ← confidences.lookup (confidenceValue a.confidence)
    let workspaceScope ← optionalField (optional a.workspaceScope)
    return ({ a with confidence := confidence, workspaceScope := workspaceScope } :
      Attestation)) = some a
  rw [lookup_confidenceValue, optionalField_optional]
  rfl

/-! ## Names -/

/-- Replacing double dots brings in no character but the underscore. -/
theorem not_mem_replaceDots {c : Char} (hc : c ≠ '_') (cs : List Char) (h : c ∉ cs) :
    c ∉ replaceDots cs := by
  induction cs using replaceDots.induct with
  | case1 rest ih =>
    rw [replaceDots, List.mem_cons]
    rintro (he | hmem)
    · exact hc he
    · exact ih (fun hr => h (List.mem_cons_of_mem _ (List.mem_cons_of_mem _ hr))) hmem
  | case2 d rest hdots ih =>
    rw [replaceDots, List.mem_cons]
    · rintro (he | hmem)
      · exact h (by rw [he]; exact List.mem_cons_self)
      · exact ih (fun hr => h (List.mem_cons_of_mem _ hr)) hmem
    · exact hdots
  | case3 => exact h

/-- Neither slash survives in a component. -/
theorem not_mem_safe {c : Char} (hc : c = '/' ∨ c = '\\') (s : String) : c ∉ (safe s).toList := by
  have hne : c ≠ '_' := by
    rcases hc with rfl | rfl
    · decide
    · decide
  unfold safe
  rw [String.toList_ofList]
  refine not_mem_replaceDots hne _ fun hmem => ?_
  obtain ⟨d, -, hd⟩ := List.mem_map.mp hmem
  unfold replaceSlash at hd
  by_cases hslash : d = '/' ∨ d = '\\'
  · rw [if_pos hslash] at hd
    exact hne hd.symm
  · rw [if_neg hslash] at hd
    exact hslash (hd ▸ hc)

theorem not_mem_attestationFilename {c : Char} (hc : c = '/' ∨ c = '\\') (a : Attestation) :
    c ∉ (attestationFilename a).toList := by
  have hjoin : c ∉ ("__" : String).toList := by
    rcases hc with rfl | rfl
    · decide
    · decide
  have hend : c ∉ (".json" : String).toList := by
    rcases hc with rfl | rfl
    · decide
    · decide
  unfold attestationFilename flattened
  simp only [String.toList_append, List.mem_append, not_or]
  exact ⟨⟨⟨⟨⟨not_mem_safe hc _, hjoin⟩, not_mem_safe hc _⟩, hjoin⟩, not_mem_safe hc _⟩, hend⟩

/-- Whatever the components are, the file is in the directory. -/
theorem inside_attestationFilename (a : Attestation) : Inside (attestationFilename a) := by
  have hlength : 5 ≤ (attestationFilename a).length := by
    unfold attestationFilename
    rw [String.length_append]
    show 5 ≤ _ + 5
    omega
  refine ⟨not_mem_attestationFilename (Or.inl rfl) a, not_mem_attestationFilename (Or.inr rfl) a,
    ?_, ?_, ?_⟩
  all_goals
    intro h
    rw [h] at hlength
    exact absurd hlength (by decide)

theorem endsWith_attestationFilename (a : Attestation) :
    endsWith (attestationFilename a) ".json" = true := by
  unfold endsWith attestationFilename
  rw [String.toList_append, List.isSuffixOf_iff_suffix]
  exact List.suffix_append _ _

/-- The binding decides the name, and the name the flattened binding. -/
theorem attestationFilename_eq_iff (a b : Attestation) :
    attestationFilename a = attestationFilename b ↔ flattened a.binding = flattened b.binding := by
  unfold attestationFilename
  constructor
  · intro h
    have hlist := congrArg String.toList h
    rw [String.toList_append, String.toList_append] at hlist
    exact String.toList_inj.mp (List.append_cancel_right hlist)
  · intro h
    rw [h]

/-! ## The store -/

theorem afterWrite_accepted {accepts : String → Bool} (dir : Directory) {a : Attestation}
    (h : accepts (attestationFilename a) = true) :
    afterWrite accepts dir a = assign dir (attestationFilename a) (document a) := by
  unfold afterWrite writeAttestation
  rw [h]
  rfl

theorem afterWrite_refused {accepts : String → Bool} (dir : Directory) {a : Attestation}
    (h : accepts (attestationFilename a) = false) : afterWrite accepts dir a = dir := by
  unfold afterWrite writeAttestation
  rw [h]
  rfl

/-- The directory after a sequence of calls: the calls that wrote, each under its name. -/
theorem runWrites_eq (accepts : String → Bool) (writes : List Attestation) :
    runWrites accepts writes = fill attestationFilename document (written accepts writes) := by
  unfold runWrites fill written
  generalize ([] : Directory) = dir
  induction writes generalizing dir with
  | nil => rfl
  | cons a writes ih =>
    rw [List.foldl_cons, ih]
    cases h : accepts (attestationFilename a) with
    | true =>
      rw [List.filter_cons, if_pos h, afterWrite_accepted dir h]
      rfl
    | false =>
      rw [List.filter_cons, if_neg (Bool.eq_false_iff.mp h), afterWrite_refused dir h]

/-- A file written by the store is loaded. -/
theorem loadEntry_written (a : Attestation) :
    loadEntry (attestationFilename a, document a) = some a := by
  unfold loadEntry
  rw [if_pos (endsWith_attestationFilename a)]
  exact readAttestation_document a

/-- What is loaded is what was written last under each name. -/
theorem mem_loadAttestations (accepts : String → Bool) (writes : List Attestation)
    (a : Attestation) : a ∈ loadAttestations (runWrites accepts writes) ↔
      Latest attestationFilename (written accepts writes) a := by
  unfold loadAttestations
  rw [List.mem_filterMap]
  constructor
  · rintro ⟨entry, hmem, hread⟩
    rw [List.mem_mergeSort, runWrites_eq, mem_fill] at hmem
    obtain ⟨b, hb, rfl⟩ := hmem
    rw [loadEntry_written] at hread
    rw [← Option.some.inj hread]
    exact hb
  · intro ha
    refine ⟨(attestationFilename a, document a), ?_, loadEntry_written a⟩
    rw [List.mem_mergeSort, runWrites_eq, mem_fill]
    exact ⟨a, ha, rfl⟩

/-- Files that hold attestations under their own names are all loaded. -/
theorem names_loaded : ∀ {entries : Directory},
    (∀ entry ∈ entries, ∃ a, entry = (attestationFilename a, document a)) →
    (entries.filterMap loadEntry).map attestationFilename = entries.map (·.1)
  | [], _ => rfl
  | entry :: rest, h => by
    obtain ⟨⟨a, rfl⟩, hrest⟩ := List.forall_mem_cons.mp h
    rw [List.filterMap_cons_some (loadEntry_written a), List.map_cons, names_loaded hrest]
    rfl

/-- No two loaded attestations have one binding. -/
theorem nodup_loaded (accepts : String → Bool) (writes : List Attestation) :
    ((loadAttestations (runWrites accepts writes)).map Attestation.binding).Nodup := by
  have hperm := List.mergeSort_perm (runWrites accepts writes) (fun a b => decide (a.1 ≤ b.1))
  have hnames : ((loadAttestations (runWrites accepts writes)).map attestationFilename).Nodup := by
    unfold loadAttestations
    rw [names_loaded, (hperm.map _).nodup_iff, runWrites_eq]
    · exact nodup_keys_fill _ _ _
    · intro entry hmem
      rw [List.mem_mergeSort, runWrites_eq, mem_fill] at hmem
      obtain ⟨a, -, he⟩ := hmem
      exact ⟨a, he⟩
  -- the name is a function of the binding
  have hcomp : (loadAttestations (runWrites accepts writes)).map attestationFilename
      = ((loadAttestations (runWrites accepts writes)).map Attestation.binding).map
        fun binding => flattened binding ++ ".json" := by
    rw [List.map_map]
    rfl
  rw [hcomp] at hnames
  exact hnames.of_map _

/-- The store behaves like a map exactly when no two of the written bindings flatten to one
    text. -/
theorem mapLike_iff (accepts : String → Bool) (writes : List Attestation) :
    MapLike accepts writes ↔ KeptApart (written accepts writes) := by
  have hagree : (∀ a, Latest attestationFilename (written accepts writes) a ↔
      Latest Attestation.binding (written accepts writes) a) ↔
      ∀ a ∈ written accepts writes, ∀ b ∈ written accepts writes,
        attestationFilename a = attestationFilename b → a.binding = b.binding :=
    latest_agree_iff _ fun a b h =>
      (attestationFilename_eq_iff a b).mpr (congrArg flattened h)
  constructor
  · intro h a ha b hb hflat
    have hsame := hagree.mp fun x => (mem_loadAttestations accepts writes x).symm.trans (h.exact x)
    exact hsame a ha b hb ((attestationFilename_eq_iff a b).mpr hflat)
  · intro hapart
    have hsame := hagree.mpr fun a ha b hb hname =>
      hapart a ha b hb ((attestationFilename_eq_iff a b).mp hname)
    exact ⟨fun a => (mem_loadAttestations accepts writes a).trans (hsame a),
      nodup_loaded accepts writes, fun a _ => inside_attestationFilename a⟩

/-- An attestation of a host, for an integration. -/
def attested (hostKind integrationName : String) : Attestation where
  hostKind := hostKind
  integrationName := integrationName
  effectivePrincipal := "nathan"
  observedAt := "2026-01-01T00:00:00Z"
  expiresAt := "2026-01-01T00:10:00Z"

/-- The host `vscode` with the integration `a__b` and the host `vscode__a` with `b` share a
    file: the second write replaces the first. -/
theorem shared_file_replaced :
    ¬ MapLike (fun _ => true) [attested "vscode" "a__b", attested "vscode__a" "b"] := by
  intro h
  have hlatest : Latest Attestation.binding
      [attested "vscode" "a__b", attested "vscode__a" "b"] (attested "vscode" "a__b") := by
    refine ⟨[], [attested "vscode__a" "b"], rfl, fun b hb => ?_⟩
    rw [List.mem_singleton.mp hb]
    decide
  have hloaded := (h.exact (attested "vscode" "a__b")).mpr hlatest
  rw [mem_loadAttestations] at hloaded
  have hsecond : Latest attestationFilename
      [attested "vscode" "a__b", attested "vscode__a" "b"] (attested "vscode__a" "b") :=
    ⟨[attested "vscode" "a__b"], [], rfl, fun b hb => nomatch hb⟩
  have hname : attestationFilename (attested "vscode" "a__b")
      = attestationFilename (attested "vscode__a" "b") := by decide
  exact absurd (hloaded.unique hsecond hname) (by decide)

end KeyholeAttestations
