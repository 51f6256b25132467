import Keyhole.RunDispatch

/-!
# The doctor's reconciliation of host identities

`reconcile` writes the server's connection truth into the host records, classifies each
detected record and sums the diagnoses up.  The records are changed in place: what an
earlier truth wrote stays where the next truth has no entry for the host, and an undetected
record keeps the diagnosis it came with.

* `reconcile`: the orchestrator, on the records as they are;
* `reconcileThreeLayer`: the second classifier;
* `Agrees`: the verdicts rest on this call's truth and agree with one another;
* `alongAgrees_iff`: over successive calls, they do exactly where nothing is left over. -/

namespace KeyholeDoctor

open KeyholeJson
open KeyholeDispatch (Raised)

/-! ## Records -/

/-- `HostDiagnosis`. -/
inductive HostDiagnosis where
  | aligned
  | splitIdentity
  | staleConnection
  | staleHostAuth
  | hostNotConfigured
  | hostConfigUnreadable
  | liveConnectionMissing
  | reconnectRequired
  | unsupportedHost
  | surfaceUnavailable
  | scopeDenied
  | ambiguousConnection
  | notDetected
  deriving DecidableEq

/-- `StalenessState`. -/
inductive StalenessState where
  | fresh
  | staleConfirmed
  | unknown
  deriving DecidableEq

/-- `HostFamily`. -/
inductive HostFamily where
  | vscode
  | jetbrains
  | cloudCode
  | sdkLocal
  | unknown
  deriving DecidableEq

/-- `ReconciliationMode`. -/
inductive ReconciliationMode where
  | localOnly
  | hostInventory
  | liveReconciliation
  deriving DecidableEq

/-- `DoctorSummaryStatus`. -/
inductive SummaryStatus where
  | ok
  | attentionRequired
  | degraded
  deriving DecidableEq

/-- `RecommendedAction`. -/
inductive RecommendedAction where
  | rebind
  | invalidateReconnect
  | keepAsIs
  | upgradeServer
  | useGenericWhoami
  | installHostEntry
  | installHostCredentials
  | repairHostConfig
  | refreshHost
  | restartHost
  | reloadMcpExtension
  | rerunDoctor
  deriving DecidableEq

/-- `DoctorHostRecord`.  The fields written from the server's answer are not validated on
    assignment, so they hold whatever the answer had. -/
structure DoctorHostRecord where
  hostId : String
  hostFamily : HostFamily := .unknown
  detected : Bool := false
  configDetected : Bool := false
  keyholeServerEntryDetected : Bool := false
  authSourceMode : String := ""
  configuredPrincipalSource : Json := .str ""
  connectionVisibleFromServer : Bool := false
  connectionId : Json := .str ""
  serverPrincipalUserId : Json := .str ""
  serverPrincipalLabel : Json := .str ""
  stalenessState : StalenessState := .unknown
  supportsRebind : Json := .bool false
  supportsInvalidate : Json := .bool false
  diagnosis : HostDiagnosis := .notDetected

/-- `DoctorHostEntry`. -/
structure DoctorHostEntry where
  hostId : String
  diagnosis : HostDiagnosis
  currentConnectionPrincipal : String
  recommendedActions : List RecommendedAction

/-- The arguments of `reconcile`, the records apart. -/
structure Call where
  cliActiveProfile : String := ""
  cliUserId : String
  serverOperations : List String := []
  connectionSurfaces : Json := .null
  connectionTruth : List (String × Dict) := []
  reconciliationMode : ReconciliationMode := .localOnly
  correlationId : String := ""

/-- `DoctorReport`, its records apart. -/
structure DoctorReport where
  cliActiveProfile : String
  cliUserId : String
  reconciliationMode : ReconciliationMode
  hosts : List DoctorHostEntry
  summaryStatus : SummaryStatus
  negotiationAvailable : Bool
  connectionSurfacesAvailable : Bool
  correlationId : String

/-! ## Connection surfaces -/

/-- The run type that has to be on offer. -/
def connectionInspectRunType : String := "connection.identity.inspect"

/-- `for rt in v`. -/
def iterate : Json → Except Raised (List Json)
  | .arr items => .ok items
  | .obj fields => .ok (fields.map fun entry => .str entry.1)
  | .str s => .ok (s.toList.map fun c => .str (String.singleton c))
  | _ => .error "TypeError"

/-- What one entry of `run_types` adds to the operations. -/
def runTypeName : Json → Except Raised (List String)
  | .str s => .ok [s]
  | .obj entry =>
      match Dict.getOr entry "run_type" (.str "") with
      | .str s => .ok (if s = "" then [] else [s])
      -- a list or a dictionary cannot be an element of a set
      | .arr (_ :: _) => .error "TypeError"
      | .obj (_ :: _) => .error "TypeError"
      | _ => .ok []
  | _ => .ok []

/-- What the entries of `run_types` add. -/
def runTypeNames : List Json → Except Raised (List String)
  | [] => .ok []
  | entry :: rest => do
      let names ← runTypeName entry
      return names ++ (← runTypeNames rest)

/-- `check_connection_surfaces_available`. -/
def checkConnectionSurfacesAvailable (serverOperations : List String) (surfaces : Json) :
    Except Raised Bool :=
  match surfaces with
  | .obj (first :: rest) => do
      let entries ← iterate (Dict.getOr (first :: rest) "run_types" (.arr []))
      let names ← runTypeNames entries
      return (serverOperations ++ names).contains connectionInspectRunType
  | _ => .ok (serverOperations.contains connectionInspectRunType)

/-! ## The two classifiers -/

/-- `classify_host_diagnosis`. -/
def classifyHostDiagnosis (cliUserId : String) (record : DoctorHostRecord)
    (surfacesAvailable : Bool) : HostDiagnosis :=
  if !record.detected then .notDetected
  else if !record.configDetected then .hostConfigUnreadable
  else if !record.keyholeServerEntryDetected then .hostNotConfigured
  else if !surfacesAvailable then .surfaceUnavailable
  else if !record.connectionVisibleFromServer then .liveConnectionMissing
  else if !truthy record.serverPrincipalUserId then .ambiguousConnection
  else if !isStr cliUserId record.serverPrincipalUserId then .splitIdentity
  else if record.stalenessState = .staleConfirmed then .staleHostAuth
  else .aligned

/-- `ThreeLayerIdentity`. -/
structure ThreeLayerIdentity where
  hostId : String
  hostFamily : HostFamily
  cliUserId : String
  cliProfileLabel : String
  hostConfiguredPrincipal : Json
  hostAuthMode : String
  serverUserId : Json
  serverPrincipalLabel : Json
  serverConnectionId : Json
  serverStaleness : StalenessState
  diagnosis : HostDiagnosis := .notDetected
  recommendedActions : List RecommendedAction := []
  description : String := ""

/-- `reconcile_three_layer`. -/
def reconcileThreeLayer (cliUserId cliProfileLabel : String) (record : DoctorHostRecord)
    (surfacesAvailable : Bool) : ThreeLayerIdentity :=
  let identity : ThreeLayerIdentity := {
    hostId := record.hostId
    hostFamily := record.hostFamily
    cliUserId := cliUserId
    cliProfileLabel := cliProfileLabel
    hostConfiguredPrincipal := record.configuredPrincipalSource
    hostAuthMode := record.authSourceMode
    serverUserId := record.serverPrincipalUserId
    serverPrincipalLabel := record.serverPrincipalLabel
    serverConnectionId := record.connectionId
    serverStaleness := record.stalenessState }
  if !record.detected then
    { identity with
      diagnosis := .notDetected
      description := "Host not detected on this machine." }
  else if !record.configDetected then
    { identity with
      diagnosis := .hostConfigUnreadable
      recommendedActions := [.repairHostConfig]
      description := "Host detected but config is unreadable." }
  else if !record.keyholeServerEntryDetected then
    { identity with
      diagnosis := .hostNotConfigured
      recommendedActions := [.installHostCredentials]
      description := "Host detected but no Keyhole MCP server entry configured." }
  else if !surfacesAvailable then
    { identity with
      diagnosis := .surfaceUnavailable
      recommendedActions := [.upgradeServer]
      description := "Connection surfaces not available. "
        ++ "Cannot verify live identity alignment." }
  else if !record.connectionVisibleFromServer then
    { identity with
      diagnosis := .liveConnectionMissing
      recommendedActions := [.refreshHost, .restartHost]
      description := "Host has Keyhole entry but no live connection visible from server." }
  else if !truthy record.serverPrincipalUserId then
    { identity with
      diagnosis := .ambiguousConnection
      recommendedActions := [.rerunDoctor]
      description := "Server returned ambiguous connection identity." }
  else if isStr cliUserId record.serverPrincipalUserId then
    if record.stalenessState = .staleConfirmed then
      { identity with
        diagnosis := .staleHostAuth
        recommendedActions := [.refreshHost]
        description := "Identity aligned but host auth may be stale." }
    else
      { identity with
        diagnosis := .aligned
        description := "All three identity layers are aligned." }
  else
    { identity with
      diagnosis := .splitIdentity
      recommendedActions := [.keepAsIs, .rebind, .invalidateReconnect]
      description := "CLI profile (" ++ cliUserId ++ ") and server connection ("
        ++ pyStr record.serverPrincipalUserId ++ ") are different principals." }

/-! ## The report -/

/-- The actions of `build_repair_guidance`. -/
def repairActions : HostDiagnosis → List RecommendedAction
  | .notDetected => [.installHostEntry, .rerunDoctor]
  | .unsupportedHost => [.rerunDoctor]
  | .hostConfigUnreadable => [.repairHostConfig, .rerunDoctor]
  | .hostNotConfigured => [.installHostCredentials, .rerunDoctor]
  | .surfaceUnavailable => [.upgradeServer, .useGenericWhoami]
  | .staleConnection => [.refreshHost, .invalidateReconnect]
  | .liveConnectionMissing => [.refreshHost, .restartHost]
  | .staleHostAuth => [.refreshHost, .installHostCredentials]
  | .reconnectRequired => [.restartHost, .reloadMcpExtension]
  | .scopeDenied => [.rerunDoctor]
  | .splitIdentity => [.keepAsIs, .rebind, .invalidateReconnect]
  | .ambiguousConnection => [.rerunDoctor]
  | .aligned => []

/-- The diagnoses that make a report degraded. -/
def degradedDiagnoses : List HostDiagnosis :=
  [.staleConnection, .staleHostAuth, .liveConnectionMissing, .hostNotConfigured,
    .hostConfigUnreadable, .reconnectRequired, .ambiguousConnection, .surfaceUnavailable]

/-- The summary of a list of diagnoses. -/
def summarize (statuses : List HostDiagnosis) : SummaryStatus :=
  if .splitIdentity ∈ statuses then .attentionRequired
  else if statuses.any (degradedDiagnoses.contains ·) then .degraded
  else .ok

/-- Classify a record that has not been diagnosed. -/
def diagnoseIfNew (cliUserId : String) (available : Bool) (record : DoctorHostRecord) :
    DoctorHostRecord :=
  if record.diagnosis = .notDetected ∧ record.detected = true then
    { record with diagnosis := classifyHostDiagnosis cliUserId record available }
  else record

/-- The loop of `build_doctor_report`: the records as it leaves them, and its entries.  An
    entry's principal has to be a string. -/
def reportEntries (cliUserId : String) (available : Bool) :
    List DoctorHostRecord → List DoctorHostRecord × Except Raised (List DoctorHostEntry)
  | [] => ([], .ok [])
  | record :: rest =>
      let record := diagnoseIfNew cliUserId available record
      match record.serverPrincipalLabel with
      | .str label =>
          let (rest', entries) := reportEntries cliUserId available rest
          (record :: rest', do
            return ⟨record.hostId, record.diagnosis, label, repairActions record.diagnosis⟩
              :: (← entries))
      | _ => (record :: rest, .error "ValidationError")

/-- `build_doctor_report`. -/
def buildDoctorReport (c : Call) (available : Bool) (records : List DoctorHostRecord) :
    List DoctorHostRecord × Except Raised DoctorReport :=
  let (records, entries) := reportEntries c.cliUserId available records
  (records, do
    let hosts ← entries
    return {
      cliActiveProfile := c.cliActiveProfile
      cliUserId := c.cliUserId
      reconciliationMode := c.reconciliationMode
      hosts := hosts
      summaryStatus := summarize (hosts.map (·.diagnosis))
      negotiationAvailable := decide (0 < c.serverOperations.length)
      connectionSurfacesAvailable := available
      correlationId := c.correlationId })

/-! ## The orchestrator -/

/-- `conn_truth.get(host_id, {})`. -/
def Call.hostData (c : Call) (hostId : String) : Dict := (c.connectionTruth.lookup hostId).getD []

/-- The staleness of a connection that belongs to this user. -/
def stalenessOf (cliUserId : String) (userId : Json) : StalenessState :=
  if isStr cliUserId userId then .fresh
  else if truthy userId then .staleConfirmed
  else .unknown

/-- A record with the truth about its connection, where there is one. -/
def enrich (c : Call) (record : DoctorHostRecord) : DoctorHostRecord :=
  let hostData := c.hostData record.hostId
  if hostData.isEmpty then record
  else { record with
    connectionVisibleFromServer := true
    connectionId := hostData.getOr "connection_id" (.str "")
    serverPrincipalUserId := hostData.getOr "user_id" (.str "")
    serverPrincipalLabel := hostData.getOr "principal" (.str "")
    supportsRebind := hostData.getOr "supports_rebind" (.bool false)
    supportsInvalidate := hostData.getOr "supports_invalidate" (.bool false)
    stalenessState := stalenessOf c.cliUserId (hostData.getOr "user_id" (.str "")) }

/-- The body of the loop over the records. -/
def reconcileRecord (c : Call) (available : Bool) (record : DoctorHostRecord) :
    DoctorHostRecord :=
  if !record.detected then record
  else
    let record := enrich c record
    { record with diagnosis := classifyHostDiagnosis c.cliUserId record available }

/-- What a call leaves behind.  The records are changed in place, also where building the
    report raises. -/
structure Reconciled where
  available : Bool
  records : List DoctorHostRecord
  report : Except Raised DoctorReport

/-- `reconcile`. -/
def reconcile (c : Call) (records : List DoctorHostRecord) : Except Raised Reconciled := do
  let available ← checkConnectionSurfacesAvailable c.serverOperations c.connectionSurfaces
  let (records, report) :=
    buildDoctorReport c available (records.map (reconcileRecord c available))
  return ⟨available, records, report⟩

/-! ## The promise -/

/-- This call's truth names, for the host, the user of the CLI. -/
def Call.Names (c : Call) (hostId : String) : Prop :=
  c.cliUserId ≠ "" ∧ isStr c.cliUserId ((c.hostData hostId).get "user_id") = true

/-- The configured principal is a user id: the detectors write where a token comes from as
    `env:..` or `file:..`. -/
def IsUserId (source : Json) : Prop :=
  ∃ s, source = .str s ∧ s ≠ "" ∧ startsWith s "env:" = false ∧ startsWith s "file:" = false

/-- The verdicts rest on the truth of the call, and agree with one another. -/
structure Agrees (c : Call) (out : Reconciled) : Prop where
  live : ∀ record ∈ out.records, record.detected = true → record.diagnosis = .aligned →
    c.Names record.hostId
  summary : ∀ report, out.report = .ok report → (report.summaryStatus = .ok ↔
    ∀ record ∈ out.records, record.detected = true → record.diagnosis = .aligned)
  layers : ∀ record ∈ out.records, (reconcileThreeLayer c.cliUserId c.cliActiveProfile record
    out.available).diagnosis = record.diagnosis
  principal : ∀ record ∈ out.records, (reconcileThreeLayer c.cliUserId c.cliActiveProfile record
    out.available).diagnosis = .aligned → IsUserId record.configuredPrincipalSource →
    record.configuredPrincipalSource = record.serverPrincipalUserId

/-- The host is there, readable and has a Keyhole entry. -/
def DoctorHostRecord.Usable (record : DoctorHostRecord) : Prop :=
  record.detected = true ∧ record.configDetected = true ∧ record.keyholeServerEntryDetected = true

/-- The truth has nothing on the host, and the record still says that the connection is the
    CLI user's. -/
structure LeftOver (c : Call) (record : DoctorHostRecord) : Prop where
  unnamed : c.hostData record.hostId = []
  visible : record.connectionVisibleFromServer = true
  user : c.cliUserId ≠ "" ∧ isStr c.cliUserId record.serverPrincipalUserId = true
  staleness : record.stalenessState ≠ .staleConfirmed

/-- Records on which a call keeps its promise. -/
structure Clear (c : Call) (available : Bool) (records : List DoctorHostRecord) : Prop where
  undetected : ∀ record ∈ records, record.detected = false → record.diagnosis = .notDetected
  fresh : ∀ record ∈ records, record.Usable → available = true → ¬ LeftOver c record
  principal : ∀ record ∈ records, record.Usable → available = true → c.Names record.hostId →
    IsUserId record.configuredPrincipalSource →
    record.configuredPrincipalSource = .str c.cliUserId

/-! ## The classifiers agree -/

theorem threeLayer_diagnosis (cliUserId cliProfileLabel : String) (record : DoctorHostRecord)
    (available : Bool) :
    (reconcileThreeLayer cliUserId cliProfileLabel record available).diagnosis
      = classifyHostDiagnosis cliUserId record available := by
  simp only [reconcileThreeLayer, classifyHostDiagnosis]
  by_cases hdetected : (!record.detected) = true
  · rw [if_pos hdetected, if_pos hdetected]
  rw [if_neg hdetected, if_neg hdetected]
  by_cases hconfig : (!record.configDetected) = true
  · rw [if_pos hconfig, if_pos hconfig]
  rw [if_neg hconfig, if_neg hconfig]
  by_cases hentry : (!record.keyholeServerEntryDetected) = true
  · rw [if_pos hentry, if_pos hentry]
  rw [if_neg hentry, if_neg hentry]
  by_cases havailable : (!available) = true
  · rw [if_pos havailable, if_pos havailable]
  rw [if_neg havailable, if_neg havailable]
  by_cases hvisible : (!record.connectionVisibleFromServer) = true
  · rw [if_pos hvisible, if_pos hvisible]
  rw [if_neg hvisible, if_neg hvisible]
  by_cases huser : (!truthy record.serverPrincipalUserId) = true
  · rw [if_pos huser, if_pos huser]
  rw [if_neg huser, if_neg huser]
  -- the last two checks come the other way round
  cases hsame : isStr cliUserId record.serverPrincipalUserId with
  | false => rfl
  | true =>
    by_cases hstale : record.stalenessState = .staleConfirmed
    · rw [if_pos hstale, if_pos hstale]
      rfl
    · rw [if_neg hstale, if_neg hstale]
      rfl

/-- A host is aligned when all the checks pass. -/
theorem classify_aligned_iff (cliUserId : String) (record : DoctorHostRecord)
    (available : Bool) :
    classifyHostDiagnosis cliUserId record available = .aligned ↔
      record.Usable ∧ available = true ∧ record.connectionVisibleFromServer = true ∧
        truthy record.serverPrincipalUserId = true ∧
        isStr cliUserId record.serverPrincipalUserId = true ∧
        record.stalenessState ≠ .staleConfirmed := by
  unfold classifyHostDiagnosis DoctorHostRecord.Usable
  cases record.detected with
  | false => simp
  | true =>
  cases record.configDetected with
  | false => simp
  | true =>
  cases record.keyholeServerEntryDetected with
  | false => simp
  | true =>
  cases available with
  | false => simp
  | true =>
  cases record.connectionVisibleFromServer with
  | false => simp
  | true =>
  cases truthy record.serverPrincipalUserId with
  | false => simp
  | true =>
  cases isStr cliUserId record.serverPrincipalUserId with
  | false => simp
  | true => simp

/-- A detected host that is not aligned has a diagnosis that counts in the summary. -/
theorem classify_range (cliUserId : String) {record : DoctorHostRecord} (available : Bool)
    (hdetected : record.detected = true) :
    classifyHostDiagnosis cliUserId record available ∈
      [.aligned, .splitIdentity, .staleHostAuth, .liveConnectionMissing, .hostNotConfigured,
        .hostConfigUnreadable, .ambiguousConnection, .surfaceUnavailable] := by
  unfold classifyHostDiagnosis
  rw [hdetected, if_neg (by decide)]
  split_ifs <;> simp

theorem classify_undetected {cliUserId : String} {record : DoctorHostRecord} {available : Bool}
    (hdetected : record.detected = false) :
    classifyHostDiagnosis cliUserId record available = .notDetected := by
  unfold classifyHostDiagnosis
  rw [hdetected]
  rfl

/-! ## One record -/

section Record

variable {c : Call} {available : Bool} {record : DoctorHostRecord}

theorem reconcileRecord_undetected (h : record.detected = false) :
    reconcileRecord c available record = record := by
  unfold reconcileRecord
  rw [h]
  rfl

theorem reconcileRecord_detected (h : record.detected = true) :
    reconcileRecord c available record = { enrich c record with
      diagnosis := classifyHostDiagnosis c.cliUserId (enrich c record) available } := by
  unfold reconcileRecord
  rw [h]
  rfl

theorem enrich_unnamed (h : c.hostData record.hostId = []) : enrich c record = record := by
  simp only [enrich, h]
  rfl

theorem enrich_named (h : c.hostData record.hostId ≠ []) :
    enrich c record = { record with
      connectionVisibleFromServer := true
      connectionId := (c.hostData record.hostId).getOr "connection_id" (.str "")
      serverPrincipalUserId := (c.hostData record.hostId).getOr "user_id" (.str "")
      serverPrincipalLabel := (c.hostData record.hostId).getOr "principal" (.str "")
      supportsRebind := (c.hostData record.hostId).getOr "supports_rebind" (.bool false)
      supportsInvalidate := (c.hostData record.hostId).getOr "supports_invalidate" (.bool false)
      stalenessState :=
        stalenessOf c.cliUserId ((c.hostData record.hostId).getOr "user_id" (.str "")) } := by
  have hempty : (c.hostData record.hostId).isEmpty = false := by
    rw [List.isEmpty_eq_false_iff]
    exact h
  simp only [enrich, hempty]
  rfl

/-- What the truth is written over stays what it is otherwise. -/
theorem reconcileRecord_keeps : (reconcileRecord c available record).hostId = record.hostId ∧
    (reconcileRecord c available record).detected = record.detected ∧
    (reconcileRecord c available record).configuredPrincipalSource
      = record.configuredPrincipalSource := by
  cases hd : record.detected with
  | false =>
    rw [reconcileRecord_undetected hd]
    exact ⟨rfl, hd, rfl⟩
  | true =>
    rw [reconcileRecord_detected hd]
    by_cases h : c.hostData record.hostId = []
    · rw [enrich_unnamed h]
      exact ⟨rfl, hd, rfl⟩
    · rw [enrich_named h]
      exact ⟨rfl, hd, rfl⟩

/-- Classifying a reconciled record again changes nothing. -/
theorem classify_reconcileRecord (h : record.detected = true) :
    classifyHostDiagnosis c.cliUserId (reconcileRecord c available record) available
      = (reconcileRecord c available record).diagnosis := by
  rw [reconcileRecord_detected h]
  rfl

/-- The user id a text is compared with, where it is truthy. -/
theorem truthy_of_isStr {user : String} {v : Json} (h : isStr user v = true) :
    truthy v = true ↔ user ≠ "" := by
  cases v with
  | str s =>
    obtain rfl : s = user := beq_iff_eq.mp h
    exact bne_iff_ne
  | _ => exact nomatch h

theorem isStr_getOr_iff {user : String} (huser : user ≠ "") (d : Dict) (k : String) :
    isStr user (d.getOr k (.str "")) = true ↔ isStr user (d.get k) = true := by
  cases hhas : d.has k with
  | true => rw [getOr_of_has hhas]
  | false =>
    rw [getOr_of_not_has hhas, get_of_not_has hhas]
    constructor
    · intro h
      exact absurd (beq_iff_eq.mp h).symm huser
    · intro h
      exact nomatch h

/-- A detected record comes out aligned when the truth names the user, or when it says nothing
    and an earlier one did. -/
theorem reconcileRecord_aligned_iff (h : record.detected = true) :
    (reconcileRecord c available record).diagnosis = .aligned ↔
      record.Usable ∧ available = true ∧ (c.Names record.hostId ∨ LeftOver c record) := by
  rw [reconcileRecord_detected h]
  show classifyHostDiagnosis c.cliUserId (enrich c record) available = .aligned ↔ _
  rw [classify_aligned_iff]
  by_cases hdata : c.hostData record.hostId = []
  · rw [enrich_unnamed hdata]
    have hnot : ¬ c.Names record.hostId := by
      rintro ⟨-, hn⟩
      rw [hdata] at hn
      exact nomatch hn
    rw [or_iff_right hnot]
    constructor
    · rintro ⟨husable, havailable, hvisible, htruthy, huser, hstale⟩
      exact ⟨husable, havailable, hdata, hvisible, ⟨(truthy_of_isStr huser).mp htruthy, huser⟩,
        hstale⟩
    · rintro ⟨husable, havailable, hleft⟩
      exact ⟨husable, havailable, hleft.visible, (truthy_of_isStr hleft.user.2).mpr hleft.user.1,
        hleft.user.2, hleft.staleness⟩
  · rw [enrich_named hdata]
    have hnot : ¬ LeftOver c record := fun hleft => hdata hleft.unnamed
    rw [or_iff_left hnot]
    constructor
    · rintro ⟨husable, havailable, -, htruthy, huser, -⟩
      have hne := (truthy_of_isStr huser).mp htruthy
      exact ⟨husable, havailable, hne, (isStr_getOr_iff hne _ _).mp huser⟩
    · rintro ⟨husable, havailable, hne, huser⟩
      have huser := (isStr_getOr_iff hne _ _).mpr huser
      refine ⟨husable, havailable, rfl, (truthy_of_isStr huser).mpr hne, huser, ?_⟩
      show stalenessOf _ _ ≠ _
      unfold stalenessOf
      rw [if_pos huser]
      exact nofun

/-- Where the truth names the user, the record says so afterwards. -/
theorem reconcileRecord_user (h : record.detected = true) (hnames : c.Names record.hostId) :
    (reconcileRecord c available record).serverPrincipalUserId = .str c.cliUserId := by
  have hdata : c.hostData record.hostId ≠ [] := by
    intro hd
    have hn := hnames.2
    rw [hd] at hn
    exact nomatch hn
  rw [reconcileRecord_detected h, enrich_named hdata]
  show (c.hostData record.hostId).getOr "user_id" (.str "") = _
  have huser := (isStr_getOr_iff hnames.1 (c.hostData record.hostId) "user_id").mpr hnames.2
  cases hv : (c.hostData record.hostId).getOr "user_id" (.str "") with
  | str s =>
    rw [hv] at huser
    rw [beq_iff_eq.mp huser]
  | _ =>
    rw [hv] at huser
    exact nomatch huser

end Record

/-! ## The report -/

/-- A reconciled record is not diagnosed anew. -/
theorem diagnoseIfNew_reconcileRecord (c : Call) (available : Bool) (record : DoctorHostRecord) :
    diagnoseIfNew c.cliUserId available (reconcileRecord c available record)
      = reconcileRecord c available record := by
  unfold diagnoseIfNew
  rw [if_neg]
  rintro ⟨hdiagnosis, hdetected⟩
  have hd : record.detected = true := reconcileRecord_keeps.2.1.symm.trans hdetected
  rw [← classify_reconcileRecord hd] at hdiagnosis
  have hrange := classify_range c.cliUserId available hdetected
  rw [hdiagnosis] at hrange
  exact absurd hrange (by decide)

/-- Records that are diagnosed go through the report unchanged, and the entries have their
    diagnoses. -/
theorem reportEntries_unchanged (cliUserId : String) (available : Bool) :
    ∀ {records : List DoctorHostRecord},
      (∀ record ∈ records, diagnoseIfNew cliUserId available record = record) →
      (reportEntries cliUserId available records).1 = records ∧
        ∀ entries, (reportEntries cliUserId available records).2 = .ok entries →
          entries.map (·.diagnosis) = records.map (·.diagnosis)
  | [], _ => ⟨rfl, fun entries h => by rw [← Except.ok.inj h]; rfl⟩
  | record :: rest, h => by
    obtain ⟨hhead, htail⟩ := List.forall_mem_cons.mp h
    obtain ⟨hrecords, hentries⟩ := reportEntries_unchanged cliUserId available htail
    cases hlabel : record.serverPrincipalLabel with
    | str label =>
      simp only [reportEntries, hhead, hlabel]
      refine ⟨congrArg (record :: ·) hrecords, fun entries he => ?_⟩
      cases hrest : (reportEntries cliUserId available rest).2 with
      | error e =>
        simp only [hrest] at he
        exact nomatch he
      | ok tail =>
        simp only [hrest] at he
        obtain rfl := Except.ok.inj he
        exact congrArg (record.diagnosis :: ·) (hentries tail hrest)
    | _ =>
      simp only [reportEntries, hhead, hlabel]
      exact ⟨trivial, nofun⟩

/-- What a call leaves behind: the reconciled records, summed up if the report is built. -/
theorem reconcile_spec {c : Call} {records : List DoctorHostRecord} {out : Reconciled}
    (h : reconcile c records = .ok out) :
    checkConnectionSurfacesAvailable c.serverOperations c.connectionSurfaces = .ok out.available ∧
      out.records = records.map (reconcileRecord c out.available) ∧
      ∀ report, out.report = .ok report →
        report.summaryStatus = summarize (out.records.map (·.diagnosis)) := by
  unfold reconcile at h
  cases hcheck : checkConnectionSurfacesAvailable c.serverOperations c.connectionSurfaces with
  | error e =>
    rw [hcheck] at h
    exact nomatch h
  | ok available =>
    rw [hcheck] at h
    obtain rfl := Except.ok.inj h
    have hsame : ∀ record ∈ records.map (reconcileRecord c available),
        diagnoseIfNew c.cliUserId available record = record := by
      intro record hmem
      obtain ⟨before, -, rfl⟩ := List.mem_map.mp hmem
      exact diagnoseIfNew_reconcileRecord c available before
    obtain ⟨hrecords, hentries⟩ := reportEntries_unchanged c.cliUserId available hsame
    refine ⟨rfl, hrecords, fun report hreport => ?_⟩
    cases hlist : (reportEntries c.cliUserId available
        (records.map (reconcileRecord c available))).2 with
    | error e =>
      simp only [hlist] at hreport
      exact nomatch hreport
    | ok hosts =>
      simp only [hlist] at hreport
      obtain rfl := Except.ok.inj hreport
      show summarize _ = summarize _
      rw [hentries hosts hlist, hrecords]

/-- A summary is fine when no diagnosis counts against it. -/
theorem summarize_ok_iff (statuses : List HostDiagnosis) : summarize statuses = .ok ↔
    ∀ status ∈ statuses, status ≠ .splitIdentity ∧ status ∉ degradedDiagnoses := by
  unfold summarize
  by_cases hsplit : .splitIdentity ∈ statuses
  · rw [if_pos hsplit]
    exact ⟨nofun, fun h => absurd rfl (h _ hsplit).1⟩
  · rw [if_neg hsplit]
    by_cases hdegraded : statuses.any (degradedDiagnoses.contains ·) = true
    · rw [if_pos hdegraded]
      obtain ⟨status, hmem, hbad⟩ := List.any_eq_true.mp hdegraded
      exact ⟨nofun,
        fun h => absurd (List.contains_iff_mem.mp hbad) (h status hmem).2⟩
    · rw [if_neg hdegraded]
      refine ⟨fun _ status hmem => ⟨?_, ?_⟩, fun _ => rfl⟩
      · rintro rfl
        exact hsplit hmem
      · intro hbad
        exact hdegraded (List.any_eq_true.mpr ⟨status, hmem, List.contains_iff_mem.mpr hbad⟩)

/-! ## One call -/

/-- A call whose surfaces can be read agrees on clear records, and on no others. -/
theorem agrees_iff {c : Call} {records : List DoctorHostRecord} {out : Reconciled}
    (h : reconcile c records = .ok out) : Agrees c out ↔ Clear c out.available records := by
  obtain ⟨-, hrecords, hsummary⟩ := reconcile_spec h
  have hmem : ∀ {record}, record ∈ records → reconcileRecord c out.available record ∈ out.records := by
    intro record hr
    rw [hrecords]
    exact List.mem_map_of_mem hr
  constructor
  · intro hagrees
    refine ⟨?_, ?_, ?_⟩
    · intro record hr hd
      have hlayers := hagrees.layers _ (hmem hr)
      rw [threeLayer_diagnosis, reconcileRecord_undetected hd, classify_undetected hd] at hlayers
      exact hlayers.symm
    · intro record hr husable havailable hleft
      have haligned := (reconcileRecord_aligned_iff (c := c) husable.1).mpr
        ⟨husable, havailable, Or.inr hleft⟩
      have hnames := hagrees.live _ (hmem hr)
        (reconcileRecord_keeps.2.1.trans husable.1) haligned
      rw [reconcileRecord_keeps.1] at hnames
      have hn := hnames.2
      rw [hleft.unnamed] at hn
      exact nomatch hn
    · intro record hr husable havailable hnames hid
      have haligned := (reconcileRecord_aligned_iff (c := c) husable.1).mpr
        ⟨husable, havailable, Or.inl hnames⟩
      have hlayers := (hagrees.layers _ (hmem hr)).trans haligned
      have hprincipal := hagrees.principal _ (hmem hr) hlayers
        (by rw [reconcileRecord_keeps.2.2]; exact hid)
      rw [reconcileRecord_keeps.2.2, reconcileRecord_user husable.1 hnames] at hprincipal
      exact hprincipal
  · intro hclear
    -- on clear records an aligned host is one the truth names
    have hnamed : ∀ record ∈ records, record.detected = true →
        (reconcileRecord c out.available record).diagnosis = .aligned →
        record.Usable ∧ out.available = true ∧ c.Names record.hostId := by
      intro record hr hd haligned
      obtain ⟨husable, havailable, hnames | hleft⟩ := (reconcileRecord_aligned_iff hd).mp haligned
      · exact ⟨husable, havailable, hnames⟩
      · exact absurd hleft (hclear.fresh record hr husable havailable)
    have hlayers : ∀ record ∈ records, classifyHostDiagnosis c.cliUserId
        (reconcileRecord c out.available record) out.available
          = (reconcileRecord c out.available record).diagnosis := by
      intro record hr
      cases hd : record.detected with
      | true => exact classify_reconcileRecord hd
      | false =>
        rw [reconcileRecord_undetected hd, classify_undetected hd]
        exact (hclear.undetected record hr hd).symm
    refine ⟨?_, ?_, ?_, ?_⟩
    · rw [hrecords]
      rintro _ hr hd haligned
      obtain ⟨record, hr', rfl⟩ := List.mem_map.mp hr
      rw [reconcileRecord_keeps.1]
      exact (hnamed record hr' (reconcileRecord_keeps.2.1.symm.trans hd) haligned).2.2
    · intro report hreport
      rw [hsummary report hreport, summarize_ok_iff, hrecords]
      constructor
      · rintro hok _ hr hd
        obtain ⟨record, hr', rfl⟩ := List.mem_map.mp hr
        have hgood := hok _ (List.mem_map_of_mem hr)
        have hrange := classify_range c.cliUserId out.available hd
        rw [hlayers record hr'] at hrange
        simp only [List.mem_cons, List.not_mem_nil, or_false] at hrange
        rcases hrange with haligned | hbad | hbad | hbad | hbad | hbad | hbad | hbad
        · exact haligned
        · exact absurd hbad hgood.1
        all_goals exact absurd (by rw [hbad]; decide) hgood.2
      · intro hall status hstatus
        obtain ⟨_, hr, rfl⟩ := List.mem_map.mp hstatus
        obtain ⟨record, hr', rfl⟩ := List.mem_map.mp hr
        cases hd : record.detected with
        | true =>
          rw [hall _ hr (reconcileRecord_keeps.2.1.trans hd)]
          decide
        | false =>
          rw [reconcileRecord_undetected hd, hclear.undetected record hr' hd]
          decide
    · rw [hrecords]
      rintro _ hr
      obtain ⟨record, hr', rfl⟩ := List.mem_map.mp hr
      rw [threeLayer_diagnosis]
      exact hlayers record hr'
    · rw [hrecords]
      rintro _ hr haligned hid
      obtain ⟨record, hr', rfl⟩ := List.mem_map.mp hr
      rw [threeLayer_diagnosis] at haligned
      have hd : record.detected = true :=
        reconcileRecord_keeps.2.1.symm.trans ((classify_aligned_iff _ _ _).mp haligned).1.1
      rw [hlayers record hr'] at haligned
      obtain ⟨husable, havailable, hnames⟩ := hnamed record hr' hd haligned
      rw [reconcileRecord_keeps.2.2] at hid ⊢
      rw [reconcileRecord_user hd hnames]
      exact hclear.principal record hr' husable havailable hnames hid

/-! ## Successive calls -/

/-- A property of every call of a run: each call takes the records as the one before left
    them. -/
def Along (P : Call → Reconciled → List DoctorHostRecord → Prop) :
    List Call → List DoctorHostRecord → Prop
  | [], _ => True
  | c :: calls, records =>
      match reconcile c records with
      | .ok out => P c out records ∧ Along P calls out.records
      -- the surfaces are read before anything is changed
      | .error _ => Along P calls records

/-- Over successive calls the verdicts agree with the truth and with one another exactly when
    every call finds clear records. -/
theorem alongAgrees_iff (calls : List Call) (records : List DoctorHostRecord) :
    Along (fun c out _ => Agrees c out) calls records ↔
      Along (fun c out before => Clear c out.available before) calls records := by
  induction calls generalizing records with
  | nil => exact Iff.rfl
  | cons c calls ih =>
      show (match reconcile c records with | .ok out => _ | .error _ => _) ↔
        (match reconcile c records with | .ok out => _ | .error _ => _)
      cases h : reconcile c records with
      | error e => exact ih records
      | ok out => exact and_congr (agrees_iff h) (ih out.records)

/-- A host with a Keyhole entry, as the inventory finds it. -/
def foundHost : DoctorHostRecord where
  hostId := "vscode"
  detected := true
  configDetected := true
  keyholeServerEntryDetected := true

/-- A call whose truth has this about the host. -/
def callWith (hostData : Dict) : Call where
  cliUserId := "u-1"
  serverOperations := ["connection.identity.inspect"]
  connectionTruth := [("vscode", hostData)]

/-- The first truth names the user, the second has nothing on the host: it is still
    aligned. -/
theorem leftOver_aligned : ¬ Along (fun c out _ => Agrees c out)
    [callWith [("user_id", .str "u-1")], callWith []] [foundHost] := by
  rintro ⟨-, hsecond, -⟩
  have hnames := hsecond.live _ List.mem_cons_self rfl rfl
  exact nomatch hnames.2

end KeyholeDoctor
