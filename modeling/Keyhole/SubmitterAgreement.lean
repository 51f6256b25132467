import Keyhole.Submitters

/-!
# When the submitters are honest and agree

An outcome says that an operation succeeded, was accepted, deferred or replayed, or that it came
to nothing.  The three submitters of one answer are to say the same, and none is to claim what a
refusal denies.

* `Honest`: both, and that none of the three raises;
* `Plain`: an answer that is no refusal, with fields of the types the models want, and a code
  that does not contradict its word;
* `honest_iff_plain`: the submitters are honest about these answers, and about no others. -/

namespace KeyholeSubmitters

open KeyholeJson KeyholeDispatch
open KeyholeCapability (textField textList textField_eq_ok textField_of_isText isText_of_textField
  isText_getOr)
open ExceptLoops (Returns bind_ok returns_ok returns_pure not_returns_error returns_map returns_bind
  returns_bind_of_forall returns_bind_of_iff)

/-! ## What is said of an operation -/

/-- What an outcome says of the operation. -/
inductive Report where
  | success
  | accepted
  | deferred
  | replayed
  | failure
  deriving DecidableEq

/-- What a status says. -/
def SubmissionStatus.report : SubmissionStatus → Report
  | .success => .success
  | .accepted => .accepted
  | .deferred => .deferred
  | .replayed => .replayed
  | .rejected | .failed => .failure

/-- What a result of an alignment says. -/
def AlignmentGuidanceResult.report (result : AlignmentGuidanceResult) : Report :=
  if result.success = true then
    match result.analysisMode with
    | .terminal => .success
    | .accepted => .accepted
    | .deferred => .deferred
  else .failure

/-- The words for an operation that came to nothing. -/
def refusalWords : List String := "canceled" :: refusals

/-- A status with such a word. -/
def IsRefusal (v : Json) : Prop := ∃ word, v = .str word ∧ strip (lower word) ∈ refusalWords

/-- The answers that are no success. -/
inductive Refused (doc : Json) : Prop
  /-- it is no object -/
  | shapeless (h : ∀ data, doc ≠ .obj data)
  /-- it says so -/
  | notOk {data : Dict} (h : doc = .obj data) (hok : isFalse (data.get "ok") = true)
  /-- its status says so -/
  | stated {data : Dict} (h : doc = .obj data) (hword : IsRefusal (data.get "status"))
  /-- or the one in its envelope -/
  | enveloped {data : Dict} (h : doc = .obj data)
      (hword : IsRefusal ((data.child "data").get "status"))

section Honesty

-- pydantic's `int`, the confidence of an item, and the order of two confidences
variable (intField : Json → Except Raised Int)
variable (confidenceField : Json → Except Raised String)
variable (compareConfidence : String → String → Option Ordering)

/-- The three submitters of an answer return, claim nothing a refusal denies, and say the same. -/
structure Honest (result : Answered) : Prop where
  returns : ∀ registration ingestion alignment,
    Returns (submitRegistration (.ok result) registration) ∧
    Returns (submitIngestion intField (.ok result) ingestion) ∧
    Returns (submitAlignment confidenceField compareConfidence (.ok result) alignment)
  refused : Refused result.data →
    (∀ request outcome, submitRegistration (.ok result) request = .ok outcome →
      outcome.status.report = .failure) ∧
    (∀ request outcome, submitIngestion intField (.ok result) request = .ok outcome →
      outcome.status.report = .failure) ∧
    ∀ request outcome,
      submitAlignment confidenceField compareConfidence (.ok result) request = .ok outcome →
      outcome.report = .failure
  agree : truthy (replayFlag (asDict result.data)) = false →
    ∀ forRegistration forIngestion forAlignment registration ingestion alignment,
      submitRegistration (.ok result) forRegistration = .ok registration →
      submitIngestion intField (.ok result) forIngestion = .ok ingestion →
      submitAlignment confidenceField compareConfidence (.ok result) forAlignment = .ok alignment →
      registration.status.report = ingestion.status.report ∧
      ingestion.status.report = alignment.report

/-! ## Plain answers -/

/-- The fields both outcomes read have their types. -/
structure TypedAdvice (data : Dict) : Prop where
  warnings : Returns (textList (data.getOr "warnings" (.arr [])))
  suggestedActions : Returns (textList (suggestedActionsField data))

/-- And those of a registration: the binding, if any of its fields says something. -/
structure TypedRegistration (data : Dict) : Prop where
  registrationId : Returns (optionalText (registrationIdField data))
  binding : (∃ name ∈ bindingNames, truthy (bindingField data name) = true) →
    ∀ name ∈ bindingNames, Returns (textField (bindingField data name))

/-- The fields of a graph. -/
structure TypedGraph (graph : Dict) : Prop where
  nodeCount : Returns (intField (graph.getOr "node_count" (graph.getOr "nodes" (.int 0))))
  edgeCount : Returns (intField (graph.getOr "edge_count" (graph.getOr "edges" (.int 0))))
  components : Returns (intField (graph.getOr "components" (.int 0)))
  primaryLanguage : Returns (textField (graph.getOr "primary_language" (.str "")))
  topologyNotes : Returns (textList (graph.getOr "topology_notes" (.arr [])))

/-- The fields of a capability. -/
structure TypedCapability (item : Dict) : Prop where
  name : Returns (textField (item.getOr "name" (.str "")))
  basis : Returns (textField (item.getOr "basis" (.str "")))
  category : Returns (textField (item.getOr "category" (.str "")))

/-- And those of an ingestion. -/
structure TypedIngestion (data : Dict) : Prop where
  ingestionId : Returns (optionalText (ingestionIdField data))
  graph : ∀ graph, graphField data = .obj graph → graph ≠ [] → TypedGraph intField graph
  capabilities : ∀ item, .obj item ∈ asList (capabilitiesField data) → TypedCapability item

/-- The fields of a guidance item the fallback keeps. -/
structure TypedItem (d : Dict) : Prop where
  id : Returns (textField (d.getOr "id" (.str "unknown")))
  title : Returns (textField (d.getOr "title" (.str "Unknown guidance item")))
  detail : Returns (textField (d.getOr "detail" (.str "")))
  repair : Returns (textList (d.getOr "repair" (.arr [])))
  source : Returns (textField (d.getOr "source" (.str "server")))

/-- A value a loop can run over. -/
def isIterable : Json → Bool
  | .arr _ | .str _ | .obj _ => true
  | .null | .bool _ | .int _ | .float _ => false

/-- The fields of a guidance. -/
structure TypedGuidance (data : Dict) : Prop where
  iterable : isIterable (rawItems data) = true
  items : ∀ d, .obj d ∈ asList (rawItems data) → TypedItem d
  nextBestAction : truthy (data.get "next_best_action") = true →
    isText (data.get "next_best_action") = true

/-- The answer says that the analysis was queued. -/
def Queued (statusCode : Nat) (word : String) : Prop :=
  statusCode = 202 ∨ word ∈ ["accepted", "pending", "deferred"]

/-- An answer that is no refusal, is well typed, and does not say two things. -/
structure Plain (result : Answered) (data : Dict) (word : String) : Prop where
  object : result.data = .obj data
  status : data.getOr "status" (.str "") = .str word
  unrefused : ¬ Refused result.data
  advice : TypedAdvice data
  registration : TypedRegistration data
  ingestion : TypedIngestion intField data
  runId : Returns (optionalText (runIdField data))
  guidance : ¬ Queued result.statusCode (lower word) → TypedGuidance data
  /-- a replay may say what it likes -/
  mode : truthy (replayFlag data) = false →
    ¬ (result.statusCode = 202 ∧ lower word = "deferred")

end Honesty

/-! ## What the classifiers validate -/

/-- What an answer that is no refusal and no replay means to a registration and an ingestion. -/
def meant (statusCode : Nat) (word : String) : SubmissionStatus :=
  if statusCode = 202 ∨ word ∈ ["accepted", "pending"] then .accepted
  else if word = "deferred" then .deferred
  else .success

/-- Without a rejection the branches on the word build one outcome. -/
theorem unrejected_eq {α : Type} {statusCode : Nat} {word : String}
    (outcome : SubmissionStatus → α) (rejected : α) (hword : word ∉ rejectedWords) :
    (if statusCode = 202 ∨ word ∈ ["accepted", "pending"] then outcome .accepted
      else if word = "deferred" then outcome .deferred
      else if word ∈ rejectedWords then rejected
      else outcome .success) = outcome (meant statusCode word) := by
  rw [if_neg hword, meant, apply_ite outcome, apply_ite outcome]

theorem typedAdvice_iff {data : Dict} : TypedAdvice data ↔
    Returns (textList (data.getOr "warnings" (.arr []))) ∧
      Returns (textList (suggestedActionsField data)) :=
  ⟨fun h => ⟨h.warnings, h.suggestedActions⟩, fun h => ⟨h.1, h.2⟩⟩

section Registration

variable {data : Dict} {statusCode : Nat} {request : RegistrationRequest} {word : String}

theorem returns_registrationOutcome (binding : Option IdentityBinding)
    (status : SubmissionStatus) :
    Returns (registrationOutcome data statusCode request binding status) ↔
      Returns (optionalText (registrationIdField data)) ∧ TypedAdvice data := by
  rw [typedAdvice_iff]
  exact returns_bind_of_iff fun _ => returns_bind_of_iff fun _ =>
    returns_bind_of_forall fun _ => returns_pure _

theorem registrationOutcome_status {binding : Option IdentityBinding} {status : SubmissionStatus}
    {outcome : RegistrationOutcome}
    (h : registrationOutcome data statusCode request binding status = .ok outcome) :
    outcome.status = status := by
  obtain ⟨registrationId, -, h⟩ := bind_ok.mp h
  obtain ⟨warnings, -, h⟩ := bind_ok.mp h
  obtain ⟨suggestedActions, -, h⟩ := bind_ok.mp h
  cases h
  rfl

theorem returns_identityBinding : Returns (identityBinding data) ↔
    ∀ name ∈ bindingNames, Returns (textField (bindingField data name)) := by
  have hfields : Returns (identityBinding data) ↔
      Returns (textField (bindingField data "tenant_id")) ∧
      Returns (textField (bindingField data "org_id")) ∧
      Returns (textField (bindingField data "user_id")) ∧
      Returns (textField (bindingField data "cohort_id")) ∧
      Returns (textField (bindingField data "worker_id")) ∧
      Returns (textField (bindingField data "repo_id")) ∧
      Returns (textField (bindingField data "workspace_id")) ∧
      Returns (textField (bindingField data "origin")) ∧
      Returns (textField (bindingField data "purpose")) :=
    returns_bind_of_iff fun _ => returns_bind_of_iff fun _ => returns_bind_of_iff fun _ =>
      returns_bind_of_iff fun _ => returns_bind_of_iff fun _ => returns_bind_of_iff fun _ =>
      returns_bind_of_iff fun _ => returns_bind_of_iff fun _ =>
      returns_bind_of_forall fun _ => returns_pure _
  rw [hfields]
  simp only [bindingNames, List.forall_mem_cons, List.not_mem_nil, false_imp_iff, implies_true,
    and_true]

theorem returns_extractIdentityBinding : Returns (extractIdentityBinding data) ↔
    ((∃ name ∈ bindingNames, truthy (bindingField data name) = true) →
      ∀ name ∈ bindingNames, Returns (textField (bindingField data name))) := by
  rw [extractIdentityBinding]
  by_cases hany : bindingNames.any (fun name => truthy (bindingField data name)) = true
  · rw [if_pos hany, returns_map, returns_identityBinding]
    exact ⟨fun h _ => h, fun h => h (List.any_eq_true.mp hany)⟩
  · rw [if_neg hany]
    exact ⟨fun _ hexists => absurd (List.any_eq_true.mpr hexists) hany, fun _ => returns_ok none⟩

/-- Without a rejection the branches validate the same fields. -/
theorem returns_registrationByWord (hword : word ∉ rejectedWords)
    (binding : Option IdentityBinding) :
    Returns (registrationByWord data statusCode request word binding) ↔
      Returns (optionalText (registrationIdField data)) ∧ TypedAdvice data := by
  rw [registrationByWord]
  by_cases hreplay : truthy (replayFlag data) = true
  · rw [if_pos hreplay, replayedRegistration, returns_bind_of_forall fun _ => returns_pure _]
    exact returns_registrationOutcome binding .replayed
  · rw [if_neg hreplay, unrejected_eq _ _ hword]
    exact returns_registrationOutcome binding _

theorem returns_classifyRegistration (hstatus : data.getOr "status" (.str "") = .str word)
    (hword : lower word ∉ rejectedWords) :
    Returns (classifyRegistration data statusCode request) ↔
      TypedRegistration data ∧ TypedAdvice data := by
  have hclassify : classifyRegistration data statusCode request
      = extractIdentityBinding data >>=
          registrationByWord data statusCode request (lower word) := by
    rw [classifyRegistration, hstatus]
    rfl
  rw [hclassify, returns_bind_of_iff fun binding => returns_registrationByWord hword binding,
    returns_extractIdentityBinding]
  constructor
  · rintro ⟨hbinding, hid, hadvice⟩
    exact ⟨⟨hid, hbinding⟩, hadvice⟩
  · rintro ⟨⟨hid, hbinding⟩, hadvice⟩
    exact ⟨hbinding, hid, hadvice⟩

end Registration

section Ingestion

variable {intField : Json → Except Raised Int}
variable {data : Dict} {statusCode : Nat} {request : IngestionRequest} {word : String}

/-- What holds of the dictionaries of a list holds of its head, if that is one. -/
theorem forall_obj_cons {p : Dict → Prop} {d : Dict} {rest : List Json} :
    (∀ item, .obj item ∈ Json.obj d :: rest → p item) ↔
      p d ∧ ∀ item, .obj item ∈ rest → p item := by
  constructor
  · exact fun h => ⟨h d List.mem_cons_self,
      fun other hother => h other (List.mem_cons_of_mem _ hother)⟩
  · rintro ⟨hfirst, hothers⟩ other hother
    rcases List.mem_cons.mp hother with heq | hmem
    · cases heq
      exact hfirst
    · exact hothers other hmem

theorem forall_obj_cons_of_ne {p : Dict → Prop} {v : Json} {rest : List Json}
    (hv : ∀ d, v ≠ .obj d) :
    (∀ item, .obj item ∈ v :: rest → p item) ↔ ∀ item, .obj item ∈ rest → p item := by
  constructor
  · exact fun h item hitem => h item (List.mem_cons_of_mem _ hitem)
  · intro h item hitem
    rcases List.mem_cons.mp hitem with heq | hmem
    · exact absurd heq.symm (hv item)
    · exact h item hmem

theorem returns_ingestionOutcome (graph : Option GraphSummary)
    (capabilities : List InferredCapability) (status : SubmissionStatus) :
    Returns (ingestionOutcome data statusCode request graph capabilities status) ↔
      Returns (optionalText (ingestionIdField data)) ∧ TypedAdvice data := by
  rw [typedAdvice_iff]
  exact returns_bind_of_iff fun _ => returns_bind_of_iff fun _ =>
    returns_bind_of_forall fun _ => returns_pure _

theorem ingestionOutcome_status {graph : Option GraphSummary}
    {capabilities : List InferredCapability} {status : SubmissionStatus}
    {outcome : IngestionOutcome}
    (h : ingestionOutcome data statusCode request graph capabilities status = .ok outcome) :
    outcome.status = status := by
  obtain ⟨ingestionId, -, h⟩ := bind_ok.mp h
  obtain ⟨warnings, -, h⟩ := bind_ok.mp h
  obtain ⟨suggestedActions, -, h⟩ := bind_ok.mp h
  cases h
  rfl

theorem returns_graphSummaryOf {graph : Dict} :
    Returns (graphSummaryOf intField graph) ↔ TypedGraph intField graph := by
  have hfields : Returns (graphSummaryOf intField graph) ↔
      Returns (intField (graph.getOr "node_count" (graph.getOr "nodes" (.int 0)))) ∧
      Returns (intField (graph.getOr "edge_count" (graph.getOr "edges" (.int 0)))) ∧
      Returns (intField (graph.getOr "components" (.int 0))) ∧
      Returns (textField (graph.getOr "primary_language" (.str ""))) ∧
      Returns (textList (graph.getOr "topology_notes" (.arr []))) :=
    returns_bind_of_iff fun _ => returns_bind_of_iff fun _ => returns_bind_of_iff fun _ =>
      returns_bind_of_iff fun _ => returns_bind_of_forall fun _ => returns_pure _
  rw [hfields]
  constructor
  · rintro ⟨hnodes, hedges, hcomponents, hlanguage, hnotes⟩
    exact ⟨hnodes, hedges, hcomponents, hlanguage, hnotes⟩
  · exact fun h =>
      ⟨h.nodeCount, h.edgeCount, h.components, h.primaryLanguage, h.topologyNotes⟩

theorem returns_extractGraphSummary : Returns (extractGraphSummary intField data) ↔
    ∀ graph, graphField data = .obj graph → graph ≠ [] → TypedGraph intField graph := by
  rw [extractGraphSummary]
  cases hgraph : graphField data with
  | obj graph =>
    show Returns (if graph = [] then .ok none else (graphSummaryOf intField graph).map some) ↔ _
    by_cases hempty : graph = []
    · rw [if_pos hempty]
      refine ⟨fun _ other hother hne => ?_, fun _ => returns_ok none⟩
      cases hother
      exact absurd hempty hne
    · rw [if_neg hempty, returns_map, returns_graphSummaryOf]
      constructor
      · rintro h other hother -
        cases hother
        exact h
      · exact fun h => h graph rfl hempty
  | _ =>
    exact ⟨nofun, fun _ => returns_ok none⟩

theorem returns_inferredCapability {item : Dict} :
    Returns (inferredCapability item) ↔ TypedCapability item := by
  have hfields : Returns (inferredCapability item) ↔
      Returns (textField (item.getOr "name" (.str ""))) ∧
      Returns (textField (item.getOr "basis" (.str ""))) ∧
      Returns (textField (item.getOr "category" (.str ""))) :=
    returns_bind_of_iff fun _ => returns_bind_of_iff fun _ =>
      returns_bind_of_forall fun _ => returns_pure _
  rw [hfields]
  constructor
  · rintro ⟨hname, hbasis, hcategory⟩
    exact ⟨hname, hbasis, hcategory⟩
  · exact fun h => ⟨h.name, h.basis, h.category⟩

/-- The loop returns if all the dictionaries it meets are capabilities. -/
theorem returns_inferredItems (items : List Json) : Returns (inferredItems items) ↔
    ∀ item, .obj item ∈ items → TypedCapability item := by
  induction items with
  | nil => exact ⟨nofun, fun _ => returns_ok []⟩
  | cons v rest ih =>
    cases v with
    | obj item =>
      have hbind : Returns (inferredItems (.obj item :: rest)) ↔
          Returns (inferredCapability item) ∧ Returns (inferredItems rest) :=
        returns_bind_of_iff fun _ => returns_bind_of_forall fun _ => returns_pure _
      rw [hbind, returns_inferredCapability, ih, forall_obj_cons]
    | str name =>
      have hbind : Returns (inferredItems (.str name :: rest)) ↔
          Returns (inferredItems rest) :=
        returns_bind_of_forall fun _ => returns_pure _
      rw [hbind, ih, forall_obj_cons_of_ne]
      exact fun d => nofun
    | _ =>
      rw [forall_obj_cons_of_ne]
      · exact ih
      · exact fun d => nofun

theorem returns_ingestionByWord (hword : word ∉ rejectedWords) (graph : Option GraphSummary)
    (capabilities : List InferredCapability) :
    Returns (ingestionByWord data statusCode request word graph capabilities) ↔
      Returns (optionalText (ingestionIdField data)) ∧ TypedAdvice data := by
  rw [ingestionByWord, unrejected_eq _ _ hword]
  exact returns_ingestionOutcome graph capabilities _

theorem returns_classifyIngestion (hstatus : data.getOr "status" (.str "") = .str word)
    (hword : lower word ∉ rejectedWords) :
    Returns (classifyIngestion intField data statusCode request) ↔
      TypedIngestion intField data ∧ TypedAdvice data := by
  have hclassify : classifyIngestion intField data statusCode request
      = extractGraphSummary intField data >>= fun graph =>
          extractInferredCapabilities data >>= fun capabilities =>
            ingestionByWord data statusCode request (lower word) graph capabilities := by
    rw [classifyIngestion, hstatus]
    rfl
  rw [hclassify, returns_bind_of_iff fun graph => returns_bind_of_iff fun capabilities =>
    returns_ingestionByWord hword graph capabilities, returns_extractGraphSummary,
    extractInferredCapabilities, returns_inferredItems]
  constructor
  · rintro ⟨hgraph, hcapabilities, hid, hadvice⟩
    exact ⟨⟨hid, hgraph, hcapabilities⟩, hadvice⟩
  · rintro ⟨⟨hid, hgraph, hcapabilities⟩, hadvice⟩
    exact ⟨hgraph, hcapabilities, hid, hadvice⟩

end Ingestion

section Alignment

variable {confidenceField : Json → Except Raised String}
variable {compareConfidence : String → String → Option Ordering}
variable {data : Dict} {statusCode : Nat} {request : AlignmentGuidanceRequest} {word : String}

theorem returns_textField {v : Json} : Returns (textField v) ↔ isText v = true :=
  ⟨fun ⟨_, h⟩ => isText_of_textField h, textField_of_isText⟩

/-- A key with a text has it whatever the default is. -/
theorem getOr_of_get_str {d : Dict} {k text : String} (h : d.get k = .str text) (v : Json) :
    d.getOr k v = .str text := by
  cases hhas : d.has k with
  | true => rw [getOr_of_has hhas, h]
  | false =>
    rw [get_of_not_has hhas] at h
    exact nomatch h

theorem returns_fallbackItem {d : Dict} : Returns (fallbackItem d) ↔ TypedItem d := by
  have hfields : Returns (fallbackItem d) ↔
      Returns (textField (d.getOr "id" (.str "unknown"))) ∧
      Returns (textField (d.getOr "title" (.str "Unknown guidance item"))) ∧
      Returns (textField (d.getOr "detail" (.str ""))) ∧
      Returns (textList (d.getOr "repair" (.arr []))) ∧
      Returns (textField (d.getOr "source" (.str "server"))) :=
    returns_bind_of_iff fun _ => returns_bind_of_iff fun _ => returns_bind_of_iff fun _ =>
      returns_bind_of_iff fun _ => returns_bind_of_forall fun _ => returns_pure _
  rw [hfields]
  constructor
  · rintro ⟨hid, htitle, hdetail, hrepair, hsource⟩
    exact ⟨hid, htitle, hdetail, hrepair, hsource⟩
  · exact fun h => ⟨h.id, h.title, h.detail, h.repair, h.source⟩

/-- What is a guidance item has the fields the fallback keeps. -/
theorem typedItem_of_validateItem {d : Dict} {item : GuidanceItem}
    (h : validateItem confidenceField d = .ok item) : TypedItem d := by
  obtain ⟨id, hid, h⟩ := bind_ok.mp h
  obtain ⟨guidanceClass, -, h⟩ := bind_ok.mp h
  obtain ⟨severity, -, h⟩ := bind_ok.mp h
  obtain ⟨confidence, -, h⟩ := bind_ok.mp h
  obtain ⟨state, -, h⟩ := bind_ok.mp h
  obtain ⟨title, htitle, h⟩ := bind_ok.mp h
  obtain ⟨detail, hdetail, h⟩ := bind_ok.mp h
  obtain ⟨repair, hrepair, h⟩ := bind_ok.mp h
  obtain ⟨source, hsource, -⟩ := bind_ok.mp h
  constructor
  case id =>
    rw [getOr_of_get_str (textField_eq_ok.mp hid)]
    exact returns_ok id
  case title =>
    rw [getOr_of_get_str (textField_eq_ok.mp htitle)]
    exact returns_ok title
  case detail => exact ⟨detail, hdetail⟩
  case repair => exact ⟨repair, hrepair⟩
  case source =>
    rw [returns_textField, isText_getOr d "source" "server" ""]
    exact isText_of_textField hsource

/-- Whether an item is kept as it is or falls back, it has these fields. -/
theorem returns_parseItem {d : Dict} :
    Returns (parseItem confidenceField d) ↔ TypedItem d := by
  rw [parseItem]
  cases hvalid : validateItem confidenceField d with
  | ok item => exact ⟨fun _ => typedItem_of_validateItem hvalid, fun _ => returns_ok item⟩
  | error raised => exact returns_fallbackItem

theorem returns_parseItems (items : List Json) : Returns (parseItems confidenceField items) ↔
    ∀ d, .obj d ∈ items → TypedItem d := by
  induction items with
  | nil => exact ⟨nofun, fun _ => returns_ok []⟩
  | cons v rest ih =>
    cases v with
    | obj d =>
      have hbind : Returns (parseItems confidenceField (.obj d :: rest)) ↔
          Returns (parseItem confidenceField d) ∧ Returns (parseItems confidenceField rest) :=
        returns_bind_of_iff fun _ => returns_bind_of_forall fun _ => returns_pure _
      rw [hbind, returns_parseItem, ih, forall_obj_cons]
    | _ =>
      rw [forall_obj_cons_of_ne]
      · exact ih
      · exact fun d => nofun

theorem returns_parseGuidance (raw : Json) : Returns (parseGuidance confidenceField raw) ↔
    isIterable raw = true ∧ ∀ d, .obj d ∈ asList raw → TypedItem d := by
  cases raw with
  | arr items =>
    exact (returns_parseItems items).trans ⟨fun h => ⟨rfl, h⟩, fun h => h.2⟩
  | str text => exact ⟨fun _ => ⟨rfl, nofun⟩, fun _ => returns_ok []⟩
  | obj fields => exact ⟨fun _ => ⟨rfl, nofun⟩, fun _ => returns_ok []⟩
  | _ =>
    exact ⟨fun ⟨_, h⟩ => (nomatch h), fun h => (nomatch h.1)⟩

/-- The next action is a text, or one of the items' own. -/
theorem returns_nextAction (items : List GuidanceItem) :
    Returns (optionalText (nextActionField compareConfidence data items)) ↔
      (truthy (data.get "next_best_action") = true →
        isText (data.get "next_best_action") = true) := by
  rw [nextActionField, orElse]
  by_cases htruthy : truthy (data.get "next_best_action") = true
  · rw [if_pos htruthy]
    cases hnext : data.get "next_best_action" with
    | str text => exact ⟨fun _ _ => rfl, fun _ => returns_ok (some text)⟩
    | null =>
      rw [hnext] at htruthy
      cases htruthy
    | _ =>
      rw [hnext] at htruthy
      constructor
      · rintro ⟨_, h⟩
        cases h
      · intro h
        cases h htruthy
  · rw [if_neg htruthy]
    refine ⟨fun _ h => absurd h htruthy, fun _ => ?_⟩
    cases pickNextAction compareConfidence items with
    | none => exact returns_ok none
    | some step => exact returns_ok (some step)

theorem returns_terminalAlignment :
    Returns (terminalAlignment confidenceField compareConfidence data request) ↔
      TypedGuidance data ∧ Returns (optionalText (runIdField data)) := by
  have hfields : Returns (terminalAlignment confidenceField compareConfidence data request) ↔
      Returns (parseGuidance confidenceField (rawItems data)) ∧
      (truthy (data.get "next_best_action") = true →
        isText (data.get "next_best_action") = true) ∧
      Returns (optionalText (runIdField data)) := by
    refine returns_bind_of_iff fun items => ?_
    exact (returns_bind_of_iff fun _ => returns_bind_of_forall fun _ => returns_pure _).trans
      (and_congr_left' (returns_nextAction items))
  rw [hfields, returns_parseGuidance]
  constructor
  · rintro ⟨⟨hiterable, hitems⟩, hnext, hrun⟩
    exact ⟨⟨hiterable, hitems, hnext⟩, hrun⟩
  · rintro ⟨hguidance, hrun⟩
    exact ⟨⟨hguidance.iterable, hguidance.items⟩, hguidance.nextBestAction, hrun⟩

theorem returns_classifyAlignment (hstatus : data.getOr "status" (.str "") = .str word)
    (hcode : statusCode < 400) :
    Returns (classifyAlignment confidenceField compareConfidence data statusCode request) ↔
      Returns (optionalText (runIdField data)) ∧
      (¬ Queued statusCode (lower word) → TypedGuidance data) := by
  have hclassify : classifyAlignment confidenceField compareConfidence data statusCode request
      = alignmentByWord confidenceField compareConfidence data statusCode request (lower word) := by
    rw [classifyAlignment, hstatus]
    rfl
  rw [hclassify, alignmentByWord]
  by_cases hqueued : statusCode = 202 ∨ lower word ∈ ["accepted", "pending", "deferred"]
  · have hrun : Returns (queuedAlignment data request (lower word)) ↔
        Returns (optionalText (runIdField data)) :=
      returns_bind_of_forall fun _ => returns_pure _
    rw [if_pos hqueued, hrun]
    exact ⟨fun h => ⟨h, fun hnot => absurd hqueued hnot⟩, fun h => h.1⟩
  · rw [if_neg hqueued, if_neg (Nat.not_le.mpr hcode), returns_terminalAlignment]
    exact ⟨fun h => ⟨h.2, fun _ => h.1⟩, fun h => ⟨h.2 hqueued, h.1⟩⟩

end Alignment

/-! ## What the outcomes say -/

/-- What such an answer means to an alignment. -/
def meantByAlignment (statusCode : Nat) (word : String) : Report :=
  if statusCode = 202 ∨ word ∈ ["accepted", "pending", "deferred"] then
    if word = "deferred" then .deferred else .accepted
  else .success

/-- The two differ on a deferral that is answered with 202. -/
theorem meant_agrees_iff {statusCode : Nat} {word : String} :
    (meant statusCode word).report = meantByAlignment statusCode word ↔
      ¬ (statusCode = 202 ∧ word = "deferred") := by
  rw [meant, meantByAlignment]
  by_cases hdeferred : word = "deferred"
  · subst hdeferred
    have hqueued : statusCode = 202 ∨ "deferred" ∈ ["accepted", "pending", "deferred"] :=
      .inr (by decide)
    rw [if_pos hqueued, if_pos rfl, if_pos rfl]
    by_cases hcode : statusCode = 202
    · rw [if_pos (.inl hcode)]
      exact ⟨nofun, fun h => absurd ⟨hcode, rfl⟩ h⟩
    · have hnot : ¬ (statusCode = 202 ∨ "deferred" ∈ ["accepted", "pending"]) :=
        fun h => h.elim hcode (by decide)
      rw [if_neg hnot]
      exact ⟨fun _ h => hcode h.1, fun _ => rfl⟩
  · rw [if_neg hdeferred, if_neg hdeferred]
    refine ⟨fun _ h => hdeferred h.2, fun _ => ?_⟩
    by_cases haccepted : statusCode = 202 ∨ word ∈ ["accepted", "pending"]
    · have hqueued : statusCode = 202 ∨ word ∈ ["accepted", "pending", "deferred"] :=
        haccepted.imp_right fun h => List.mem_append_left ["deferred"] h
      rw [if_pos haccepted, if_pos hqueued]
      rfl
    · have hnot : ¬ (statusCode = 202 ∨ word ∈ ["accepted", "pending", "deferred"]) := by
        rintro (h | h)
        · exact haccepted (.inl h)
        · rcases List.mem_append.mp
            (show word ∈ ["accepted", "pending"] ++ ["deferred"] from h) with h | h
          · exact haccepted (.inr h)
          · exact hdeferred (List.mem_singleton.mp h)
      rw [if_neg haccepted, if_neg hnot]
      rfl

theorem meantByAlignment_ne_failure (statusCode : Nat) (word : String) :
    meantByAlignment statusCode word ≠ .failure := by
  rw [meantByAlignment]
  by_cases hqueued : statusCode = 202 ∨ word ∈ ["accepted", "pending", "deferred"]
  · rw [if_pos hqueued]
    by_cases hdeferred : word = "deferred"
    · rw [if_pos hdeferred]
      exact nofun
    · rw [if_neg hdeferred]
      exact nofun
  · rw [if_neg hqueued]
    exact nofun

section Meaning

variable {data : Dict} {statusCode : Nat} {word : String}

theorem classifyRegistration_status {request : RegistrationRequest} {outcome : RegistrationOutcome}
    (hstatus : data.getOr "status" (.str "") = .str word) (hword : lower word ∉ rejectedWords)
    (hreplay : truthy (replayFlag data) = false)
    (h : classifyRegistration data statusCode request = .ok outcome) :
    outcome.status = meant statusCode (lower word) := by
  rw [classifyRegistration, hstatus] at h
  obtain ⟨binding, -, h⟩ := bind_ok.mp
    (show (extractIdentityBinding data >>=
      registrationByWord data statusCode request (lower word)) = .ok outcome from h)
  rw [registrationByWord, if_neg (Bool.eq_false_iff.mp hreplay), unrejected_eq _ _ hword] at h
  exact registrationOutcome_status h

theorem classifyIngestion_status {intField : Json → Except Raised Int}
    {request : IngestionRequest} {outcome : IngestionOutcome}
    (hstatus : data.getOr "status" (.str "") = .str word) (hword : lower word ∉ rejectedWords)
    (h : classifyIngestion intField data statusCode request = .ok outcome) :
    outcome.status = meant statusCode (lower word) := by
  rw [classifyIngestion, hstatus] at h
  obtain ⟨graph, -, h⟩ := bind_ok.mp
    (show (extractGraphSummary intField data >>= fun graph =>
      extractInferredCapabilities data >>= fun capabilities =>
        ingestionByWord data statusCode request (lower word) graph capabilities) = .ok outcome
      from h)
  obtain ⟨capabilities, -, h⟩ := bind_ok.mp h
  rw [ingestionByWord, unrejected_eq _ _ hword] at h
  exact ingestionOutcome_status h

/-- Below 400 no word is a failure to an alignment. -/
theorem classifyAlignment_report {confidenceField : Json → Except Raised String}
    {compareConfidence : String → String → Option Ordering} {request : AlignmentGuidanceRequest}
    {outcome : AlignmentGuidanceResult} (hstatus : data.getOr "status" (.str "") = .str word)
    (hcode : statusCode < 400)
    (h : classifyAlignment confidenceField compareConfidence data statusCode request = .ok outcome) :
    outcome.report = meantByAlignment statusCode (lower word) := by
  rw [classifyAlignment, hstatus] at h
  have hbyWord : alignmentByWord confidenceField compareConfidence data statusCode request
      (lower word) = .ok outcome := h
  rw [alignmentByWord] at hbyWord
  rw [meantByAlignment]
  by_cases hqueued : statusCode = 202 ∨ lower word ∈ ["accepted", "pending", "deferred"]
  · rw [if_pos hqueued] at hbyWord ⊢
    obtain ⟨runId, -, hresult⟩ := bind_ok.mp hbyWord
    cases hresult
    by_cases hdeferred : lower word = "deferred"
    · rw [if_pos hdeferred, if_pos hdeferred]
      rfl
    · rw [if_neg hdeferred, if_neg hdeferred]
      rfl
  · rw [if_neg hqueued, if_neg (Nat.not_le.mpr hcode)] at hbyWord
    rw [if_neg hqueued]
    obtain ⟨items, -, hresult⟩ := bind_ok.mp hbyWord
    obtain ⟨nextBestAction, -, hresult⟩ := bind_ok.mp hresult
    obtain ⟨runId, -, hresult⟩ := bind_ok.mp hresult
    cases hresult
    rfl

/-- A word the two take for a rejection is a refusal. -/
theorem refused_of_rejected {doc : Json} (hdoc : doc = .obj data)
    (hstatus : data.getOr "status" (.str "") = .str word) (hword : lower word ∈ rejectedWords) :
    Refused doc := by
  refine .stated hdoc ⟨word, ?_, ?_⟩
  · cases hhas : data.has "status" with
    | true => exact (getOr_of_has hhas).symm.trans hstatus
    | false =>
      rw [getOr_of_not_has hhas] at hstatus
      cases hstatus
      exact absurd hword (by decide)
  · have hwords : ∀ w ∈ rejectedWords, strip w ∈ refusalWords := by decide
    exact hwords _ hword

end Meaning

/-! ## The answers -/

section Honesty

variable {intField : Json → Except Raised Int}
variable {confidenceField : Json → Except Raised String}
variable {compareConfidence : String → String → Option Ordering}
variable {result : Answered} {data : Dict}

theorem submitRegistration_object (h : result.data = .obj data) (request : RegistrationRequest) :
    submitRegistration (.ok result) request
      = classifyRegistration data result.statusCode request := by
  simp only [submitRegistration, h]

theorem submitIngestion_object (h : result.data = .obj data) (request : IngestionRequest) :
    submitIngestion intField (.ok result) request
      = classifyIngestion intField data result.statusCode request := by
  simp only [submitIngestion, h]

theorem submitAlignment_object (h : result.data = .obj data) (request : AlignmentGuidanceRequest) :
    submitAlignment confidenceField compareConfidence (.ok result) request
      = classifyAlignment confidenceField compareConfidence data result.statusCode request := by
  simp only [submitAlignment, h]

/-- What is classified is an object with a text for its status. -/
theorem object_of_returns {request : RegistrationRequest}
    (h : Returns (submitRegistration (.ok result) request)) :
    ∃ data word, result.data = .obj data ∧ Dict.getOr data "status" (.str "") = .str word := by
  cases hdata : result.data with
  | obj data =>
    rw [submitRegistration_object hdata, classifyRegistration, returns_bind] at h
    obtain ⟨serverStatus, hlowered, -⟩ := h
    cases hstatus : Dict.getOr data "status" (.str "") with
    | str word => exact ⟨data, word, rfl, hstatus⟩
    | _ =>
      rw [hstatus] at hlowered
      cases hlowered
  | _ =>
    have hraises : submitRegistration (.ok result) request = .error "AttributeError" := by
      simp only [submitRegistration, hdata]
    rw [hraises] at h
    exact absurd h (not_returns_error _)

/-- The submitters are honest about the plain answers, and about no others. -/
theorem honest_iff_plain (intField : Json → Except Raised Int)
    (confidenceField : Json → Except Raised String)
    (compareConfidence : String → String → Option Ordering) (result : Answered) :
    Honest intField confidenceField compareConfidence result ↔
      ∃ data word, Plain intField result data word := by
  constructor
  · intro h
    obtain ⟨hregistration, hingestion, halignment⟩ :=
      h.returns ⟨"", .native, .notReady, false, ""⟩ ⟨"", false, ""⟩ ⟨""⟩
    obtain ⟨data, word, hdata, hstatus⟩ := object_of_returns hregistration
    rw [submitRegistration_object hdata] at hregistration
    rw [submitIngestion_object hdata] at hingestion
    rw [submitAlignment_object hdata] at halignment
    have hreport : ∀ {request outcome},
        submitAlignment confidenceField compareConfidence (.ok result) request = .ok outcome →
        outcome.report = meantByAlignment result.statusCode (lower word) := by
      intro request outcome hok
      rw [submitAlignment_object hdata] at hok
      exact classifyAlignment_report hstatus result.answered hok
    have hunrefused : ¬ Refused result.data := by
      intro hrefused
      obtain ⟨outcome, hok⟩ := halignment
      rw [← submitAlignment_object hdata] at hok
      exact meantByAlignment_ne_failure _ _
        ((hreport hok).symm.trans ((h.refused hrefused).2.2 _ outcome hok))
    have hword : lower word ∉ rejectedWords :=
      fun hrejected => hunrefused (refused_of_rejected hdata hstatus hrejected)
    obtain ⟨htypedRegistration, hadvice⟩ :=
      (returns_classifyRegistration hstatus hword).mp hregistration
    obtain ⟨htypedIngestion, -⟩ := (returns_classifyIngestion hstatus hword).mp hingestion
    obtain ⟨hrun, hguidance⟩ := (returns_classifyAlignment hstatus result.answered).mp halignment
    refine ⟨data, word, hdata, hstatus, hunrefused, hadvice, htypedRegistration, htypedIngestion,
      hrun, hguidance, fun hreplay => ?_⟩
    obtain ⟨registration, hregistration⟩ := hregistration
    obtain ⟨ingestion, hingestion⟩ := hingestion
    obtain ⟨alignment, halignment⟩ := halignment
    have hflag : truthy (replayFlag (asDict result.data)) = false := by
      rw [hdata]
      exact hreplay
    have hsame := (h.agree hflag _ _ _ registration ingestion alignment
      ((submitRegistration_object hdata _).trans hregistration)
      ((submitIngestion_object hdata _).trans hingestion)
      ((submitAlignment_object hdata _).trans halignment)).2
    rw [classifyIngestion_status hstatus hword hingestion,
      classifyAlignment_report hstatus result.answered halignment] at hsame
    exact meant_agrees_iff.mp hsame
  · rintro ⟨data, word, h⟩
    have hword : lower word ∉ rejectedWords :=
      fun hrejected => h.unrefused (refused_of_rejected h.object h.status hrejected)
    refine ⟨fun registration ingestion alignment => ⟨?_, ?_, ?_⟩,
      fun hrefused => absurd hrefused h.unrefused, ?_⟩
    · rw [submitRegistration_object h.object]
      exact (returns_classifyRegistration h.status hword).mpr ⟨h.registration, h.advice⟩
    · rw [submitIngestion_object h.object]
      exact (returns_classifyIngestion h.status hword).mpr ⟨h.ingestion, h.advice⟩
    · rw [submitAlignment_object h.object]
      exact (returns_classifyAlignment h.status result.answered).mpr ⟨h.runId, h.guidance⟩
    · intro hflag forRegistration forIngestion forAlignment registration ingestion alignment
        hregistration hingestion halignment
      rw [submitRegistration_object h.object] at hregistration
      rw [submitIngestion_object h.object] at hingestion
      rw [submitAlignment_object h.object] at halignment
      rw [h.object] at hflag
      rw [classifyRegistration_status h.status hword hflag hregistration,
        classifyIngestion_status h.status hword hingestion,
        classifyAlignment_report h.status result.answered halignment]
      exact ⟨rfl, meant_agrees_iff.mpr (h.mode hflag)⟩

end Honesty

/-- The validation of an integer that is given as one. -/
def plainInt : Json → Except Raised Int
  | .int n => .ok n
  | _ => .error "ValidationError"

/-- The validation of a confidence that is given as a float. -/
def plainConfidence : Json → Except Raised String
  | .float text => .ok text
  | _ => .error "ValidationError"

/-- The order of two confidences that are equal or not to be compared. -/
def plainCompare (a b : String) : Option Ordering := if a = b then some .eq else none

/-- A rejection at HTTP 200. -/
def rejectedAnswer : Answered where
  data := .obj [("status", .str "rejected"), ("reason", .str "policy denied")]
  statusCode := 200
  answered := by decide

/-- An alignment takes it for a success. -/
theorem rejection_claimed : ¬ Honest plainInt plainConfidence plainCompare rejectedAnswer := by
  intro h
  have hrefused : Refused rejectedAnswer.data :=
    .stated rfl ⟨"rejected", rfl, by decide⟩
  obtain ⟨outcome, hok⟩ := (h.returns ⟨"", .native, .notReady, false, ""⟩ ⟨"", false, ""⟩ ⟨""⟩).2.2
  have hfailure := (h.refused hrefused).2.2 _ outcome hok
  rw [submitAlignment_object rfl] at hok
  have hstatus : Dict.getOr [("status", .str "rejected"), ("reason", .str "policy denied")]
      "status" (.str "") = .str "rejected" := rfl
  rw [classifyAlignment_report hstatus rejectedAnswer.answered hok] at hfailure
  exact meantByAlignment_ne_failure _ _ hfailure

end KeyholeSubmitters
