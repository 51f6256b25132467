import Keyhole.AmbiguousAliases
import Keyhole.SchemaHints

/-!
# The preflight of a dispatch

Before a run is dispatched its name is validated and its parameters are checked against
the schema hint.  The validator strips the name, the live index strips it too, and the
table of published hints is asked for the name as it was typed; the decision to reject
is then read off the texts of the warnings.  This file models
`DispatchPreflight.check` of `dispatch/preflight.py`.

* `check_status` — the status of an accepted name, from its hint;
* `PaddingSafe` — white space around a name changes nothing, and no required parameter
  is waived;
* `paddingSafe_iff` — when that holds. -/

namespace KeyholePreflight

open KeyholeJson KeyholeOperations KeyholeRunTypes KeyholeSchema KeyholeAliases

/-- `PreflightStatus`. -/
inductive PreflightStatus where
  | pass
  | warn
  | reject
  deriving DecidableEq, Repr

/-- `PreflightResult`. -/
structure PreflightResult where
  status : PreflightStatus
  runType : String
  reason : String
  suggestedNextStep : String := ""
  warnings : List String := []
  deriving DecidableEq, Repr

/-- `DispatchPreflight`. -/
structure DispatchPreflight where
  validator : RunTypeValidator
  schema : SchemaHelper

/-- `DispatchPreflight.from_capabilities`, `none` when it raises a `TypeError`. -/
def DispatchPreflight.fromCapabilities (known : Mistakes) (caps : CapabilitiesResult) :
    Option DispatchPreflight := do
  let validator ← RunTypeValidator.fromCapabilities known caps
  let schema ← SchemaHelper.fromCapabilities caps
  return ⟨validator, schema⟩

/-- The step suggested for a name that is not accepted. -/
def refusalStep (result : RunTypeCheckResult) : String :=
  match result.status with
  | .invalid =>
      if result.suggestions.isEmpty then "Re-check capabilities via GET /mcp/v1/capabilities."
      else "Use the exact canonical name: " ++ join ", " result.suggestions
  | .unknown =>
      "Re-check capabilities via GET /mcp/v1/capabilities. Do not guess run-type names."
  | .discoveryUnavailable =>
      "Refresh capabilities or use a valid cache before dispatching server-added operations."
  | .ambiguous =>
      "The server capability contract advertises an ambiguous operation alias. "
        ++ "Refresh capabilities or contact the operator."
  | .valid => ""

/-- The second and third step, for a name that is accepted. -/
def DispatchPreflight.checkParams (p : DispatchPreflight) (runType effective : String)
    (params : Option Dict) : PreflightResult :=
  -- the name as it was typed, not the canonical run type
  let warnings := p.schema.validateParams runType params
  if warnings.isEmpty then {
    status := .pass
    runType := effective
    reason := "Run type is canonical and parameters are valid." }
  -- the decision is read off the texts
  else if warnings.any readsMissing then {
    status := .reject
    runType := effective
    reason := "Required parameters are missing."
    suggestedNextStep := "Consult schema for required parameters. Hint: "
      ++ (p.schema.getHint runType).notes
    warnings }
  else {
    status := .warn
    runType := effective
    reason := "Preflight passed with warnings."
    suggestedNextStep := "Review warnings before dispatch."
    warnings }

/-- `DispatchPreflight.check`. -/
def DispatchPreflight.check (lower : String → String) (p : DispatchPreflight) (runType : String)
    (params : Option Dict) : PreflightResult :=
  let result := p.validator.check lower runType
  if result.status = .valid then
    p.checkParams runType (textOr result.canonicalRunType runType) params
  else {
    status := .reject
    runType
    reason := result.reason
    suggestedNextStep := refusalStep result }

variable {name padded : String} {params : Dict} {op : Discovered}

section

variable {lower : String → String} {known : Mistakes} {caps : CapabilitiesResult}
  {p : DispatchPreflight}

/-! ## The status of an accepted name -/

/-- A parameter the hint requires is absent. -/
def Absent (required : List String) (params : Dict) : Prop :=
  ∃ req ∈ required, Dict.has params req = false

instance (required : List String) (params : Dict) : Decidable (Absent required params) :=
  List.decidableBEx (fun req => Dict.has params req = false) required

/-- The status of a name under a hint. -/
def statusUnder (hint : SchemaHint) (name : String) (params : Dict) : PreflightStatus :=
  if hint.available = true then if Absent hint.required params then .reject else .pass
  else if readsMissing name = true then .reject else .warn

theorem absent_filter {required : List String} :
    Absent required params ↔ required.filter (fun req => !Dict.has params req) ≠ [] := by
  rw [ne_eq, List.filter_eq_nil_iff]
  constructor
  · rintro ⟨req, hreq, habsent⟩ h
    apply h req hreq
    rw [habsent]
    rfl
  · intro h
    by_contra hall
    apply h
    intro req hreq hmissing
    exact hall ⟨req, hreq, by rwa [Bool.not_eq_true'] at hmissing⟩

/-- The status read off the warnings. -/
def statusOf (warnings : List String) : PreflightStatus :=
  if warnings.isEmpty then .pass else if warnings.any readsMissing then .reject else .warn

theorem checkParams_status (name effective : String) (params : Option Dict) :
    (p.checkParams name effective params).status
      = statusOf (p.schema.validateParams name params) := by
  rw [DispatchPreflight.checkParams, statusOf]
  by_cases hnone : (p.schema.validateParams name params).isEmpty = true
  · rw [if_pos hnone, if_pos hnone]
  · rw [if_neg hnone, if_neg hnone]
    by_cases hmissing : (p.schema.validateParams name params).any readsMissing = true
    · rw [if_pos hmissing, if_pos hmissing]
    · rw [if_neg hmissing, if_neg hmissing]

theorem statusOf_missing (name : String) (missing : List String) :
    statusOf (missing.map (missingWarning name)) = if missing = [] then .pass else .reject := by
  cases missing with
  | nil => rfl
  | cons req rest =>
    rw [statusOf, List.map_cons, List.any_cons, readsMissing_missing, Bool.true_or, if_pos rfl]
    rfl

/-- The status of an accepted name depends on its hint, and on the name only where the
    hint is unavailable. -/
theorem check_status (h : (p.validator.check lower name).status = .valid) (params : Dict) :
    (p.check lower name (some params)).status
      = statusUnder (p.schema.getHint name) name params := by
  rw [DispatchPreflight.check, if_pos h, checkParams_status, statusUnder,
    SchemaHelper.validateParams]
  cases (p.schema.getHint name).available with
  | false =>
    show statusOf [unavailableWarning name] = if readsMissing name = true then _ else _
    rw [statusOf, List.any_cons, List.any_nil, Bool.or_false, readsMissing_unavailable]
    rfl
  | true =>
    show statusOf (((p.schema.getHint name).required.filter _).map (missingWarning name))
      = if Absent (p.schema.getHint name).required params then _ else _
    rw [statusOf_missing]
    by_cases habsent : Absent (p.schema.getHint name).required params
    · rw [if_pos habsent, if_neg (absent_filter.mp habsent)]
    · rw [if_neg habsent, if_pos (not_not.mp (mt absent_filter.mpr habsent))]

/-! ## The hint of a name -/

/-- The hint the helper of a capabilities result gives for a name. -/
def hintFor (caps : CapabilitiesResult) (name : String) : SchemaHint :=
  match resolveLive caps name with
  | some op => operationHint (schemasOf caps) op.definition
  | none => tableHint (schemasOf caps) name

theorem helper_hint {helper : SchemaHelper} (h : SchemaHelper.fromCapabilities caps = some helper)
    (name : String) : helper.getHint name = hintFor caps name := by
  rw [SchemaHelper.fromCapabilities] at h
  rw [hintFor, resolveLive]
  cases hregistry : registryFromCapabilities caps with
  | ok registry =>
    rw [hregistry] at h
    cases h
    rfl
  | error raised =>
    rw [hregistry] at h
    cases raised with
    | typeError => cases h
    | ambiguousAlias message =>
      cases h
      rfl

theorem preflight_parts (h : DispatchPreflight.fromCapabilities known caps = some p) :
    RunTypeValidator.fromCapabilities known caps = some p.validator
      ∧ SchemaHelper.fromCapabilities caps = some p.schema := by
  rw [DispatchPreflight.fromCapabilities] at h
  obtain ⟨validator, hvalidator, h⟩ := Option.bind_eq_some_iff.mp h
  obtain ⟨schema, hschema, h⟩ := Option.bind_eq_some_iff.mp h
  cases h
  exact ⟨hvalidator, hschema⟩

/-- What the validator accepts: a name of a live operation, or a published name. -/
theorem accepted_cases (hp : DispatchPreflight.fromCapabilities known caps = some p)
    (h : (p.validator.check lower name).status = .valid) :
    (∃ op, resolveLive caps name = some op
        ∧ (p.validator.check lower name).canonicalRunType = op.definition.canonicalRunType)
      ∨ resolveLive caps name = none ∧ strip name ∈ publishedNames caps
        ∧ (p.validator.check lower name).canonicalRunType = strip name := by
  obtain ⟨hcanonical, hdiscover⟩ := fromCapabilities_spec (preflight_parts hp).1
  obtain ⟨-, hcases⟩ := (check_valid_iff name _).mp ⟨h, rfl⟩
  rw [hcanonical, hdiscover, resolveLive_strip] at hcases
  rcases hcases with ⟨op, hop, hsame⟩ | ⟨hnone, hmem, hsame⟩
  · exact .inl ⟨op, hop, hsame.symm⟩
  · exact .inr ⟨hnone, hmem, hsame.symm⟩

/-- Padding a name does not change whether it is accepted. -/
theorem accepted_padded (hpad : strip padded = strip name)
    (h : (p.validator.check lower name).status = .valid) :
    (p.validator.check lower padded).status = .valid := by
  have hvalid := (check_valid_iff name _).mp ⟨h, rfl⟩
  rw [← hpad] at hvalid
  exact ((check_valid_iff padded _).mpr hvalid).1

theorem resolveLive_padded (hpad : strip padded = strip name) :
    resolveLive caps padded = resolveLive caps name := by
  rw [← resolveLive_strip caps padded, hpad, resolveLive_strip]

theorem readsMissing_padded (hpad : strip padded = strip name) :
    readsMissing padded = readsMissing name := by
  rw [← readsMissing_strip padded, hpad, readsMissing_strip]

/-! ## Padding and required parameters -/

/-- The padded name has the status of the clean one, and it is rejected when a parameter
    is absent that the hint of the canonical run type requires. -/
def PaddingSafe (lower : String → String) (p : DispatchPreflight) (name padded : String)
    (params : Dict) : Prop :=
  (p.check lower padded (some params)).status = (p.check lower name (some params)).status
    ∧ (Absent (p.schema.getHint (p.validator.check lower name).canonicalRunType).required params →
      (p.check lower padded (some params)).status = .reject)

/-- The parameters the hint of a live operation requires. -/
def operationRequired (caps : CapabilitiesResult) (op : Discovered) : List String :=
  (operationHint (schemasOf caps) op.definition).required

/-- When an operation's own hint is as strict as the one found under its canonical run
    type. -/
def LiveSafe (caps : CapabilitiesResult) (op : Discovered) (name : String) (params : Dict) : Prop :=
  Absent (operationRequired caps op) params
    ∨ (∀ found, resolveLive caps op.definition.canonicalRunType = some found →
        ¬ Absent (operationRequired caps found) params)
    ∨ ¬ HasSchema caps op.definition ∧ readsMissing name = true

/-- When the table, asked for two spellings of a published name, answers alike. -/
def TableSafe (caps : CapabilitiesResult) (name padded : String) (params : Dict) : Prop :=
  (name ∈ publishedNames caps ↔ padded ∈ publishedNames caps)
    ∧ (Absent (publishedRequired (strip name)) params → strip name = name ∧ padded = name)

theorem statusUnder_operation :
    statusUnder (operationHint (schemasOf caps) op.definition) name params = .reject
      ↔ Absent (operationRequired caps op) params
        ∨ ¬ HasSchema caps op.definition ∧ readsMissing name = true := by
  rw [statusUnder]
  by_cases hschema : HasSchema caps op.definition
  · rw [if_pos (operationHint_available.mpr hschema)]
    by_cases habsent : Absent (operationHint (schemasOf caps) op.definition).required params
    · rw [if_pos habsent]
      exact ⟨fun _ => .inl habsent, fun _ => rfl⟩
    · rw [if_neg habsent]
      constructor
      · exact nofun
      · rintro (h | ⟨h, -⟩)
        · exact absurd h habsent
        · exact absurd hschema h
  · rw [if_neg fun h => hschema (operationHint_available.mp h)]
    by_cases hreads : readsMissing name = true
    · rw [if_pos hreads]
      exact ⟨fun _ => .inr ⟨hschema, hreads⟩, fun _ => rfl⟩
    · rw [if_neg hreads]
      constructor
      · exact nofun
      · rintro (⟨req, hreq, -⟩ | ⟨-, h⟩)
        · -- an operation without a schema requires nothing
          rw [operationRequired, required_of_unavailable hschema] at hreq
          exact nomatch hreq
        · exact absurd h hreads

/-- What is required under the canonical run type of a live operation. -/
theorem absent_canonical (h : resolveLive caps name = some op) (params : Dict) :
    Absent (hintFor caps op.definition.canonicalRunType).required params
      ↔ ∃ found, resolveLive caps op.definition.canonicalRunType = some found
        ∧ Absent (operationRequired caps found) params := by
  rw [hintFor]
  cases hcanonical : resolveLive caps op.definition.canonicalRunType with
  | some found => exact ⟨fun habsent => ⟨found, rfl, habsent⟩, fun ⟨_, hfound, habsent⟩ => by
    cases hfound
    exact habsent⟩
  | none =>
    have hpadded : strip op.definition.canonicalRunType ≠ op.definition.canonicalRunType := by
      intro hstripped
      obtain ⟨found, hfound, -⟩ := resolveLive_canonical h hstripped
      exact nomatch hcanonical.symm.trans hfound
    constructor
    · rintro ⟨req, hreq, -⟩
      by_cases hmem : op.definition.canonicalRunType ∈ publishedNames caps
      · rw [(tableHint_published hmem).2, publishedRequired_padded hpadded] at hreq
        exact nomatch hreq
      · rw [(tableHint_unpublished hmem).2] at hreq
        exact nomatch hreq
    · rintro ⟨found, hfound, -⟩
      exact nomatch hfound

/-- A live name: the padded one has the same hint, so only the canonical run type matters. -/
theorem paddingSafe_live (hp : DispatchPreflight.fromCapabilities known caps = some p)
    (hvalid : (p.validator.check lower name).status = .valid)
    (hpad : strip padded = strip name) (hop : resolveLive caps name = some op)
    (hsame : (p.validator.check lower name).canonicalRunType = op.definition.canonicalRunType)
    (params : Dict) :
    PaddingSafe lower p name padded params ↔ LiveSafe caps op name params := by
  have hhint := helper_hint (preflight_parts hp).2
  have hname : hintFor caps name = operationHint (schemasOf caps) op.definition := by
    rw [hintFor, hop]
  have hpadded : hintFor caps padded = operationHint (schemasOf caps) op.definition := by
    rw [hintFor, resolveLive_padded hpad, hop]
  have halike : statusUnder (operationHint (schemasOf caps) op.definition) padded params
      = statusUnder (operationHint (schemasOf caps) op.definition) name params := by
    rw [statusUnder, statusUnder, readsMissing_padded hpad]
  rw [PaddingSafe, check_status (accepted_padded hpad hvalid), check_status hvalid, hsame, hhint,
    hhint, hhint, hname, hpadded, absent_canonical hop, halike, statusUnder_operation, LiveSafe]
  constructor
  · rintro ⟨-, hstrict⟩
    by_cases habsent : ∃ found, resolveLive caps op.definition.canonicalRunType = some found
        ∧ Absent (operationRequired caps found) params
    · rcases hstrict habsent with h | h
      · exact .inl h
      · exact .inr (.inr h)
    · exact .inr (.inl fun found hfound h => habsent ⟨found, hfound, h⟩)
  · rintro (h | hnone | h)
    · exact ⟨rfl, fun _ => .inl h⟩
    · exact ⟨rfl, fun ⟨found, hfound, habsent⟩ => absurd habsent (hnone found hfound)⟩
    · exact ⟨rfl, fun _ => .inr h⟩

/-! ## Published names -/

theorem statusUnder_published (h : name ∈ publishedNames caps) (params : Dict) :
    statusUnder (tableHint (schemasOf caps) name) name params
      = if Absent (publishedRequired name) params then .reject else .pass := by
  obtain ⟨havailable, hrequired⟩ := tableHint_published h
  rw [statusUnder, if_pos havailable, hrequired]

theorem statusUnder_unpublished (h : name ∉ publishedNames caps) (params : Dict) :
    statusUnder (tableHint (schemasOf caps) name) name params
      = if readsMissing name = true then .reject else .warn := by
  rw [statusUnder, (tableHint_unpublished h).1, if_neg nofun]

/-- A name under which the table requires something is spelled without white space around
    it, and does not read like a warning. -/
theorem requiring_name (h : Absent (publishedRequired name) params) :
    strip name = name ∧ readsMissing name = false := by
  obtain ⟨req, hreq, -⟩ := h
  obtain ⟨hstripped, hquiet⟩ := requiring_spelled (List.ne_nil_of_mem hreq)
  refine ⟨hstripped, ?_⟩
  rw [readsMissing, hquiet, Bool.false_and]

/-- A published name that is accepted is rejected for its parameters only when it is
    spelled as the table has it. -/
theorem reject_of_requiring (habsent : Absent (publishedRequired (strip name)) params) :
    statusUnder (tableHint (schemasOf caps) name) name params = .reject ↔
      name ∈ publishedNames caps ∧ strip name = name := by
  have hquiet : readsMissing name = false :=
    (readsMissing_strip name).symm.trans (requiring_name habsent).2
  by_cases hmem : name ∈ publishedNames caps
  · rw [statusUnder_published hmem]
    by_cases hown : Absent (publishedRequired name) params
    · rw [if_pos hown]
      exact ⟨fun _ => ⟨hmem, (requiring_name hown).1⟩, fun _ => rfl⟩
    · rw [if_neg hown]
      constructor
      · exact nofun
      · rintro ⟨-, hstripped⟩
        rw [hstripped] at habsent
        exact absurd habsent hown
  · rw [statusUnder_unpublished hmem, hquiet, if_neg nofun]
    constructor
    · exact nofun
    · exact fun h => absurd h.1 hmem

/-- With every required parameter there, the status tells whether the table has the name. -/
theorem status_of_supplied (hsupplied : ¬ Absent (publishedRequired (strip name)) params) :
    statusUnder (tableHint (schemasOf caps) name) name params
      = if name ∈ publishedNames caps then .pass
        else if readsMissing name = true then .reject else .warn := by
  by_cases hmem : name ∈ publishedNames caps
  · have hown : ¬ Absent (publishedRequired name) params := by
      intro hown
      rw [(requiring_name hown).1] at hsupplied
      exact hsupplied hown
    rw [statusUnder_published hmem, if_neg hown, if_pos hmem]
  · rw [statusUnder_unpublished hmem, if_neg hmem]

/-- Two statuses that pass on conditions of their own, and are the same otherwise. -/
theorem pass_eq_pass_iff {a b : Prop} [Decidable a] [Decidable b] {other : PreflightStatus}
    (h : other ≠ .pass) :
    (if a then .pass else other) = (if b then .pass else other) ↔ (a ↔ b) := by
  by_cases ha : a
  · by_cases hb : b
    · rw [if_pos ha, if_pos hb]
      exact ⟨fun _ => ⟨fun _ => hb, fun _ => ha⟩, fun _ => rfl⟩
    · rw [if_pos ha, if_neg hb]
      exact ⟨fun heq => absurd heq.symm h, fun hiff => absurd (hiff.mp ha) hb⟩
  · by_cases hb : b
    · rw [if_neg ha, if_pos hb]
      exact ⟨fun heq => absurd heq h, fun hiff => absurd (hiff.mpr hb) ha⟩
    · rw [if_neg ha, if_neg hb]
      exact ⟨fun _ => ⟨fun h => absurd h ha, fun h => absurd h hb⟩, fun _ => rfl⟩

theorem paddingSafe_table (hp : DispatchPreflight.fromCapabilities known caps = some p)
    (hvalid : (p.validator.check lower name).status = .valid)
    (hpad : strip padded = strip name) (hnone : resolveLive caps name = none)
    (hmem : strip name ∈ publishedNames caps)
    (hsame : (p.validator.check lower name).canonicalRunType = strip name) (params : Dict) :
    PaddingSafe lower p name padded params ↔ TableSafe caps name padded params := by
  have hhint := helper_hint (preflight_parts hp).2
  have htable : ∀ other, strip other = strip name →
      hintFor caps other = tableHint (schemasOf caps) other := by
    intro other hother
    rw [hintFor, resolveLive_padded hother, hnone]
  -- the canonical run type is the stripped name, which the table has
  rw [PaddingSafe, check_status (accepted_padded hpad hvalid), check_status hvalid, hsame, hhint,
    hhint, hhint, htable name rfl, htable padded hpad, htable _ (strip_strip name),
    (tableHint_published hmem).2, TableSafe]
  by_cases habsent : Absent (publishedRequired (strip name)) params
  · have hname : statusUnder (tableHint (schemasOf caps) name) name params = .reject ↔ _ :=
      reject_of_requiring habsent
    have hpadded : statusUnder (tableHint (schemasOf caps) padded) padded params = .reject ↔ _ :=
      reject_of_requiring (hpad.symm ▸ habsent)
    constructor
    · rintro ⟨halike, hstrict⟩
      -- the padded name is rejected, so the table has it with the same parameters
      have hreject := hstrict habsent
      obtain ⟨hmemPadded, hstripped⟩ := hpadded.mp hreject
      obtain ⟨hmemName, hstripped'⟩ := hname.mp (halike.symm.trans hreject)
      exact ⟨⟨fun _ => hmemPadded, fun _ => hmemName⟩,
        fun _ => ⟨hstripped', hstripped.symm.trans (hpad.trans hstripped')⟩⟩
    · rintro ⟨-, hclean⟩
      obtain ⟨hstripped, rfl⟩ := hclean habsent
      rw [hstripped] at hmem
      exact ⟨rfl, fun _ => hpadded.mpr ⟨hmem, hstripped⟩⟩
  · have hother : (if readsMissing name = true then .reject else .warn : PreflightStatus)
        ≠ .pass := by
      by_cases hreads : readsMissing name = true
      · rw [if_pos hreads]
        exact nofun
      · rw [if_neg hreads]
        exact nofun
    rw [status_of_supplied habsent, status_of_supplied (hpad.symm ▸ habsent),
      readsMissing_padded hpad, pass_eq_pass_iff hother]
    constructor
    · exact fun h => ⟨h.1.symm, fun h => absurd h habsent⟩
    · exact fun h => ⟨h.1.symm, fun h => absurd h habsent⟩

/-! ## When padding is safe -/

/-- The condition on the name: a live operation, or the table, answers alike. -/
def AnswersAlike (caps : CapabilitiesResult) (name padded : String) (params : Dict) : Prop :=
  match resolveLive caps name with
  | some op => LiveSafe caps op name params
  | none => TableSafe caps name padded params

/-- Padding is safe for an accepted name exactly when what the helper looks up answers
    alike: always for a live operation whose canonical run type is spelled without white
    space, and for a published name only when both spellings are in the table or neither
    is, and nothing required is absent unless they are the table's own. -/
theorem paddingSafe_iff (hp : DispatchPreflight.fromCapabilities known caps = some p)
    {name padded : String} (hvalid : (p.validator.check lower name).status = .valid)
    (hpad : strip padded = strip name) (params : Dict) :
    PaddingSafe lower p name padded params ↔ AnswersAlike caps name padded params := by
  rw [AnswersAlike]
  rcases accepted_cases hp hvalid with ⟨op, hop, hsame⟩ | ⟨hnone, hmem, hsame⟩
  · rw [hop]
    exact paddingSafe_live hp hvalid hpad hop hsame params
  · rw [hnone]
    exact paddingSafe_table hp hvalid hpad hnone hmem hsame params

end

/-! ## A padded name -/

/-- A server that advertises nothing. -/
def emptyCaps : CapabilitiesResult where
  objects := fun _ => OperationDefinition.named ""
  operations := []
  implementedSurfaces := []
  runTypeMistakes := []

/-- The preflight built from it. -/
def emptyPreflight : DispatchPreflight where
  validator := ⟨publishedNames emptyCaps, knownMistakes, some ⟨[], fun _ => none⟩, true, "", false⟩
  schema := ⟨schemasOf emptyCaps, some ⟨[], fun _ => none⟩⟩

theorem emptyPreflight_built :
    DispatchPreflight.fromCapabilities knownMistakes emptyCaps = some emptyPreflight := rfl

theorem gapsGet_accepted : (emptyPreflight.validator.check lower "gaps.get").status = .valid := by
  decide

theorem gapsGet_answersAlike : AnswersAlike emptyCaps "gaps.get" "gaps.get" [] := by
  show TableSafe emptyCaps "gaps.get" "gaps.get" []
  exact ⟨Iff.rfl, fun _ => ⟨by decide, rfl⟩⟩

theorem gapsGet_paddingSafe : PaddingSafe lower emptyPreflight "gaps.get" "gaps.get" [] :=
  (paddingSafe_iff emptyPreflight_built gapsGet_accepted rfl []).mpr gapsGet_answersAlike

/-- `gaps.get` without its `gap_id` is rejected, and passes with a warning when it is
    padded. -/
theorem padded_gapsGet_unsafe :
    DispatchPreflight.fromCapabilities knownMistakes emptyCaps = some emptyPreflight
      ∧ (emptyPreflight.validator.check lower "gaps.get").status = .valid
      ∧ strip "  gaps.get " = strip "gaps.get"
      ∧ ¬ PaddingSafe lower emptyPreflight "gaps.get" "  gaps.get " [] := by
  have hclean : (emptyPreflight.check lower "gaps.get" (some [])).status = .reject := by
    decide
  have hpadded : (emptyPreflight.check lower "  gaps.get " (some [])).status = .warn := by
    decide
  refine ⟨emptyPreflight_built, gapsGet_accepted, by decide, fun hsafe => ?_⟩
  exact nomatch hpadded.symm.trans (hsafe.1.trans hclean)

end KeyholePreflight
