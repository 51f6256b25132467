import Keyhole.JsonDocument

/-!
# The identity read from `/whoami`

A `/whoami` body is unwrapped from its MCP envelope, flattened into one dictionary and
validated against `WhoamiResponse`; the login then asks that response which of its required
identity fields are missing.  This module models the three readings and the check.

* `unwrapMcpEnvelope`, `unwrapIdentity`: from the body to the flat identity;
* `WhoamiResponse.modelValidate`: the schema, with the defaults it fills in;
* `whoami`: one call of the client, with the errors it raises;
* `modelValidate_userId`, `modelValidate_mode`: where the two required fields of an
  accepted response come from. -/

namespace KeyholeIdentity

open KeyholeJson

/-! ## Errors -/

/-- An `AuthBootstrapError`: its class, message and repair suggestions. -/
structure AuthError where
  errorClass : String
  message : String
  repairSuggestions : List String
  deriving DecidableEq

/-- `NetworkError`. -/
def networkError (message : String) : AuthError where
  errorClass := "network_error"
  message := message
  repairSuggestions := [
    "Check network connectivity.",
    "Verify the auth server URL is correct.",
    "Try again in a few moments."]

/-- `WhoamiVerificationError`. -/
def whoamiVerificationError (message : String) : AuthError where
  errorClass := "whoami_verification_error"
  message := message
  repairSuggestions := [
    "Retry login: keyhole login",
    "Check that the MCP server is reachable.",
    "Clear local session and retry: keyhole login --force"]

/-- An exception: one of the SDK's own, or any other. -/
inductive Fault where
  | auth (error : AuthError)
  | other (text : String)
  deriving DecidableEq

/-! ## The envelope -/

/-- Is the body an MCP envelope, one with `ok` and a `data` dictionary? -/
def isEnvelope (fields : Dict) : Bool :=
  Dict.has fields "ok" && Dict.has fields "data"
    && (match Dict.get fields "data" with | .obj _ => true | _ => false)

/-- `unwrap_mcp_envelope`. -/
def unwrapMcpEnvelope : Json → Json
  | .obj fields => if isEnvelope fields then Dict.get fields "data" else .obj fields
  | raw => raw

/-- `_deep_get` with two keys. -/
def deepGet (d : Dict) (first second : String) : Json :=
  match d.get first with
  | .obj inner => Dict.get inner second
  | _ => .null

/-- `flat["actor_envelope"]`. -/
def withEnvelope (payload flat : Dict) : Dict :=
  match payload.get "actor_envelope" with
  | .obj envelope => flat.set "actor_envelope" (.obj envelope)
  | _ => flat

/-- The top-level scalars. -/
def withScalars (payload flat : Dict) : Dict :=
  ["plan", "limits", "scopes"].foldl (fun flat key =>
    if isNull (payload.get key) then flat else flat.setDefault key (payload.get key)) flat

/-- A default for `key`, read from one field of a group of the payload. -/
def withGroup (group field key : String) (payload flat : Dict) : Dict :=
  match payload.get group with
  | .obj fields => flat.setDefault key (Dict.get fields field)
  | _ => flat

/-- The groups and scalars of a nested payload, before the mode; updating the empty
    dictionary with the `identity` group copies it. -/
def flattenGroups (payload : Dict) : Dict :=
  withGroup "workspace" "workspace_ref" "workspace_id" payload
    (withGroup "cohort" "cohort_id" "cohort_id" payload
      (withScalars payload (withEnvelope payload (asDict (payload.get "identity")))))

/-- The mode derived from `governance_rules` when the identity sets none. -/
def deriveMode (payload flat : Dict) : Dict :=
  if Dict.has flat "mode" then flat
  else match deepGet payload "context_overlay" "governance_rules" with
    | .obj governance =>
        flat.set "mode" (.str (if truthy (Dict.get governance "noncanonical") then "shadow" else "real"))
    | _ => flat

/-- `unwrap_identity`. -/
def unwrapIdentity : Json → Json
  | .obj payload =>
      if Dict.has payload "user_id" then .obj payload
      else .obj (deriveMode payload (flattenGroups payload))
  | payload => payload

/-! ## The schema -/

/-- `AuthMode`. -/
inductive AuthMode where
  | shadow
  | real
  deriving DecidableEq

/-- The value of a mode. -/
def AuthMode.text : AuthMode → String
  | .shadow => "shadow"
  | .real => "real"

/-- `AuthMode(text)`. -/
def AuthMode.ofText (text : String) : Option AuthMode :=
  if text = "shadow" then some .shadow else if text = "real" then some .real else none

/-- The types of the models' fields; every field has a default. -/
inductive FieldType where
  | optionalStr
  | listStr
  | optionalDict
  | optionalModel (fields : List (String × FieldType))

mutual

/-- Does a value that is present pass the validation of its field? -/
def matchesType : FieldType → Json → Bool
  | .optionalStr, v => match v with | .null => true | .str _ => true | _ => false
  | .listStr, v => match v with
    | .arr items => items.all (fun item => match item with | .str _ => true | _ => false)
    | _ => false
  | .optionalDict, v => match v with | .null => true | .obj _ => true | _ => false
  | .optionalModel fields, v => match v with
    | .null => true
    | .obj d => matchesFields fields d
    | _ => false

/-- Do the fields of a dictionary pass, those it has? -/
def matchesFields : List (String × FieldType) → Dict → Bool
  | [], _ => true
  | (name, type) :: rest, d =>
      (!Dict.has d name || matchesType type (d.get name)) && matchesFields rest d

end

/-- `ActorEnvelope`. -/
def actorEnvelopeFields : List (String × FieldType) :=
  [("human_principal", .optionalModel [("realm", .optionalStr), ("subject_id", .optionalStr),
      ("tenant_id", .optionalStr), ("org_id", .optionalStr), ("display_name", .optionalStr)]),
    ("acting_principal", .optionalModel [("realm", .optionalStr), ("client_id", .optionalStr),
      ("kind", .optionalStr), ("subject_id", .optionalStr)]),
    ("delegation", .optionalModel [("kind", .optionalStr), ("assurance", .optionalStr)]),
    ("authorization", .optionalModel [("effective_scopes", .listStr), ("tool_grants", .listStr)])]

/-- The fields of `WhoamiResponse` other than `mode`. -/
def whoamiFields : List (String × FieldType) :=
  [("user_id", .optionalStr), ("tenant_id", .optionalStr), ("org_id", .optionalStr),
    ("cohort_id", .optionalStr), ("worker_id", .optionalStr), ("workspace_id", .optionalStr),
    ("plan", .optionalStr), ("display_name", .optionalStr), ("email", .optionalStr),
    ("roles", .listStr), ("limits", .optionalDict), ("actor_envelope", .optionalModel
      actorEnvelopeFields)]

/-- `WhoamiResponse`. -/
structure WhoamiResponse where
  userId : Option String
  tenantId : Option String
  orgId : Option String
  cohortId : Option String
  workerId : Option String
  workspaceId : Option String
  plan : Option String
  mode : AuthMode
  displayName : Option String
  email : Option String
  roles : List String
  limits : Option Dict
  actorEnvelope : Option Dict

/-- A field of type `Optional[str]`. -/
def optStr (d : Dict) (k : String) : Option String :=
  match d.get k with
  | .str s => some s
  | _ => none

/-- A field of type `Optional[Dict[str, Any]]`. -/
def optDict (d : Dict) (k : String) : Option Dict :=
  match d.get k with
  | .obj inner => some inner
  | _ => none

/-- A field of type `List[str]`. -/
def strList (d : Dict) (k : String) : List String :=
  (asList (d.get k)).filterMap (fun item => match item with | .str s => some s | _ => none)

/-- `_normalize_mode` and the default of the `mode` field; `none` is a validation error. -/
def readMode (d : Dict) : Option AuthMode :=
  if Dict.has d "mode" then
    match d.get "mode" with
    | .str text => AuthMode.ofText (lower text)
    | _ => none
  else some .real

/-- `WhoamiResponse.model_validate`. -/
def WhoamiResponse.modelValidate : Json → Option WhoamiResponse
  | .obj d =>
      if matchesFields whoamiFields d then
        (readMode d).map fun mode =>
          { userId := optStr d "user_id"
            tenantId := optStr d "tenant_id"
            orgId := optStr d "org_id"
            cohortId := optStr d "cohort_id"
            workerId := optStr d "worker_id"
            workspaceId := optStr d "workspace_id"
            plan := optStr d "plan"
            mode := mode
            displayName := optStr d "display_name"
            email := optStr d "email"
            roles := strList d "roles"
            limits := optDict d "limits"
            actorEnvelope := optDict d "actor_envelope" }
      else none
  | _ => none

/-- `getattr(self, field_name, None)` for the required fields. -/
def WhoamiResponse.required (response : WhoamiResponse) (fieldName : String) : Option String :=
  if fieldName = "user_id" then response.userId
  else if fieldName = "mode" then some response.mode.text
  else none

/-- `_REQUIRED_IDENTITY_FIELDS`. -/
def requiredIdentityFields : List String := ["user_id", "mode"]

/-- `validate_required_identity`: the missing field names. -/
def WhoamiResponse.validateRequiredIdentity (response : WhoamiResponse) : List String :=
  requiredIdentityFields.filter fun fieldName =>
    match response.required fieldName with
    | none => true
    | some value => strip value == ""

/-! ## The client -/

/-- What the GET of `/whoami` comes to. -/
inductive WhoamiAnswer where
  | connectionError (text : String)
  | timeout (text : String)
  | fault (text : String)
  | response (statusCode : Nat) (json : Option Json)

/-- The identity a body is validated to. -/
def identityOf (body : Json) : Option WhoamiResponse :=
  WhoamiResponse.modelValidate (unwrapIdentity (unwrapMcpEnvelope body))

/-- `WhoamiClient.whoami`; `explain` is the text of the validation error. -/
def whoami (explain : Json → String) : WhoamiAnswer → Except Fault WhoamiResponse
  | .connectionError text =>
      .error (.auth (networkError ("Cannot reach whoami endpoint: " ++ text)))
  | .timeout text => .error (.auth (networkError ("Whoami endpoint timed out: " ++ text)))
  | .fault text => .error (.other text)
  | .response statusCode json =>
      if statusCode = 401 then
        .error (.auth (whoamiVerificationError "Authentication rejected by whoami endpoint (401)"))
      else if statusCode = 403 then
        .error (.auth (whoamiVerificationError "Access denied by whoami endpoint (403)"))
      else if statusCode ≠ 200 then
        .error (.auth (whoamiVerificationError
          ("Whoami returned unexpected status: " ++ toString statusCode)))
      else match json with
        | none =>
            .error (.auth (whoamiVerificationError "Whoami response is not valid JSON"))
        | some body =>
            match identityOf body with
            | some response => .ok response
            | none => .error (.auth (whoamiVerificationError
                ("Whoami response does not match expected schema: " ++ explain body)))

/-- The body of an answer with status 200. -/
def WhoamiAnswer.body : WhoamiAnswer → Option Json
  | .response 200 json => json
  | _ => none

/-! ## What the body supplies -/

/-- The two dictionaries give the key the same value, or both lack it. -/
def AgreeAt (k : String) (d e : Dict) : Prop := d.get k = e.get k ∧ d.has k = e.has k

variable {k : String} {d e : Dict} {response : WhoamiResponse} {body : Json}

theorem AgreeAt.set {k' : String} {v : Json} (h : AgreeAt k d e) (hk : k ≠ k') :
    AgreeAt k (d.set k' v) e := by
  refine ⟨?_, ?_⟩
  · rw [get_set, if_neg hk]
    exact h.1
  · rw [has_set, beq_eq_false_iff_ne.mpr hk, Bool.false_or]
    exact h.2

theorem AgreeAt.setDefault {k' : String} {v : Json} (h : AgreeAt k d e)
    (hk : k ≠ k') : AgreeAt k (d.setDefault k' v) e := by
  refine ⟨?_, ?_⟩
  · rw [get_setDefault d k' k v hk]
    exact h.1
  · rw [← h.2]
    unfold Dict.setDefault Dict.has
    by_cases hany : d.any (fun kv => kv.1 == k') = true
    · rw [if_pos hany]
    · rw [if_neg hany, List.any_append]
      simp [beq_eq_false_iff_ne.mpr (fun e => hk e.symm)]

theorem AgreeAt.withEnvelope (payload : Dict) (h : AgreeAt k d e)
    (hk : k ≠ "actor_envelope") : AgreeAt k (withEnvelope payload d) e := by
  unfold KeyholeIdentity.withEnvelope
  cases payload.get "actor_envelope" with
  | obj envelope => exact h.set hk
  | _ => exact h

theorem AgreeAt.withScalars (payload : Dict) (h : AgreeAt k d e)
    (hk : k ∉ ["plan", "limits", "scopes"]) : AgreeAt k (withScalars payload d) e := by
  unfold KeyholeIdentity.withScalars
  generalize ["plan", "limits", "scopes"] = keys at hk
  induction keys generalizing d with
  | nil => exact h
  | cons key rest ih =>
    rw [List.foldl_cons]
    refine ih ?_ (fun hmem => hk (List.mem_cons_of_mem _ hmem))
    by_cases hnull : isNull (payload.get key) = true
    · rw [if_pos hnull]
      exact h
    · rw [if_neg hnull]
      exact h.setDefault (fun e => hk (e ▸ List.mem_cons_self))

theorem AgreeAt.withGroup (group field : String) {key : String}
    (payload : Dict) (h : AgreeAt k d e) (hk : k ≠ key) :
    AgreeAt k (withGroup group field key payload d) e := by
  unfold KeyholeIdentity.withGroup
  cases payload.get group with
  | obj fields => exact h.setDefault hk
  | _ => exact h

/-- Flattening keeps what the identity group says of the keys it does not fill itself. -/
theorem flattenGroups_agree (payload : Dict)
    (hk : k ∉ ["actor_envelope", "plan", "limits", "scopes", "cohort_id", "workspace_id"]) :
    AgreeAt k (flattenGroups payload) (asDict (payload.get "identity")) := by
  simp only [List.mem_cons, List.not_mem_nil, or_false, not_or] at hk
  obtain ⟨hactor, hplan, hlimits, hscopes, hcohort, hworkspace⟩ := hk
  have hstart : AgreeAt k (asDict (payload.get "identity")) (asDict (payload.get "identity")) :=
    ⟨rfl, rfl⟩
  have hscalars : k ∉ ["plan", "limits", "scopes"] := by
    simp [hplan, hlimits, hscopes]
  exact (((hstart.withEnvelope payload hactor).withScalars payload hscalars).withGroup "cohort"
    "cohort_id" payload hcohort).withGroup "workspace" "workspace_ref" payload hworkspace

/-- The dictionary inside the envelope. -/
def payloadOf (body : Json) : Dict := asDict (unwrapMcpEnvelope body)

/-- The dictionary that speaks of the identity: the payload where it has a `user_id`, its
    `identity` group where it has none. -/
def identityGroup (payload : Dict) : Dict :=
  if Dict.has payload "user_id" then payload else asDict (payload.get "identity")

/-- The mode that `governance_rules` stands for. -/
def governedMode (governance : Dict) : AuthMode :=
  if truthy (governance.get "noncanonical") then .shadow else .real

/-- The body supplies a `user_id` that is not blank. -/
def SuppliesUserId (body : Json) : Prop :=
  ∃ userId, (identityGroup (payloadOf body)).get "user_id" = .str userId ∧ strip userId ≠ ""

/-- The body supplies the mode: as a mode value, or by its `governance_rules` where it has
    no mode value. -/
inductive SuppliesMode (body : Json) : AuthMode → Prop where
  | value (text : String) (mode : AuthMode) :
      (identityGroup (payloadOf body)).get "mode" = .str text →
      AuthMode.ofText (lower text) = some mode → SuppliesMode body mode
  | derived (governance : Dict) :
      Dict.has (identityGroup (payloadOf body)) "mode" = false →
      deepGet (payloadOf body) "context_overlay" "governance_rules" = .obj governance →
      SuppliesMode body (governedMode governance)

/-- The body is an envelope that says its request failed. -/
def RefusalEnvelope (body : Json) : Prop :=
  ∃ fields : Dict, body = .obj fields ∧ isEnvelope fields = true
    ∧ isFalse (fields.get "ok") = true

/-! ## What the response keeps of it -/

/-- The flat identity of a body that is a dictionary inside. -/
theorem unwrapIdentity_obj (payload : Dict) :
    unwrapIdentity (.obj payload)
      = .obj (if Dict.has payload "user_id" then payload
          else deriveMode payload (flattenGroups payload)) := by
  show (if _ then _ else _) = _
  by_cases h : Dict.has payload "user_id" = true
  · rw [if_pos h, if_pos h]
  · rw [if_neg h, if_neg h]

theorem deriveMode_get_of_ne (payload flat : Dict) (hk : k ≠ "mode") :
    (deriveMode payload flat).get k = flat.get k := by
  unfold deriveMode
  by_cases h : Dict.has flat "mode" = true
  · rw [if_pos h]
  · rw [if_neg h]
    cases deepGet payload "context_overlay" "governance_rules" with
    | obj governance =>
      show Dict.get (Dict.set _ _ _) k = _
      rw [get_set, if_neg hk]
    | _ => rfl

/-- The schema reads a dictionary, and the two required fields from it. -/
theorem modelValidate_some {data : Json} (h : WhoamiResponse.modelValidate data = some response) :
    ∃ flat : Dict, data = .obj flat ∧ matchesFields whoamiFields flat = true
      ∧ readMode flat = some response.mode ∧ response.userId = optStr flat "user_id" := by
  cases data with
  | obj flat =>
    unfold WhoamiResponse.modelValidate at h
    by_cases hfields : matchesFields whoamiFields flat = true
    · simp only [hfields, if_true, Option.map_eq_some_iff] at h
      obtain ⟨mode, hmode, rfl⟩ := h
      exact ⟨flat, rfl, hfields, hmode, rfl⟩
    · simp only [hfields] at h
      exact nomatch h
  | _ => exact nomatch h

/-- A body that is accepted is a dictionary inside its envelope. -/
theorem unwrapMcpEnvelope_of_identityOf (h : identityOf body = some response) :
    unwrapMcpEnvelope body = .obj (payloadOf body) := by
  obtain ⟨flat, hflat, -⟩ := modelValidate_some h
  unfold payloadOf
  cases hpayload : unwrapMcpEnvelope body with
  | obj payload => rfl
  | _ =>
    rw [hpayload] at hflat
    exact nomatch hflat

/-- The `user_id` of an accepted response is what the identity group has under that key. -/
theorem identityOf_userId (h : identityOf body = some response) :
    response.userId = optStr (identityGroup (payloadOf body)) "user_id" := by
  obtain ⟨flat, hflat, -, -, huser⟩ := modelValidate_some h
  rw [unwrapMcpEnvelope_of_identityOf h, unwrapIdentity_obj] at hflat
  rw [huser, ← Json.obj.inj hflat]
  unfold identityGroup optStr
  by_cases hhas : Dict.has (payloadOf body) "user_id" = true
  · rw [if_pos hhas, if_pos hhas]
  · rw [if_neg hhas, if_neg hhas, deriveMode_get_of_ne _ _ (by decide),
      (flattenGroups_agree _ (by decide)).1]

/-- The mode of an accepted response: the value of the identity group where it has one; else
    the one derived from the governance rules of a nested payload; else the default. -/
theorem identityOf_mode (h : identityOf body = some response) :
    (∃ text, (identityGroup (payloadOf body)).get "mode" = .str text
        ∧ AuthMode.ofText (lower text) = some response.mode)
      ∨ Dict.has (identityGroup (payloadOf body)) "mode" = false
        ∧ response.mode = if Dict.has (payloadOf body) "user_id" then .real
            else match deepGet (payloadOf body) "context_overlay" "governance_rules" with
              | .obj governance => governedMode governance
              | _ => .real := by
  obtain ⟨flat, hflat, -, hmode, -⟩ := modelValidate_some h
  rw [unwrapMcpEnvelope_of_identityOf h, unwrapIdentity_obj] at hflat
  rw [← Json.obj.inj hflat] at hmode
  have hread : ∀ d : Dict, readMode d = some response.mode →
      (∃ text, d.get "mode" = .str text ∧ AuthMode.ofText (lower text) = some response.mode)
        ∨ Dict.has d "mode" = false ∧ response.mode = .real := by
    intro d hd
    unfold readMode at hd
    by_cases hhas : Dict.has d "mode" = true
    · rw [if_pos hhas] at hd
      cases htext : d.get "mode" with
      | str text =>
        rw [htext] at hd
        exact .inl ⟨text, rfl, hd⟩
      | _ =>
        rw [htext] at hd
        exact nomatch hd
    · rw [if_neg hhas] at hd
      exact .inr ⟨Bool.eq_false_iff.mpr hhas, (Option.some.inj hd).symm⟩
  unfold identityGroup
  by_cases hhas : Dict.has (payloadOf body) "user_id" = true
  · rw [if_pos hhas] at hmode
    rw [if_pos hhas, if_pos hhas]
    exact hread _ hmode
  · rw [if_neg hhas] at hmode
    rw [if_neg hhas, if_neg hhas]
    have hagree : AgreeAt "mode" (flattenGroups (payloadOf body)) _ :=
      flattenGroups_agree (payloadOf body) (by decide)
    unfold deriveMode at hmode
    by_cases hset : Dict.has (flattenGroups (payloadOf body)) "mode" = true
    · rw [if_pos hset] at hmode
      rcases hread _ hmode with htext | ⟨hnot, -⟩
      · rw [hagree.1] at htext
        exact .inl htext
      · rw [hset] at hnot
        exact nomatch hnot
    · rw [if_neg hset] at hmode
      refine .inr ⟨hagree.2 ▸ Bool.eq_false_iff.mpr hset, ?_⟩
      cases hgov : deepGet (payloadOf body) "context_overlay" "governance_rules" with
      | obj governance =>
        rw [hgov] at hmode
        simp only [readMode, has_set, get_set, beq_self_eq_true, Bool.true_or, if_true] at hmode
        show response.mode = governedMode governance
        unfold governedMode
        by_cases hnon : truthy (Dict.get governance "noncanonical") = true
        · rw [if_pos hnon] at hmode ⊢
          exact (Option.some.inj hmode).symm
        · rw [if_neg hnon] at hmode ⊢
          exact (Option.some.inj hmode).symm
      | _ =>
        rw [hgov] at hmode
        rcases hread _ hmode with ⟨text, htext, -⟩ | ⟨-, hreal⟩
        · rw [get_of_not_has (Bool.eq_false_iff.mpr hset)] at htext
          exact nomatch htext
        · exact hreal

/-- The check of the required fields comes down to the `user_id`: the schema has filled in
    the mode. -/
theorem validateRequiredIdentity_eq (response : WhoamiResponse) :
    response.validateRequiredIdentity
      = if ∃ userId, response.userId = some userId ∧ strip userId ≠ "" then []
        else ["user_id"] := by
  have hmode : (strip response.mode.text == "") = false := by
    cases response.mode with
    | shadow => decide
    | real => decide
  show List.filter _ ["user_id", "mode"] = _
  rw [List.filter_cons, List.filter_cons, List.filter_nil]
  simp only [WhoamiResponse.required, if_true, if_neg (show ¬ "mode" = "user_id" by decide), hmode,
    Bool.false_eq_true, if_false]
  cases response.userId with
  | none => simp
  | some userId =>
    by_cases hblank : strip userId = ""
    · simp [hblank]
    · simp [hblank]

/-- The mode of a response is never missing. -/
theorem mode_not_missing (response : WhoamiResponse) :
    "mode" ∉ response.validateRequiredIdentity := by
  rw [validateRequiredIdentity_eq]
  by_cases h : ∃ userId, response.userId = some userId ∧ strip userId ≠ ""
  · rw [if_pos h]
    exact nofun
  · rw [if_neg h]
    decide

/-- Nothing is missing exactly when the body supplies a `user_id` that is not blank. -/
theorem validateRequiredIdentity_eq_nil_iff (h : identityOf body = some response) :
    response.validateRequiredIdentity = [] ↔ SuppliesUserId body := by
  have huser : (∃ userId, response.userId = some userId ∧ strip userId ≠ "")
      ↔ SuppliesUserId body := by
    rw [identityOf_userId h]
    unfold optStr SuppliesUserId
    cases (identityGroup (payloadOf body)).get "user_id" with
    | str userId => simp
    | _ => simp
  rw [validateRequiredIdentity_eq, ← huser]
  by_cases hfound : ∃ userId, response.userId = some userId ∧ strip userId ≠ ""
  · rw [if_pos hfound]
    exact ⟨fun _ => hfound, fun _ => rfl⟩
  · rw [if_neg hfound]
    exact ⟨nofun, fun e => absurd e hfound⟩

end KeyholeIdentity
