import Keyhole.RunEnvelope

/-!
# Two readers of a registration's answer

`GovernedFirstAppClient.register_repo` and `GovernedRepoFlowClient.register_repo` each carry a
list of the places where the server may put the id of a registration.  The lists start alike; the
generic one leaves out six places of the other.

* `baseRegistrationId`, `genericRegistrationId`: what each reads out of the settled answer;
* `SameId`: the answers whose missing places make no difference;
* `agree_iff_sameId`: the readers agree on these, and on no others. -/

namespace KeyholeRegistrationAnswer

open KeyholeJson KeyholeEnvelope

/-- What reading the id can raise. -/
inductive ReadError where
  /-- `(data.get("data") or {}).get` of something that is no dictionary -/
  | attributeError
  | governedDemoError (text : String)
  deriving DecidableEq, Repr

/-- `data["data"]` is true, but no dictionary. -/
def dataIsOpaque (data : Dict) : Bool :=
  match data.get "data" with
  | .obj _ => false
  | v => truthy v

/-- The places both lists start with. -/
def sharedPlaces (data : Dict) : List Json :=
  [data.get "registration_id",
    data.get "repo_id",
    data.get "declaration_id",
    data.get "governance_context_id",
    data.get "ctxpack_digest",
    data.get "id",
    (data.child "result").get "registration_id",
    (data.child "result").get "repo_id",
    (data.child "result").get "declaration_id",
    (data.child "result").get "governance_context_id"]

/-- The places the generic list has under `data` and `data.result`. -/
def innerPlace (data : Dict) : List Json := [(inner data).get "registration_id"]

def nestedPlace (data : Dict) : List Json := [(nestedResult data).get "registration_id"]

/-- The places it leaves out: under `result`, under `data` and under `data.result`. -/
def resultDigestPlace (data : Dict) : List Json := [(data.child "result").get "ctxpack_digest"]

def innerOtherPlaces (data : Dict) : List Json :=
  [(inner data).get "repo_id",
    (inner data).get "declaration_id",
    (inner data).get "governance_context_id",
    (inner data).get "ctxpack_digest"]

def nestedDeclarationPlace (data : Dict) : List Json := [(nestedResult data).get "declaration_id"]

/-- What a reader makes of the first id it finds. -/
def readId (data : Dict) (places : List Json) : Except ReadError String :=
  if dataIsOpaque data = true then .error .attributeError
  else if firstString places = "" then
    .error (.governedDemoError ("repo.register response missing " ++
      "registration_id/repo_id/declaration_id/governance_context_id."))
  else .ok (firstString places)

/-- The id in `GovernedFirstAppClient.register_repo`. -/
def baseRegistrationId (data : Dict) : Except ReadError String :=
  readId data (sharedPlaces data ++ (resultDigestPlace data ++ (innerPlace data ++
    (innerOtherPlaces data ++ (nestedPlace data ++ nestedDeclarationPlace data)))))

/-- The id in `GovernedRepoFlowClient.register_repo`. -/
def genericRegistrationId (data : Dict) : Except ReadError String :=
  readId data (sharedPlaces data ++ (innerPlace data ++ nestedPlace data))

/-- Its list is the one the flow reads the id with. -/
theorem genericRegistrationId_eq (data : Dict) : genericRegistrationId data =
    if dataIsOpaque data = true then .error .attributeError
    else if extractRegistrationId data = "" then
      .error (.governedDemoError ("repo.register response missing " ++
        "registration_id/repo_id/declaration_id/governance_context_id."))
    else .ok (extractRegistrationId data) := rfl

/-- The readers find an id in the same answers, and it is the same id. -/
def Agree (data : Dict) : Prop :=
  ∀ id, genericRegistrationId data = .ok id ↔ baseRegistrationId data = .ok id

/-- The answers on which the missing places make no difference. -/
inductive SameId (data : Dict) : Prop
  /-- both readers raise -/
  | raises (h : dataIsOpaque data = true)
  /-- an id in one of the first ten places -/
  | shared (h : firstString (sharedPlaces data) ≠ "")
  /-- `result.ctxpack_digest` is the id that is found further on -/
  | resultDigest (h : firstString (resultDigestPlace data) ≠ "")
      (hsame : firstString (resultDigestPlace data)
        = firstString (innerPlace data ++ nestedPlace data))
  /-- `data.registration_id`, with nothing in front of it -/
  | inner (hdigest : firstString (resultDigestPlace data) = "")
      (h : firstString (innerPlace data) ≠ "")
  /-- another id under `data` is the one of `data.result` -/
  | innerOther (hdigest : firstString (resultDigestPlace data) = "")
      (hinner : firstString (innerPlace data) = "")
      (h : firstString (innerOtherPlaces data) ≠ "")
      (hsame : firstString (innerOtherPlaces data) = firstString (nestedPlace data))
  /-- no id in front of `data.result`, and `declaration_id` is not the only one there -/
  | nested (hdigest : firstString (resultDigestPlace data) = "")
      (hinner : firstString (innerPlace data) = "")
      (hother : firstString (innerOtherPlaces data) = "")
      (h : firstString (nestedPlace data) = "" →
        firstString (nestedDeclarationPlace data) = "")

theorem readId_ok_iff {data : Dict} (hdata : ¬ dataIsOpaque data = true) (places : List Json)
    (id : String) : readId data places = .ok id ↔ firstString places = id ∧ id ≠ "" := by
  rw [readId, if_neg hdata]
  by_cases hnone : firstString places = ""
  · rw [if_pos hnone]
    constructor
    · exact nofun
    · rintro ⟨rfl, hid⟩
      exact absurd hnone hid
  · rw [if_neg hnone]
    constructor
    · intro h
      exact ⟨Except.ok.inj h, Except.ok.inj h ▸ hnone⟩
    · rintro ⟨rfl, -⟩
      rfl

/-- Readers of two lists find the same ids exactly when the lists start with the same one. -/
theorem same_ids_iff {data : Dict} (hdata : ¬ dataIsOpaque data = true) (places others : List Json) :
    (∀ id, readId data places = .ok id ↔ readId data others = .ok id) ↔
      firstString places = firstString others := by
  constructor
  · intro h
    by_cases hnone : firstString places = ""
    · by_cases hother : firstString others = ""
      · rw [hnone, hother]
      · have hfound := (readId_ok_iff hdata others _).mpr ⟨rfl, hother⟩
        exact ((readId_ok_iff hdata places _).mp ((h _).mpr hfound)).1
    · have hfound := (readId_ok_iff hdata places _).mpr ⟨rfl, hnone⟩
      exact ((readId_ok_iff hdata others _).mp ((h _).mp hfound)).1.symm
  · intro h id
    rw [readId_ok_iff hdata, readId_ok_iff hdata, h]

theorem agree_iff_rest {data : Dict} (hdata : ¬ dataIsOpaque data = true)
    (hshared : firstString (sharedPlaces data) = "") :
    Agree data ↔ firstString (innerPlace data ++ nestedPlace data) =
      firstString (resultDigestPlace data ++ (innerPlace data ++
        (innerOtherPlaces data ++ (nestedPlace data ++ nestedDeclarationPlace data)))) := by
  rw [Agree, genericRegistrationId, baseRegistrationId, same_ids_iff hdata, firstString_append,
    if_pos hshared, firstString_append (sharedPlaces data), if_pos hshared]

/-- The generic reader decodes an answer as the base reader does exactly where the places it
    leaves out make no difference. -/
theorem agree_iff_sameId (data : Dict) : Agree data ↔ SameId data := by
  by_cases hdata : dataIsOpaque data = true
  · constructor
    · exact fun _ => .raises hdata
    · intro _ id
      rw [genericRegistrationId, baseRegistrationId, readId, readId, if_pos hdata, if_pos hdata]
  by_cases hshared : firstString (sharedPlaces data) = ""
  · rw [agree_iff_rest hdata hshared, firstString_append (resultDigestPlace data)]
    by_cases hdigest : firstString (resultDigestPlace data) = ""
    · rw [if_pos hdigest, firstString_append, firstString_append (innerPlace data)]
      by_cases hinner : firstString (innerPlace data) = ""
      · rw [if_pos hinner, if_pos hinner, firstString_append (innerOtherPlaces data)]
        by_cases hother : firstString (innerOtherPlaces data) = ""
        · rw [if_pos hother, firstString_append]
          constructor
          · intro h
            refine .nested hdigest hinner hother fun hnested => ?_
            rw [if_pos hnested] at h
            exact h.symm.trans hnested
          · intro h
            by_cases hnested : firstString (nestedPlace data) = ""
            · rw [if_pos hnested]
              cases h with
              | raises h => exact absurd h hdata
              | shared h => exact absurd hshared h
              | resultDigest h => exact absurd hdigest h
              | inner _ h => exact absurd hinner h
              | innerOther _ _ h => exact absurd hother h
              | nested _ _ _ h => rw [hnested, h hnested]
            · rw [if_neg hnested]
        · rw [if_neg hother]
          constructor
          · exact fun h => .innerOther hdigest hinner hother h.symm
          · intro h
            cases h with
            | raises h => exact absurd h hdata
            | shared h => exact absurd hshared h
            | resultDigest h => exact absurd hdigest h
            | inner _ h => exact absurd hinner h
            | innerOther _ _ _ hsame => exact hsame.symm
            | nested _ _ h => exact absurd h hother
      · rw [if_neg hinner, if_neg hinner]
        exact ⟨fun _ => .inner hdigest hinner, fun _ => rfl⟩
    · rw [if_neg hdigest]
      constructor
      · exact fun h => .resultDigest hdigest h.symm
      · intro h
        cases h with
        | raises h => exact absurd h hdata
        | shared h => exact absurd hshared h
        | resultDigest _ hsame => exact hsame.symm
        | inner h => exact absurd h hdigest
        | innerOther h => exact absurd h hdigest
        | nested h => exact absurd h hdigest
  · refine ⟨fun _ => .shared hshared, fun _ => ?_⟩
    rw [Agree, genericRegistrationId, baseRegistrationId, same_ids_iff hdata, firstString_append,
      if_neg hshared, firstString_append (sharedPlaces data), if_neg hshared]

/-- The answer of a registration that ran in the background. -/
def declaredAnswer : Dict :=
  [("ok", .bool true), ("data", .obj [("run_id", .str "run_fake_async_123"),
    ("status", .str "completed"), ("is_terminal", .bool true),
    ("result", .obj [("declaration_id", .str "reg_fake_123"),
      ("governance_context_id", .str "gctx_fake_reg_123")])]), ("error", .null)]

/-- The base reader finds its declaration, the generic one nothing. -/
theorem declaration_missed :
    baseRegistrationId declaredAnswer = .ok "reg_fake_123" ∧ ¬ Agree declaredAnswer := by
  have hbase : baseRegistrationId declaredAnswer = .ok "reg_fake_123" := by decide
  refine ⟨hbase, fun h => ?_⟩
  have hgeneric := (h "reg_fake_123").mpr hbase
  rw [genericRegistrationId_eq] at hgeneric
  exact nomatch hgeneric

end KeyholeRegistrationAnswer
