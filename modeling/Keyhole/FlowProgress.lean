import Keyhole.FlowClient

/-!
# The progress a saved state records

Which step comes next depends on a dozen keys of the saved state, and only on
their truth value or their text.  `Progress` is that part of a state, and
`progress` the projection; each kind of update the client persists is a record
update of `Progress`, which is what the arguments about the flow compute with. -/

namespace KeyholeFlow

open KeyholeJson KeyholeRedaction KeyholeEnvelope KeyholeRepo

/-- What the decisions of the flow depend on in a saved state.  A text is `""` where
    the key is absent or counts as false. -/
structure Progress where
  record : String
  story : String
  capability : String
  repoClass : String
  gap : String
  claimId : String
  claimRef : String
  claimDigest : String
  registration : String
  context : String
  ctxpack : String
  receipt : String
  step : String
  runId : String
  pollUrl : String
  terminal : Bool
  deriving DecidableEq, Repr

/-- The progress a dictionary records, by its lookup function. -/
def progressOf (get : String → Json) : Progress where
  record := strOr (get "run_record_id")
  story := strOr (get "story_id")
  capability := strOr (get "capability_id")
  repoClass := strOr (get "repo_class")
  gap := strOr (get "resolved_gap_id")
  claimId := strOr (get "claim_id")
  claimRef := strOr (get "claim_ref")
  claimDigest := strOr (get "claim_ctxpack_digest")
  registration := strOr (get "registration_id")
  context := strOr (get "governance_context_id")
  ctxpack := strOr (get "ctxpack_digest")
  receipt := strOr (get "receipt_id")
  step := strOr (get "step")
  runId := strOr (get "run_id")
  pollUrl := strOr (get "poll_url")
  terminal := isTrue (get "terminal")

/-- The progress a saved state records. -/
def progress (s : SavedState) : Progress := progressOf s.get

/-- The progress of a client that has no state yet. -/
def Progress.blank : Progress :=
  ⟨"", "", "", "", "", "", "", "", "", "", "", "", "", "", "", false⟩

@[simp] theorem progress_empty : progress .empty = .blank := rfl

/-- The progress after a run record of that name was opened, if none was open. -/
def Progress.named (p : Progress) (record : String) : Progress :=
  { p with record := if p.record = "" then record else p.record }

/-! ## Notions on progress -/

/-- A claim is held. -/
def Progress.claimed (p : Progress) : Prop := p.claimId ≠ "" ∨ p.claimRef ≠ ""

instance (p : Progress) : Decidable p.claimed := by unfold Progress.claimed; infer_instance

/-- The state names a run of the server. -/
def Progress.namesRun (p : Progress) : Prop := p.runId ≠ "" ∨ p.pollUrl ≠ ""

instance (p : Progress) : Decidable p.namesRun := by unfold Progress.namesRun; infer_instance

/-- The state names a run that a resume will poll. -/
def Progress.pending (p : Progress) : Prop := p.namesRun ∧ p.terminal = false

instance (p : Progress) : Decidable p.pending := by unfold Progress.pending; infer_instance

/-- The state holds a final receipt. -/
def Progress.realized (p : Progress) : Prop := p.receipt ≠ "" ∧ p.terminal = true

instance (p : Progress) : Decidable p.realized := by unfold Progress.realized; infer_instance

/-- Everything a realization needs is there. -/
def Progress.ready (p : Progress) : Prop :=
  p.gap ≠ "" ∧ p.claimed ∧ p.registration ≠ "" ∧ p.context ≠ ""

instance (p : Progress) : Decidable p.ready := by unfold Progress.ready; infer_instance

/-- The progress once the named run was consumed. -/
def Progress.consumed (p : Progress) : Progress :=
  { p with runId := "", pollUrl := "", terminal := false }

/-! ## The tests of the code, on progress -/

theorem strOr_ne_empty_iff {v : Json} : strOr v ≠ "" ↔ truthy v = true := by
  rw [Ne, strOr_eq_empty_iff, Bool.not_eq_false]

theorem truthy_eq_strOr (v : Json) : truthy v = decide (strOr v ≠ "") := by
  rw [Bool.eq_iff_iff, decide_eq_true_iff]
  exact strOr_ne_empty_iff.symm

theorem strOr_orElse (u v : Json) : strOr (orElse u v) = if strOr u = "" then strOr v else strOr u := by
  unfold orElse
  by_cases h : truthy u = true
  · rw [if_pos h, if_neg (strOr_ne_empty_iff.mpr h)]
  · rw [if_neg h, if_pos (strOr_eq_empty_iff.mpr (Bool.not_eq_true _ ▸ h))]

theorem truthy_gap (s : SavedState) :
    truthy (s.get "resolved_gap_id") = decide ((progress s).gap ≠ "") := truthy_eq_strOr _

theorem truthy_registration (s : SavedState) :
    truthy (s.get "registration_id") = decide ((progress s).registration ≠ "") :=
  truthy_eq_strOr _

theorem truthy_context (s : SavedState) :
    truthy (s.get "governance_context_id") = decide ((progress s).context ≠ "") :=
  truthy_eq_strOr _

theorem truthy_claim (s : SavedState) :
    (truthy (s.get "claim_id") || truthy (s.get "claim_ref"))
      = decide (progress s).claimed := by
  rw [truthy_eq_strOr, truthy_eq_strOr, ← Bool.decide_or]
  rfl

theorem truthy_run (s : SavedState) :
    (truthy (s.get "run_id") || truthy (s.get "poll_url"))
      = decide (progress s).namesRun := by
  rw [truthy_eq_strOr, truthy_eq_strOr, ← Bool.decide_or]
  rfl

theorem isRealized_eq (s : SavedState) : isRealized s = decide (progress s).realized := by
  unfold isRealized
  rw [truthy_eq_strOr, Bool.eq_iff_iff, Bool.and_eq_true, decide_eq_true_iff, decide_eq_true_iff]
  exact Iff.rfl

/-! ## The keys -/

/-- The keys the progress is read from. -/
def progressKeys : List String :=
  ["run_record_id", "story_id", "capability_id", "repo_class", "resolved_gap_id", "claim_id",
    "claim_ref", "claim_ctxpack_digest", "registration_id", "governance_context_id",
    "ctxpack_digest", "receipt_id", "step", "run_id", "poll_url", "terminal"]

theorem plain_of_progressKey : ∀ k ∈ progressKeys, PlainKey k := by decide +kernel

theorem unstamped_of_progressKey : ∀ k ∈ progressKeys, k ≠ "updated_at" ∧ k ≠ "created_at" := by
  decide

theorem progressOf_congr {get get' : String → Json} (h : ∀ k ∈ progressKeys, get k = get' k) :
    progressOf get = progressOf get' := by
  have hk : ∀ k, k ∈ progressKeys → get k = get' k := h
  simp only [progressOf, hk "run_record_id" (by decide), hk "story_id" (by decide),
    hk "capability_id" (by decide), hk "repo_class" (by decide),
    hk "resolved_gap_id" (by decide), hk "claim_id" (by decide), hk "claim_ref" (by decide),
    hk "claim_ctxpack_digest" (by decide), hk "registration_id" (by decide),
    hk "governance_context_id" (by decide), hk "ctxpack_digest" (by decide),
    hk "receipt_id" (by decide), hk "step" (by decide), hk "run_id" (by decide),
    hk "poll_url" (by decide), hk "terminal" (by decide)]

/-- Sanitizing a dictionary only redacts what the progress reads. -/
theorem progress_ofDict (d : Dict) :
    progress (.ofDict d) = progressOf (fun k => redact (d.get k)) :=
  progressOf_congr (fun k hk => SavedState.get_ofDict d k (plain_of_progressKey k hk))

/-- The progress of a saved state does not depend on redaction. -/
theorem progress_eq_redact (s : SavedState) :
    progress s = progressOf (fun k => redact (s.doc.get k)) :=
  progressOf_congr (fun k hk => (s.redact_get k (plain_of_progressKey k hk)).symm)

/-! ## What an update does to the progress -/

/-- The progress a dictionary would record after updates. -/
def updated (s : SavedState) (u : Dict) : Progress :=
  progressOf (fun k => redact (Dict.get (s.doc.update u) k))

theorem get_mergedPayload (env : Env) (t : Nat) (s : SavedState) (u : Dict) {k : String}
    (hk : k ∈ progressKeys) :
    Dict.get (mergedPayload env t s u) k = redact (Dict.get (s.doc.update u) k) := by
  obtain ⟨hu, hc⟩ := unstamped_of_progressKey k hk
  show Dict.get (sanitizeState (Dict.setDefault _ _ _)) k = _
  rw [get_sanitizeState _ _ (plain_of_progressKey k hk), get_setDefault _ _ _ _ hc, get_set,
    if_neg hu]

/-- A merge, as seen by the progress: the lookups of the updated dictionary, and a
    run record. -/
theorem progress_mergeState (env : Env) (t : Nat) (s : SavedState) (u : Dict) :
    progress (mergeState env t s u).state = (updated s u).named (env.stamp t) := by
  show progress (.ofDict (Dict.set (mergedPayload env t s u) "run_record_id" (.str _))) = _
  rw [progress_ofDict, get_mergedPayload env t s u (by decide), pyStr_orElse_str]
  calc
    _ = progressOf (fun k =>
          if k = "run_record_id" then
            .str (if (updated s u).record = "" then env.stamp t else (updated s u).record)
          else redact (Dict.get (s.doc.update u) k)) := by
        refine progressOf_congr (fun k hk => ?_)
        rw [get_set]
        by_cases hr : k = "run_record_id"
        · rw [if_pos hr, if_pos hr]
          rfl
        · rw [if_neg hr, if_neg hr, get_mergedPayload env t s u hk, redact_redact]
    _ = (updated s u).named (env.stamp t) := by simp [progressOf, updated, Progress.named]

/-- Opening names the run record of an empty state. -/
theorem progress_openState (env : Env) (t : Nat) (s : SavedState) :
    progress (openState env t s) = progress s ∨
      (progress s = .blank ∧ progress (openState env t s) = (progress s).named (env.stamp t)) := by
  unfold openState
  by_cases h : s.doc.isEmpty = true
  · right
    have hs : s = .empty := by
      obtain ⟨doc, clean⟩ := s
      cases doc with
      | nil => rfl
      | cons x xs => exact nomatch h
    rw [if_pos h, hs, progress_ofDict]
    refine ⟨rfl, ?_⟩
    simp [progressOf, Progress.named, Progress.blank]
  · left
    rw [if_neg h]

section Updates

variable (s : SavedState)

theorem updated_gap (gapId source : String) :
    updated s (gapUpdates gapId source)
      = { progress s with gap := gapId, step := "gap_resolved", terminal := false } := by
  rw [progress_eq_redact]
  simp [updated, progressOf, gapUpdates]

theorem updated_noClaimable (message : String) :
    updated s (noClaimableUpdates message)
      = { progress s with step := "gap_resolved", terminal := false } := by
  rw [progress_eq_redact]
  simp [updated, progressOf, noClaimableUpdates]

theorem updated_gapError (message : String) :
    updated s (gapErrorUpdates message)
      = { progress s with step := "gap_resolution", terminal := false } := by
  rw [progress_eq_redact]
  simp [updated, progressOf, gapErrorUpdates]

theorem updated_accepted (s₀ : SavedState) (data : Dict) (action : Action) :
    updated s (acceptedUpdates s₀ data action)
      = { progress s with
          step := stateStep action
          runId := runId data
          pollUrl := pollUrl data
          terminal := false } := by
  rw [progress_eq_redact]
  simp [updated, progressOf, acceptedUpdates]

theorem updated_claim (claim : Claim) :
    updated s (claimUpdates claim)
      = { progress s with
          claimId := claim.claimId
          claimRef := claim.claimRef
          claimDigest := claim.ctxpackDigest
          gap := claim.gapId
          step := "claim_succeeded"
          terminal := false } := by
  rw [progress_eq_redact]
  simp [updated, progressOf, claimUpdates]

theorem updated_registration (registration : Registration) :
    updated s (registrationUpdates registration)
      = { progress s with
          registration := registration.registrationId
          gap := registration.claim.gapId
          claimId := registration.claim.claimId
          claimRef := registration.claim.claimRef
          claimDigest := registration.claim.ctxpackDigest
          step := "context_created"
          terminal := false } := by
  rw [progress_eq_redact]
  simp [updated, progressOf, registrationUpdates]

theorem updated_context (context : CompiledContext) :
    updated s (contextUpdates context)
      = { progress s with
          context := context.governanceContextId
          ctxpack := context.ctxpackDigest
          step := "context_compiled"
          terminal := false } := by
  rw [progress_eq_redact]
  simp [updated, progressOf, contextUpdates]

theorem updated_candidate (candidate contextRef : String) :
    updated s ([("candidate_digest", .str candidate)] ++ digestField contextRef)
      = { progress s with
          ctxpack := if contextRef = "" then (progress s).ctxpack else contextRef } := by
  rw [progress_eq_redact]
  by_cases h : contextRef = ""
  · simp [updated, progressOf, digestField, h]
  · simp [updated, progressOf, digestField, h]

theorem updated_inspect (env : Env) (declaration : RepoDeclaration) :
    updated s (inspectUpdates env declaration)
      = { progress s with
          story := declaration.storyId
          capability := declaration.capabilityId
          repoClass := declaration.repoClass
          terminal := false } := by
  rw [progress_eq_redact]
  simp [updated, progressOf, inspectUpdates]

theorem updated_realized (receipt : GovernanceReceipt) :
    updated s (realizedUpdates receipt)
      = { progress s with
          step := "receipt_ready"
          terminal := true
          runId := ""
          pollUrl := ""
          context := receipt.governanceContextId.getD (progress s).context
          receipt := receipt.receiptId.getD (progress s).receipt } := by
  rw [progress_eq_redact]
  cases hc : receipt.governanceContextId <;> cases hr : receipt.receiptId <;>
    simp [updated, progressOf, realizedUpdates, receiptState, optionalText, hc, hr]

theorem updated_notFound (id url : String) :
    updated s (runNotFoundUpdates id url) = { progress s with terminal := false } := by
  rw [progress_eq_redact]
  simp [updated, progressOf, runNotFoundUpdates]

theorem updated_failed (code message : String) :
    updated s (runFailedUpdates code message) = { progress s with terminal := true } := by
  rw [progress_eq_redact]
  simp [updated, progressOf, runFailedUpdates]

theorem updated_pending (status : String) :
    updated s [("status", .str status), ("terminal", .bool false)]
      = { progress s with terminal := false } := by
  rw [progress_eq_redact]
  simp [updated, progressOf]

theorem updated_consumed : updated s (consumedUpdates ++ []) = (progress s).consumed := by
  rw [progress_eq_redact]
  simp [updated, progressOf, consumedUpdates, Progress.consumed]

theorem updated_recoveredGap (gapId : String) (source : Json) :
    updated s (consumedUpdates ++ [("resolved_gap_id", .str gapId), ("gap_id_source", source),
        ("status", .str "gap_resolved"), ("step", .str "gap_resolved")])
      = { (progress s).consumed with gap := gapId, step := "gap_resolved" } := by
  rw [progress_eq_redact]
  simp [updated, progressOf, consumedUpdates, Progress.consumed]

theorem updated_recoveredClaim (claimId claimRef : String) :
    updated s (consumedUpdates ++ [("claim_id", .str claimId), ("claim_ref", .str claimRef),
        ("status", .str "claim_succeeded"), ("step", .str "claim_succeeded")])
      = { (progress s).consumed with
          claimId := claimId
          claimRef := claimRef
          step := "claim_succeeded" } := by
  rw [progress_eq_redact]
  simp [updated, progressOf, consumedUpdates, Progress.consumed]

theorem updated_recoveredRegistration (registrationId : String) :
    updated s (consumedUpdates ++ [("registration_id", .str registrationId),
        ("status", .str "context_created"), ("step", .str "context_created")])
      = { (progress s).consumed with
          registration := registrationId
          step := "context_created" } := by
  rw [progress_eq_redact]
  simp [updated, progressOf, consumedUpdates, Progress.consumed]

/-- The step word of a recovered compile. -/
def recoveredContextWord (step : String) : String :=
  if step = "context_compile" then "context_compiled" else "preclaim_context_ready"

theorem updated_recoveredContext (step : String) (data : Dict) :
    updated s (consumedUpdates ++ recoveredContextUpdates step data)
      = { (progress s).consumed with
          context := extractContextId data
          ctxpack := contextDigestOr data (extractContextId data)
          step := recoveredContextWord step } := by
  rw [progress_eq_redact]
  simp [updated, progressOf, consumedUpdates, Progress.consumed, recoveredContextUpdates,
    recoveredContextWord]

theorem updated_recoveredReceipt (receipt : GovernanceReceipt) :
    updated s (consumedUpdates ++ receiptUpdates receipt)
      = { (progress s).consumed with
          step := "receipt_ready"
          terminal := true
          context := receipt.governanceContextId.getD (progress s).context
          receipt := receipt.receiptId.getD (progress s).receipt } := by
  rw [progress_eq_redact]
  cases hc : receipt.governanceContextId <;> cases hr : receipt.receiptId <;>
    simp [updated, progressOf, consumedUpdates, Progress.consumed, receiptUpdates, receiptState,
      optionalText, hc, hr]

end Updates

end KeyholeFlow
