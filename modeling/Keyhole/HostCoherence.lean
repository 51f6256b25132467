import Mathlib.Data.List.Perm.Basic
import Keyhole.JsonDocument

/-!
# The host-coherence guard

`classify_coherence` compares the principal of the CLI with the attestations that host
environments have left on this machine, and consults the split-identity override that an
earlier login may have recorded.  This module models the two time checks, the sorting of
the attestations into four lists and the decision over them, and compares the decision
with what an override is recorded for.

* `sortAttestations_eq`: the four lists are filters of the attestations;
* `isExpired_eq_true_iff`, `isFresh_eq_true_iff`: when the two time checks hold;
* `scope_honoured_iff`: for which override the decision stays within its scope. -/

namespace KeyholeCoherence

open KeyholeJson

/-! ## Instants -/

/-- A `datetime`: wall-clock microseconds, and the offset from UTC when it has one. -/
structure Timestamp where
  wall : Int
  offset : Option Int
  deriving DecidableEq

/-- The instant of a timestamp with an offset, on the UTC line. -/
def Timestamp.utc (wall offset : Int) : Int := wall - offset

/-- `a <= b`; comparing a timestamp that has an offset with one that has none raises
    `TypeError`. -/
def Timestamp.atMost (a b : Timestamp) : Option Bool :=
  match a.offset, b.offset with
  | some x, some y => some (decide (Timestamp.utc a.wall x ≤ Timestamp.utc b.wall y))
  | none, none => some (decide (a.wall ≤ b.wall))
  | _, _ => none

/-- `a > b`, with the same `TypeError`. -/
def Timestamp.after (a b : Timestamp) : Option Bool :=
  match a.offset, b.offset with
  | some x, some y => some (decide (Timestamp.utc b.wall y < Timestamp.utc a.wall x))
  | none, none => some (decide (b.wall < a.wall))
  | _, _ => none

/-- `now if now.tzinfo else now.replace(tzinfo=exp.tzinfo)`. -/
def Timestamp.awareAs (now exp : Timestamp) : Timestamp :=
  match now.offset with
  | some _ => now
  | none => { now with offset := exp.offset }

/-- What the guard calls of the Python library: `str.lower` and
    `datetime.fromisoformat` (`none` is its `ValueError`). -/
structure Library where
  lower : String → String
  fromisoformat : String → Option Timestamp

/-- `s.replace("Z", "+00:00")`. -/
def replaceZ (s : String) : String :=
  String.ofList (s.toList.flatMap fun c => if c = 'Z' then "+00:00".toList else [c])

/-! ## Attestations and the override -/

/-- `AttestationConfidence`. -/
inductive AttestationConfidence where
  | confirmed
  | probable
  | unknown
  deriving DecidableEq

/-- `CoherenceVerdict`. -/
inductive CoherenceVerdict where
  | acceptMatch
  | warningNoHostAttestation
  | warningStaleHostAttestation
  | warningUnknownHostIdentity
  | rejectHostConflict
  | acceptIntentionalSplit
  deriving DecidableEq

/-- `HostIdentityAttestation`: the fields the guard reads. -/
structure HostIdentityAttestation where
  hostKind : String
  hostDisplayName : String := ""
  effectivePrincipal : String
  confidence : AttestationConfidence := .confirmed
  expiresAt : String
  deriving DecidableEq

/-- `HostIdentityAttestation.is_fresh`: what cannot be parsed or compared is not fresh. -/
def HostIdentityAttestation.isFresh (lib : Library) (att : HostIdentityAttestation)
    (now : Timestamp) : Bool :=
  match lib.fromisoformat (replaceZ att.expiresAt) with
  | none => false
  | some exp => ((now.awareAs exp).atMost exp).getD false

/-- `IdentityPolicyOverride`. -/
structure IdentityPolicyOverride where
  overrideType : String := "allow_split_identity"
  createdAt : String
  targetPrincipal : String
  conflictingHostPrincipal : String
  hostKind : String
  reason : String := ""
  expiry : Option String := none
  deriving DecidableEq

/-- `IdentityPolicyOverride.is_expired`: what cannot be parsed or compared is not
    expired. -/
def IdentityPolicyOverride.isExpired (lib : Library) (override : IdentityPolicyOverride)
    (now : Timestamp) : Bool :=
  match override.expiry with
  | none => false
  | some expiry =>
      if expiry = "" then false
      else match lib.fromisoformat (replaceZ expiry) with
        | none => false
        | some exp => ((now.awareAs exp).after exp).getD false

/-! ## The decision -/

/-- `CoherenceResult`. -/
structure CoherenceResult where
  verdict : CoherenceVerdict
  cliPrincipal : String := ""
  conflictingAttestations : List HostIdentityAttestation := []
  matchingAttestations : List HostIdentityAttestation := []
  staleAttestations : List HostIdentityAttestation := []
  unknownAttestations : List HostIdentityAttestation := []
  override : Option IdentityPolicyOverride := none
  description : String := ""
  fixSteps : List String := []
  deriving DecidableEq

/-- `_principals_match`. -/
def principalsMatch (lib : Library) (a b : String) : Bool :=
  lib.lower (strip a) == lib.lower (strip b)

/-- The four lists `classify_coherence` fills. -/
structure Sorted where
  matching : List HostIdentityAttestation := []
  conflicting : List HostIdentityAttestation := []
  stale : List HostIdentityAttestation := []
  unknown : List HostIdentityAttestation := []

/-- One round of the loop over the attestations. -/
def Sorted.add (lib : Library) (cliPrincipal : String) (now : Timestamp) (sorted : Sorted)
    (att : HostIdentityAttestation) : Sorted :=
  if att.isFresh lib now = false then { sorted with stale := sorted.stale ++ [att] }
  else if att.confidence ≠ .confirmed then { sorted with unknown := sorted.unknown ++ [att] }
  else if principalsMatch lib att.effectivePrincipal cliPrincipal then
    { sorted with matching := sorted.matching ++ [att] }
  else { sorted with conflicting := sorted.conflicting ++ [att] }

/-- The loop over the attestations. -/
def sortAttestations (lib : Library) (cliPrincipal : String) (now : Timestamp)
    (attestations : List HostIdentityAttestation) : Sorted :=
  attestations.foldl (Sorted.add lib cliPrincipal now) {}

/-- `a.host_display_name or a.host_kind`, with the principal. -/
def hostLabel (att : HostIdentityAttestation) : String :=
  (if att.hostDisplayName = "" then att.hostKind else att.hostDisplayName)
    ++ " (" ++ att.effectivePrincipal ++ ")"

/-- The verdict without a CLI principal. -/
def unverified (attestations : List HostIdentityAttestation) : CoherenceResult :=
  if attestations.isEmpty then
    { verdict := .warningNoHostAttestation
      description := "CLI identity is not verified. No host attestations found."
      fixSteps := ["Run: keyhole whoami", "Run: keyhole host attest", "Re-run: keyhole doctor"] }
  else
    { verdict := .warningNoHostAttestation
      description := "CLI identity is not verified. Cannot compare against host attestations."
      fixSteps := ["Run: keyhole whoami", "Re-run: keyhole doctor"] }

/-- The verdict on a fresh confirmed conflict that an override permits. -/
def splitAllowed (cliPrincipal : String) (sorted : Sorted) (first : HostIdentityAttestation)
    (override : IdentityPolicyOverride) : CoherenceResult :=
  { verdict := .acceptIntentionalSplit
    cliPrincipal := cliPrincipal
    conflictingAttestations := sorted.conflicting
    matchingAttestations := sorted.matching
    staleAttestations := sorted.stale
    unknownAttestations := sorted.unknown
    override := some override
    description := "Identity split allowed by override. CLI: " ++ cliPrincipal ++ ", Host: "
      ++ first.effectivePrincipal }

/-- The verdict on a fresh confirmed conflict that nothing permits. -/
def conflictRejected (cliPrincipal : String) (sorted : Sorted) : CoherenceResult :=
  { verdict := .rejectHostConflict
    cliPrincipal := cliPrincipal
    conflictingAttestations := sorted.conflicting
    matchingAttestations := sorted.matching
    staleAttestations := sorted.stale
    unknownAttestations := sorted.unknown
    description := "Fresh confirmed host conflict detected. CLI: " ++ cliPrincipal ++ ", Hosts: "
      ++ join ", " (sorted.conflicting.map hostLabel)
    fixSteps := [
      "Open VS Code where the Keyhole host is installed.",
      "Confirm the host is acting as the intended user.",
      "If the host is bound to the wrong user, sign out of the Keyhole host connection in VS Code.",
      "Re-authenticate VS Code as the intended user.",
      "Re-run the host attestation helper.",
      "Re-run: keyhole doctor",
      "Retry: keyhole login",
      "Or use: keyhole login --allow-split-identity"] }

/-- The verdict when no fresh confirmed attestation conflicts. -/
def unopposed (cliPrincipal : String) (sorted : Sorted) : CoherenceResult :=
  if sorted.matching ≠ [] then
    { verdict := .acceptMatch
      cliPrincipal := cliPrincipal
      matchingAttestations := sorted.matching
      staleAttestations := sorted.stale
      unknownAttestations := sorted.unknown
      description := "CLI and host identities match: " ++ cliPrincipal }
  else if sorted.stale ≠ [] then
    { verdict := .warningStaleHostAttestation
      cliPrincipal := cliPrincipal
      staleAttestations := sorted.stale
      unknownAttestations := sorted.unknown
      description := "Host attestation(s) are stale. "
        ++ "Refresh attestation for strong coherence checks."
      fixSteps := [
        "Open VS Code where the Keyhole host is installed.",
        "Re-run the Keyhole host identity attestation helper.",
        "Re-run: keyhole doctor"] }
  else
    { verdict := .warningUnknownHostIdentity
      cliPrincipal := cliPrincipal
      unknownAttestations := sorted.unknown
      description := "Host identity could not be confirmed. Proof method may be degraded."
      fixSteps := [
        "Open VS Code where the Keyhole host is installed.",
        "Run the Keyhole host identity attestation helper with live whoami.",
        "Re-run: keyhole doctor"] }

/-- The decision tree of `classify_coherence`. -/
def decisionTree (lib : Library) (cliPrincipal : String) (now : Timestamp)
    (override : Option IdentityPolicyOverride) (sorted : Sorted) : CoherenceResult :=
  match sorted.conflicting with
  | [] => unopposed cliPrincipal sorted
  | first :: _ =>
      match override with
      | none => conflictRejected cliPrincipal sorted
      | some record =>
          if record.isExpired lib now then conflictRejected cliPrincipal sorted
          else splitAllowed cliPrincipal sorted first record

/-- `classify_coherence` at the instant `now`. -/
def classifyCoherence (lib : Library) (cliPrincipal : String)
    (attestations : List HostIdentityAttestation) (override : Option IdentityPolicyOverride)
    (now : Timestamp) : CoherenceResult :=
  if cliPrincipal = "" then unverified attestations
  else if attestations.isEmpty then
    { verdict := .warningNoHostAttestation
      cliPrincipal := cliPrincipal
      description := "No host identity attestations found. "
        ++ "Host environments have not been inspected."
      fixSteps := [
        "Open VS Code where the Keyhole host is installed.",
        "Run the Keyhole host identity attestation helper.",
        "Re-run: keyhole doctor"] }
  else
    decisionTree lib cliPrincipal now override
      (sortAttestations lib cliPrincipal now attestations)

/-! ## The four lists -/

section Sorting

variable (lib : Library) (cliPrincipal : String) (now : Timestamp)

/-- Fresh and confirmed: the guard compares its principal. -/
def compared (att : HostIdentityAttestation) : Bool :=
  att.isFresh lib now && decide (att.confidence = .confirmed)

/-- The list an attestation lands in, as filters over all of them. -/
def filed (attestations : List HostIdentityAttestation) : Sorted where
  matching := attestations.filter fun att =>
    compared lib now att && principalsMatch lib att.effectivePrincipal cliPrincipal
  conflicting := attestations.filter fun att =>
    compared lib now att && !principalsMatch lib att.effectivePrincipal cliPrincipal
  stale := attestations.filter fun att => !att.isFresh lib now
  unknown := attestations.filter fun att =>
    att.isFresh lib now && !decide (att.confidence = .confirmed)

/-- One round of the loop appends its attestation to the list that keeps it. -/
theorem filed_append (before : List HostIdentityAttestation) (att : HostIdentityAttestation) :
    (filed lib cliPrincipal now before).add lib cliPrincipal now att
      = filed lib cliPrincipal now (before ++ [att]) := by
  unfold Sorted.add filed compared
  cases hfresh : att.isFresh lib now with
  | false => simp [hfresh, List.filter_append]
  | true =>
    by_cases hconfirmed : att.confidence = .confirmed
    · cases hmatch : principalsMatch lib att.effectivePrincipal cliPrincipal with
      | true => simp [hfresh, hconfirmed, hmatch, List.filter_append]
      | false => simp [hfresh, hconfirmed, hmatch, List.filter_append]
    · simp [hfresh, hconfirmed, List.filter_append]

/-- The loop files each attestation by its own freshness, confidence and principal. -/
theorem sortAttestations_eq (attestations : List HostIdentityAttestation) :
    sortAttestations lib cliPrincipal now attestations
      = filed lib cliPrincipal now attestations := by
  have hloop : ∀ rest before,
      rest.foldl (Sorted.add lib cliPrincipal now) (filed lib cliPrincipal now before)
        = filed lib cliPrincipal now (before ++ rest) := by
    intro rest
    induction rest with
    | nil => intro before; rw [List.append_nil]; rfl
    | cons att rest ih =>
      intro before
      rw [List.foldl_cons, filed_append, ih, List.append_assoc]
      rfl
  exact hloop attestations []

/-- Permuting the attestations permutes each of the four lists. -/
theorem filed_perm {xs ys : List HostIdentityAttestation} (h : xs.Perm ys) :
    (filed lib cliPrincipal now xs).matching.Perm (filed lib cliPrincipal now ys).matching
      ∧ (filed lib cliPrincipal now xs).conflicting.Perm
          (filed lib cliPrincipal now ys).conflicting
      ∧ (filed lib cliPrincipal now xs).stale.Perm (filed lib cliPrincipal now ys).stale :=
  ⟨h.filter _, h.filter _, h.filter _⟩

end Sorting

/-! ## What an override covers -/

variable {now : Timestamp} {cliPrincipal : String} {attestations : List HostIdentityAttestation}

section Scope

variable (lib : Library)

/-- A fresh confirmed attestation that names another principal than the CLI's.  An empty
    CLI principal is no principal: nothing conflicts with it. -/
def Conflicts (cliPrincipal : String) (now : Timestamp) (att : HostIdentityAttestation) : Prop :=
  cliPrincipal ≠ "" ∧ att.isFresh lib now = true ∧ att.confidence = .confirmed
    ∧ principalsMatch lib att.effectivePrincipal cliPrincipal = false

/-- The override has no expiry, or one that `now` can be compared with. -/
def Comparable (override : IdentityPolicyOverride) (now : Timestamp) : Prop :=
  ∀ expiry, override.expiry = some expiry → expiry ≠ "" →
    ∃ exp, lib.fromisoformat (replaceZ expiry) = some exp
      ∧ (now.offset ≠ none → exp.offset ≠ none)

/-- The override has no expiry, or one that `now` can be compared with and that has not
    passed. -/
def Unexpired (override : IdentityPolicyOverride) (now : Timestamp) : Prop :=
  ∀ expiry, override.expiry = some expiry → expiry ≠ "" →
    ∃ exp, lib.fromisoformat (replaceZ expiry) = some exp
      ∧ (now.awareAs exp).atMost exp = some true

/-- The override was recorded for this CLI principal and for every conflict there is. -/
def RecordedFor (override : IdentityPolicyOverride) (cliPrincipal : String)
    (attestations : List HostIdentityAttestation) (now : Timestamp) : Prop :=
  principalsMatch lib override.targetPrincipal cliPrincipal = true
    ∧ ∀ att ∈ attestations, Conflicts lib cliPrincipal now att →
        att.hostKind = override.hostKind
          ∧ att.effectivePrincipal = override.conflictingHostPrincipal

/-- An override that stands, for the conflict at hand. -/
def Covers (override : IdentityPolicyOverride) (cliPrincipal : String)
    (attestations : List HostIdentityAttestation) (now : Timestamp) : Prop :=
  Unexpired lib override now ∧ RecordedFor lib override cliPrincipal attestations now

/-- The decision on these inputs lets an override permit only the conflict it was recorded
    for. -/
structure ScopeHonoured (cliPrincipal : String) (attestations : List HostIdentityAttestation)
    (override : Option IdentityPolicyOverride) (now : Timestamp) : Prop where
  split : (classifyCoherence lib cliPrincipal attestations override now).verdict
      = .acceptIntentionalSplit →
    ∃ record, override = some record ∧ Covers lib record cliPrincipal attestations now
  reject : (classifyCoherence lib cliPrincipal attestations override now).verdict
      = .rejectHostConflict ↔
    (∃ att ∈ attestations, Conflicts lib cliPrincipal now att)
      ∧ ¬ ∃ record, override = some record ∧ Covers lib record cliPrincipal attestations now
  order : ∀ permuted, attestations.Perm permuted →
    (classifyCoherence lib cliPrincipal permuted override now).verdict
      = (classifyCoherence lib cliPrincipal attestations override now).verdict
  expiry : ∀ record, override = some record → ¬ Unexpired lib record now →
    record.isExpired lib now = true

/-! ## The time checks -/

theorem decide_lt_eq_not_le (a b : Int) : decide (b < a) = !decide (a ≤ b) := by
  by_cases h : a ≤ b
  · rw [decide_eq_true h, decide_eq_false (by omega)]
    rfl
  · rw [decide_eq_false h, decide_eq_true (by omega)]
    rfl

/-- Where the two can be compared, `>` is the negation of `<=`. -/
theorem after_awareAs {exp : Timestamp} (h : now.offset ≠ none → exp.offset ≠ none) :
    (now.awareAs exp).after exp = ((now.awareAs exp).atMost exp).map (fun b => !b)
      ∧ (now.awareAs exp).atMost exp ≠ none := by
  obtain ⟨wall, offset⟩ := now
  obtain ⟨expWall, expOffset⟩ := exp
  cases offset with
  | none =>
    cases expOffset with
    | none => exact ⟨congrArg some (decide_lt_eq_not_le _ _), nofun⟩
    | some y => exact ⟨congrArg some (decide_lt_eq_not_le _ _), nofun⟩
  | some x =>
    cases expOffset with
    | none => exact absurd rfl (h (by simp))
    | some y => exact ⟨congrArg some (decide_lt_eq_not_le _ _), nofun⟩

/-- A timestamp with an offset and one without do not compare. -/
theorem after_awareAs_none {exp : Timestamp} (h : ¬ (now.offset ≠ none → exp.offset ≠ none)) :
    (now.awareAs exp).after exp = none ∧ (now.awareAs exp).atMost exp = none := by
  obtain ⟨wall, offset⟩ := now
  obtain ⟨expWall, expOffset⟩ := exp
  cases offset with
  | none => exact absurd (fun hn => absurd rfl hn) h
  | some x =>
    cases expOffset with
    | none => exact ⟨rfl, rfl⟩
    | some y => exact absurd (fun _ => by simp) h

variable {lib}

/-- `is_expired` says expired exactly when the expiry can be compared and has passed. -/
theorem isExpired_eq_true_iff {override : IdentityPolicyOverride} :
    override.isExpired lib now = true
      ↔ Comparable lib override now ∧ ¬ Unexpired lib override now := by
  unfold IdentityPolicyOverride.isExpired Comparable Unexpired
  cases hexpiry : override.expiry with
  | none => simp
  | some expiry =>
    by_cases hempty : expiry = ""
    · simp [hempty]
    · cases hparse : lib.fromisoformat (replaceZ expiry) with
      | none => simp [hempty, hparse]
      | some exp =>
        by_cases hcompare : now.offset ≠ none → exp.offset ≠ none
        · obtain ⟨hafter, hdefined⟩ := after_awareAs hcompare
          obtain ⟨b, hb⟩ := Option.ne_none_iff_exists'.mp hdefined
          cases b with
          | true => simp [hempty, hparse, hafter, hb]
          | false => simpa [hempty, hparse, hafter, hb] using hcompare
        · obtain ⟨hafter, -⟩ := after_awareAs_none hcompare
          have hnot : ¬ ∀ e, some expiry = some e → e ≠ "" →
              ∃ exp, lib.fromisoformat (replaceZ e) = some exp
                ∧ (now.offset ≠ none → exp.offset ≠ none) := by
            intro hc
            obtain ⟨exp', hexp', hc'⟩ := hc expiry rfl hempty
            rw [hparse] at hexp'
            exact hcompare (Option.some.inj hexp' ▸ hc')
          simp only [if_neg hempty, hparse, hafter, Option.getD_none]
          exact ⟨nofun, fun h => absurd h.1 hnot⟩

/-- An unexpired override can be compared. -/
theorem Unexpired.comparable {override : IdentityPolicyOverride}
    (h : Unexpired lib override now) : Comparable lib override now := by
  intro expiry hexpiry hne
  obtain ⟨exp, hparse, hle⟩ := h expiry hexpiry hne
  refine ⟨exp, hparse, ?_⟩
  by_contra hcompare
  rw [(after_awareAs_none hcompare).2] at hle
  exact nomatch hle

/-! ## The decision -/

/-- Some attestation conflicts exactly when the list of conflicts is not empty. -/
theorem conflicting_ne_nil_iff (hcli : cliPrincipal ≠ "")
    :
    (filed lib cliPrincipal now attestations).conflicting ≠ []
      ↔ ∃ att ∈ attestations, Conflicts lib cliPrincipal now att := by
  constructor
  · intro hne
    obtain ⟨att, hatt⟩ := List.exists_mem_of_ne_nil _ hne
    obtain ⟨hmem, hkeep⟩ := List.mem_filter.mp hatt
    simp only [compared, Bool.and_eq_true, decide_eq_true_eq, Bool.not_eq_true'] at hkeep
    exact ⟨att, hmem, hcli, hkeep.1.1, hkeep.1.2, hkeep.2⟩
  · rintro ⟨att, hmem, -, hfresh, hconfirmed, hmatch⟩
    refine List.ne_nil_of_mem (List.mem_filter.mpr ⟨hmem, ?_⟩)
    simp [compared, hfresh, hconfirmed, hmatch]

/-- Without a conflict the decision neither rejects nor needs the override. -/
theorem unopposed_verdict (cliPrincipal : String) (sorted : Sorted) :
    (unopposed cliPrincipal sorted).verdict ≠ .rejectHostConflict
      ∧ (unopposed cliPrincipal sorted).verdict ≠ .acceptIntentionalSplit := by
  unfold unopposed
  by_cases hmatching : sorted.matching ≠ []
  · rw [if_pos hmatching]
    exact ⟨nofun, nofun⟩
  · rw [if_neg hmatching]
    by_cases hstale : sorted.stale ≠ []
    · rw [if_pos hstale]
      exact ⟨nofun, nofun⟩
    · rw [if_neg hstale]
      exact ⟨nofun, nofun⟩

/-- With a conflict, the decision is the override's, by its expiry alone. -/
theorem decisionTree_verdict_of_conflict
    (override : Option IdentityPolicyOverride) {sorted : Sorted} (h : sorted.conflicting ≠ []) :
    (decisionTree lib cliPrincipal now override sorted).verdict
      = if ∃ record, override = some record ∧ record.isExpired lib now = false
        then .acceptIntentionalSplit else .rejectHostConflict := by
  unfold decisionTree
  cases hlist : sorted.conflicting with
  | nil => exact absurd hlist h
  | cons first rest =>
    cases override with
    | none =>
      rw [if_neg (by rintro ⟨record, hrecord, -⟩; exact nomatch hrecord)]
      rfl
    | some record =>
      cases hexpired : record.isExpired lib now with
      | true =>
        rw [if_neg]
        · simp only [hexpired, if_true]
          rfl
        · rintro ⟨record', hrecord, hfalse⟩
          rw [← Option.some.inj hrecord, hexpired] at hfalse
          exact nomatch hfalse
      | false =>
        rw [if_pos ⟨record, rfl, hexpired⟩]
        simp only [hexpired, Bool.false_eq_true, if_false]
        rfl

theorem decisionTree_of_no_conflict (override : Option IdentityPolicyOverride) {sorted : Sorted}
    (h : sorted.conflicting = []) :
    decisionTree lib cliPrincipal now override sorted = unopposed cliPrincipal sorted := by
  unfold decisionTree
  rw [h]

theorem unverified_verdict (attestations : List HostIdentityAttestation) :
    (unverified attestations).verdict = .warningNoHostAttestation := by
  unfold unverified
  by_cases h : attestations.isEmpty = true
  · rw [if_pos h]
  · rw [if_neg h]

/-- What the decision is when nothing conflicts. -/
theorem classifyCoherence_of_no_conflict (override : Option IdentityPolicyOverride)
    (h : ¬ ∃ att ∈ attestations, Conflicts lib cliPrincipal now att) :
    (classifyCoherence lib cliPrincipal attestations override now).verdict ≠ .rejectHostConflict
      ∧ (classifyCoherence lib cliPrincipal attestations override now).verdict
        ≠ .acceptIntentionalSplit := by
  unfold classifyCoherence
  by_cases hcli : cliPrincipal = ""
  · rw [if_pos hcli, unverified_verdict]
    exact ⟨nofun, nofun⟩
  · rw [if_neg hcli]
    by_cases hempty : attestations.isEmpty = true
    · rw [if_pos hempty]
      exact ⟨nofun, nofun⟩
    · rw [if_neg hempty, sortAttestations_eq]
      have hnone := not_not.mp (mt (conflicting_ne_nil_iff hcli).mp h)
      rw [decisionTree_of_no_conflict override hnone]
      exact unopposed_verdict _ _

/-- What the decision is when something conflicts: the override decides, by its expiry
    alone. -/
theorem classifyCoherence_of_conflict (override : Option IdentityPolicyOverride)
    (h : ∃ att ∈ attestations, Conflicts lib cliPrincipal now att) :
    (classifyCoherence lib cliPrincipal attestations override now).verdict
      = if ∃ record, override = some record ∧ record.isExpired lib now = false
        then .acceptIntentionalSplit else .rejectHostConflict := by
  obtain ⟨att, hmem, hcli, hatt⟩ := h
  have hne := (conflicting_ne_nil_iff hcli).mpr ⟨att, hmem, hcli, hatt⟩
  have hempty : attestations.isEmpty ≠ true := by
    intro he
    rw [List.isEmpty_iff.mp he] at hmem
    exact nomatch hmem
  unfold classifyCoherence
  rw [if_neg hcli, if_neg hempty, sortAttestations_eq]
  exact decisionTree_verdict_of_conflict override hne

/-- The verdict does not depend on the order of the attestations. -/
theorem classifyCoherence_perm {permuted : List HostIdentityAttestation}
    {override : Option IdentityPolicyOverride} (h : attestations.Perm permuted) :
    (classifyCoherence lib cliPrincipal permuted override now).verdict
      = (classifyCoherence lib cliPrincipal attestations override now).verdict := by
  by_cases hcli : cliPrincipal = ""
  · unfold classifyCoherence
    rw [if_pos hcli, if_pos hcli, unverified_verdict, unverified_verdict]
  · by_cases hconflict : ∃ att ∈ attestations, Conflicts lib cliPrincipal now att
    · have hconflict' : ∃ att ∈ permuted, Conflicts lib cliPrincipal now att := by
        obtain ⟨att, hmem, hatt⟩ := hconflict
        exact ⟨att, h.mem_iff.mp hmem, hatt⟩
      rw [classifyCoherence_of_conflict override hconflict,
        classifyCoherence_of_conflict override hconflict']
    · have hconflict' : ¬ ∃ att ∈ permuted, Conflicts lib cliPrincipal now att := by
        rintro ⟨att, hmem, hatt⟩
        exact hconflict ⟨att, h.mem_iff.mpr hmem, hatt⟩
      have hnone := not_not.mp (mt (conflicting_ne_nil_iff hcli).mp hconflict)
      have hnone' := not_not.mp (mt (conflicting_ne_nil_iff hcli).mp hconflict')
      obtain ⟨hmatching, -, hstale⟩ := filed_perm lib cliPrincipal now h
      have hmatchingNil : (filed lib cliPrincipal now attestations).matching = []
          ↔ (filed lib cliPrincipal now permuted).matching = [] :=
        ⟨fun e => (e ▸ hmatching).symm.eq_nil, fun e => (e ▸ hmatching).eq_nil⟩
      have hstaleNil : (filed lib cliPrincipal now attestations).stale = []
          ↔ (filed lib cliPrincipal now permuted).stale = [] :=
        ⟨fun e => (e ▸ hstale).symm.eq_nil, fun e => (e ▸ hstale).eq_nil⟩
      unfold classifyCoherence
      rw [if_neg hcli, if_neg hcli, h.isEmpty_eq, sortAttestations_eq, sortAttestations_eq]
      by_cases hempty : permuted.isEmpty = true
      · rw [if_pos hempty, if_pos hempty]
      · rw [if_neg hempty, if_neg hempty, decisionTree_of_no_conflict override hnone,
          decisionTree_of_no_conflict override hnone']
        unfold unopposed
        simp only [ne_eq, hmatchingNil, hstaleNil]
        by_cases hm : (filed lib cliPrincipal now permuted).matching = []
        · rw [if_neg (not_not.mpr hm), if_neg (not_not.mpr hm)]
          by_cases hs : (filed lib cliPrincipal now permuted).stale = []
          · rw [if_neg (not_not.mpr hs), if_neg (not_not.mpr hs)]
          · rw [if_pos hs, if_pos hs]
        · rw [if_pos hm, if_pos hm]

/-- The override says what the guard reads into it: its expiry can be compared, and while
    it stands, a conflict there is is one it was recorded for. -/
def TrueToRecord (lib : Library) (cliPrincipal : String)
    (attestations : List HostIdentityAttestation) (override : Option IdentityPolicyOverride)
    (now : Timestamp) : Prop :=
  ∀ record, override = some record →
    Comparable lib record now
      ∧ (Unexpired lib record now →
          (∃ att ∈ attestations, Conflicts lib cliPrincipal now att) →
          RecordedFor lib record cliPrincipal attestations now)

/-- An override that still stands permits every conflict, whoever it was recorded for. -/
theorem covers_of_standing {record : IdentityPolicyOverride}
    (htrue : TrueToRecord lib cliPrincipal attestations (some record) now)
    (hstanding : record.isExpired lib now = false)
    (hconflict : ∃ att ∈ attestations, Conflicts lib cliPrincipal now att) :
    Covers lib record cliPrincipal attestations now := by
  obtain ⟨hcomparable, hrecorded⟩ := htrue record rfl
  have hunexpired : Unexpired lib record now := by
    by_contra hpassed
    rw [isExpired_eq_true_iff.mpr ⟨hcomparable, hpassed⟩] at hstanding
    exact nomatch hstanding
  exact ⟨hunexpired, hrecorded hunexpired hconflict⟩

/-- An unexpired override stands. -/
theorem Unexpired.standing {record : IdentityPolicyOverride}
    (h : Unexpired lib record now) : record.isExpired lib now = false := by
  cases hexpired : record.isExpired lib now with
  | false => rfl
  | true => exact absurd h (isExpired_eq_true_iff.mp hexpired).2

/-- The guard keeps an override to the conflict it was recorded for exactly when the
    override leaves it no room: the expiry compares with the instant and, while it has not
    passed, every conflict there is is the recorded one. -/
theorem scope_honoured_iff (cliPrincipal : String)
    (attestations : List HostIdentityAttestation) (override : Option IdentityPolicyOverride)
    (now : Timestamp) :
    ScopeHonoured lib cliPrincipal attestations override now
      ↔ TrueToRecord lib cliPrincipal attestations override now := by
  constructor
  · rintro hscope record rfl
    have hcomparable : Comparable lib record now := by
      by_contra hnot
      have hexpired := hscope.expiry record rfl (fun h => hnot h.comparable)
      exact hnot (isExpired_eq_true_iff.mp hexpired).1
    refine ⟨hcomparable, fun hunexpired hconflict => ?_⟩
    have hsplit := classifyCoherence_of_conflict (some record) hconflict
    rw [if_pos ⟨record, rfl, hunexpired.standing⟩] at hsplit
    obtain ⟨record', hrecord, hcovers⟩ := hscope.split hsplit
    exact Option.some.inj hrecord ▸ hcovers.2
  · intro htrue
    by_cases hconflict : ∃ att ∈ attestations, Conflicts lib cliPrincipal now att
    · have hverdict := classifyCoherence_of_conflict override hconflict
      by_cases hstanding : ∃ record, override = some record ∧ record.isExpired lib now = false
      · rw [if_pos hstanding] at hverdict
        obtain ⟨record, rfl, hexpired⟩ := hstanding
        have hcovers := covers_of_standing htrue hexpired hconflict
        refine ⟨fun _ => ⟨record, rfl, hcovers⟩, ?_, fun _ hperm => classifyCoherence_perm hperm,
          fun record' hrecord hnot => absurd (Option.some.inj hrecord ▸ hcovers.1) hnot⟩
        rw [hverdict]
        exact ⟨fun e => (nomatch e), fun h => absurd ⟨record, rfl, hcovers⟩ h.2⟩
      · rw [if_neg hstanding] at hverdict
        refine ⟨fun e => ?_, ?_, fun _ hperm => classifyCoherence_perm hperm, ?_⟩
        · rw [hverdict] at e
          exact nomatch e
        · refine ⟨fun _ => ⟨hconflict, ?_⟩, fun _ => hverdict⟩
          rintro ⟨record, hrecord, hcovers⟩
          exact hstanding ⟨record, hrecord, hcovers.1.standing⟩
        · intro record hrecord hnot
          exact isExpired_eq_true_iff.mpr ⟨(htrue record hrecord).1, hnot⟩
    · obtain ⟨hreject, hsplit⟩ := classifyCoherence_of_no_conflict override hconflict
      refine ⟨fun e => absurd e hsplit, ⟨fun e => absurd e hreject, fun h => absurd h.1 hconflict⟩,
        fun _ hperm => classifyCoherence_perm hperm, ?_⟩
      intro record hrecord hnot
      exact isExpired_eq_true_iff.mpr ⟨(htrue record hrecord).1, hnot⟩

end Scope

/-- A library that parses two dates, enough for one override and one attestation. -/
def twoDates : Library where
  lower := lower
  fromisoformat := fun s =>
    if s = "2099-01-01T00:00:00+00:00" then some ⟨4070908800000000, some 0⟩
    else if s = "2026-05-01T00:00:00+00:00" then some ⟨1777593600000000, some 0⟩
    else none

/-- The host that acts as `mallory`. -/
def malloryHost : HostIdentityAttestation where
  hostKind := "vscode"
  effectivePrincipal := "mallory@example.com"
  expiresAt := "2099-01-01T00:00:00Z"

/-- The override `paul` recorded for the host of `nathan`. -/
def paulOverNathan : IdentityPolicyOverride where
  createdAt := "2026-04-01T00:00:00+00:00"
  targetPrincipal := "paul@example.com"
  conflictingHostPrincipal := "nathan@example.com"
  hostKind := "vscode"

/-- An override recorded for another conflict lets `alice` past the host of `mallory`. -/
theorem foreign_override_permits :
    ¬ ScopeHonoured twoDates "alice@example.com" [malloryHost] (some paulOverNathan)
        ⟨1777593600000000, some 0⟩ := by
  intro hscope
  obtain ⟨record, hrecord, -, htarget, -⟩ := hscope.split (by decide)
  rw [← Option.some.inj hrecord] at htarget
  exact absurd htarget (by decide)

end KeyholeCoherence
