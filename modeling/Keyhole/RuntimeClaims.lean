import Keyhole.CanonicalJson

/-!
# Runtime claims

`RuntimeContext.to_payload` and `RuntimeContextBuilder.build_external_context` write free-form
claims over the fields of their own, with `dict.update`.

* `toPayload`, `buildExternalContext`: the payload and the context, with its digest;
* `OwnValues`, `DigestIdentifies`: what the two promise;
* `claims_kept_iff`: when they keep it. -/

namespace KeyholeRuntimeClaims

open KeyholeJson
open LastWrite (assignAll lookup_assignAll lookup_of_mem lookup_eq_none nodup_keys_assignAll)

/-! ## The source -/

/-- A dictionary of JSON values, as Python has it. -/
structure Claims where
  fields : Dict
  wellFormed : WellFormed (.obj fields)

/-- `{}`. -/
def Claims.empty : Claims := ⟨[], List.nodup_nil, trivial⟩

/-- `RuntimeMode`. -/
inductive RuntimeMode where
  | container
  | external
  | shadow
  deriving DecidableEq

/-- The value of a mode. -/
def RuntimeMode.value : RuntimeMode → String
  | .container => "container"
  | .external => "external"
  | .shadow => "shadow"

/-- `RuntimeContext`. -/
structure RuntimeContext where
  contractVersion : String
  profileId : String
  runtimeMode : RuntimeMode
  sdkVersion : String := ""
  cliVersion : String := ""
  runtimeKind : String := ""
  containerImageDigest : Option String := none
  runtimeProfileDigest : Option String := none
  runtimeClaimsDigest : Option String := none
  repoDigest : Option String := none
  ctxpackDigest : Option String := none
  executionAdapter : Option String := none
  nonportablePaths : List String := []
  extraClaims : Claims := .empty

/-- `if text: payload[key] = text`. -/
def setText (key : String) (text : Option String) : Dict :=
  if text.getD "" = "" then [] else [(key, .str (text.getD ""))]

/-- The fields that every payload has. -/
def fixedFields (c : RuntimeContext) : Dict :=
  [("contract_version", .str c.contractVersion), ("profile_id", .str c.profileId),
    ("runtime_mode", .str c.runtimeMode.value), ("sdk_version", .str c.sdkVersion),
    ("cli_version", .str c.cliVersion)]

/-- The digests that are set. -/
def digestFields (c : RuntimeContext) : Dict :=
  setText "container_image_digest" c.containerImageDigest ++
    setText "runtime_profile_digest" c.runtimeProfileDigest ++
    setText "runtime_claims_digest" c.runtimeClaimsDigest ++
    setText "repo_digest" c.repoDigest ++ setText "ctxpack_digest" c.ctxpackDigest

/-- `if self.nonportable_paths: …`. -/
def pathsField (paths : List String) : Dict :=
  if paths.isEmpty then [] else [("nonportable_paths", .arr (paths.map Json.str))]

/-- The payload before the extra claims; no key is written twice. -/
def contextFields (c : RuntimeContext) : Dict :=
  fixedFields c ++ setText "runtime_kind" c.runtimeKind ++ digestFields c ++
    setText "execution_adapter" c.executionAdapter ++ pathsField c.nonportablePaths

/-- `RuntimeContext.to_payload`. -/
def toPayload (c : RuntimeContext) : Dict := assignAll (contextFields c) c.extraClaims.fields

/-- What `build_external_context` reads: its arguments, and the versions of the builder. -/
structure ExternalArguments where
  runtimeKind : String := "local-python"
  platform : String := ""
  pythonVersion : String := ""
  sdkVersion : String := ""
  cliVersion : String := ""
  repoDigest : Option String := none
  ctxpackDigest : Option String := none
  extraClaims : Option Claims := none
  externalProfileId : String := "external.runtime.v1"

/-- A string or `None`. -/
def optionalText : Option String → Json
  | some text => .str text
  | none => .null

/-- The claims of the builder itself. -/
def ownClaims (a : ExternalArguments) : Dict :=
  [("runtime_kind", .str a.runtimeKind), ("platform", .str a.platform),
    ("python_version", .str a.pythonVersion), ("sdk_version", .str a.sdkVersion),
    ("cli_version", .str a.cliVersion), ("repo_digest", optionalText a.repoDigest),
    ("ctxpack_digest", optionalText a.ctxpackDigest),
    ("generated_by", .str "keyhole-cli-runtime-contract.v1")]

/-- The extra claims; `None` are no claims. -/
def ExternalArguments.extra (a : ExternalArguments) : Claims := a.extraClaims.getD .empty

/-- The claims that are digested. -/
def mergedClaims (a : ExternalArguments) : Dict := assignAll (ownClaims a) a.extra.fields

/-- `_stable_digest`. -/
def stableDigest (sha256 : String → String) (payload : Dict) : String :=
  "sha256:" ++ sha256 (dumps compactSeparators (.obj payload))

/-- `RuntimeContextBuilder.build_external_context`. -/
def buildExternalContext (sha256 : String → String) (a : ExternalArguments) : RuntimeContext where
  contractVersion := "sdk-runtime-contract.v1"
  profileId := a.externalProfileId
  runtimeMode := .external
  sdkVersion := a.sdkVersion
  cliVersion := a.cliVersion
  runtimeKind := a.runtimeKind
  runtimeClaimsDigest := some (stableDigest sha256 (mergedClaims a))
  repoDigest := a.repoDigest
  ctxpackDigest := a.ctxpackDigest

/-! ## The promises -/

/-- The payload has the context's own values and no trust level. -/
structure OwnValues (c : RuntimeContext) : Prop where
  fixed : ∀ entry ∈ fixedFields c, (toPayload c).lookup entry.1 = some entry.2
  digests : ∀ entry ∈ digestFields c, (toPayload c).lookup entry.1 = some entry.2
  untrusted : (toPayload c).lookup "runtime_trust_level" = none

/-- The same arguments; the keys of the extra claims in any order. -/
structure SameArguments (a a' : ExternalArguments) : Prop where
  runtimeKind : a.runtimeKind = a'.runtimeKind
  platform : a.platform = a'.platform
  pythonVersion : a.pythonVersion = a'.pythonVersion
  sdkVersion : a.sdkVersion = a'.sdkVersion
  cliVersion : a.cliVersion = a'.cliVersion
  repoDigest : a.repoDigest = a'.repoDigest
  ctxpackDigest : a.ctxpackDigest = a'.ctxpackDigest
  extra : sortKeys (.obj a.extra.fields) = sortKeys (.obj a'.extra.fields)

/-- Equal digests stand for the same arguments. -/
def DigestIdentifies (sha256 : String → String) (a a' : ExternalArguments) : Prop :=
  (buildExternalContext sha256 a).runtimeClaimsDigest =
    (buildExternalContext sha256 a').runtimeClaimsDigest ↔ SameArguments a a'

/-! ## Where they are kept -/

/-- No extra claim stands where the context has another value, and none is a trust level. -/
structure NoClash (c : RuntimeContext) : Prop where
  own : ∀ entry ∈ fixedFields c ++ digestFields c, ∀ v,
    c.extraClaims.fields.lookup entry.1 = some v → v = entry.2
  untrusted : c.extraClaims.fields.lookup "runtime_trust_level" = none

/-- The keys of the builder's own claims. -/
def ownKeys : List String :=
  ["runtime_kind", "platform", "python_version", "sdk_version", "cli_version", "repo_digest",
    "ctxpack_digest", "generated_by"]

/-- What is claimed under a key: by an extra claim, or else by the builder. -/
def effective (a : ExternalArguments) (k : String) : Option Json :=
  ((a.extra.fields.lookup k).or ((ownClaims a).lookup k)).map sortKeys

/-- The extra claims of both hold the same of the builder's keys, and where they do, the builder
    would claim the same. -/
def Unmasked (a a' : ExternalArguments) : Prop :=
  ∀ k ∈ ownKeys, ((a.extra.fields.lookup k).isSome = (a'.extra.fields.lookup k).isSome) ∧
    ((a.extra.fields.lookup k).isSome = true → (ownClaims a).lookup k = (ownClaims a').lookup k)

/-! ## The payload -/

theorem lookup_toPayload (c : RuntimeContext) (k : String) :
    (toPayload c).lookup k = (c.extraClaims.fields.lookup k).or ((contextFields c).lookup k) :=
  lookup_assignAll _ c.extraClaims.wellFormed.1 k

/-- The keys of a context, in order. -/
def contextKeys : List String :=
  ["contract_version", "profile_id", "runtime_mode", "sdk_version", "cli_version", "runtime_kind",
    "container_image_digest", "runtime_profile_digest", "runtime_claims_digest", "repo_digest",
    "ctxpack_digest", "execution_adapter", "nonportable_paths"]

theorem contextKeys_nodup : contextKeys.Nodup := by simp [contextKeys]

theorem keys_setText (key : String) (text : Option String) :
    ((setText key text).map Prod.fst).Sublist [key] := by
  rw [setText]
  by_cases h : text.getD "" = ""
  · rw [if_pos h]
    exact List.nil_sublist _
  · rw [if_neg h]
    exact List.Sublist.refl _

theorem keys_contextFields (c : RuntimeContext) :
    ((contextFields c).map Prod.fst).Sublist contextKeys := by
  have hpaths : ((pathsField c.nonportablePaths).map Prod.fst).Sublist ["nonportable_paths"] := by
    rw [pathsField]
    cases c.nonportablePaths with
    | nil => exact List.nil_sublist _
    | cons path paths => exact List.Sublist.refl _
  rw [contextFields, digestFields]
  simp only [List.map_append]
  exact ((((List.Sublist.refl _).append (keys_setText _ _)).append
    (((((keys_setText _ _).append (keys_setText _ _)).append (keys_setText _ _)).append
      (keys_setText _ _)).append (keys_setText _ _))).append (keys_setText _ _)).append hpaths

theorem contextFields_nodup (c : RuntimeContext) : ((contextFields c).map Prod.fst).Nodup :=
  contextKeys_nodup.sublist (keys_contextFields c)

theorem lookup_own {c : RuntimeContext} {entry : String × Json}
    (h : entry ∈ fixedFields c ++ digestFields c) :
    (contextFields c).lookup entry.1 = some entry.2 := by
  refine lookup_of_mem (contextFields_nodup c) ?_
  rw [contextFields]
  rcases List.mem_append.mp h with hfixed | hdigest
  · simp [hfixed]
  · simp [hdigest]

theorem lookup_trust (c : RuntimeContext) :
    (contextFields c).lookup "runtime_trust_level" = none := by
  rw [lookup_eq_none]
  intro hmem
  exact absurd ((keys_contextFields c).subset hmem) (by simp [contextKeys])

/-- A field keeps its value exactly where no claim with another one stands over it. -/
theorem field_kept_iff {c : RuntimeContext} {entry : String × Json}
    (h : entry ∈ fixedFields c ++ digestFields c) :
    (toPayload c).lookup entry.1 = some entry.2 ↔
      ∀ v, c.extraClaims.fields.lookup entry.1 = some v → v = entry.2 := by
  rw [lookup_toPayload, lookup_own h]
  cases hextra : c.extraClaims.fields.lookup entry.1 with
  | none => simp
  | some v => simp

theorem ownValues_iff (c : RuntimeContext) : OwnValues c ↔ NoClash c := by
  have htrust : (toPayload c).lookup "runtime_trust_level" =
      c.extraClaims.fields.lookup "runtime_trust_level" := by
    rw [lookup_toPayload, lookup_trust, Option.or_none]
  constructor
  · intro h
    refine ⟨fun entry hentry => (field_kept_iff hentry).mp ?_, htrust ▸ h.untrusted⟩
    rcases List.mem_append.mp hentry with hfixed | hdigest
    · exact h.fixed entry hfixed
    · exact h.digests entry hdigest
  · intro h
    refine ⟨?_, ?_, htrust.trans h.untrusted⟩
    · intro entry hentry
      have hmem := List.mem_append_left (digestFields c) hentry
      exact (field_kept_iff hmem).mpr (h.own entry hmem)
    · intro entry hentry
      have hmem := List.mem_append_right (fixedFields c) hentry
      exact (field_kept_iff hmem).mpr (h.own entry hmem)

/-! ## The digest -/

section Digest

variable {a a' : ExternalArguments} {k : String}

theorem ownClaims_nodup (a : ExternalArguments) : ((ownClaims a).map Prod.fst).Nodup := by
  show ownKeys.Nodup
  simp [ownKeys]

/-- A claim of the builder is a string or null. -/
theorem ownClaims_text {v : Json} (h : (ownClaims a).lookup k = some v) :
    WellFormed v ∧ sortKeys v = v := by
  have htext : ∀ text, WellFormed (optionalText text) ∧
      sortKeys (optionalText text) = optionalText text := by
    intro text
    cases text with
    | none => exact ⟨trivial, rfl⟩
    | some text => exact ⟨trivial, rfl⟩
  have hall : ∀ entry ∈ ownClaims a, WellFormed entry.2 ∧ sortKeys entry.2 = entry.2 := by
    simp only [ownClaims, List.forall_mem_cons]
    exact ⟨⟨trivial, rfl⟩, ⟨trivial, rfl⟩, ⟨trivial, rfl⟩, ⟨trivial, rfl⟩, ⟨trivial, rfl⟩,
      htext _, htext _, ⟨trivial, rfl⟩, List.forall_mem_nil _⟩
  exact hall (k, v) (mem_of_lookup h)

theorem lookup_mergedClaims (a : ExternalArguments) (k : String) :
    (mergedClaims a).lookup k = (a.extra.fields.lookup k).or ((ownClaims a).lookup k) :=
  lookup_assignAll _ a.extra.wellFormed.1 k

theorem mergedClaims_nodup (a : ExternalArguments) : ((mergedClaims a).map Prod.fst).Nodup :=
  nodup_keys_assignAll _ (ownClaims_nodup a)

theorem mergedClaims_wellFormed (a : ExternalArguments) : WellFormed (.obj (mergedClaims a)) := by
  refine ⟨mergedClaims_nodup a, (wellFormedFields_iff _).mpr fun entry hentry => ?_⟩
  have hlookup := lookup_of_mem (mergedClaims_nodup a) hentry
  rw [lookup_mergedClaims] at hlookup
  cases hextra : a.extra.fields.lookup entry.1 with
  | some v =>
    rw [hextra] at hlookup
    obtain rfl := Option.some.inj hlookup
    exact (wellFormedFields_iff _).mp a.extra.wellFormed.2 _ (mem_of_lookup hextra)
  | none =>
    rw [hextra] at hlookup
    exact (ownClaims_text hlookup).1

/-- Equal digests stand for equal claims, key by key. -/
theorem digest_agree_iff {sha256 : String → String} (hfree : Function.Injective sha256) :
    (buildExternalContext sha256 a).runtimeClaimsDigest =
      (buildExternalContext sha256 a').runtimeClaimsDigest ↔
      ∀ k, effective a k = effective a' k := by
  have hmerged : sortKeys (.obj (mergedClaims a)) = sortKeys (.obj (mergedClaims a')) ↔
      ∀ k, effective a k = effective a' k := by
    rw [sortKeys_obj_iff (mergedClaims_nodup a) (mergedClaims_nodup a')]
    simp only [lookup_mergedClaims, effective]
  rw [← hmerged, ← dumps_agree_iff (mergedClaims_wellFormed a) (mergedClaims_wellFormed a')]
  constructor
  · intro h
    exact hfree ((String.append_right_inj "sha256:").mp (Option.some.inj h))
  · intro h
    rw [buildExternalContext, buildExternalContext, stableDigest, stableDigest, h]

/-- The same arguments make the same claims of the builder. -/
theorem SameArguments.own (h : SameArguments a a') : ownClaims a = ownClaims a' := by
  rw [ownClaims, ownClaims, h.runtimeKind, h.platform, h.pythonVersion, h.sdkVersion,
    h.cliVersion, h.repoDigest, h.ctxpackDigest]

theorem SameArguments.lookup (h : SameArguments a a') (k : String) :
    (a.extra.fields.lookup k).map sortKeys = (a'.extra.fields.lookup k).map sortKeys :=
  (sortKeys_obj_iff a.extra.wellFormed.1 a'.extra.wellFormed.1).mp h.extra k

theorem effective_of_same (h : SameArguments a a') (k : String) :
    effective a k = effective a' k := by
  rw [effective, effective, Option.map_or, Option.map_or, h.lookup, h.own]

theorem optionalText_inj : ∀ {text text' : Option String},
    optionalText text = optionalText text' → text = text'
  | none, none, _ => rfl
  | some _, some _, h => congrArg some (Json.str.inj h)

/-- The builder's claims tell its arguments apart. -/
theorem same_of_own (hown : ∀ k ∈ ownKeys, (ownClaims a).lookup k = (ownClaims a').lookup k)
    (hextra : sortKeys (.obj a.extra.fields) = sortKeys (.obj a'.extra.fields)) :
    SameArguments a a' := by
  simp only [ownKeys, List.forall_mem_cons] at hown
  obtain ⟨hkind, hplatform, hpython, hsdk, hcli, hrepo, hctxpack, -⟩ := hown
  constructor
  · simpa [ownClaims] using hkind
  · simpa [ownClaims, List.lookup_cons] using hplatform
  · simpa [ownClaims, List.lookup_cons] using hpython
  · simpa [ownClaims, List.lookup_cons] using hsdk
  · simpa [ownClaims, List.lookup_cons] using hcli
  · exact optionalText_inj (by simpa [ownClaims, List.lookup_cons] using hrepo)
  · exact optionalText_inj (by simpa [ownClaims, List.lookup_cons] using hctxpack)
  · exact hextra

/-- Where the claims are equal, the arguments are the same exactly if nothing is masked. -/
theorem same_iff_unmasked (hagree : ∀ k, effective a k = effective a' k) :
    SameArguments a a' ↔ Unmasked a a' := by
  constructor
  · intro h k _
    refine ⟨?_, fun _ => by rw [h.own]⟩
    have hlookup := congrArg Option.isSome (h.lookup k)
    rwa [Option.isSome_map, Option.isSome_map] at hlookup
  · intro h
    have hextra : ∀ k, (a.extra.fields.lookup k).map sortKeys =
        (a'.extra.fields.lookup k).map sortKeys := by
      intro k
      have heffective := hagree k
      rw [effective, effective] at heffective
      by_cases hk : k ∈ ownKeys
      · have hboth := (h k hk).1
        cases hlookup : a.extra.fields.lookup k with
        | some v =>
          cases hlookup' : a'.extra.fields.lookup k with
          | some v' =>
            rw [hlookup, hlookup'] at heffective
            exact heffective
          | none =>
            rw [hlookup, hlookup'] at hboth
            exact nomatch hboth
        | none =>
          cases hlookup' : a'.extra.fields.lookup k with
          | some v' =>
            rw [hlookup, hlookup'] at hboth
            exact nomatch hboth
          | none => rfl
      · have hnone : ∀ a : ExternalArguments, (ownClaims a).lookup k = none :=
          fun a => lookup_eq_none.mpr hk
        rwa [hnone, hnone, Option.or_none, Option.or_none] at heffective
    refine same_of_own (fun k hk => ?_)
      ((sortKeys_obj_iff a.extra.wellFormed.1 a'.extra.wellFormed.1).mpr hextra)
    obtain ⟨hboth, hsame⟩ := h k hk
    cases hlookup : a.extra.fields.lookup k with
    | some v => exact hsame (by rw [hlookup]; rfl)
    | none =>
      rw [hlookup] at hboth
      have hlookup' := Option.isSome_eq_false_iff.mp hboth.symm
      have heffective := hagree k
      rw [effective, effective, hlookup, Option.isNone_iff_eq_none.mp hlookup', Option.none_or,
        Option.none_or] at heffective
      have htext : ∀ a : ExternalArguments,
          ((ownClaims a).lookup k).map sortKeys = (ownClaims a).lookup k := by
        intro a
        cases hown : (ownClaims a).lookup k with
        | none => rfl
        | some v => rw [Option.map_some, (ownClaims_text hown).2]
      rwa [htext, htext] at heffective

end Digest

/-- The payload keeps the context's own values exactly where no extra claim stands over one, and
    equal digests stand for the same arguments exactly where equal claims mask none. -/
theorem claims_kept_iff {sha256 : String → String} (hfree : Function.Injective sha256)
    (c : RuntimeContext) (a a' : ExternalArguments) :
    (OwnValues c ↔ NoClash c) ∧
      (DigestIdentifies sha256 a a' ↔
        ((∀ k, effective a k = effective a' k) → Unmasked a a')) := by
  refine ⟨ownValues_iff c, ?_⟩
  rw [DigestIdentifies, digest_agree_iff hfree]
  constructor
  · intro h hagree
    exact (same_iff_unmasked hagree).mp (h.mp hagree)
  · intro h
    exact ⟨fun hagree => (same_iff_unmasked hagree).mpr (h hagree), effective_of_same⟩

/-! ## A claim over a field -/

/-- One extra claim. -/
def oneClaim (key value : String) : Claims where
  fields := [(key, .str value)]
  wellFormed := ⟨List.nodup_singleton key, trivial, trivial⟩

/-- A context that claims its own trust level. -/
def trustClaimed : RuntimeContext :=
  { contractVersion := "sdk-runtime-contract.v1", profileId := "external.runtime.v1",
    runtimeMode := .external, extraClaims := oneClaim "runtime_trust_level" "canonical_container" }

/-- The arguments of a caller on Linux, and those of one who claims to be. -/
def onLinux : ExternalArguments := { platform := "linux" }

def claimedLinux : ExternalArguments :=
  { platform := "darwin", extraClaims := some (oneClaim "platform" "linux") }

theorem claims_kept_sample :
    (OwnValues trustClaimed ↔ NoClash trustClaimed) ∧
      (DigestIdentifies id onLinux claimedLinux ↔
        ((∀ k, effective onLinux k = effective claimedLinux k) →
          Unmasked onLinux claimedLinux)) :=
  claims_kept_iff Function.injective_id trustClaimed onLinux claimedLinux

/-- The trust level is claimed, and the two callers have one digest. -/
theorem claims_overwrite :
    ¬ OwnValues trustClaimed ∧ ¬ DigestIdentifies id onLinux claimedLinux := by
  constructor
  · intro h
    have hnone := (ownValues_iff trustClaimed).mp h
    exact nomatch hnone.untrusted
  · intro h
    have hmerged : mergedClaims onLinux = mergedClaims claimedLinux := rfl
    have hsame := h.mp (by rw [buildExternalContext, buildExternalContext, hmerged])
    exact absurd hsame.platform (by simp [onLinux, claimedLinux])

end KeyholeRuntimeClaims
