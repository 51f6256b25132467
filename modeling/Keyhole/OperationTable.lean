import Keyhole.Operations

/-!
# Who binds `repo.register`

`_extract_operations` makes six passes over the capabilities document, and all of them
write the same table.  The run type that `repo.register` ends up with depends on the
writes to that one entry, in order: the passes over the `operations` lists write before
the declared canonical run type, the passes over `logical_operation_map` and over every
run type in the document write after it.

* `rebind`: what one write does to the entry;
* `earlierMentions`, `laterMentions`: the writes before and after the declaration;
* `registration_bound`: the entry of the finished table, from the three lists. -/

namespace KeyholeOperations

open KeyholeJson KeyholeEnvelope

/-! ## One entry of the table -/

theorem lookup_put (found : Operations) (name : String) (op : BoundaryOperation) (k : String) :
    (found.put name op).lookup k = if k = name then some op else found.lookup k := by
  induction found with
  | nil =>
    show (List.lookup k [(name, op)]) = _
    by_cases h : k = name
    · simp [h]
    · simp [List.lookup_cons, h, beq_eq_false_iff_ne.mpr h]
  | cons entry rest ih =>
    obtain ⟨key, o⟩ := entry
    show (if name = key then (name, op) :: rest else (key, o) :: Operations.put rest name op).lookup k
      = _
    by_cases hkey : name = key
    · rw [if_pos hkey]
      by_cases h : k = name
      · simp [h]
      · have hne : k ≠ key := fun e => h (e.trans hkey.symm)
        simp [List.lookup_cons, h, beq_eq_false_iff_ne.mpr hne, beq_eq_false_iff_ne.mpr h]
    · rw [if_neg hkey, List.lookup_cons, List.lookup_cons, ih]
      by_cases h : k = name
      · have hne : k ≠ key := fun e => hkey (h.symm.trans e)
        simp [h, beq_eq_false_iff_ne.mpr (h ▸ hne)]
      · simp [h]

/-- The run type bound to `repo.register`. -/
def registrationRunType (found : Operations) : Option String :=
  (found.lookup "repo.register").map BoundaryOperation.runType

/-- What a write of the run type `rt` does to the entry of `repo.register`. -/
def rebind (current : Option String) (rt : String) : Option String :=
  match current with
  | none => some rt
  | some bound =>
      if bound ≠ "" ∧ rt = "" then some bound
      else if bound ≠ "" ∧ rt = "repo.register" ∧ bound ≠ rt then some bound
      else some rt

/-- The writes to `repo.register` among additions of one run type under some names. -/
def mentions (names : List String) (rt : String) : List String :=
  (names.filter (fun name => name == "repo.register")).map (fun _ => rt)

theorem registrationRunType_add (found : Operations) (name path method surface rt : String) :
    registrationRunType (addOperation found name path method surface rt)
      = (mentions [name] rt).foldl rebind (registrationRunType found) := by
  unfold registrationRunType addOperation mentions
  by_cases hname : name = "repo.register"
  · subst hname
    rw [if_neg (by decide)]
    cases hfound : found.lookup "repo.register" with
    | none => simp [lookup_put, rebind]
    | some current =>
      show _ = rebind (some current.runType) rt
      unfold rebind
      by_cases hempty : current.runType ≠ "" ∧ rt = ""
      · simp only [if_pos hempty, hfound, Option.map_some]
      · by_cases hkeep : current.runType ≠ "" ∧ rt = "repo.register" ∧ current.runType ≠ rt
        · simp only [if_neg hempty, if_pos hkeep, hfound, Option.map_some]
        · simp only [if_neg hempty, if_neg hkeep, lookup_put, if_true, Option.map_some]
  · have hother : ∀ op, (found.put name op).lookup "repo.register"
        = found.lookup "repo.register" := fun op => by
      rw [lookup_put, if_neg (fun e => hname e.symm)]
    have hfilter : [name].filter (fun name => name == "repo.register") = [] := by
      simp [hname]
    rw [hfilter]
    by_cases hempty : name = ""
    · rw [if_pos hempty]
      rfl
    · rw [if_neg hempty]
      cases found.lookup name with
      | none => simp only [hother]; rfl
      | some current =>
        by_cases h₁ : current.runType ≠ "" ∧ rt = ""
        · simp only [if_pos h₁]; rfl
        · by_cases h₂ : current.runType ≠ "" ∧ rt = name ∧ current.runType ≠ rt
          · simp only [if_neg h₁, if_pos h₂]; rfl
          · simp only [if_neg h₁, if_neg h₂, hother]; rfl

/-! ## The passes -/

/-- A pass whose steps write `repo.register` as `said` tells writes what it tells of
    all of them, in order. -/
theorem registrationRunType_foldl {β : Type} {step : Operations → β → Operations}
    {said : β → List String}
    (h : ∀ found x, registrationRunType (step found x)
      = (said x).foldl rebind (registrationRunType found)) (xs : List β) (found : Operations) :
    registrationRunType (xs.foldl step found)
      = (xs.flatMap said).foldl rebind (registrationRunType found) := by
  induction xs generalizing found with
  | nil => rfl
  | cons x xs ih =>
    rw [List.foldl_cons, ih, h, List.flatMap_cons, List.foldl_append]

/-- The additions of one run type under several names. -/
theorem registrationRunType_names (names : List String) (path method surface rt : String)
    (found : Operations) :
    registrationRunType (names.foldl
        (fun found name => addOperation found name path method surface rt) found)
      = (mentions names rt).foldl rebind (registrationRunType found) := by
  have hadd : ∀ found name, registrationRunType (addOperation found name path method surface rt)
      = ((fun name => mentions [name] rt) name).foldl rebind (registrationRunType found) :=
    fun found name => registrationRunType_add found name path method surface rt
  rw [registrationRunType_foldl hadd]
  congr 1
  induction names with
  | nil => rfl
  | cons name rest ih =>
    rw [List.flatMap_cons, ih, mentions, mentions, mentions, ← List.map_append,
      ← List.filter_append]
    rfl

/-- The writes of a normalised definition. -/
def definitionMentions (op : OperationDefinition) : List String :=
  mentions op.identifiers op.canonicalRunType

theorem registrationRunType_definition (found : Operations) (op : OperationDefinition) :
    registrationRunType (addDefinition found op)
      = (definitionMentions op).foldl rebind (registrationRunType found) :=
  registrationRunType_names _ _ _ _ _ _

/-- The writes of an entry of a raw `operations` dictionary. -/
def fieldMentions (entry : String × Json) : List String :=
  match entry.2 with
  | .obj spec => mentions [entry.1] (pyStr (Dict.getOr spec "run_type" (.str "")))
  | spec => if truthy spec then mentions [entry.1] "" else []

theorem registrationRunType_field (found : Operations) (entry : String × Json) :
    registrationRunType (addRawField found entry)
      = (fieldMentions entry).foldl rebind (registrationRunType found) := by
  obtain ⟨name, spec⟩ := entry
  have hplain : ∀ (v : Json), registrationRunType (if truthy v then addOperation found name
        (if endsWith name ".realize" then runsStartPath else "") "POST" "http" "" else found)
      = (if truthy v then mentions [name] "" else []).foldl rebind (registrationRunType found) := by
    intro v
    by_cases h : truthy v = true
    · rw [if_pos h, if_pos h]
      exact registrationRunType_add _ _ _ _ _ _
    · rw [if_neg h, if_neg h]
      rfl
  cases spec with
  | obj d => exact registrationRunType_add _ _ _ _ _ _
  | null => exact hplain .null
  | bool b => exact hplain (.bool b)
  | int n => exact hplain (.int n)
  | float t => exact hplain (.float t)
  | str s => exact hplain (.str s)
  | arr xs => exact hplain (.arr xs)

/-- The writes of an entry of a raw `operations` list. -/
def itemMentions : Json → List String
  | .str name => mentions [name] ""
  | .obj item =>
      let operationId := strOr (orElse (Dict.get item "operation_id")
        (orElse (Dict.get item "name") (Dict.get item "operation")))
      (if operationId ≠ "" ∧ truthy (Dict.get item "run_types") = false then
          mentions [operationId] (strOr (Dict.get item "run_type"))
        else [])
      ++ (strings (asList (Dict.get item "run_types"))).flatMap
          (fun rt => mentions [logicalNameForRunType rt] rt)
  | _ => []

theorem registrationRunType_item (found : Operations) (entry : Json) :
    registrationRunType (addRawItem found entry)
      = (itemMentions entry).foldl rebind (registrationRunType found) := by
  cases entry with
  | str name => exact registrationRunType_add _ _ _ _ _ _
  | obj item =>
    unfold addRawItem itemMentions
    rw [List.foldl_append]
    have hadd : ∀ path method surface found rt, registrationRunType
        (addOperation found (logicalNameForRunType rt) path method surface rt)
        = ((fun rt => mentions [logicalNameForRunType rt] rt) rt).foldl rebind
          (registrationRunType found) :=
      fun path method surface found rt => registrationRunType_add found _ path method surface rt
    refine (registrationRunType_foldl (hadd _ _ _) _ _).trans ?_
    congr 1
    by_cases h : strOr (orElse (Dict.get item "operation_id")
        (orElse (Dict.get item "name") (Dict.get item "operation"))) ≠ "" ∧
        truthy (Dict.get item "run_types") = false
    · rw [if_pos h, if_pos h]
      exact registrationRunType_add _ _ _ _ _ _
    · rw [if_neg h, if_neg h]
      rfl
  | _ => rfl

/-- The writes of a raw `operations` value. -/
def rawMentions : Json → List String
  | .obj fields => fields.flatMap fieldMentions
  | .arr items => items.flatMap itemMentions
  | _ => []

theorem registrationRunType_raw (found : Operations) (operations : Json) :
    registrationRunType (addRawOperations found operations)
      = (rawMentions operations).foldl rebind (registrationRunType found) := by
  cases operations with
  | obj fields => exact registrationRunType_foldl registrationRunType_field _ _
  | arr items => exact registrationRunType_foldl registrationRunType_item _ _
  | _ => rfl

/-- The writes of an entry of `logical_operation_map`. -/
def logicalMentions (entry : String × Json) : List String :=
  match entry.2 with
  | .obj spec =>
      let runType := strOr (Dict.get spec "run_type")
      mentions ([entry.1] ++ strings (asList (Dict.get spec "equivalent_to"))
        ++ (if runType = "" then [] else [logicalNameForRunType runType])) runType
  | _ => []

theorem registrationRunType_logical (found : Operations) (entry : String × Json) :
    registrationRunType (addLogicalEntry found entry)
      = (logicalMentions entry).foldl rebind (registrationRunType found) := by
  obtain ⟨name, spec⟩ := entry
  cases spec with
  | obj d => exact registrationRunType_names _ _ _ _ _ _
  | _ => rfl

/-- The writes of a run type mentioned in the document. -/
def runTypeMentions (rt : String) : List String :=
  if registrationRunTypes.contains rt then [rt] else []

theorem registrationRunType_runType (found : Operations) (rt : String) :
    registrationRunType (addRunType found rt)
      = (runTypeMentions rt).foldl rebind (registrationRunType found) := by
  unfold addRunType runTypeMentions
  by_cases h : registrationRunTypes.contains rt = true
  · rw [if_pos h, if_pos h]
    exact registrationRunType_add _ _ _ _ _ _
  · rw [if_neg h, if_neg h]
    have hne : rt ≠ "repo.register" := fun e => h (e ▸ by decide)
    by_cases hother : rt = "context.compile" ∨ rt = "governed.realize" ∨ rt = "gaps.claim"
    · rw [if_pos hother, registrationRunType_add]
      simp [mentions, hne]
    · rw [if_neg hother]
      rfl

theorem registrationRunType_declared (found : Operations) {name : String} (rt : String)
    (h : name ≠ "repo.register") :
    registrationRunType (addDeclared found name rt) = registrationRunType found := by
  unfold addDeclared
  by_cases hrt : rt = ""
  · rw [if_pos hrt]
  · rw [if_neg hrt, registrationRunType_add]
    simp [mentions, h]

/-! ## The order of the writes -/

/-- The `repo_governance` block. -/
def repoGovernance (capabilities : Dict) : Dict :=
  (workerSdk (unwrapMcpEnvelope capabilities)).child "repo_governance"

/-- The `logical_operation_map` block. -/
def logicalOperationMap (capabilities : Dict) : Dict :=
  (workerSdk (unwrapMcpEnvelope capabilities)).child "logical_operation_map"

/-- The writes before the declared canonical run type. -/
def earlierMentions (capabilities : Dict) : List String :=
  ((normalizeOperationsFromCapabilities capabilities).getD []).flatMap definitionMentions
    ++ rawMentions (capabilities.get "operations")
    ++ rawMentions ((unwrapMcpEnvelope capabilities).get "operations")

/-- The writes after it. -/
def laterMentions (capabilities : Dict) : List String :=
  (logicalOperationMap capabilities).flatMap logicalMentions
    ++ (iterRunTypes (.obj (unwrapMcpEnvelope capabilities))).flatMap runTypeMentions

/-- The writes of the declaration itself: its aliases, and `repo.register` last. -/
def declaredMentions (repoGovernance : Dict) (canonical : String) : List String :=
  let aliases := match repoGovernance.get "logical_aliases" with
    | .arr items => strings items
    | _ => ["repo.register"]
  mentions (aliases ++ ["repo.register"]) canonical

/-- The finished table binds `repo.register` as the three lists of writes say, in
    order. -/
theorem registration_bound {capabilities : Dict} {found : Operations} {c : String}
    (hfound : extractOperations capabilities = some found)
    (hdeclared : (repoGovernance capabilities).get "canonical_run_type" = .str c) (hc : c ≠ "") :
    registrationRunType found = (earlierMentions capabilities
      ++ declaredMentions (repoGovernance capabilities) c
      ++ laterMentions capabilities).foldl rebind none := by
  unfold extractOperations at hfound
  cases hdefs : normalizeOperationsFromCapabilities capabilities with
  | none => rw [hdefs] at hfound; exact nomatch hfound
  | some definitions =>
    rw [hdefs] at hfound
    cases hfound
    have hgovernance : ∀ found, registrationRunType
        (addRepoGovernance found (repoGovernance capabilities))
        = (declaredMentions (repoGovernance capabilities) c).foldl rebind
          (registrationRunType found) := by
      intro found
      unfold addRepoGovernance
      rw [hdeclared, strOr_str, if_neg hc]
      exact registrationRunType_names _ _ _ _ _ _
    rw [registrationRunType_foldl registrationRunType_runType,
      registrationRunType_declared _ _ (by decide), registrationRunType_declared _ _ (by decide),
      registrationRunType_foldl registrationRunType_logical]
    refine (congrArg (fun b => List.foldl rebind (List.foldl rebind b _) _)
      (hgovernance _)).trans ?_
    rw [registrationRunType_raw, registrationRunType_raw,
      registrationRunType_foldl registrationRunType_definition, earlierMentions, laterMentions,
      hdefs]
    simp only [List.foldl_append, Option.getD_some]
    rfl

/-- A run type that a write cannot lose against: not empty, and not the generic name. -/
def effective (rt : String) : Bool := rt != "" && rt != "repo.register"

theorem rebind_of_bound {bound : String} (h : bound ≠ "") (rt : String) :
    rebind (some bound) rt = some (if effective rt then rt else bound) := by
  unfold rebind effective
  by_cases hempty : rt = ""
  · simp [h, hempty]
  · by_cases hname : rt = "repo.register"
    · by_cases hsame : bound = rt
      · simp [hname, hsame.trans hname]
      · have hne : bound ≠ "repo.register" := fun e => hsame (e.trans hname.symm)
        simp [h, hname, hne]
    · simp [h, hempty, hname]

/-- Once something is bound, the last effective write decides. -/
theorem rebind_foldl_bound {bound : String} (h : bound ≠ "") (rts : List String) :
    rts.foldl rebind (some bound) = some ((rts.filter effective).getLast?.getD bound) := by
  induction rts generalizing bound with
  | nil => rfl
  | cons rt rest ih =>
    rw [List.foldl_cons, rebind_of_bound h]
    by_cases heff : effective rt = true
    · have hrt : rt ≠ "" := by
        rintro rfl
        exact absurd heff (by decide)
      rw [if_pos heff, ih hrt, List.filter_cons_of_pos heff, List.getLast?_cons]
      rfl
    · rw [if_neg heff, ih h, List.filter_cons_of_neg heff]

/-- An effective write is never undone by one that is not. -/
theorem rebind_any (current : Option String) (rt : String) :
    (rebind current rt).any effective = (current.any effective || effective rt) := by
  cases current with
  | none => rfl
  | some bound =>
    by_cases hbound : bound = ""
    · subst hbound
      simp [rebind, effective]
    · rw [rebind_of_bound hbound]
      by_cases heff : effective rt = true
      · simp [heff]
      · simp [heff]

theorem rebind_foldl_any (rts : List String) (current : Option String) :
    (rts.foldl rebind current).any effective = (current.any effective || rts.any effective) := by
  induction rts generalizing current with
  | nil => exact (Bool.or_false _).symm
  | cons rt rest ih => rw [List.foldl_cons, ih, rebind_any, List.any_cons, Bool.or_assoc]

/-- The declaration binds its run type, unless that is the generic name and an
    effective one is bound. -/
theorem rebind_declared {c : String} (hc : c ≠ "") (current : Option String) :
    rebind current c
      = if c = "repo.register" ∧ current.any effective = true then current else some c := by
  cases current with
  | none => simp [rebind]
  | some bound =>
    by_cases hbound : bound = ""
    · subst hbound
      simp [rebind, effective]
    · rw [rebind_of_bound hbound]
      by_cases hname : c = "repo.register"
      · by_cases hsame : bound = "repo.register"
        · simp [effective, hname, hsame]
        · simp [effective, hname, hsame, hbound]
      · simp [effective, hname, hc]

theorem rebind_foldl_declared {c : String} (hc : c ≠ "") (current : Option String)
    (names : List String) :
    (mentions (names ++ ["repo.register"]) c).foldl rebind current
      = if c = "repo.register" ∧ current.any effective = true then current else some c := by
  have hsplit : mentions (names ++ ["repo.register"]) c = mentions names c ++ [c] := by
    simp [mentions]
  have hall : ∀ rt ∈ mentions names c, rt = c := by
    intro rt hrt
    obtain ⟨-, -, rfl⟩ := List.mem_map.mp hrt
    rfl
  rw [hsplit, List.foldl_append]
  generalize mentions names c = rts at hall
  -- the aliases write the same run type, which changes nothing for the last write
  induction rts generalizing current with
  | nil => exact rebind_declared hc current
  | cons rt rest ih =>
    show List.foldl rebind (List.foldl rebind (rebind current rt) rest) [c] = _
    rw [ih (rebind current rt) (fun x hx => hall x (List.mem_cons_of_mem _ hx)),
      hall rt List.mem_cons_self, rebind_any, rebind_declared hc]
    by_cases hkeep : c = "repo.register" ∧ current.any effective = true
    · rw [if_pos hkeep, if_pos ⟨hkeep.1, by rw [hkeep.2]; rfl⟩]
    · rw [if_neg hkeep, if_neg]
      rintro ⟨hname, heff⟩
      have hnone : effective c = false := by rw [hname]; decide
      rw [hnone, Bool.or_false] at heff
      exact hkeep ⟨hname, heff⟩

/-! ## The declared run type -/

/-- `_extract_operations` maps `repo.register` to the run type. -/
def MapsRegistration (capabilities : Dict) (c : String) : Prop :=
  ∃ found op, extractOperations capabilities = some found ∧
    found.lookup "repo.register" = some op ∧ op.runType = c

/-- The last effective write after the declaration agrees with it; without one, the
    declaration is not the generic name, or nothing effective was written before. -/
def DeclarationLasts (capabilities : Dict) (c : String) : Prop :=
  (∀ rt, ((laterMentions capabilities).filter effective).getLast? = some rt → rt = c) ∧
    (((laterMentions capabilities).filter effective).getLast? = none → c = "repo.register" →
      (earlierMentions capabilities).any effective = false)

/-- The declared canonical run type is bound exactly when the `operations` entries can
    be read and no later write, in the order of the document, takes the entry away. -/
theorem declared_run_type_bound_iff {capabilities : Dict} {c : String}
    (hdeclared : (repoGovernance capabilities).get "canonical_run_type" = .str c) (hc : c ≠ "") :
    MapsRegistration capabilities c ↔
      (normalizeOperationsFromCapabilities capabilities).isSome = true ∧
        DeclarationLasts capabilities c := by
  have hbound : ∀ found, extractOperations capabilities = some found →
      (registrationRunType found = some c ↔ DeclarationLasts capabilities c) := by
    intro found hfound
    rw [registration_bound hfound hdeclared hc, List.foldl_append, List.foldl_append,
      declaredMentions, rebind_foldl_declared hc, rebind_foldl_any]
    unfold DeclarationLasts
    by_cases hlost : c = "repo.register" ∧ (earlierMentions capabilities).any effective = true
    · -- the generic name does not replace what an earlier pass bound
      rw [if_pos ⟨hlost.1, hlost.2⟩]
      cases hfirst : (earlierMentions capabilities).foldl rebind none with
      | none =>
        have hany := rebind_foldl_any (earlierMentions capabilities) none
        rw [hfirst, hlost.2] at hany
        exact nomatch hany
      | some bound =>
        have hany := rebind_foldl_any (earlierMentions capabilities) none
        rw [hfirst, hlost.2] at hany
        have heff : effective bound = true := hany
        have hne : bound ≠ "" := by
          rintro rfl
          exact absurd heff (by decide)
        rw [rebind_foldl_bound hne]
        cases hlast : ((laterMentions capabilities).filter effective).getLast? with
        | some rt =>
          constructor
          · intro h
            have hrt : rt = c := Option.some.inj h
            exact ⟨fun _ h => (Option.some.inj h).symm.trans hrt, fun h => nomatch h⟩
          · exact fun h => congrArg some (h.1 rt rfl)
        | none =>
          constructor
          · intro h
            have hb : bound = c := Option.some.inj h
            rw [hb, hlost.1] at heff
            exact absurd heff (by decide)
          · intro h
            rw [h.2 rfl hlost.1] at hlost
            exact nomatch hlost.2
    · rw [if_neg (fun h => hlost ⟨h.1, h.2⟩), rebind_foldl_bound hc]
      cases hlast : ((laterMentions capabilities).filter effective).getLast? with
      | some rt =>
        constructor
        · intro h
          have hrt : rt = c := Option.some.inj h
          exact ⟨fun _ h => (Option.some.inj h).symm.trans hrt, fun h => nomatch h⟩
        · exact fun h => congrArg some (h.1 rt rfl)
      | none =>
        refine ⟨fun _ => ⟨(fun _ h => nomatch h), fun _ hname => ?_⟩, fun _ => rfl⟩
        exact Bool.not_eq_true _ ▸ fun h => hlost ⟨hname, h⟩
  constructor
  · rintro ⟨found, op, hfound, hlookup, hrt⟩
    refine ⟨?_, (hbound found hfound).mp ?_⟩
    · unfold extractOperations at hfound
      cases hdefs : normalizeOperationsFromCapabilities capabilities with
      | none => rw [hdefs] at hfound; exact nomatch hfound
      | some definitions => rfl
    · rw [registrationRunType, hlookup, ← hrt]
      rfl
  · rintro ⟨hsome, hlasts⟩
    obtain ⟨definitions, hdefs⟩ := Option.isSome_iff_exists.mp hsome
    have hfound : ∃ found, extractOperations capabilities = some found := by
      unfold extractOperations
      rw [hdefs]
      exact ⟨_, rfl⟩
    obtain ⟨found, hfound⟩ := hfound
    have hrt := (hbound found hfound).mpr hlasts
    unfold registrationRunType at hrt
    obtain ⟨op, hlookup, hrt⟩ := Option.map_eq_some_iff.mp hrt
    exact ⟨found, op, hfound, hlookup, hrt⟩

/-- A document that declares the canonical run type, and says more. -/
def declaringCapabilities (canonical : String) (more : Dict) : Dict :=
  [("governed_worker_sdk", .obj [("repo_governance", .obj [("canonical_run_type", .str canonical)])])]
    ++ more

/-- A declaration that nothing else speaks against is bound. -/
theorem lone_declaration_bound :
    MapsRegistration (declaringCapabilities "governance.context.create" [])
      "governance.context.create" := by
  refine (declared_run_type_bound_iff (by rfl) (by decide)).mpr ⟨by decide, ?_, ?_⟩
  · intro rt h
    have hnone : ((laterMentions (declaringCapabilities "governance.context.create" [])).filter
        effective).getLast? = none := by decide
    rw [hnone] at h
    exact nomatch h
  · exact fun _ h => absurd h (by decide)

/-- An operation that is merely listed takes the entry away from the declaration. -/
theorem listed_run_type_bound :
    ¬∀ (capabilities : Dict) (c : String),
      (repoGovernance capabilities).get "canonical_run_type" = .str c → c ≠ "" →
        MapsRegistration capabilities c := by
  intro h
  obtain ⟨found, op, hfound, hlookup, hrt⟩ := h
    (declaringCapabilities "governance.context.create"
      [("operations", .arr [.str "participant.declare"])])
    "governance.context.create" rfl (by decide)
  have hbound : (extractOperations (declaringCapabilities "governance.context.create"
      [("operations", .arr [.str "participant.declare"])])).bind registrationRunType
      = some "participant.declare" := by decide
  rw [hfound] at hbound
  have hrun : (found.lookup "repo.register").map BoundaryOperation.runType
      = some "participant.declare" := hbound
  rw [hlookup, Option.map_some, hrt] at hrun
  exact absurd hrun (by decide)

end KeyholeOperations
