import Keyhole.RunTypeValidation

/-!
# One shared alias and the whole index

The live index is refused as a whole as soon as two operations share an identifier.
This file follows what that does to the verdicts on every other identifier.

* `declared` — the operations a capabilities result declares, read entry by entry;
* `resolveLive_iff` — what the index finds, when there is one;
* `validAs_iff` — which names are `VALID`, with and without an index. -/

namespace KeyholeAliases

open KeyholeJson KeyholeOperations KeyholeRunTypes ExceptLoops

/-! ## The operations a result declares -/

/-- The aliases of an entry can be iterated. -/
def OperationItem.Readable : OperationItem → Prop
  | .dict data => (iterAliases data).isSome
  | _ => True

/-- The operations an entry declares. -/
def declaredBy (objects : Nat → OperationDefinition) (position : Nat) :
    OperationItem → List Discovered
  | .definition ref => keepCanonical ⟨.held ref, objects ref⟩
  | .dict data =>
      keepCanonical ⟨.built position, operationOf ((iterAliases data).getD []) data⟩
  | .other => []

/-- The operations with a canonical run type that a result declares. -/
def declared (caps : CapabilitiesResult) : List Discovered :=
  caps.operations.zipIdx.flatMap fun p => declaredBy caps.objects p.2 p.1

/-- Every entry of the result can be read. -/
def Readable (caps : CapabilitiesResult) : Prop :=
  ∀ item ∈ caps.operations, OperationItem.Readable item

/-- Two different operations advertise the identifier. -/
def Shared (caps : CapabilitiesResult) (identifier : String) : Prop :=
  ∃ a ∈ declared caps, ∃ b ∈ declared caps, a.object ≠ b.object
    ∧ identifier ∈ a.identifiers ∧ identifier ∈ b.identifiers

/-- One operation, and no other, advertises the identifier. -/
def SoleAdvertiser (caps : CapabilitiesResult) (identifier : String) (op : Discovered) : Prop :=
  op ∈ declared caps ∧ identifier ∈ op.identifiers
    ∧ ∀ other ∈ declared caps, identifier ∈ other.identifiers → other.object = op.object

/-- No identifier is shared. -/
def Unambiguous (caps : CapabilitiesResult) : Prop := ∀ identifier, ¬ Shared caps identifier

variable {caps : CapabilitiesResult} {op : Discovered} {identifier name : String}

theorem mem_keepCanonical {kept : Discovered} :
    kept ∈ keepCanonical op ↔ op.definition.canonicalRunType ≠ "" ∧ kept = op := by
  rw [keepCanonical]
  by_cases hempty : op.definition.canonicalRunType = ""
  · rw [if_pos hempty]
    exact ⟨nofun, fun h => absurd hempty h.1⟩
  · rw [if_neg hempty, List.mem_singleton]
    exact ⟨fun h => ⟨hempty, h⟩, And.right⟩

theorem mem_distinctNonEmpty {seen values : List String} {value : String} :
    value ∈ distinctNonEmpty seen values ↔ value ≠ "" ∧ value ∉ seen ∧ value ∈ values := by
  induction values generalizing seen with
  | nil => exact ⟨nofun, fun h => (nomatch h.2.2)⟩
  | cons v rest ih =>
    rw [distinctNonEmpty]
    by_cases hkeep : v ≠ "" ∧ seen.contains v = false
    · have hseen : v ∉ seen := fun h => by
        rw [List.contains_iff_mem.mpr h] at hkeep
        exact nomatch hkeep.2
      rw [if_pos hkeep, List.mem_cons, ih, List.mem_cons, List.mem_cons]
      by_cases hv : value = v
      · exact ⟨fun _ => ⟨hv ▸ hkeep.1, hv ▸ hseen, .inl hv⟩, fun _ => .inl hv⟩
      · simp only [hv, false_or]
    · rw [if_neg hkeep, ih, List.mem_cons]
      by_cases hv : value = v
      · -- the skipped value is empty or was seen before
        constructor
        · exact fun h => ⟨h.1, h.2.1, .inl hv⟩
        · rintro ⟨hne, hseen, -⟩
          refine absurd ⟨hv ▸ hne, Bool.eq_false_iff.mpr fun h => ?_⟩ hkeep
          exact hseen (hv ▸ List.contains_iff_mem.mp h)
      · simp only [hv, false_or]

theorem mem_identifiers :
    identifier ∈ op.identifiers ↔ identifier ≠ ""
      ∧ identifier ∈ op.definition.operationName :: op.definition.canonicalRunType
          :: op.definition.aliases := by
  rw [Discovered.identifiers, OperationDefinition.identifiers, mem_distinctNonEmpty]
  exact ⟨fun h => ⟨h.1, h.2.2⟩, fun h => ⟨h.1, List.not_mem_nil, h.2⟩⟩

/-- An object has one definition, however often the result refers to it. -/
theorem declared_definition {a b : Discovered}
    (ha : a ∈ declared caps) (hb : b ∈ declared caps) (hobject : a.object = b.object) :
    a.definition = b.definition := by
  obtain ⟨⟨itemA, m⟩, hitemA, ha⟩ := List.mem_flatMap.mp ha
  obtain ⟨⟨itemB, n⟩, hitemB, hb⟩ := List.mem_flatMap.mp hb
  rw [List.mem_zipIdx_iff_getElem?] at hitemA hitemB
  cases itemA with
  | definition ref =>
    obtain ⟨-, rfl⟩ := mem_keepCanonical.mp ha
    cases itemB with
    | definition ref' =>
      obtain ⟨-, rfl⟩ := mem_keepCanonical.mp hb
      cases hobject
      rfl
    | dict data =>
      obtain ⟨-, rfl⟩ := mem_keepCanonical.mp hb
      exact nomatch hobject
    | other => exact nomatch hb
  | dict data =>
    obtain ⟨-, rfl⟩ := mem_keepCanonical.mp ha
    cases itemB with
    | definition ref =>
      obtain ⟨-, rfl⟩ := mem_keepCanonical.mp hb
      exact nomatch hobject
    | dict data' =>
      obtain ⟨-, rfl⟩ := mem_keepCanonical.mp hb
      cases hobject
      cases hitemA.symm.trans hitemB
      rfl
    | other => exact nomatch hb
  | other => exact nomatch ha

/-! ## When there is an index -/

theorem readItem_eq {objects : Nat → OperationDefinition} (position : Nat)
    (item : OperationItem) (found : List Discovered)
    (h : readItem objects position item = .ok found) :
    found = declaredBy objects position item := by
  cases item with
  | definition ref => exact (Except.ok.inj h).symm
  | dict data =>
    rw [readItem] at h
    rw [declaredBy]
    cases haliases : iterAliases data with
    | some aliases =>
      rw [haliases] at h
      exact (Except.ok.inj h).symm
    | none =>
      rw [haliases] at h
      cases h
  | other => exact (Except.ok.inj h).symm

theorem returns_readItem {objects : Nat → OperationDefinition} (position : Nat)
    (item : OperationItem) :
    Returns (readItem objects position item) ↔ OperationItem.Readable item := by
  cases item with
  | definition ref => exact ⟨fun _ => trivial, fun _ => returns_ok _⟩
  | dict data =>
    rw [readItem, OperationItem.Readable]
    cases iterAliases data with
    | some aliases => exact ⟨fun _ => rfl, fun _ => returns_ok _⟩
    | none => exact ⟨fun h => absurd h (not_returns_error _), nofun⟩
  | other => exact ⟨fun _ => trivial, fun _ => returns_ok _⟩

theorem unshared_declared :
    UniqueIndex.Unshared Discovered.object Discovered.identifiers (declared caps)
      ↔ Unambiguous caps := by
  constructor
  · rintro h identifier ⟨a, ha, b, hb, hne, hia, hib⟩
    exact hne (h a ha b hb identifier hia hib)
  · intro h a ha b hb identifier hia hib
    by_contra hne
    exact h identifier ⟨a, ha, b, hb, hne, hia, hib⟩

/-- The index of a readable result is the one of its declared operations. -/
theorem registry_of_readable (h : Readable caps) :
    registryFromCapabilities caps = buildIndexes (declared caps) := by
  obtain ⟨operations, hoperations⟩ :=
    (returns_collect (fun position item => returns_readItem position item) caps.operations 0).mpr h
  rw [registryFromCapabilities, hoperations, collect_eq readItem_eq hoperations]
  rfl

theorem registry_of_unreadable (h : ¬ Readable caps) :
    registryFromCapabilities caps = .error .typeError := by
  have hraised : ∀ position item e, readItem caps.objects position item = .error e →
      e = .typeError := by
    intro position item e he
    cases item with
    | definition ref => exact nomatch he
    | dict data =>
      rw [readItem] at he
      cases haliases : iterAliases data with
      | some aliases =>
        rw [haliases] at he
        exact nomatch he
      | none =>
        rw [haliases] at he
        exact (Except.error.inj he).symm
    | other => exact nomatch he
  have hcollect : ¬ Returns (collect (readItem caps.objects) 0 caps.operations) := fun hreturns =>
    h ((returns_collect (fun position item => returns_readItem position item)
      caps.operations 0).mp hreturns)
  rw [registryFromCapabilities, collect_error hraised hcollect]
  rfl

/-- What the index finds, when no identifier is shared. -/
theorem resolveLive_iff (hreadable : Readable caps)
    (hunambiguous : Unambiguous caps) (name canonical : String) :
    (∃ op, resolveLive caps name = some op ∧ op.definition.canonicalRunType = canonical)
      ↔ ∃ op ∈ declared caps, strip name ∈ op.identifiers
          ∧ op.definition.canonicalRunType = canonical := by
  obtain ⟨index, hindex⟩ :=
    UniqueIndex.returns_build.mpr (unshared_declared.mpr hunambiguous)
  have hlive : resolveLive caps name = index (strip name) := by
    rw [resolveLive, registry_of_readable hreadable, buildIndexes, hindex]
    rfl
  rw [hlive]
  constructor
  · rintro ⟨op, hop, hcanonical⟩
    obtain ⟨hmem, hid⟩ := UniqueIndex.build_sound hindex hop
    exact ⟨op, hmem, hid, hcanonical⟩
  · rintro ⟨op, hmem, hid, hcanonical⟩
    -- the entry found may be another reference to the same object
    obtain ⟨found, hfound, hobject⟩ := UniqueIndex.build_complete hindex hmem hid
    have hdefinition := declared_definition (UniqueIndex.build_sound hindex hfound).1 hmem hobject
    exact ⟨found, hfound, hdefinition ▸ hcanonical⟩

/-- Nothing is found when an identifier is shared. -/
theorem resolveLive_none (h : ¬ Unambiguous caps) (name : String) :
    resolveLive caps name = none := by
  by_cases hreadable : Readable caps
  · rw [resolveLive, registry_of_readable hreadable, buildIndexes]
    cases hbuild : UniqueIndex.build Discovered.object Discovered.identifiers (declared caps) with
    | ok index =>
      exact absurd (unshared_declared.mp (UniqueIndex.returns_build.mp ⟨index, hbuild⟩)) h
    | error clash => rfl
  · rw [resolveLive, registry_of_unreadable hreadable]
    rfl

/-- What the index finds is declared, and nothing is shared where it finds something. -/
theorem resolveLive_some (h : resolveLive caps name = some op) :
    Readable caps ∧ Unambiguous caps ∧ op ∈ declared caps ∧ strip name ∈ op.identifiers := by
  have hunambiguous : Unambiguous caps := by
    by_contra hambiguous
    exact nomatch (resolveLive_none hambiguous name).symm.trans h
  have hreadable : Readable caps := by
    by_contra hunreadable
    rw [resolveLive, registry_of_unreadable hunreadable] at h
    cases h
  obtain ⟨index, hindex⟩ :=
    UniqueIndex.returns_build.mpr (unshared_declared.mpr hunambiguous)
  rw [resolveLive, registry_of_readable hreadable, buildIndexes, hindex] at h
  exact ⟨hreadable, hunambiguous, UniqueIndex.build_sound hindex h⟩

theorem canonical_ne_empty (h : op ∈ declared caps) : op.definition.canonicalRunType ≠ "" := by
  obtain ⟨⟨item, position⟩, -, h⟩ := List.mem_flatMap.mp h
  cases item with
  | definition ref =>
    obtain ⟨hne, rfl⟩ := mem_keepCanonical.mp h
    exact hne
  | dict data =>
    obtain ⟨hne, rfl⟩ := mem_keepCanonical.mp h
    exact hne
  | other => exact nomatch h

/-- A canonical run type without white space around it leads to its operation again. -/
theorem resolveLive_canonical (h : resolveLive caps name = some op)
    (hstripped : strip op.definition.canonicalRunType = op.definition.canonicalRunType) :
    ∃ found, resolveLive caps op.definition.canonicalRunType = some found
      ∧ found.definition = op.definition := by
  obtain ⟨hreadable, hunambiguous, hmem, -⟩ := resolveLive_some h
  have hid : strip op.definition.canonicalRunType ∈ op.identifiers := by
    rw [hstripped, mem_identifiers]
    exact ⟨canonical_ne_empty hmem, List.mem_cons_of_mem _ List.mem_cons_self⟩
  obtain ⟨found, hfound, -⟩ :=
    (resolveLive_iff hreadable hunambiguous _ _).mpr ⟨op, hmem, hid, rfl⟩
  obtain ⟨-, -, hmemFound, hidFound⟩ := resolveLive_some hfound
  have hobject := unshared_declared.mpr hunambiguous found hmemFound op hmem _ hidFound hid
  exact ⟨found, hfound, declared_definition hmemFound hmem hobject⟩

/-! ## The verdicts -/

section

variable {lower : String → String} {known : Mistakes} {caps : CapabilitiesResult}

/-- `RunTypeValidator.from_capabilities(caps).check(identifier)`, `none` when it raises. -/
def verdict (lower : String → String) (known : Mistakes) (caps : CapabilitiesResult)
    (identifier : String) : Option RunTypeCheckResult :=
  (RunTypeValidator.fromCapabilities known caps).map fun v => v.check lower identifier

/-- The verdict is `VALID`, with the given canonical run type. -/
def ValidAs (outcome : Option RunTypeCheckResult) (canonical : String) : Prop :=
  ∃ result, outcome = some result ∧ result.status = .valid ∧ result.canonicalRunType = canonical

theorem validAs_readable {canonical : String}
    (h : ValidAs (verdict lower known caps identifier) canonical) : Readable caps := by
  by_contra hreadable
  obtain ⟨result, hresult, -⟩ := h
  rw [verdict, RunTypeValidator.fromCapabilities, registry_of_unreadable hreadable] at hresult
  cases hresult

theorem fromCapabilities_of_readable (h : Readable caps) :
    ∃ v, RunTypeValidator.fromCapabilities known caps = some v := by
  rw [fromCapabilities_isSome, registry_of_readable h, buildIndexes]
  cases UniqueIndex.build Discovered.object Discovered.identifiers (declared caps) with
  | ok index => exact nofun
  | error clash => exact nofun

theorem published_ne_empty (h : name ∈ publishedNames caps) : name ≠ "" := by
  rintro rfl
  rcases List.mem_append.mp h with hmem | hmem
  · exact absurd hmem (by decide)
  · exact absurd (List.mem_filter.mp hmem).2 (by decide)

/-- The verdict on a readable result, by what the index finds under the name. -/
theorem validAs_iff (hreadable : Readable caps) (identifier canonical : String) :
    ValidAs (verdict lower known caps identifier) canonical
      ↔ strip identifier ≠ ""
        ∧ ((∃ op, resolveLive caps identifier = some op
              ∧ op.definition.canonicalRunType = canonical)
          ∨ resolveLive caps identifier = none ∧ strip identifier ∈ publishedNames caps
              ∧ strip identifier = canonical) := by
  obtain ⟨v, hv⟩ : ∃ v, RunTypeValidator.fromCapabilities known caps = some v :=
    fromCapabilities_of_readable hreadable
  obtain ⟨hcanonical, hdiscover⟩ := fromCapabilities_spec hv
  have hcheck := @check_valid_iff lower v identifier canonical
  rw [hcanonical, hdiscover, resolveLive_strip] at hcheck
  rw [← hcheck, verdict, hv]
  constructor
  · rintro ⟨result, hresult, h⟩
    cases hresult
    exact h
  · exact fun h => ⟨_, rfl, h⟩

/-- With an index, an advertised name is its operation's. -/
theorem validAs_of_sole (hreadable : Readable caps) (hunambiguous : Unambiguous caps)
    (hsole : SoleAdvertiser caps (strip identifier) op) (canonical : String) :
    ValidAs (verdict lower known caps identifier) canonical
      ↔ canonical = op.definition.canonicalRunType := by
  obtain ⟨hmem, hid, honly⟩ := hsole
  have hfound := (resolveLive_iff hreadable hunambiguous identifier _).mpr ⟨op, hmem, hid, rfl⟩
  rw [validAs_iff hreadable]
  constructor
  · rintro ⟨-, hlive | ⟨hnone, -⟩⟩
    · obtain ⟨other, hother, hidOther, hcanonical⟩ :=
        (resolveLive_iff hreadable hunambiguous identifier canonical).mp hlive
      rw [← hcanonical, declared_definition hother hmem (honly other hother hidOther)]
    · obtain ⟨found, hlive, -⟩ := hfound
      exact nomatch hlive.symm.trans hnone
  · rintro rfl
    refine ⟨fun hempty => ?_, .inl hfound⟩
    rw [hempty] at hid
    exact (mem_identifiers.mp hid).1 rfl

/-- Without an index, a name is `VALID` only as itself, when it is a published one. -/
theorem validAs_of_ambiguous (hreadable : Readable caps) (hambiguous : ¬ Unambiguous caps)
    (identifier canonical : String) :
    ValidAs (verdict lower known caps identifier) canonical
      ↔ strip identifier ∈ publishedNames caps ∧ canonical = strip identifier := by
  rw [validAs_iff hreadable, resolveLive_none hambiguous]
  constructor
  · rintro ⟨-, ⟨op, hop, -⟩ | ⟨-, hmem, hcanonical⟩⟩
    · exact nomatch hop
    · exact ⟨hmem, hcanonical.symm⟩
  · rintro ⟨hmem, hcanonical⟩
    exact ⟨published_ne_empty hmem, .inr ⟨rfl, hmem, hcanonical.symm⟩⟩

end

/-- One shared identifier closes the index and nothing more: without one every advertised
    name is its operation's, with one the published names are still `VALID` as
    themselves, and a name two operations advertise is never `VALID` otherwise. -/
theorem verdicts_stand_or_fall (lower : String → String) (known : Mistakes)
    (caps : CapabilitiesResult) :
    (Readable caps → Unambiguous caps → ∀ identifier op,
        SoleAdvertiser caps (strip identifier) op → ∀ canonical,
        (ValidAs (verdict lower known caps identifier) canonical
          ↔ canonical = op.definition.canonicalRunType))
      ∧ (Readable caps → ¬ Unambiguous caps → ∀ identifier canonical,
        (ValidAs (verdict lower known caps identifier) canonical
          ↔ strip identifier ∈ publishedNames caps ∧ canonical = strip identifier))
      ∧ ∀ identifier, Shared caps identifier → strip identifier ∉ publishedNames caps →
        ∀ canonical, ¬ ValidAs (verdict lower known caps identifier) canonical := by
  refine ⟨fun hreadable hunambiguous identifier op hsole canonical =>
    validAs_of_sole hreadable hunambiguous hsole canonical,
    fun hreadable hambiguous identifier canonical =>
      validAs_of_ambiguous hreadable hambiguous identifier canonical, ?_⟩
  -- a verdict on an unreadable result is no verdict
  intro identifier hshared hunpublished canonical hvalid
  have hambiguous : ¬ Unambiguous caps := fun h => h identifier hshared
  exact hunpublished
    ((validAs_of_ambiguous (validAs_readable hvalid) hambiguous _ _).mp hvalid).1

/-! ## A shared alias -/

/-- An operation with its canonical run type and aliases. -/
def operationWith (name canonical : String) (aliases : List String) : OperationDefinition :=
  { OperationDefinition.named name with canonicalRunType := canonical, aliases := aliases }

/-- A refund operation, and two operations that share the alias `status`. -/
def paymentObjects : Nat → OperationDefinition
  | 0 => operationWith "payments.refund" "payments.refund.v1" []
  | 1 => operationWith "first.operation" "first.run" ["status"]
  | _ => operationWith "second.operation" "second.run" ["status"]

/-- A result that refers to some of these operations. -/
def paymentCaps (refs : List Nat) : CapabilitiesResult where
  objects := paymentObjects
  operations := refs.map .definition
  implementedSurfaces := []
  runTypeMistakes := []

theorem readable_paymentCaps (refs : List Nat) : Readable (paymentCaps refs) := by
  intro item hitem
  obtain ⟨ref, -, rfl⟩ := List.mem_map.mp hitem
  trivial

theorem declared_payment : declared (paymentCaps [0]) = [⟨.held 0, paymentObjects 0⟩] := rfl

theorem declared_clash : declared (paymentCaps [0, 1, 2]) = [⟨.held 0, paymentObjects 0⟩,
    ⟨.held 1, paymentObjects 1⟩, ⟨.held 2, paymentObjects 2⟩] := rfl

theorem unambiguous_payment : Unambiguous (paymentCaps [0]) := by
  rintro identifier ⟨a, ha, b, hb, hne, -, -⟩
  rw [declared_payment, List.mem_singleton] at ha hb
  exact hne (ha ▸ hb ▸ rfl)

theorem sole_payment : SoleAdvertiser (paymentCaps [0]) "payments.refund"
    ⟨.held 0, paymentObjects 0⟩ := by
  refine ⟨List.mem_cons_self, by decide, fun other hother _ => ?_⟩
  rw [declared_payment, List.mem_singleton] at hother
  rw [hother]

theorem sole_clash : SoleAdvertiser (paymentCaps [0, 1, 2]) "payments.refund"
    ⟨.held 0, paymentObjects 0⟩ := by
  refine ⟨List.mem_cons_self, by decide, fun other hother hid => ?_⟩
  rw [declared_clash] at hother
  rcases List.mem_cons.mp hother with rfl | hother
  · rfl
  · rcases List.mem_cons.mp hother with rfl | hother
    · exact absurd hid (by decide)
    · rw [List.mem_singleton] at hother
      subst hother
      exact absurd hid (by decide)

theorem ambiguous_clash : ¬ Unambiguous (paymentCaps [0, 1, 2]) := by
  intro h
  refine h "status" ⟨⟨.held 1, paymentObjects 1⟩, ?_, ⟨.held 2, paymentObjects 2⟩, ?_, ?_⟩
  · exact List.mem_cons_of_mem _ List.mem_cons_self
  · exact List.mem_cons_of_mem _ (List.mem_cons_of_mem _ List.mem_cons_self)
  · exact ⟨by decide, by decide, by decide⟩

/-- The refund operation alone is `VALID` under its name; beside the two operations only
    the published names are. -/
theorem payment_verdicts :
    ValidAs (verdict lower knownMistakes (paymentCaps [0]) "payments.refund")
        "payments.refund.v1"
      ∧ ValidAs (verdict lower knownMistakes (paymentCaps [0, 1, 2]) "gaps.get") "gaps.get" :=
  ⟨((verdicts_stand_or_fall lower knownMistakes (paymentCaps [0])).1 (readable_paymentCaps _)
      unambiguous_payment "payments.refund" _ sole_payment _).mpr rfl,
    ((verdicts_stand_or_fall lower knownMistakes (paymentCaps [0, 1, 2])).2.1
      (readable_paymentCaps _) ambiguous_clash "gaps.get" "gaps.get").mpr
        ⟨by decide, by decide⟩⟩

/-- A shared alias disturbs no other identifier, and is itself never `VALID`. -/
def Contained (lower : String → String) (known : Mistakes) (caps : CapabilitiesResult) : Prop :=
  (∀ identifier op, SoleAdvertiser caps identifier op →
      ValidAs (verdict lower known caps identifier) op.definition.canonicalRunType)
    ∧ ∀ identifier, Shared caps identifier → ∀ canonical,
      ¬ ValidAs (verdict lower known caps identifier) canonical

/-- The refund operation shares nothing with the other two, and is not found beside them. -/
theorem clash_not_contained : ¬ Contained lower knownMistakes (paymentCaps [0, 1, 2]) := by
  intro h
  have hvalid := h.1 "payments.refund" _ sole_clash
  have hpublished :=
    ((validAs_of_ambiguous (readable_paymentCaps _) ambiguous_clash _ _).mp hvalid).1
  exact absurd hpublished (by decide)

end KeyholeAliases
