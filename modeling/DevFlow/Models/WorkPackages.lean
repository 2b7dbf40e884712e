/-
# Work packages

`models/work_package.py`: `WorkPackage` and `WorkPackagePlan`, which a Planner
proposes, and the `InterfaceContract` and `WorkPackageRoutingAudit` that are made of
a plan.  As with the other models, the values of a model are what its validators
return as they are.
-/

import DevFlow.Models.DagRecords

namespace DevFlow

open Documents (Validated)

/-! ### `WorkPackage` -/

/-- The fields of `WorkPackage`. -/
structure WorkPackageFields where
  packageId : String
  objective : String
  deliverable : String
  ownedPaths : List String
  readablePaths : List String := []
  produces : List String
  consumes : List String
  acceptanceCriteria : List String
  verificationCommands : List String
  estimatedComplexity : PlanningComplexity
  recommendedTokenBudget : ℕ

/-- `normalize_paths`. -/
def normalizePaths (values : List String) : Except Failure (List String) := do
  let normalized ← values.mapM normalizeScopePattern
  Raising.raiseIf (¬normalized.Nodup)
    ⟨.valueError, "work package paths must not contain duplicates"⟩
  return normalized

/-- `normalize_items`. -/
def normalizeItems (values : List String) : Except Failure (List String) := do
  let normalized ← values.mapM normalizeNonEmptyText
  Raising.raiseIf (¬normalized.Nodup)
    ⟨.valueError, "work package declarations must not contain duplicates"⟩
  return normalized

/-- The bounds of the fields of `WorkPackage`. -/
def WorkPackageFields.checkBounds (fields : WorkPackageFields) : Except Failure Unit := do
  Raising.raiseIf (isTaskId fields.packageId = false)
    (boundError "package_id should match its pattern")
  Raising.raiseIf (fields.objective.length < 1 ∨ 1500 < fields.objective.length)
    (boundError "objective length is out of range")
  Raising.raiseIf (fields.deliverable.length < 1 ∨ 256 < fields.deliverable.length)
    (boundError "deliverable length is out of range")
  Raising.raiseIf (fields.ownedPaths.length < 1 ∨ 5 < fields.ownedPaths.length)
    (boundError "owned_paths has a wrong number of items")
  Raising.raiseIf (32 < fields.readablePaths.length)
    (boundError "readable_paths has too many items")
  Raising.raiseIf (fields.produces.length < 1 ∨ 16 < fields.produces.length)
    (boundError "produces has a wrong number of items")
  Raising.raiseIf (16 < fields.consumes.length) (boundError "consumes has too many items")
  Raising.raiseIf (fields.acceptanceCriteria.length < 1 ∨ 4 < fields.acceptanceCriteria.length)
    (boundError "acceptance_criteria has a wrong number of items")
  Raising.raiseIf (fields.verificationCommands.length < 1 ∨ 3 < fields.verificationCommands.length)
    (boundError "verification_commands has a wrong number of items")
  Raising.raiseIf (fields.recommendedTokenBudget < 1000 ∨ 20000 < fields.recommendedTokenBudget)
    (boundError "recommended_token_budget is out of range")

/-- The validators of `WorkPackage`. -/
def WorkPackageFields.validate (fields : WorkPackageFields) : Except Failure WorkPackageFields := do
  fields.checkBounds
  let objective ← normalizeNonEmptyText fields.objective
  let deliverable ← normalizeNonEmptyText fields.deliverable
  let ownedPaths ← normalizePaths fields.ownedPaths
  let readablePaths ← normalizePaths fields.readablePaths
  let produces ← normalizeItems fields.produces
  let consumes ← normalizeItems fields.consumes
  let acceptanceCriteria ← normalizeItems fields.acceptanceCriteria
  let verificationCommands ← normalizeItems fields.verificationCommands
  Raising.raiseIf (∃ path ∈ ownedPaths, path ∈ readablePaths)
    ⟨.valueError, "owned_paths and readable_paths must not overlap"⟩
  Raising.raiseIf (fields.estimatedComplexity = .low ∧ 4000 < fields.recommendedTokenBudget)
    ⟨.valueError, "LOW work packages may not request more than 4000 tokens"⟩
  return { fields with
    objective, deliverable, ownedPaths, readablePaths, produces, consumes, acceptanceCriteria,
    verificationCommands }

theorem normalizePaths_stable {values normalized : List String}
    (h : normalizePaths values = .ok normalized) :
    normalized.length = values.length ∧ normalizePaths normalized = .ok normalized := by
  simp only [normalizePaths, Raising.bind_eq_ok, Raising.raiseIf_eq_ok, Raising.pure_eq_ok] at h ⊢
  obtain ⟨items, hitems, _, hnodup, rfl⟩ := h
  exact ⟨(Raising.mapM_eq_ok.1 hitems).length_eq.symm, items,
    Raising.mapM_stable normalizeScopePattern_stable hitems, ⟨⟩, hnodup, rfl⟩

theorem normalizeItems_stable {values normalized : List String}
    (h : normalizeItems values = .ok normalized) :
    normalized.length = values.length ∧ normalizeItems normalized = .ok normalized := by
  simp only [normalizeItems, Raising.bind_eq_ok, Raising.raiseIf_eq_ok, Raising.pure_eq_ok] at h ⊢
  obtain ⟨items, hitems, _, hnodup, rfl⟩ := h
  exact ⟨(Raising.mapM_eq_ok.1 hitems).length_eq.symm, items,
    Raising.mapM_stable normalizeNonEmptyText_stable hitems, ⟨⟩, hnodup, rfl⟩

theorem WorkPackageFields.validate_stable (a b : WorkPackageFields) (h : a.validate = .ok b) :
    b.validate = .ok b := by
  simp only [validate, checkBounds, Raising.bind_eq_ok, Raising.raiseIf_eq_ok,
    Raising.pure_eq_ok] at h
  obtain ⟨_, ⟨_, h₁, _, h₂, _, h₃, _, h₄, _, h₅, _, h₆, _, h₇, _, h₈, _, h₉, h₁₀⟩, objective,
    hobjective, deliverable, hdeliverable, owned, howned, readable, hreadable, produces, hproduces,
    consumes, hconsumes, criteria, hcriteria, commands, hcommands, _, hoverlap, _, hlow, rfl⟩ := h
  simp only [validate, checkBounds, Raising.bind_eq_ok, Raising.raiseIf_eq_ok, Raising.pure_eq_ok]
  refine ⟨⟨⟩, ⟨⟨⟩, h₁, ⟨⟩, length_normalizeNonEmptyText hobjective h₂, ⟨⟩,
    length_normalizeNonEmptyText hdeliverable h₃, ⟨⟩, ?_, ⟨⟩, ?_, ⟨⟩, ?_, ⟨⟩, ?_, ⟨⟩, ?_, ⟨⟩, ?_, h₁₀⟩,
    objective, normalizeNonEmptyText_stable _ _ hobjective, deliverable,
    normalizeNonEmptyText_stable _ _ hdeliverable, owned, (normalizePaths_stable howned).2,
    readable, (normalizePaths_stable hreadable).2, produces, (normalizeItems_stable hproduces).2,
    consumes, (normalizeItems_stable hconsumes).2, criteria, (normalizeItems_stable hcriteria).2,
    commands, (normalizeItems_stable hcommands).2, ⟨⟩, hoverlap, ⟨⟩, hlow, rfl⟩
  · rwa [(normalizePaths_stable howned).1]
  · rwa [(normalizePaths_stable hreadable).1]
  · rwa [(normalizeItems_stable hproduces).1]
  · rwa [(normalizeItems_stable hconsumes).1]
  · rwa [(normalizeItems_stable hcriteria).1]
  · rwa [(normalizeItems_stable hcommands).1]

/-- `WorkPackage`. -/
abbrev WorkPackageRecord := Validated WorkPackageFields.validate

/-- The constructor of `WorkPackage`. -/
def WorkPackageFields.make (fields : WorkPackageFields) : Except Failure WorkPackageRecord :=
  Validated.make WorkPackageFields.validate_stable fields

/-- A package as the rest of the code reads it: what its validators say. -/
structure WorkPackageFields.Valid (fields : WorkPackageFields) : Prop where
  packageId : isTaskId fields.packageId = true
  objective : normalizeNonEmptyText fields.objective = .ok fields.objective
  objective_length : 1 ≤ fields.objective.length ∧ fields.objective.length ≤ 1500
  ownedPaths : (∀ path ∈ fields.ownedPaths, normalizeScopePattern path = .ok path) ∧
    fields.ownedPaths.Nodup
  ownedPaths_length : 1 ≤ fields.ownedPaths.length ∧ fields.ownedPaths.length ≤ 5
  readablePaths : (∀ path ∈ fields.readablePaths, normalizeScopePattern path = .ok path) ∧
    fields.readablePaths.Nodup
  produces_nodup : fields.produces.Nodup
  produces_nonempty : ∀ interface ∈ fields.produces, interface ≠ ""
  produces_length : fields.produces.length ≤ 16
  consumes_nodup : fields.consumes.Nodup
  consumes_length : fields.consumes.length ≤ 16
  acceptanceCriteria : (∀ item ∈ fields.acceptanceCriteria, normalizeNonEmptyText item = .ok item) ∧
    fields.acceptanceCriteria.Nodup
  acceptanceCriteria_length : 1 ≤ fields.acceptanceCriteria.length
  verificationCommands :
    (∀ item ∈ fields.verificationCommands, normalizeNonEmptyText item = .ok item) ∧
      fields.verificationCommands.Nodup
  verificationCommands_length : 1 ≤ fields.verificationCommands.length ∧
    fields.verificationCommands.length ≤ 3
  recommendedTokenBudget : 1000 ≤ fields.recommendedTokenBudget ∧
    fields.recommendedTokenBudget ≤ 20000

theorem normalizePaths_eq_self_iff {values : List String} :
    normalizePaths values = .ok values ↔
      (∀ path ∈ values, normalizeScopePattern path = .ok path) ∧ values.Nodup := by
  simp only [normalizePaths, Raising.bind_eq_ok, Raising.raiseIf_eq_ok, Raising.pure_eq_ok,
    Raising.mapM_eq_ok, not_not]
  constructor
  · rintro ⟨normalized, hitems, _, hnodup, rfl⟩
    exact ⟨List.forall₂_same.1 hitems, hnodup⟩
  · rintro ⟨hitems, hnodup⟩
    exact ⟨values, List.forall₂_same.2 hitems, ⟨⟩, hnodup, rfl⟩

theorem normalizeItems_eq_self_iff {values : List String} :
    normalizeItems values = .ok values ↔
      (∀ item ∈ values, normalizeNonEmptyText item = .ok item) ∧ values.Nodup := by
  simp only [normalizeItems, Raising.bind_eq_ok, Raising.raiseIf_eq_ok, Raising.pure_eq_ok,
    Raising.mapM_eq_ok, not_not]
  constructor
  · rintro ⟨normalized, hitems, _, hnodup, rfl⟩
    exact ⟨List.forall₂_same.1 hitems, hnodup⟩
  · rintro ⟨hitems, hnodup⟩
    exact ⟨values, List.forall₂_same.2 hitems, ⟨⟩, hnodup, rfl⟩

/-- A normalised text is not empty. -/
theorem ne_empty_of_normalizeNonEmptyText {text : String}
    (h : normalizeNonEmptyText text = .ok text) : text ≠ "" := by
  simp only [normalizeNonEmptyText, Raising.bind_eq_ok, Raising.raiseIf_eq_ok,
    Raising.pure_eq_ok] at h
  obtain ⟨_, hne, heq⟩ := h
  rwa [heq] at hne

/-- **What the validators say of a package.** -/
theorem WorkPackageFields.valid (package : WorkPackageRecord) : package.val.Valid := by
  have h := package.property
  simp only [validate, checkBounds, Raising.bind_eq_ok, Raising.raiseIf_eq_ok, Raising.pure_eq_ok,
    not_or, not_lt, Bool.not_eq_false] at h
  obtain ⟨_, ⟨_, hid, _, hobjectiveLength, _, -, _, hownedLength, _, -, _, hproducesLength, _,
    hconsumesLength, _, hcriteriaLength, _, hcommandsLength, hbudget⟩, objective, hobjective,
    deliverable, -, owned, howned, readable, hreadable, produces, hproduces, consumes, hconsumes,
    criteria, hcriteria, commands, hcommands, _, -, _, -, heq⟩ := h
  have hfields : objective = package.val.objective ∧ owned = package.val.ownedPaths ∧
      readable = package.val.readablePaths ∧ produces = package.val.produces ∧
      consumes = package.val.consumes ∧ criteria = package.val.acceptanceCriteria ∧
      commands = package.val.verificationCommands := by
    refine ⟨?_, ?_, ?_, ?_, ?_, ?_, ?_⟩ <;> rw [← heq]
  obtain ⟨rfl, rfl, rfl, rfl, rfl, rfl, rfl⟩ := hfields
  have hitems := normalizeItems_eq_self_iff.1 hproduces
  exact
    { packageId := hid
      objective := hobjective
      objective_length := hobjectiveLength
      ownedPaths := normalizePaths_eq_self_iff.1 howned
      ownedPaths_length := hownedLength
      readablePaths := normalizePaths_eq_self_iff.1 hreadable
      produces_nodup := hitems.2
      produces_nonempty := fun item hitem => ne_empty_of_normalizeNonEmptyText (hitems.1 item hitem)
      produces_length := hproducesLength.2
      consumes_nodup := (normalizeItems_eq_self_iff.1 hconsumes).2
      consumes_length := hconsumesLength
      acceptanceCriteria := normalizeItems_eq_self_iff.1 hcriteria
      acceptanceCriteria_length := hcriteriaLength.1
      verificationCommands := normalizeItems_eq_self_iff.1 hcommands
      verificationCommands_length := hcommandsLength
      recommendedTokenBudget := hbudget }

/-! ### `WorkPackagePlan` -/

/-- The fields of `WorkPackagePlan`. -/
structure WorkPackagePlanFields where
  packages : List WorkPackageRecord

/-- The validators of `WorkPackagePlan`. -/
def WorkPackagePlanFields.validate (fields : WorkPackagePlanFields) :
    Except Failure WorkPackagePlanFields := do
  Raising.raiseIf (fields.packages.length < 1 ∨ 16 < fields.packages.length)
    (boundError "packages has a wrong number of items")
  Raising.raiseIf (¬(fields.packages.map fun item => item.val.packageId).Nodup)
    ⟨.valueError, "work package ids must be unique"⟩
  Raising.raiseIf (¬(fields.packages.flatMap fun item => item.val.produces).Nodup)
    ⟨.valueError, "each produced interface must have exactly one producer"⟩
  return fields

/-- `WorkPackagePlan`. -/
abbrev WorkPackagePlan := Validated WorkPackagePlanFields.validate

/-- What the validators say of a plan. -/
theorem WorkPackagePlanFields.valid (plan : WorkPackagePlan) :
    1 ≤ plan.val.packages.length ∧ plan.val.packages.length ≤ 16 ∧
      (plan.val.packages.map fun item => item.val.packageId).Nodup ∧
      (plan.val.packages.flatMap fun item => item.val.produces).Nodup := by
  have h := plan.property
  simp only [validate, Raising.bind_eq_ok, Raising.raiseIf_eq_ok, Raising.pure_eq_ok, not_or,
    not_lt, not_not] at h
  obtain ⟨_, hlength, _, hids, _, hproduced, -⟩ := h
  exact ⟨hlength.1, hlength.2, hids, hproduced⟩

/-! ### What is made of a plan -/

/-- The fields of `InterfaceContract`. -/
structure InterfaceContractFields where
  interfaceId : String
  producerPackageId : String
  consumerPackageIds : List String := []
deriving DecidableEq

/-- The bounds of `InterfaceContract`. -/
def InterfaceContractFields.validate (fields : InterfaceContractFields) :
    Except Failure InterfaceContractFields := do
  Raising.raiseIf (fields.interfaceId.length < 1 ∨ 256 < fields.interfaceId.length)
    (boundError "interface_id length is out of range")
  Raising.raiseIf (isTaskId fields.producerPackageId = false)
    (boundError "producer_package_id should match its pattern")
  return fields

theorem InterfaceContractFields.validate_stable (a b : InterfaceContractFields)
    (h : a.validate = .ok b) : b.validate = .ok b := by
  have heq : a = b := by
    simp only [validate, Raising.bind_eq_ok, Raising.pure_eq_ok] at h
    obtain ⟨_, -, _, -, rfl⟩ := h
    rfl
  exact heq ▸ h

/-- `InterfaceContract`. -/
abbrev InterfaceContract := Validated InterfaceContractFields.validate

/-- `WorkPackageRoutingMode`. -/
inductive WorkPackageRoutingMode
  | single
  | multi
deriving DecidableEq, Repr

/-- The fields of `WorkPackageRoutingAudit`. -/
structure RoutingAuditFields where
  mode : WorkPackageRoutingMode
  reasons : List String
  deliveryLayers : List String
  packageCount : ℕ
deriving DecidableEq

/-- The bounds of `WorkPackageRoutingAudit`. -/
def RoutingAuditFields.validate (fields : RoutingAuditFields) : Except Failure RoutingAuditFields := do
  Raising.raiseIf (fields.reasons.length < 1 ∨ 8 < fields.reasons.length)
    (boundError "reasons has a wrong number of items")
  Raising.raiseIf (4 < fields.deliveryLayers.length)
    (boundError "delivery_layers has too many items")
  Raising.raiseIf (fields.packageCount < 1 ∨ 32 < fields.packageCount)
    (boundError "package_count is out of range")
  return fields

theorem RoutingAuditFields.validate_stable (a b : RoutingAuditFields) (h : a.validate = .ok b) :
    b.validate = .ok b := by
  have heq : a = b := by
    simp only [validate, Raising.bind_eq_ok, Raising.pure_eq_ok] at h
    obtain ⟨_, -, _, -, _, -, rfl⟩ := h
    rfl
  exact heq ▸ h

/-- `WorkPackageRoutingAudit`. -/
abbrev WorkPackageRoutingAudit := Validated RoutingAuditFields.validate

end DevFlow
