/-
# The compilation of a work-package plan

`planning/work_packages.py`: `WorkPackagePlanValidator.validate_and_convert` takes a
plan that its model accepts to a task graph.  It raises a `WorkPackagePlanError`
for a plan that it refuses, and lets a `ValidationError` of the models it builds
through; only the one of the graph itself becomes a `WorkPackagePlanError`.

Which characters are part of a word and how `repr` writes a text are up to Python's
tables, and arguments here.
-/

import DevFlow.Models.WorkPackages

namespace DevFlow

/-- What Python's Unicode tables say. -/
structure PythonText where
  /-- The characters of `\w`. -/
  isWord : Char → Bool
  repr : String → String

/-! ### Delivery layers -/

/-- A pattern of `_DELIVERY_LAYERS`: words between word boundaries, and texts. -/
structure LayerPattern where
  words : List String
  texts : List String

/-- `re.IGNORECASE` on a lower-case ASCII letter of a pattern. -/
def ignoresCase (letter c : Char) : Bool :=
  letter = c.toLower ||
    (letter = 'i' && (c.toNat = 0x130 || c.toNat = 0x131)) ||
    (letter = 's' && c.toNat = 0x17F) || (letter = 'k' && c.toNat = 0x212A)

/-- `\b` between two characters, or at an end of the text. -/
def isBoundary (text : PythonText) (before after : Option Char) : Bool :=
  before.any text.isWord != after.any text.isWord

/-- `\b(word)\b` at the beginning of `rest`, after `before`. -/
def wordAt (text : PythonText) (word : List Char) (before : Option Char) (rest : List Char) : Bool :=
  let found := rest.take word.length
  isBoundary text before rest.head? && found.length = word.length &&
    (word.zip found).all (fun pair => ignoresCase pair.1 pair.2) &&
    isBoundary text (found.getLast?.or before) (rest.drop word.length).head?

/-- `pattern.search`, in what is left of the text after `before`. -/
def LayerPattern.searchFrom (text : PythonText) (pattern : LayerPattern) :
    Option Char → List Char → Bool
  | before, rest =>
    (pattern.words.any fun word => wordAt text word.toList before rest) ||
      (pattern.texts.any fun part => part.toList.isPrefixOf rest) ||
      match rest with
      | [] => false
      | c :: rest => searchFrom text pattern (some c) rest

/-- `_DELIVERY_LAYERS`. -/
def deliveryLayerPatterns : List (String × LayerPattern) :=
  [("ui", ⟨["ui", "frontend", "react", "vue", "html", "css"], ["前端", "界面"]⟩),
    ("data", ⟨["database", "storage", "model", "schema"], ["数据库", "存储", "模型"]⟩),
    ("algorithm", ⟨["ai", "algorithm", "search", "heuristic"], ["人工智能", "算法", "搜索"]⟩),
    ("interface", ⟨["api", "endpoint", "route", "server"], ["接口", "路由", "服务端"]⟩)]

/-- The names of the patterns that are found in a text. -/
def layersOf (text : PythonText) (s : String) : List String :=
  (deliveryLayerPatterns.filter fun layer => layer.2.searchFrom text none s.toList).map Prod.fst

/-- `_delivery_layers`. -/
def deliveryLayers (text : PythonText) (requirement : String) : List String :=
  layersOf text (strip requirement)

/-! ### The checks of a plan -/

/-- What `validate_and_convert` raises. -/
inductive CompileFailure
  /-- `WorkPackagePlanError`. -/
  | planError (message : String)
  /-- The `ValidationError` of a model. -/
  | validationError (failure : Failure)
deriving DecidableEq

/-- A compilation. -/
abbrev Compile (α : Type) := Except CompileFailure α

/-- What the constructor of a model returns or raises. -/
def validated {α : Type} (x : Except Failure α) : Compile α :=
  x.mapError .validationError

namespace WorkPackagePlanFields

/-- The items of `produced_by`; a plan that was accepted has no interface twice. -/
def producedBy (plan : WorkPackagePlanFields) : List (String × String) :=
  plan.packages.flatMap fun package =>
    package.val.produces.map fun interface => (interface, package.val.packageId)

/-- `produced_by.get`. -/
def producerOf (plan : WorkPackagePlanFields) (interface : String) : Option String :=
  (plan.producedBy.find? fun item => item.1 = interface).map Prod.snd

/-- `interface.startswith("repository:")`. -/
def isRepository (interface : String) : Bool :=
  "repository:".toList.isPrefixOf interface.toList

/-- `_validate_single_deliverable`. -/
def validateSingleDeliverable (text : PythonText) (package : WorkPackageFields) : Compile Unit :=
  let layers := layersOf text (package.objective ++ "\n" ++ package.deliverable)
  Raising.raiseIf (2 ≤ layers.length)
    (.planError (package.packageId ++ " combines multiple delivery layers (" ++
      ", ".intercalate layers ++ "); split it into one primary deliverable per work package."))

/-- The check of one consumed interface. -/
def validateConsumed (text : PythonText) (plan : WorkPackagePlanFields)
    (package : WorkPackageFields) (interface : String) : Compile Unit :=
  if isRepository interface = true then return ()
  else
    match plan.producerOf interface with
    | none => throw (.planError (package.packageId ++ " consumes undeclared interface " ++
        text.repr interface ++ "."))
    | some producer =>
      Raising.raiseIf (producer = package.packageId)
        (.planError (package.packageId ++ " cannot consume its own produced interface " ++
          text.repr interface ++ "."))

/-- The loop over the packages. -/
def validatePackage (text : PythonText) (plan : WorkPackagePlanFields) (package : WorkPackageRecord) :
    Compile Unit := do
  validateSingleDeliverable text package.val
  package.val.consumes.forM (validateConsumed text plan package.val)

/-! ### The models that are built -/

/-- The weight of a declared complexity. -/
def declaredWeight : PlanningComplexity → ℕ
  | .low => 5
  | .medium => 20
  | .high => 40

/-- The score of `_assessment`. -/
def score (package : WorkPackageFields) : ℕ :=
  package.ownedPaths.length * 5 + package.consumes.length * 4 +
    package.verificationCommands.length * 3 + declaredWeight package.estimatedComplexity

/-- `_assessment`. -/
def assessment (package : WorkPackageRecord) : Except Failure PlanningComplexityAssessment :=
  Documents.Validated.make PlanningComplexityAssessmentFields.validate_stable
    { packageId := package.val.packageId
      complexity := package.val.estimatedComplexity
      score := score package.val
      reasons := [
        "owned_paths=" ++ toString package.val.ownedPaths.length,
        "consumes=" ++ toString package.val.consumes.length,
        "verification_commands=" ++ toString package.val.verificationCommands.length,
        "declared_complexity=" ++ package.val.estimatedComplexity.value] }

/-- The `TaskBudgetAllocation` of a package. -/
def budgetAllocation (package : WorkPackageRecord) : Except Failure TaskBudgetAllocation :=
  Documents.Validated.make TaskBudgetAllocationFields.validate_stable
    ⟨package.val.packageId, package.val.recommendedTokenBudget⟩

/-- The `TaskContract` of a package. -/
def taskContract (package : WorkPackageRecord) : Except Failure TaskContractRecord :=
  Documents.Validated.make TaskContractFields.validate_stable
    { taskId := package.val.packageId
      objective := package.val.objective
      readableFiles := package.val.readablePaths
      writableFiles := package.val.ownedPaths
      readonlyFiles := []
      acceptanceCriteria := package.val.acceptanceCriteria
      verificationCommands := package.val.verificationCommands
      maxRetries := if package.val.estimatedComplexity = .low then 1 else 2 }

/-- The producers of what a package consumes, sorted. -/
def dependsOn (plan : WorkPackagePlanFields) (package : WorkPackageFields) : List String :=
  (package.consumes.filterMap plan.producerOf).dedup.insertionSort (· ≤ ·)

/-- The `TaskNode` of a package. -/
def taskNode (plan : WorkPackagePlanFields)
    (item : WorkPackageRecord × PlanningComplexityAssessment) : Except Failure TaskNodeRecord := do
  let task ← taskContract item.1
  let allocation ← budgetAllocation item.1
  TaskNodeFields.make
    { task
      dependsOn := plan.dependsOn item.1.val
      produces := item.1.val.produces
      consumes := item.1.val.consumes
      complexity := some item.1.val.estimatedComplexity
      budgetAllocation := some allocation
      complexityAssessment := some item.2 }

/-- The packages that consume an interface. -/
def consumersOf (plan : WorkPackagePlanFields) (interface : String) : List String :=
  (plan.packages.filter fun package => interface ∈ package.val.consumes).map
    fun package => package.val.packageId

/-- The `InterfaceContract` of a produced interface. -/
def interfaceContract (plan : WorkPackagePlanFields) (item : String × String) :
    Except Failure InterfaceContract :=
  Documents.Validated.make InterfaceContractFields.validate_stable
    ⟨item.1, item.2, plan.consumersOf item.1⟩

/-- `sorted(produced_by.items())`. -/
def sortedProducedBy (plan : WorkPackagePlanFields) : List (String × String) :=
  plan.producedBy.insertionSort fun a b => a.1 ≤ b.1

/-- The pairs of packages that may read a common path. -/
def readableOverlap : List (List String) → ℕ
  | [] => 0
  | left :: rest => (rest.countP fun right => left.any (· ∈ right)) + readableOverlap rest

/-- `_routing_audit`. -/
def routingAudit (plan : WorkPackagePlanFields) (layers : List String) :
    Except Failure WorkPackageRoutingAudit :=
  let fields := plan.packages.map Subtype.val
  let ownedRoots := (fields.flatMap fun package =>
    (package.ownedPaths.filter fun path => '/' ∈ path.toList).map fun path =>
      path.toList.takeWhile (· ≠ '/')).dedup
  let verificationSets := (fields.map fun package =>
    package.verificationCommands.insertionSort (· ≤ ·)).dedup
  Documents.Validated.make RoutingAuditFields.validate_stable
    { mode := if plan.packages.length = 1 then .single else .multi
      reasons := [
        "delivery_layers=" ++ (if layers = [] then "none" else ",".intercalate layers),
        "owned_path_roots=" ++ toString ownedRoots.length,
        "declared_interface_dependencies=" ++
          toString (fields.map fun package => package.consumes.length).sum,
        "independent_verification_sets=" ++ toString verificationSets.length,
        "parallel_candidates=" ++ toString (fields.countP fun package => package.consumes = []) ++
          "; readable_overlap=" ++
          toString (readableOverlap (fields.map WorkPackageFields.readablePaths)),
        if plan.packages.length = 1 then
          "one bounded ownership/interface boundary; kept as a single package"
        else "Planner declared independent ownership/interface boundaries"]
      deliveryLayers := layers
      packageCount := plan.packages.length }

end WorkPackagePlanFields

/-- `WorkPackagePlanningResult`. -/
structure WorkPackagePlanningResult where
  dag : TaskDAGRecord
  interfaceContracts : List InterfaceContract
  budgetAllocations : List TaskBudgetAllocation
  complexityAssessments : List PlanningComplexityAssessment
  routingAudit : WorkPackageRoutingAudit

/-- The checks of `validate_and_convert` before it builds anything. -/
def checkPlan (text : PythonText) (adaptiveRoutingEnabled : Bool) (plan : WorkPackagePlanFields)
    (requirement : String) (maxTasks : ℤ) : Compile Unit := do
  Raising.raiseIf (maxTasks < plan.packages.length)
    (.planError ("WorkPackagePlan contains " ++ toString plan.packages.length ++
      " packages; maximum is " ++ toString maxTasks ++ "."))
  Raising.raiseIf (adaptiveRoutingEnabled = false ∧ 180 < (strip requirement).length ∧
      plan.packages.length < 3)
    (.planError ("Legacy routing requires a long requirement to be split into at least three " ++
      "packages."))
  plan.packages.forM (plan.validatePackage text)

/-- The task graph of a plan; an error of the graph is raised with its text. -/
def compileDag (plan : WorkPackagePlanFields) (assessments : List PlanningComplexityAssessment) :
    Compile TaskDAGRecord := do
  let nodes ← validated ((plan.packages.zip assessments).mapM plan.taskNode)
  (TaskDAGRecord.ofNodes nodes).mapError fun failure => .planError failure.message

/-- `validate_and_convert`. -/
def validateAndConvert (text : PythonText) (adaptiveRoutingEnabled : Bool) (plan : WorkPackagePlan)
    (requirement : String) (maxTasks : ℤ) : Compile WorkPackagePlanningResult := do
  checkPlan text adaptiveRoutingEnabled plan.val requirement maxTasks
  let assessments ← validated (plan.val.packages.mapM WorkPackagePlanFields.assessment)
  let dag ← compileDag plan.val assessments
  let contracts ← validated (plan.val.sortedProducedBy.mapM plan.val.interfaceContract)
  let allocations ← validated (plan.val.packages.mapM WorkPackagePlanFields.budgetAllocation)
  let audit ← validated (plan.val.routingAudit (deliveryLayers text requirement))
  return ⟨dag, contracts, allocations, assessments, audit⟩

end DevFlow
