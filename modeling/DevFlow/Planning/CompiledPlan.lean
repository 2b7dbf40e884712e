/-
# What a work-package plan compiles to

A plan says which package produces and which consumes an interface, and the edge
from a producer to a consumer is all that its task graph has: `Feeds`.  The
compilation of a plan that its models accept returns exactly when the plan meets
what the checks ask for (`Compilable`), as long as the models that are built of the
packages can hold them (`FitsModels`); what it raises otherwise is a
`WorkPackagePlanError`.

What it returns is `Faithful` to the plan in any case: the tasks are the packages,
the edges are `Feeds`, and the contracts are the producers and consumers of the
interfaces.  Everything about edges rests on `producerOf_eq_some`: no two packages
of an accepted plan produce one interface.
-/

import DevFlow.Planning.Compilation

namespace DevFlow

open Documents (Validated)

namespace WorkPackagePlanFields

/-! ### Producers and consumers -/

/-- The package of the id produces the interface. -/
def Produces (plan : WorkPackagePlanFields) (packageId interface : String) : Prop :=
  ∃ package ∈ plan.packages, package.val.packageId = packageId ∧ interface ∈ package.val.produces

/-- The package of the id consumes the interface. -/
def Consumes (plan : WorkPackagePlanFields) (packageId interface : String) : Prop :=
  ∃ package ∈ plan.packages, package.val.packageId = packageId ∧ interface ∈ package.val.consumes

/-- `d` produces something that `t` consumes. -/
def Feeds (plan : WorkPackagePlanFields) (d t : String) : Prop :=
  ∃ interface, plan.Produces d interface ∧ plan.Consumes t interface

/-- What the checks of `validate_and_convert` ask of a plan. -/
structure Compilable (text : PythonText) (adaptiveRoutingEnabled : Bool)
    (plan : WorkPackagePlanFields) (requirement : String) (maxTasks : ℤ) : Prop where
  count : plan.packages.length ≤ maxTasks
  routing : adaptiveRoutingEnabled = true ∨ (strip requirement).length ≤ 180 ∨
    3 ≤ plan.packages.length
  single : ∀ package ∈ plan.packages,
    (layersOf text (package.val.objective ++ "\n" ++ package.val.deliverable)).length < 2
  declared : ∀ package ∈ plan.packages, ∀ interface ∈ package.val.consumes,
    isRepository interface = false → ∃ d, plan.Produces d interface ∧ d ≠ package.val.packageId
  acyclic : Orders.Acyclic plan.Feeds

/-- The packages are within the bounds of the models that are built of them. -/
structure FitsModels (plan : WorkPackagePlanFields) : Prop where
  score : ∀ package ∈ plan.packages, WorkPackagePlanFields.score package.val ≤ 100
  interfaceId : ∀ packageId interface, plan.Produces packageId interface → interface.length ≤ 256
  repository : ∀ packageId interface, isRepository interface = true →
    plan.Produces packageId interface → ¬plan.Consumes packageId interface

/-- The task is the package's. -/
structure Represents (plan : WorkPackagePlanFields) (package : WorkPackageRecord)
    (node : TaskNodeRecord) : Prop where
  taskId : node.taskId = package.val.packageId
  dependsOn : node.val.dependsOn = plan.dependsOn package.val
  produces : node.val.produces = package.val.produces
  consumes : node.val.consumes = package.val.consumes

/-- The result says of the packages and interfaces what the plan says. -/
structure Faithful (plan : WorkPackagePlanFields) (result : WorkPackagePlanningResult) : Prop where
  tasks : List.Forall₂ plan.Represents plan.packages result.dag.tasks
  acyclic : Orders.Acyclic (DependsOn result.dag.nodes)
  edges : ∀ d t, DependsOn result.dag.nodes d t ↔ plan.Feeds d t
  producer : ∀ t interface, plan.Consumes t interface → isRepository interface = false →
    ∃ d, (∀ d', plan.Produces d' interface ↔ d' = d) ∧ DependsOn result.dag.nodes d t
  contracts_nodup :
    (result.interfaceContracts.map fun contract => contract.val.interfaceId).Nodup
  contracts : ∀ d interface, (∃ contract ∈ result.interfaceContracts,
    contract.val.interfaceId = interface ∧ contract.val.producerPackageId = d) ↔
      plan.Produces d interface
  pairs : ∀ d t interface, (∃ contract ∈ result.interfaceContracts,
    contract.val.interfaceId = interface ∧ contract.val.producerPackageId = d ∧
      t ∈ contract.val.consumerPackageIds) ↔ plan.Produces d interface ∧ plan.Consumes t interface
  consumers_nodup : ∀ contract ∈ result.interfaceContracts, contract.val.consumerPackageIds.Nodup

variable {plan : WorkPackagePlan} {package : WorkPackageRecord}

theorem mem_producedBy {fields : WorkPackagePlanFields} {item : String × String} :
    item ∈ fields.producedBy ↔ fields.Produces item.2 item.1 := by
  simp only [producedBy, Produces, List.mem_flatMap, List.mem_map]
  constructor
  · rintro ⟨package, hpackage, interface, hinterface, rfl⟩
    exact ⟨package, hpackage, rfl, hinterface⟩
  · rintro ⟨package, hpackage, hid, hinterface⟩
    exact ⟨package, hpackage, item.1, hinterface, by rw [hid]⟩

theorem producedBy_keyed (plan : WorkPackagePlan) : Tables.Keyed Prod.fst plan.val.producedBy := by
  have hnames : plan.val.producedBy.map Prod.fst =
      plan.val.packages.flatMap fun package => package.val.produces := by
    simp [producedBy, List.map_flatMap, Function.comp_def]
  have hnodup := (valid plan).2.2.2
  rw [← hnames] at hnodup
  exact hnodup

/-- **The producer of an interface is the one package that produces it.** -/
theorem producerOf_eq_some {d interface : String} :
    plan.val.producerOf interface = some d ↔ plan.val.Produces d interface := by
  rw [producerOf, Option.map_eq_some_iff]
  constructor
  · rintro ⟨item, hfound, rfl⟩
    have hkey : item.1 = interface := by simpa using List.find?_some hfound
    rw [← hkey]
    exact mem_producedBy.1 (List.mem_of_find?_eq_some hfound)
  · intro h
    have hmem : (interface, d) ∈ plan.val.producedBy := mem_producedBy.2 h
    exact ⟨(interface, d), (producedBy_keyed plan).find?_of_mem hmem, rfl⟩

theorem Produces.unique {d d' interface : String} (h : plan.val.Produces d interface)
    (h' : plan.val.Produces d' interface) : d' = d := by
  rw [← producerOf_eq_some] at h h'
  exact Option.some.inj (h'.symm.trans h)

/-- The packages of a plan are known by their ids. -/
theorem packages_keyed (plan : WorkPackagePlan) :
    Tables.Keyed (fun package : WorkPackageRecord => package.val.packageId) plan.val.packages :=
  (valid plan).2.2.1

/-- What a package consumes is what its id consumes. -/
theorem consumes_iff (hpackage : package ∈ plan.val.packages) {interface : String} :
    plan.val.Consumes package.val.packageId interface ↔ interface ∈ package.val.consumes := by
  constructor
  · rintro ⟨other, hother, hid, hinterface⟩
    rwa [← (packages_keyed plan).eq_of_key hother hpackage hid]
  · intro hinterface
    exact ⟨package, hpackage, rfl, hinterface⟩

/-- **The dependencies of a package are the packages that feed it.** -/
theorem mem_dependsOn (hpackage : package ∈ plan.val.packages) {d : String} :
    d ∈ plan.val.dependsOn package.val ↔ plan.val.Feeds d package.val.packageId := by
  rw [dependsOn, List.mem_insertionSort, List.mem_dedup, List.mem_filterMap]
  simp only [producerOf_eq_some, Feeds, consumes_iff hpackage, and_comm]

theorem dependsOn_nodup {fields : WorkPackagePlanFields} {package : WorkPackageFields} :
    (fields.dependsOn package).Nodup :=
  ((List.perm_insertionSort _ _).nodup_iff).2 (List.nodup_dedup _)

/-- The dependencies are ids of packages. -/
theorem isTaskId_of_mem_dependsOn (hpackage : package ∈ plan.val.packages) {d : String}
    (hd : d ∈ plan.val.dependsOn package.val) : isTaskId d = true := by
  obtain ⟨interface, ⟨producer, -, rfl, -⟩, -⟩ := (mem_dependsOn hpackage).1 hd
  exact (WorkPackageFields.valid producer).packageId

/-- The consumers in a contract are the packages that consume the interface. -/
theorem mem_consumersOf {fields : WorkPackagePlanFields} {t interface : String} :
    t ∈ fields.consumersOf interface ↔ fields.Consumes t interface := by
  simp only [consumersOf, Consumes, List.mem_map, List.mem_filter, decide_eq_true_eq]
  constructor
  · rintro ⟨package, ⟨hpackage, hinterface⟩, hid⟩
    exact ⟨package, hpackage, hid, hinterface⟩
  · rintro ⟨package, hpackage, hid, hinterface⟩
    exact ⟨package, ⟨hpackage, hinterface⟩, hid⟩

/-! ### The models of a package -/

/-- **The assessment exists when the score is in its bound.** -/
theorem exists_assessment_iff (package : WorkPackageRecord) :
    (∃ a, assessment package = .ok a) ↔ score package.val ≤ 100 := by
  have hid := (WorkPackageFields.valid package).packageId
  simp only [assessment, Validated.exists_make_iff, PlanningComplexityAssessmentFields.validate,
    Raising.bind_eq_ok, Raising.raiseIf_eq_ok, Raising.pure_eq_ok, not_lt, hid]
  constructor
  · rintro ⟨_, _, -, _, hscore, -⟩
    exact hscore
  · intro hscore
    exact ⟨_, ⟨⟩, by decide, ⟨⟩, hscore, ⟨⟩, by simp, rfl⟩

/-- An assessment is its package's. -/
theorem assessment_facts {a : PlanningComplexityAssessment} (h : assessment package = .ok a) :
    a.val.packageId = package.val.packageId ∧
      a.val.complexity = package.val.estimatedComplexity := by
  have hvalid := Validated.make_eq_ok.1 h
  simp only [PlanningComplexityAssessmentFields.validate, Raising.bind_eq_ok,
    Raising.pure_eq_ok] at hvalid
  obtain ⟨_, -, _, -, _, -, heq⟩ := hvalid
  rw [← heq]
  exact ⟨rfl, rfl⟩

/-- Every package has its allocation. -/
theorem exists_budgetAllocation (package : WorkPackageRecord) :
    ∃ allocation, budgetAllocation package = .ok allocation := by
  have hvalid := WorkPackageFields.valid package
  rw [budgetAllocation, Validated.exists_make_iff]
  simp only [TaskBudgetAllocationFields.validate, Raising.bind_eq_ok, Raising.raiseIf_eq_ok,
    Raising.pure_eq_ok, hvalid.packageId, not_or, not_lt]
  exact ⟨_, ⟨⟩, by decide, ⟨⟩, hvalid.recommendedTokenBudget, rfl⟩

theorem budgetAllocation_packageId {allocation : TaskBudgetAllocation}
    (h : budgetAllocation package = .ok allocation) :
    allocation.val.packageId = package.val.packageId := by
  have hvalid := Validated.make_eq_ok.1 h
  simp only [TaskBudgetAllocationFields.validate, Raising.bind_eq_ok, Raising.pure_eq_ok] at hvalid
  obtain ⟨_, -, _, -, heq⟩ := hvalid
  rw [← heq]

/-- Scope patterns that are normal and distinct are kept. -/
theorem validateScopePatterns_self {values : List String}
    (h : ∀ path ∈ values, normalizeScopePattern path = .ok path) (hnodup : values.Nodup) :
    validateScopePatterns values = .ok values := by
  have hitems : values.mapM normalizeScopePattern = .ok values :=
    Raising.mapM_eq_ok.2 (List.forall₂_same.2 h)
  simp [validateScopePatterns, hitems, hnodup, Raising.raiseIf_of_not]

/-- Texts that are stripped and distinct are kept. -/
theorem validateNonEmptyItems_self {values : List String}
    (h : ∀ item ∈ values, normalizeNonEmptyText item = .ok item) (hnodup : values.Nodup) :
    validateNonEmptyItems values = .ok values := by
  have hitems : values.mapM normalizeNonEmptyText = .ok values :=
    Raising.mapM_eq_ok.2 (List.forall₂_same.2 h)
  simp [validateNonEmptyItems, hitems, hnodup, Raising.raiseIf_of_not]

/-- **Every package has its contract.** -/
theorem exists_taskContract (package : WorkPackageRecord) :
    ∃ task, taskContract package = .ok task := by
  have hvalid := WorkPackageFields.valid package
  have hobjective := hvalid.objective
  simp only [normalizeNonEmptyText, Raising.bind_eq_ok, Raising.raiseIf_eq_ok,
    Raising.pure_eq_ok] at hobjective
  obtain ⟨_, hne, -⟩ := hobjective
  have hlength : ¬(package.val.objective.length < 1 ∨ 4000 < package.val.objective.length) := by
    have := hvalid.objective_length
    omega
  have howned : package.val.ownedPaths ≠ [] := by
    rw [← List.length_pos_iff]
    exact hvalid.ownedPaths_length.1
  have hcriteria : package.val.acceptanceCriteria ≠ [] := by
    rw [← List.length_pos_iff]
    exact hvalid.acceptanceCriteria_length
  have hcommands : package.val.verificationCommands ≠ [] := by
    rw [← List.length_pos_iff]
    exact hvalid.verificationCommands_length.1
  have hreadonly : validateScopePatterns [] = .ok [] := rfl
  have hretries : ¬5 < if package.val.estimatedComplexity = .low then 1 else 2 := by
    split_ifs <;> omega
  rw [taskContract, Validated.exists_make_iff]
  simp only [TaskContractFields.validate, TaskContract.validate, Raising.bind_eq_ok,
    Raising.raiseIf_eq_ok, Raising.pure_eq_ok]
  exact ⟨_, _, ⟨⟨⟩, by rw [hvalid.packageId]; decide, ⟨⟩, hlength, ⟨⟩, hne, _,
    validateScopePatterns_self hvalid.readablePaths.1 hvalid.readablePaths.2, ⟨⟩, howned, _,
    validateScopePatterns_self hvalid.ownedPaths.1 hvalid.ownedPaths.2, _, hreadonly, ⟨⟩, by simp,
    rfl⟩, ⟨⟩, hcriteria, _,
    validateNonEmptyItems_self hvalid.acceptanceCriteria.1 hvalid.acceptanceCriteria.2, ⟨⟩,
    hcommands, _,
    validateNonEmptyItems_self hvalid.verificationCommands.1 hvalid.verificationCommands.2, ⟨⟩,
    hretries, rfl⟩

theorem taskContract_taskId {task : TaskContractRecord} (h : taskContract package = .ok task) :
    task.val.taskId = package.val.packageId := by
  have hvalid := Validated.make_eq_ok.1 h
  simp only [TaskContractFields.validate, TaskContract.validate, Raising.bind_eq_ok,
    Raising.pure_eq_ok] at hvalid
  obtain ⟨_, ⟨_, -, _, -, _, -, _, -, _, -, _, -, _, -, _, -, rfl⟩, _, -, _, -, _, -, _, -, _, -,
    heq⟩ := hvalid
  rw [← heq]

/-! ### The tasks -/

/-- **The task of a package exists unless it would depend on itself.** -/
theorem exists_taskNode_iff (hpackage : package ∈ plan.val.packages)
    {a : PlanningComplexityAssessment} (ha : assessment package = .ok a) :
    (∃ node, plan.val.taskNode (package, a) = .ok node) ↔
      package.val.packageId ∉ plan.val.dependsOn package.val := by
  have hvalid := WorkPackageFields.valid package
  obtain ⟨task, htask⟩ := exists_taskContract package
  obtain ⟨allocation, hallocation⟩ := exists_budgetAllocation package
  have hid := taskContract_taskId htask
  have hdependencies :=
    validateDependencies_eq_self_iff.2 ⟨fun d => isTaskId_of_mem_dependsOn hpackage (d := d),
      dependsOn_nodup⟩
  simp only [taskNode, htask, hallocation, Raising.ok_bind, TaskNodeFields.make,
    Validated.exists_make_iff, TaskNodeFields.validate, hdependencies, hid, Raising.bind_eq_ok,
    Raising.raiseIf_eq_ok, Raising.pure_eq_ok]
  constructor
  · rintro ⟨_, _, -, _, -, _, hself, -⟩
    exact hself
  · intro hself
    refine ⟨_, ⟨⟩, ?_, ⟨⟩, ?_, ⟨⟩, hself, ⟨⟩, ?_, ⟨⟩, ?_, ⟨⟩, ?_, ⟨⟩, ?_, ⟨⟩, ?_, rfl⟩
    · exact not_lt.2 hvalid.produces_length
    · exact not_lt.2 hvalid.consumes_length
    · exact not_not.2 hvalid.produces_nodup
    · exact not_not.2 hvalid.consumes_nodup
    · rintro ⟨other, hmem, hother⟩
      obtain rfl := Option.mem_some.1 hmem
      exact hother (budgetAllocation_packageId hallocation)
    · rintro ⟨other, hmem, hother⟩
      obtain rfl := Option.mem_some.1 hmem
      exact hother (assessment_facts ha).1
    · rintro ⟨complexity, hcomplexity, other, hmem, hother⟩
      obtain rfl := Option.mem_some.1 hmem
      obtain rfl := Option.mem_some.1 hcomplexity
      exact hother (assessment_facts ha).2.symm

/-- **The task of a package is the package's.** -/
theorem represents_of_taskNode (hpackage : package ∈ plan.val.packages)
    {a : PlanningComplexityAssessment} {node : TaskNodeRecord}
    (h : plan.val.taskNode (package, a) = .ok node) : plan.val.Represents package node := by
  obtain ⟨task, htask, h⟩ := Raising.bind_eq_ok.1 h
  obtain ⟨allocation, -, h⟩ := Raising.bind_eq_ok.1 h
  have hvalid := Validated.make_eq_ok.1 h
  have hdependencies :=
    validateDependencies_eq_self_iff.2 ⟨fun d => isTaskId_of_mem_dependsOn hpackage (d := d),
      dependsOn_nodup⟩
  simp only [TaskNodeFields.validate, hdependencies, Raising.ok_bind, Raising.bind_eq_ok,
    Raising.pure_eq_ok] at hvalid
  obtain ⟨_, -, _, -, _, -, _, -, _, -, _, -, _, -, _, -, heq⟩ := hvalid
  have hid := taskContract_taskId htask
  constructor
  · rw [TaskNodeRecord.taskId, ← heq]
    exact hid
  all_goals rw [← heq]

/-! ### The graph -/

section Graph

variable {nodes : List TaskNodeRecord}

/-- The tasks of the packages, each with its assessment. -/
theorem forall₂_represents {assessments : List PlanningComplexityAssessment}
    (hassess : plan.val.packages.mapM assessment = .ok assessments)
    (h : (plan.val.packages.zip assessments).mapM plan.val.taskNode = .ok nodes) :
    List.Forall₂ plan.val.Represents plan.val.packages nodes := by
  have hlength := (Raising.mapM_eq_ok.1 hassess).length_eq
  have hfst : (plan.val.packages.zip assessments).map Prod.fst = plan.val.packages :=
    List.map_fst_zip hlength.le
  rw [← hfst, List.forall₂_map_left_iff, List.forall₂_iff_zip]
  have hnodes := Raising.mapM_eq_ok.1 h
  refine ⟨hnodes.length_eq, fun {item node} hmem => ?_⟩
  have hpackage := (List.of_mem_zip (List.of_mem_zip hmem).1).1
  exact represents_of_taskNode hpackage ((List.forall₂_iff_zip.1 hnodes).2 hmem)

theorem map_taskId (h : List.Forall₂ plan.val.Represents plan.val.packages nodes) :
    nodes.map TaskNodeRecord.taskId =
      plan.val.packages.map fun package => package.val.packageId := by
  have hids : List.Forall₂ (fun (package : WorkPackageRecord) (node : TaskNodeRecord) =>
      package.val.packageId = node.taskId) plan.val.packages nodes :=
    h.imp fun _ _ hnode => hnode.taskId.symm
  rw [← List.forall₂_eq_eq_eq, List.forall₂_map_left_iff, List.forall₂_map_right_iff]
  exact hids.flip.imp fun _ _ => Eq.symm

/-- **The edges of the graph are those from producers to consumers.** -/
theorem dependsOn_iff_feeds (h : List.Forall₂ plan.val.Represents plan.val.packages nodes)
    {d t : String} :
    DependsOn (nodes.map TaskNodeRecord.toTaskNode) d t ↔ plan.val.Feeds d t := by
  constructor
  · rintro ⟨_, hmem, rfl, hd⟩
    obtain ⟨node, hnode, rfl⟩ := List.mem_map.1 hmem
    obtain ⟨package, hpackage, hrepresents⟩ := Raising.exists_of_forall₂_left h.flip hnode
    rw [TaskNodeRecord.toTaskNode_dependsOn, hrepresents.dependsOn, mem_dependsOn hpackage] at hd
    rwa [TaskNodeRecord.toTaskNode_taskId, hrepresents.taskId]
  · intro hfeeds
    obtain ⟨_, -, package, hpackage, rfl, -⟩ := id hfeeds
    obtain ⟨node, hnode, hrepresents⟩ := Raising.exists_of_forall₂_left h hpackage
    refine ⟨node.toTaskNode, List.mem_map_of_mem hnode, hrepresents.taskId, ?_⟩
    rw [TaskNodeRecord.toTaskNode_dependsOn, hrepresents.dependsOn, mem_dependsOn hpackage]
    exact hfeeds

theorem referencesValid (h : List.Forall₂ plan.val.Represents plan.val.packages nodes) :
    ReferencesValid (nodes.map TaskNodeRecord.toTaskNode) := by
  have hids : (nodes.map TaskNodeRecord.toTaskNode).map TaskNode.taskId =
      plan.val.packages.map fun package => package.val.packageId := by
    rw [← map_taskId h, List.map_map]
    rfl
  constructor
  · rw [hids]
    exact packages_keyed plan
  · intro node hnode d hd
    have hfeeds := (dependsOn_iff_feeds h).1 ⟨node, hnode, rfl, hd⟩
    obtain ⟨_, ⟨producer, hproducer, rfl, -⟩, -⟩ := hfeeds
    rw [hids]
    exact List.mem_map_of_mem hproducer

/-- **The graph of the packages is a task graph when no package feeds itself**, over
however many others. -/
theorem exists_ofNodes_iff (h : List.Forall₂ plan.val.Represents plan.val.packages nodes) :
    (∃ dag, TaskDAGRecord.ofNodes nodes = .ok dag) ↔ Orders.Acyclic plan.val.Feeds := by
  have hedges : DependsOn (nodes.map TaskNodeRecord.toTaskNode) = plan.val.Feeds := by
    funext d t
    exact propext (dependsOn_iff_feeds h)
  have hne : nodes.map TaskNodeRecord.toTaskNode ≠ [] := by
    have hlength := h.length_eq
    have hpos := (valid plan).1
    rw [Ne, List.map_eq_nil_iff, ← List.length_eq_zero_iff]
    omega
  rw [← hedges, ← length_kahnOrder_iff (referencesValid h)]
  constructor
  · rintro ⟨dag, hdag⟩
    have hvalid := dag.valid
    rw [TaskDAGRecord.ofNodes_eq_ok.1 hdag] at hvalid
    exact (validateGraph_eq_ok.1 hvalid).2.2
  · intro hlength
    exact ⟨⟨nodes, validateGraph_eq_ok.2 ⟨hne, referencesValid h, hlength⟩⟩,
      TaskDAGRecord.ofNodes_eq_ok.2 rfl⟩

end Graph

/-! ### The contracts and the audit -/

/-- **The contract of a produced interface exists when its name is in its bound.** -/
theorem exists_interfaceContract_iff {item : String × String} (hitem : item ∈ plan.val.producedBy) :
    (∃ contract, plan.val.interfaceContract item = .ok contract) ↔ item.1.length ≤ 256 := by
  obtain ⟨producer, -, hid, hinterface⟩ := mem_producedBy.1 hitem
  have hvalid := WorkPackageFields.valid producer
  have hpos : item.1.length ≠ 0 := by
    rw [← String.length_toList, Ne, List.length_eq_zero_iff, String.toList_eq_nil_iff]
    exact hvalid.produces_nonempty _ hinterface
  have htaskId := hvalid.packageId
  rw [hid] at htaskId
  simp only [interfaceContract, Validated.exists_make_iff, InterfaceContractFields.validate,
    Raising.bind_eq_ok, Raising.raiseIf_eq_ok, Raising.pure_eq_ok, htaskId]
  constructor
  · rintro ⟨_, _, hbound, -⟩
    omega
  · intro hle
    exact ⟨_, ⟨⟩, by omega, ⟨⟩, by decide, rfl⟩

/-- A contract is its interface's. -/
theorem interfaceContract_eq_ok {fields : WorkPackagePlanFields} {item : String × String}
    {contract : InterfaceContract} :
    fields.interfaceContract item = .ok contract ↔
      contract.val = ⟨item.1, item.2, fields.consumersOf item.1⟩ := by
  rw [interfaceContract, Validated.make_eq_ok]
  constructor
  · intro hvalid
    simp only [InterfaceContractFields.validate, Raising.bind_eq_ok, Raising.pure_eq_ok] at hvalid
    obtain ⟨_, -, _, -, heq⟩ := hvalid
    exact heq.symm
  · intro heq
    rw [← heq]
    exact contract.property

/-- A contract lists each consumer once. -/
theorem consumersOf_nodup (plan : WorkPackagePlan) (interface : String) :
    (plan.val.consumersOf interface).Nodup :=
  (List.filter_sublist.map _).nodup (packages_keyed plan)

section Contracts

variable {contracts : List InterfaceContract}

/-- **The contracts are those of the produced interfaces.** -/
theorem mem_contracts
    (h : plan.val.sortedProducedBy.mapM plan.val.interfaceContract = .ok contracts)
    {contract : InterfaceContract} :
    contract ∈ contracts ↔ ∃ interface d, plan.val.Produces d interface ∧
      contract.val = ⟨interface, d, plan.val.consumersOf interface⟩ := by
  simp only [Raising.mem_iff_of_mapM_eq_ok h, sortedProducedBy, List.mem_insertionSort,
    mem_producedBy, interfaceContract_eq_ok, Prod.exists]

theorem contracts_keyed
    (h : plan.val.sortedProducedBy.mapM plan.val.interfaceContract = .ok contracts) :
    (contracts.map fun contract => contract.val.interfaceId).Nodup := by
  have hnames : List.Forall₂ (fun item (contract : InterfaceContract) =>
      item.1 = contract.val.interfaceId) plan.val.sortedProducedBy contracts :=
    (Raising.mapM_eq_ok.1 h).imp fun item contract hcontract => by
      rw [interfaceContract_eq_ok.1 hcontract]
  have heq : plan.val.sortedProducedBy.map Prod.fst =
      contracts.map fun contract => contract.val.interfaceId := by
    rwa [← List.forall₂_eq_eq_eq, List.forall₂_map_left_iff, List.forall₂_map_right_iff]
  rw [← heq]
  exact ((List.perm_insertionSort _ _).map Prod.fst).nodup_iff.2 (producedBy_keyed plan)

/-- **The contracts list the producers and consumers of the interfaces.** -/
theorem exists_contract_iff
    (h : plan.val.sortedProducedBy.mapM plan.val.interfaceContract = .ok contracts)
    {d interface : String} {P : List String → Prop} :
    (∃ contract ∈ contracts, contract.val.interfaceId = interface ∧
        contract.val.producerPackageId = d ∧ P contract.val.consumerPackageIds) ↔
      plan.val.Produces d interface ∧ P (plan.val.consumersOf interface) := by
  constructor
  · rintro ⟨contract, hcontract, rfl, rfl, hconsumers⟩
    obtain ⟨interface, d, hproduces, heq⟩ := (mem_contracts h).1 hcontract
    rw [heq] at hconsumers ⊢
    exact ⟨hproduces, hconsumers⟩
  · rintro ⟨hproduces, hconsumers⟩
    have hmem : (interface, d) ∈ plan.val.sortedProducedBy :=
      (List.mem_insertionSort _).2 (mem_producedBy.2 hproduces)
    obtain ⟨contract, hcontract, hmade⟩ :=
      Raising.exists_of_forall₂_left (Raising.mapM_eq_ok.1 h) hmem
    have heq := interfaceContract_eq_ok.1 hmade
    exact ⟨contract, hcontract, by rw [heq], by rw [heq], by rwa [heq]⟩

end Contracts

/-- There are four delivery layers. -/
theorem length_layersOf_le (text : PythonText) (s : String) : (layersOf text s).length ≤ 4 := by
  rw [layersOf, List.length_map]
  exact List.length_filter_le _ _

/-- **Every plan has its audit.** -/
theorem exists_routingAudit (plan : WorkPackagePlan) (text : PythonText) (requirement : String) :
    ∃ audit, plan.val.routingAudit (deliveryLayers text requirement) = .ok audit := by
  have hlayers := length_layersOf_le text (strip requirement)
  have hvalid := valid plan
  simp only [routingAudit, Validated.exists_make_iff, RoutingAuditFields.validate,
    Raising.bind_eq_ok, Raising.raiseIf_eq_ok, Raising.pure_eq_ok, deliveryLayers]
  exact ⟨_, ⟨⟩, by simp, ⟨⟩, by omega, ⟨⟩, by omega, rfl⟩

/-! ### The checks -/

section Checks

variable {text : PythonText} {adaptiveRoutingEnabled : Bool} {requirement : String} {maxTasks : ℤ}

theorem validateConsumed_eq_ok {interface : String} {u : Unit} :
    validateConsumed text plan.val package.val interface = .ok u ↔
      (isRepository interface = false →
        ∃ d, plan.val.Produces d interface ∧ d ≠ package.val.packageId) := by
  unfold validateConsumed
  split_ifs with hrepository
  · simp [hrepository]
  simp only [Bool.not_eq_true] at hrepository
  split
  · rename_i hnone
    refine ⟨fun h => absurd h (by simp), fun h => ?_⟩
    obtain ⟨d, hd, -⟩ := h hrepository
    rw [producerOf_eq_some.2 hd] at hnone
    cases hnone
  · rename_i producer hproducer
    have hproduces := producerOf_eq_some.1 hproducer
    rw [Raising.raiseIf_eq_ok]
    constructor
    · exact fun hne _ => ⟨producer, hproduces, hne⟩
    · intro h heq
      obtain ⟨d, hd, hne⟩ := h hrepository
      exact hne ((Produces.unique hproduces hd).trans heq)

/-- **The plans that the checks let through.** -/
theorem checkPlan_eq_ok {u : Unit} :
    checkPlan text adaptiveRoutingEnabled plan.val requirement maxTasks = .ok u ↔
      plan.val.packages.length ≤ maxTasks ∧
        (adaptiveRoutingEnabled = true ∨ (strip requirement).length ≤ 180 ∨
          3 ≤ plan.val.packages.length) ∧
        ∀ package ∈ plan.val.packages,
          (layersOf text (package.val.objective ++ "\n" ++ package.val.deliverable)).length < 2 ∧
            ∀ interface ∈ package.val.consumes, isRepository interface = false →
              ∃ d, plan.val.Produces d interface ∧ d ≠ package.val.packageId := by
  have hrouting : ¬(adaptiveRoutingEnabled = false ∧ 180 < (strip requirement).length ∧
      plan.val.packages.length < 3) ↔ adaptiveRoutingEnabled = true ∨
        (strip requirement).length ≤ 180 ∨ 3 ≤ plan.val.packages.length := by
    rw [not_and_or, not_and_or, not_lt, not_lt, Bool.not_eq_false]
  simp only [checkPlan, validatePackage, validateSingleDeliverable, Raising.bind_eq_ok,
    Raising.raiseIf_eq_ok, Raising.forM_eq_ok, validateConsumed_eq_ok, hrouting, not_lt, not_le]
  constructor
  · rintro ⟨-, hcount, -, hroute, h⟩
    refine ⟨hcount, hroute, fun package hpackage => ?_⟩
    obtain ⟨-, hlayers, hconsumed⟩ := h package hpackage
    exact ⟨hlayers, hconsumed⟩
  · rintro ⟨hcount, hroute, h⟩
    exact ⟨⟨⟩, hcount, ⟨⟩, hroute, fun package hpackage =>
      ⟨⟨⟩, (h package hpackage).1, (h package hpackage).2⟩⟩

/-- **What the checks raise is a `WorkPackagePlanError`.** -/
theorem checkPlan_eq_error {fields : WorkPackagePlanFields} {failure : CompileFailure}
    (h : checkPlan text adaptiveRoutingEnabled fields requirement maxTasks = .error failure) :
    ∃ message, failure = .planError message := by
  rcases Raising.bind_eq_error.1 h with h | ⟨_, -, h⟩
  · exact ⟨_, (Raising.raiseIf_eq_error.1 h).2.symm⟩
  rcases Raising.bind_eq_error.1 h with h | ⟨_, -, h⟩
  · exact ⟨_, (Raising.raiseIf_eq_error.1 h).2.symm⟩
  obtain ⟨package, -, h⟩ := Raising.forM_eq_error h
  rcases Raising.bind_eq_error.1 h with h | ⟨_, -, h⟩
  · exact ⟨_, (Raising.raiseIf_eq_error.1 h).2.symm⟩
  obtain ⟨interface, -, h⟩ := Raising.forM_eq_error h
  unfold validateConsumed at h
  split_ifs at h
  · cases h
  split at h
  · exact ⟨_, (Except.error.inj h).symm⟩
  · exact ⟨_, (Raising.raiseIf_eq_error.1 h).2.symm⟩

end Checks

/-- A package that feeds itself depends on itself. -/
theorem not_mem_dependsOn (hacyclic : Orders.Acyclic plan.val.Feeds)
    (hpackage : package ∈ plan.val.packages) :
    package.val.packageId ∉ plan.val.dependsOn package.val := by
  intro hmem
  exact hacyclic _ (.single ((mem_dependsOn hpackage).1 hmem))

/-- The tasks can be built when no package depends on itself. -/
theorem exists_nodes {assessments : List PlanningComplexityAssessment}
    (hassess : plan.val.packages.mapM assessment = .ok assessments)
    (hself : ∀ package ∈ plan.val.packages,
      package.val.packageId ∉ plan.val.dependsOn package.val) :
    ∃ nodes, (plan.val.packages.zip assessments).mapM plan.val.taskNode = .ok nodes := by
  rw [Raising.exists_mapM_eq_ok]
  intro item hitem
  have hpackage := (List.of_mem_zip hitem).1
  have ha := (List.forall₂_iff_zip.1 (Raising.mapM_eq_ok.1 hassess)).2 hitem
  exact (exists_taskNode_iff hpackage ha).2 (hself item.1 hpackage)

/-- The contracts can be built when the names of the interfaces are in their bound. -/
theorem exists_contracts_iff : (∃ contracts, plan.val.sortedProducedBy.mapM
      plan.val.interfaceContract = .ok contracts) ↔
    ∀ packageId interface, plan.val.Produces packageId interface → interface.length ≤ 256 := by
  rw [Raising.exists_mapM_eq_ok]
  constructor
  · intro h packageId interface hproduces
    have hmem : (interface, packageId) ∈ plan.val.producedBy := mem_producedBy.2 hproduces
    exact (exists_interfaceContract_iff hmem).1 (h _ ((List.mem_insertionSort _).2 hmem))
  · intro h item hitem
    have hmem := (List.mem_insertionSort _).1 hitem
    exact (exists_interfaceContract_iff hmem).2 (h _ _ (mem_producedBy.1 hmem))

end WorkPackagePlanFields

open WorkPackagePlanFields

section Compilation

variable {text : PythonText} {adaptiveRoutingEnabled : Bool} {plan : WorkPackagePlan}
  {requirement : String} {maxTasks : ℤ}

theorem validated_eq_ok {α : Type} {x : Except Failure α} {a : α} :
    validated x = .ok a ↔ x = .ok a :=
  Raising.mapError_eq_ok

/-- What can be built is not refused. -/
theorem validated_ne_error {α : Type} {x : Except Failure α} (h : ∃ a, x = .ok a)
    (failure : CompileFailure) : validated x ≠ .error failure := by
  obtain ⟨a, rfl⟩ := h
  rintro ⟨⟩

/-- A graph of the packages is compiled of their tasks. -/
theorem compileDag_eq_ok {fields : WorkPackagePlanFields}
    {assessments : List PlanningComplexityAssessment} {dag : TaskDAGRecord} :
    compileDag fields assessments = .ok dag ↔
      (fields.packages.zip assessments).mapM fields.taskNode = .ok dag.tasks := by
  simp only [compileDag, Raising.bind_eq_ok, validated_eq_ok, Raising.mapError_eq_ok,
    TaskDAGRecord.ofNodes_eq_ok]
  constructor
  · rintro ⟨_, h, heq⟩
    exact heq ▸ h
  · exact fun h => ⟨_, h, rfl⟩

theorem validateAndConvert_eq_ok {result : WorkPackagePlanningResult} :
    validateAndConvert text adaptiveRoutingEnabled plan requirement maxTasks = .ok result ↔
      checkPlan text adaptiveRoutingEnabled plan.val requirement maxTasks = .ok () ∧
        plan.val.packages.mapM assessment = .ok result.complexityAssessments ∧
        compileDag plan.val result.complexityAssessments = .ok result.dag ∧
        plan.val.sortedProducedBy.mapM plan.val.interfaceContract =
          .ok result.interfaceContracts ∧
        plan.val.packages.mapM budgetAllocation = .ok result.budgetAllocations ∧
        plan.val.routingAudit (deliveryLayers text requirement) = .ok result.routingAudit := by
  simp only [validateAndConvert, Raising.bind_eq_ok, Raising.pure_eq_ok, validated_eq_ok]
  constructor
  · rintro ⟨_, hcheck, _, hassess, _, hdag, _, hcontracts, _, hallocations, _, haudit, rfl⟩
    exact ⟨hcheck, hassess, hdag, hcontracts, hallocations, haudit⟩
  · rintro ⟨hcheck, hassess, hdag, hcontracts, hallocations, haudit⟩
    exact ⟨_, hcheck, _, hassess, _, hdag, _, hcontracts, _, hallocations, _, haudit, rfl⟩

/-- **The plans that compile.** -/
theorem exists_validateAndConvert_iff :
    (∃ result, validateAndConvert text adaptiveRoutingEnabled plan requirement maxTasks =
        .ok result) ↔
      plan.val.Compilable text adaptiveRoutingEnabled requirement maxTasks ∧
        (∀ package ∈ plan.val.packages, score package.val ≤ 100) ∧
        ∀ packageId interface, plan.val.Produces packageId interface → interface.length ≤ 256 := by
  constructor
  · rintro ⟨result, h⟩
    obtain ⟨hcheck, hassess, hdag, hcontracts, -, -⟩ := validateAndConvert_eq_ok.1 h
    obtain ⟨hcount, hrouting, hpackages⟩ := checkPlan_eq_ok.1 hcheck
    have hnodes := forall₂_represents hassess (compileDag_eq_ok.1 hdag)
    refine ⟨?_, fun package hpackage => ?_, exists_contracts_iff.1 ⟨_, hcontracts⟩⟩
    · exact
        { count := hcount
          routing := hrouting
          single := fun package hpackage => (hpackages package hpackage).1
          declared := fun package hpackage => (hpackages package hpackage).2
          acyclic := (exists_ofNodes_iff hnodes).1 ⟨_, result.dag.ofNodes_tasks⟩ }
    · have hexists := Raising.exists_mapM_eq_ok.1 ⟨_, hassess⟩
      exact (exists_assessment_iff package).1 (hexists package hpackage)
  · rintro ⟨hplan, hscore, hnames⟩
    have hcheck : checkPlan text adaptiveRoutingEnabled plan.val requirement maxTasks = .ok () :=
      checkPlan_eq_ok.2 ⟨hplan.count, hplan.routing, fun package hpackage =>
        ⟨hplan.single package hpackage, hplan.declared package hpackage⟩⟩
    obtain ⟨assessments, hassess⟩ := Raising.exists_mapM_eq_ok.2 fun package hpackage =>
      (exists_assessment_iff package).2 (hscore package hpackage)
    obtain ⟨nodes, hnodes⟩ := exists_nodes hassess fun package hpackage =>
      not_mem_dependsOn hplan.acyclic hpackage
    obtain ⟨dag, hdag⟩ := (exists_ofNodes_iff (forall₂_represents hassess hnodes)).2 hplan.acyclic
    obtain rfl := TaskDAGRecord.ofNodes_eq_ok.1 hdag
    obtain ⟨contracts, hcontracts⟩ := exists_contracts_iff.2 hnames
    obtain ⟨allocations, hallocations⟩ := Raising.exists_mapM_eq_ok.2 fun package _ =>
      exists_budgetAllocation package
    obtain ⟨audit, haudit⟩ := exists_routingAudit plan text requirement
    exact ⟨⟨dag, contracts, allocations, assessments, audit⟩, validateAndConvert_eq_ok.2
      ⟨hcheck, hassess, compileDag_eq_ok.2 hnodes, hcontracts, hallocations, haudit⟩⟩

/-- **What is raised is a `WorkPackagePlanError`** where the models can hold the
packages. -/
theorem validateAndConvert_eq_error (hfits : plan.val.FitsModels) {failure : CompileFailure}
    (h : validateAndConvert text adaptiveRoutingEnabled plan requirement maxTasks =
      .error failure) : ∃ message, failure = .planError message := by
  rcases Raising.bind_eq_error.1 h with h | ⟨_, hcheck, h⟩
  · exact checkPlan_eq_error h
  rcases Raising.bind_eq_error.1 h with h | ⟨assessments, hassess, h⟩
  · refine absurd h (validated_ne_error (Raising.exists_mapM_eq_ok.2 fun package hpackage => ?_) _)
    exact (exists_assessment_iff package).2 (hfits.score package hpackage)
  rcases Raising.bind_eq_error.1 h with h | ⟨_, -, h⟩
  · rcases Raising.bind_eq_error.1 h with h | ⟨nodes, -, h⟩
    · refine absurd h (validated_ne_error (exists_nodes (validated_eq_ok.1 hassess) ?_) _)
      -- The check of the consumed interfaces leaves the repository's own out.
      intro package hpackage hmem
      obtain ⟨interface, hproduces, hconsumes⟩ := (mem_dependsOn hpackage).1 hmem
      cases hrepository : isRepository interface with
      | true => exact hfits.repository _ _ hrepository hproduces hconsumes
      | false =>
        have hdeclared := ((checkPlan_eq_ok.1 hcheck).2.2 package hpackage).2
        obtain ⟨d, hd, hne⟩ := hdeclared interface ((consumes_iff hpackage).1 hconsumes) hrepository
        exact hne (Produces.unique hproduces hd)
    · cases hgraph : TaskDAGRecord.ofNodes nodes with
      | ok dag => rw [hgraph] at h; cases h
      | error e =>
        rw [hgraph] at h
        exact ⟨_, (Except.error.inj h).symm⟩
  rcases Raising.bind_eq_error.1 h with h | ⟨_, -, h⟩
  · exact absurd h (validated_ne_error (exists_contracts_iff.2 hfits.interfaceId) _)
  rcases Raising.bind_eq_error.1 h with h | ⟨_, -, h⟩
  · exact absurd h (validated_ne_error
      (Raising.exists_mapM_eq_ok.2 fun package _ => exists_budgetAllocation package) _)
  rcases Raising.bind_eq_error.1 h with h | ⟨_, -, h⟩
  · exact absurd h (validated_ne_error (exists_routingAudit plan text requirement) _)
  · cases h

/-- **What the compilation returns is what the plan says.** -/
theorem faithful_of_validateAndConvert {result : WorkPackagePlanningResult}
    (h : validateAndConvert text adaptiveRoutingEnabled plan requirement maxTasks = .ok result) :
    Faithful plan.val result := by
  obtain ⟨hcheck, hassess, hdag, hcontracts, -, -⟩ := validateAndConvert_eq_ok.1 h
  have hpackages := (checkPlan_eq_ok.1 hcheck).2.2
  have hnodes := forall₂_represents hassess (compileDag_eq_ok.1 hdag)
  have hedges : DependsOn result.dag.nodes = plan.val.Feeds := by
    funext d t
    exact propext (dependsOn_iff_feeds hnodes)
  exact
    { tasks := hnodes
      acyclic := by
        rw [hedges]
        exact (exists_ofNodes_iff hnodes).1 ⟨_, result.dag.ofNodes_tasks⟩
      edges := fun d t => dependsOn_iff_feeds hnodes
      producer := by
        rintro t interface ⟨package, hpackage, rfl, hinterface⟩ hrepository
        obtain ⟨d, hd, -⟩ := (hpackages package hpackage).2 interface hinterface hrepository
        refine ⟨d, fun d' => ⟨Produces.unique hd, fun heq => heq ▸ hd⟩, ?_⟩
        exact (dependsOn_iff_feeds hnodes).2 ⟨interface, hd, package, hpackage, rfl, hinterface⟩
      contracts_nodup := contracts_keyed hcontracts
      contracts := fun d interface => by
        simpa using exists_contract_iff (P := fun _ => True) hcontracts (d := d)
      pairs := fun d t interface => by
        rw [← mem_consumersOf]
        exact exists_contract_iff (P := (t ∈ ·)) hcontracts
      consumers_nodup := by
        intro contract hcontract
        obtain ⟨interface, d, -, heq⟩ := (mem_contracts hcontracts).1 hcontract
        rw [heq]
        exact consumersOf_nodup plan interface }

/-- **The compilation of a plan**: where the models can hold the packages it returns
exactly when the plan meets the checks, and refuses it with a `WorkPackagePlanError`
otherwise; what it returns is faithful to the plan. -/
theorem validateAndConvert_compiles (text : PythonText) (adaptiveRoutingEnabled : Bool)
    (plan : WorkPackagePlan) (requirement : String) (maxTasks : ℤ) :
    (plan.val.FitsModels →
      ((∃ result, validateAndConvert text adaptiveRoutingEnabled plan requirement maxTasks =
          .ok result) ↔
        plan.val.Compilable text adaptiveRoutingEnabled requirement maxTasks) ∧
      ∀ failure, validateAndConvert text adaptiveRoutingEnabled plan requirement maxTasks =
        .error failure → ∃ message, failure = .planError message) ∧
    ∀ result, validateAndConvert text adaptiveRoutingEnabled plan requirement maxTasks =
      .ok result → Faithful plan.val result := by
  refine ⟨fun hfits => ⟨?_, fun failure => validateAndConvert_eq_error hfits⟩,
    fun result => faithful_of_validateAndConvert⟩
  rw [exists_validateAndConvert_iff]
  exact ⟨fun h => h.1, fun hplan => ⟨hplan, hfits.score, hfits.interfaceId⟩⟩

end Compilation

/-! ### Two packages -/

/-- ASCII words. -/
def asciiText : PythonText :=
  ⟨fun c => c.isAlphanum || c = '_', fun s => "'" ++ s ++ "'"⟩

def coreFields : WorkPackageFields where
  packageId := "core"
  objective := "Parse the game rules."
  deliverable := "rules"
  ownedPaths := ["src/core.py"]
  produces := ["core.rules"]
  consumes := ["repository:python"]
  acceptanceCriteria := ["The rules are parsed."]
  verificationCommands := ["pytest"]
  estimatedComplexity := .low
  recommendedTokenBudget := 4000

def boardFields : WorkPackageFields where
  packageId := "board"
  objective := "Draw the board."
  deliverable := "page"
  ownedPaths := ["web/board.js"]
  produces := ["board.page"]
  consumes := ["core.rules"]
  acceptanceCriteria := ["The board is drawn."]
  verificationCommands := ["npm test"]
  estimatedComplexity := .medium
  recommendedTokenBudget := 8000

/-- A board that is drawn from the rules. -/
def boardPlan : WorkPackagePlan :=
  ⟨⟨[⟨coreFields, rfl⟩, ⟨boardFields, rfl⟩]⟩, rfl⟩

/-- The board without the package of its rules. -/
def undeclaredPlan : WorkPackagePlan :=
  ⟨⟨[⟨boardFields, rfl⟩]⟩, rfl⟩

theorem boardPlan_fitsModels : boardPlan.val.FitsModels := by
  have hpackages : ∀ package ∈ boardPlan.val.packages,
      package.val = coreFields ∨ package.val = boardFields := by
    simp [boardPlan]
  constructor
  · intro package hpackage
    rcases hpackages package hpackage with h | h <;> rw [h] <;> decide
  · rintro _ interface ⟨package, hpackage, -, hinterface⟩
    rcases hpackages package hpackage with h | h <;> rw [h] at hinterface <;>
      rw [List.mem_singleton.1 hinterface] <;> decide
  · rintro _ interface hrepository ⟨package, hpackage, -, hinterface⟩ -
    rcases hpackages package hpackage with h | h <;> rw [h] at hinterface <;>
      rw [List.mem_singleton.1 hinterface] at hrepository <;> revert hrepository <;> decide

theorem validateAndConvert_compiles_boardPlan :
    ∃ result, validateAndConvert asciiText true boardPlan "A board game." 8 = .ok result ∧
      Faithful boardPlan.val result := by
  have hcompiles := validateAndConvert_compiles asciiText true boardPlan "A board game." 8
  have hok : (validateAndConvert asciiText true boardPlan "A board game." 8).isOk = true := by
    decide +kernel
  obtain ⟨result, hresult⟩ := Raising.exists_of_isOk hok
  have hplan := (hcompiles.1 boardPlan_fitsModels).1.1 ⟨result, hresult⟩
  obtain ⟨result', hresult'⟩ := (hcompiles.1 boardPlan_fitsModels).1.2 hplan
  exact ⟨result', hresult', hcompiles.2 result' hresult'⟩

/-- Five paths, sixteen interfaces, three commands and a high complexity. -/
def wideFields : WorkPackageFields where
  packageId := "wide"
  objective := "Rework the rules."
  deliverable := "rules"
  ownedPaths := ["a.py", "b.py", "c.py", "d.py", "e.py"]
  produces := ["wide.rules"]
  consumes := ["repository:a", "repository:b", "repository:c", "repository:d", "repository:e",
    "repository:f", "repository:g", "repository:h", "repository:i", "repository:j",
    "repository:k", "repository:l", "repository:m", "repository:n", "repository:o",
    "repository:p"]
  acceptanceCriteria := ["The rules are reworked."]
  verificationCommands := ["pytest", "ruff check", "mypy"]
  estimatedComplexity := .high
  recommendedTokenBudget := 20000

/-- One package of all that a package may have. -/
def widePlan : WorkPackagePlan :=
  ⟨⟨[⟨wideFields, rfl⟩]⟩, rfl⟩

/-- **Not every accepted plan compiles**: an interface that no package produces is
refused, and a score of 138 is no score of the assessment. -/
theorem accepted_plans_do_not_compile :
    (∃ message, validateAndConvert asciiText true undeclaredPlan "A board game." 8 =
      .error (.planError message)) ∧
    ∃ failure, validateAndConvert asciiText true widePlan "A board game." 8 =
      .error (.validationError failure) := by
  have hundeclared : checkPlan asciiText true undeclaredPlan.val "A board game." 8 =
      .error (.planError "board consumes undeclared interface 'core.rules'.") := by
    decide +kernel
  have hwide : checkPlan asciiText true widePlan.val "A board game." 8 = .ok () := by
    decide +kernel
  have hscore : widePlan.val.packages.mapM assessment =
      .error (boundError "Input should be less than or equal to 100") := rfl
  constructor
  · refine ⟨"board consumes undeclared interface 'core.rules'.", ?_⟩
    rw [validateAndConvert, hundeclared, Raising.error_bind]
  · refine ⟨boundError "Input should be less than or equal to 100", ?_⟩
    rw [validateAndConvert, hwide, Raising.ok_bind, hscore]
    rfl

end DevFlow
