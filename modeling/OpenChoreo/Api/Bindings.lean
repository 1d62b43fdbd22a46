import OpenChoreo.Api.Pipelines

/-!
# Finding and reporting environment bindings

The binding reads of `component_service.go`. `getServiceBindingCR` and its two siblings list the
bindings of their kind in the organization's namespace and return the first whose owner is the
component and whose environment is the one asked for: the binding that fills the slot
`(kind, namespace, component, environment)`. `findSlot` is that lookup on a list of bindings, and
the lemmas below say how it changes when a binding is appended or replaced; every later proof about
what the lookups see goes through them.

The responses are built by `getServiceBinding`, `getWebApplicationBinding` and
`getScheduledTaskBinding`: the status comes from the first `Ready` condition (none is read for a
ScheduledTask binding) and the image from the first container that names one, in the order the
range over the workload's containers map takes. Go picks that order anew for every range, so a
workload whose containers name two images can be reported with either
(`extractImageFromWorkloadSpec_depends_on_order`); one whose containers name at most one image is
always reported with it (`WorkloadTemplate.OneImage`). `GetComponentBindings` collects the responses
over a list of environments, skipping those without a binding; a call's ranges take the orders of a
stream `orders`, one for each range it runs. Endpoint statuses are left out of the responses.
-/

namespace OpenChoreo
namespace Api

/-! ## Slots -/

/-- A slot: a binding kind, a namespace, a component and an environment. -/
abbrev Slot := BindingKind × String × String × String

/-- The test of the `get*BindingCR` loops, on a binding of the listed kind and namespace. -/
def Binding.matches (b : Binding) (kind : BindingKind) (orgName componentName environment : String) :
    Bool :=
  b.kind == kind && b.ns == orgName && b.spec.owner.componentName == componentName &&
    b.spec.environment == environment

theorem Binding.matches_eq (b : Binding) (kind : BindingKind) (orgName componentName environment : String) :
    b.matches kind orgName componentName environment =
      decide (b.slot = (kind, orgName, componentName, environment)) := by
  rw [Bool.eq_iff_iff]
  simp [Binding.matches, Binding.slot, and_assoc]

/-- The first binding of a list that fills a slot. -/
def findSlot (bindings : List Binding) (slot : Slot) : Option Binding :=
  bindings.find? fun b => decide (b.slot = slot)

/-- The binding the service's lookups find in a slot. -/
def Store.bindingIn (s : Store) (slot : Slot) : Option Binding :=
  findSlot s.bindings.items slot

/-- The lookup of `getServiceBindingCR`, `getWebApplicationBindingCR` and
`getScheduledTaskBindingCR`. -/
def getBindingCR (kind : BindingKind) (s : Store) (orgName componentName environment : String) :
    Except GoError Binding :=
  match s.bindings.items.find? fun b => b.matches kind orgName componentName environment with
  | some binding => .ok binding
  | none => .error (.ofSentinel .bindingNotFound)

/-- `getServiceBindingCR`. -/
def getServiceBindingCR : Store → String → String → String → Except GoError Binding :=
  getBindingCR .service

/-- `getWebApplicationBindingCR`. -/
def getWebApplicationBindingCR : Store → String → String → String → Except GoError Binding :=
  getBindingCR .webApplication

/-- `getScheduledTaskBindingCR`. -/
def getScheduledTaskBindingCR : Store → String → String → String → Except GoError Binding :=
  getBindingCR .scheduledTask

section Lookups

variable {s : Store} {kind : BindingKind} {orgName componentName environment : String}

theorem getBindingCR_eq (kind : BindingKind) (s : Store) (orgName componentName environment : String) :
    getBindingCR kind s orgName componentName environment =
      match s.bindingIn (kind, orgName, componentName, environment) with
      | some binding => .ok binding
      | none => .error (.ofSentinel .bindingNotFound) := by
  simp only [getBindingCR, Store.bindingIn, findSlot, Binding.matches_eq]

theorem getBindingCR_eq_ok {binding : Binding} :
    getBindingCR kind s orgName componentName environment = .ok binding ↔
      s.bindingIn (kind, orgName, componentName, environment) = some binding := by
  rw [getBindingCR_eq]
  cases s.bindingIn (kind, orgName, componentName, environment) <;> simp

theorem getBindingCR_eq_error {err : GoError} :
    getBindingCR kind s orgName componentName environment = .error err ↔
      s.bindingIn (kind, orgName, componentName, environment) = none ∧
        err = .ofSentinel .bindingNotFound := by
  rw [getBindingCR_eq]
  cases s.bindingIn (kind, orgName, componentName, environment) <;> simp [eq_comm]

end Lookups

section FindSlot

variable {bindings : List Binding} {slot : Slot} {b : Binding}

theorem findSlot_eq_some_mem (h : findSlot bindings slot = some b) : b ∈ bindings ∧ b.slot = slot :=
  ⟨List.mem_of_find?_eq_some h, by simpa using List.find?_some h⟩

theorem findSlot_eq_none : findSlot bindings slot = none ↔ ∀ b ∈ bindings, b.slot ≠ slot := by
  simp [findSlot, List.find?_eq_none]

/-- With at most one binding in each slot, the lookup finds exactly the binding that fills it. -/
theorem findSlot_eq_some_iff (hunique : (bindings.map Binding.slot).Nodup) :
    findSlot bindings slot = some b ↔ b ∈ bindings ∧ b.slot = slot := by
  refine ⟨findSlot_eq_some_mem, fun ⟨hb, hslot⟩ => ?_⟩
  obtain ⟨b', hb'⟩ := Option.isSome_iff_exists.1
    (List.find?_isSome.2 ⟨b, hb, by simpa using hslot⟩ :
      (bindings.find? fun b => decide (b.slot = slot)).isSome)
  obtain ⟨hmem, hslot'⟩ := findSlot_eq_some_mem hb'
  rw [findSlot, hb', List.inj_on_of_nodup_map hunique hmem hb (hslot'.trans hslot.symm)]

theorem findSlot_append_singleton (x : Binding) :
    findSlot (bindings ++ [x]) slot =
      (findSlot bindings slot).or (if x.slot = slot then some x else none) := by
  simp [findSlot, List.find?_append, List.find?_singleton]

/-- A map that keeps every binding's slot moves the lookup along. -/
theorem findSlot_map {f : Binding → Binding} (hf : ∀ y ∈ bindings, (f y).slot = y.slot) :
    findSlot (bindings.map f) slot = (findSlot bindings slot).map f := by
  induction bindings with
  | nil => rfl
  | cons y rest ih =>
    have hy := hf y (.head _)
    simp only [findSlot, List.map_cons, List.find?_cons, hy] at ih ⊢
    split <;> simp [ih fun z hz => hf z (.tail _ hz)]

/-- Replacing a binding by one of its key and slot moves the lookup along the replacement. -/
theorem findSlot_replace (objects : Objects Binding.key) (x : Binding)
    (hx : ∀ y ∈ objects.items, y.key = x.key → y.slot = x.slot) :
    findSlot (objects.replace x).items slot =
      (findSlot objects.items slot).map fun y => if y.key = x.key then x else y := by
  rw [Objects.replace_items]
  exact findSlot_map fun y hy => by
    by_cases h : y.key = x.key
    · simp [h, hx y hy h]
    · simp [h]

end FindSlot

/-! ## Responses -/

/-- `models.BindingStatus`, without the transition time. -/
structure BindingStatus where
  reason : String
  message : String
  status : String
  deriving DecidableEq, Repr

/-- `models.BindingResponse`. Of the kind's own record (`ServiceBinding`, `WebApplicationBinding` or
`ScheduledTaskBinding`, the one `type` names) it keeps the image and the release state; endpoint
statuses are left out. -/
structure BindingResponse where
  name : String
  type : String
  componentName : String
  projectName : String
  orgName : String
  environment : String
  bindingStatus : BindingStatus
  image : String
  releaseState : String
  deriving DecidableEq, Repr

/-- `mapConditionToBindingStatus`. -/
def mapConditionToBindingStatus (condition : BindingCondition) : String :=
  if condition.status == "True" then "Active"
  else if condition.reason == "ResourcesSuspended" || condition.reason == "ResourcesUndeployed" then
    "Suspended"
  else if condition.reason == "ResourceHealthProgressing" then "InProgress"
  else if [ "ResourceHealthDegraded", "ServiceClassNotFound", "APIClassNotFound",
      "WebApplicationClassNotFound", "ScheduledTaskClassNotFound", "InvalidConfiguration",
      "ReleaseCreationFailed", "ReleaseUpdateFailed", "ReleaseDeletionFailed"].contains
      condition.reason then "Failed"
  else "NotYetDeployed"

/-- `extractImageFromWorkloadSpec`: the image of the first container that names one, in the order
`order` the range over the containers map takes. -/
def extractImageFromWorkloadSpec (order : RangeOrder) (workloadSpec : WorkloadTemplate) : String :=
  if workloadSpec.containers.isEmpty then ""
  else
    match (order.arrange (workloadSpec.containers.map fun c => (c.name, c))).find?
        (·.2.image != "") with
    | some (_, container) => container.image
    | none => ""

/-- A workload template whose containers name at most one image between them. -/
def WorkloadTemplate.OneImage (workloadSpec : WorkloadTemplate) : Prop :=
  ∀ c ∈ workloadSpec.containers, ∀ c' ∈ workloadSpec.containers, c.image ≠ "" → c'.image ≠ "" →
    c.image = c'.image

instance (workloadSpec : WorkloadTemplate) : Decidable workloadSpec.OneImage :=
  inferInstanceAs (Decidable (∀ c ∈ workloadSpec.containers, ∀ c' ∈ workloadSpec.containers, _))

/-- Whatever order the range takes, the image of a workload whose containers name at most one. -/
theorem extractImageFromWorkloadSpec_of_oneImage {workloadSpec : WorkloadTemplate}
    (h : workloadSpec.OneImage) (order order' : RangeOrder) :
    extractImageFromWorkloadSpec order workloadSpec =
      extractImageFromWorkloadSpec order' workloadSpec := by
  have hfind := RangeOrder.map_find?_arrange (p := (·.2.image != ""))
    (m := workloadSpec.containers.map fun c => (c.name, c)) (f := (·.2.image))
    (fun e he e' he' hp hp' => by
      obtain ⟨c, hc, rfl⟩ := List.mem_map.1 he
      obtain ⟨c', hc', rfl⟩ := List.mem_map.1 he'
      exact h c hc c' hc' (by simpa using hp) (by simpa using hp')) order order'
  unfold extractImageFromWorkloadSpec
  split_ifs
  · rfl
  · split <;> split <;> simp_all

/-- Two containers with two images: the range that meets `main` first reports `app:v1`, the one
that meets `sidecar` first reports `proxy:v2`. -/
theorem extractImageFromWorkloadSpec_depends_on_order :
    extractImageFromWorkloadSpec .listed ⟨[⟨"main", "app:v1"⟩, ⟨"sidecar", "proxy:v2"⟩]⟩ = "app:v1" ∧
      extractImageFromWorkloadSpec .reversed ⟨[⟨"main", "app:v1"⟩, ⟨"sidecar", "proxy:v2"⟩]⟩ =
        "proxy:v2" := by
  decide

/-- The status loop of `getServiceBinding` and `getWebApplicationBinding`: the first `Ready`
condition gives the reason, the message and the mapped status; without one the binding has not
been deployed. -/
def readyBindingStatus (conditions : List BindingCondition) : BindingStatus :=
  match conditions.find? (·.type == "Ready") with
  | some condition => ⟨condition.reason, condition.message, mapConditionToBindingStatus condition⟩
  | none => ⟨"", "", "NotYetDeployed"⟩

/-- `getServiceBinding` and `getWebApplicationBinding`: the binding in the slot, its status from its
conditions and the image of its workload. -/
def getConditionedBinding (kind : BindingKind) (type : String) (order : RangeOrder) (s : Store)
    (orgName componentName environment : String) : Except GoError BindingResponse := do
  let binding ← getBindingCR kind s orgName componentName environment
  pure { name := binding.name, type := type, componentName := "", projectName := "", orgName := ""
         environment := "", bindingStatus := readyBindingStatus binding.conditions
         image := extractImageFromWorkloadSpec order binding.spec.workloadSpec, releaseState := "" }

/-- `getServiceBinding`. -/
def getServiceBinding :
    RangeOrder → Store → String → String → String → Except GoError BindingResponse :=
  getConditionedBinding .service "Service"

/-- `getWebApplicationBinding`. -/
def getWebApplicationBinding :
    RangeOrder → Store → String → String → String → Except GoError BindingResponse :=
  getConditionedBinding .webApplication "WebApplication"

/-- `getScheduledTaskBinding`: a ScheduledTask binding has no conditions to read, so its status is
always that it has not been deployed. -/
def getScheduledTaskBinding (order : RangeOrder) (s : Store) (orgName componentName environment : String) :
    Except GoError BindingResponse := do
  let binding ← getScheduledTaskBindingCR s orgName componentName environment
  pure { name := binding.name, type := "ScheduledTask", componentName := "", projectName := ""
         orgName := "", environment := "", bindingStatus := ⟨"", "", "NotYetDeployed"⟩
         image := extractImageFromWorkloadSpec order binding.spec.workloadSpec, releaseState := "" }

/-- `getComponentBinding`: the response of the component type's kind, with the common fields
filled in. -/
def getComponentBinding (order : RangeOrder) (s : Store)
    (orgName projectName componentName environment componentType : String) :
    Except GoError BindingResponse := do
  let response ← match BindingKind.ofComponentType componentType with
    | some .service => getServiceBinding order s orgName componentName environment
    | some .webApplication => getWebApplicationBinding order s orgName componentName environment
    | some .scheduledTask => getScheduledTaskBinding order s orgName componentName environment
    | none => throw (.plain s!"unsupported component type: {componentType}")
  pure { response with componentName, projectName, orgName, environment }

/-- The loop of `GetComponentBindings`: a response per environment, in order, skipping the
environments without a binding and stopping at any other error. The response of the `n`-th
environment takes the range order `orders n`. -/
def collectBindings (orders : Nat → RangeOrder) (s : Store)
    (orgName projectName componentName componentType : String) :
    List String → Except GoError (List BindingResponse)
  | [] => pure []
  | environment :: rest =>
    match getComponentBinding (orders 0) s orgName projectName componentName environment
        componentType with
    | .ok binding =>
      (binding :: ·) <$> collectBindings (fun n => orders (n + 1)) s orgName projectName
        componentName componentType rest
    | .error err =>
      if err.isSentinel .bindingNotFound then
        collectBindings (fun n => orders (n + 1)) s orgName projectName componentName componentType
          rest
      else throw err

/-- `GetComponentBindings`: the component's bindings in the environments asked for, or in every
environment of its project's pipeline when none is asked for. The range over the pipeline's
environments takes `orders 0`, the loop the rest of the stream. -/
def getComponentBindings (orders : Nat → RangeOrder) (defaultPipeline : String) (s : Store)
    (orgName projectName componentName : String) (environments : List String) :
    Except GoError (List BindingResponse) := do
  let component ← getComponent s orgName projectName componentName
  let environments ← if environments.isEmpty then
      getEnvironmentsFromDeploymentPipeline (orders 0) defaultPipeline s orgName projectName
    else pure environments
  collectBindings (fun n => orders (n + 1)) s orgName projectName componentName component.type
    environments

/-! ## What the responses report -/

/-- The response of a component type's kind, as `getComponentBinding` builds it from the binding
in the slot. -/
def bindingResponse (order : RangeOrder) (kind : BindingKind) (projectName : String)
    (binding : Binding) : BindingResponse :=
  { name := binding.name, type := kind.componentType
    componentName := binding.spec.owner.componentName, projectName := projectName
    orgName := binding.ns, environment := binding.spec.environment
    bindingStatus := match kind with
      | .scheduledTask => ⟨"", "", "NotYetDeployed"⟩
      | _ => readyBindingStatus binding.conditions
    image := extractImageFromWorkloadSpec order binding.spec.workloadSpec, releaseState := "" }

/-- The responses the loop of `GetComponentBindings` gives for a component type with bindings: one
for each environment whose slot is filled, in order, the `n`-th environment's image taken in the
range order `orders n`. -/
def bindingResponses (orders : Nat → RangeOrder) (s : Store) (kind : BindingKind)
    (orgName projectName componentName : String) : List String → List BindingResponse
  | [] => []
  | environment :: rest =>
    let responses :=
      bindingResponses (fun n => orders (n + 1)) s kind orgName projectName componentName rest
    match s.bindingIn (kind, orgName, componentName, environment) with
    | some binding => bindingResponse (orders 0) kind projectName binding :: responses
    | none => responses

/-- `getComponentBinding` for a component type with bindings reports the binding in the slot, or
`ErrBindingNotFound` when the slot is empty. -/
theorem getComponentBinding_eq {kind : BindingKind} {componentType : String}
    (hkind : BindingKind.ofComponentType componentType = some kind) (order : RangeOrder) (s : Store)
    (orgName projectName componentName environment : String) :
    getComponentBinding order s orgName projectName componentName environment componentType =
      match s.bindingIn (kind, orgName, componentName, environment) with
      | some binding => .ok (bindingResponse order kind projectName binding)
      | none => .error (.ofSentinel .bindingNotFound) := by
  cases h : s.bindingIn (kind, orgName, componentName, environment) with
  | none =>
    have hcr := getBindingCR_eq_error.2 ⟨h, rfl⟩
    cases kind <;>
      simp [getComponentBinding, hkind, getServiceBinding, getWebApplicationBinding,
        getScheduledTaskBinding, getScheduledTaskBindingCR, getConditionedBinding, hcr, bind,
        Except.bind]
  | some binding =>
    have hcr := getBindingCR_eq_ok.2 h
    obtain ⟨-, hslot⟩ := findSlot_eq_some_mem h
    simp only [Binding.slot, Prod.mk.injEq] at hslot
    obtain ⟨-, hns, hcomp, henv⟩ := hslot
    cases kind <;>
      simp [getComponentBinding, hkind, getServiceBinding, getWebApplicationBinding,
        getScheduledTaskBinding, getScheduledTaskBindingCR, getConditionedBinding, hcr, bind,
        Except.bind, pure, Except.pure, bindingResponse, BindingKind.componentType, hns, hcomp,
        henv]

/-- For a component type with bindings, the loop reports, in order, the binding of every
environment whose slot is filled. -/
theorem collectBindings_eq {kind : BindingKind} {componentType : String}
    (hkind : BindingKind.ofComponentType componentType = some kind) (orders : Nat → RangeOrder)
    (s : Store) (orgName projectName componentName : String) (environments : List String) :
    collectBindings orders s orgName projectName componentName componentType environments =
      .ok (bindingResponses orders s kind orgName projectName componentName environments) := by
  induction environments generalizing orders with
  | nil => rfl
  | cons environment rest ih =>
    rw [collectBindings, getComponentBinding_eq hkind, bindingResponses]
    cases s.bindingIn (kind, orgName, componentName, environment) <;>
      simp [ih, Functor.map, Except.map]

section Responses

variable {orders : Nat → RangeOrder} {s : Store} {kind : BindingKind}
  {orgName projectName componentName : String}

/-- The binding in the slot of an environment asked for is reported, with its image taken in some
range order. -/
theorem mem_bindingResponses {environments : List String} {environment : String} {binding : Binding}
    (henv : environment ∈ environments)
    (hbinding : s.bindingIn (kind, orgName, componentName, environment) = some binding) :
    ∃ order, bindingResponse order kind projectName binding ∈
      bindingResponses orders s kind orgName projectName componentName environments := by
  induction environments generalizing orders with
  | nil => cases henv
  | cons e rest ih =>
    rw [bindingResponses]
    rcases List.mem_cons.1 henv with rfl | hrest
    · exact ⟨orders 0, by simp [hbinding]⟩
    · obtain ⟨order, hmem⟩ := @ih (fun n => orders (n + 1)) hrest
      exact ⟨order, by split <;> simp [hmem]⟩

/-- What a reading of the responses sees that the range orders do not change, it sees of the
bindings in the slots, each reported in the order of the list. -/
theorem map_bindingResponses {β : Type} (g : BindingResponse → β) {environments : List String}
    (hg : ∀ environment ∈ environments, ∀ binding,
      s.bindingIn (kind, orgName, componentName, environment) = some binding → ∀ order,
        g (bindingResponse order kind projectName binding) =
          g (bindingResponse .listed kind projectName binding)) :
    (bindingResponses orders s kind orgName projectName componentName environments).map g =
      environments.filterMap fun environment =>
        (s.bindingIn (kind, orgName, componentName, environment)).map fun binding =>
          g (bindingResponse .listed kind projectName binding) := by
  induction environments generalizing orders with
  | nil => rfl
  | cons environment rest ih =>
    have ih' := @ih (fun n => orders (n + 1)) fun e he => hg e (List.mem_cons_of_mem _ he)
    rw [bindingResponses, List.filterMap_cons]
    cases hbinding : s.bindingIn (kind, orgName, componentName, environment) with
    | none => exact ih'
    | some binding =>
      rw [List.map_cons, ih', hg environment (.head _) binding hbinding]
      rfl

/-- When every binding in the slots asked for has a workload that names at most one image, the
responses do not depend on the range orders: they are the bindings in the slots, each reported with
its one image. -/
theorem bindingResponses_of_oneImage {environments : List String}
    (hone : ∀ environment ∈ environments, ∀ binding,
      s.bindingIn (kind, orgName, componentName, environment) = some binding →
        binding.spec.workloadSpec.OneImage) :
    bindingResponses orders s kind orgName projectName componentName environments =
      environments.filterMap fun environment =>
        (s.bindingIn (kind, orgName, componentName, environment)).map
          (bindingResponse .listed kind projectName) := by
  rw [← List.map_id (bindingResponses orders s kind orgName projectName componentName environments),
    map_bindingResponses id fun e he b hb order => by
      simp only [id, bindingResponse,
        extractImageFromWorkloadSpec_of_oneImage (hone e he b hb) order .listed]]
  rfl

end Responses

end Api
end OpenChoreo
