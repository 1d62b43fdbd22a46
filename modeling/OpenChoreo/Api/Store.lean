import Mathlib.Data.List.Nodup
import OpenChoreo.Api.BuildConfig

/-!
# The control plane as the component service sees it

`component_service.go` reads and writes custom resources through a Kubernetes client. This module
models what it reaches: projects, deployment pipelines, components, the three kinds of environment
binding (Service, WebApplication and ScheduledTask bindings), workloads, and the type-specific
resources (Services, WebApplications and ScheduledTasks).

Each kind is an `Objects`: a list that holds at most one object under each key, as the API server
keeps it. The server's `Create` fails with `AlreadyExists` when the key is taken and its `Update`
with `NotFound` when it is free; these are `Objects.create` and `Objects.update`, and the distinct
keys are a field of the structure, so no write can break them.

Errors are Go errors reduced to their text and to what their chain of `%w` wrappings ends in: a
sentinel of `services/errors.go` or a status of the API server. That is all `errors.Is` and
`client.IgnoreNotFound` look at.

Transient faults of the API server (timeouts, conflicts on a stale resource version) are left out:
every read answers from the store and every write fails only as its key dictates.
-/

namespace OpenChoreo
namespace Api

/-! ## Errors -/

/-- The sentinel errors of `services/errors.go` that the component service and its handlers use. -/
inductive Sentinel
  | projectNotFound
  | componentAlreadyExists
  | componentNotFound
  | bindingNotFound
  | deploymentPipelineNotFound
  | invalidPromotionPath
  | releaseBindingNotFound
  deriving DecidableEq, Repr

/-- The texts `errors.New` gives the sentinels. -/
def Sentinel.text : Sentinel → String
  | .projectNotFound => "project not found"
  | .componentAlreadyExists => "component already exists"
  | .componentNotFound => "component not found"
  | .bindingNotFound => "binding not found"
  | .deploymentPipelineNotFound => "deployment pipeline not found"
  | .invalidPromotionPath => "invalid promotion path"
  | .releaseBindingNotFound => "release binding not found"

/-- What a chain of `%w` wrappings ends in: a sentinel of the service, the API server's `NotFound` or
`AlreadyExists` status, or an error that is none of these. -/
inductive Cause
  | sentinel (s : Sentinel)
  | notFound
  | alreadyExists
  | other
  deriving DecidableEq, Repr

/-- A Go `error`: its text and what its chain ends in. -/
structure GoError where
  text : String
  cause : Cause
  deriving DecidableEq, Repr

namespace GoError

/-- A sentinel, returned as it is. -/
def ofSentinel (s : Sentinel) : GoError := ⟨s.text, .sentinel s⟩

/-- `fmt.Errorf(context + "%w", err)`: the text grows and the chain keeps its end. -/
def wrap (context : String) (err : GoError) : GoError := ⟨context ++ err.text, err.cause⟩

/-- An error without a chain: `errors.New`, or `fmt.Errorf` with no `%w`. -/
def plain (text : String) : GoError := ⟨text, .other⟩

/-- The API server's `NotFound` status. The server's text also names the resource; the service only
passes it on, and the model keeps the reason alone. -/
def notFound : GoError := ⟨"not found", .notFound⟩

/-- The API server's `AlreadyExists` status. -/
def alreadyExists : GoError := ⟨"already exists", .alreadyExists⟩

/-- `errors.Is(err, s)`. -/
def isSentinel (err : GoError) (s : Sentinel) : Bool := err.cause == .sentinel s

@[simp] theorem wrap_cause (context : String) (err : GoError) : (err.wrap context).cause = err.cause :=
  rfl

@[simp] theorem isSentinel_wrap (context : String) (err : GoError) (s : Sentinel) :
    (err.wrap context).isSentinel s = err.isSentinel s := rfl

@[simp] theorem isSentinel_ofSentinel (s s' : Sentinel) : (ofSentinel s).isSentinel s' = (s == s') := by
  by_cases h : s = s' <;> simp [isSentinel, ofSentinel, h]

@[simp] theorem isSentinel_plain (text : String) (s : Sentinel) : (plain text).isSentinel s = false :=
  rfl

@[simp] theorem isSentinel_notFound (s : Sentinel) : notFound.isSentinel s = false := rfl

@[simp] theorem isSentinel_alreadyExists (s : Sentinel) : alreadyExists.isSentinel s = false := rfl

end GoError

/-! ## Objects of one kind -/

/-- The objects of one kind in the API server, in the order a `List` call returns them, at most one
under each key. -/
structure Objects {α κ : Type} (key : α → κ) where
  items : List α
  keys_nodup : (items.map key).Nodup

namespace Objects

variable {α κ : Type} {key : α → κ}

theorem eq_of_key_eq (s : Objects key) {x y : α} (hx : x ∈ s.items) (hy : y ∈ s.items)
    (h : key x = key y) : x = y :=
  List.inj_on_of_nodup_map s.keys_nodup hx hy h

@[ext] theorem ext {s t : Objects key} (h : s.items = t.items) : s = t := by
  cases s; cases t; cases h; rfl

variable [DecidableEq κ]

/-- `Get`: the object under a key. -/
def get? (s : Objects key) (k : κ) : Option α := s.items.find? (key · == k)

/-- `Create`: `AlreadyExists` when the key is taken; otherwise the object joins the list. -/
def create (s : Objects key) (x : α) : Option (Objects key) :=
  if h : key x ∈ s.items.map key then none
  else some ⟨s.items ++ [x], by
    rw [List.map_append, List.map_singleton]
    exact s.keys_nodup.append (List.nodup_singleton _) (List.disjoint_singleton.2 h)⟩

/-- The object under `x`'s key replaced by `x`, in its place. -/
def replace (s : Objects key) (x : α) : Objects key :=
  ⟨s.items.map fun y => if key y = key x then x else y, by
    rw [List.map_map]
    convert s.keys_nodup using 1
    exact List.map_congr_left fun y _ => by by_cases h : key y = key x <;> simp [h]⟩

/-- `Update`: `NotFound` when no object has the key. -/
def update (s : Objects key) (x : α) : Option (Objects key) :=
  if key x ∈ s.items.map key then some (s.replace x) else none

theorem get?_eq_some {s : Objects key} {k : κ} {x : α} :
    s.get? k = some x ↔ x ∈ s.items ∧ key x = k := by
  constructor
  · intro h
    exact ⟨List.mem_of_find?_eq_some h, by simpa using List.find?_some h⟩
  · rintro ⟨hx, rfl⟩
    obtain ⟨y, hy⟩ := Option.isSome_iff_exists.1
      (List.find?_isSome.2 ⟨x, hx, by simp⟩ : (s.items.find? (key · == key x)).isSome)
    have hky : key y = key x := by simpa using List.find?_some hy
    rw [get?, hy, s.eq_of_key_eq (List.mem_of_find?_eq_some hy) hx hky]

theorem get?_eq_none {s : Objects key} {k : κ} : s.get? k = none ↔ k ∉ s.items.map key := by
  simp [get?, List.find?_eq_none]

theorem create_eq_some {s s' : Objects key} {x : α} :
    s.create x = some s' ↔ key x ∉ s.items.map key ∧ s'.items = s.items ++ [x] := by
  unfold create
  split_ifs with h
  · simp [h]
  · simp only [Option.some.injEq, h, not_false_eq_true, true_and]
    exact ⟨fun h' => h' ▸ rfl, fun h' => by cases s'; cases h'; rfl⟩

theorem create_eq_none {s : Objects key} {x : α} : s.create x = none ↔ key x ∈ s.items.map key := by
  unfold create
  split_ifs with h <;> simp [h]

@[simp] theorem replace_items (s : Objects key) (x : α) :
    (s.replace x).items = s.items.map fun y => if key y = key x then x else y := rfl

theorem update_eq_some {s s' : Objects key} {x : α} :
    s.update x = some s' ↔ key x ∈ s.items.map key ∧ s' = s.replace x := by
  unfold update
  split_ifs with h <;> simp [h, eq_comm]

theorem mem_replace {s : Objects key} {x y : α} (hx : key x ∈ s.items.map key) :
    y ∈ (s.replace x).items ↔ y = x ∨ (y ∈ s.items ∧ key y ≠ key x) := by
  obtain ⟨z, hz, hzx⟩ := List.mem_map.1 hx
  simp only [replace_items, List.mem_map]
  constructor
  · rintro ⟨w, hw, rfl⟩
    by_cases h : key w = key x
    · simp [h]
    · simp [h, hw]
  · rintro (rfl | ⟨hy, hne⟩)
    · exact ⟨z, hz, by simp [hzx]⟩
    · exact ⟨y, hy, by simp [hne]⟩

/-- Replacing an object by itself changes nothing. -/
theorem replace_self {s : Objects key} {x : α} (hx : x ∈ s.items) : s.replace x = s := by
  ext1
  conv_rhs => rw [← List.map_id s.items]
  exact List.map_congr_left fun y hy => by
    by_cases h : key y = key x
    · simp [h, s.eq_of_key_eq hy hx h]
    · simp [h]

theorem map_replace {β : Type} (s : Objects key) (x : α) (f : α → β)
    (hf : ∀ y ∈ s.items, key y = key x → f y = f x) :
    (s.replace x).items.map f = s.items.map f := by
  simp only [replace_items, List.map_map]
  exact List.map_congr_left fun y hy => by
    by_cases h : key y = key x <;> simp [h, hf y hy]

end Objects

/-! ## What the service stores -/

/-- The owner a binding, a workload or a type-specific resource names (`ServiceOwner`,
`WorkloadOwner` and the like). -/
structure Owner where
  projectName : String
  componentName : String
  deriving DecidableEq, Repr

/-- What the service reads of a Project: `ProjectService.GetProject`'s result, whose source is not
among the sources. Only the deployment pipeline it names is read here. -/
structure Project where
  name : String
  ns : String
  deploymentPipeline : String
  deriving DecidableEq, Repr

/-- A promotion path of a DeploymentPipeline: a source environment and the environments it may be
promoted to (the names of its `TargetEnvironmentRefs`). -/
structure PromotionPath where
  sourceEnvironmentRef : String
  targetEnvironmentRefs : List String
  deriving DecidableEq, Repr

/-- A DeploymentPipeline: its promotion paths. -/
structure DeploymentPipeline where
  name : String
  ns : String
  promotionPaths : List PromotionPath
  deriving DecidableEq, Repr

/-- The binding kinds, one per component type that has bindings. -/
inductive BindingKind
  | service
  | webApplication
  | scheduledTask
  deriving DecidableEq, Repr

/-- The `DefinedComponentType` of each binding kind. -/
def BindingKind.componentType : BindingKind → String
  | .service => "Service"
  | .webApplication => "WebApplication"
  | .scheduledTask => "ScheduledTask"

/-- The case the service's switches on a component type take. -/
def BindingKind.ofComponentType (componentType : String) : Option BindingKind :=
  if componentType = "Service" then some .service
  else if componentType = "WebApplication" then some .webApplication
  else if componentType = "ScheduledTask" then some .scheduledTask
  else none

@[simp] theorem BindingKind.ofComponentType_componentType (kind : BindingKind) :
    ofComponentType kind.componentType = some kind := by
  cases kind <;> rfl

theorem BindingKind.componentType_of_ofComponentType {componentType : String} {kind : BindingKind}
    (h : ofComponentType componentType = some kind) : kind.componentType = componentType := by
  unfold ofComponentType at h
  split_ifs at h <;> cases h <;> simp_all [BindingKind.componentType]

/-- A container of a workload template; only its image is read. -/
structure Container where
  name : String
  image : String
  deriving DecidableEq, Repr

/-- `WorkloadTemplateSpec`, of which the service reads the containers. -/
structure WorkloadTemplate where
  containers : List Container
  deriving DecidableEq, Repr

/-- The spec the three binding kinds share. `extra` is the field that differs between them and is
only copied: the Service binding's `APIs`, the other two kinds' `Overrides`. -/
structure BindingSpec where
  owner : Owner
  environment : String
  className : String
  workloadSpec : WorkloadTemplate
  extra : Json
  releaseState : String

/-- A status condition of a binding (`metav1.Condition`, without its times). -/
structure BindingCondition where
  type : String
  status : String
  reason : String
  message : String
  deriving DecidableEq, Repr

/-- A Service, WebApplication or ScheduledTask binding. -/
structure Binding where
  kind : BindingKind
  name : String
  ns : String
  spec : BindingSpec
  conditions : List BindingCondition

/-- A binding's object key: its kind, namespace and name. -/
def Binding.key (b : Binding) : BindingKind × String × String := (b.kind, b.ns, b.name)

/-- The slot a binding fills: its kind, namespace, owner component and environment, the four things
the `get*BindingCR` lookups match on. -/
def Binding.slot (b : Binding) : BindingKind × String × String × String :=
  (b.kind, b.ns, b.spec.owner.componentName, b.spec.environment)

/-- `WorkloadSpec`: its owner and its template. -/
structure WorkloadSpec where
  owner : Owner
  template : WorkloadTemplate
  deriving DecidableEq, Repr

/-- A Workload. -/
structure Workload where
  name : String
  ns : String
  spec : WorkloadSpec
  deriving DecidableEq, Repr

/-- A workload's object key. -/
def Workload.key (w : Workload) : String × String := (w.ns, w.name)

/-- A Service, WebApplication or ScheduledTask resource, of the kind its component type names. -/
structure TypeResource where
  kind : BindingKind
  name : String
  ns : String
  owner : Owner
  workloadName : String
  className : String
  deriving DecidableEq, Repr

/-- A type-specific resource's object key. -/
def TypeResource.key (r : TypeResource) : BindingKind × String × String := (r.kind, r.ns, r.name)

/-- A project's object key. -/
def Project.key (p : Project) : String × String := (p.ns, p.name)

/-- A deployment pipeline's object key. -/
def DeploymentPipeline.key (p : DeploymentPipeline) : String × String := (p.ns, p.name)

/-- A component's object key. -/
def Component.key (c : Component) : String × String := (c.ns, c.name)

/-- The objects of the control plane that the component service reads and writes. -/
structure Store where
  projects : Objects Project.key
  pipelines : Objects DeploymentPipeline.key
  components : Objects Component.key
  bindings : Objects Binding.key
  workloads : Objects Workload.key
  typeResources : Objects TypeResource.key

/-! ## A sample control plane

Organization `acme` has two projects on its default pipeline `default`, which promotes from
development to staging and from staging to production. Project `shop` has the Service components
`cart` and `checkout`, each with a binding in development; project `billing` has the Service
component `invoices`.
-/

/-- The default pipeline of `acme`. -/
def samplePipeline : DeploymentPipeline :=
  { name := "default", ns := "acme"
    promotionPaths := [⟨"development", ["staging"]⟩, ⟨"staging", ["production"]⟩] }

/-- A Service component of `acme`, created at 2023-01-01 00:00:00 UTC. -/
def sampleComponent (projectName name : String) : Component :=
  { name := name, ns := "acme", displayName := name, description := "", projectName := projectName
    type := "Service", workflow := none, creationTimestamp := 1672531200000000000 }

/-- The development binding of a Service component of `shop`, ready and active. -/
def sampleBinding (componentName : String) : Binding :=
  { kind := .service, name := componentName ++ "-development", ns := "acme"
    spec := { owner := ⟨"shop", componentName⟩, environment := "development", className := "default"
              workloadSpec := ⟨[⟨"main", componentName ++ ":v1"⟩]⟩, extra := .obj []
              releaseState := "Active" }
    conditions := [⟨"Ready", "True", "Ready", ""⟩] }

/-- The sample control plane. -/
def sampleStore : Store where
  projects := ⟨[⟨"shop", "acme", ""⟩, ⟨"billing", "acme", ""⟩], by decide⟩
  pipelines := ⟨[samplePipeline], by decide⟩
  components := ⟨[sampleComponent "shop" "cart", sampleComponent "shop" "checkout",
    sampleComponent "billing" "invoices"], by decide⟩
  bindings := ⟨[sampleBinding "cart", sampleBinding "checkout"], by decide⟩
  workloads := ⟨[], List.nodup_nil⟩
  typeResources := ⟨[], List.nodup_nil⟩

end Api
end OpenChoreo
