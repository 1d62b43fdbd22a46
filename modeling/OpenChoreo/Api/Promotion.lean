import OpenChoreo.Api.Bindings

/-!
# Promoting a component and setting a binding's release state

`PromoteComponent` copies a component's binding from one environment of its deployment pipeline to
another. `validatePromotionPath` checks the step against the pipeline of the project, `GetComponent`
checks the component and gives its type, and `createOrUpdateServiceBinding` (or its WebApplication
or ScheduledTask sibling) writes the target binding: an `Update` of the binding found in the target
slot, or a `Create` of one named `<component>-<environment>`. The target gets the source's class,
workload and APIs or overrides, under the promoting component and project, with its release state
unset. The reply lists the component's bindings in every environment of the pipeline, in the order
the call's range over the pipeline's environments takes.

`UpdateComponentBinding` sets the release state of a binding. It checks the project and the
component, then looks the binding up by the kind of the component's type and by its name in the
organization: it never reads the binding's owner.

`promotedStore` states the promotion's write through the lookups and `createOrUpdateBinding_eq_ok`
connects it to the code; `updateComponentBinding_eq_ok` says what a release-state update writes.
The later modules reason about these alone.
-/

namespace OpenChoreo
namespace Api

/-! ## The promotion request and the target binding -/

/-- `PromoteComponentPayload`: the request body and the names on the request's path. -/
structure PromoteComponentPayload extends PromoteComponentRequest where
  componentName : String
  projectName : String
  orgName : String
  deriving DecidableEq, Repr

namespace PromoteComponentPayload

/-- The slot a promotion copies from. -/
def sourceSlot (req : PromoteComponentPayload) (kind : BindingKind) : Slot :=
  (kind, req.orgName, req.componentName, req.sourceEnvironment)

/-- The slot a promotion writes. -/
def targetSlot (req : PromoteComponentPayload) (kind : BindingKind) : Slot :=
  (kind, req.orgName, req.componentName, req.targetEnvironment)

end PromoteComponentPayload

/-- The name of a new target binding: `fmt.Sprintf("%s-%s", req.ComponentName,
req.TargetEnvironment)`. -/
def targetBindingName (req : PromoteComponentPayload) : String :=
  let componentName := req.componentName
  let targetEnvironment := req.targetEnvironment
  s!"{componentName}-{targetEnvironment}"

/-- The target binding's spec: the source's class, workload and APIs or overrides, under the
promoting component and project and the target environment. The release state is not set. -/
def targetBindingSpec (req : PromoteComponentPayload) (source : BindingSpec) : BindingSpec :=
  { owner := ⟨req.projectName, req.componentName⟩, environment := req.targetEnvironment
    className := source.className, workloadSpec := source.workloadSpec, extra := source.extra
    releaseState := "" }

/-- `createOrUpdateServiceBinding`, `createOrUpdateWebApplicationBinding` and
`createOrUpdateScheduledTaskBinding`, which differ in the kind they write and the words of their
messages. -/
def createOrUpdateBinding (kind : BindingKind) (label : String) (s : Store)
    (req : PromoteComponentPayload) : Except GoError Store := do
  let source ← (getBindingCR kind s req.orgName req.componentName req.sourceEnvironment).mapError
    (GoError.wrap s!"failed to get source {label} binding: ")
  let existing ← match getBindingCR kind s req.orgName req.componentName req.targetEnvironment with
    | .ok binding => pure (some binding)
    | .error err =>
      if err.isSentinel .bindingNotFound then pure none
      else throw (err.wrap "failed to check existing target binding: ")
  let spec := targetBindingSpec req source.spec
  match existing with
  | none =>
    match s.bindings.create ⟨kind, targetBindingName req, req.orgName, spec, []⟩ with
    | some bindings => pure { s with bindings }
    | none => throw (GoError.alreadyExists.wrap s!"failed to create target {label} binding: ")
  | some binding =>
    match s.bindings.update { binding with spec } with
    | some bindings => pure { s with bindings }
    | none => throw (GoError.notFound.wrap s!"failed to update target {label} binding: ")

/-- `createOrUpdateServiceBinding`. -/
def createOrUpdateServiceBinding : Store → PromoteComponentPayload → Except GoError Store :=
  createOrUpdateBinding .service "service"

/-- `createOrUpdateWebApplicationBinding`. -/
def createOrUpdateWebApplicationBinding : Store → PromoteComponentPayload → Except GoError Store :=
  createOrUpdateBinding .webApplication "web application"

/-- `createOrUpdateScheduledTaskBinding`. -/
def createOrUpdateScheduledTaskBinding : Store → PromoteComponentPayload → Except GoError Store :=
  createOrUpdateBinding .scheduledTask "scheduled task"

/-- `createOrUpdateTargetBinding`. -/
def createOrUpdateTargetBinding (s : Store) (req : PromoteComponentPayload) (componentType : String) :
    Except GoError Store :=
  match BindingKind.ofComponentType componentType with
  | some .service => createOrUpdateServiceBinding s req
  | some .webApplication => createOrUpdateWebApplicationBinding s req
  | some .scheduledTask => createOrUpdateScheduledTaskBinding s req
  | none => throw (.plain s!"unsupported component type: {componentType}")

/-- The checks and the write of `PromoteComponent`. -/
def promoteTargetBinding (defaultPipeline : String) (s : Store) (req : PromoteComponentPayload) :
    Except GoError Store := do
  validatePromotionPath defaultPipeline s req.orgName req.projectName req.sourceEnvironment
    req.targetEnvironment
  let component ← getComponent s req.orgName req.projectName req.componentName
  (createOrUpdateTargetBinding s req component.type).mapError
    (GoError.wrap "failed to create target binding: ")

/-- `PromoteComponent`: the reply, and the store after the call. A failure of the final read comes
after the write, which stays. The range over the pipeline's environments takes `orders 0`, the read
of the bindings the rest of the stream. -/
def promoteComponent (orders : Nat → RangeOrder) (defaultPipeline : String) (s : Store)
    (req : PromoteComponentPayload) : Except GoError (List BindingResponse) × Store :=
  match promoteTargetBinding defaultPipeline s req with
  | .error err => (.error err, s)
  | .ok s' =>
    let allEnvironments :=
      match getEnvironmentsFromDeploymentPipeline (orders 0) defaultPipeline s' req.orgName
          req.projectName with
      | .ok environments => environments
      | .error _ => [req.sourceEnvironment, req.targetEnvironment]
    ((getComponentBindings (fun n => orders (n + 1)) defaultPipeline s' req.orgName req.projectName
      req.componentName allEnvironments).mapError
        (GoError.wrap "failed to get component bindings after promotion: "), s')

/-! ## Setting a binding's release state -/

/-- The reply of `UpdateComponentBinding`: the updated binding under the component of the request,
with an empty status. -/
def releaseStateResponse (kind : BindingKind) (orgName projectName componentName : String)
    (binding : Binding) : BindingResponse :=
  { name := binding.name, type := kind.componentType, componentName := componentName
    projectName := projectName, orgName := orgName, environment := binding.spec.environment
    bindingStatus := ⟨"", "", ""⟩, image := "", releaseState := binding.spec.releaseState }

/-- A case of `UpdateComponentBinding`'s switch: `Get` the binding of the kind by its name, set its
release state, `Update` it, and report it. -/
def updateBindingReleaseState (kind : BindingKind) (label : String) (s : Store)
    (orgName projectName componentName bindingName : String) (req : UpdateBindingRequest) :
    Except GoError (BindingResponse × Store) :=
  match s.bindings.get? (kind, orgName, bindingName) with
  | none => throw (.ofSentinel .bindingNotFound)
  | some binding =>
    let binding := { binding with spec := { binding.spec with releaseState := req.releaseState } }
    match s.bindings.update binding with
    | none => throw (GoError.notFound.wrap s!"failed to update {label} binding: ")
    | some bindings =>
      pure (releaseStateResponse kind orgName projectName componentName binding, { s with bindings })

/-- `UpdateComponentBinding`. Every failure comes before the write. -/
def updateComponentBinding (s : Store) (orgName projectName componentName bindingName : String)
    (req : UpdateBindingRequest) : Except GoError (BindingResponse × Store) := do
  verifyProject s orgName projectName
  if !componentExists s orgName projectName componentName then
    throw (.ofSentinel .componentNotFound)
  let component ← (getComponent s orgName projectName componentName).mapError
    (GoError.wrap "failed to get component: ")
  let componentType := component.type
  match BindingKind.ofComponentType componentType with
  | some .service =>
    updateBindingReleaseState .service "service" s orgName projectName componentName bindingName req
  | some .webApplication =>
    updateBindingReleaseState .webApplication "web application" s orgName projectName componentName
      bindingName req
  | some .scheduledTask =>
    updateBindingReleaseState .scheduledTask "scheduled task" s orgName projectName componentName
      bindingName req
  | none => throw (.plain s!"unsupported component type: {componentType}")

/-! ## The writes, stated through the lookups -/

/-- The binding a promotion leaves in the target slot: the one found there with the new spec, or a
new one named after the component and the environment. -/
def promotedBinding (kind : BindingKind) (req : PromoteComponentPayload) (source : Binding) :
    Option Binding → Binding
  | some existing => { existing with spec := targetBindingSpec req source.spec }
  | none => ⟨kind, targetBindingName req, req.orgName, targetBindingSpec req source.spec, []⟩

/-- The store after a successful target write: nothing without a source binding; otherwise the
binding found in the target slot replaced, or a new binding created when the slot is empty. -/
def promotedStore (kind : BindingKind) (req : PromoteComponentPayload) (s : Store) : Option Store :=
  match s.bindingIn (req.sourceSlot kind) with
  | none => none
  | some source =>
    match s.bindingIn (req.targetSlot kind) with
    | some existing =>
      some { s with bindings := s.bindings.replace (promotedBinding kind req source (some existing)) }
    | none =>
      (s.bindings.create (promotedBinding kind req source none)).map fun bindings => { s with bindings }

/-- A binding with a new release state. -/
def Binding.withReleaseState (binding : Binding) (releaseState : String) : Binding :=
  { binding with spec := { binding.spec with releaseState := releaseState } }

section Writes

variable {kind : BindingKind} {label : String} {s s' : Store} {req : PromoteComponentPayload}

@[simp] theorem promotedBinding_slot (source : Binding) {existing : Option Binding}
    (hexisting : ∀ e, existing = some e → e.slot = req.targetSlot kind) :
    (promotedBinding kind req source existing).slot = req.targetSlot kind := by
  cases existing with
  | none => rfl
  | some e =>
    have := hexisting e rfl
    simp only [Binding.slot, PromoteComponentPayload.targetSlot, Prod.mk.injEq] at this ⊢
    exact ⟨this.1, this.2.1, rfl, rfl⟩

/-- `createOrUpdateBinding` as a case analysis of its two lookups. The `Update` of a binding just
found cannot fail. -/
theorem createOrUpdateBinding_eq :
    createOrUpdateBinding kind label s req =
      match s.bindingIn (req.sourceSlot kind), s.bindingIn (req.targetSlot kind) with
      | none, _ =>
        .error ((GoError.ofSentinel .bindingNotFound).wrap s!"failed to get source {label} binding: ")
      | some source, some existing =>
        .ok { s with bindings := s.bindings.replace (promotedBinding kind req source (some existing)) }
      | some source, none =>
        match s.bindings.create (promotedBinding kind req source none) with
        | some bindings => .ok { s with bindings }
        | none => .error (GoError.alreadyExists.wrap s!"failed to create target {label} binding: ") := by
  unfold createOrUpdateBinding
  simp only [getBindingCR_eq, PromoteComponentPayload.sourceSlot,
    PromoteComponentPayload.targetSlot]
  cases s.bindingIn (kind, req.orgName, req.componentName, req.sourceEnvironment) with
  | none => rfl
  | some source =>
    cases htgt : s.bindingIn (kind, req.orgName, req.componentName, req.targetEnvironment) with
    | none =>
      simp only [bind, Except.bind, Except.mapError, pure, Except.pure,
        GoError.isSentinel_ofSentinel, beq_self_eq_true, if_true, promotedBinding]
      rfl
    | some existing =>
      have hupdate : s.bindings.update { existing with spec := targetBindingSpec req source.spec } =
          some (s.bindings.replace { existing with spec := targetBindingSpec req source.spec }) :=
        Objects.update_eq_some.2 ⟨List.mem_map.2 ⟨existing, (findSlot_eq_some_mem htgt).1, rfl⟩, rfl⟩
      simp only [bind, Except.bind, Except.mapError, pure, Except.pure, hupdate, promotedBinding]

/-- `createOrUpdateBinding` succeeds exactly as `promotedStore` says, whatever its messages. -/
theorem createOrUpdateBinding_eq_ok :
    createOrUpdateBinding kind label s req = .ok s' ↔ promotedStore kind req s = some s' := by
  rw [createOrUpdateBinding_eq, promotedStore]
  rcases s.bindingIn (req.sourceSlot kind) with _ | source <;>
    rcases s.bindingIn (req.targetSlot kind) with _ | existing <;> simp
  cases s.bindings.create (promotedBinding kind req source none) <;> simp

/-- A failed `createOrUpdateBinding` writes nothing, and its error's chain ends in
`ErrBindingNotFound` (no source binding) or in the API server's `AlreadyExists` (the new binding's
name is taken). -/
theorem createOrUpdateBinding_error {err : GoError}
    (h : createOrUpdateBinding kind label s req = .error err) :
    promotedStore kind req s = none ∧
      (s.bindingIn (req.sourceSlot kind) = none ∧ err.cause = .sentinel .bindingNotFound ∨
        err.cause = .alreadyExists) := by
  rw [createOrUpdateBinding_eq] at h
  rw [promotedStore]
  revert h
  rcases s.bindingIn (req.sourceSlot kind) with _ | source
  · rintro ⟨⟩
    simp [GoError.ofSentinel]
  · rcases s.bindingIn (req.targetSlot kind) with _ | existing
    · intro h
      cases hc : s.bindings.create (promotedBinding kind req source none) <;>
        simp only [hc, Except.error.injEq, reduceCtorEq] at h
      subst h
      simp [hc, GoError.alreadyExists]
    · rintro ⟨⟩

/-- For a component type with bindings, `createOrUpdateTargetBinding` is the write of its kind. -/
theorem createOrUpdateTargetBinding_eq_ok {componentType : String}
    (hkind : BindingKind.ofComponentType componentType = some kind) :
    createOrUpdateTargetBinding s req componentType = .ok s' ↔ promotedStore kind req s = some s' := by
  cases kind <;>
    simp only [createOrUpdateTargetBinding, hkind, createOrUpdateServiceBinding,
      createOrUpdateWebApplicationBinding, createOrUpdateScheduledTaskBinding] <;>
    exact createOrUpdateBinding_eq_ok

/-- For a component type with bindings, a missing source binding fails the write with
`ErrBindingNotFound` at the end of the error's chain. -/
theorem createOrUpdateTargetBinding_source_missing {componentType : String}
    (hkind : BindingKind.ofComponentType componentType = some kind)
    (hsource : s.bindingIn (req.sourceSlot kind) = none) :
    ∃ err, createOrUpdateTargetBinding s req componentType = .error err ∧
      err.cause = .sentinel .bindingNotFound := by
  cases kind <;>
    simp only [createOrUpdateTargetBinding, hkind, createOrUpdateServiceBinding,
      createOrUpdateWebApplicationBinding, createOrUpdateScheduledTaskBinding,
      createOrUpdateBinding_eq, hsource] <;>
    exact ⟨_, rfl, rfl⟩

theorem ComponentIn.unique {orgName projectName componentName : String} {c c' : Component}
    (h : ComponentIn s orgName projectName componentName c)
    (h' : ComponentIn s orgName projectName componentName c') : c = c' :=
  Option.some.inj (h.2.1.symm.trans h'.2.1)

/-- Past the path check and the component check, a promotion is the target write. -/
theorem promoteTargetBinding_eq_of_checks {defaultPipeline : String} {component : Component}
    (hpath : validatePromotionPath defaultPipeline s req.orgName req.projectName
      req.sourceEnvironment req.targetEnvironment = .ok ())
    (hcomponent : ComponentIn s req.orgName req.projectName req.componentName component) :
    promoteTargetBinding defaultPipeline s req =
      (createOrUpdateTargetBinding s req component.type).mapError
        (GoError.wrap "failed to create target binding: ") := by
  have := getComponent_eq_ok.2 ⟨component, hcomponent, rfl⟩
  simp only [promoteTargetBinding, hpath, this, bind, Except.bind]
  rfl

/-- A promotion goes through exactly when the pipeline of the project allows the step, the
component is in the project with a type that has bindings, and the target write succeeds. -/
theorem promoteTargetBinding_eq_ok {defaultPipeline : String} :
    promoteTargetBinding defaultPipeline s req = .ok s' ↔
      (∃ pipeline, PipelineOf defaultPipeline s req.orgName req.projectName pipeline ∧
        allowsPromotion pipeline req.sourceEnvironment req.targetEnvironment = true) ∧
      ∃ component kind, ComponentIn s req.orgName req.projectName req.componentName component ∧
        BindingKind.ofComponentType component.type = some kind ∧
        promotedStore kind req s = some s' := by
  rcases hpath : validatePromotionPath defaultPipeline s req.orgName req.projectName
    req.sourceEnvironment req.targetEnvironment with err | ⟨⟩
  · have : ¬∃ pipeline, PipelineOf defaultPipeline s req.orgName req.projectName pipeline ∧
        allowsPromotion pipeline req.sourceEnvironment req.targetEnvironment = true := by
      rw [← validatePromotionPath_eq_ok, hpath]; simp
    simp [promoteTargetBinding, hpath, bind, Except.bind, this]
  · simp only [validatePromotionPath_eq_ok.1 hpath, true_and]
    rcases hget : getComponent s req.orgName req.projectName req.componentName with err | response
    · have hnone : ∀ c, ¬ComponentIn s req.orgName req.projectName req.componentName c :=
        fun c hc => by rw [getComponent_eq_ok.2 ⟨c, hc, rfl⟩] at hget; cases hget
      simp [promoteTargetBinding, hpath, hget, bind, Except.bind, hnone]
    · obtain ⟨component, hcomponent, rfl⟩ := getComponent_eq_ok.1 hget
      rw [promoteTargetBinding_eq_of_checks hpath hcomponent]
      constructor
      · intro h
        cases hkind : BindingKind.ofComponentType component.type with
        | none =>
          simp [createOrUpdateTargetBinding, hkind, Except.mapError, throw, throwThe,
            MonadExceptOf.throw] at h
        | some kind =>
          refine ⟨component, kind, hcomponent, hkind, (createOrUpdateTargetBinding_eq_ok hkind).1 ?_⟩
          revert h
          cases createOrUpdateTargetBinding s req component.type <;> simp [Except.mapError]
      · rintro ⟨component', kind, hcomponent', hkind, hstore⟩
        obtain rfl := hcomponent.unique hcomponent'
        simp [(createOrUpdateTargetBinding_eq_ok hkind).2 hstore, Except.mapError]

/-- The store a promotion call leaves: the written one when the checks and the write go through,
whatever the final read gives, and the old one otherwise. -/
theorem promoteComponent_snd (orders : Nat → RangeOrder) (defaultPipeline : String) (s : Store)
    (req : PromoteComponentPayload) :
    (promoteComponent orders defaultPipeline s req).2 =
      match promoteTargetBinding defaultPipeline s req with
      | .ok s' => s'
      | .error _ => s := by
  cases h : promoteTargetBinding defaultPipeline s req <;> simp [promoteComponent, h]

/-! ### Release-state updates -/

/-- What a release-state update writes: the binding of the component type's kind and of the name,
with the new release state, reported under the component of the request. -/
theorem updateBindingReleaseState_eq {orgName projectName componentName bindingName : String}
    {req : UpdateBindingRequest} :
    updateBindingReleaseState kind label s orgName projectName componentName bindingName req =
      match s.bindings.get? (kind, orgName, bindingName) with
      | none => .error (.ofSentinel .bindingNotFound)
      | some binding =>
        .ok (releaseStateResponse kind orgName projectName componentName
              (binding.withReleaseState req.releaseState),
          { s with bindings := s.bindings.replace (binding.withReleaseState req.releaseState) }) := by
  unfold updateBindingReleaseState
  cases hget : s.bindings.get? (kind, orgName, bindingName) with
  | none => rfl
  | some binding =>
    obtain ⟨hmem, hkey⟩ := Objects.get?_eq_some.1 hget
    have hupdate : s.bindings.update (binding.withReleaseState req.releaseState) =
        some (s.bindings.replace (binding.withReleaseState req.releaseState)) :=
      Objects.update_eq_some.2 ⟨List.mem_map.2 ⟨binding, hmem, rfl⟩, rfl⟩
    simp only [Binding.withReleaseState] at hupdate
    simp only [hupdate, Binding.withReleaseState]
    rfl

/-- A release-state update goes through exactly when the project and the component are there, the
component's type has bindings, and a binding of that kind has the name in the organization; it
replaces that binding by one with the new release state. The binding's owner is never read. -/
theorem updateComponentBinding_eq_ok {orgName projectName componentName bindingName : String}
    {req : UpdateBindingRequest} {response : BindingResponse} :
    updateComponentBinding s orgName projectName componentName bindingName req = .ok (response, s') ↔
      ∃ component, ComponentIn s orgName projectName componentName component ∧
        ∃ kind, BindingKind.ofComponentType component.type = some kind ∧
        ∃ binding, s.bindings.get? (kind, orgName, bindingName) = some binding ∧
        response = releaseStateResponse kind orgName projectName componentName
          (binding.withReleaseState req.releaseState) ∧
        s' = { s with bindings := s.bindings.replace (binding.withReleaseState req.releaseState) } := by
  unfold updateComponentBinding
  rcases hv : verifyProject s orgName projectName with err | ⟨⟩
  · have hno : ¬∃ project, s.projects.get? (orgName, projectName) = some project := by
      rw [← verifyProject_eq_ok, hv]; simp
    simp only [bind, Except.bind, reduceCtorEq, false_iff, not_exists, not_and]
    exact fun c hc => absurd hc.1 hno
  · cases hget : getComponent s orgName projectName componentName with
    | error err =>
      have hnone : ∀ c, ¬ComponentIn s orgName projectName componentName c :=
        fun c hc => by rw [getComponent_eq_ok.2 ⟨c, hc, rfl⟩] at hget; cases hget
      simp [bind, Except.bind, hget, hnone, Except.mapError, throw, throwThe, MonadExceptOf.throw]
      split_ifs <;> simp [pure, Except.pure]
    | ok componentResponse =>
      obtain ⟨component, hcomponent, rfl⟩ := getComponent_eq_ok.1 hget
      have hexists : componentExists s orgName projectName componentName = true :=
        componentExists_iff.2 ⟨component, hcomponent.2⟩
      simp only [bind, Except.bind, hexists, Bool.not_true, Bool.false_eq_true, if_false, pure,
        Except.pure, hget, Except.mapError]
      have hunique : ∀ c, ComponentIn s orgName projectName componentName c ↔ c = component :=
        fun c => ⟨fun hc => hc.unique hcomponent, fun h => h ▸ hcomponent⟩
      simp only [hunique, exists_eq_left]
      cases hkind : BindingKind.ofComponentType (toComponentResponse component).type with
      | none =>
        have hkind' : BindingKind.ofComponentType component.type = none := hkind
        simp [hkind', throw, throwThe, MonadExceptOf.throw]
      | some kind =>
        have hkind' : BindingKind.ofComponentType component.type = some kind := hkind
        simp only [hkind', Option.some.injEq, exists_eq_left']
        cases kind <;>
          simp only [updateBindingReleaseState_eq] <;>
          cases s.bindings.get? _ <;> simp [eq_comm, and_comm]

/-- `UpdateComponentBinding` sets the release state of the binding of the kind of the component's
type that has the name in the organization, whichever component and environment it belongs to, and
reports it under the component of the request. -/
theorem updateComponentBinding_ignores_owner
    {orgName projectName componentName bindingName : String} {req : UpdateBindingRequest}
    {component : Component} {binding : Binding}
    (hcomponent : ComponentIn s orgName projectName componentName component)
    (hkind : BindingKind.ofComponentType component.type = some kind)
    (hbinding : binding ∈ s.bindings.items) (hkey : binding.key = (kind, orgName, bindingName)) :
    updateComponentBinding s orgName projectName componentName bindingName req =
      .ok (releaseStateResponse kind orgName projectName componentName
          (binding.withReleaseState req.releaseState),
        { s with bindings := s.bindings.replace (binding.withReleaseState req.releaseState) }) :=
  updateComponentBinding_eq_ok.2 ⟨component, hcomponent, kind, hkind, binding,
    Objects.get?_eq_some.2 ⟨hbinding, hkey⟩, rfl, rfl⟩

/-- A request for `cart` suspends the binding of `checkout`. -/
theorem updateComponentBinding_ignores_owner_checkout :
    ComponentIn sampleStore "acme" "shop" "cart" (sampleComponent "shop" "cart") ∧
      BindingKind.ofComponentType (sampleComponent "shop" "cart").type = some .service ∧
      sampleBinding "checkout" ∈ sampleStore.bindings.items ∧
      (sampleBinding "checkout").key = (.service, "acme", "checkout-development") ∧
      updateComponentBinding sampleStore "acme" "shop" "cart" "checkout-development" ⟨"Suspend"⟩ =
        let suspended := (sampleBinding "checkout").withReleaseState "Suspend"
        .ok (releaseStateResponse .service "acme" "shop" "cart" suspended,
          { sampleStore with bindings := sampleStore.bindings.replace suspended }) :=
  have hcomponent : ComponentIn sampleStore "acme" "shop" "cart" (sampleComponent "shop" "cart") :=
    ⟨⟨_, rfl⟩, rfl, rfl⟩
  have hbinding : sampleBinding "checkout" ∈ sampleStore.bindings.items := .tail _ (.head _)
  ⟨hcomponent, rfl, hbinding, rfl, updateComponentBinding_ignores_owner hcomponent rfl hbinding rfl⟩

end Writes

end Api
end OpenChoreo
