import OpenChoreo.Api.Promotion

/-!
# Workloads and type-specific resources

`CreateComponentWorkload` checks the project and the component, then writes the component's
workload: it looks for a workload in the namespace whose owner is the component, and replaces that
workload's whole spec by the request's (owner included), or creates `<component>-workload` with the
request's spec under the component as owner. It then makes sure the component has the resource of
its type (a Service, a WebApplication or a ScheduledTask, named `<component>-service`, `-webapp` or
`-task`, whose class is the default pipeline's name): `createServiceResource` and its siblings create
one unless a resource of the kind in the namespace already has the component and project as owner.

A failure of the second step comes after the first write, which stays.
-/

namespace OpenChoreo
namespace Api

/-- The test of `CreateComponentWorkload`'s loop over the workloads of the namespace. -/
def Workload.ownedBy (w : Workload) (orgName componentName : String) : Bool :=
  w.ns == orgName && w.spec.owner.componentName == componentName

/-- The checks and the workload write of `CreateComponentWorkload`: the workload's name, the
component's type, and the store after the write. -/
def writeWorkload (s : Store) (orgName projectName componentName : String)
    (workloadSpec : WorkloadSpec) : Except GoError (String × String × Store) := do
  verifyProject s orgName projectName
  let component ← match s.components.get? (orgName, componentName) with
    | none => throw (.ofSentinel .componentNotFound)
    | some component => pure component
  if component.projectName != projectName then throw (.ofSentinel .componentNotFound)
  match s.workloads.items.find? (·.ownedBy orgName componentName) with
  | some existing =>
    match s.workloads.update { existing with spec := workloadSpec } with
    | some workloads => pure (existing.name, component.type, { s with workloads })
    | none => throw (GoError.notFound.wrap "failed to update workload: ")
  | none =>
    let workloadName := componentName ++ "-workload"
    match s.workloads.create
        ⟨workloadName, orgName, { workloadSpec with owner := ⟨projectName, componentName⟩ }⟩ with
    | some workloads => pure (workloadName, component.type, { s with workloads })
    | none => throw (GoError.alreadyExists.wrap "failed to create workload: ")

/-- The test of the loops of `createServiceResource` and its siblings. -/
def TypeResource.ownedBy (r : TypeResource) (kind : BindingKind)
    (orgName projectName componentName : String) : Bool :=
  r.kind == kind && r.ns == orgName && r.owner.componentName == componentName &&
    r.owner.projectName == projectName

/-- `createServiceResource`, `createWebApplicationResource` and `createScheduledTaskResource`, which
differ in the kind they create, the suffix of its name and the words of their message. -/
def createTypeResource (kind : BindingKind) (nameSuffix label : String) (defaultPipeline : String)
    (s : Store) (orgName projectName componentName workloadName : String) : Except GoError Store :=
  if s.typeResources.items.any (·.ownedBy kind orgName projectName componentName) then pure s
  else
    match s.typeResources.create
        { kind := kind, name := componentName ++ nameSuffix, ns := orgName
          owner := ⟨projectName, componentName⟩, workloadName := workloadName
          className := defaultPipeline } with
    | some typeResources => pure { s with typeResources }
    | none => throw (GoError.alreadyExists.wrap s!"failed to create {label}: ")

/-- `createServiceResource`. -/
def createServiceResource : String → Store → String → String → String → String →
    Except GoError Store :=
  createTypeResource .service "-service" "service"

/-- `createWebApplicationResource`. -/
def createWebApplicationResource : String → Store → String → String → String → String →
    Except GoError Store :=
  createTypeResource .webApplication "-webapp" "web application"

/-- `createScheduledTaskResource`. -/
def createScheduledTaskResource : String → Store → String → String → String → String →
    Except GoError Store :=
  createTypeResource .scheduledTask "-task" "scheduled task"

/-- `createTypeSpecificResource`: other component types need no resource. -/
def createTypeSpecificResource (defaultPipeline : String) (s : Store)
    (orgName projectName componentName workloadName componentType : String) : Except GoError Store :=
  match BindingKind.ofComponentType componentType with
  | some .service =>
    createServiceResource defaultPipeline s orgName projectName componentName workloadName
  | some .webApplication =>
    createWebApplicationResource defaultPipeline s orgName projectName componentName workloadName
  | some .scheduledTask =>
    createScheduledTaskResource defaultPipeline s orgName projectName componentName workloadName
  | none => pure s

/-- `CreateComponentWorkload`: the reply (the request's spec) and the store after the call. -/
def createComponentWorkload (defaultPipeline : String) (s : Store)
    (orgName projectName componentName : String) (workloadSpec : WorkloadSpec) :
    Except GoError WorkloadSpec × Store :=
  match writeWorkload s orgName projectName componentName workloadSpec with
  | .error err => (.error err, s)
  | .ok (workloadName, componentType, s') =>
    match createTypeSpecificResource defaultPipeline s' orgName projectName componentName
        workloadName componentType with
    | .error err => (.error (err.wrap "failed to create type-specific resource: "), s')
    | .ok s'' => (.ok workloadSpec, s'')

/-! ## What the writes do -/

section Writes

variable {s s' : Store} {orgName projectName componentName : String}

/-- The two ways the workload write goes: the spec of the component's first workload replaced by
the request's, or a new workload under the component, when none of the namespace names it as
owner. Nothing but the workloads changes. -/
theorem writeWorkload_ok {workloadSpec : WorkloadSpec} {workloadName componentType : String}
    (h : writeWorkload s orgName projectName componentName workloadSpec =
      .ok (workloadName, componentType, s')) :
    (∃ component, ComponentIn s orgName projectName componentName component ∧
      componentType = component.type) ∧
    s' = { s with workloads := s'.workloads } ∧
    ((∃ existing ∈ s.workloads.items, existing.ownedBy orgName componentName = true ∧
        workloadName = existing.name ∧
        s'.workloads = s.workloads.replace { existing with spec := workloadSpec }) ∨
      ((∀ w ∈ s.workloads.items, w.ownedBy orgName componentName = false) ∧
        workloadName = componentName ++ "-workload" ∧
        s'.workloads.items = s.workloads.items ++
          [⟨workloadName, orgName, { workloadSpec with owner := ⟨projectName, componentName⟩ }⟩])) := by
  unfold writeWorkload at h
  rcases hv : verifyProject s orgName projectName with e | ⟨⟩ <;>
    simp only [hv, bind, Except.bind, reduceCtorEq] at h
  have hp := verifyProject_eq_ok.1 hv
  cases hc : s.components.get? (orgName, componentName) with
  | none => simp [hc, throw, throwThe, MonadExceptOf.throw] at h
  | some component =>
    simp only [hc, pure, Except.pure] at h
    by_cases hproj : component.projectName = projectName
    · simp only [hproj, bne_self_eq_false, Bool.false_eq_true, if_false] at h
      refine ⟨⟨component, ⟨hp, hc, hproj⟩, ?_⟩, ?_⟩
      · split at h
        · split at h <;> simp only [Except.ok.injEq, Prod.mk.injEq, reduceCtorEq] at h
          exact h.2.1.symm
        · split at h <;> simp only [Except.ok.injEq, Prod.mk.injEq, reduceCtorEq] at h
          exact h.2.1.symm
      · split at h
        · rename_i existing hfind
          split at h <;> simp only [Except.ok.injEq, Prod.mk.injEq, reduceCtorEq] at h
          rename_i workloads hupdate
          obtain ⟨rfl, -, rfl⟩ := h
          have hown := List.find?_some hfind
          exact ⟨rfl, .inl ⟨existing, List.mem_of_find?_eq_some hfind, hown, rfl,
            (Objects.update_eq_some.1 hupdate).2⟩⟩
        · rename_i hfind
          split at h <;> simp only [Except.ok.injEq, Prod.mk.injEq, reduceCtorEq] at h
          rename_i workloads hcreate
          obtain ⟨rfl, -, rfl⟩ := h
          refine ⟨rfl, .inr ⟨fun w hw => ?_, rfl, (Objects.create_eq_some.1 hcreate).2⟩⟩
          simpa using List.find?_eq_none.1 hfind w hw
    · simp [hproj, throw, throwThe, MonadExceptOf.throw] at h

/-- The kind, namespace and owner of a type resource, the three things its creation checks. -/
def TypeResource.ownerSlot (r : TypeResource) : BindingKind × String × Owner := (r.kind, r.ns, r.owner)

theorem TypeResource.ownedBy_eq_true {r : TypeResource} {kind : BindingKind} :
    r.ownedBy kind orgName projectName componentName = true ↔
      r.ownerSlot = (kind, orgName, ⟨projectName, componentName⟩) := by
  obtain ⟨rkind, name, ns, ⟨rproject, rcomponent⟩, workloadName, className⟩ := r
  simp only [TypeResource.ownedBy, TypeResource.ownerSlot, Bool.and_eq_true, beq_iff_eq,
    Prod.mk.injEq, Owner.mk.injEq]
  tauto

/-- The resource write: nothing when a resource of the kind in the namespace is owned by the
component and project, or a new one under them. Nothing but the type resources changes. -/
theorem createTypeResource_ok {kind : BindingKind} {nameSuffix label defaultPipeline : String}
    {workloadName : String}
    (h : createTypeResource kind nameSuffix label defaultPipeline s orgName projectName componentName
      workloadName = .ok s') :
    s' = { s with typeResources := s'.typeResources } ∧
      (s'.typeResources = s.typeResources ∨
        (kind, orgName, ⟨projectName, componentName⟩) ∉ s.typeResources.items.map (·.ownerSlot) ∧
          s'.typeResources.items = s.typeResources.items ++
            [{ kind := kind, name := componentName ++ nameSuffix, ns := orgName
               owner := ⟨projectName, componentName⟩, workloadName := workloadName
               className := defaultPipeline }]) := by
  unfold createTypeResource at h
  split_ifs at h with hany
  · cases h
    exact ⟨rfl, .inl rfl⟩
  · split at h <;> simp only [pure, Except.pure, Except.ok.injEq, throw, throwThe,
      MonadExceptOf.throw, reduceCtorEq] at h
    rename_i typeResources hcreate
    subst h
    refine ⟨rfl, .inr ⟨fun hmem => hany ?_, (Objects.create_eq_some.1 hcreate).2⟩⟩
    obtain ⟨r, hr, hslot⟩ := List.mem_map.1 hmem
    exact List.any_eq_true.2 ⟨r, hr, TypeResource.ownedBy_eq_true.2 hslot⟩

/-- `createTypeSpecificResource` is the resource write of the component type's kind, or nothing. -/
theorem createTypeSpecificResource_ok {workloadName componentType defaultPipeline : String}
    (h : createTypeSpecificResource defaultPipeline s orgName projectName componentName workloadName
      componentType = .ok s') :
    s' = s ∨ ∃ kind nameSuffix label, createTypeResource kind nameSuffix label defaultPipeline s
      orgName projectName componentName workloadName = .ok s' := by
  unfold createTypeSpecificResource at h
  split at h
  · exact .inr ⟨_, _, _, h⟩
  · exact .inr ⟨_, _, _, h⟩
  · exact .inr ⟨_, _, _, h⟩
  · cases h
    exact .inl rfl

/-- The store a `CreateComponentWorkload` call leaves: the old one, the one after the workload
write, or the one after both writes. -/
theorem createComponentWorkload_snd (defaultPipeline : String) (s : Store)
    (orgName projectName componentName : String) (workloadSpec : WorkloadSpec) :
    (createComponentWorkload defaultPipeline s orgName projectName componentName workloadSpec).2 = s ∨
      ∃ workloadName componentType s₁,
        writeWorkload s orgName projectName componentName workloadSpec =
          .ok (workloadName, componentType, s₁) ∧
        ((createComponentWorkload defaultPipeline s orgName projectName componentName workloadSpec).2 =
            s₁ ∨
          createTypeSpecificResource defaultPipeline s₁ orgName projectName componentName workloadName
            componentType =
            .ok (createComponentWorkload defaultPipeline s orgName projectName componentName
              workloadSpec).2) := by
  unfold createComponentWorkload
  rcases hw : writeWorkload s orgName projectName componentName workloadSpec with
    err | ⟨workloadName, componentType, s₁⟩
  · exact .inl rfl
  · refine .inr ⟨workloadName, componentType, s₁, rfl, ?_⟩
    dsimp only
    cases createTypeSpecificResource defaultPipeline s₁ orgName projectName componentName
      workloadName componentType
    · exact .inl rfl
    · exact .inr rfl

/-- What a `CreateComponentWorkload` call does to the store: it writes at most the workload, by the
workload write, and one new type resource, under the component and project, of a kind the
namespace had none of for them. -/
theorem createComponentWorkload_effect (defaultPipeline : String) (s : Store)
    (orgName projectName componentName : String) (workloadSpec : WorkloadSpec) :
    ∃ s', (createComponentWorkload defaultPipeline s orgName projectName componentName
        workloadSpec).2 = s' ∧
      s' = { s with workloads := s'.workloads, typeResources := s'.typeResources } ∧
      (s'.workloads = s.workloads ∨ ∃ workloadName componentType s₁,
        writeWorkload s orgName projectName componentName workloadSpec =
          .ok (workloadName, componentType, s₁) ∧ s'.workloads = s₁.workloads) ∧
      (s'.typeResources = s.typeResources ∨ ∃ r : TypeResource,
        r.ownerSlot ∉ s.typeResources.items.map (·.ownerSlot) ∧
        s'.typeResources.items = s.typeResources.items ++ [r]) := by
  refine ⟨_, rfl, ?_⟩
  rcases createComponentWorkload_snd defaultPipeline s orgName projectName componentName
    workloadSpec with h | ⟨workloadName, componentType, s₁, hw, h | h⟩
  · rw [h]; exact ⟨rfl, .inl rfl, .inl rfl⟩
  · obtain ⟨-, hframe, -⟩ := writeWorkload_ok hw
    rw [h]
    refine ⟨by rw [hframe], .inr ⟨workloadName, componentType, s₁, hw, rfl⟩, .inl ?_⟩
    rw [hframe]
  · obtain ⟨-, hframe₁, -⟩ := writeWorkload_ok hw
    have ht₁ : s₁.typeResources = s.typeResources := by rw [hframe₁]
    generalize (createComponentWorkload defaultPipeline s orgName projectName componentName
      workloadSpec).2 = s₂ at h ⊢
    rcases createTypeSpecificResource_ok h with h' | ⟨kind, nameSuffix, label, hr⟩
    · rw [h']
      exact ⟨by rw [hframe₁], .inr ⟨workloadName, componentType, s₁, hw, rfl⟩, .inl ht₁⟩
    · obtain ⟨hframe₂, hsame | ⟨hfresh, hitems⟩⟩ := createTypeResource_ok hr <;>
        refine ⟨by rw [hframe₂, hframe₁], .inr ⟨workloadName, componentType, s₁, hw, by rw [hframe₂]⟩,
          ?_⟩
      · exact .inl (by rw [hsame, ht₁])
      · rw [ht₁] at hfresh hitems
        exact .inr ⟨_, by exact hfresh, hitems⟩

end Writes

end Api
end OpenChoreo
