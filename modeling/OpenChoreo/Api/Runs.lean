import Mathlib.Logic.Relation
import OpenChoreo.Api.Workloads
import OpenChoreo.Api.Handlers

/-!
# Runs of component-service calls

A run is a sequence of the calls that write the store (`CreateComponent`, `PromoteComponent`,
`UpdateComponentBinding` and `CreateComponentWorkload`), each applied to the store the last one
left, success or failure. The API server serializes writes, so a run is what any interleaving of
clients produces.

Every call is first reduced to the five things it can do to the store (`Call.apply_cases`); each
invariant is then one short argument per effect, and the run lemma is an induction over the calls
(`run_induction`).

* `run_bindingSlotsUnique`: no run puts two bindings in one slot (kind, namespace, component,
  environment), because a promotion updates the binding it finds in the target slot and creates one
  only when the slot is empty.
* `run_promotedFrom`: every binding of a run's last store comes, along the promotion paths of the
  component's pipeline, from a binding of the same component, kind and namespace that was there at
  the start. In particular a component with no binding at the start never gets one.
* `run_typeResourceOwnersUnique`: no run gives a component two type resources of one kind.
* `run_workloadOwnersUnique`: no run gives a component two workloads, as long as every workload
  request names the component it is sent for as the owner. The code replaces an existing
  workload's spec, owner included, with the request's.
* `serve_releaseStatesValid`: through the handlers, every release state a binding gets is one that
  `Validate` accepts, or the empty one a promotion writes.
-/

namespace OpenChoreo
namespace Api

/-! ## Calls and runs -/

/-- The calls of the component service that write the store, each with what it reads of its
environment: the times a component's creation reads, and the orders a promotion's ranges take. -/
inductive Call
  | createComponent (orgName projectName : String) (req : CreateComponentRequest)
      (createdAt now : Int)
  | promoteComponent (req : PromoteComponentPayload) (orders : Nat → RangeOrder)
  | updateComponentBinding (orgName projectName componentName bindingName : String)
      (req : UpdateBindingRequest)
  | createComponentWorkload (orgName projectName componentName : String)
      (workloadSpec : WorkloadSpec)

/-- The store after a call that writes only when it succeeds. -/
def storeAfter {α : Type} (result : Except GoError (α × Store)) (s : Store) : Store :=
  match result with
  | .ok (_, s') => s'
  | .error _ => s

theorem storeAfter_cases {α : Type} (result : Except GoError (α × Store)) (s : Store) :
    storeAfter result s = s ∨ ∃ a, result = .ok (a, storeAfter result s) := by
  cases result with
  | error => exact .inl rfl
  | ok r => exact .inr ⟨r.1, rfl⟩

/-- The store a call leaves. -/
def Call.apply (defaultPipeline : String) : Call → Store → Store
  | .createComponent orgName projectName req createdAt now, s =>
    storeAfter (Api.createComponent s orgName projectName req createdAt now) s
  | .promoteComponent req orders, s => (Api.promoteComponent orders defaultPipeline s req).2
  | .updateComponentBinding orgName projectName componentName bindingName req, s =>
    storeAfter (Api.updateComponentBinding s orgName projectName componentName bindingName req) s
  | .createComponentWorkload orgName projectName componentName workloadSpec, s =>
    (Api.createComponentWorkload defaultPipeline s orgName projectName componentName workloadSpec).2

/-- The store a sequence of calls leaves. -/
def run (defaultPipeline : String) (s : Store) (calls : List Call) : Store :=
  calls.foldl (fun s call => call.apply defaultPipeline s) s

/-- A property every call keeps holds after every run. -/
theorem run_induction {defaultPipeline : String} {P : Store → Prop} {calls : List Call}
    (hstep : ∀ call ∈ calls, ∀ s, P s → P (call.apply defaultPipeline s)) {s : Store} (h : P s) :
    P (run defaultPipeline s calls) := by
  induction calls generalizing s with
  | nil => exact h
  | cons call rest ih =>
    exact ih (fun c hc => hstep c (.tail _ hc)) (hstep call (.head _) s h)

/-- A run on the sample control plane: `cart` is promoted to staging and on to production, its
staging binding suspended, a component `search` created in `shop`, and `cart`'s workload written. -/
def sampleCalls : List Call :=
  [.promoteComponent samplePromotion fun _ => .listed,
    .promoteComponent ⟨⟨"staging", "production"⟩, "cart", "shop", "acme"⟩ fun _ => .listed,
    .updateComponentBinding "acme" "shop" "cart" "cart-staging" ⟨"Suspend"⟩,
    .createComponent "acme" "shop" ⟨"search", "", "", "Service", ⟨"", "", "", "", []⟩⟩
      1700000000000000000 1700000001000000000,
    .createComponentWorkload "acme" "shop" "cart" ⟨⟨"shop", "cart"⟩, ⟨[⟨"main", "cart:v2"⟩]⟩⟩]

/-! ## What a call does to the store -/

/-- One step along the promotion paths of the pipeline of a component's project. -/
def PromotionStep (defaultPipeline : String) (s : Store) (orgName componentName : String)
    (sourceEnv targetEnv : String) : Prop :=
  ∃ component, s.components.get? (orgName, componentName) = some component ∧
    ∃ pipeline, PipelineOf defaultPipeline s orgName component.projectName pipeline ∧
      allowsPromotion pipeline sourceEnv targetEnv = true

section Effects

variable {defaultPipeline : String} {s : Store}

/-- A promotion call writes the target binding, along a step of the pipeline, or nothing. -/
theorem promoteComponent_snd_cases (orders : Nat → RangeOrder) (defaultPipeline : String)
    (s : Store) (req : PromoteComponentPayload) :
    (promoteComponent orders defaultPipeline s req).2 = s ∨
      ∃ kind, PromotionStep defaultPipeline s req.orgName req.componentName req.sourceEnvironment
          req.targetEnvironment ∧
        promotedStore kind req s = some (promoteComponent orders defaultPipeline s req).2 := by
  rw [promoteComponent_snd]
  cases h : promoteTargetBinding defaultPipeline s req with
  | error => exact .inl rfl
  | ok s' =>
    obtain ⟨⟨pipeline, hpipeline, hallow⟩, component, kind, hcomponent, -, hstore⟩ :=
      promoteTargetBinding_eq_ok.1 h
    exact .inr ⟨kind, ⟨component, hcomponent.2.1, pipeline, hcomponent.2.2 ▸ hpipeline, hallow⟩,
      hstore⟩

/-- What one call can do to the store: nothing; add a component under a new key; write a
promotion's target binding along a step of the pipeline; set the release state of the binding of a
kind and a name; or write a workload and a type resource. -/
theorem Call.apply_cases (call : Call) (defaultPipeline : String) (s : Store) :
    call.apply defaultPipeline s = s ∨
      (∃ component, component.key ∉ s.components.items.map Component.key ∧
        (call.apply defaultPipeline s).components.items = s.components.items ++ [component] ∧
        call.apply defaultPipeline s =
          { s with components := (call.apply defaultPipeline s).components }) ∨
      (∃ kind req, PromotionStep defaultPipeline s req.orgName req.componentName
          req.sourceEnvironment req.targetEnvironment ∧
        promotedStore kind req s = some (call.apply defaultPipeline s)) ∨
      (∃ orgName projectName componentName bindingName req kind binding,
        call = .updateComponentBinding orgName projectName componentName bindingName req ∧
        s.bindings.get? (kind, orgName, bindingName) = some binding ∧
        call.apply defaultPipeline s =
          { s with bindings := s.bindings.replace (binding.withReleaseState req.releaseState) }) ∨
      ∃ orgName projectName componentName workloadSpec,
        call = .createComponentWorkload orgName projectName componentName workloadSpec ∧
        call.apply defaultPipeline s =
          { s with workloads := (call.apply defaultPipeline s).workloads
                   typeResources := (call.apply defaultPipeline s).typeResources } ∧
        ((call.apply defaultPipeline s).workloads = s.workloads ∨
          ∃ workloadName componentType s₁,
            writeWorkload s orgName projectName componentName workloadSpec =
              .ok (workloadName, componentType, s₁) ∧
            (call.apply defaultPipeline s).workloads = s₁.workloads) ∧
        ((call.apply defaultPipeline s).typeResources = s.typeResources ∨
          ∃ r : TypeResource, r.ownerSlot ∉ s.typeResources.items.map (·.ownerSlot) ∧
            (call.apply defaultPipeline s).typeResources.items = s.typeResources.items ++ [r]) := by
  cases call with
  | createComponent orgName projectName req createdAt now =>
    simp only [Call.apply]
    rcases storeAfter_cases (Api.createComponent s orgName projectName req createdAt now) s with
      h | ⟨_, h⟩
    · exact .inl h
    · generalize storeAfter (Api.createComponent s orgName projectName req createdAt now) s = s'
        at h ⊢
      obtain ⟨component, hkey, -, -, hfresh, hitems, hframe, -⟩ := createComponent_ok h
      exact .inr (.inl ⟨component, hkey ▸ hfresh, hitems, hframe⟩)
  | promoteComponent req orders =>
    rcases promoteComponent_snd_cases orders defaultPipeline s req with
      h | ⟨kind, hstep, hstore⟩
    · exact .inl h
    · exact .inr (.inr (.inl ⟨kind, req, hstep, hstore⟩))
  | updateComponentBinding orgName projectName componentName bindingName req =>
    simp only [Call.apply]
    rcases storeAfter_cases (Api.updateComponentBinding s orgName projectName componentName
      bindingName req) s with h | ⟨_, h⟩
    · exact .inl h
    · generalize storeAfter (Api.updateComponentBinding s orgName projectName componentName
        bindingName req) s = s' at h ⊢
      obtain ⟨-, -, kind, -, binding, hget, -, hs'⟩ := updateComponentBinding_eq_ok.1 h
      exact .inr (.inr (.inr (.inl ⟨orgName, projectName, componentName, bindingName, req, kind,
        binding, rfl, hget, hs'⟩)))
  | createComponentWorkload orgName projectName componentName workloadSpec =>
    obtain ⟨s', hs', heffect⟩ := createComponentWorkload_effect defaultPipeline s orgName
      projectName componentName workloadSpec
    simp only [Call.apply, hs']
    exact .inr (.inr (.inr (.inr ⟨orgName, projectName, componentName, workloadSpec, rfl,
      heffect⟩)))

/-- A store that keeps the projects and the pipelines of another, and all of its components. -/
structure Store.Extends (s s' : Store) : Prop where
  projects : s'.projects = s.projects
  pipelines : s'.pipelines = s.pipelines
  components : ∀ c ∈ s.components.items, c ∈ s'.components.items

/-- A store that differs from another at most in its bindings, workloads and type resources. -/
theorem Store.Extends.of_frame {s s' : Store}
    (h : s'.projects = s.projects ∧ s'.pipelines = s.pipelines ∧ s'.components = s.components) :
    s.Extends s' :=
  ⟨h.1, h.2.1, fun _ hc => h.2.2 ▸ hc⟩

/-- No call touches the projects or the pipelines, or removes or changes a component. -/
theorem Call.apply_extends (call : Call) (s : Store) : s.Extends (call.apply defaultPipeline s) := by
  rcases call.apply_cases defaultPipeline s with
    h | ⟨_, -, hitems, hframe⟩ | ⟨_, _, -, hstore⟩ | ⟨_, _, _, _, _, _, _, -, -, h⟩ |
      ⟨_, _, _, _, -, h, -⟩
  · rw [h]; exact .of_frame ⟨rfl, rfl, rfl⟩
  · exact ⟨by rw [hframe], by rw [hframe], fun c hc => by rw [hitems]; exact List.mem_append_left _ hc⟩
  · have h := promotedStore_frame hstore
    exact .of_frame ⟨by rw [h], by rw [h], by rw [h]⟩
  · exact .of_frame ⟨by rw [h], by rw [h], by rw [h]⟩
  · exact .of_frame ⟨by rw [h], by rw [h], by rw [h]⟩

end Effects

/-! ## One binding per slot -/

/-- At most one binding in each slot. -/
def BindingSlotsUnique (s : Store) : Prop :=
  (s.bindings.items.map Binding.slot).Nodup

instance (s : Store) : Decidable (BindingSlotsUnique s) :=
  inferInstanceAs (Decidable (s.bindings.items.map Binding.slot).Nodup)

@[simp] theorem Binding.withReleaseState_key (b : Binding) (releaseState : String) :
    (b.withReleaseState releaseState).key = b.key := rfl

@[simp] theorem Binding.withReleaseState_slot (b : Binding) (releaseState : String) :
    (b.withReleaseState releaseState).slot = b.slot := rfl

/-- Setting a stored binding's release state keeps every binding's slot. -/
theorem slots_replace_withReleaseState {bindings : Objects Binding.key} {binding : Binding}
    (hmem : binding ∈ bindings.items) (releaseState : String) :
    (bindings.replace (binding.withReleaseState releaseState)).items.map Binding.slot =
      bindings.items.map Binding.slot :=
  Objects.map_replace _ _ _ fun y hy hkey => by
    rw [bindings.eq_of_key_eq hy hmem hkey, Binding.withReleaseState_slot]

section Slots

variable {defaultPipeline : String}

theorem Call.apply_bindingSlotsUnique (call : Call) {s : Store} (h : BindingSlotsUnique s) :
    BindingSlotsUnique (call.apply defaultPipeline s) := by
  unfold BindingSlotsUnique at h ⊢
  rcases call.apply_cases defaultPipeline s with
    hs | ⟨_, -, -, hs⟩ | ⟨_, _, -, hstore⟩ | ⟨_, _, _, _, req, _, binding, -, hget, hs⟩ |
      ⟨_, _, _, _, -, hs, -⟩
  · rwa [hs]
  · rwa [hs]
  · exact promotedStore_slots_nodup hstore h
  · rwa [hs, slots_replace_withReleaseState (Objects.get?_eq_some.1 hget).1]
  · rwa [hs]

/-- No run puts two bindings in one slot: a store with at most one binding in each slot (kind,
namespace, component, environment) keeps that property through any sequence of calls. -/
theorem run_bindingSlotsUnique (calls : List Call) {s : Store} (h : BindingSlotsUnique s) :
    BindingSlotsUnique (run defaultPipeline s calls) :=
  run_induction (fun call _ _ hs => call.apply_bindingSlotsUnique hs) h

theorem run_bindingSlotsUnique_sample :
    BindingSlotsUnique sampleStore ∧ BindingSlotsUnique (run "default" sampleStore sampleCalls) :=
  have h : BindingSlotsUnique sampleStore := by decide
  ⟨h, run_bindingSlotsUnique sampleCalls h⟩

end Slots

/-! ## Bindings come from earlier bindings along the pipeline -/

/-- The kind, namespace and component of a binding: its slot without the environment. -/
def Binding.track (b : Binding) : BindingKind × String × String :=
  (b.kind, b.ns, b.spec.owner.componentName)

/-- Every binding of `s` comes from a binding of `s₀` of the same kind, namespace and component,
along steps allowed by the pipeline of the component's project in `s`. -/
def PromotedFrom (defaultPipeline : String) (s₀ s : Store) : Prop :=
  ∀ b ∈ s.bindings.items, ∃ b₀ ∈ s₀.bindings.items, b₀.track = b.track ∧
    Relation.ReflTransGen (PromotionStep defaultPipeline s b.ns b.spec.owner.componentName)
      b₀.spec.environment b.spec.environment

section Promoted

variable {defaultPipeline : String}

/-- A promotion step stays allowed in a store that keeps the projects, pipelines and components. -/
theorem PromotionStep.mono {s s' : Store} (hext : s.Extends s') {orgName componentName : String}
    {sourceEnv targetEnv : String}
    (h : PromotionStep defaultPipeline s orgName componentName sourceEnv targetEnv) :
    PromotionStep defaultPipeline s' orgName componentName sourceEnv targetEnv := by
  obtain ⟨component, hcomponent, pipeline, hpipeline, hallow⟩ := h
  obtain ⟨hmem, hkey⟩ := Objects.get?_eq_some.1 hcomponent
  refine ⟨component, Objects.get?_eq_some.2 ⟨hext.components _ hmem, hkey⟩, pipeline, ?_, hallow⟩
  unfold PipelineOf at hpipeline ⊢
  rwa [hext.projects, hext.pipelines]

theorem PromotedFrom.refl (s : Store) : PromotedFrom defaultPipeline s s :=
  fun b hb => ⟨b, hb, rfl, .refl⟩

theorem Call.apply_promotedFrom (call : Call) {s₀ s : Store} (h : PromotedFrom defaultPipeline s₀ s) :
    PromotedFrom defaultPipeline s₀ (call.apply defaultPipeline s) := by
  have lift : ∀ b ∈ s.bindings.items, ∃ b₀ ∈ s₀.bindings.items, b₀.track = b.track ∧
      Relation.ReflTransGen
        (PromotionStep defaultPipeline (call.apply defaultPipeline s) b.ns b.spec.owner.componentName)
        b₀.spec.environment b.spec.environment := fun b hb => by
    obtain ⟨b₀, hb₀, htrack, hpath⟩ := h b hb
    exact ⟨b₀, hb₀, htrack, hpath.mono fun _ _ => (PromotionStep.mono (call.apply_extends s))⟩
  intro b hb
  rcases call.apply_cases defaultPipeline s with
    hs | ⟨_, -, -, hs⟩ | ⟨kind, req, hstep, hstore⟩ |
      ⟨_, _, _, _, req, _, binding, -, hget, hs⟩ | ⟨_, _, _, _, -, hs, -⟩
  · rw [hs] at hb; exact lift b hb
  · rw [hs] at hb; exact lift b hb
  · obtain ⟨source, hsource, hmem⟩ := promotedStore_mem hstore
    rcases hmem b hb with hb | rfl
    · exact lift b hb
    obtain ⟨hsourceMem, hsourceSlot⟩ := findSlot_eq_some_mem hsource
    obtain ⟨b₀, hb₀, htrack, hpath⟩ := lift source hsourceMem
    have hslot : (promotedBinding kind req source (s.bindingIn (req.targetSlot kind))).slot =
        req.targetSlot kind :=
      promotedBinding_slot source fun e he => (findSlot_eq_some_mem he).2
    generalize promotedBinding kind req source _ = promoted at hslot ⊢
    simp only [Binding.slot, PromoteComponentPayload.sourceSlot, PromoteComponentPayload.targetSlot,
      Prod.mk.injEq] at hsourceSlot hslot
    refine ⟨b₀, hb₀, by rw [htrack]; simp only [Binding.track, hsourceSlot, hslot], ?_⟩
    rw [hsourceSlot.2.1, hsourceSlot.2.2.1, hsourceSlot.2.2.2] at hpath
    rw [hslot.2.1, hslot.2.2.1, hslot.2.2.2]
    exact hpath.tail (hstep.mono (call.apply_extends s))
  · have hmem := (Objects.get?_eq_some.1 hget).1
    rw [hs] at hb
    have hkey : (binding.withReleaseState req.releaseState).key ∈ s.bindings.items.map Binding.key :=
      List.mem_map.2 ⟨binding, hmem, rfl⟩
    rcases (Objects.mem_replace hkey).1 hb with rfl | ⟨hb, -⟩
    · exact lift binding hmem
    · exact lift b hb
  · rw [hs] at hb; exact lift b hb

/-- Every binding a run leaves comes from a binding that was there at the start, of the same kind,
namespace and component, along promotion steps that the pipeline of the component's project
allows. No call creates a binding in any other way: a component with no binding at the start
never gets one. -/
theorem run_promotedFrom (calls : List Call) (s : Store) :
    PromotedFrom defaultPipeline s (run defaultPipeline s calls) :=
  run_induction (fun call _ _ hs => call.apply_promotedFrom hs) (PromotedFrom.refl s)

end Promoted

/-! ## One type resource of each kind per component -/

/-- At most one type resource of each kind in a namespace for each owner. -/
def TypeResourceOwnersUnique (s : Store) : Prop :=
  (s.typeResources.items.map TypeResource.ownerSlot).Nodup

instance (s : Store) : Decidable (TypeResourceOwnersUnique s) :=
  inferInstanceAs (Decidable (s.typeResources.items.map TypeResource.ownerSlot).Nodup)

/-- No run gives a component two type resources of one kind: `createServiceResource` and its
siblings create one only when the namespace has none of the kind for the component and project. -/
theorem run_typeResourceOwnersUnique {defaultPipeline : String} (calls : List Call) {s : Store}
    (h : TypeResourceOwnersUnique s) : TypeResourceOwnersUnique (run defaultPipeline s calls) := by
  refine run_induction (fun call _ s hs => ?_) h
  unfold TypeResourceOwnersUnique at hs ⊢
  rcases call.apply_cases defaultPipeline s with
    h | ⟨_, -, -, h⟩ | ⟨_, _, -, hstore⟩ | ⟨_, _, _, _, _, _, _, -, -, h⟩ |
      ⟨_, _, _, _, -, -, -, hsame | ⟨r, hfresh, hitems⟩⟩
  · rwa [h]
  · rwa [h]
  · rwa [promotedStore_frame hstore]
  · rwa [h]
  · rwa [hsame]
  · rw [hitems, List.map_append, List.map_singleton]
    exact hs.append (List.nodup_singleton _) (List.disjoint_singleton.2 hfresh)

theorem run_typeResourceOwnersUnique_sample :
    TypeResourceOwnersUnique sampleStore ∧
      TypeResourceOwnersUnique (run "default" sampleStore sampleCalls) :=
  have h : TypeResourceOwnersUnique sampleStore := by decide
  ⟨h, run_typeResourceOwnersUnique sampleCalls h⟩

/-! ## One workload per component -/

/-- The namespace and the owner component of a workload, the pair `CreateComponentWorkload` looks a
component's workload up by. -/
def Workload.ownerSlot (w : Workload) : String × String := (w.ns, w.spec.owner.componentName)

theorem Workload.ownedBy_eq_true {w : Workload} {orgName componentName : String} :
    w.ownedBy orgName componentName = true ↔ w.ownerSlot = (orgName, componentName) := by
  simp [Workload.ownedBy, Workload.ownerSlot]

/-- At most one workload in a namespace for each owner component. -/
def WorkloadOwnersUnique (s : Store) : Prop :=
  (s.workloads.items.map Workload.ownerSlot).Nodup

instance (s : Store) : Decidable (WorkloadOwnersUnique s) :=
  inferInstanceAs (Decidable (s.workloads.items.map Workload.ownerSlot).Nodup)

/-- A workload call whose spec names the component it is sent for as the owner; other calls
qualify as they are. -/
def Call.NamesOwnWorkload : Call → Prop
  | .createComponentWorkload _ _ componentName workloadSpec =>
    workloadSpec.owner.componentName = componentName
  | _ => True

/-- The workload write keeps one workload per owner component when the request names the
component it is sent for. -/
theorem writeWorkload_ownersUnique {s s₁ : Store} {orgName projectName componentName : String}
    {workloadSpec : WorkloadSpec} {workloadName componentType : String}
    (hw : writeWorkload s orgName projectName componentName workloadSpec =
      .ok (workloadName, componentType, s₁))
    (howner : workloadSpec.owner.componentName = componentName) (hs : WorkloadOwnersUnique s) :
    WorkloadOwnersUnique s₁ := by
  unfold WorkloadOwnersUnique at hs ⊢
  obtain ⟨-, -, ⟨existing, hmem, hown, -, hupdated⟩ | ⟨hnone, -, hitems⟩⟩ := writeWorkload_ok hw
  · have hslot := Workload.ownedBy_eq_true.1 hown
    simp only [Workload.ownerSlot, Prod.mk.injEq] at hslot
    rw [hupdated, Objects.map_replace _ _ _ fun y hy hkey => by
      rw [s.workloads.eq_of_key_eq hy hmem hkey]
      simp [Workload.ownerSlot, hslot.2, howner]]
    exact hs
  · rw [hitems, List.map_append, List.map_singleton]
    refine hs.append (List.nodup_singleton _) (List.disjoint_singleton.2 fun hmem => ?_)
    obtain ⟨w, hw, hslot⟩ := List.mem_map.1 hmem
    exact absurd (Workload.ownedBy_eq_true.2 hslot) (by simp [hnone w hw])

/-- No run gives a component two workloads, as long as every workload request names the
component it is sent for as its owner. -/
theorem run_workloadOwnersUnique {defaultPipeline : String} (calls : List Call)
    (hcalls : ∀ call ∈ calls, call.NamesOwnWorkload) {s : Store} (h : WorkloadOwnersUnique s) :
    WorkloadOwnersUnique (run defaultPipeline s calls) := by
  refine run_induction (fun call hcall s hs => ?_) h
  rcases call.apply_cases defaultPipeline s with
    h | ⟨_, -, -, h⟩ | ⟨_, _, -, hstore⟩ | ⟨_, _, _, _, _, _, _, -, -, h⟩ |
      ⟨_, _, componentName, workloadSpec, rfl, -, hsame | ⟨workloadName, componentType, s₁, hw, h⟩, -⟩
  · rwa [h]
  · unfold WorkloadOwnersUnique; rwa [h]
  · unfold WorkloadOwnersUnique; rwa [promotedStore_frame hstore]
  · unfold WorkloadOwnersUnique; rwa [h]
  · unfold WorkloadOwnersUnique; rwa [hsame]
  · unfold WorkloadOwnersUnique; rw [h]
    exact writeWorkload_ownersUnique hw (hcalls _ hcall) hs

theorem run_workloadOwnersUnique_sample :
    (∀ call ∈ sampleCalls, call.NamesOwnWorkload) ∧ WorkloadOwnersUnique sampleStore ∧
      WorkloadOwnersUnique (run "default" sampleStore sampleCalls) :=
  have hcalls : ∀ call ∈ sampleCalls, call.NamesOwnWorkload := by
    simp [sampleCalls, Call.NamesOwnWorkload]
  have h : WorkloadOwnersUnique sampleStore := by decide
  ⟨hcalls, h, run_workloadOwnersUnique sampleCalls hcalls h⟩

/-! ## Release states through the handlers -/

/-- Every binding's release state is one `Validate` accepts, or the empty one a promotion
writes. -/
def ReleaseStatesValid (s : Store) : Prop :=
  ∀ b ∈ s.bindings.items, b.spec.releaseState = "" ∨ b.spec.releaseState ∈ releaseStates

instance (s : Store) : Decidable (ReleaseStatesValid s) :=
  inferInstanceAs (Decidable (∀ b ∈ s.bindings.items,
    b.spec.releaseState = "" ∨ b.spec.releaseState ∈ releaseStates))

/-- A release-state call whose state `Validate` accepts; other calls qualify as they are. -/
def Call.ValidatedReleaseState : Call → Prop
  | .updateComponentBinding _ _ _ _ req => req.releaseState ∈ releaseStates
  | _ => True

theorem Call.apply_releaseStatesValid {defaultPipeline : String} (call : Call)
    (hcall : call.ValidatedReleaseState) {s : Store} (h : ReleaseStatesValid s) :
    ReleaseStatesValid (call.apply defaultPipeline s) := by
  intro b hb
  rcases call.apply_cases defaultPipeline s with
    hs | ⟨_, -, -, hs⟩ | ⟨kind, req, -, hstore⟩ |
      ⟨_, _, _, _, req, _, binding, rfl, hget, hs⟩ | ⟨_, _, _, _, -, hs, -⟩
  · rw [hs] at hb; exact h b hb
  · rw [hs] at hb; exact h b hb
  · obtain ⟨source, -, hmem⟩ := promotedStore_mem hstore
    rcases hmem b hb with hb | rfl
    · exact h b hb
    · exact .inl (by rw [promotedBinding_spec]; rfl)
  · have hmem := (Objects.get?_eq_some.1 hget).1
    have hkey : (binding.withReleaseState req.releaseState).key ∈
        s.bindings.items.map Binding.key :=
      List.mem_map.2 ⟨binding, hmem, rfl⟩
    rw [hs] at hb
    rcases (Objects.mem_replace hkey).1 hb with rfl | ⟨hb, -⟩
    · exact .inr hcall
    · exact h b hb
  · rw [hs] at hb; exact h b hb

/-- The requests of the three component handlers, each with what its service call reads of its
environment. -/
inductive Request
  | createComponent (orgName projectName : String) (req : CreateComponentRequest)
      (createdAt now : Int)
  | promoteComponent (orgName projectName componentName : String) (req : PromoteComponentRequest)
      (orders : Nat → RangeOrder)
  | updateComponentBinding (orgName projectName componentName bindingName : String)
      (req : UpdateBindingRequest)

/-- The store a handler leaves. -/
def Request.serve (defaultPipeline : String) : Request → Store → Store
  | .createComponent orgName projectName req createdAt now, s =>
    (Handler.createComponent s orgName projectName req createdAt now).2
  | .promoteComponent orgName projectName componentName req orders, s =>
    (Handler.promoteComponent orders defaultPipeline s orgName projectName componentName req).2
  | .updateComponentBinding orgName projectName componentName bindingName req, s =>
    (Handler.updateComponentBinding s orgName projectName componentName bindingName req).2

/-- The store a sequence of requests leaves. -/
def serve (defaultPipeline : String) (s : Store) (requests : List Request) : Store :=
  requests.foldl (fun s request => request.serve defaultPipeline s) s

/-- A handler leaves the store, or makes the service call its request maps to, with a release
state that `Validate` accepted. -/
theorem Request.serve_cases (request : Request) (defaultPipeline : String) (s : Store) :
    request.serve defaultPipeline s = s ∨
      ∃ call : Call, call.ValidatedReleaseState ∧
        request.serve defaultPipeline s = call.apply defaultPipeline s := by
  cases request with
  | createComponent orgName projectName req createdAt now =>
    refine (em (orgName == "" || projectName == "")).imp (fun hparams => ?_) (fun hparams => ?_)
    · simp [Request.serve, Handler.createComponent, hparams]
    · refine ⟨.createComponent orgName projectName req createdAt now, trivial, ?_⟩
      simp only [Request.serve, Handler.createComponent, hparams, if_false, Call.apply]
      cases Api.createComponent s orgName projectName req createdAt now <;> rfl
  | promoteComponent orgName projectName componentName req orders =>
    refine (em (orgName == "" || projectName == "" || componentName == "")).imp
      (fun hparams => ?_) (fun hparams => ?_)
    · simp [Request.serve, Handler.promoteComponent, hparams]
    · refine ⟨.promoteComponent ⟨req.sanitize, componentName, projectName, orgName⟩ orders, trivial,
        ?_⟩
      simp only [Request.serve, Handler.promoteComponent, hparams, if_false, Call.apply]
      rcases Api.promoteComponent orders defaultPipeline s ⟨req.sanitize, componentName,
        projectName, orgName⟩ with ⟨_ | _, s'⟩ <;> rfl
  | updateComponentBinding orgName projectName componentName bindingName req =>
    by_cases hparams : (orgName == "" || projectName == "" || componentName == "" ||
      bindingName == "") = true
    · exact .inl (by simp [Request.serve, Handler.updateComponentBinding, hparams])
    rcases hvalid : req.validate with err | ⟨⟩
    · exact .inl (by simp [Request.serve, Handler.updateComponentBinding, hparams, hvalid])
    · refine .inr ⟨.updateComponentBinding orgName projectName componentName bindingName req,
        UpdateBindingRequest.validate_eq_ok.1 hvalid, ?_⟩
      simp only [Request.serve, Handler.updateComponentBinding, hparams, Bool.false_eq_true,
        if_false, hvalid, Call.apply]
      cases Api.updateComponentBinding s orgName projectName componentName bindingName req <;> rfl

/-- Through the handlers, every release state a binding gets is one that `Validate` accepts, or the
empty one a promotion writes: a store whose bindings all have such a state keeps that property
through any sequence of requests. -/
theorem serve_releaseStatesValid {defaultPipeline : String} (requests : List Request) {s : Store}
    (h : ReleaseStatesValid s) : ReleaseStatesValid (serve defaultPipeline s requests) := by
  induction requests generalizing s with
  | nil => exact h
  | cons request rest ih =>
    refine ih (show ReleaseStatesValid (request.serve defaultPipeline s) from ?_)
    rcases request.serve_cases defaultPipeline s with hs | ⟨call, hcall, hs⟩
    · rw [hs]; exact h
    · rw [hs]; exact call.apply_releaseStatesValid hcall h

/-- Requests to the sample control plane: a promotion of `cart` with padded environment names, a
release state `Validate` refuses, and one it accepts. -/
def sampleRequests : List Request :=
  [.promoteComponent "acme" "shop" "cart" ⟨" development", "staging "⟩ fun _ => .listed,
    .updateComponentBinding "acme" "shop" "cart" "cart-staging" ⟨"Paused"⟩,
    .updateComponentBinding "acme" "shop" "cart" "cart-staging" ⟨"Undeploy"⟩]

theorem serve_releaseStatesValid_sample :
    ReleaseStatesValid sampleStore ∧
      ReleaseStatesValid (serve "default" sampleStore sampleRequests) :=
  have h : ReleaseStatesValid sampleStore := by decide
  ⟨h, serve_releaseStatesValid sampleRequests h⟩

end Api
end OpenChoreo
