import OpenChoreo.Api.Promotion

/-!
# What a promotion does to the deployments

The deployments of a store are what the service's lookups see: for every slot (a binding kind, a
namespace, a component and an environment), the spec of the binding they find there. On the
deployments a promotion is a single abstract step, `promoteDeployments`: the target slot gets the
spec built from the source slot's, and every other slot keeps its own. `promotedStore_deployments`
says that the code's write refines this step, whichever of its two branches (`Update` of the binding
in the target slot, or `Create` of a new one) it takes, and `promoteComponent_refines` lifts that to
`PromoteComponent`.

From the same description of the write: a promotion that went through goes through again with no
change and the same bindings in its reply, in the order of the second call's range over the
pipeline's environments (`promoteComponent_idempotent`), and its reply lists the component's binding
in every environment of the pipeline (`promoteComponent_reply`).
-/

namespace OpenChoreo
namespace Api

/-- The deployments of a store: the spec of the binding the lookups find in each slot. -/
def Store.deployments (s : Store) (slot : Slot) : Option BindingSpec :=
  (s.bindingIn slot).map (·.spec)

/-- Promotion on the deployments: nothing to promote from an empty source slot; otherwise the
target slot gets the spec built from the source slot's, and no other slot changes. -/
def promoteDeployments (d : Slot → Option BindingSpec) (kind : BindingKind)
    (req : PromoteComponentPayload) : Option (Slot → Option BindingSpec) :=
  (d (req.sourceSlot kind)).map fun source =>
    Function.update d (req.targetSlot kind) (some (targetBindingSpec req source))

section Promoted

variable {kind : BindingKind} {req : PromoteComponentPayload} {s s' : Store}

@[simp] theorem promotedBinding_spec (source : Binding) (existing : Option Binding) :
    (promotedBinding kind req source existing).spec = targetBindingSpec req source.spec := by
  cases existing <;> rfl

@[simp] theorem promotedBinding_key_some (source existing : Binding) :
    (promotedBinding kind req source (some existing)).key = existing.key := rfl

theorem targetBindingSpec_targetBindingSpec (source : BindingSpec) :
    targetBindingSpec req (targetBindingSpec req source) = targetBindingSpec req source := rfl

/-- What a promotion's write can be, once the source binding is found: the update of the binding
in the target slot, or the creation of a new binding when that slot is empty. Nothing but the
bindings changes. -/
theorem promotedStore_cases (h : promotedStore kind req s = some s') :
    ∃ source, s.bindingIn (req.sourceSlot kind) = some source ∧
      s' = { s with bindings := s'.bindings } ∧
      ((∃ existing, s.bindingIn (req.targetSlot kind) = some existing ∧
          s'.bindings = s.bindings.replace (promotedBinding kind req source (some existing))) ∨
        (s.bindingIn (req.targetSlot kind) = none ∧
          s'.bindings.items = s.bindings.items ++ [promotedBinding kind req source none])) := by
  unfold promotedStore at h
  cases hsrc : s.bindingIn (req.sourceSlot kind) with
  | none => simp [hsrc] at h
  | some source =>
    simp only [hsrc] at h
    cases htgt : s.bindingIn (req.targetSlot kind) with
    | some existing =>
      simp only [htgt, Option.some.injEq] at h
      subst h
      exact ⟨source, rfl, rfl, .inl ⟨existing, rfl, rfl⟩⟩
    | none =>
      simp only [htgt, Option.map_eq_some'] at h
      obtain ⟨bindings, hcreate, rfl⟩ := h
      exact ⟨source, rfl, rfl, .inr ⟨rfl, (Objects.create_eq_some.1 hcreate).2⟩⟩

/-- A promotion's write leaves everything but the bindings as it was. -/
theorem promotedStore_frame (h : promotedStore kind req s = some s') :
    s' = { s with bindings := s'.bindings } :=
  (promotedStore_cases h).choose_spec.2.1

/-- A binding of the key of the binding in the target slot is in the target slot, and so is the
promoted binding that replaces it. -/
theorem slot_of_key_eq_target {existing y : Binding}
    (htgt : s.bindingIn (req.targetSlot kind) = some existing) (hy : y ∈ s.bindings.items)
    (hkey : y.key = existing.key) : y.slot = req.targetSlot kind := by
  obtain ⟨hmem, hslot⟩ := findSlot_eq_some_mem htgt
  rw [s.bindings.eq_of_key_eq hy hmem hkey, hslot]

/-- The lookups after a promotion's write: the target slot holds the promoted binding, every other
slot what it held. -/
theorem promotedStore_bindingIn (h : promotedStore kind req s = some s') :
    ∃ source, s.bindingIn (req.sourceSlot kind) = some source ∧
      ∀ slot, s'.bindingIn slot =
        if slot = req.targetSlot kind then
          some (promotedBinding kind req source (s.bindingIn (req.targetSlot kind)))
        else s.bindingIn slot := by
  obtain ⟨source, hsource, -, ⟨existing, htgt, hbindings⟩ | ⟨htgt, hitems⟩⟩ := promotedStore_cases h
  all_goals refine ⟨source, hsource, fun slot => ?_⟩
  · have hpromoted : (promotedBinding kind req source (some existing)).slot = req.targetSlot kind :=
      promotedBinding_slot source fun e he => by cases he; exact (findSlot_eq_some_mem htgt).2
    rw [htgt, Store.bindingIn, hbindings, findSlot_replace _ _ fun y hy hkey => by
      rw [slot_of_key_eq_target htgt hy hkey, hpromoted]]
    split_ifs with hq
    · subst hq
      rw [← Store.bindingIn, htgt]
      simp
    · rw [Store.bindingIn]
      cases hfound : findSlot s.bindings.items slot with
      | none => rfl
      | some y =>
        obtain ⟨hy, hyslot⟩ := findSlot_eq_some_mem hfound
        have hkey : y.key ≠ existing.key := fun hkey => hq (hyslot ▸ slot_of_key_eq_target htgt hy hkey)
        simp [hkey]
  · rw [htgt, Store.bindingIn, hitems, findSlot_append_singleton,
      promotedBinding_slot source fun e he => by cases he]
    have htgt' : findSlot s.bindings.items (req.targetSlot kind) = none := htgt
    by_cases hq : slot = req.targetSlot kind
    · subst hq
      simp [htgt']
    · simp [hq, Ne.symm hq, Store.bindingIn]

/-- The bindings after a promotion's write: those that were there, and the promoted binding. -/
theorem promotedStore_mem (h : promotedStore kind req s = some s') :
    ∃ source, s.bindingIn (req.sourceSlot kind) = some source ∧
      ∀ b ∈ s'.bindings.items, b ∈ s.bindings.items ∨
        b = promotedBinding kind req source (s.bindingIn (req.targetSlot kind)) := by
  obtain ⟨source, hsource, -, ⟨existing, htgt, hbindings⟩ | ⟨htgt, hitems⟩⟩ := promotedStore_cases h
  all_goals refine ⟨source, hsource, fun b hb => ?_⟩
  · have hkey : (promotedBinding kind req source (some existing)).key ∈
        s.bindings.items.map Binding.key :=
      List.mem_map.2 ⟨existing, (findSlot_eq_some_mem htgt).1, rfl⟩
    rw [hbindings] at hb
    rcases (Objects.mem_replace hkey).1 hb with rfl | ⟨hb, -⟩
    · exact .inr (by rw [htgt])
    · exact .inl hb
  · rw [hitems] at hb
    simpa [htgt] using hb

/-- A promotion's write copies the source binding's workload, so it keeps every workload of the
store naming at most one image. -/
theorem promotedStore_oneImage (h : promotedStore kind req s = some s')
    (hone : ∀ b ∈ s.bindings.items, b.spec.workloadSpec.OneImage) :
    ∀ b ∈ s'.bindings.items, b.spec.workloadSpec.OneImage := by
  obtain ⟨source, hsource, hmem⟩ := promotedStore_mem h
  intro b hb
  rcases hmem b hb with hb | rfl
  · exact hone b hb
  · rw [promotedBinding_spec]
    exact hone source (findSlot_eq_some_mem hsource).1

/-- A promotion's write keeps at most one binding in each slot: it updates the binding it finds in
the target slot, and creates one only when the slot is empty. -/
theorem promotedStore_slots_nodup (h : promotedStore kind req s = some s')
    (hunique : (s.bindings.items.map Binding.slot).Nodup) :
    (s'.bindings.items.map Binding.slot).Nodup := by
  obtain ⟨source, -, -, ⟨existing, htgt, hbindings⟩ | ⟨htgt, hitems⟩⟩ := promotedStore_cases h
  · have hpromoted : (promotedBinding kind req source (some existing)).slot = req.targetSlot kind :=
      promotedBinding_slot source fun e he => by cases he; exact (findSlot_eq_some_mem htgt).2
    rwa [hbindings, Objects.map_replace _ _ _ fun y hy hkey => by
      rw [slot_of_key_eq_target htgt hy hkey, hpromoted]]
  · rw [hitems, List.map_append, List.map_singleton,
      promotedBinding_slot source fun e he => by cases he]
    exact hunique.append (List.nodup_singleton _) (List.disjoint_singleton.2 fun hmem => by
      obtain ⟨b, hb, hslot⟩ := List.mem_map.1 hmem
      exact findSlot_eq_none.1 htgt b hb hslot)

/-- The code's write refines the abstract promotion: on the deployments, a successful write is
`promoteDeployments` of the deployments before it. -/
theorem promotedStore_deployments (h : promotedStore kind req s = some s') :
    promoteDeployments s.deployments kind req = some s'.deployments := by
  obtain ⟨source, hsource, hlookup⟩ := promotedStore_bindingIn h
  simp only [promoteDeployments, Store.deployments, hsource, Option.map_some', Option.some.injEq]
  funext slot
  rw [Function.update_apply]
  simp only [Store.deployments, hlookup slot]
  split_ifs <;> simp

/-- A successful write can be made again, to the same store. -/
theorem promotedStore_promotedStore (h : promotedStore kind req s = some s') :
    promotedStore kind req s' = some s' := by
  obtain ⟨source, hsource, hlookup⟩ := promotedStore_bindingIn h
  have htspec : (promotedBinding kind req source (s.bindingIn (req.targetSlot kind))).spec =
      targetBindingSpec req source.spec := promotedBinding_spec _ _
  generalize promotedBinding kind req source (s.bindingIn (req.targetSlot kind)) = target
    at hlookup htspec
  have htarget : s'.bindingIn (req.targetSlot kind) = some target := by simp [hlookup]
  have hsource' : s'.bindingIn (req.sourceSlot kind) =
      some (if req.sourceSlot kind = req.targetSlot kind then target else source) := by
    rw [hlookup]; split_ifs <;> simp [hsource]
  have hsame : promotedBinding kind req
      (if req.sourceSlot kind = req.targetSlot kind then target else source) (some target) =
      target := by
    have hspec : targetBindingSpec req
        (if req.sourceSlot kind = req.targetSlot kind then target else source).spec = target.spec := by
      split_ifs <;> simp [htspec, targetBindingSpec_targetBindingSpec]
    simp only [promotedBinding, hspec]
  have hmem := (findSlot_eq_some_mem htarget).1
  simp only [promotedStore, hsource', htarget, hsame, Objects.replace_self hmem]

/-- When the write goes through: a source binding is there, and the target slot holds a binding
to update or the new binding's name is free in the namespace. -/
theorem promotedStore_isSome :
    (promotedStore kind req s).isSome ↔
      (s.bindingIn (req.sourceSlot kind)).isSome ∧
        ((s.bindingIn (req.targetSlot kind)).isSome ∨
          (kind, req.orgName, targetBindingName req) ∉ s.bindings.items.map Binding.key) := by
  unfold promotedStore
  cases s.bindingIn (req.sourceSlot kind) <;> cases s.bindingIn (req.targetSlot kind) <;>
    simp [Option.isSome_iff_ne_none, Objects.create_eq_none, promotedBinding, Binding.key]

/-! ## The promotion call -/

variable {defaultPipeline : String}

/-- The promotion of `cart` of the sample control plane from development to staging. -/
def samplePromotion : PromoteComponentPayload :=
  ⟨⟨"development", "staging"⟩, "cart", "shop", "acme"⟩

/-- The bindings the sample promotion reports when every range takes the order of the list, which
meets production, staging and development in turn: the new one in staging, and development's;
production has none. -/
def samplePromotionReply : List BindingResponse :=
  [bindingResponse .listed .service "shop" ⟨.service, "cart-staging", "acme",
      targetBindingSpec samplePromotion (sampleBinding "cart").spec, []⟩,
    bindingResponse .listed .service "shop" (sampleBinding "cart")]

/-- A successful `PromoteComponent` is the abstract promotion on the deployments, for the kind of the
component's type, and changes nothing but the bindings. -/
theorem promoteComponent_refines (orders : Nat → RangeOrder) {responses : List BindingResponse}
    (h : (promoteComponent orders defaultPipeline s req).1 = .ok responses) :
    ∃ component kind, ComponentIn s req.orgName req.projectName req.componentName component ∧
      BindingKind.ofComponentType component.type = some kind ∧
      promoteDeployments s.deployments kind req =
        some (promoteComponent orders defaultPipeline s req).2.deployments ∧
      (promoteComponent orders defaultPipeline s req).2 =
        { s with bindings := (promoteComponent orders defaultPipeline s req).2.bindings } := by
  rw [promoteComponent_snd]
  cases hp : promoteTargetBinding defaultPipeline s req with
  | error err => simp [promoteComponent, hp] at h
  | ok s' =>
    obtain ⟨-, component, kind, hcomponent, hkind, hstore⟩ := promoteTargetBinding_eq_ok.1 hp
    exact ⟨component, kind, hcomponent, hkind, promotedStore_deployments hstore,
      promotedStore_frame hstore⟩

theorem promoteComponent_refines_cart :
    (promoteComponent (fun _ => .listed) "default" sampleStore samplePromotion).1 =
        .ok samplePromotionReply ∧
      ∃ component kind, ComponentIn sampleStore "acme" "shop" "cart" component ∧
        BindingKind.ofComponentType component.type = some kind ∧
        promoteDeployments sampleStore.deployments kind samplePromotion =
          some (promoteComponent (fun _ => .listed) "default" sampleStore samplePromotion).2.deployments ∧
        (promoteComponent (fun _ => .listed) "default" sampleStore samplePromotion).2 =
          { sampleStore with
            bindings :=
              (promoteComponent (fun _ => .listed) "default" sampleStore samplePromotion).2.bindings } :=
  have hreply : (promoteComponent (fun _ => .listed) "default" sampleStore samplePromotion).1 =
      .ok samplePromotionReply := rfl
  ⟨hreply, promoteComponent_refines _ hreply⟩

/-- The reply of a promotion whose write went through, on the store it wrote, once the pipeline and
the component the checks found are known: the component's binding in every environment of the
pipeline, in the order the range over the environments took. -/
theorem promoteComponent_eq_of_checks (orders : Nat → RangeOrder) {pipeline : DeploymentPipeline}
    {component : Component} {kind : BindingKind}
    (h : promoteTargetBinding defaultPipeline s req = .ok s')
    (hpipeline : PipelineOf defaultPipeline s' req.orgName req.projectName pipeline)
    (hallow : allowsPromotion pipeline req.sourceEnvironment req.targetEnvironment = true)
    (hcomponent : ComponentIn s' req.orgName req.projectName req.componentName component)
    (hkind : BindingKind.ofComponentType component.type = some kind) :
    promoteComponent orders defaultPipeline s req =
      (.ok (bindingResponses (fun n => orders (n + 2)) s' kind req.orgName req.projectName
        req.componentName (pipelineEnvironments (orders 0) pipeline)), s') := by
  have henv : getEnvironmentsFromDeploymentPipeline (orders 0) defaultPipeline s' req.orgName
      req.projectName = .ok (pipelineEnvironments (orders 0) pipeline) :=
    getEnvironmentsFromDeploymentPipeline_eq_ok.2 ⟨pipeline, hpipeline, rfl⟩
  have hnonempty : (pipelineEnvironments (orders 0) pipeline).isEmpty = false :=
    List.isEmpty_eq_false_iff_exists_mem.2
      ⟨_, (mem_pipelineEnvironments_of_allowsPromotion hallow).1⟩
  simp only [promoteComponent, h, henv, getComponentBindings,
    getComponent_eq_ok.2 ⟨component, hcomponent, rfl⟩, hnonempty, bind, Except.bind, if_false,
    pure, Except.pure]
  rw [show (toComponentResponse component).type = component.type from rfl,
    collectBindings_eq hkind]
  rfl

/-- The reply of a promotion that went through: the component's binding in every environment of the
pipeline, in the order the range over the environments took, as the store holds them after the
write. -/
theorem promoteComponent_reply (orders : Nat → RangeOrder)
    (h : promoteTargetBinding defaultPipeline s req = .ok s') :
    ∃ pipeline kind, PipelineOf defaultPipeline s req.orgName req.projectName pipeline ∧
      allowsPromotion pipeline req.sourceEnvironment req.targetEnvironment = true ∧
      promotedStore kind req s = some s' ∧
      promoteComponent orders defaultPipeline s req =
        (.ok (bindingResponses (fun n => orders (n + 2)) s' kind req.orgName req.projectName
          req.componentName (pipelineEnvironments (orders 0) pipeline)), s') := by
  obtain ⟨⟨pipeline, hpipeline, hallow⟩, component, kind, hcomponent, hkind, hstore⟩ :=
    promoteTargetBinding_eq_ok.1 h
  have hframe := promotedStore_frame hstore
  refine ⟨pipeline, kind, hpipeline, hallow, hstore,
    promoteComponent_eq_of_checks orders h ?_ hallow ?_ hkind⟩
  · rw [hframe]; exact hpipeline
  · rw [hframe]; exact hcomponent

/-- A promotion that went through can be repeated, and Go's ranges may take other orders the second
time. The second call changes nothing and replies with the same bindings, in an order that may
differ, each reporting the image of its workload that the range over the containers met first:
they are the first reply's up to order and images, and up to order alone when every binding of the
store has a workload that names at most one image. A client may retry a promotion whose reply it
lost. -/
theorem promoteComponent_idempotent (orders orders' : Nat → RangeOrder)
    {responses : List BindingResponse}
    (h : (promoteComponent orders defaultPipeline s req).1 = .ok responses) :
    (promoteComponent orders' defaultPipeline (promoteComponent orders defaultPipeline s req).2
        req).2 = (promoteComponent orders defaultPipeline s req).2 ∧
      ∃ responses', (promoteComponent orders' defaultPipeline
          (promoteComponent orders defaultPipeline s req).2 req).1 = .ok responses' ∧
        (responses'.map fun r => { r with image := "" }).Perm
          (responses.map fun r => { r with image := "" }) ∧
        ((∀ b ∈ s.bindings.items, b.spec.workloadSpec.OneImage) → responses'.Perm responses) := by
  cases hp : promoteTargetBinding defaultPipeline s req with
  | error err => simp [promoteComponent, hp] at h
  | ok s' =>
    obtain ⟨⟨pipeline, hpipeline, hallow⟩, component, kind, hcomponent, hkind, hstore⟩ :=
      promoteTargetBinding_eq_ok.1 hp
    have hframe := promotedStore_frame hstore
    have hpipeline' : PipelineOf defaultPipeline s' req.orgName req.projectName pipeline := by
      rw [hframe]; exact hpipeline
    have hcomponent' : ComponentIn s' req.orgName req.projectName req.componentName component := by
      rw [hframe]; exact hcomponent
    have hagain : promoteTargetBinding defaultPipeline s' req = .ok s' :=
      promoteTargetBinding_eq_ok.2 ⟨⟨pipeline, hpipeline', hallow⟩, component, kind, hcomponent',
        hkind, promotedStore_promotedStore hstore⟩
    have hsnd : (promoteComponent orders defaultPipeline s req).2 = s' := by
      rw [promoteComponent_snd, hp]
    have hfirst := promoteComponent_eq_of_checks orders hp hpipeline' hallow hcomponent' hkind
    have hsecond :=
      promoteComponent_eq_of_checks orders' hagain hpipeline' hallow hcomponent' hkind
    rw [hfirst] at h
    cases h
    rw [hsnd, hsecond]
    have henvs := pipelineEnvironments_perm (orders' 0) (orders 0) pipeline
    refine ⟨rfl, _, rfl, ?_, fun hone => ?_⟩
    · have herase (orders : Nat → RangeOrder) (environments : List String) :
          (bindingResponses orders s' kind req.orgName req.projectName req.componentName
            environments).map (fun r => { r with image := "" }) =
          environments.filterMap fun environment =>
            (s'.bindingIn (kind, req.orgName, req.componentName, environment)).map fun binding =>
              { bindingResponse .listed kind req.projectName binding with image := "" } :=
        map_bindingResponses _ fun _ _ _ _ _ => rfl
      rw [herase, herase]
      exact henvs.filterMap _
    · have hone' := promotedStore_oneImage hstore hone
      rw [bindingResponses_of_oneImage fun _ _ b hb => hone' b (findSlot_eq_some_mem hb).1,
        bindingResponses_of_oneImage fun _ _ b hb => hone' b (findSlot_eq_some_mem hb).1]
      exact henvs.filterMap _

/-- `cart` is promoted with every range in the order of the list, then again with every range in
the reverse order. -/
theorem promoteComponent_idempotent_cart :
    (promoteComponent (fun _ => .listed) "default" sampleStore samplePromotion).1 =
        .ok samplePromotionReply ∧
      (promoteComponent (fun _ => .reversed) "default"
          (promoteComponent (fun _ => .listed) "default" sampleStore samplePromotion).2
          samplePromotion).2 =
        (promoteComponent (fun _ => .listed) "default" sampleStore samplePromotion).2 ∧
      ∃ responses', (promoteComponent (fun _ => .reversed) "default"
          (promoteComponent (fun _ => .listed) "default" sampleStore samplePromotion).2
          samplePromotion).1 = .ok responses' ∧
        (responses'.map fun r => { r with image := "" }).Perm
          (samplePromotionReply.map fun r => { r with image := "" }) ∧
        ((∀ b ∈ sampleStore.bindings.items, b.spec.workloadSpec.OneImage) →
          responses'.Perm samplePromotionReply) :=
  have hreply : (promoteComponent (fun _ => .listed) "default" sampleStore samplePromotion).1 =
      .ok samplePromotionReply := rfl
  ⟨hreply, promoteComponent_idempotent _ (fun _ => .reversed) hreply⟩

/-- `PromoteComponent` replies with the bindings exactly when the pipeline of the project allows
the step, the component is in the project with a type that has bindings, the source environment
holds its binding, and the target environment holds one to update or the new binding's name,
component-environment, is free in the namespace. -/
theorem promoteComponent_succeeds_iff (orders : Nat → RangeOrder) :
    (∃ responses, (promoteComponent orders defaultPipeline s req).1 = .ok responses) ↔
      (∃ pipeline, PipelineOf defaultPipeline s req.orgName req.projectName pipeline ∧
        allowsPromotion pipeline req.sourceEnvironment req.targetEnvironment = true) ∧
      ∃ component kind, ComponentIn s req.orgName req.projectName req.componentName component ∧
        BindingKind.ofComponentType component.type = some kind ∧
        (s.bindingIn (req.sourceSlot kind)).isSome ∧
        ((s.bindingIn (req.targetSlot kind)).isSome ∨
          (kind, req.orgName, targetBindingName req) ∉ s.bindings.items.map Binding.key) := by
  have hreply : (∃ responses, (promoteComponent orders defaultPipeline s req).1 = .ok responses) ↔
      ∃ s', promoteTargetBinding defaultPipeline s req = .ok s' := by
    constructor
    · rintro ⟨responses, h⟩
      cases hp : promoteTargetBinding defaultPipeline s req with
      | error err => simp [promoteComponent, hp] at h
      | ok s' => exact ⟨s', rfl⟩
    · rintro ⟨s', h⟩
      obtain ⟨_, _, -, -, -, hcall⟩ := promoteComponent_reply orders h
      exact ⟨_, by rw [hcall]⟩
  simp only [hreply, promoteTargetBinding_eq_ok, ← promotedStore_isSome]
  constructor
  · rintro ⟨s', hpath, component, kind, hcomponent, hkind, hstore⟩
    exact ⟨hpath, component, kind, hcomponent, hkind, Option.isSome_iff_exists.2 ⟨s', hstore⟩⟩
  · rintro ⟨hpath, component, kind, hcomponent, hkind, hstore⟩
    obtain ⟨s', hstore⟩ := Option.isSome_iff_exists.1 hstore
    exact ⟨s', hpath, component, kind, hcomponent, hkind, hstore⟩

/-- The reply of a promotion that went through reports the target binding as the store holds it
after the write, with the spec built from the source binding's, so with an image of the source's
workload, taken in the order of the range that built its response. -/
theorem promoteComponent_reply_lists_target (orders : Nat → RangeOrder)
    {responses : List BindingResponse}
    (h : (promoteComponent orders defaultPipeline s req).1 = .ok responses) :
    ∃ kind source target, s.bindingIn (req.sourceSlot kind) = some source ∧
      (promoteComponent orders defaultPipeline s req).2.bindingIn (req.targetSlot kind) =
        some target ∧
      target.spec = targetBindingSpec req source.spec ∧
      ∃ order, bindingResponse order kind req.projectName target ∈ responses ∧
        (bindingResponse order kind req.projectName target).image =
          extractImageFromWorkloadSpec order source.spec.workloadSpec := by
  cases hp : promoteTargetBinding defaultPipeline s req with
  | error err => simp [promoteComponent, hp] at h
  | ok s' =>
    obtain ⟨pipeline, kind, -, hallow, hstore, hcall⟩ := promoteComponent_reply orders hp
    obtain ⟨source, hsource, hlookup⟩ := promotedStore_bindingIn hstore
    have htarget : s'.bindingIn (req.targetSlot kind) =
        some (promotedBinding kind req source (s.bindingIn (req.targetSlot kind))) := by
      simp [hlookup]
    rw [hcall] at h ⊢
    simp only [Except.ok.injEq] at h
    have hmem : ∃ order, bindingResponse order kind req.projectName
        (promotedBinding kind req source (s.bindingIn (req.targetSlot kind))) ∈ responses := by
      rw [← h]
      exact mem_bindingResponses (mem_pipelineEnvironments_of_allowsPromotion hallow).2 htarget
    obtain ⟨order, hmem⟩ := hmem
    refine ⟨kind, source, _, hsource, htarget, promotedBinding_spec _ _, order, hmem, ?_⟩
    simp [bindingResponse, targetBindingSpec]

theorem promoteComponent_reply_lists_target_cart :
    (promoteComponent (fun _ => .listed) "default" sampleStore samplePromotion).1 =
        .ok samplePromotionReply ∧
      ∃ kind source target, sampleStore.bindingIn (samplePromotion.sourceSlot kind) = some source ∧
        (promoteComponent (fun _ => .listed) "default" sampleStore samplePromotion).2.bindingIn
          (samplePromotion.targetSlot kind) = some target ∧
        target.spec = targetBindingSpec samplePromotion source.spec ∧
        ∃ order, bindingResponse order kind "shop" target ∈ samplePromotionReply ∧
          (bindingResponse order kind "shop" target).image =
            extractImageFromWorkloadSpec order source.spec.workloadSpec :=
  have hreply : (promoteComponent (fun _ => .listed) "default" sampleStore samplePromotion).1 =
      .ok samplePromotionReply := rfl
  ⟨hreply, promoteComponent_reply_lists_target _ hreply⟩

end Promoted

end Api
end OpenChoreo
