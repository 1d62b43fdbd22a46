import OpenChoreo.Release.Collect

/-!
# Two steady-state passes in a row

A pass that returns without error on an active Release that carries the finalizer creates missing
namespaces, runs the three phases once, and records the inventory of the desired documents.
`reconcilePass_ok_quiet` says so once, for every such pass with no other actor; the results about
two passes are read off it.

After a first pass whose lists all succeed, a second pass has nothing stale to delete. When no
delete of the first pass targets the namespace of an object it applied, the second pass leaves the
data plane as the first left it: at a desired key the second apply writes what the first one
wrote, and every namespace it needs is there. A first pass that deletes such a namespace loses the
objects in it, and the second creates the namespace and applies them again
(`second_pass_restores_cascaded_objects`).
-/

namespace OpenChoreo
namespace ReleaseController

/-! ## Facts the two passes share -/

/-- The namespaces a pass creates carry no `managed-by` label, so no Release's selector matches
them. -/
theorem desiredNamespace_not_selected (release r : Release) (name : String) :
    (liveSelector r).matches (desiredNamespace release name).labels = false := by
  simp [Labels.matches, liveSelector, desiredNamespace, Labels.find?, LabelKeyManagedBy,
    LabelKeyCreatedBy, LabelKeyReleaseName, LabelKeyReleaseNamespace, LabelKeyReleaseUID,
    LabelKeyEnvironmentName, LabelKeyProjectName]

theorem not_selected_of_mem_makeDesiredNamespaces {release r : Release} {docs : List Unstructured}
    {x : Unstructured} (hx : x ∈ makeDesiredNamespaces release docs) :
    (liveSelector r).matches x.labels = false := by
  obtain ⟨name, -, rfl⟩ := List.mem_map.1 hx
  exact desiredNamespace_not_selected release r name

/-- The desired documents do not depend on the status. -/
theorem makeDesiredObjects_status (release : Release) (status : ReleaseStatus) :
    ∀ entries, makeDesiredObjects { release with status := status } entries =
      makeDesiredObjects release entries
  | [] => rfl
  | e :: rest => by
    simp only [makeDesiredObjects, makeDesiredObjects_status release status rest]
    rfl

theorem makeDesiredResources_status (release : Release) (status : ReleaseStatus) :
    makeDesiredResources { release with status := status } = makeDesiredResources release :=
  makeDesiredObjects_status release status _

/-- The kinds probed after an inventory of the desired documents were probed before it. -/
theorem mem_findAllKnownGVKs_inventory {desired : List Unstructured} {applied : List ResourceStatus}
    {g : GVK} (hg : g ∈ findAllKnownGVKs desired (desired.map inventoryRecord)) :
    g ∈ findAllKnownGVKs desired applied := by
  simp only [mem_findAllKnownGVKs, List.mem_map] at hg ⊢
  rcases hg with hg | ⟨_, ⟨d, hd, rfl⟩, rfl⟩
  · exact .inl hg
  · exact .inl ⟨d, hd, rfl⟩

/-- No delete in the log. -/
def NoDelete (log : List Call) : Prop :=
  ∀ x, .delete x ∉ log

theorem NoDelete.of_calls {α : Type} {m : M α} (hm : Calls (fun c => c.isDelete = false) m)
    {s s' : St} {a : α} (he : m s = (a, s')) (h : NoDelete s.log) : NoDelete s'.log :=
  fun x hx => ((hm.run he).mem_log hx).elim (h x) fun hx => by simp [Call.isDelete] at hx

/-! ## One pass -/

/-- A pass on an active Release that carries the finalizer and returns without error, with no other
actor: from the data plane it started with, `ensureNamespaces` succeeds, the three phases run once
from the state it leaves (where nothing was deleted yet), and every delete of the pass is theirs;
the data plane is what they left, and the stored Release records the inventory of the desired
documents. -/
theorem reconcilePass_ok_quiet {o : Oracle} (hq : Quiet o) {w : World} {r : Release} {res : Result}
    (hr : w.release = some r) (hnd : r.deletionTimestamp = none)
    (hF : DataPlaneCleanupFinalizer ∈ r.finalizers) (hok : (reconcilePass o w).result = .ok res) :
    ∃ desired t₁ t live, makeDesiredResources r = .ok desired ∧ t₁.dataPlane = w.dataPlane ∧
      ensureNamespaces o (makeDesiredNamespaces r desired) t₁ = (.ok (), t) ∧ NoDelete t.log ∧
      (syncResources o r desired t).1 = .ok live ∧
      (reconcilePass o w).world.dataPlane = (syncResources o r desired t).2.dataPlane ∧
      (reconcilePass o w).world.release = some { r with
        status := { r.status with resources := desired.map inventoryRecord } } ∧
      (∀ c ∈ (syncResources o r desired t).2.log, c ∈ (reconcilePass o w).log) ∧
      (∀ x, .delete x ∈ (reconcilePass o w).log →
        .delete x ∈ (syncResources o r desired t).2.log) := by
  have hpass := reconcile_ok_active o (s := St.init w) hr hnd hF hok
  have hok' : (reconcileRelease o r (getRelease o (St.init w)).2).1 = .ok res := hpass ▸ hok
  obtain ⟨desired, t₁, t, t₃, live, b, e₁, hd, e₂, e₃, e₄⟩ := reconcileRelease_ok o hok'
  have hfin : (reconcile o (St.init w)).2 = (updateStatus o r desired t₃).2 := by rw [hpass, e₄]
  have run₁ := (getDPClient_calls (P := fun c => c.keepsRelease = true ∧ c.isDelete = false) o r
    ⟨rfl, rfl⟩).run e₁
  have run₂ := (ensureNamespaces_calls (P := fun c => c.keepsRelease = true ∧ c.isDelete = false) o
    _ fun _ _ => ⟨⟨rfl, rfl⟩, rfl, rfl⟩).run e₂
  have run₃ := (syncResources_calls (P := fun c => c.keepsRelease = true) o r desired
    (fun _ _ => rfl) (fun _ _ _ => rfl) fun _ => rfl).run e₃
  have run₄ := updateStatus_calls (P := fun c => c.isDelete = false) o r desired
    (fun _ => rfl) t₃
  have hdp₁ : t₁.dataPlane = w.dataPlane := by
    have h := getDPClient_quiet hq r (getRelease o (St.init w)).2
    rw [e₁] at h
    exact h.trans (by simp [getRelease, St.close, St.init, hq _ _])
  have hrel : t₃.release = some r := by
    rw [run₃.release_eq fun _ h => h, run₂.release_eq fun _ h => h.1, run₁.release_eq fun _ h => h.1]
    exact hr
  refine ⟨desired, t₁, t, live, hd, hdp₁, e₂, ?_, by rw [e₃], ?_, ?_, ?_, ?_⟩
  · have h₀ : NoDelete (getRelease o (St.init w)).2.log := by simp [NoDelete, getRelease, St.close,
      St.init]
    exact fun x hx => ((run₂.mem_log hx).elim ((run₁.mem_log · |>.elim (h₀ x) (by simp [Call.isDelete])))
      (by simp [Call.isDelete]))
  · show (reconcile o (St.init w)).2.dataPlane = _
    rw [hfin, updateStatus_quiet hq, e₃]
  · show (reconcile o (St.init w)).2.release = _
    rw [hfin]
    exact updateStatus_release o hrel (by rw [e₄])
  · intro c hc
    show c ∈ (reconcile o (St.init w)).2.log
    rw [hfin]
    exact run₄.mem_log_of_mem (by rwa [e₃] at hc)
  · intro x hx
    have hx : .delete x ∈ (updateStatus o r desired t₃).2.log := hfin ▸ hx
    rw [e₃]
    exact (run₄.mem_log hx).resolve_right (by simp [Call.isDelete])

/-! ## Two passes -/

/-- A result that `isOk` accepts is an `ok` value. -/
theorem exists_ok_of_isOk {ε α : Type} {x : Except ε α} (h : x.isOk = true) : ∃ a, x = .ok a := by
  cases x with
  | error e => exact absurd h (by simp [Except.isOk, Except.toBool])
  | ok a => exact ⟨a, rfl⟩

/-- A sync finds nothing stale when each selected object it lists was kept by an earlier sync of the
same documents that listed every selected object of its kinds and deleted only the stale ones. -/
theorem findStaleResources_settled {sel : Labels} {D live₁ live₂ : List Unstructured}
    {dp₀ dp : DataPlane} {probe₁ probe₂ : List GVK}
    (hcomp : ∀ x ∈ (applyAll dp₀ D).objects, x.gvk ∈ probe₁ → sel.matches x.labels = true →
      x ∈ live₁)
    (hprobe : ∀ g ∈ probe₂, g ∈ probe₁)
    (hkept : ∀ x, sel.matches x.labels = true → x ∈ dp.objects →
      x ∈ (deleteAll (applyAll dp₀ D) (findStaleResources live₁ D)).objects)
    (hlive : ∀ y ∈ live₂, y ∈ (applyAll dp D).objects ∧ y.gvk ∈ probe₂ ∧ sel.matches y.labels = true) :
    findStaleResources live₂ D = [] := by
  refine List.eq_nil_iff_forall_not_mem.2 fun y hy => ?_
  obtain ⟨hy, hne, hnot⟩ := mem_findStaleResources.1 hy
  obtain ⟨hyA, hyg, hym⟩ := hlive y hy
  by_cases hk : ∃ d ∈ D, d.key = y.key
  · obtain ⟨d, hd, hdk⟩ := hk
    rcases mem_applyAll hyA with hmem | ⟨-, hoff⟩
    · exact hnot y hmem rfl
    · exact hoff d hd hdk
  push_neg at hk
  obtain ⟨hyA₁, hkeep⟩ := mem_deleteAll.1 (hkept y hym ((mem_applyAll_off hk).1 hyA))
  exact hkeep y (mem_findStaleResources.2 ⟨hcomp y hyA₁ (hprobe _ hyg) hym, hne, hnot⟩) (.inl rfl)

/-- No delete in the log targets the namespace of an object applied in it. -/
def SparesApplied (log : List Call) : Prop :=
  ∀ y d, .delete y ∈ log → .apply d ∈ log → ¬ InNamespace y.key d.ns

/-- The object a call deletes. -/
def Call.deleted? : Call → Option Unstructured
  | .delete y => some y
  | _ => none

/-- The object a call applies. -/
def Call.applied? : Call → Option Unstructured
  | .apply d => some d
  | _ => none

@[simp] theorem Call.deleted?_eq_some {c : Call} {y : Unstructured} :
    c.deleted? = some y ↔ c = .delete y := by
  cases c <;> simp [Call.deleted?]

@[simp] theorem Call.applied?_eq_some {c : Call} {d : Unstructured} :
    c.applied? = some d ↔ c = .apply d := by
  cases c <;> simp [Call.applied?]

instance (log : List Call) : Decidable (SparesApplied log) :=
  decidable_of_iff (∀ y ∈ log.filterMap Call.deleted?, ∀ d ∈ log.filterMap Call.applied?,
      ¬ InNamespace y.key d.ns) <| by
    simp only [SparesApplied, List.mem_filterMap, Call.deleted?_eq_some, Call.applied?_eq_some,
      exists_eq_right]
    exact ⟨fun h y d hy hd => h y hy d hd, fun h y hy d hd => h y d hy hd⟩

/-- The data plane a second pass starts from holds every namespace the first pass needed, when no
delete of the first targets the namespace of an object it applied. -/
theorem namespaces_kept {o : Oracle} (hq : Quiet o) (hi : Immediate o) {r : Release}
    {D live : List Unstructured} {t₁ t : St}
    (e : ensureNamespaces o (makeDesiredNamespaces r D) t₁ = (.ok (), t))
    (hsync : (syncResources o r D t).1 = .ok live)
    (hspares : SparesApplied (syncResources o r D t).2.log) :
    ∀ x ∈ makeDesiredNamespaces r D, (syncResources o r D t).2.dataPlane.hasNamespace x.name = true := by
  intro x hx
  have hrely : NamespacesNeverDeleted o := fun n dp name h => by rwa [hq n dp]
  have ht := ensureNamespaces_exist_of_ok o hrely _ (makeDesiredNamespaces_shape r D) t₁ (by rw [e])
  rw [e] at ht
  obtain ⟨happ, hdel⟩ := syncResources_logs o hsync
  have hmem : x.name ∈ (makeDesiredNamespaces r D).map (·.name) := List.mem_map_of_mem _ hx
  rw [makeDesiredNamespaces_names] at hmem
  obtain ⟨⟨d, hd, hdns⟩, hne⟩ := by
    simpa only [List.mem_dedup, List.mem_filter, List.mem_map, decide_eq_true_eq] using hmem
  rw [(syncResources_quiet hq hi hsync).1]
  refine hasNamespace_deleteAll (hasNamespace_applyAll (ht x hx)) fun y hy hkey => ?_
  exact hspares y d (hdel y hy) (happ d hd) ⟨hdns ▸ hne, hkey.trans (by rw [hdns])⟩

/-- Reconciliation settles after one pass. Take two consecutive passes on an active Release that
carries the finalizer, both returning without error, with no other actor and immediate deletes, and
no failed list in the first. The second pass issues no delete; and when no delete of the first pass
targets the namespace of an object it applied, the second leaves the data plane as the first left
it. -/
theorem reconcile_twice_settles (o₁ o₂ : Oracle) (hq₁ : Quiet o₁) (hi₁ : Immediate o₁)
    (hq₂ : Quiet o₂) (hi₂ : Immediate o₂) (w : World) (r : Release) (hr : w.release = some r)
    (hnd : r.deletionTimestamp = none) (hF : DataPlaneCleanupFinalizer ∈ r.finalizers)
    (hok₁ : (reconcilePass o₁ w).result.isOk = true)
    (hlists : ∀ c ∈ (reconcilePass o₁ w).log, c.isFailedList = false)
    (hok₂ : (reconcilePass o₂ (reconcilePass o₁ w).world).result.isOk = true) :
    (∀ x, .delete x ∉ (reconcilePass o₂ (reconcilePass o₁ w).world).log) ∧
    (SparesApplied (reconcilePass o₁ w).log →
      ∀ x, x ∈ (reconcilePass o₁ w).world.dataPlane.objects ↔
        x ∈ (reconcilePass o₂ (reconcilePass o₁ w).world).world.dataPlane.objects) := by
  obtain ⟨res₁, hres₁⟩ := exists_ok_of_isOk hok₁
  obtain ⟨D, t₁, t, live₁, hD, -, e₁, -, hsync₁, hdp₁, hrel₁, hlog₁, -⟩ :=
    reconcilePass_ok_quiet hq₁ hr hnd hF hres₁
  obtain ⟨res₂, hres₂⟩ := exists_ok_of_isOk hok₂
  obtain ⟨D', u₁, u, live₂, hD', hu₁, e₂, hnod₂, hsync₂, hdp₂, -, -, hdel₂⟩ :=
    reconcilePass_ok_quiet hq₂ hrel₁ hnd hF hres₂
  obtain rfl : D = D' := by
    rw [makeDesiredResources_status, hD] at hD'
    exact Except.ok.inj hD'
  -- the namespaces the second pass asks for do not depend on the status
  replace e₂ : ensureNamespaces o₂ (makeDesiredNamespaces r D) u₁ = (.ok (), u) := e₂
  obtain ⟨hdpA₁, hlive₁, hcomplete₁⟩ := syncResources_quiet hq₁ hi₁ hsync₁
  obtain ⟨hdpA₂, hlive₂, -⟩ := syncResources_quiet hq₂ hi₂ hsync₂
  have hgrow₂ := ensureNamespaces_grows hq₂ (makeDesiredNamespaces r D)
    (makeDesiredNamespaces r D) (fun _ h => h) u₁
  rw [e₂] at hgrow₂
  -- the second pass starts from the first pass's plane plus namespaces, which are not selected
  have hfresh : ∀ x, (liveSelector r).matches x.labels = true →
      (x ∈ u.dataPlane.objects ↔ x ∈ (reconcilePass o₁ w).world.dataPlane.objects) :=
    fun x hm => ⟨fun h => hu₁ ▸ (hgrow₂.2 x h).resolve_right fun hns =>
      Bool.noConfusion (hm.symm.trans (not_selected_of_mem_makeDesiredNamespaces hns)),
      fun h => hgrow₂.1 x (hu₁ ▸ h)⟩
  have hstale₂ : findStaleResources live₂ D = [] :=
    findStaleResources_settled (hcomplete₁ fun c hc => hlists c (hlog₁ c hc))
      (fun _ hg => mem_findAllKnownGVKs_inventory hg)
      (fun x hm hx => hdpA₁ ▸ hdp₁ ▸ (hfresh x hm).1 hx) hlive₂
  refine ⟨fun x hx => ?_, fun hspares x => ?_⟩
  · rcases syncResources_deletes o₂ hsync₂ (hdel₂ x hx) with h | h
    · exact hnod₂ x h
    · rw [hstale₂] at h
      exact List.not_mem_nil x h
  have hspares₁ : SparesApplied (syncResources o₁ r D t).2.log :=
    fun y d hy hd => hspares y d (hlog₁ _ hy) (hlog₁ _ hd)
  -- every namespace is in place, so the second pass creates none
  have hu : u.dataPlane = (reconcilePass o₁ w).world.dataPlane := by
    have h := ensureNamespaces_present hq₂ (makeDesiredNamespaces r D) u₁
      (hu₁ ▸ hdp₁ ▸ namespaces_kept hq₁ hi₁ e₁ hsync₁ hspares₁)
    rwa [e₂, hu₁] at h
  rw [hdp₂, hdpA₂, hstale₂, deleteAll_nil, hu]
  by_cases hk : ∃ d ∈ D, d.key = x.key
  · obtain ⟨happ, hdel⟩ := syncResources_logs o₁ hsync₁
    rw [← @mem_applyAll_at t.dataPlane _ x D hk, hdp₁, hdpA₁, mem_deleteAll]
    refine ⟨And.left, fun h => ⟨h, fun y hy hrem => ?_⟩⟩
    obtain ⟨d, hd, hdk⟩ := hk
    have hxD : x ∈ D := (mem_applyAll h).resolve_right fun h' => h'.2 d hd hdk
    rcases hrem with hkey | hin
    · exact stale_key_not_desired (fun z hz => (hlive₁ z hz).1) y hy x hxD hkey
    · exact hspares₁ y x (hdel y hy) (happ x hxD) hin
  · push_neg at hk
    rw [mem_applyAll_off hk]

theorem reconcile_twice_settles_collected :
    Quiet quietOracle ∧ Immediate quietOracle ∧ activeWorld.release = some activeRelease ∧
    activeRelease.deletionTimestamp = none ∧ DataPlaneCleanupFinalizer ∈ activeRelease.finalizers ∧
    (reconcilePass quietOracle activeWorld).result.isOk = true ∧
    (∀ c ∈ (reconcilePass quietOracle activeWorld).log, c.isFailedList = false) ∧
    (reconcilePass quietOracle (reconcilePass quietOracle activeWorld).world).result.isOk = true ∧
    SparesApplied (reconcilePass quietOracle activeWorld).log ∧
    (∀ x, .delete x ∉ (reconcilePass quietOracle (reconcilePass quietOracle activeWorld).world).log) ∧
    ∀ x, x ∈ (reconcilePass quietOracle activeWorld).world.dataPlane.objects ↔
      x ∈ (reconcilePass quietOracle (reconcilePass quietOracle activeWorld).world).world.dataPlane.objects :=
  have hq : Quiet quietOracle := fun _ _ => rfl
  have hi : Immediate quietOracle := fun _ => rfl
  have hF : DataPlaneCleanupFinalizer ∈ activeRelease.finalizers := List.mem_singleton_self _
  have hok₁ : (reconcilePass quietOracle activeWorld).result.isOk = true := by decide
  have hlists : ∀ c ∈ (reconcilePass quietOracle activeWorld).log, c.isFailedList = false := by
    decide
  have hok₂ : (reconcilePass quietOracle (reconcilePass quietOracle activeWorld).world).result.isOk =
    true := by decide
  have hspares : SparesApplied (reconcilePass quietOracle activeWorld).log := by decide
  have hsettle := reconcile_twice_settles quietOracle quietOracle hq hi hq hi activeWorld activeRelease
    rfl rfl hF hok₁ hlists hok₂
  ⟨hq, hi, rfl, rfl, hF, hok₁, hlists, hok₂, hspares, hsettle.1, hsettle.2 hspares⟩

/-- On `movedWorld` the first pass deletes the stale namespace `team-a`, which takes with it the
ConfigMap the pass applied. The second pass, with no delete, no failed list and an inventory of the
spec's kinds only, creates the namespace and applies the ConfigMap again: both carry the Release's
`release-uid` label, and neither was there after the first pass. -/
theorem second_pass_restores_cascaded_objects :
    Quiet quietOracle ∧ Immediate quietOracle ∧
    (∀ c ∈ (reconcilePass quietOracle movedWorld).log, c.isFailedList = false) ∧
    (reconcilePass quietOracle movedWorld).result.isOk = true ∧
    (reconcilePass quietOracle movedWorld).world.release.map
      (·.status.resources.map ResourceStatus.gvk) = some [sampleDocument.gvk] ∧
    (∀ c ∈ (reconcilePass quietOracle (reconcilePass quietOracle movedWorld).world).log,
      c.isFailedList = false ∧ c.isDelete = false) ∧
    (reconcilePass quietOracle (reconcilePass quietOracle movedWorld).world).result.isOk = true ∧
    Labels.find? sampleDesired.labels LabelKeyReleaseUID = some movedRelease.uid ∧
    sampleDesired ∉ (reconcilePass quietOracle movedWorld).world.dataPlane.objects ∧
    sampleDesired ∈
      (reconcilePass quietOracle (reconcilePass quietOracle movedWorld).world).world.dataPlane.objects ∧
    Labels.find? (desiredNamespace movedRelease "team-a").labels LabelKeyReleaseUID =
      some movedRelease.uid ∧
    desiredNamespace movedRelease "team-a" ∉
      (reconcilePass quietOracle movedWorld).world.dataPlane.objects ∧
    desiredNamespace movedRelease "team-a" ∈
      (reconcilePass quietOracle (reconcilePass quietOracle movedWorld).world).world.dataPlane.objects :=
  ⟨fun _ _ => rfl, fun _ => rfl, by decide⟩

end ReleaseController
end OpenChoreo
