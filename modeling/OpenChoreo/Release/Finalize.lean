import OpenChoreo.Release.Effects

/-!
# What finalization leaves on the data plane

A pass removes the finalizer only on one path: the Finalizing condition is already stored, the
data-plane client resolves, the lists of every kind in the inventory return nothing, and the
update of the Release succeeds. `reconcile_removes_finalizer` says so once.

Seen from one pass, the other actors may delete anything, but under the rely
`NoOwnedObjectCreated` they never make an object carry the Release's two ownership labels. The
lists of the pass then prove that no such object of an inventoried kind is left when the finalizer
goes, provided every list succeeded. A list that fails is skipped, and with it the proof: the
finalizer is then removed over an object of that kind.
-/

namespace OpenChoreo
namespace ReleaseController

/-- The data plane gained no object that the selector matches. -/
def AddsNoOwned (sel : Labels) (dp dp' : DataPlane) : Prop :=
  ∀ x ∈ dp'.objects, sel.matches x.labels = true → x ∈ dp.objects

theorem AddsNoOwned.refl (sel : Labels) (dp : DataPlane) : AddsNoOwned sel dp dp :=
  fun _ hx _ => hx

theorem AddsNoOwned.trans {sel : Labels} {dp₁ dp₂ dp₃ : DataPlane} (h₁ : AddsNoOwned sel dp₁ dp₂)
    (h₂ : AddsNoOwned sel dp₂ dp₃) : AddsNoOwned sel dp₁ dp₃ :=
  fun x hx hm => h₁ x (h₂ x hx hm) hm

/-- The rely of finalization: the other actors never make an object carry the Release's ownership
labels. -/
def NoOwnedObjectCreated (o : Oracle) (r : Release) : Prop :=
  ∀ n dp, AddsNoOwned (liveSelector r) dp (o.interfere n dp)

section Rely

variable {o : Oracle} {r : Release} (hrely : NoOwnedObjectCreated o r)
include hrely

theorem listLiveResourcesByGVKs_addsNoOwned (release : Release) (hsel : liveSelector release = liveSelector r) :
    ∀ (gvks : List GVK) (s : St),
      AddsNoOwned (liveSelector r) s.dataPlane (listLiveResourcesByGVKs o release gvks s).2.dataPlane
  | [], s => AddsNoOwned.refl _ _
  | g :: rest, s => by
    have hstep : AddsNoOwned (liveSelector r) s.dataPlane (listByGVK o g (liveSelector release) s).2.dataPlane := by
      unfold listByGVK; split <;> exact hrely _ _
    simp only [listLiveResourcesByGVKs, bind_apply]
    rcases (listByGVK o g (liveSelector release) s).1 with _ | items
    · exact hstep.trans (listLiveResourcesByGVKs_addsNoOwned release hsel rest _)
    · exact hstep.trans (listLiveResourcesByGVKs_addsNoOwned release hsel rest _)

theorem updateRelease_addsNoOwned (rel : Release) (s : St) :
    AddsNoOwned (liveSelector r) s.dataPlane (updateRelease o rel s).2.dataPlane := by
  unfold updateRelease; split <;> exact hrely _ _

/-- When every list succeeded and together they returned nothing, the data plane a run of
`listLiveResourcesByGVKs` leaves holds no object of a listed kind that the selector matches. -/
theorem listLiveResourcesByGVKs_clean (release : Release) (hsel : liveSelector release = liveSelector r) :
    ∀ (gvks : List GVK) (s : St),
      (∀ c ∈ (listLiveResourcesByGVKs o release gvks s).2.log, c.isFailedList = false) →
      (listLiveResourcesByGVKs o release gvks s).1 = [] →
      ∀ x ∈ (listLiveResourcesByGVKs o release gvks s).2.dataPlane.objects,
        (liveSelector r).matches x.labels = true → x.gvk ∉ gvks
  | [], _, _, _, _, _, _, hg => List.not_mem_nil _ hg
  | g :: rest, s, hlists, hnil, x, hx, hm, hg => by
    have run := listLiveResourcesByGVKs_calls (P := fun _ => True) o release rest
      (fun _ _ _ _ => trivial)
    by_cases hf : o.fault s.calls = true
    · simp only [listLiveResourcesByGVKs, bind_apply, listByGVK, hf, if_true] at hlists
      exact Bool.noConfusion (hlists (.list g (liveSelector release) none)
        ((run _).mem_log_of_mem (by simp [St.close])))
    set dp := o.interfere s.calls s.dataPlane
    set s₁ := s.close dp (.list g (liveSelector release) (some (dp.list g (liveSelector release))))
    have hstep : listByGVK o g (liveSelector release) s = (.ok (dp.list g (liveSelector release)), s₁) := by
      simp [listByGVK, hf, s₁, dp]
    simp only [listLiveResourcesByGVKs, bind_apply, hstep, pure_apply, List.append_eq_nil] at hlists hnil hx
    have hx₁ := listLiveResourcesByGVKs_addsNoOwned hrely release hsel rest s₁ x hx hm
    rcases List.mem_cons.1 hg with hg | hg
    · have : x ∈ dp.list g (liveSelector release) := DataPlane.mem_list.2 ⟨hx₁, hg, hsel ▸ hm⟩
      rw [hnil.1] at this
      exact List.not_mem_nil x this
    · exact listLiveResourcesByGVKs_clean release hsel rest s₁ hlists hnil.2 x hx hm hg

end Rely

/-! ## The path that removes the finalizer -/

section Removal

variable (o : Oracle)

theorem recordCleanupFailure_calls (release : Release) (err msg : String) :
    Calls (fun c => c.keepsFinalizers = true) (recordCleanupFailure o release err msg) :=
  Calls.bind (updateStatusConditions_calls o _ rfl) fun r => by
    rcases r with _ | _ <;> exact Calls.pure _

/-- Calls that keep the finalizers cannot take the cleanup finalizer away. -/
theorem CallRun.keeps_cleanupFinalizer {s s' : St} {fs : List String}
    (run : CallRun (fun c => c.keepsFinalizers = true) s s')
    (hs : s.release.map (·.finalizers) = some fs) (hF : DataPlaneCleanupFinalizer ∈ fs)
    (hrem : ∀ r', s'.release = some r' → DataPlaneCleanupFinalizer ∉ r'.finalizers) : False := by
  have h := run.finalizers_eq fun _ h => h
  rw [hs] at h
  obtain ⟨r', hr', hfin⟩ := Option.map_eq_some'.1 h
  exact hrem r' hr' (hfin ▸ hF)

/-- `cleanupDataPlane` removes the finalizer only after the client resolved and the lists of every
inventoried kind returned nothing, by the update that follows them. -/
theorem cleanupDataPlane_removes {release : Release} {s : St}
    (hs : s.release.map (·.finalizers) = some release.finalizers)
    (hF : DataPlaneCleanupFinalizer ∈ release.finalizers)
    (hrem : ∀ r', (cleanupDataPlane o release s).2.release = some r' →
      DataPlaneCleanupFinalizer ∉ r'.finalizers) :
    ∃ s₁, getDPClient o release s = (.ok (), s₁) ∧
      (listLiveResourcesByGVKs o release (findAllKnownGVKs [] release.status.resources) s₁).1 = [] ∧
      (cleanupDataPlane o release s).2 = (updateRelease o { release with
        finalizers := (removeFinalizer release.finalizers DataPlaneCleanupFinalizer).1 }
        (listLiveResourcesByGVKs o release (findAllKnownGVKs [] release.status.resources) s₁).2).2 := by
  have kept : ∀ s', CallRun (fun c => c.keepsFinalizers = true) s s' →
      (cleanupDataPlane o release s).2 = s' → False := fun s' run he =>
    run.keeps_cleanupFinalizer hs hF (he ▸ hrem)
  set gvks := findAllKnownGVKs [] release.status.resources
  have run₁ := getDPClient_calls (P := fun c => c.keepsFinalizers = true) o release rfl s
  rcases e₁ : getDPClient o release s with ⟨err | ⟨⟨⟩⟩, s₁⟩ <;> rw [e₁] at run₁
  · refine (kept _ (run₁.trans (recordCleanupFailure_calls o release err
      "failed to get dataplane client for finalization" s₁)) ?_).elim
    simp only [cleanupDataPlane, bind_apply, e₁]
  set live := (listLiveResourcesByGVKs o release gvks s₁).1
  have run₂ := run₁.trans (listLiveResourcesByGVKs_calls (P := fun c => c.keepsFinalizers = true) o
    release gvks (fun _ _ _ _ => rfl) s₁)
  have run₃ := run₂.trans (deleteResources_calls (P := fun c => c.keepsFinalizers = true) o live
    (fun _ _ => rfl) (listLiveResourcesByGVKs o release gvks s₁).2)
  rcases e₃ : deleteResources o live (listLiveResourcesByGVKs o release gvks s₁).2 with
    ⟨err | ⟨⟨⟩⟩, s₃⟩ <;> rw [e₃] at run₃
  · refine (kept _ (run₃.trans (recordCleanupFailure_calls o release err
      "failed to delete resources during finalization" s₃)) ?_).elim
    simp only [cleanupDataPlane, bind_apply, e₁, e₃]
  by_cases hlen : 0 < live.length
  · refine (kept s₃ run₃ ?_).elim
    simp only [cleanupDataPlane, bind_apply, e₁, e₃]
    simp [live, hlen]
  have hnil : live = [] := List.eq_nil_of_length_eq_zero (by omega)
  refine ⟨s₁, rfl, hnil, ?_⟩
  have hs₃ : s₃ = (listLiveResourcesByGVKs o release gvks s₁).2 := by
    rw [hnil] at e₃
    exact (congrArg Prod.snd e₃).symm
  have hflag : (removeFinalizer release.finalizers DataPlaneCleanupFinalizer).2 = true := by
    simpa [removeFinalizer] using hF
  simp only [cleanupDataPlane, bind_apply, e₁, e₃]
  simp only [live, hlen, if_false, hflag, if_true, bind_apply, ← hs₃]
  rcases (updateRelease o _ s₃).1 with _ | ⟨⟨⟩⟩ <;> rfl

/-- A pass on a Release being deleted that takes the finalizer away does so through
`cleanupDataPlane` of the Release with the Finalizing condition already stored. -/
theorem reconcile_removes_finalizer {s : St} {r : Release} (hr : s.release = some r)
    (hd : r.deletionTimestamp.isSome) (hF : DataPlaneCleanupFinalizer ∈ r.finalizers)
    (hrem : ∀ r', (reconcile o s).2.release = some r' → DataPlaneCleanupFinalizer ∉ r'.finalizers) :
    reconcile o s =
      cleanupDataPlane o (r.withCondition (newReleaseFinalizingCondition r.generation))
        (getRelease o s).2 := by
  have kept : ∀ s', CallRun (fun c => c.keepsFinalizers = true) s s' →
      (reconcile o s).2 = s' → False := fun s' run he =>
    run.keeps_cleanupFinalizer (by rw [hr]; rfl) hF (he ▸ hrem)
  have run₀ := Calls.single (P := fun c => c.keepsFinalizers = true) (getRelease_step o) rfl s
  rcases reconcile_deleting o hr hd with ⟨-, he⟩ | he
  · exact (kept _ run₀ he).elim
  by_cases hc : (setStatusCondition r.status.conditions
      (newReleaseFinalizingCondition r.generation)).2 = true
  · have hcalls : Calls (fun c => c.keepsFinalizers = true) (finalize o r) := by
      unfold finalize
      rw [if_neg (not_not.2 hF), if_pos hc]
      exact Calls.bind (updateStatusConditions_calls o _ rfl) fun r => by
        rcases r with _ | _ <;> exact Calls.pure _
    exact (kept _ (run₀.trans (hcalls _)) (by rw [he])).elim
  · rw [he]
    unfold finalize
    rw [if_neg (not_not.2 hF), if_neg hc]

end Removal

/-! ## The objects finalization leaves -/

/-- Finalization leaves no owned object of an inventoried kind when its lists succeed: under the
rely, a pass that takes the finalizer away from a Release being deleted, with no failed list, leaves
no object that carries the Release's two ownership labels and whose kind is in the status
inventory. -/
theorem finalizer_removed_only_when_clean (o : Oracle) (w : World) (r : Release)
    (hrely : NoOwnedObjectCreated o r) (hr : w.release = some r) (hd : r.deletionTimestamp.isSome)
    (hF : DataPlaneCleanupFinalizer ∈ r.finalizers)
    (hrem : ∀ r', (reconcilePass o w).world.release = some r' →
      DataPlaneCleanupFinalizer ∉ r'.finalizers)
    (hlists : ∀ c ∈ (reconcilePass o w).log, c.isFailedList = false) :
    ∀ x ∈ (reconcilePass o w).world.dataPlane.objects, (liveSelector r).matches x.labels = true →
      x.gvk ∉ r.status.resources.map ResourceStatus.gvk := by
  have he := reconcile_removes_finalizer o (s := St.init w) hr hd hF hrem
  set r' := r.withCondition (newReleaseFinalizingCondition r.generation)
  set gvks := findAllKnownGVKs [] r'.status.resources
  have hs : (getRelease o (St.init w)).2.release.map (·.finalizers) = some r'.finalizers := by
    simp [getRelease, St.close, St.init, hr, r', Release.withCondition]
  obtain ⟨s₁, -, hnil, hfin⟩ := cleanupDataPlane_removes o hs hF (he ▸ hrem)
  have hend : (reconcilePass o w).world = (updateRelease o { r' with
      finalizers := (removeFinalizer r'.finalizers DataPlaneCleanupFinalizer).1 }
      (listLiveResourcesByGVKs o r' gvks s₁).2).2.world := by
    show (reconcile o (St.init w)).2.world = _
    rw [he, hfin]
  have hlog : ∀ c ∈ (listLiveResourcesByGVKs o r' gvks s₁).2.log, c.isFailedList = false :=
    fun c hc => hlists c (by
      show c ∈ (reconcile o (St.init w)).2.log
      rw [he, hfin, (updateRelease_step o _ _).1]
      exact List.mem_append_left _ hc)
  intro x hx hm hg
  rw [hend] at hx
  exact listLiveResourcesByGVKs_clean hrely r' rfl gvks s₁ hlog hnil x
    (updateRelease_addsNoOwned hrely _ _ x hx hm) hm
    (mem_findAllKnownGVKs.2 (.inr (List.mem_map.1 hg)))

/-- A Release being deleted whose Finalizing condition is stored and whose inventory lists the
document of `sampleRelease`. -/
def deletingRelease : Release :=
  { sampleRelease with
    deletionTimestamp := some 1
    finalizers := [DataPlaneCleanupFinalizer]
    status := ⟨[inventoryRecord sampleDesired], [newReleaseFinalizingCondition 1]⟩ }

/-- A ConfigMap of no Release. -/
def unownedObject : Unstructured :=
  ⟨⟨"", "v1", "ConfigMap"⟩, "team-a", "shared", []⟩

/-- A Secret with `deletingRelease`'s ownership labels, of a kind its inventory does not list. -/
def uninventoriedObject : Unstructured :=
  ⟨⟨"", "v1", "Secret"⟩, "team-a", "token", [(LabelKeyManagedBy, ControllerName),
    (LabelKeyReleaseUID, "uid-1"), (LabelKeyReleaseResourceID, "token")]⟩

/-- `deletingRelease` over a data plane that holds `unownedObject` and `uninventoriedObject`. -/
def deletingWorld : World :=
  ⟨some deletingRelease, ⟨[unownedObject, uninventoriedObject], by decide⟩⟩

/-- The pass lists the inventoried kind, finds no owned ConfigMap, and removes the finalizer; the
owned Secret stays, being of a kind the inventory does not list. -/
theorem finalizer_removed_only_when_clean_leftovers :
    NoOwnedObjectCreated quietOracle deletingRelease ∧ deletingWorld.release = some deletingRelease ∧
    deletingRelease.deletionTimestamp.isSome = true ∧
    DataPlaneCleanupFinalizer ∈ deletingRelease.finalizers ∧
    (∀ r', (reconcilePass quietOracle deletingWorld).world.release = some r' →
      DataPlaneCleanupFinalizer ∉ r'.finalizers) ∧
    (∀ c ∈ (reconcilePass quietOracle deletingWorld).log, c.isFailedList = false) ∧
    uninventoriedObject ∈ (reconcilePass quietOracle deletingWorld).world.dataPlane.objects ∧
    ∀ x ∈ (reconcilePass quietOracle deletingWorld).world.dataPlane.objects,
      (liveSelector deletingRelease).matches x.labels = true →
      x.gvk ∉ deletingRelease.status.resources.map ResourceStatus.gvk :=
  have hrely : NoOwnedObjectCreated quietOracle deletingRelease := fun _ _ _ hx _ => hx
  have hF : DataPlaneCleanupFinalizer ∈ deletingRelease.finalizers := List.mem_singleton_self _
  have hfin : (reconcilePass quietOracle deletingWorld).world.release.map (·.finalizers) = some [] := by
    decide
  have hrem : ∀ r', (reconcilePass quietOracle deletingWorld).world.release = some r' →
      DataPlaneCleanupFinalizer ∉ r'.finalizers := fun r' hr' => by
    rw [hr', Option.map_some', Option.some_inj] at hfin
    simp [hfin]
  have hlists : ∀ c ∈ (reconcilePass quietOracle deletingWorld).log, c.isFailedList = false := by
    decide
  have hclean := finalizer_removed_only_when_clean quietOracle deletingWorld deletingRelease hrely rfl
    rfl hF hrem hlists
  ⟨hrely, rfl, rfl, hF, hrem, hlists, by decide, hclean⟩

/-- The oracle whose third call, the list of the only inventoried kind, fails. -/
def listFaultOracle : Oracle :=
  { quietOracle with fault := fun n => n == 2 }

/-- A failed list is skipped, and the finalizer is removed over an owned object of an inventoried
kind: no other actor touches the data plane, the pass empties the finalizers, and the document of
the inventory is still there with the Release's ownership labels. -/
theorem finalizer_removed_over_owned_object :
    NoOwnedObjectCreated listFaultOracle deletingRelease ∧
    (reconcilePass listFaultOracle ⟨some deletingRelease, ⟨[sampleDesired], by decide⟩⟩).world.release.map
      (·.finalizers) = some [] ∧
    sampleDesired ∈ (reconcilePass listFaultOracle
      ⟨some deletingRelease, ⟨[sampleDesired], by decide⟩⟩).world.dataPlane.objects ∧
    (liveSelector deletingRelease).matches sampleDesired.labels = true ∧
    sampleDesired.gvk ∈ deletingRelease.status.resources.map ResourceStatus.gvk :=
  ⟨fun _ _ _ hx _ => hx, by decide⟩

end ReleaseController
end OpenChoreo
