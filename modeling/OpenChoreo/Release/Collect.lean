import OpenChoreo.Release.Effects

/-!
# What garbage collection deletes

Every delete of a steady-state pass is of an object that one of the pass's lists returned with the
Release's selector, and whose resource-ID label is non-empty and names no entry of the spec.
`DeletesJustified` is that statement about a log; every step of the pass keeps it, the deletes of
`syncResources` because they are the stale objects of what the lists returned.

With no other actor on the data plane, no Delete call of a pass targets an object it applied: after
the apply phase the object under a desired key is a desired document, whose resource ID is desired.
A stale namespace is another matter: deleting it deletes everything in it, the objects the pass
applied there and those of other Releases included (`stale_namespace_takes_applied_objects`).
-/

namespace OpenChoreo
namespace ReleaseController

/-- The call is an apply or a delete: a write of phases 1 and 3. -/
def Call.isApplyOrDelete : Call → Bool
  | .apply _ => true
  | .delete _ => true
  | _ => false

/-- The log holds no apply and no delete. -/
def NoApplyOrDelete (log : List Call) : Prop :=
  ∀ c ∈ log, c.isApplyOrDelete = false

/-- Every delete in the log is of an object that a logged list with selector `sel` returned,
that `sel` matches, and whose resource ID is non-empty and not in `ids`. -/
def DeletesJustified (sel : Labels) (ids : List String) (log : List Call) : Prop :=
  ∀ obj, .delete obj ∈ log →
    Listed sel log obj ∧ sel.matches obj.labels = true ∧ resourceID obj ≠ "" ∧ resourceID obj ∉ ids

section Justified

variable {sel : Labels} {ids : List String}

theorem DeletesJustified.append {log : List Call} (h : DeletesJustified sel ids log) {L : List Call}
    (hL : ∀ obj, .delete obj ∈ L →
      Listed sel log obj ∧ sel.matches obj.labels = true ∧ resourceID obj ≠ "" ∧ resourceID obj ∉ ids) :
    DeletesJustified sel ids (log ++ L) := fun obj hobj => by
  rcases List.mem_append.1 hobj with h' | h'
  · obtain ⟨hl, hrest⟩ := h obj h'; exact ⟨hl.append L, hrest⟩
  · obtain ⟨hl, hrest⟩ := hL obj h'; exact ⟨hl.append L, hrest⟩

theorem DeletesJustified.of_calls {α : Type} {m : M α} (hm : Calls (fun c => c.isDelete = false) m)
    {s : St} (h : DeletesJustified sel ids s.log) : DeletesJustified sel ids (m s).2.log := by
  obtain ⟨L, hL, hP⟩ := (hm s).log
  rw [hL]
  exact h.append fun obj hobj => absurd (hP _ hobj) (by simp [Call.isDelete])

end Justified

section Steady

variable (o : Oracle)

theorem deleteResources_justified {sel : Labels} {ids : List String} (objs : List Unstructured)
    (s : St) (h : DeletesJustified sel ids s.log)
    (hobjs : ∀ x ∈ objs,
      Listed sel s.log x ∧ sel.matches x.labels = true ∧ resourceID x ≠ "" ∧ resourceID x ∉ ids) :
    DeletesJustified sel ids (deleteResources o objs s).2.log := by
  obtain ⟨L, hL, hP⟩ :=
    (deleteResources_calls (P := fun c => ∀ x, c = .delete x → x ∈ objs) o objs
      (fun x hx _ h => by cases h; exact hx) s).log
  rw [hL]
  exact h.append fun obj hobj => hobjs obj (hP _ hobj obj rfl)

theorem syncResources_justified (release : Release) (desired : List Unstructured) (s : St)
    (h : DeletesJustified (liveSelector release) (desired.map resourceID) s.log) :
    DeletesJustified (liveSelector release) (desired.map resourceID)
      (syncResources o release desired s).2.log := by
  simp only [syncResources, bind_apply]
  have h₁ := h.of_calls (applyResources_calls (P := fun c => c.isDelete = false) o desired
    fun _ _ => rfl)
  rcases (applyResources o desired s).1 with _ | ⟨⟨⟩⟩
  · exact h₁
  set s₁ := (applyResources o desired s).2
  set live := (listLiveResourcesByGVKs o release
    (findAllKnownGVKs desired release.status.resources) s₁).1
  have h₂ := h₁.of_calls (listLiveResourcesByGVKs_calls (P := fun c => c.isDelete = false) o
    release (findAllKnownGVKs desired release.status.resources) fun _ _ _ _ => rfl)
  have h₃ := deleteResources_justified o (findStaleResources live desired) _ h₂ fun x hx => by
    obtain ⟨hlive, hne, hnot⟩ := mem_findStaleResources.1 hx
    refine ⟨listLiveResourcesByGVKs_listed o release _ s₁ x hlive,
      (listLiveResourcesByGVKs_mem o release _ s₁ x hlive).2, hne, ?_⟩
    simp only [List.mem_map, not_exists, not_and]
    exact hnot
  simp only [bind_apply]
  rcases (deleteResources o (findStaleResources live desired) _).1 with _ | ⟨⟨⟩⟩ <;> exact h₃

/-! ## One sync per pass -/

/-- The steady-state path is calls that neither apply nor delete, one run of `syncResources`, and
again such calls. So a property of the log that those calls keep, and that `syncResources` keeps
from a log whose writes all came before the path, holds after it. -/
theorem reconcileRelease_log {I : List Call → Prop} (release : Release) (s : St)
    (hcalls : ∀ {α : Type} {m : M α}, Calls (fun c => c.isApplyOrDelete = false) m →
      ∀ s, I s.log → I (m s).2.log)
    (hsync : ∀ desired s', makeDesiredResources release = .ok desired →
      (∀ c ∈ s'.log, c ∈ s.log ∨ c.isApplyOrDelete = false) → I s'.log →
      I (syncResources o release desired s').2.log)
    (h : I s.log) : I (reconcileRelease o release s).2.log := by
  have run₁ := getDPClient_calls (P := fun c => c.isApplyOrDelete = false) o release rfl s
  have h₁ := hcalls (getDPClient_calls o release rfl) s h
  simp only [reconcileRelease, bind_apply]
  rcases (getDPClient o release s).1 with _ | ⟨⟨⟩⟩
  · exact h₁
  rcases hd : makeDesiredResources release with _ | desired
  · exact h₁
  have run₂ := ensureNamespaces_calls (P := fun c => c.isApplyOrDelete = false) o
    (makeDesiredNamespaces release desired) (fun _ _ => ⟨rfl, rfl⟩) (getDPClient o release s).2
  have h₂ := hcalls (ensureNamespaces_calls o (makeDesiredNamespaces release desired)
    fun _ _ => ⟨rfl, rfl⟩) _ h₁
  simp only [bind_apply]
  rcases (ensureNamespaces o _ _).1 with _ | ⟨⟨⟩⟩
  · exact h₂
  have h₃ := hsync desired _ hd (fun c hc => (run₂.mem_log hc).elim (run₁.mem_log) .inr) h₂
  simp only [bind_apply]
  rcases (syncResources o release desired _).1 with _ | _
  · exact h₃
  have h₄ := hcalls (updateStatus_calls o release desired fun _ => rfl) _ h₃
  simp only [bind_apply]
  rcases (updateStatus o release desired _).1 with _ | _ | _
  · exact h₄
  · simp only [pure_apply]; split <;> exact h₄
  · exact h₄

/-- The same over a whole pass on a Release that is not being deleted. -/
theorem reconcile_log {I : List Call → Prop} (w : World) (r : Release) (hr : w.release = some r)
    (hnd : r.deletionTimestamp = none)
    (hcalls : ∀ {α : Type} {m : M α}, Calls (fun c => c.isApplyOrDelete = false) m →
      ∀ s, I s.log → I (m s).2.log)
    (hsync : ∀ desired s', makeDesiredResources r = .ok desired → NoApplyOrDelete s'.log →
      I s'.log → I (syncResources o r desired s').2.log)
    (h : I []) : I (reconcilePass o w).log := by
  have run₀ := Calls.single (P := fun c => c.isApplyOrDelete = false) (getRelease_step o) rfl
    (St.init w)
  have h₀ := hcalls (Calls.single (getRelease_step o) rfl) (St.init w) h
  show I (reconcile o (St.init w)).2.log
  rcases reconcile_active o (s := St.init w) hr hnd with ⟨-, he⟩ | ⟨-, he⟩ | ⟨-, he⟩
  · exact he ▸ h₀
  · exact he ▸ hcalls (ensureFinalizer_calls o r fun _ => rfl) _ h₀
  · rw [he]
    refine reconcileRelease_log o r _ hcalls (fun desired s' hd hs' => hsync desired s' hd
      fun c hc => (hs' c hc).elim (fun h => (run₀.mem_log h).resolve_left ?_) id) h₀
    simp [St.init]

/-! ## What a steady-state pass deletes -/

theorem reconcileRelease_justified (release : Release) (desired : List Unstructured) (s : St)
    (hd : makeDesiredResources release = .ok desired)
    (h : DeletesJustified (liveSelector release) (release.spec.resources.map (·.id)) s.log) :
    DeletesJustified (liveSelector release) (release.spec.resources.map (·.id))
      (syncResources o release desired s).2.log := by
  have hids : desired.map resourceID = release.spec.resources.map (·.id) :=
    (makeDesiredObjects_spec release _ _ hd).1
  rw [← hids] at h ⊢
  exact syncResources_justified o release desired s h

/-- No delete in the log targets the key of an apply in the log. -/
def AppliesKept (log : List Call) : Prop :=
  ∀ d obj, .apply d ∈ log → .delete obj ∈ log → d.key ≠ obj.key

theorem AppliesKept.of_calls {α : Type} {m : M α}
    (hm : Calls (fun c => c.isApplyOrDelete = false) m) {s : St} (h : AppliesKept s.log) :
    AppliesKept (m s).2.log := fun d obj hd hobj => by
  rcases (hm s).mem_log hd with hd | hd
  · rcases (hm s).mem_log hobj with hobj | hobj
    · exact h d obj hd hobj
    · simp [Call.isApplyOrDelete] at hobj
  · simp [Call.isApplyOrDelete] at hd

/-- With no other actor, the deletes of `syncResources` spare every key it applied: after the apply
phase the object under a desired key is a desired document, whose resource ID is desired. -/
theorem syncResources_appliesKept {o : Oracle} (hq : Quiet o) (release : Release)
    (desired : List Unstructured) (s : St) (hs : NoApplyOrDelete s.log) :
    AppliesKept (syncResources o release desired s).2.log := by
  have run₁ := applyResources_calls (P := fun c => ∃ d ∈ desired, c = .apply d) o desired
    (fun d hd => ⟨d, hd, rfl⟩) s
  simp only [syncResources, bind_apply]
  rcases happ : (applyResources o desired s).1 with _ | ⟨⟨⟩⟩
  · intro d obj _ hdel
    rcases run₁.mem_log hdel with h | ⟨_, _, h⟩
    · simpa [Call.isApplyOrDelete] using hs _ h
    · cases h
  set s₁ := (applyResources o desired s).2
  set gvks := findAllKnownGVKs desired release.status.resources
  set live := (listLiveResourcesByGVKs o release gvks s₁).1
  have run₂ := listLiveResourcesByGVKs_calls (P := fun c => c.isApplyOrDelete = false) o release
    gvks (fun _ _ _ _ => rfl) s₁
  have run₃ := deleteResources_calls (P := fun c => ∃ x ∈ findStaleResources live desired,
    c = .delete x) o _ (fun x hx => ⟨x, hx, rfl⟩) (listLiveResourcesByGVKs o release gvks s₁).2
  have hkept : AppliesKept (deleteResources o (findStaleResources live desired)
      (listLiveResourcesByGVKs o release gvks s₁).2).2.log := by
    intro d obj hd hobj hkey
    have hd : d ∈ desired := by
      rcases run₃.mem_log hd with h | ⟨_, _, h⟩
      · rcases run₂.mem_log h with h | h
        · rcases run₁.mem_log h with h | ⟨_, hd, h⟩
          · simpa [Call.isApplyOrDelete] using hs _ h
          · cases h; exact hd
        · simp [Call.isApplyOrDelete] at h
      · cases h
    have hobj : obj ∈ findStaleResources live desired := by
      rcases run₃.mem_log hobj with h | ⟨_, hx, h⟩
      · rcases run₂.mem_log h with h | h
        · rcases run₁.mem_log h with h | ⟨_, _, h⟩
          · simpa [Call.isApplyOrDelete] using hs _ h
          · cases h
        · simp [Call.isApplyOrDelete] at h
      · cases h; exact hx
    refine @stale_key_not_desired s.dataPlane desired live (fun x hx => ?_) obj hobj d hd hkey
    rw [← applyResources_quiet hq desired s happ]
    exact (listLiveResourcesByGVKs_quiet hq release gvks s₁).2 x hx
  simp only [bind_apply]
  rcases (deleteResources o _ _).1 with _ | ⟨⟨⟩⟩ <;> exact hkept

end Steady

/-- Garbage collection never deletes what it must keep: every delete of a pass on a Release that is
not being deleted is of an object that a list of the same pass returned with the Release's selector,
that carries the ownership labels of this Release, and whose resource ID is non-empty and names no
entry of the spec. With no other actor, no Delete call of a pass targets a key the pass applied. -/
theorem reconcile_deletes_only_stale (o : Oracle) (w : World) (r : Release)
    (hr : w.release = some r) (hnd : r.deletionTimestamp = none) :
    (∀ obj, .delete obj ∈ (reconcilePass o w).log →
      Listed (liveSelector r) (reconcilePass o w).log obj ∧
      Labels.find? obj.labels LabelKeyManagedBy = some ControllerName ∧
      Labels.find? obj.labels LabelKeyReleaseUID = some r.uid ∧
      resourceID obj ≠ "" ∧ resourceID obj ∉ r.spec.resources.map (·.id)) ∧
    (Quiet o → ∀ d obj, .apply d ∈ (reconcilePass o w).log →
      .delete obj ∈ (reconcilePass o w).log → d.key ≠ obj.key) := by
  refine ⟨fun obj hobj => ?_, fun hq => ?_⟩
  · have hj := reconcile_log o w r hr hnd
      (I := DeletesJustified (liveSelector r) (r.spec.resources.map (·.id)))
      (fun hm _ h => h.of_calls (hm.mono fun c hc => by
        cases c <;> simp_all [Call.isApplyOrDelete, Call.isDelete]))
      (fun desired s' hd _ h => reconcileRelease_justified o r desired s' hd h)
      (fun _ h => by cases h)
    obtain ⟨hl, hm, hne, hnot⟩ := hj obj hobj
    simp only [Labels.matches, liveSelector, List.all_cons, List.all_nil, Bool.and_true,
      Bool.and_eq_true, decide_eq_true_eq] at hm
    exact ⟨hl, hm.1, hm.2, hne, hnot⟩
  · exact reconcile_log o w r hr hnd (I := AppliesKept) (fun hm _ h => h.of_calls hm)
      (fun desired s' _ hs h => syncResources_appliesKept hq r desired s' hs) (fun _ _ h => by cases h)

/-- An object that an earlier spec of `sampleRelease` applied as its entry `old`. -/
def staleObject : Unstructured :=
  ⟨⟨"", "v1", "ConfigMap"⟩, "team-a", "legacy", [(LabelKeyManagedBy, ControllerName),
    (LabelKeyReleaseUID, "uid-1"), (LabelKeyReleaseResourceID, "old")]⟩

/-- `sampleRelease` once it carries the cleanup finalizer. -/
def activeRelease : Release :=
  { sampleRelease with finalizers := [DataPlaneCleanupFinalizer] }

/-- `activeRelease` over a data plane that holds only `staleObject`. -/
def activeWorld : World :=
  ⟨some activeRelease, ⟨[staleObject], by decide⟩⟩

theorem reconcile_deletes_only_stale_collects :
    activeWorld.release = some activeRelease ∧ activeRelease.deletionTimestamp = none ∧
    .apply sampleDesired ∈ (reconcilePass quietOracle activeWorld).log ∧
    .delete staleObject ∈ (reconcilePass quietOracle activeWorld).log ∧
    (∀ obj, .delete obj ∈ (reconcilePass quietOracle activeWorld).log →
      Listed (liveSelector activeRelease) (reconcilePass quietOracle activeWorld).log obj ∧
      Labels.find? obj.labels LabelKeyManagedBy = some ControllerName ∧
      Labels.find? obj.labels LabelKeyReleaseUID = some activeRelease.uid ∧
      resourceID obj ≠ "" ∧ resourceID obj ∉ activeRelease.spec.resources.map (·.id)) ∧
    (Quiet quietOracle → ∀ d obj, .apply d ∈ (reconcilePass quietOracle activeWorld).log →
      .delete obj ∈ (reconcilePass quietOracle activeWorld).log → d.key ≠ obj.key) :=
  have hstale := reconcile_deletes_only_stale quietOracle activeWorld activeRelease rfl rfl
  ⟨rfl, rfl, by decide, by decide, hstale⟩

/-- The Release's inventory still lists a namespace it once applied as a resource; its spec now
holds one ConfigMap in that namespace. -/
def movedRelease : Release :=
  ⟨"web", "org", "uid-1", 1, none, [DataPlaneCleanupFinalizer],
    ⟨"shop", "dev", [⟨"cm", .document sampleDocument⟩], none, none⟩,
    ⟨[⟨"", "v1", "Namespace", "ns", "team-a", ""⟩], []⟩⟩

/-- The namespace `movedRelease` once applied as its resource `ns`. -/
def oldNamespace : Unstructured :=
  ⟨namespaceGVK, "", "team-a", [(LabelKeyManagedBy, ControllerName),
    (LabelKeyReleaseUID, "uid-1"), (LabelKeyReleaseResourceID, "ns")]⟩

/-- An object of another Release in the same namespace. -/
def neighbourObject : Unstructured :=
  ⟨⟨"", "v1", "ConfigMap"⟩, "team-a", "cache", [(LabelKeyManagedBy, ControllerName),
    (LabelKeyReleaseUID, "uid-2"), (LabelKeyReleaseResourceID, "cache")]⟩

/-- `movedRelease` over a data plane that holds `oldNamespace` and `neighbourObject`. -/
def movedWorld : World :=
  ⟨some movedRelease, ⟨[oldNamespace, neighbourObject], by decide⟩⟩

/-- The pass over `movedWorld` applies the ConfigMap `team-a/settings` and then deletes the stale
namespace `team-a`, which takes with it the ConfigMap the pass applied and another Release's
object. -/
theorem stale_namespace_takes_applied_objects :
    Quiet quietOracle ∧ Immediate quietOracle ∧
    (reconcilePass quietOracle movedWorld).result.isOk = true ∧
    .apply sampleDesired ∈ (reconcilePass quietOracle movedWorld).log ∧
    .delete oldNamespace ∈ (reconcilePass quietOracle movedWorld).log ∧
    sampleDesired ∉ (reconcilePass quietOracle movedWorld).world.dataPlane.objects ∧
    neighbourObject ∈ movedWorld.dataPlane.objects ∧
    Labels.find? neighbourObject.labels LabelKeyReleaseUID ≠ some movedRelease.uid ∧
    neighbourObject ∉ (reconcilePass quietOracle movedWorld).world.dataPlane.objects :=
  ⟨fun _ _ => rfl, fun _ => rfl, by decide⟩

/-! ## What the steady-state phases leave -/

/-- Steady-state garbage collection with no other actor, immediate deletes and no failed list:
when apply, list and delete return without error, every object that carries the ownership labels
and is of a probed kind carries an empty resource ID or the ID of an entry of the spec, and, when no
stale object is the namespace of a desired document, every desired document's key holds a desired
document. Collection is by ID, so an object that keeps an entry's ID under another name, namespace
or kind stays. -/
theorem syncResources_converges (o : Oracle) (hq : Quiet o) (hi : Immediate o) (release : Release)
    (desired live : List Unstructured) (s : St) (hd : makeDesiredResources release = .ok desired)
    (hok : (syncResources o release desired s).1 = .ok live)
    (hlists : ∀ c ∈ (syncResources o release desired s).2.log, c.isFailedList = false) :
    ((∀ y ∈ findStaleResources live desired, ∀ d ∈ desired, ¬ InNamespace y.key d.ns) →
      ∀ d ∈ desired, ∃ x ∈ (syncResources o release desired s).2.dataPlane.objects,
        x.key = d.key ∧ x ∈ desired) ∧
    ∀ x ∈ (syncResources o release desired s).2.dataPlane.objects,
      (liveSelector release).matches x.labels = true →
      x.gvk ∈ findAllKnownGVKs desired release.status.resources →
      resourceID x = "" ∨ resourceID x ∈ release.spec.resources.map (·.id) := by
  obtain ⟨hdp, hlive, hcomplete⟩ := syncResources_quiet hq hi hok
  have hstale := stale_key_not_desired fun x hx => (hlive x hx).1
  rw [hdp]
  refine ⟨fun hns d hd' => ?_, fun x hx hm hg => ?_⟩
  · obtain ⟨x, hx, hxk, hxd⟩ := @exists_mem_applyAll s.dataPlane desired d hd'
    refine ⟨x, mem_deleteAll.2 ⟨hx, fun y hy hrem => ?_⟩, hxk, hxd⟩
    rcases hrem with hkey | hin
    · exact hstale y hy x hxd hkey
    · exact hns y hy x hxd hin
  · obtain ⟨hx, hnot⟩ := mem_deleteAll.1 hx
    rw [← (makeDesiredObjects_spec release _ _ hd).1]
    by_contra hc
    push_neg at hc
    exact hnot x (mem_findStaleResources.2 ⟨hcomplete hlists x hx hg hm, hc.1,
      fun d hd h => hc.2 (List.mem_map.2 ⟨d, hd, h⟩)⟩) (.inl rfl)

/-- The document the spec's entry `cm` was applied as by an earlier generation, under another
name. -/
def renamedObject : Unstructured :=
  { sampleDesired with name := "settings-v1" }

/-- `sampleRelease` over a data plane that holds the namespace `team-a`, `renamedObject` and
`staleObject`. -/
def renamedWorld : World :=
  ⟨some sampleRelease, ⟨[desiredNamespace sampleRelease "team-a", renamedObject, staleObject],
    by decide⟩⟩

theorem syncResources_converges_renamed :
    Quiet quietOracle ∧ Immediate quietOracle ∧
    makeDesiredResources sampleRelease = .ok [sampleDesired] ∧
    (syncResources quietOracle sampleRelease [sampleDesired] (St.init renamedWorld)).1 =
      .ok [renamedObject, staleObject, sampleDesired] ∧
    (∀ c ∈ (syncResources quietOracle sampleRelease [sampleDesired] (St.init renamedWorld)).2.log,
      c.isFailedList = false) ∧
    (∀ y ∈ findStaleResources [renamedObject, staleObject, sampleDesired] [sampleDesired],
      ∀ d ∈ [sampleDesired], ¬ InNamespace y.key d.ns) ∧
    (∀ d ∈ [sampleDesired], ∃ x ∈ (syncResources quietOracle sampleRelease [sampleDesired]
        (St.init renamedWorld)).2.dataPlane.objects, x.key = d.key ∧ x ∈ [sampleDesired]) ∧
    ∀ x ∈ (syncResources quietOracle sampleRelease [sampleDesired]
        (St.init renamedWorld)).2.dataPlane.objects,
      (liveSelector sampleRelease).matches x.labels = true →
      x.gvk ∈ findAllKnownGVKs [sampleDesired] sampleRelease.status.resources →
      resourceID x = "" ∨ resourceID x ∈ sampleRelease.spec.resources.map (·.id) :=
  have hq : Quiet quietOracle := fun _ _ => rfl
  have hi : Immediate quietOracle := fun _ => rfl
  have hd : makeDesiredResources sampleRelease = .ok [sampleDesired] := rfl
  have hok : (syncResources quietOracle sampleRelease [sampleDesired] (St.init renamedWorld)).1 =
      .ok [renamedObject, staleObject, sampleDesired] := rfl
  have hlists : ∀ c ∈ (syncResources quietOracle sampleRelease [sampleDesired]
      (St.init renamedWorld)).2.log, c.isFailedList = false := by decide
  have hns : ∀ y ∈ findStaleResources [renamedObject, staleObject, sampleDesired] [sampleDesired],
      ∀ d ∈ [sampleDesired], ¬ InNamespace y.key d.ns := by decide
  have hconv := syncResources_converges quietOracle hq hi sampleRelease _ _ _ hd hok hlists
  ⟨hq, hi, hd, hok, hlists, hns, hconv.1 hns, hconv.2⟩

/-- The entry keeps its ID and changes its name: the object of the earlier name carries the
ownership labels, is of a probed kind and of no desired key, and survives a pass whose three phases
succeed. -/
theorem sync_spares_renamed_entry :
    Quiet quietOracle ∧ Immediate quietOracle ∧
    (makeDesiredResources sampleRelease).toOption = some [sampleDesired] ∧
    (syncResources quietOracle sampleRelease [sampleDesired] (St.init renamedWorld)).1.toOption =
      some [renamedObject, staleObject, sampleDesired] ∧
    renamedObject ∈ (syncResources quietOracle sampleRelease [sampleDesired]
      (St.init renamedWorld)).2.dataPlane.objects ∧
    (liveSelector sampleRelease).matches renamedObject.labels = true ∧
    renamedObject.gvk ∈ findAllKnownGVKs [sampleDesired] sampleRelease.status.resources ∧
    ∀ d ∈ [sampleDesired], d.key ≠ renamedObject.key :=
  ⟨fun _ _ => rfl, fun _ => rfl, by decide⟩

end ReleaseController
end OpenChoreo
