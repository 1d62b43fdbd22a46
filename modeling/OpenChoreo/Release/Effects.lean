import OpenChoreo.Release.Guards

/-!
# What the steady-state phases do to the data plane

With no other actor on the data plane (`Quiet`) and deletes that take effect at once
(`Immediate`), the three phases of `syncResources` have plain effects: apply installs each desired
document under its key, the lists read the data plane, and the deletes remove the stale objects,
with everything in a stale namespace.

With any oracle, every object the lists return was logged as an item of a list call with the
Release's selector, and the desired documents carry the labels that selector matches.
-/

namespace OpenChoreo
namespace ReleaseController

/-- No other actor touches the data plane during the pass. -/
def Quiet (o : Oracle) : Prop := ∀ n dp, o.interfere n dp = dp

/-- Every delete takes effect at once: no object carries finalizers of its own. -/
def Immediate (o : Oracle) : Prop := ∀ n, o.lingers n = false

/-- The object was returned by a successful list call with selector `sel` recorded in `log`. -/
def Listed (sel : Labels) (log : List Call) (x : Unstructured) : Prop :=
  ∃ g items, .list g sel (some items) ∈ log ∧ x ∈ items

theorem Listed.append {sel : Labels} {log : List Call} {x : Unstructured} (h : Listed sel log x)
    (L : List Call) : Listed sel (log ++ L) x :=
  let ⟨g, items, hl, hx⟩ := h; ⟨g, items, List.mem_append_left _ hl, hx⟩

/-- The call is a delete. -/
def Call.isDelete : Call → Bool
  | .delete _ => true
  | _ => false

/-- The call is a list that failed. -/
def Call.isFailedList : Call → Bool
  | .list _ _ none => true
  | _ => false

/-! ## Desired documents carry their tracking labels -/

theorem stampTrackingLabels_resourceID (release : Release) (e : ReleaseResource) (obj : Document) :
    resourceID (stampTrackingLabels release e obj) = e.id := by
  simp [resourceID, Labels.get, stampTrackingLabels, LabelKeyReleaseNamespace, LabelKeyReleaseName,
    LabelKeyReleaseUID, LabelKeyReleaseResourceID]

theorem stampTrackingLabels_matches (release : Release) (e : ReleaseResource) (obj : Document) :
    (liveSelector release).matches (stampTrackingLabels release e obj).labels = true := by
  simp [Labels.matches, liveSelector, stampTrackingLabels, LabelKeyReleaseNamespace,
    LabelKeyReleaseName, LabelKeyReleaseUID, LabelKeyReleaseResourceID, LabelKeyManagedBy]

theorem makeDesiredObjects_spec (release : Release) :
    ∀ (entries : List ReleaseResource) (desired : List Unstructured),
      makeDesiredObjects release entries = .ok desired →
      desired.map resourceID = entries.map (·.id) ∧
        ∀ d ∈ desired, (liveSelector release).matches d.labels = true
  | [], desired, h => by cases h; simp
  | e :: rest, desired, h => by
    simp only [makeDesiredObjects] at h
    split at h
    · cases h
    split at h
    · cases h
    rename_i objs hrest
    cases h
    obtain ⟨hids, hsel⟩ := makeDesiredObjects_spec release rest objs hrest
    refine ⟨by simp [hids, stampTrackingLabels_resourceID], ?_⟩
    simpa [stampTrackingLabels_matches] using hsel

/-! ## Lists log what they return -/

theorem listLiveResourcesByGVKs_listed (o : Oracle) (release : Release) :
    ∀ (gvks : List GVK) (s : St), ∀ x ∈ (listLiveResourcesByGVKs o release gvks s).1,
      Listed (liveSelector release) (listLiveResourcesByGVKs o release gvks s).2.log x
  | [], s, x, hx => by simp [listLiveResourcesByGVKs] at hx
  | g :: rest, s, x, hx => by
    have hstep := listByGVK_step o s g (liveSelector release)
    simp only [listLiveResourcesByGVKs, bind_apply] at hx ⊢
    revert hx hstep
    generalize listByGVK o g (liveSelector release) s = r
    obtain ⟨_ | items, s₁⟩ := r
    · intro hx _; exact listLiveResourcesByGVKs_listed o release rest s₁ x hx
    · intro hx hstep
      dsimp only at hstep
      simp only [bind_apply, pure_apply, List.mem_append] at hx ⊢
      obtain ⟨L, hL, -⟩ := (listLiveResourcesByGVKs_calls (P := fun _ => True) o release rest
        (fun _ _ _ _ => trivial) s₁).log
      rcases hx with hx | hx
      · have h₁ : Listed (liveSelector release) s₁.log x :=
          ⟨g, items, by simp [hstep.1, listEntry], hx⟩
        simpa [hL] using h₁.append L
      · exact listLiveResourcesByGVKs_listed o release rest s₁ x hx

theorem listLiveResourcesByGVKs_mem (o : Oracle) (release : Release) :
    ∀ (gvks : List GVK) (s : St), ∀ x ∈ (listLiveResourcesByGVKs o release gvks s).1,
      x.gvk ∈ gvks ∧ (liveSelector release).matches x.labels = true
  | [], s, x, hx => by simp [listLiveResourcesByGVKs] at hx
  | g :: rest, s, x, hx => by
    simp only [listLiveResourcesByGVKs, bind_apply] at hx
    revert hx
    unfold listByGVK
    split
    · exact fun hx => (listLiveResourcesByGVKs_mem o release rest _ x hx).imp_left
        (List.mem_cons_of_mem g)
    · simp only [bind_apply, pure_apply, List.mem_append]
      rintro (hx | hx)
      · obtain ⟨-, hg, hm⟩ := DataPlane.mem_list.1 hx
        exact ⟨hg ▸ List.mem_cons_self _ _, hm⟩
      · exact (listLiveResourcesByGVKs_mem o release rest _ x hx).imp_left
          (List.mem_cons_of_mem g)

/-! ## Effects with no other actor -/

/-- The data plane after applying documents in order. -/
def applyAll (dp : DataPlane) (docs : List Unstructured) : DataPlane :=
  docs.foldl DataPlane.upsert dp

@[simp] theorem applyAll_nil (dp : DataPlane) : applyAll dp [] = dp := rfl

@[simp] theorem applyAll_cons (dp : DataPlane) (d : Unstructured) (rest : List Unstructured) :
    applyAll dp (d :: rest) = applyAll (dp.upsert d) rest := rfl

theorem mem_applyAll_of_mem {dp : DataPlane} {x : Unstructured} :
    ∀ {docs : List Unstructured}, x ∈ dp.objects → (∀ d ∈ docs, d.key ≠ x.key) →
      x ∈ (applyAll dp docs).objects
  | [], hx, _ => hx
  | d :: rest, hx, hkey => by
    simp only [applyAll, List.foldl_cons] at hx ⊢
    refine mem_applyAll_of_mem (DataPlane.mem_upsert.2 (.inr ⟨hx, ?_⟩)) fun d' hd' =>
      hkey d' (List.mem_cons_of_mem _ hd')
    exact fun h => hkey d (List.mem_cons_self _ _) h.symm

theorem mem_applyAll {dp : DataPlane} {x : Unstructured} :
    ∀ {docs : List Unstructured}, x ∈ (applyAll dp docs).objects →
      x ∈ docs ∨ (x ∈ dp.objects ∧ ∀ d ∈ docs, d.key ≠ x.key)
  | [], hx => .inr ⟨hx, by simp⟩
  | d :: rest, hx => by
    simp only [applyAll, List.foldl_cons] at hx
    rcases mem_applyAll hx with h | ⟨hup, hkey⟩
    · exact .inl (List.mem_cons_of_mem _ h)
    · rcases DataPlane.mem_upsert.1 hup with rfl | ⟨hdp, hne⟩
      · exact .inl (List.mem_cons_self _ _)
      · exact .inr ⟨hdp, by simpa [Ne.symm hne] using hkey⟩

theorem exists_mem_applyAll {dp : DataPlane} :
    ∀ {docs : List Unstructured} {d : Unstructured}, d ∈ docs →
      ∃ x ∈ (applyAll dp docs).objects, x.key = d.key ∧ x ∈ docs
  | d' :: rest, d, hd => by
    simp only [applyAll, List.foldl_cons]
    by_cases hlater : ∃ d'' ∈ rest, d''.key = d.key
    · obtain ⟨d'', hd'', hk⟩ := hlater
      obtain ⟨x, hx, hxk, hxd⟩ := @exists_mem_applyAll (dp.upsert d') rest d'' hd''
      exact ⟨x, hx, hxk.trans hk, List.mem_cons_of_mem _ hxd⟩
    · push_neg at hlater
      rcases List.mem_cons.1 hd with rfl | hd
      · exact ⟨d, mem_applyAll_of_mem (DataPlane.mem_upsert.2 (.inl rfl)) hlater, rfl,
          List.mem_cons_self _ _⟩
      · exact absurd rfl (hlater d hd)

/-- Off the applied keys, applying changes nothing. -/
theorem mem_applyAll_off {dp : DataPlane} {docs : List Unstructured} {x : Unstructured}
    (hoff : ∀ d ∈ docs, d.key ≠ x.key) : x ∈ (applyAll dp docs).objects ↔ x ∈ dp.objects :=
  ⟨fun h => (mem_applyAll h).elim (fun hd => absurd rfl (hoff x hd)) And.left,
    fun h => mem_applyAll_of_mem h hoff⟩

/-- At an applied key, what applying leaves does not depend on the data plane it started from. -/
theorem mem_applyAll_at {dp dp' : DataPlane} {x : Unstructured} :
    ∀ {docs : List Unstructured}, (∃ d ∈ docs, d.key = x.key) →
      (x ∈ (applyAll dp docs).objects ↔ x ∈ (applyAll dp' docs).objects)
  | d :: rest, ⟨d', hd', hk⟩ => by
    rw [applyAll_cons, applyAll_cons]
    by_cases hrest : ∃ d'' ∈ rest, d''.key = x.key
    · exact @mem_applyAll_at (dp.upsert d) (dp'.upsert d) x rest hrest
    push_neg at hrest
    have hd : d.key = x.key := by
      rcases List.mem_cons.1 hd' with rfl | h
      · exact hk
      · exact absurd hk (hrest d' h)
    rw [mem_applyAll_off hrest, mem_applyAll_off hrest, DataPlane.mem_upsert, DataPlane.mem_upsert]
    simp [hd]

/-- The stale objects of what an apply phase left are off every desired key: the object under a
desired key is a desired document, whose resource ID is desired. -/
theorem stale_key_not_desired {dp : DataPlane} {desired live : List Unstructured}
    (hlive : ∀ x ∈ live, x ∈ (applyAll dp desired).objects) :
    ∀ y ∈ findStaleResources live desired, ∀ d ∈ desired, d.key ≠ y.key := fun y hy d hd hkey => by
  obtain ⟨hy, -, hnot⟩ := mem_findStaleResources.1 hy
  rcases mem_applyAll (hlive y hy) with hmem | ⟨-, hoff⟩
  · exact hnot y hmem rfl
  · exact hoff d hd hkey

/-- The data plane after deleting objects in order, each delete taking effect at once. -/
def deleteAll (dp : DataPlane) (objs : List Unstructured) : DataPlane :=
  objs.foldl (fun dp y => dp.erase y.key) dp

@[simp] theorem deleteAll_nil (dp : DataPlane) : deleteAll dp [] = dp := rfl

@[simp] theorem deleteAll_cons (dp : DataPlane) (y : Unstructured) (rest : List Unstructured) :
    deleteAll dp (y :: rest) = deleteAll (dp.erase y.key) rest := rfl

theorem mem_deleteAll {x : Unstructured} :
    ∀ {objs : List Unstructured} {dp : DataPlane},
      x ∈ (deleteAll dp objs).objects ↔ x ∈ dp.objects ∧ ∀ y ∈ objs, ¬ Removes y.key x
  | [], _ => by simp
  | y :: rest, dp => by
    rw [deleteAll_cons, mem_deleteAll, DataPlane.mem_erase, List.forall_mem_cons, and_assoc]

theorem hasNamespace_applyAll {name : String} :
    ∀ {docs : List Unstructured} {dp : DataPlane}, dp.hasNamespace name = true →
      (applyAll dp docs).hasNamespace name = true
  | [], _, h => h
  | d :: _, dp, h => by
    rw [applyAll_cons]
    exact hasNamespace_applyAll (show (dp.upsert d).hasNamespace name = true from hasNamespace_upsert h)

/-- A namespace that no delete targets survives the deletes: the objects a namespace takes with it
are those inside it, never a namespace. -/
theorem hasNamespace_deleteAll {name : String} {dp : DataPlane} {objs : List Unstructured}
    (h : dp.hasNamespace name = true) (hobjs : ∀ y ∈ objs, y.key ≠ (namespaceGVK, "", name)) :
    (deleteAll dp objs).hasNamespace name = true := by
  obtain ⟨x, hx, hkey⟩ := hasNamespace_iff.1 h
  have hns : x.ns = "" := by simp only [Unstructured.key, Prod.mk.injEq] at hkey; exact hkey.2.1
  refine hasNamespace_iff.2 ⟨x, mem_deleteAll.2 ⟨hx, fun y hy hrem => ?_⟩, hkey⟩
  rcases hrem with hxy | ⟨hne, -⟩
  · exact hobjs y hy (hxy ▸ hkey)
  · exact hne hns

/-- Between two states the data plane only gained objects, all of them from `new`. -/
def Grows (new : List Unstructured) (s s' : St) : Prop :=
  (∀ x ∈ s.dataPlane.objects, x ∈ s'.dataPlane.objects) ∧
    ∀ x ∈ s'.dataPlane.objects, x ∈ s.dataPlane.objects ∨ x ∈ new

theorem Grows.refl (new : List Unstructured) (s : St) : Grows new s s :=
  ⟨fun _ hx => hx, fun _ hx => .inl hx⟩

theorem Grows.trans {new : List Unstructured} {s₁ s₂ s₃ : St} (h₁ : Grows new s₁ s₂)
    (h₂ : Grows new s₂ s₃) : Grows new s₁ s₃ :=
  ⟨fun x hx => h₂.1 x (h₁.1 x hx), fun x hx => (h₂.2 x hx).elim (h₁.2 x) .inr⟩

section Quiet

variable {o : Oracle} (hq : Quiet o)
include hq

theorem applyResources_quiet :
    ∀ (docs : List Unstructured) (s : St), (applyResources o docs s).1 = .ok () →
      (applyResources o docs s).2.dataPlane = applyAll s.dataPlane docs
  | [], s, _ => rfl
  | d :: rest, s, h => by
    have hi : o.interfere s.calls s.dataPlane = s.dataPlane := hq _ _
    by_cases hf : o.fault s.calls = true
    · simp [applyResources, patchApply, hi, hf] at h
    by_cases hns : d.ns ≠ "" ∧ s.dataPlane.hasNamespace d.ns = false
    · simp [applyResources, patchApply, hi, hf, hns] at h
    · simp only [applyResources, bind_apply, patchApply, hi, hf, Bool.false_eq_true, if_false,
        if_neg hns] at h ⊢
      exact applyResources_quiet rest _ h

theorem listLiveResourcesByGVKs_quiet (release : Release) :
    ∀ (gvks : List GVK) (s : St),
      (listLiveResourcesByGVKs o release gvks s).2.dataPlane = s.dataPlane ∧
      ∀ x ∈ (listLiveResourcesByGVKs o release gvks s).1, x ∈ s.dataPlane.objects
  | [], s => by simp [listLiveResourcesByGVKs]
  | g :: rest, s => by
    have hi : o.interfere s.calls s.dataPlane = s.dataPlane := hq _ _
    by_cases hf : o.fault s.calls = true
    · simpa [listLiveResourcesByGVKs, listByGVK, hi, hf, St.close] using
        listLiveResourcesByGVKs_quiet release rest (s.close s.dataPlane (.list g _ none))
    · obtain ⟨hdp, hmem⟩ := listLiveResourcesByGVKs_quiet release rest
        (s.close s.dataPlane (.list g (liveSelector release)
          (some (s.dataPlane.list g (liveSelector release)))))
      simp only [listLiveResourcesByGVKs, listByGVK, bind_apply, hi, hf, Bool.false_eq_true,
        if_false, pure_apply, List.mem_append]
      exact ⟨hdp, fun x hx => hx.elim (fun h => (DataPlane.mem_list.1 h).1) (hmem x)⟩

/-- When no list of the run failed, the lists return every object of a probed kind that the
selector matches. -/
theorem listLiveResourcesByGVKs_complete (release : Release) :
    ∀ (gvks : List GVK) (s : St),
      (∀ g, Call.list g (liveSelector release) none ∉ (listLiveResourcesByGVKs o release gvks s).2.log) →
      ∀ x ∈ s.dataPlane.objects, x.gvk ∈ gvks → (liveSelector release).matches x.labels = true →
        x ∈ (listLiveResourcesByGVKs o release gvks s).1
  | [], _, _, _, _, hg, _ => by simp at hg
  | g :: rest, s, hnone, x, hx, hg, hm => by
    have hi : o.interfere s.calls s.dataPlane = s.dataPlane := hq _ _
    by_cases hf : o.fault s.calls = true
    · simp only [listLiveResourcesByGVKs, bind_apply, listByGVK, hi, hf, if_true] at hnone
      obtain ⟨L, hL, -⟩ := (listLiveResourcesByGVKs_calls (P := fun _ => True) o release rest
        (fun _ _ _ _ => trivial) (s.close s.dataPlane (.list g (liveSelector release) none))).log
      exact absurd (by rw [hL]; simp [St.close]) (hnone g)
    · simp only [listLiveResourcesByGVKs, bind_apply, listByGVK, hi, hf, Bool.false_eq_true,
        if_false, pure_apply] at hnone ⊢
      by_cases hxg : x.gvk = g
      · exact List.mem_append_left _ (DataPlane.mem_list.2 ⟨hx, hxg, hm⟩)
      · exact List.mem_append_right _ (listLiveResourcesByGVKs_complete release rest _ hnone x hx
          ((List.mem_cons.1 hg).resolve_left hxg) hm)

theorem deleteResources_quiet (hi : Immediate o) :
    ∀ (objs : List Unstructured) (s : St), (deleteResources o objs s).1 = .ok () →
      (deleteResources o objs s).2.dataPlane = deleteAll s.dataPlane objs
  | [], _, _ => rfl
  | y :: rest, s, h => by
    have hint : o.interfere s.calls s.dataPlane = s.dataPlane := hq _ _
    by_cases hf : o.fault s.calls = true
    · simp [deleteResources, deleteObject, hint, hf] at h
    by_cases hfind : (s.dataPlane.find? y.key).isSome = false
    · simp [deleteResources, deleteObject, hint, hf, hfind] at h
    simp only [deleteResources, bind_apply, deleteObject, hint, hf, hfind, hi s.calls,
      Bool.false_eq_true, if_false] at h ⊢
    exact deleteResources_quiet hi rest _ h

/-- `ensureNamespaces` only adds namespaces it was given, and removes nothing. -/
theorem ensureNamespaces_grows (nss : List Unstructured) :
    ∀ rest, rest ⊆ nss → Keeps (Grows nss) (ensureNamespaces o rest)
  | [], _ => Keeps.pure (Grows.refl nss) _
  | ns :: rest, hsub => by
    have hget : Keeps (Grows nss) (getNamespace o ns.name) := fun s => by
      simpa [getNamespace, St.close, hq _ _] using Grows.refl nss s
    have hcreate : Keeps (Grows nss) (createNamespace o ns) := fun s => by
      have hi : o.interfere s.calls s.dataPlane = s.dataPlane := hq _ _
      unfold createNamespace
      simp only [hi]
      split_ifs with hf hfind
      · exact Grows.refl nss s
      · exact Grows.refl nss s
      · refine ⟨fun x hx => DataPlane.mem_upsert.2 (.inr ⟨hx, fun hk => hfind ?_⟩), fun x hx => ?_⟩
        · exact DataPlane.find?_isSome.2 ⟨x, hx, hk⟩
        · rcases DataPlane.mem_upsert.1 hx with rfl | ⟨hx, -⟩
          · exact .inr (hsub (List.mem_cons_self _ _))
          · exact .inl hx
    have ih := ensureNamespaces_grows nss rest fun x hx => hsub (List.mem_cons_of_mem _ hx)
    have trans : ∀ s₁ s₂ s₃, Grows nss s₁ s₂ → Grows nss s₂ s₃ → Grows nss s₁ s₃ :=
      fun _ _ _ => Grows.trans
    refine Keeps.bind trans hget fun r => ?_
    rcases r with (_ | _ | _) | ⟨⟩
    · refine Keeps.bind trans hcreate fun r => ?_
      rcases r with (_ | _ | _) | ⟨⟩ <;> first | exact ih | exact Keeps.pure (Grows.refl nss) _
    all_goals first | exact ih | exact Keeps.pure (Grows.refl nss) _

theorem getDPClient_quiet (release : Release) (s : St) :
    (getDPClient o release s).2.dataPlane = s.dataPlane := by
  simp only [getDPClient, bind_apply]
  rcases (resolveDataPlane o release.spec.environmentName s).1 with _ | ⟨⟨⟩⟩ <;>
    simp [resolveDataPlane, St.close, hq _ _]

theorem updateStatus_quiet (release : Release) (desired : List Unstructured) (s : St) :
    (updateStatus o release desired s).2.dataPlane = s.dataPlane := by
  unfold updateStatus
  dsimp only
  split
  · rfl
  · simp only [bind_apply]
    rcases (writeStatus o _ s).1 with _ | ⟨⟨⟩⟩ <;> simp only [writeStatus, pure_apply] <;>
      split <;> simp [St.close, hq _ _]

end Quiet

/-! ## The two paths of a pass -/

section Paths

variable (o : Oracle)

theorem ensureFinalizer_of_mem {r : Release} (hF : DataPlaneCleanupFinalizer ∈ r.finalizers)
    (s : St) : ensureFinalizer o r s = (.ok false, s) := by
  unfold ensureFinalizer
  split
  · rfl
  · simp [addFinalizer, hF]

/-- A pass that fetches a Release with no deletion timestamp ends at the fetch (a failed get), at
`ensureFinalizer` (the finalizer was missing), or runs the steady-state path. -/
theorem reconcile_active {s : St} {r : Release} (hr : s.release = some r)
    (hnd : r.deletionTimestamp = none) :
    (o.fault s.calls = true ∧ (reconcile o s).2 = (getRelease o s).2) ∨
    (DataPlaneCleanupFinalizer ∉ r.finalizers ∧
      (reconcile o s).2 = (ensureFinalizer o r (getRelease o s).2).2) ∨
    (DataPlaneCleanupFinalizer ∈ r.finalizers ∧
      reconcile o s = reconcileRelease o r (getRelease o s).2) := by
  by_cases hf : o.fault s.calls = true
  · left; simp [reconcile, getRelease, hf]
  have hget : (getRelease o s).1 = .ok r := by simp [getRelease, hf, hr]
  simp only [reconcile, bind_apply, hget, hnd, Option.isSome_none, Bool.false_eq_true, if_false]
  by_cases hF : DataPlaneCleanupFinalizer ∈ r.finalizers
  · right; right; exact ⟨hF, by rw [ensureFinalizer_of_mem o hF]⟩
  · right; left
    refine ⟨hF, ?_⟩
    rcases hres : (ensureFinalizer o r (getRelease o s).2).1 with _ | _ | _
    · rfl
    · exact absurd (ensureFinalizer_present o hnd hres) hF
    · rfl

/-- A pass that fetches a Release being deleted ends at the fetch or runs `finalize`. -/
theorem reconcile_deleting {s : St} {r : Release} (hr : s.release = some r)
    (hd : r.deletionTimestamp.isSome) :
    (o.fault s.calls = true ∧ (reconcile o s).2 = (getRelease o s).2) ∨
    reconcile o s = finalize o r (getRelease o s).2 := by
  by_cases hf : o.fault s.calls = true
  · left; simp [reconcile, getRelease, hf]
  have hget : (getRelease o s).1 = .ok r := by simp [getRelease, hf, hr]
  right
  simp only [reconcile, bind_apply, hget, hd, if_true]

theorem applyResources_logs :
    ∀ (docs : List Unstructured) (s : St), (applyResources o docs s).1 = .ok () →
      ∀ d ∈ docs, .apply d ∈ (applyResources o docs s).2.log
  | [], _, _, _, hd => absurd hd (List.not_mem_nil _)
  | d :: rest, s, h, d', hd' => by
    have hstep := patchApply_step o s d
    simp only [applyResources, bind_apply] at h ⊢
    revert h hstep
    generalize patchApply o d s = r
    obtain ⟨_ | ⟨⟩, s₁⟩ := r
    · rintro ⟨⟩
    intro h hstep
    rcases List.mem_cons.1 hd' with rfl | hd'
    · have hlog : s₁.log = s.log ++ [.apply d'] := hstep.1
      exact (applyResources_calls (P := fun _ => True) o rest (fun _ _ => trivial) s₁).mem_log_of_mem
        (by simp [hlog])
    · exact applyResources_logs rest s₁ h d' hd'

theorem deleteResources_logs :
    ∀ (objs : List Unstructured) (s : St), (deleteResources o objs s).1 = .ok () →
      ∀ y ∈ objs, .delete y ∈ (deleteResources o objs s).2.log
  | [], _, _, _, hy => absurd hy (List.not_mem_nil _)
  | y :: rest, s, h, y', hy' => by
    have hstep := deleteObject_step o s y
    simp only [deleteResources, bind_apply] at h ⊢
    revert h hstep
    generalize deleteObject o y s = r
    obtain ⟨_ | ⟨⟩, s₁⟩ := r
    · rintro ⟨⟩
    intro h hstep
    rcases List.mem_cons.1 hy' with rfl | hy'
    · have hlog : s₁.log = s.log ++ [.delete y'] := hstep.1
      exact (deleteResources_calls (P := fun _ => True) o rest (fun _ _ => trivial) s₁).mem_log_of_mem
        (by simp [hlog])
    · exact deleteResources_logs rest s₁ h y' hy'

theorem syncResources_ok {release : Release} {desired live : List Unstructured} {s : St}
    (h : (syncResources o release desired s).1 = .ok live) :
    ∃ s₁ s₂, applyResources o desired s = (.ok (), s₁) ∧
      listLiveResourcesByGVKs o release (findAllKnownGVKs desired release.status.resources) s₁ =
        (live, s₂) ∧
      deleteResources o (findStaleResources live desired) s₂ =
        (.ok (), (syncResources o release desired s).2) := by
  simp only [syncResources, bind_apply] at h ⊢
  rcases h₁ : applyResources o desired s with ⟨_ | ⟨⟨⟩⟩, s₁⟩
  · simp [h₁] at h
  simp only [h₁, bind_apply] at h ⊢
  rcases h₂ : listLiveResourcesByGVKs o release
    (findAllKnownGVKs desired release.status.resources) s₁ with ⟨live', s₂⟩
  simp only [h₂, bind_apply] at h ⊢
  rcases h₃ : deleteResources o (findStaleResources live' desired) s₂ with ⟨_ | ⟨⟨⟩⟩, s₃⟩
  · simp [h₃] at h
  simp only [h₃, pure_apply, Except.ok.injEq] at h ⊢
  subst h
  exact ⟨s₁, s₂, rfl, h₂, h₃⟩

theorem reconcileRelease_ok {release : Release} {s : St} {res : Result}
    (h : (reconcileRelease o release s).1 = .ok res) :
    ∃ desired s₁ s₂ s₃ live b, getDPClient o release s = (.ok (), s₁) ∧
      makeDesiredResources release = .ok desired ∧
      ensureNamespaces o (makeDesiredNamespaces release desired) s₁ = (.ok (), s₂) ∧
      syncResources o release desired s₂ = (.ok live, s₃) ∧
      updateStatus o release desired s₃ = (.ok b, (reconcileRelease o release s).2) := by
  simp only [reconcileRelease, bind_apply] at h ⊢
  rcases h₁ : getDPClient o release s with ⟨_ | ⟨⟨⟩⟩, s₁⟩
  · simp [h₁] at h
  rcases hd : makeDesiredResources release with _ | desired
  · simp [h₁, hd] at h
  simp only [h₁, hd, bind_apply] at h ⊢
  rcases h₂ : ensureNamespaces o (makeDesiredNamespaces release desired) s₁ with ⟨_ | ⟨⟨⟩⟩, s₂⟩
  · simp [h₂] at h
  simp only [h₂, bind_apply] at h ⊢
  rcases h₃ : syncResources o release desired s₂ with ⟨_ | live, s₃⟩
  · simp [h₃] at h
  simp only [h₃, bind_apply] at h ⊢
  rcases h₄ : updateStatus o release desired s₃ with ⟨_ | b, s₄⟩
  · simp [h₄] at h
  refine ⟨desired, s₁, s₂, s₃, live, b, rfl, rfl, h₂, h₃, ?_⟩
  simp only [h₄]
  rcases b with _ | _
  · simp only [pure_apply]; split <;> rfl
  · rfl

/-- A run of the three phases that returns without error logs an apply of every desired document
and a delete of every stale object. -/
theorem syncResources_logs {release : Release} {desired live : List Unstructured} {s : St}
    (h : (syncResources o release desired s).1 = .ok live) :
    (∀ d ∈ desired, .apply d ∈ (syncResources o release desired s).2.log) ∧
    ∀ y ∈ findStaleResources live desired, .delete y ∈ (syncResources o release desired s).2.log := by
  obtain ⟨s₁, s₂, h₁, h₂, h₃⟩ := syncResources_ok o h
  have run₂ := listLiveResourcesByGVKs_calls (P := fun _ => True) o release
    (findAllKnownGVKs desired release.status.resources) (fun _ _ _ _ => trivial) s₁
  have run₃ := deleteResources_calls (P := fun _ => True) o (findStaleResources live desired)
    (fun _ _ => trivial) s₂
  have happ := applyResources_logs o desired s (by rw [h₁])
  have hdel := deleteResources_logs o _ s₂ (by rw [h₃])
  rw [h₁] at happ
  rw [h₂] at run₂
  rw [h₃] at run₃ hdel
  exact ⟨fun d hd => run₃.mem_log_of_mem (run₂.mem_log_of_mem (happ d hd)), hdel⟩

theorem updateStatus_release {release : Release} {desired : List Unstructured} {s : St} {b : Bool}
    (hr : s.release = some release) (h : (updateStatus o release desired s).1 = .ok b) :
    (updateStatus o release desired s).2.release = some { release with
      status := { release.status with resources := desired.map inventoryRecord } } := by
  unfold updateStatus at h ⊢
  dsimp only at h ⊢
  split at h
  · rename_i heq
    rw [if_pos heq, heq]
    exact hr
  · rw [if_neg ‹_›]
    simp only [bind_apply, writeStatus] at h ⊢
    by_cases hf : o.fault s.calls = true
    · simp [hf] at h
    · simp [hf, St.close, hr]

theorem reconcile_ok_active {s : St} {r : Release} {res : Result} (hr : s.release = some r)
    (hnd : r.deletionTimestamp = none) (hF : DataPlaneCleanupFinalizer ∈ r.finalizers)
    (h : (reconcile o s).1 = .ok res) : reconcile o s = reconcileRelease o r (getRelease o s).2 := by
  rcases reconcile_active o hr hnd with ⟨hf, -⟩ | ⟨hF', -⟩ | ⟨-, he⟩
  · simp [reconcile, getRelease, hf] at h
  · exact absurd hF hF'
  · exact he

/-- The only deletes of a run of the three phases that returns without error are of its stale
objects. -/
theorem syncResources_deletes {release : Release} {desired live : List Unstructured} {s : St}
    (h : (syncResources o release desired s).1 = .ok live) {x : Unstructured}
    (hx : .delete x ∈ (syncResources o release desired s).2.log) :
    .delete x ∈ s.log ∨ x ∈ findStaleResources live desired := by
  obtain ⟨s₁, s₂, h₁, h₂, h₃⟩ := syncResources_ok o h
  have run₁ := applyResources_calls (P := fun c => c.isDelete = false) o desired (fun _ _ => rfl) s
  have run₂ := listLiveResourcesByGVKs_calls (P := fun c => c.isDelete = false) o release
    (findAllKnownGVKs desired release.status.resources) (fun _ _ _ _ => rfl) s₁
  have run₃ := deleteResources_calls (P := fun c => ∃ y ∈ findStaleResources live desired,
    c = .delete y) o _ (fun y hy => ⟨y, hy, rfl⟩) s₂
  rw [h₁] at run₁
  rw [h₂] at run₂
  rw [h₃] at run₃
  rcases run₃.mem_log hx with hx | ⟨y, hy, he⟩
  · rcases run₂.mem_log hx with hx | hx
    · exact (run₁.mem_log hx).imp_right fun hx => by simp [Call.isDelete] at hx
    · simp [Call.isDelete] at hx
  · cases he
    exact .inr hy

end Paths

section QuietPhases

variable {o : Oracle} (hq : Quiet o)
include hq

/-- With no other actor and immediate deletes, a run of the three phases that returns without error
applies every desired document, lists what the selector matches among the probed kinds of that data
plane (all of it when no list fails), and deletes the stale objects of what it listed. -/
theorem syncResources_quiet (hi : Immediate o) {release : Release} {desired live : List Unstructured}
    {s : St} (hok : (syncResources o release desired s).1 = .ok live) :
    (syncResources o release desired s).2.dataPlane =
      deleteAll (applyAll s.dataPlane desired) (findStaleResources live desired) ∧
    (∀ x ∈ live, x ∈ (applyAll s.dataPlane desired).objects ∧
      x.gvk ∈ findAllKnownGVKs desired release.status.resources ∧
      (liveSelector release).matches x.labels = true) ∧
    ((∀ c ∈ (syncResources o release desired s).2.log, c.isFailedList = false) →
      ∀ x ∈ (applyAll s.dataPlane desired).objects,
        x.gvk ∈ findAllKnownGVKs desired release.status.resources →
        (liveSelector release).matches x.labels = true → x ∈ live) := by
  obtain ⟨s₁, s₂, h₁, h₂, h₃⟩ := syncResources_ok o hok
  set gvks := findAllKnownGVKs desired release.status.resources
  have hdp₁ : s₁.dataPlane = applyAll s.dataPlane desired := by
    have := applyResources_quiet hq desired s (by rw [h₁]); rwa [h₁] at this
  have hlist := listLiveResourcesByGVKs_quiet hq release gvks s₁
  have hmem := listLiveResourcesByGVKs_mem o release gvks s₁
  rw [h₂] at hlist hmem
  have hend : (deleteResources o (findStaleResources live desired) s₂).2 =
      (syncResources o release desired s).2 := congrArg Prod.snd h₃
  refine ⟨?_, fun x hx => ⟨hdp₁ ▸ hlist.2 x hx, hmem x hx⟩, fun hl x hx hg hm => ?_⟩
  · rw [← hend, deleteResources_quiet hq hi _ s₂ (by rw [h₃]), hlist.1, hdp₁]
  · have run₃ := deleteResources_calls (P := fun _ => True) o (findStaleResources live desired)
      (fun _ _ => trivial) s₂
    have := listLiveResourcesByGVKs_complete hq release gvks s₁ (fun g hg => Bool.noConfusion
      (hl (.list g (liveSelector release) none) (hend ▸ run₃.mem_log_of_mem (by rwa [h₂] at hg))))
      x (hdp₁ ▸ hx) hg hm
    rwa [h₂] at this

end QuietPhases

end ReleaseController
end OpenChoreo
