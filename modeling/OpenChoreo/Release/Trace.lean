import OpenChoreo.Release.Reconcile

/-!
# The calls a pass makes

Every primitive call is one `CallStep`: it appends its entry to the log, counts itself, and
changes the stored Release only as an update of finalizers or of the status. `Calls P m` says that
`m`, from any state and whatever the oracle decides, makes only calls that satisfy `P`. It composes
through `bind`, so each function of the pass gets one lemma, stated for every `P`; the guards a
theorem needs are then a choice of `P`.
-/

namespace OpenChoreo
namespace ReleaseController

/-! ## Runs of calls -/

/-- One API call `c` from `s` to `s'`: it is logged and counted, and it changes the stored Release
only as `c` says. The data plane is left free: the other actors may have changed anything. -/
def CallStep (c : Call) (s s' : St) : Prop :=
  s'.log = s.log ++ [c] ∧ s'.calls = s.calls + 1 ∧
    (s'.release = s.release ∨
      (∃ fs, c = .updateRelease fs ∧ s'.release = s.release.map ({ · with finalizers := fs })) ∨
      (∃ st, c = .updateStatus st ∧ s'.release = s.release.map ({ · with status := st })))

/-- A run of calls that all satisfy `P`. -/
def CallRun (P : Call → Prop) : St → St → Prop :=
  Relation.ReflTransGen fun s s' => ∃ c, P c ∧ CallStep c s s'

/-- `m` makes only calls that satisfy `P`, from any state and whatever the oracle decides. -/
def Calls {α : Type} (P : Call → Prop) (m : M α) : Prop :=
  Keeps (CallRun P) m

section Calls

variable {P : Call → Prop} {α β : Type}

theorem Calls.pure (a : α) : Calls P (Pure.pure a : M α) :=
  Keeps.pure (fun _ => Relation.ReflTransGen.refl) a

theorem Calls.bind {m : M α} {f : α → M β} (hm : Calls P m) (hf : ∀ a, Calls P (f a)) :
    Calls P (m >>= f) :=
  Keeps.bind (fun _ _ _ h₁ h₂ => h₁.trans h₂) hm hf

theorem Calls.single {m : M α} {c : Call} (h : ∀ s, CallStep c s (m s).2) (hc : P c) : Calls P m :=
  fun s => Relation.ReflTransGen.single ⟨c, hc, h s⟩

theorem Calls.run {m : M α} (hm : Calls P m) {s s' : St} {a : α} (he : m s = (a, s')) :
    CallRun P s s' := by
  have := hm s
  rwa [he] at this

theorem CallRun.mono {Q : Call → Prop} {s s' : St} (h : CallRun P s s') (hPQ : ∀ c, P c → Q c) :
    CallRun Q s s' :=
  Relation.ReflTransGen.mono (fun _ _ ⟨c, hc, hs⟩ => ⟨c, hPQ c hc, hs⟩) h

theorem Calls.mono {Q : Call → Prop} {m : M α} (h : Calls P m) (hPQ : ∀ c, P c → Q c) :
    Calls Q m :=
  fun s => (h s).mono hPQ

theorem CallRun.log {s s' : St} (h : CallRun P s s') : ∃ L, s'.log = s.log ++ L ∧ ∀ c ∈ L, P c := by
  induction h with
  | refl => exact ⟨[], by simp, by simp⟩
  | tail _ hstep ih =>
    obtain ⟨L, hL, hP⟩ := ih
    obtain ⟨c, hc, hlog, -⟩ := hstep
    exact ⟨L ++ [c], by rw [hlog, hL, List.append_assoc], by simpa [or_imp, forall_and] using ⟨hP, hc⟩⟩

theorem CallRun.mem_log {s s' : St} (h : CallRun P s s') {c : Call} (hc : c ∈ s'.log) :
    c ∈ s.log ∨ P c := by
  obtain ⟨L, hL, hP⟩ := h.log
  rw [hL] at hc
  exact (List.mem_append.1 hc).imp_right (hP c)

theorem CallRun.mem_log_of_mem {s s' : St} (h : CallRun P s s') {c : Call} (hc : c ∈ s.log) :
    c ∈ s'.log := by
  obtain ⟨L, hL, -⟩ := h.log
  exact hL ▸ List.mem_append_left L hc

theorem CallRun.deletionTimestamp {s s' : St} (h : CallRun P s s') :
    s'.release.map Release.deletionTimestamp = s.release.map Release.deletionTimestamp := by
  induction h with
  | refl => rfl
  | tail _ hstep ih =>
    obtain ⟨c, -, -, -, hrel | ⟨fs, -, hrel⟩ | ⟨st, -, hrel⟩⟩ := hstep
    all_goals rw [hrel]
    all_goals simpa [Option.map_map, Function.comp_def] using ih

/-- The call leaves the stored Release alone. -/
def Call.keepsRelease : Call → Bool
  | .updateRelease _ => false
  | .updateStatus _ => false
  | _ => true

theorem CallRun.release_eq {s s' : St} (h : CallRun P s s') (hP : ∀ c, P c → c.keepsRelease = true) :
    s'.release = s.release := by
  induction h with
  | refl => rfl
  | tail _ hstep ih =>
    obtain ⟨c, hc, -, -, hrel | ⟨fs, rfl, -⟩ | ⟨st, rfl, -⟩⟩ := hstep
    · exact hrel.trans ih
    all_goals exact absurd (hP _ hc) (by simp [Call.keepsRelease])

/-- The call leaves the stored finalizers alone. -/
def Call.keepsFinalizers : Call → Bool
  | .updateRelease _ => false
  | _ => true

theorem CallRun.finalizers_eq {s s' : St} (h : CallRun P s s')
    (hP : ∀ c, P c → c.keepsFinalizers = true) :
    s'.release.map (·.finalizers) = s.release.map (·.finalizers) := by
  induction h with
  | refl => rfl
  | tail _ hstep ih =>
    obtain ⟨c, hc, -, -, hrel | ⟨fs, rfl, -⟩ | ⟨st, -, hrel⟩⟩ := hstep
    · rw [hrel]; exact ih
    · exact absurd (hP _ hc) (by simp [Call.keepsFinalizers])
    · rw [hrel]; simpa [Option.map_map, Function.comp_def] using ih

end Calls

/-! ## One step per call -/

section Primitives

variable (o : Oracle) (s : St)

theorem getRelease_step : CallStep .getRelease s (getRelease o s).2 :=
  ⟨rfl, rfl, .inl rfl⟩

theorem updateRelease_step (rel : Release) :
    CallStep (.updateRelease rel.finalizers) s (updateRelease o rel s).2 := by
  unfold updateRelease; split
  · exact ⟨rfl, rfl, .inl rfl⟩
  · exact ⟨rfl, rfl, .inr (.inl ⟨_, rfl, rfl⟩)⟩

theorem writeStatus_step (status : ReleaseStatus) :
    CallStep (.updateStatus status) s (writeStatus o status s).2 := by
  unfold writeStatus; split
  · exact ⟨rfl, rfl, .inl rfl⟩
  · exact ⟨rfl, rfl, .inr (.inr ⟨_, rfl, rfl⟩)⟩

theorem resolveDataPlane_step (env : String) :
    CallStep (.resolveDataPlane env) s (resolveDataPlane o env s).2 :=
  ⟨rfl, rfl, .inl rfl⟩

theorem getNamespace_step (name : String) :
    CallStep (.getNamespace name) s (getNamespace o name s).2 :=
  ⟨rfl, rfl, .inl rfl⟩

theorem createNamespace_step (ns : Unstructured) :
    CallStep (.createNamespace ns) s (createNamespace o ns s).2 := by
  unfold createNamespace; dsimp only; split_ifs <;> exact ⟨rfl, rfl, .inl rfl⟩

theorem patchApply_step (obj : Unstructured) :
    CallStep (.apply obj) s (patchApply o obj s).2 := by
  unfold patchApply; dsimp only; split_ifs <;> exact ⟨rfl, rfl, .inl rfl⟩

/-- The entry a list call logs, read off its result. -/
def listEntry (gvk : GVK) (sel : Labels) : Except ApiError (List Unstructured) → Call
  | .ok items => .list gvk sel (some items)
  | .error _ => .list gvk sel none

theorem listByGVK_step (gvk : GVK) (sel : Labels) :
    CallStep (listEntry gvk sel (listByGVK o gvk sel s).1) s (listByGVK o gvk sel s).2 := by
  unfold listByGVK; split <;> exact ⟨rfl, rfl, .inl rfl⟩

/-- The items a list logs match its selector. -/
def ItemsMatch (sel : Labels) (items : Option (List Unstructured)) : Prop :=
  ∀ l, items = some l → ∀ x ∈ l, sel.matches x.labels = true

theorem listByGVK_itemsMatch (gvk : GVK) (sel : Labels) :
    ∃ items, ItemsMatch sel items ∧ listEntry gvk sel (listByGVK o gvk sel s).1 = .list gvk sel items := by
  unfold listByGVK; split
  · exact ⟨none, by simp [ItemsMatch], rfl⟩
  · exact ⟨_, by simp [ItemsMatch, DataPlane.mem_list], rfl⟩

theorem deleteObject_step (obj : Unstructured) :
    CallStep (.delete obj) s (deleteObject o obj s).2 := by
  unfold deleteObject; dsimp only; split_ifs <;> exact ⟨rfl, rfl, .inl rfl⟩

end Primitives

/-! ## The calls of each step -/

section Steps

variable (o : Oracle) {P : Call → Prop}

theorem getDPClient_calls (release : Release)
    (h : P (.resolveDataPlane release.spec.environmentName)) : Calls P (getDPClient o release) :=
  Calls.bind (Calls.single (resolveDataPlane_step o · _) h) fun r => by
    rcases r with _ | _ <;> exact Calls.pure _

theorem applyResources_calls (docs : List Unstructured) (h : ∀ d ∈ docs, P (.apply d)) :
    Calls P (applyResources o docs) := by
  induction docs with
  | nil => exact Calls.pure _
  | cons d rest ih =>
    refine Calls.bind (Calls.single (patchApply_step o · d) (h d (List.mem_cons_self _ _)))
      fun r => ?_
    rcases r with _ | _
    · exact Calls.pure _
    · exact ih fun d' hd' => h d' (List.mem_cons_of_mem _ hd')

theorem listLiveResourcesByGVKs_calls (release : Release) (gvks : List GVK)
    (h : ∀ g ∈ gvks, ∀ items, ItemsMatch (liveSelector release) items →
      P (.list g (liveSelector release) items)) :
    Calls P (listLiveResourcesByGVKs o release gvks) := by
  induction gvks with
  | nil => exact Calls.pure _
  | cons g rest ih =>
    have ih' := ih fun g' hg' => h g' (List.mem_cons_of_mem _ hg')
    have hg := h g (List.mem_cons_self _ _)
    refine Calls.bind (fun s => Relation.ReflTransGen.single ⟨_, ?_, listByGVK_step o s g _⟩)
      fun r => ?_
    · obtain ⟨items, hm, he⟩ := listByGVK_itemsMatch o s g (liveSelector release)
      exact he ▸ hg items hm
    · rcases r with _ | items
      · exact ih'
      · exact Calls.bind ih' fun _ => Calls.pure _

theorem deleteResources_calls (objs : List Unstructured) (h : ∀ x ∈ objs, P (.delete x)) :
    Calls P (deleteResources o objs) := by
  induction objs with
  | nil => exact Calls.pure _
  | cons x rest ih =>
    refine Calls.bind (Calls.single (deleteObject_step o · x) (h x (List.mem_cons_self _ _)))
      fun r => ?_
    rcases r with _ | _
    · exact Calls.pure _
    · exact ih fun x' hx' => h x' (List.mem_cons_of_mem _ hx')

theorem ensureNamespaces_calls (nss : List Unstructured)
    (h : ∀ ns ∈ nss, P (.getNamespace ns.name) ∧ P (.createNamespace ns)) :
    Calls P (ensureNamespaces o nss) := by
  induction nss with
  | nil => exact Calls.pure _
  | cons ns rest ih =>
    have hns := h ns (List.mem_cons_self _ _)
    have ih' := ih fun n hn => h n (List.mem_cons_of_mem _ hn)
    refine Calls.bind (Calls.single (getNamespace_step o · _) hns.1) fun r => ?_
    rcases r with (_ | _ | _) | ⟨⟩
    · refine Calls.bind (Calls.single (createNamespace_step o · _) hns.2) fun r => ?_
      rcases r with (_ | _ | _) | ⟨⟩ <;> first | exact Calls.pure _ | exact ih'
    all_goals first | exact Calls.pure _ | exact ih'

theorem updateStatusConditions_calls (release : Release) (h : P (.updateStatus release.status)) :
    Calls P (updateStatusConditions o release) :=
  Calls.bind (Calls.single (writeStatus_step o · _) h) fun r => by
    rcases r with _ | _ <;> exact Calls.pure _

theorem updateStatus_calls (release : Release) (docs : List Unstructured)
    (h : ∀ st, P (.updateStatus st)) : Calls P (updateStatus o release docs) := by
  unfold updateStatus
  dsimp only
  split
  · exact Calls.pure _
  · exact Calls.bind (Calls.single (writeStatus_step o · _) (h _)) fun r => by
      rcases r with _ | _ <;> exact Calls.pure _

theorem syncResources_calls (release : Release) (docs : List Unstructured)
    (happly : ∀ d ∈ docs, P (.apply d))
    (hlist : ∀ g items, ItemsMatch (liveSelector release) items →
      P (.list g (liveSelector release) items))
    (hdelete : ∀ x, P (.delete x)) : Calls P (syncResources o release docs) := by
  refine Calls.bind (applyResources_calls o docs happly) fun r => ?_
  rcases r with _ | _
  · exact Calls.pure _
  · refine Calls.bind (listLiveResourcesByGVKs_calls o release _ fun g _ => hlist g) fun live => ?_
    refine Calls.bind (deleteResources_calls o _ fun x _ => hdelete x) fun r => ?_
    rcases r with _ | _ <;> exact Calls.pure _

/-- The steady-state path makes no `updateRelease` call. -/
theorem reconcileRelease_calls (release : Release)
    (hres : P (.resolveDataPlane release.spec.environmentName))
    (hns : ∀ name, P (.getNamespace name)) (hcreate : ∀ ns, P (.createNamespace ns))
    (happly : ∀ d, P (.apply d))
    (hlist : ∀ g items, ItemsMatch (liveSelector release) items →
      P (.list g (liveSelector release) items))
    (hdelete : ∀ x, P (.delete x)) (hstatus : ∀ st, P (.updateStatus st)) :
    Calls P (reconcileRelease o release) := by
  refine Calls.bind (getDPClient_calls o release hres) fun r => ?_
  rcases r with _ | _
  · exact Calls.pure _
  dsimp only
  split
  · exact Calls.pure _
  refine Calls.bind (ensureNamespaces_calls o _ fun ns _ => ⟨hns _, hcreate _⟩) fun r => ?_
  rcases r with _ | _
  · exact Calls.pure _
  refine Calls.bind (syncResources_calls o release _ (fun d _ => happly d) hlist hdelete) fun r => ?_
  rcases r with _ | _
  · exact Calls.pure _
  refine Calls.bind (updateStatus_calls o release _ hstatus) fun r => ?_
  rcases r with _ | _ | _ <;> first | exact Calls.pure _ | (dsimp only; split <;> exact Calls.pure _)

theorem ensureFinalizer_calls (release : Release)
    (h : release.deletionTimestamp = none →
      P (.updateRelease (addFinalizer release.finalizers DataPlaneCleanupFinalizer).1)) :
    Calls P (ensureFinalizer o release) := by
  unfold ensureFinalizer
  split
  · exact Calls.pure _
  rename_i hnd
  split
  · exact Calls.bind (Calls.single (updateRelease_step o · _) (h (by simpa using hnd))) fun r => by
      rcases r with _ | _ <;> exact Calls.pure _
  · exact Calls.pure _

theorem cleanupDataPlane_calls (release : Release)
    (hres : P (.resolveDataPlane release.spec.environmentName))
    (hlist : ∀ g items, ItemsMatch (liveSelector release) items →
      P (.list g (liveSelector release) items))
    (hdelete : ∀ x, P (.delete x)) (hstatus : ∀ st, P (.updateStatus st))
    (hremove : P (.updateRelease (removeFinalizer release.finalizers DataPlaneCleanupFinalizer).1)) :
    Calls P (cleanupDataPlane o release) := by
  have hfail : ∀ err msg, Calls P (recordCleanupFailure o release err msg) := fun _ _ =>
    Calls.bind (updateStatusConditions_calls o _ (hstatus _)) fun r => by
      rcases r with _ | _ <;> exact Calls.pure _
  refine Calls.bind (getDPClient_calls o release hres) fun r => ?_
  rcases r with _ | _
  · exact hfail _ _
  refine Calls.bind (listLiveResourcesByGVKs_calls o release _ fun g _ => hlist g) fun live => ?_
  refine Calls.bind (deleteResources_calls o _ fun x _ => hdelete x) fun r => ?_
  rcases r with _ | _
  · exact hfail _ _
  dsimp only
  split
  · exact Calls.pure _
  split
  · exact Calls.bind (Calls.single (updateRelease_step o · _) hremove) fun r => by
      rcases r with _ | _ <;> exact Calls.pure _
  · exact Calls.pure _

end Steps

end ReleaseController
end OpenChoreo
