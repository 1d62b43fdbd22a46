import OpenChoreo.Release.Client
import OpenChoreo.Release.Inventory

/-!
# Namespaces before apply

`ensureNamespaces` gets each desired namespace and creates it when the get says `NotFound`; an
`AlreadyExists` from the create, which a concurrent creator causes, counts as success.

Several Releases reconcile against one data plane at once. Seen from one call of
`ensureNamespaces`, everything the others do between two of its calls is the oracle's
`interfere`. The rely is that no namespace is ever deleted; `ensureNamespaces_keeps_namespaces`
is the matching guarantee, so every concurrent caller satisfies the rely of the others. Under the
rely, and when gets fail only with `NotFound` and creates only with `AlreadyExists`, every call
returns success with all its namespaces in place.
-/

namespace OpenChoreo
namespace ReleaseController

/-- `ensureNamespaces`. -/
def ensureNamespaces (o : Oracle) : List Unstructured → M (Except String Unit)
  | [] => pure (.ok ())
  | nsObj :: rest => do
    match ← getNamespace o nsObj.name with
    | .ok () => ensureNamespaces o rest
    | .error .notFound =>
      match ← createNamespace o nsObj with
      | .ok () => ensureNamespaces o rest
      | .error .alreadyExists => ensureNamespaces o rest
      | .error err => pure (.error s!"failed to create namespace {nsObj.name}: {err}")
    | .error err => pure (.error s!"failed to check namespace {nsObj.name}: {err}")

/-! ## Namespaces in a data plane -/

/-- The data plane holds every namespace it held before. -/
def KeepsNamespaces (dp dp' : DataPlane) : Prop :=
  ∀ name, dp.hasNamespace name = true → dp'.hasNamespace name = true

/-- The rely of a concurrent caller: the other actors never delete a namespace. -/
def NamespacesNeverDeleted (o : Oracle) : Prop :=
  ∀ n dp, KeepsNamespaces dp (o.interfere n dp)

theorem hasNamespace_iff {dp : DataPlane} {name : String} :
    dp.hasNamespace name = true ↔ ∃ x ∈ dp.objects, x.key = (namespaceGVK, "", name) := by
  simp [DataPlane.hasNamespace]

theorem hasNamespace_upsert {dp : DataPlane} {obj : Unstructured} {name : String}
    (h : dp.hasNamespace name = true) : (dp.upsert obj).hasNamespace name = true := by
  obtain ⟨x, hx, hk⟩ := hasNamespace_iff.1 h
  rw [hasNamespace_iff]
  by_cases hxo : x.key = obj.key
  · exact ⟨obj, DataPlane.mem_upsert.2 (.inl rfl), hxo ▸ hk⟩
  · exact ⟨x, DataPlane.mem_upsert.2 (.inr ⟨hx, hxo⟩), hk⟩

theorem hasNamespace_upsert_self {dp : DataPlane} {obj : Unstructured}
    (h : obj.gvk = namespaceGVK ∧ obj.ns = "") : (dp.upsert obj).hasNamespace obj.name = true :=
  hasNamespace_iff.2 ⟨obj, DataPlane.mem_upsert.2 (.inl rfl), by simp [Unstructured.key, h]⟩

theorem hasNamespace_of_find? {dp : DataPlane} {obj : Unstructured}
    (h : obj.gvk = namespaceGVK ∧ obj.ns = "") (hf : (dp.find? obj.key).isSome = true) :
    dp.hasNamespace obj.name = true := by
  obtain ⟨x, hx, hk⟩ := DataPlane.find?_isSome.1 hf
  refine hasNamespace_iff.2 ⟨x, hx, ?_⟩
  simp only [Unstructured.key, Prod.mk.injEq] at hk ⊢
  simp [hk, h]

/-! ## Guarantee and success -/

theorem ensureNamespaces_keeps_namespaces (o : Oracle) (hrely : NamespacesNeverDeleted o)
    (nss : List Unstructured) :
    Keeps (fun s s' => KeepsNamespaces s.dataPlane s'.dataPlane) (ensureNamespaces o nss) := by
  have trans : ∀ s₁ s₂ s₃ : St, KeepsNamespaces s₁.dataPlane s₂.dataPlane →
      KeepsNamespaces s₂.dataPlane s₃.dataPlane → KeepsNamespaces s₁.dataPlane s₃.dataPlane :=
    fun _ _ _ h₁ h₂ name h => h₂ name (h₁ name h)
  induction nss with
  | nil => exact Keeps.pure (fun _ _ h => h) _
  | cons nsObj rest ih =>
    refine Keeps.bind trans (fun s => hrely s.calls s.dataPlane) fun r => ?_
    rcases r with (_ | _ | _) | ⟨⟩
    · refine Keeps.bind trans (fun s => ?_) fun r => ?_
      · simp only [createNamespace]
        split
        · exact hrely _ _
        · split
          · exact hrely _ _
          · exact fun name h => hasNamespace_upsert (hrely _ _ name h)
      · rcases r with (_ | _ | _) | ⟨⟩
        all_goals first | exact Keeps.pure (fun _ _ h => h) _ | exact ih
    all_goals first | exact Keeps.pure (fun _ _ h => h) _ | exact ih

/-- A create that succeeds, or finds the namespace already there, leaves it in place. -/
theorem createNamespace_hasNamespace (o : Oracle) {nsObj : Unstructured}
    (hx : nsObj.gvk = namespaceGVK ∧ nsObj.ns = "") (s : St)
    (h : (createNamespace o nsObj s).1 = .ok () ∨ (createNamespace o nsObj s).1 = .error .alreadyExists) :
    (createNamespace o nsObj s).2.dataPlane.hasNamespace nsObj.name = true := by
  unfold createNamespace at h ⊢
  dsimp only at h ⊢
  split_ifs at h ⊢ with hf hfind
  · simp at h
  · exact hasNamespace_of_find? hx hfind
  · exact hasNamespace_upsert_self hx

/-- Under the rely, when `ensureNamespaces` succeeds each of its namespaces exists at its return. -/
theorem ensureNamespaces_exist_of_ok (o : Oracle) (hrely : NamespacesNeverDeleted o)
    (nss : List Unstructured) (hshape : ∀ x ∈ nss, x.gvk = namespaceGVK ∧ x.ns = "") (s : St)
    (hok : (ensureNamespaces o nss s).1 = .ok ()) :
    ∀ x ∈ nss, (ensureNamespaces o nss s).2.dataPlane.hasNamespace x.name = true := by
  induction nss generalizing s with
  | nil => simp
  | cons nsObj rest ih =>
    have hx := hshape nsObj (List.mem_cons_self _ _)
    have ih' := ih fun x hx => hshape x (List.mem_cons_of_mem _ hx)
    have keep := ensureNamespaces_keeps_namespaces o hrely rest
    simp only [List.mem_cons, forall_eq_or_imp]
    by_cases hf : o.fault s.calls = true
    · simp [ensureNamespaces, getNamespace, hf] at hok
    by_cases hget : (o.interfere s.calls s.dataPlane).hasNamespace nsObj.name = true
    · simp only [ensureNamespaces, bind_apply, getNamespace, hf, hget, if_true, Bool.false_eq_true,
        if_false] at hok ⊢
      exact ⟨keep _ _ hget, ih' _ hok⟩
    · simp only [ensureNamespaces, bind_apply, getNamespace, hf, hget, Bool.false_eq_true,
        if_false] at hok ⊢
      have hcreate := createNamespace_hasNamespace o hx
        (s.close (o.interfere s.calls s.dataPlane) (Call.getNamespace nsObj.name))
      revert hok hcreate
      rcases (createNamespace o nsObj _).1 with (_ | _ | _) | ⟨⟩ <;> simp only [reduceCtorEq]
      all_goals first
        | exact fun h _ => absurd h (by simp [pure])
        | exact fun hok hc => ⟨keep _ _ (hc (by simp)), ih' _ hok⟩
/-- Under the rely and with no transient faults, `ensureNamespaces` succeeds, leaves each of its
namespaces in place, and keeps the ones that were there. -/
theorem ensureNamespaces_ok (o : Oracle) (hrely : NamespacesNeverDeleted o)
    (hfault : ∀ n, o.fault n = false) (nss : List Unstructured)
    (hshape : ∀ x ∈ nss, x.gvk = namespaceGVK ∧ x.ns = "") (s : St) :
    (ensureNamespaces o nss s).1 = .ok () ∧
      (∀ x ∈ nss, (ensureNamespaces o nss s).2.dataPlane.hasNamespace x.name = true) := by
  suffices hok : (ensureNamespaces o nss s).1 = .ok () from
    ⟨hok, ensureNamespaces_exist_of_ok o hrely nss hshape s hok⟩
  induction nss generalizing s with
  | nil => rfl
  | cons nsObj rest ih =>
    have ih' := fun s => ih (fun x hx => hshape x (List.mem_cons_of_mem _ hx)) s
    by_cases hget : (o.interfere s.calls s.dataPlane).hasNamespace nsObj.name = true
    · simp only [ensureNamespaces, bind_apply, getNamespace, hfault, hget, if_true,
        Bool.false_eq_true, if_false]
      exact ih' _
    · simp only [ensureNamespaces, bind_apply, getNamespace, hfault, hget, Bool.false_eq_true,
        if_false, createNamespace]
      split
      · exact ih' _
      · exact ih' _

/-- With no other actor, `ensureNamespaces` over namespaces that all exist changes nothing: every
get finds its namespace, or fails and ends the call. -/
theorem ensureNamespaces_present {o : Oracle} (hq : ∀ n dp, o.interfere n dp = dp) :
    ∀ (nss : List Unstructured) (s : St), (∀ x ∈ nss, s.dataPlane.hasNamespace x.name = true) →
      (ensureNamespaces o nss s).2.dataPlane = s.dataPlane
  | [], _, _ => rfl
  | nsObj :: rest, s, h => by
    by_cases hf : o.fault s.calls = true
    · simp [ensureNamespaces, getNamespace, hf, hq, St.close]
    · have hget : s.dataPlane.hasNamespace nsObj.name = true := h nsObj (List.mem_cons_self _ _)
      simp only [ensureNamespaces, bind_apply, getNamespace, hf, hq, hget, Bool.false_eq_true,
        if_false, if_true]
      exact ensureNamespaces_present hq rest _ fun x hx => h x (List.mem_cons_of_mem _ hx)

/-! ## The namespaces a Release asks for -/

theorem makeDesiredNamespaces_shape (release : Release) (docs : List Unstructured) :
    ∀ x ∈ makeDesiredNamespaces release docs, x.gvk = namespaceGVK ∧ x.ns = "" := by
  simp only [makeDesiredNamespaces, List.mem_map]
  rintro x ⟨_, _, rfl⟩
  exact ⟨rfl, rfl⟩

theorem makeDesiredNamespaces_names (release : Release) (docs : List Unstructured) :
    (makeDesiredNamespaces release docs).map (·.name) =
      ((docs.map (·.ns)).filter (· ≠ "")).dedup := by
  simp [makeDesiredNamespaces, desiredNamespace, Function.comp_def]

/-- Namespaces exist before apply, whatever the race: every call of `ensureNamespaces` on the
namespaces of a Release returns success, and at its return each distinct non-empty namespace of the
documents exists; `makeDesiredNamespaces` names each of them exactly once and nothing else. -/
theorem ensureNamespaces_desired_exist (o : Oracle) (hrely : NamespacesNeverDeleted o)
    (hfault : ∀ n, o.fault n = false) (release : Release) (docs : List Unstructured) (s : St) :
    (ensureNamespaces o (makeDesiredNamespaces release docs) s).1 = .ok () ∧
      (∀ d ∈ docs, d.ns ≠ "" →
        (ensureNamespaces o (makeDesiredNamespaces release docs) s).2.dataPlane.hasNamespace d.ns
          = true) ∧
      ((makeDesiredNamespaces release docs).map (·.name)).Nodup ∧
      (∀ name, name ∈ (makeDesiredNamespaces release docs).map (·.name) ↔
        name ≠ "" ∧ ∃ d ∈ docs, d.ns = name) := by
  have h := ensureNamespaces_ok o hrely hfault _ (makeDesiredNamespaces_shape release docs) s
  rw [makeDesiredNamespaces_names]
  refine ⟨h.1, fun d hd hne => ?_, List.nodup_dedup _, fun name => ?_⟩
  · have hmem : d.ns ∈ (makeDesiredNamespaces release docs).map (·.name) := by
      rw [makeDesiredNamespaces_names]; simpa using ⟨⟨d, hd, rfl⟩, hne⟩
    obtain ⟨x, hx, hxn⟩ := List.mem_map.1 hmem
    exact hxn ▸ h.2 x hx
  · simp only [List.mem_dedup, List.mem_filter, List.mem_map, decide_eq_true_eq]
    constructor
    · rintro ⟨⟨d, hd, rfl⟩, hne⟩; exact ⟨hne, d, hd, rfl⟩
    · rintro ⟨hne, d, hd, rfl⟩; exact ⟨⟨d, hd, rfl⟩, hne⟩

/-- The oracle of a data plane with no faults and no other actors. -/
def quietOracle : Oracle := ⟨fun _ => false, fun _ => false, fun _ dp => dp, false, fun _ => 0⟩

/-- The namespace another Release's pass creates for its own documents in `team-a`. -/
def rivalNamespace : Unstructured :=
  ⟨namespaceGVK, "", "team-a", [(LabelKeyCreatedBy, ControllerName), (LabelKeyReleaseUID, "uid-2")]⟩

/-- No faults; another actor creates `team-a` between this pass's get and its create. -/
def racingOracle : Oracle :=
  { quietOracle with interfere := fun n dp => if n = 1 then dp.upsert rivalNamespace else dp }

/-- The create of `team-a` loses the race and reports `AlreadyExists`: the call still succeeds and
the namespace in place is the other actor's. -/
theorem ensureNamespaces_desired_exist_racing :
    NamespacesNeverDeleted racingOracle ∧ (∀ n, racingOracle.fault n = false) ∧
      (ensureNamespaces racingOracle (makeDesiredNamespaces sampleRelease [sampleDesired])
        (St.init ⟨none, ⟨[], List.nodup_nil⟩⟩)).1 = .ok () ∧
      (∀ d ∈ [sampleDesired], d.ns ≠ "" →
        (ensureNamespaces racingOracle (makeDesiredNamespaces sampleRelease [sampleDesired])
          (St.init ⟨none, ⟨[], List.nodup_nil⟩⟩)).2.dataPlane.hasNamespace d.ns = true) ∧
      ((makeDesiredNamespaces sampleRelease [sampleDesired]).map (·.name)).Nodup ∧
      (∀ name, name ∈ (makeDesiredNamespaces sampleRelease [sampleDesired]).map (·.name) ↔
        name ≠ "" ∧ ∃ d ∈ [sampleDesired], d.ns = name) ∧
      (ensureNamespaces racingOracle (makeDesiredNamespaces sampleRelease [sampleDesired])
        (St.init ⟨none, ⟨[], List.nodup_nil⟩⟩)).2.dataPlane.objects = [rivalNamespace] :=
  have hrely : NamespacesNeverDeleted racingOracle := fun n _ _ h => by
    by_cases hn : n = 1
    · simpa [racingOracle, hn] using hasNamespace_upsert h
    · simpa [racingOracle, hn] using h
  have hfault : ∀ n, racingOracle.fault n = false := fun _ => rfl
  have h := ensureNamespaces_desired_exist racingOracle hrely hfault sampleRelease [sampleDesired]
    (St.init ⟨none, ⟨[], List.nodup_nil⟩⟩)
  ⟨hrely, hfault, h.1, h.2.1, h.2.2.1, h.2.2.2, by decide⟩

end ReleaseController
end OpenChoreo
