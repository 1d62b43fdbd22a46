import Mathlib.Data.List.Dedup
import OpenChoreo.Release.Types

/-!
# Desired documents, desired namespaces, stale objects and the probe set

The pure functions of `controller.go` that a pass computes between its API calls:
`makeDesiredResources`, `makeDesiredNamespaces`, `findStaleResources` and `findAllKnownGVKs`.

A Go map filled by writes and then ranged over is modelled by `List.dedup` of the written keys:
Go ranges over a map in an unspecified order, and every theorem here is about the set of keys, so
the order the model picks does not matter.
-/

namespace OpenChoreo
namespace ReleaseController

/-! ## Own labels of a spec entry -/

/-- An entry's own label under a key, read as `GetLabels` reads it: the string under the key when
every value of `metadata.labels` is a string, and nothing otherwise. -/
def ownLabel (labels : LabelsField) (k : String) : Option String :=
  match labels with
  | .object entries =>
    if entries.all fun e => e.2.asString.isSome then (entries.find? (·.1 = k)).bind (·.2.asString)
    else none
  | _ => none

theorem stringEntries_isSome (entries : List (String × JsonValue)) :
    (stringEntries entries).isSome = entries.all fun e => e.2.asString.isSome := by
  induction entries with
  | nil => rfl
  | cons e rest ih =>
    obtain ⟨k', v⟩ := e
    cases v <;> cases h : stringEntries rest <;> simp [stringEntries, h, ← ih]

theorem stringEntries_find? {entries : List (String × JsonValue)} {l : Labels}
    (h : stringEntries entries = some l) (k : String) :
    l.find? k = (entries.find? (·.1 = k)).bind (·.2.asString) := by
  induction entries generalizing l with
  | nil => cases h; rfl
  | cons e rest ih =>
    obtain ⟨k', v⟩ := e
    cases v with
    | other t => simp [stringEntries] at h
    | string s =>
      cases hr : stringEntries rest with
      | none => simp [stringEntries, hr] at h
      | some l' =>
        simp only [stringEntries, JsonValue.asString_string, hr, Option.some.injEq] at h
        subst h
        by_cases hk : k' = k <;> simp [Labels.find?, hk, ih hr]

/-- `GetLabels` answers for a key with the entry's own label, or with nothing when a value of
`metadata.labels` is not a string. -/
theorem getLabels_find? (labels : LabelsField) (k : String) :
    labels.getLabels.find? k = ownLabel labels k := by
  cases labels with
  | object entries =>
    simp only [LabelsField.getLabels, ownLabel]
    split_ifs with hall
    · obtain ⟨l, hl⟩ := Option.isSome_iff_exists.1 ((stringEntries_isSome entries).trans hall)
      rw [hl, Option.getD_some, stringEntries_find? hl]
    · have hnone : stringEntries entries = none :=
        Option.not_isSome_iff_eq_none.1 (by rwa [stringEntries_isSome])
      rw [hnone]
      rfl
  | missing => rfl
  | other _ => rfl

/-! ## Desired documents -/

/-- The tracking labels `makeDesiredResources` writes over the labels `GetLabels` returns for a
decoded entry. -/
def stampTrackingLabels (release : Release) (resource : ReleaseResource) (obj : Document) :
    Unstructured :=
  { gvk := obj.gvk, ns := obj.ns, name := obj.name,
    labels := ((((obj.labels.getLabels.set LabelKeyManagedBy ControllerName).set
      LabelKeyReleaseResourceID resource.id).set LabelKeyReleaseUID release.uid).set
      LabelKeyReleaseName release.name).set LabelKeyReleaseNamespace release.ns }

/-- The loop of `makeDesiredResources` over the spec entries: the first entry that does not
decode ends it with an error. -/
def makeDesiredObjects (release : Release) : List ReleaseResource → Except String (List Unstructured)
  | [] => .ok []
  | resource :: rest =>
    match resource.object.unmarshal with
    | .error err => .error s!"failed to unmarshal resource {resource.id}: {err}"
    | .ok obj =>
      match makeDesiredObjects release rest with
      | .error err => .error err
      | .ok objs => .ok (stampTrackingLabels release resource obj :: objs)

/-- `makeDesiredResources`: decode every spec entry and stamp its tracking labels. -/
def makeDesiredResources (release : Release) : Except String (List Unstructured) :=
  makeDesiredObjects release release.spec.resources

/-- A label lookup on the document stamped from an entry: the five tracking keys answer the
controller's name, the entry's ID and the Release's UID, name and namespace, and every other key
the entry's own label. -/
def stampedLabel (release : Release) (resource : ReleaseResource) (own : String → Option String)
    (k : String) : Option String :=
  if k = LabelKeyManagedBy then some ControllerName
  else if k = LabelKeyReleaseResourceID then some resource.id
  else if k = LabelKeyReleaseUID then some release.uid
  else if k = LabelKeyReleaseName then some release.name
  else if k = LabelKeyReleaseNamespace then some release.ns
  else own k

theorem stampTrackingLabels_find? (release : Release) (resource : ReleaseResource)
    (obj : Document) (k : String) :
    (stampTrackingLabels release resource obj).labels.find? k =
      stampedLabel release resource (ownLabel obj.labels) k := by
  unfold stampedLabel stampTrackingLabels
  split_ifs with h₁ h₂ h₃ h₄ h₅
  rotate_left 5
  · rw [Labels.find?_set_ne _ _ (Ne.symm h₅), Labels.find?_set_ne _ _ (Ne.symm h₄),
      Labels.find?_set_ne _ _ (Ne.symm h₃), Labels.find?_set_ne _ _ (Ne.symm h₂),
      Labels.find?_set_ne _ _ (Ne.symm h₁), getLabels_find?]
  all_goals subst_vars; simp [LabelKeyManagedBy, LabelKeyReleaseResourceID, LabelKeyReleaseUID,
    LabelKeyReleaseName, LabelKeyReleaseNamespace]

/-- The document stamped from a spec entry: the decoded entry's group-version-kind, namespace and
name, with the labels `stampedLabel` describes over the entry's own labels. -/
def StampedFrom (release : Release) (resource : ReleaseResource) (doc : Unstructured) : Prop :=
  ∃ obj, resource.object.unmarshal = .ok obj ∧ doc.gvk = obj.gvk ∧ doc.ns = obj.ns ∧
    doc.name = obj.name ∧ ∀ k, doc.labels.find? k = stampedLabel release resource (ownLabel obj.labels) k

theorem makeDesiredObjects_stamped (release : Release) :
    ∀ entries : List ReleaseResource, (∀ r ∈ entries, ∃ obj, r.object.unmarshal = .ok obj) →
      ∃ docs, makeDesiredObjects release entries = .ok docs ∧
        List.Forall₂ (StampedFrom release) entries docs
  | [], _ => ⟨[], rfl, .nil⟩
  | r :: rest, h => by
    obtain ⟨obj, hobj⟩ := h r (List.mem_cons_self _ _)
    obtain ⟨docs, hdocs, hstamped⟩ :=
      makeDesiredObjects_stamped release rest fun r' hr' => h r' (List.mem_cons_of_mem _ hr')
    refine ⟨stampTrackingLabels release r obj :: docs, by simp [makeDesiredObjects, hobj, hdocs],
      .cons ⟨obj, hobj, rfl, rfl, rfl, stampTrackingLabels_find? release r obj⟩ hstamped⟩

theorem makeDesiredObjects_error (release : Release) :
    ∀ entries : List ReleaseResource, (∃ r ∈ entries, ∃ err, r.object.unmarshal = .error err) →
      ∃ err, makeDesiredObjects release entries = .error err
  | [], ⟨_, hr, _⟩ => absurd hr (List.not_mem_nil _)
  | r :: rest, ⟨r', hr', err', hbad⟩ => by
    simp only [makeDesiredObjects]
    split
    · exact ⟨_, rfl⟩
    · rename_i obj hobj
      have hrest : ∃ r ∈ rest, ∃ err, r.object.unmarshal = .error err := by
        rcases List.mem_cons.1 hr' with rfl | hr'
        · rw [hobj] at hbad; cases hbad
        · exact ⟨r', hr', err', hbad⟩
      obtain ⟨err, herr⟩ := makeDesiredObjects_error release rest hrest
      exact ⟨err, by rw [herr]⟩

/-- A document whose own labels already carry a tracking key, with another Release's UID. -/
def adoptedDocument : Document :=
  ⟨⟨"", "v1", "ConfigMap"⟩, "team-a", "settings",
    .object [("app", .string "web"), ("release-uid", .string "uid-0")]⟩

/-- `sampleRelease` with the given spec entries. -/
def sampleReleaseWith (resources : List ReleaseResource) : Release :=
  { sampleRelease with spec := { sampleRelease.spec with resources := resources } }

/-- A document whose `metadata.labels` holds a number next to a string label. -/
def numericLabelDocument : Document :=
  ⟨⟨"", "v1", "ConfigMap"⟩, "team-a", "settings",
    .object [("app", .string "web"), ("tier", .other "1")]⟩

/-- The desired document of `sampleRelease`. -/
def sampleDesired : Unstructured :=
  stampTrackingLabels sampleRelease ⟨"cm", .document sampleDocument⟩ sampleDocument

/-- The `Namespace` object `makeDesiredNamespaces` builds for one name, with its audit labels. -/
def desiredNamespace (release : Release) (name : String) : Unstructured :=
  { gvk := namespaceGVK, ns := "", name := name,
    labels := [(LabelKeyCreatedBy, ControllerName), (LabelKeyReleaseName, release.name),
      (LabelKeyReleaseNamespace, release.ns), (LabelKeyReleaseUID, release.uid),
      (LabelKeyEnvironmentName, release.spec.environmentName),
      (LabelKeyProjectName, release.spec.projectName)] }

/-- `makeDesiredNamespaces`: one namespace object per distinct non-empty namespace of the
documents. -/
def makeDesiredNamespaces (release : Release) (resources : List Unstructured) : List Unstructured :=
  ((resources.map (·.ns)).filter (· ≠ "")).dedup.map (desiredNamespace release)

/-! ## Stale objects -/

/-- The resource-ID label of an object, `""` when it has none. -/
def resourceID (obj : Unstructured) : String :=
  obj.labels.get LabelKeyReleaseResourceID

/-- `findStaleResources`: the live objects with a non-empty resource ID that no desired document
carries. -/
def findStaleResources (liveResources desiredResources : List Unstructured) : List Unstructured :=
  let desiredResourceIDs := (desiredResources.map resourceID).filter (· ≠ "")
  liveResources.filter fun liveObj => resourceID liveObj ≠ "" ∧ resourceID liveObj ∉ desiredResourceIDs

theorem mem_findStaleResources {live desired : List Unstructured} {x : Unstructured} :
    x ∈ findStaleResources live desired ↔
      x ∈ live ∧ resourceID x ≠ "" ∧ ∀ d ∈ desired, resourceID d ≠ resourceID x := by
  simp only [findStaleResources, List.mem_filter, List.mem_map, decide_eq_true_eq]
  constructor
  · rintro ⟨hx, hne, hnot⟩
    exact ⟨hx, hne, fun d hd hid => hnot ⟨⟨d, hd, hid⟩, hid ▸ hne⟩⟩
  · rintro ⟨hx, hne, hall⟩
    exact ⟨hx, hne, fun ⟨⟨d, hd, hid⟩, _⟩ => hall d hd hid⟩

/-! ## The probe set -/

/-- The well-known kinds listed in `findAllKnownGVKs`. -/
def wellKnownGVKs : List GVK :=
  [⟨"", "v1", "Service"⟩, ⟨"", "v1", "ConfigMap"⟩, ⟨"", "v1", "Secret"⟩,
   ⟨"", "v1", "ServiceAccount"⟩, ⟨"", "v1", "Namespace"⟩, ⟨"", "v1", "PersistentVolumeClaim"⟩,
   ⟨"apps", "v1", "Deployment"⟩, ⟨"apps", "v1", "StatefulSet"⟩,
   ⟨"batch", "v1", "Job"⟩, ⟨"batch", "v1", "CronJob"⟩,
   ⟨"autoscaling", "v2", "HorizontalPodAutoscaler"⟩, ⟨"policy", "v1", "PodDisruptionBudget"⟩,
   ⟨"networking.k8s.io", "v1", "NetworkPolicy"⟩, ⟨"networking.k8s.io", "v1", "Ingress"⟩,
   ⟨"rbac.authorization.k8s.io", "v1", "Role"⟩, ⟨"rbac.authorization.k8s.io", "v1", "RoleBinding"⟩,
   ⟨"rbac.authorization.k8s.io", "v1", "ClusterRole"⟩,
   ⟨"rbac.authorization.k8s.io", "v1", "ClusterRoleBinding"⟩,
   ⟨"gateway.networking.k8s.io", "v1", "HTTPRoute"⟩, ⟨"gateway.networking.k8s.io", "v1", "Gateway"⟩,
   ⟨"gateway.envoyproxy.io", "v1alpha1", "SecurityPolicy"⟩,
   ⟨"gateway.envoyproxy.io", "v1alpha1", "BackendTrafficPolicy"⟩,
   ⟨"gateway.envoyproxy.io", "v1alpha1", "HTTPRouteFilter"⟩,
   ⟨"cilium.io", "v2", "CiliumNetworkPolicy"⟩, ⟨"secrets-store.csi.x-k8s.io", "v1", "SecretProviderClass"⟩]

/-- `findAllKnownGVKs`. The slice it returns is built from the set before the well-known kinds
are added to the set, as in the source, so the catalog never reaches the result. -/
def findAllKnownGVKs (desiredResources : List Unstructured) (appliedResources : List ResourceStatus) :
    List GVK :=
  let gvkSet := desiredResources.map (·.gvk) ++ appliedResources.map ResourceStatus.gvk
  let gvks := gvkSet.dedup
  let _gvkSet := gvkSet ++ wellKnownGVKs
  gvks

theorem findAllKnownGVKs_nodup (desired : List Unstructured) (applied : List ResourceStatus) :
    (findAllKnownGVKs desired applied).Nodup :=
  List.nodup_dedup _

@[simp] theorem mem_findAllKnownGVKs {desired : List Unstructured} {applied : List ResourceStatus}
    {g : GVK} :
    g ∈ findAllKnownGVKs desired applied ↔
      (∃ d ∈ desired, d.gvk = g) ∨ ∃ a ∈ applied, a.gvk = g := by
  simp [findAllKnownGVKs]

/-- The catalog is not probed: with no desired document and no inventory, the probe set is empty
although the catalog lists twenty-five kinds. -/
theorem findAllKnownGVKs_drops_catalog :
    findAllKnownGVKs [] [] = [] ∧ wellKnownGVKs.length = 25 := by
  decide

end ReleaseController
end OpenChoreo
