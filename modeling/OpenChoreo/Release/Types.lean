import Mathlib.Data.List.Nodup
import Mathlib.Algebra.Group.Int
import Mathlib.Algebra.Group.Nat.Basic

/-!
# Release data model

The values the release controller (`internal/controller/release`) reads and writes: label maps,
group-version-kinds, the generic documents it applies, the `Release` resource with its spec and
status, and the data plane that holds the applied objects.

A generic document keeps only what the controller looks at: its group-version-kind, namespace,
name and labels. Objects on the API server carry string labels; a spec entry is JSON the user
wrote, so its `metadata.labels` may hold values of any kind. A data plane holds at most one object per key (group-version-kind, namespace,
name), as the API server does; the structure carries that as a field, so no model state breaks it.
-/

namespace OpenChoreo
namespace ReleaseController

/-! ## Label maps -/

/-- A Go `map[string]string`, as the list of its entries. -/
abbrev Labels := List (String × String)

/-- The comma-ok index `v, ok := m[k]`. -/
def Labels.find? : Labels → String → Option String
  | [], _ => none
  | (k', v) :: l, k => if k' = k then some v else Labels.find? l k

/-- The plain index `m[k]`: a missing key reads as the empty string. -/
def Labels.get (l : Labels) (k : String) : String :=
  (Labels.find? l k).getD ""

/-- The assignment `m[k] = v`: the old entry for `k`, if any, is replaced. -/
def Labels.set (l : Labels) (k v : String) : Labels :=
  (k, v) :: List.filter (fun e => e.1 ≠ k) l

theorem Labels.find?_filter_ne (l : Labels) {k k' : String} (h : k' ≠ k) :
    Labels.find? (List.filter (fun e => e.1 ≠ k) l) k' = Labels.find? l k' := by
  induction l with
  | nil => rfl
  | cons e l ih =>
    simp only [ne_eq, decide_not] at ih
    obtain ⟨a, b⟩ := e
    by_cases hk : a = k
    · subst hk
      simp [List.filter_cons, Labels.find?, Ne.symm h, ih]
    · simp [List.filter_cons, Labels.find?, hk, ih]

@[simp] theorem Labels.find?_set_self (l : Labels) (k v : String) : Labels.find? (l.set k v) k = some v := by
  simp [Labels.set, Labels.find?]

@[simp] theorem Labels.find?_set_ne (l : Labels) {k k' : String} (v : String) (h : k ≠ k') :
    Labels.find? (l.set k v) k' = Labels.find? l k' := by
  have := Labels.find?_filter_ne l (Ne.symm h)
  simp only [ne_eq, decide_not] at this
  simp [Labels.set, Labels.find?, h, this]

/-- A `MatchLabels` selector matches when every key is present with the given value. -/
def Labels.matches (sel l : Labels) : Bool :=
  List.all sel fun e => Labels.find? l e.1 = some e.2

/-! ## Label keys and controller constants -/

/-- Modelled from the spec: the ownership label keys live in `internal/labels`, which is not among
the sources. The spec names them; the controller relies only on their being distinct. -/
def LabelKeyManagedBy : String := "managed-by"

/-- Modelled from the spec, as `LabelKeyManagedBy`. -/
def LabelKeyReleaseResourceID : String := "release-resource-id"

/-- Modelled from the spec, as `LabelKeyManagedBy`. -/
def LabelKeyReleaseUID : String := "release-uid"

/-- Modelled from the spec, as `LabelKeyManagedBy`. -/
def LabelKeyReleaseName : String := "release-name"

/-- Modelled from the spec, as `LabelKeyManagedBy`. -/
def LabelKeyReleaseNamespace : String := "release-namespace"

/-- Modelled from the spec, as `LabelKeyManagedBy`: the audit label of created namespaces. -/
def LabelKeyCreatedBy : String := "created-by"

/-- Modelled from the spec, as `LabelKeyManagedBy`. -/
def LabelKeyEnvironmentName : String := "environment-name"

/-- Modelled from the spec, as `LabelKeyManagedBy`. -/
def LabelKeyProjectName : String := "project-name"

/-- The name of the controller, written as the `managed-by` label and used as field owner. -/
def ControllerName : String := "release-controller"

/-- The finalizer that holds a Release until its data-plane objects are gone. -/
def DataPlaneCleanupFinalizer : String := "openchoreo.dev/dataplane-cleanup"

/-! ## Documents -/

/-- A `schema.GroupVersionKind`. -/
structure GVK where
  group : String
  version : String
  kind : String
  deriving DecidableEq, Repr

/-- An `unstructured.Unstructured` as the controller sees it. -/
structure Unstructured where
  gvk : GVK
  ns : String
  name : String
  labels : Labels
  deriving DecidableEq, Repr

/-- What identifies an object on the API server. -/
def Unstructured.key (u : Unstructured) : GVK × String × String :=
  (u.gvk, u.ns, u.name)

/-- The group-version-kind of a core `Namespace`. -/
def namespaceGVK : GVK := ⟨"", "v1", "Namespace"⟩

/-! ## Decoded spec entries -/

/-- A JSON value of a decoded spec entry, down to what the controller tells apart: a string, or a
value of any other kind (number, boolean, null, array or object), kept as its text. -/
inductive JsonValue
  | string (s : String)
  | other (text : String)
  deriving DecidableEq, Repr

/-- The type assertion `value.(string)`. -/
def JsonValue.asString : JsonValue → Option String
  | .string s => some s
  | .other _ => none

@[simp] theorem JsonValue.asString_string (s : String) : (JsonValue.string s).asString = some s := rfl

@[simp] theorem JsonValue.asString_other (text : String) : (JsonValue.other text).asString = none :=
  rfl

/-- The `metadata.labels` field of a decoded entry: missing, a JSON object (the entries of its
decoded Go map, one per key), or a value of another kind. -/
inductive LabelsField
  | missing
  | object (entries : List (String × JsonValue))
  | other (text : String)
  deriving DecidableEq, Repr

/-- `NestedStringMap` over the entries of a decoded object: the string map, or nothing when a value
is not a string. -/
def stringEntries : List (String × JsonValue) → Option Labels
  | [] => some []
  | (k, v) :: rest =>
    match v.asString, stringEntries rest with
    | some s, some l => some ((k, s) :: l)
    | _, _ => none

/-- `GetLabels`, which is `NestedStringMap` of `metadata.labels` with its error dropped: the label
map when the field is an object of strings, and otherwise nil, which has no entry. -/
def LabelsField.getLabels : LabelsField → Labels
  | .object entries => (stringEntries entries).getD []
  | _ => []

/-- A spec entry decoded by `UnmarshalJSON` into an `unstructured.Unstructured`: its
group-version-kind, the namespace and name that `GetNamespace` and `GetName` read, and its labels
field as decoded. -/
structure Document where
  gvk : GVK
  ns : String
  name : String
  labels : LabelsField
  deriving DecidableEq, Repr

/-- The bytes of a spec entry (`runtime.RawExtension`): a document, or bytes that do not decode. -/
inductive RawObject
  | document (doc : Document)
  | malformed (err : String)
  deriving DecidableEq, Repr

/-- `UnmarshalJSON` of an entry's bytes. -/
def RawObject.unmarshal : RawObject → Except String Document
  | .document doc => .ok doc
  | .malformed err => .error err

/-! ## Durations -/

/-- A Go `time.Duration`: an int64 count of nanoseconds. -/
structure Duration where
  ns : Int
  lo : -2 ^ 63 ≤ ns
  hi : ns < 2 ^ 63
  deriving DecidableEq

/-! ## The Release resource -/

/-- One entry of `Release.Spec.Resources`. -/
structure ReleaseResource where
  id : String
  object : RawObject
  deriving DecidableEq, Repr

/-- The fields of `ReleaseSpec` that the controller reads. -/
structure ReleaseSpec where
  projectName : String
  environmentName : String
  resources : List ReleaseResource
  interval : Option Duration
  progressingInterval : Option Duration
  deriving DecidableEq

/-- One inventory record of `Release.Status.Resources`. -/
structure ResourceStatus where
  group : String
  version : String
  kind : String
  id : String
  name : String
  ns : String
  deriving DecidableEq, Repr

/-- The group-version-kind an inventory record names. -/
def ResourceStatus.gvk (r : ResourceStatus) : GVK := ⟨r.group, r.version, r.kind⟩

/-- A `metav1.Condition`, without its transition time. -/
structure Condition where
  type : String
  status : String
  reason : String
  message : String
  observedGeneration : Nat
  deriving DecidableEq, Repr

/-- The status of a Release. -/
structure ReleaseStatus where
  resources : List ResourceStatus
  conditions : List Condition
  deriving DecidableEq, Repr

/-- A stored Release. `deletionTimestamp = none` is Go's `DeletionTimestamp.IsZero()`. -/
structure Release where
  name : String
  ns : String
  uid : String
  generation : Nat
  deletionTimestamp : Option Nat
  finalizers : List String
  spec : ReleaseSpec
  status : ReleaseStatus
  deriving DecidableEq

/-! ## Conditions and finalizers -/

/-- `meta.SetStatusCondition`: replace the condition of the same type, or append it; the flag says
whether status, reason, message or observed generation changed. -/
def setStatusCondition : List Condition → Condition → List Condition × Bool
  | [], c => ([c], true)
  | c' :: cs, c =>
    if c'.type = c.type then (c :: cs, c' ≠ c)
    else ((setStatusCondition cs c).1.cons c', (setStatusCondition cs c).2)

/-- Modelled from the spec: `NewReleaseFinalizingCondition` is declared outside the sources. The
spec records the Active to Finalizing transition as a Finalizing condition. -/
def newReleaseFinalizingCondition (generation : Nat) : Condition :=
  ⟨"Finalizing", "True", "Finalizing", "Release is being finalized", generation⟩

/-- Modelled from the spec: `NewReleaseCleanupFailedCondition` is declared outside the sources. The
spec records a failed cleanup as a CleanupFailed condition carrying the error. -/
def newReleaseCleanupFailedCondition (generation : Nat) (err : String) : Condition :=
  ⟨"CleanupFailed", "True", "CleanupFailed", err, generation⟩

/-- `controllerutil.AddFinalizer`: append the finalizer when absent; the flag says whether it was. -/
def addFinalizer (fs : List String) (f : String) : List String × Bool :=
  if f ∈ fs then (fs, false) else (fs ++ [f], true)

/-- `controllerutil.RemoveFinalizer`: drop every copy; the flag says whether one was there. -/
def removeFinalizer (fs : List String) (f : String) : List String × Bool :=
  (fs.filter (· ≠ f), f ∈ fs)

theorem setStatusCondition_unchanged {cs : List Condition} {c : Condition}
    (h : (setStatusCondition cs c).2 = false) : c ∈ cs := by
  induction cs with
  | nil => simp [setStatusCondition] at h
  | cons c' cs ih =>
    by_cases ht : c'.type = c.type
    · simp only [setStatusCondition, ht, if_true, decide_eq_false_iff_not, not_not] at h
      simp [h]
    · simp only [setStatusCondition, ht, if_false] at h
      exact List.mem_cons_of_mem _ (ih h)

@[simp] theorem mem_removeFinalizer (fs : List String) (f : String) :
    f ∉ (removeFinalizer fs f).1 := by
  simp [removeFinalizer]

theorem mem_addFinalizer (fs : List String) (f : String) : f ∈ (addFinalizer fs f).1 := by
  unfold addFinalizer; split <;> simp_all

/-- The document of `sampleRelease`, with no labels of its own. -/
def sampleDocument : Document :=
  ⟨⟨"", "v1", "ConfigMap"⟩, "team-a", "settings", .missing⟩

/-- A Release used by the witnesses: one entry, no finalizer yet. -/
def sampleRelease : Release :=
  ⟨"web", "org", "uid-1", 1, none, [], ⟨"shop", "dev", [⟨"cm", .document sampleDocument⟩], none, none⟩,
    ⟨[], []⟩⟩

/-! ## The data plane -/

/-- The objects of one data-plane cluster, one per key. -/
structure DataPlane where
  objects : List Unstructured
  keys_nodup : (objects.map Unstructured.key).Nodup

/-- The data plane holds a namespace of this name. -/
def DataPlane.hasNamespace (dp : DataPlane) (name : String) : Bool :=
  dp.objects.any fun x => x.key = (namespaceGVK, "", name)

end ReleaseController
end OpenChoreo
