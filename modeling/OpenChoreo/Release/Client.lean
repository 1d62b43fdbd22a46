import OpenChoreo.Release.Types

/-!
# The API calls of a reconcile pass

A reconcile pass is a state transformer over `St`: the stored Release, the data plane, the number of
API calls made so far, and the log of those calls. The log is ghost state for the theorems; the
controller never reads it.

What the surroundings decide is an `Oracle`: which calls fail with a transient error, which deletes
leave their object in place (it carries finalizers of its own), what the other actors do to the data
plane before each call, and what the random draws and the health probe return. Every theorem is
stated for every oracle, or for the oracles its hypotheses allow.

Deleting a namespace deletes what is in it: the namespace controller empties a terminating
namespace before the namespace goes. A delete that takes effect at once removes both together.
-/

namespace OpenChoreo
namespace ReleaseController

/-! ## Data-plane operations -/

/-- `key` is the key of the namespace named `ns`, a namespace that objects live in. -/
def InNamespace (key : GVK × String × String) (ns : String) : Prop :=
  ns ≠ "" ∧ key = (namespaceGVK, "", ns)

/-- A delete of the object under `key` removes `x`: `x` is that object, or lives in the namespace
the object is. -/
def Removes (key : GVK × String × String) (x : Unstructured) : Prop :=
  x.key = key ∨ InNamespace key x.ns

instance (key : GVK × String × String) (ns : String) : Decidable (InNamespace key ns) :=
  inferInstanceAs (Decidable (_ ∧ _))

instance (key : GVK × String × String) (x : Unstructured) : Decidable (Removes key x) :=
  inferInstanceAs (Decidable (_ ∨ _))

namespace DataPlane

/-- The object stored under a key. -/
def find? (dp : DataPlane) (key : GVK × String × String) : Option Unstructured :=
  dp.objects.find? (·.key = key)

/-- The objects of one group-version-kind that a `MatchLabels` selector matches. -/
def list (dp : DataPlane) (gvk : GVK) (sel : Labels) : List Unstructured :=
  dp.objects.filter fun x => x.gvk = gvk ∧ sel.matches x.labels

theorem nodup_filter_append (dp : DataPlane) (obj : Unstructured) :
    ((dp.objects.filter (·.key ≠ obj.key) ++ [obj]).map Unstructured.key).Nodup := by
  rw [List.map_append, List.nodup_append]
  refine ⟨(dp.keys_nodup.sublist ((List.filter_sublist _).map _)), List.nodup_singleton _, ?_⟩
  intro k hk hk'
  obtain ⟨x, hx, rfl⟩ := List.mem_map.1 hk
  simp only [List.map_cons, List.map_nil, List.mem_singleton] at hk'
  simp only [List.mem_filter, decide_eq_true_eq] at hx
  exact hx.2 hk'

/-- Server-side apply with forced ownership, this controller being the object's only field
manager: the object under the key becomes the applied document. -/
def upsert (dp : DataPlane) (obj : Unstructured) : DataPlane :=
  ⟨dp.objects.filter (·.key ≠ obj.key) ++ [obj], nodup_filter_append dp obj⟩

/-- Remove what a delete of the object under a key removes once it takes effect. -/
def erase (dp : DataPlane) (key : GVK × String × String) : DataPlane :=
  ⟨dp.objects.filter (fun x => decide (¬ Removes key x)), dp.keys_nodup.sublist ((List.filter_sublist _).map _)⟩

theorem mem_upsert {dp : DataPlane} {obj x : Unstructured} :
    x ∈ (dp.upsert obj).objects ↔ x = obj ∨ (x ∈ dp.objects ∧ x.key ≠ obj.key) := by
  simp [upsert, or_comm]

theorem mem_erase {dp : DataPlane} {key : GVK × String × String} {x : Unstructured} :
    x ∈ (dp.erase key).objects ↔ x ∈ dp.objects ∧ ¬ Removes key x := by
  simp [erase]

theorem mem_list {dp : DataPlane} {gvk : GVK} {sel : Labels} {x : Unstructured} :
    x ∈ dp.list gvk sel ↔ x ∈ dp.objects ∧ x.gvk = gvk ∧ sel.matches x.labels = true := by
  simp [list]

theorem find?_isSome {dp : DataPlane} {key : GVK × String × String} :
    (dp.find? key).isSome ↔ ∃ x ∈ dp.objects, x.key = key := by
  simp [find?, List.find?_isSome]

end DataPlane

/-! ## Calls, oracles and pass states -/

/-- The API errors the controller tells apart. -/
inductive ApiError
  | notFound
  | alreadyExists
  | transient
  deriving DecidableEq, Repr

instance : ToString ApiError where
  toString
    | .notFound => "not found"
    | .alreadyExists => "already exists"
    | .transient => "transient error"

/-- One API call of a pass, as the log records it. A `list` records its items, or `none` when the
call failed. -/
inductive Call
  | getRelease
  | updateRelease (finalizers : List String)
  | updateStatus (status : ReleaseStatus)
  | resolveDataPlane (environment : String)
  | getNamespace (name : String)
  | createNamespace (ns : Unstructured)
  | apply (obj : Unstructured)
  | list (gvk : GVK) (selector : Labels) (items : Option (List Unstructured))
  | delete (obj : Unstructured)
  deriving DecidableEq

/-- What the surroundings of a pass decide, indexed by the number of the call. -/
structure Oracle where
  /-- The call fails with a transient error. -/
  fault : Nat → Bool
  /-- The call, a delete, has not taken effect yet: its object carries finalizers of its own, or is a
  namespace still being emptied. -/
  lingers : Nat → Bool
  /-- What the other actors do to the data plane right before the call. -/
  interfere : Nat → DataPlane → DataPlane
  /-- What `hasTransitioningResources` reports on this pass. -/
  transitioning : Bool
  /-- The values `rand.Intn` returns. -/
  intn : Int → Int

/-- The control plane's Release and the data plane, between passes. -/
structure World where
  release : Option Release
  dataPlane : DataPlane

/-- The state of a pass. -/
structure St where
  release : Option Release
  dataPlane : DataPlane
  calls : Nat
  log : List Call

/-- The state a pass starts from. -/
def St.init (w : World) : St := ⟨w.release, w.dataPlane, 0, []⟩

/-- The world a pass leaves behind. -/
def St.world (s : St) : World := ⟨s.release, s.dataPlane⟩

/-- A pass computation. -/
def M (α : Type) : Type := St → α × St

instance : Monad M where
  pure a s := (a, s)
  bind x f s := match x s with
    | (a, s') => f a s'

@[simp] theorem pure_apply {α : Type} (a : α) (s : St) : (pure a : M α) s = (a, s) := rfl

@[simp] theorem bind_apply {α β : Type} (x : M α) (f : α → M β) (s : St) :
    (x >>= f) s = f (x s).1 (x s).2 := rfl

/-! ## The primitive calls -/

section Calls

variable (o : Oracle)

/-- Close a call: count it, install the data plane it left, and log it. -/
def St.close (s : St) (dp : DataPlane) (c : Call) : St :=
  { s with calls := s.calls + 1, dataPlane := dp, log := s.log ++ [c] }

/-- `r.Get` of the Release. -/
def getRelease : M (Except ApiError Release) := fun s =>
  let dp := o.interfere s.calls s.dataPlane
  let r : Except ApiError Release :=
    if o.fault s.calls then .error .transient
    else match s.release with
      | some rel => .ok rel
      | none => .error .notFound
  (r, s.close dp .getRelease)

/-- `r.Update` of the Release: the API server stores its finalizers. -/
def updateRelease (rel : Release) : M (Except ApiError Unit) := fun s =>
  let dp := o.interfere s.calls s.dataPlane
  let c := Call.updateRelease rel.finalizers
  if o.fault s.calls then (.error .transient, s.close dp c)
  else (.ok (), { s.close dp c with release := s.release.map ({ · with finalizers := rel.finalizers }) })

/-- A write of the status subresource. -/
def writeStatus (status : ReleaseStatus) : M (Except ApiError Unit) := fun s =>
  let dp := o.interfere s.calls s.dataPlane
  let c := Call.updateStatus status
  if o.fault s.calls then (.error .transient, s.close dp c)
  else (.ok (), { s.close dp c with release := s.release.map ({ · with status := status }) })

/-- The lookups behind `getDPClient` (Environment, DataPlane, cluster client), as one call. -/
def resolveDataPlane (environment : String) : M (Except ApiError Unit) := fun s =>
  let dp := o.interfere s.calls s.dataPlane
  (if o.fault s.calls then .error .transient else .ok (), s.close dp (.resolveDataPlane environment))

/-- `dpClient.Get` of a namespace. -/
def getNamespace (name : String) : M (Except ApiError Unit) := fun s =>
  let dp := o.interfere s.calls s.dataPlane
  let r : Except ApiError Unit :=
    if o.fault s.calls then .error .transient
    else if dp.hasNamespace name then .ok () else .error .notFound
  (r, s.close dp (.getNamespace name))

/-- `dpClient.Create` of a namespace. -/
def createNamespace (ns : Unstructured) : M (Except ApiError Unit) := fun s =>
  let dp := o.interfere s.calls s.dataPlane
  let c := Call.createNamespace ns
  if o.fault s.calls then (.error .transient, s.close dp c)
  else if (dp.find? ns.key).isSome then (.error .alreadyExists, s.close dp c)
  else (.ok (), s.close (dp.upsert ns) c)

/-- `dpClient.Patch` with `client.Apply`, `ForceOwnership` and this controller as field owner. The
API server refuses an object whose namespace does not exist. -/
def patchApply (obj : Unstructured) : M (Except ApiError Unit) := fun s =>
  let dp := o.interfere s.calls s.dataPlane
  let c := Call.apply obj
  if o.fault s.calls then (.error .transient, s.close dp c)
  else if obj.ns ≠ "" ∧ dp.hasNamespace obj.ns = false then (.error .notFound, s.close dp c)
  else (.ok (), s.close (dp.upsert obj) c)

/-- `dpClient.List` of one group-version-kind with a `MatchLabels` selector. -/
def listByGVK (gvk : GVK) (sel : Labels) : M (Except ApiError (List Unstructured)) := fun s =>
  let dp := o.interfere s.calls s.dataPlane
  if o.fault s.calls then (.error .transient, s.close dp (.list gvk sel none))
  else (.ok (dp.list gvk sel), s.close dp (.list gvk sel (some (dp.list gvk sel))))

/-- `dpClient.Delete`: a missing object is `NotFound`; a delete that has not taken effect yet (the
object carries finalizers of its own, or is a namespace still being emptied) leaves everything. -/
def deleteObject (obj : Unstructured) : M (Except ApiError Unit) := fun s =>
  let dp := o.interfere s.calls s.dataPlane
  let c := Call.delete obj
  if o.fault s.calls then (.error .transient, s.close dp c)
  else if (dp.find? obj.key).isSome = false then (.error .notFound, s.close dp c)
  else if o.lingers s.calls then (.ok (), s.close dp c)
  else (.ok (), s.close (dp.erase obj.key) c)

end Calls

/-! ## Relations every outcome keeps -/

/-- Every outcome of `m` is related to its start state by `R`. -/
def Keeps {α : Type} (R : St → St → Prop) (m : M α) : Prop :=
  ∀ s, R s (m s).2

section Keeps

variable {R : St → St → Prop} {α β : Type}

theorem Keeps.pure (hR : ∀ s, R s s) (a : α) : Keeps R (Pure.pure a : M α) := fun s => hR s

theorem Keeps.bind (hR : ∀ s₁ s₂ s₃, R s₁ s₂ → R s₂ s₃ → R s₁ s₃) {m : M α} {f : α → M β}
    (hm : Keeps R m) (hf : ∀ a, Keeps R (f a)) : Keeps R (m >>= f) :=
  fun s => hR _ _ _ (hm s) (hf _ _)

end Keeps

end ReleaseController
end OpenChoreo
