import OpenChoreo.Release.Namespaces
import OpenChoreo.Release.Requeue

/-!
# The reconcile pass

`Reconcile` of `controller.go` and the finalization path of `controller_finalize.go`, over the
calls of `OpenChoreo.Release.Client`. Each Go function that returns an `error` returns an
`Except String` value here, and its callers test it as the Go code does.

`Reconcile` is split along its own structure: `reconcile` fetches the Release and dispatches,
`reconcileRelease` is the steady-state path from `getDPClient` on, and `syncResources` is its
phases 1 to 3 (apply, list, delete).
-/

namespace OpenChoreo
namespace ReleaseController

/-- `ctrl.Result`: when to reconcile again; zero means on the next event only. -/
structure Result where
  requeueAfter : Duration

/-- `ctrl.Result{}`. -/
def Result.done : Result := ⟨Duration.zero⟩

section Pass

variable (o : Oracle)

/-! ## Steps of a pass -/

/-- `getDPClient`. -/
def getDPClient (release : Release) : M (Except String Unit) := do
  match ← resolveDataPlane o release.spec.environmentName with
  | .ok () => pure (.ok ())
  | .error err => pure (.error s!"failed to get environment {release.spec.environmentName}: {err}")

/-- `applyResources`. -/
def applyResources : List Unstructured → M (Except String Unit)
  | [] => pure (.ok ())
  | obj :: rest => do
    match ← patchApply o obj with
    | .ok () => applyResources rest
    | .error err => pure (.error s!"failed to apply resource {resourceID obj}: {err}")

/-- The selector `listLiveResourcesByGVKs` lists with. -/
def liveSelector (release : Release) : Labels :=
  [(LabelKeyManagedBy, ControllerName), (LabelKeyReleaseUID, release.uid)]

/-- `listLiveResourcesByGVKs`: a list that fails is skipped. The selector is built from two valid
label values, so the error path of its construction is never taken and is left out. -/
def listLiveResourcesByGVKs (release : Release) : List GVK → M (List Unstructured)
  | [] => pure []
  | gvk :: rest => do
    match ← listByGVK o gvk (liveSelector release) with
    | .ok items => do
      let more ← listLiveResourcesByGVKs release rest
      pure (items ++ more)
    | .error _ => listLiveResourcesByGVKs release rest

/-- `deleteResources`. -/
def deleteResources : List Unstructured → M (Except String Unit)
  | [] => pure (.ok ())
  | obj :: rest => do
    match ← deleteObject o obj with
    | .ok () => deleteResources rest
    | .error err => pure (.error s!"failed to delete stale resource {resourceID obj}: {err}")

/-- The inventory record of a desired document. -/
def inventoryRecord (obj : Unstructured) : ResourceStatus :=
  ⟨obj.gvk.group, obj.gvk.version, obj.gvk.kind, resourceID obj, obj.name, obj.ns⟩

/-- Modelled from the spec: `updateStatus` is not among the sources. Step 8 of the spec persists
the inventory of the desired documents; the flag says whether that changed the status, which ends
the pass. -/
def updateStatus (release : Release) (desired : List Unstructured) : M (Except String Bool) :=
  let status := { release.status with resources := desired.map inventoryRecord }
  if status = release.status then pure (.ok false)
  else do
    match ← writeStatus o status with
    | .ok () => pure (.ok true)
    | .error err => pure (.error s!"failed to update status: {err}")

/-- Modelled from the spec: `controller.UpdateStatusConditions` is not among the sources. It
persists the status conditions set on the local copy of the Release. -/
def updateStatusConditions (release : Release) : M (Except String Unit) := do
  match ← writeStatus o release.status with
  | .ok () => pure (.ok ())
  | .error err => pure (.error s!"failed to update status conditions: {err}")

/-- `ensureFinalizer`: the flag says whether the finalizer was added (and the pass must end). -/
def ensureFinalizer (release : Release) : M (Except String Bool) :=
  if release.deletionTimestamp.isSome then pure (.ok false)
  else if (addFinalizer release.finalizers DataPlaneCleanupFinalizer).2 then do
    match ← updateRelease o { release with
        finalizers := (addFinalizer release.finalizers DataPlaneCleanupFinalizer).1 } with
    | .ok () => pure (.ok true)
    | .error err => pure (.error (toString err))
  else pure (.ok false)

/-! ## Finalization -/

/-- Set a condition on the local copy of a Release. -/
def Release.withCondition (release : Release) (c : Condition) : Release :=
  { release with status := { release.status with
      conditions := (setStatusCondition release.status.conditions c).1 } }

/-- The error path of a cleanup step of `finalize`: record CleanupFailed and return the error. -/
def recordCleanupFailure (release : Release) (err msg : String) : M (Except String Result) := do
  match ← updateStatusConditions o
      (release.withCondition (newReleaseCleanupFailedCondition release.generation err)) with
  | .error updateErr => pure (.error updateErr)
  | .ok () => pure (.error s!"{msg}: {err}")

/-- Steps 2 to 6 of `finalize`: list every tracked kind, delete what is live, and remove the
finalizer once nothing was found. -/
def cleanupDataPlane (release : Release) : M (Except String Result) := do
  match ← getDPClient o release with
  | .error err =>
    recordCleanupFailure o release err "failed to get dataplane client for finalization"
  | .ok () =>
    let liveResources ← listLiveResourcesByGVKs o release (findAllKnownGVKs [] release.status.resources)
    match ← deleteResources o liveResources with
    | .error err =>
      recordCleanupFailure o release err "failed to delete resources during finalization"
    | .ok () =>
      if 0 < liveResources.length then pure (.ok ⟨Duration.nanos 5000000000⟩)
      else if (removeFinalizer release.finalizers DataPlaneCleanupFinalizer).2 then do
        match ← updateRelease o { release with
            finalizers := (removeFinalizer release.finalizers DataPlaneCleanupFinalizer).1 } with
        | .error err => pure (.error (toString err))
        | .ok () => pure (.ok Result.done)
      else pure (.ok Result.done)

/-- `finalize`: with the finalizer present, first persist the Finalizing condition and end the
pass; clean up only on a later pass that finds the condition already set. -/
def finalize (release : Release) : M (Except String Result) :=
  if DataPlaneCleanupFinalizer ∉ release.finalizers then pure (.ok Result.done)
  else if (setStatusCondition release.status.conditions
      (newReleaseFinalizingCondition release.generation)).2 then do
    match ← updateStatusConditions o
        (release.withCondition (newReleaseFinalizingCondition release.generation)) with
    | .error err => pure (.error err)
    | .ok () => pure (.ok Result.done)
  else cleanupDataPlane o (release.withCondition (newReleaseFinalizingCondition release.generation))

/-! ## The steady-state path -/

/-- Phases 1 to 3 of `Reconcile`: apply the desired documents, list the live objects of every
probed kind, delete the stale ones. Returns the live objects. -/
def syncResources (release : Release) (desiredResources : List Unstructured) :
    M (Except String (List Unstructured)) := do
  match ← applyResources o desiredResources with
  | .error err => pure (.error err)
  | .ok () =>
    let liveResources ← listLiveResourcesByGVKs o release
      (findAllKnownGVKs desiredResources release.status.resources)
    match ← deleteResources o (findStaleResources liveResources desiredResources) with
    | .error err => pure (.error err)
    | .ok () => pure (.ok liveResources)

/-- `Reconcile` from `getDPClient` on, for a Release that carries the finalizer. -/
def reconcileRelease (release : Release) : M (Except String Result) := do
  match ← getDPClient o release with
  | .error err => pure (.error err)
  | .ok () =>
    match makeDesiredResources release with
    | .error err => pure (.error err)
    | .ok desiredResources =>
      match ← ensureNamespaces o (makeDesiredNamespaces release desiredResources) with
      | .error err => pure (.error err)
      | .ok () =>
        match ← syncResources o release desiredResources with
        | .error err => pure (.error err)
        | .ok _ =>
          match ← updateStatus o release desiredResources with
          | .error err => pure (.error err)
          | .ok true => pure (.ok Result.done)
          | .ok false =>
            if o.transitioning then pure (.ok ⟨getProgressingRequeueInterval o.intn release⟩)
            else pure (.ok ⟨getStableRequeueInterval o.intn release⟩)

/-- `Reconcile`. -/
def reconcile : M (Except String Result) := do
  match ← getRelease o with
  | .error .notFound => pure (.ok Result.done)
  | .error err => pure (.error (toString err))
  | .ok release =>
    if release.deletionTimestamp.isSome then finalize o release
    else
      match ← ensureFinalizer o release with
      | .error err => pure (.error err)
      | .ok true => pure (.ok Result.done)
      | .ok false => reconcileRelease o release

end Pass

/-- One pass from a world: the world it leaves, the calls it made, and what it returned. -/
structure Pass where
  world : World
  log : List Call
  result : Except String Result

/-- Run `reconcile` from a world. -/
def reconcilePass (o : Oracle) (w : World) : Pass :=
  let r := reconcile o (St.init w)
  ⟨r.2.world, r.2.log, r.1⟩

end ReleaseController
end OpenChoreo
