import OpenChoreo.Release.Trace

/-!
# Lifecycle phase guards

Which calls a pass may make depends on the Release it fetched. Namespace creation and apply run
only for a Release that is not being deleted and already carries the finalizer; the finalizer is
added only while no deletion is requested; the lists and deletes of finalization run only once the
Finalizing condition is already stored. `PhaseGuard r` collects the three guards for a pass that
fetched `r`, and `reconcile_calls` shows that every call of a pass but the first keeps them.

Between passes the Release and the data plane change by `SysStep`: a deletion request, a spec
edit, the API server removing a Release whose finalizers are gone, other actors on the data plane,
or another pass. A deletion request is never withdrawn, so after one no pass applies anything.
-/

namespace OpenChoreo
namespace ReleaseController

/-! ## Call classes and the guards -/

/-- The call writes an object to the data plane: a namespace create or an apply. -/
def Call.writesDataPlane : Call → Bool
  | .createNamespace _ => true
  | .apply _ => true
  | _ => false

/-- The call is cleanup work: a list or a delete. -/
def Call.isCleanup : Call → Bool
  | .list .. => true
  | .delete _ => true
  | _ => false

/-- The phase guards of a call made by a pass that fetched `r`. -/
def PhaseGuard (r : Release) (c : Call) : Prop :=
  (c.writesDataPlane = true → r.deletionTimestamp = none ∧ DataPlaneCleanupFinalizer ∈ r.finalizers) ∧
  (∀ fs, c = .updateRelease fs → DataPlaneCleanupFinalizer ∈ fs → r.deletionTimestamp = none) ∧
  (c.isCleanup = true → DataPlaneCleanupFinalizer ∈ r.finalizers ∧
    (r.deletionTimestamp = none ∨ newReleaseFinalizingCondition r.generation ∈ r.status.conditions))

section Guards

variable (o : Oracle)

theorem getRelease_ok {s : St} {r : Release} (h : (getRelease o s).1 = .ok r) :
    s.release = some r := by
  unfold getRelease at h
  split at h
  · cases h
  · split at h <;> simp_all

theorem ensureFinalizer_present {r : Release} {s : St} (hnd : r.deletionTimestamp = none)
    (h : (ensureFinalizer o r s).1 = .ok false) : DataPlaneCleanupFinalizer ∈ r.finalizers := by
  by_contra hF
  have hadd : (addFinalizer r.finalizers DataPlaneCleanupFinalizer).2 = true := by
    simp [addFinalizer, hF]
  simp only [ensureFinalizer, hnd, Option.isSome_none, Bool.false_eq_true, if_false, hadd,
    if_true, bind_apply] at h
  revert h
  generalize (updateRelease o _ s).1 = res
  rcases res with _ | ⟨⟩ <;> simp

theorem finalize_guarded (r : Release) (hd : r.deletionTimestamp.isSome) :
    Calls (PhaseGuard r) (finalize o r) := by
  have hne : r.deletionTimestamp ≠ none := by simpa [Option.isSome_iff_ne_none] using hd
  unfold finalize
  split
  · exact Calls.pure _
  rename_i hF
  have hF : DataPlaneCleanupFinalizer ∈ r.finalizers := not_not.1 hF
  split
  · exact Calls.bind (updateStatusConditions_calls o _ (by simp [PhaseGuard, Call.writesDataPlane,
      Call.isCleanup])) fun res => by rcases res with _ | _ <;> exact Calls.pure _
  rename_i hkeep
  have hcond := setStatusCondition_unchanged (by simpa using hkeep)
  refine cleanupDataPlane_calls o _ ?_ ?_ ?_ ?_ ?_ <;>
    simp [PhaseGuard, Call.writesDataPlane, Call.isCleanup, hne, hF, hcond, Release.withCondition]

theorem reconcileRelease_guarded (r : Release) (hnd : r.deletionTimestamp = none)
    (hF : DataPlaneCleanupFinalizer ∈ r.finalizers) : Calls (PhaseGuard r) (reconcileRelease o r) := by
  refine reconcileRelease_calls o r ?_ ?_ ?_ ?_ ?_ ?_ ?_ <;>
    simp [PhaseGuard, Call.writesDataPlane, Call.isCleanup, hnd, hF]

/-- Every call of a pass after the first keeps the phase guards of the Release it fetched. -/
theorem reconcile_calls (s : St) :
    CallRun (fun c => c = .getRelease ∨ ∃ r, s.release = some r ∧ PhaseGuard r c) s
      (reconcile o s).2 := by
  simp only [reconcile, bind_apply]
  refine Relation.ReflTransGen.trans
    (Relation.ReflTransGen.single ⟨_, .inl rfl, getRelease_step o s⟩) ?_
  rcases hres : (getRelease o s).1 with (_ | _ | _) | r
  · exact Relation.ReflTransGen.refl
  · exact Relation.ReflTransGen.refl
  · exact Relation.ReflTransGen.refl
  have hr := getRelease_ok o hres
  have lift : ∀ {α} {m : M α}, Calls (PhaseGuard r) m → Calls (fun c => c = .getRelease ∨
      ∃ r, s.release = some r ∧ PhaseGuard r c) m := fun h => h.mono fun c hc => .inr ⟨r, hr, hc⟩
  dsimp only
  split
  · exact lift (finalize_guarded o r ‹_›) _
  rename_i hnd
  have hnd : r.deletionTimestamp = none := by simpa using hnd
  simp only [bind_apply]
  refine (lift (ensureFinalizer_calls o r fun _ => ?_) _).trans ?_
  · simp [PhaseGuard, Call.writesDataPlane, Call.isCleanup, hnd]
  rcases hef : (ensureFinalizer o r (getRelease o s).2).1 with _ | _ | _
  · exact Relation.ReflTransGen.refl
  · exact lift (reconcileRelease_guarded o r hnd (ensureFinalizer_present o hnd hef)) _
  · exact Relation.ReflTransGen.refl

end Guards

/-! ## Runs of the system -/

/-- What can change a Release and its data plane: a pass, a deletion request (the API server keeps
the first timestamp), a spec edit, the API server removing a deleted Release whose finalizers are
gone, and any change the other actors make to the data plane. -/
inductive SysStep : World → World → Prop
  | reconcile (o : Oracle) (w : World) : SysStep w (reconcilePass o w).world
  | requestDeletion (w : World) (r : Release) (t : Nat) (h : w.release = some r) :
      SysStep w ⟨some { r with deletionTimestamp := some (r.deletionTimestamp.getD t) }, w.dataPlane⟩
  | editSpec (w : World) (r : Release) (spec : ReleaseSpec) (h : w.release = some r) :
      SysStep w ⟨some { r with spec := spec, generation := r.generation + 1 }, w.dataPlane⟩
  | collect (w : World) (r : Release) (h : w.release = some r) (hd : r.deletionTimestamp.isSome)
      (hf : r.finalizers = []) : SysStep w ⟨none, w.dataPlane⟩
  | otherActors (w : World) (dp : DataPlane) : SysStep w ⟨w.release, dp⟩

/-- Deletion of the stored Release has been requested (or it is gone). -/
def DeletionRequested (w : World) : Prop :=
  ∀ r, w.release = some r → r.deletionTimestamp.isSome

theorem reconcilePass_deletionTimestamp (o : Oracle) (w : World) :
    (reconcilePass o w).world.release.map Release.deletionTimestamp =
      w.release.map Release.deletionTimestamp :=
  (reconcile_calls o (St.init w)).deletionTimestamp

theorem SysStep.deletionRequested {w w' : World} (h : SysStep w w') (hw : DeletionRequested w) :
    DeletionRequested w' := by
  cases h with
  | reconcile o w =>
    intro r' hr'
    have := reconcilePass_deletionTimestamp o w
    rw [hr'] at this
    cases hw' : w.release with
    | none => simp [hw'] at this
    | some r =>
      simp only [hw', Option.map_some', Option.some.injEq] at this
      exact this ▸ hw r hw'
  | requestDeletion w r t h => intro r' hr'; cases hr'; simp
  | editSpec w r spec h => intro r' hr'; cases hr'; exact hw r h
  | collect => intro r' hr'; cases hr'
  | otherActors w dp => exact hw

theorem deletionRequested_of_run {w w' : World} (h : Relation.ReflTransGen SysStep w w')
    (hw : DeletionRequested w) : DeletionRequested w' := by
  induction h with
  | refl => exact hw
  | tail _ hstep ih => exact hstep.deletionRequested ih

/-- Lifecycle phase guards: in every pass, namespace creation and apply happen only when the
fetched Release has no deletion timestamp and already carries the finalizer; the finalizer is added
only while the timestamp is unset; lists and deletes happen only when the fetched Release carries
the finalizer and, once deletion is requested, already holds the Finalizing condition. And in every
run, once deletion has been requested no pass applies or creates anything. -/
theorem reconcile_phase_guards :
    (∀ o w, ∀ c ∈ (reconcilePass o w).log,
      (c.writesDataPlane = true → ∃ r, w.release = some r ∧ r.deletionTimestamp = none ∧
        DataPlaneCleanupFinalizer ∈ r.finalizers) ∧
      (∀ fs, c = .updateRelease fs → DataPlaneCleanupFinalizer ∈ fs →
        ∃ r, w.release = some r ∧ r.deletionTimestamp = none) ∧
      (c.isCleanup = true → ∃ r, w.release = some r ∧ DataPlaneCleanupFinalizer ∈ r.finalizers ∧
        (r.deletionTimestamp = none ∨
          newReleaseFinalizingCondition r.generation ∈ r.status.conditions))) ∧
    (∀ w w', Relation.ReflTransGen SysStep w w' → DeletionRequested w →
      ∀ o, ∀ c ∈ (reconcilePass o w').log, c.writesDataPlane = false) := by
  have guards : ∀ o w, ∀ c ∈ (reconcilePass o w).log, c = .getRelease ∨
      ∃ r, w.release = some r ∧ PhaseGuard r c := fun o w c hc => by
    obtain ⟨L, hL, hP⟩ := (reconcile_calls o (St.init w)).log
    simp only [reconcilePass] at hc
    rw [hL] at hc
    exact hP c (by simpa [St.init] using hc)
  refine ⟨fun o w c hc => ?_, fun w w' hrun hdel o c hc => ?_⟩
  · rcases guards o w c hc with rfl | ⟨r, hr, h₁, h₂, h₃⟩
    · simp [Call.writesDataPlane, Call.isCleanup]
    · exact ⟨fun h => ⟨r, hr, h₁ h⟩, fun fs hfs hF => ⟨r, hr, h₂ fs hfs hF⟩,
        fun h => ⟨r, hr, h₃ h⟩⟩
  · rcases guards o w' c hc with rfl | ⟨r, hr, h₁, -, -⟩
    · rfl
    · have hsome := deletionRequested_of_run hrun hdel r hr
      exact Bool.eq_false_iff.2 fun hw => by simp [(h₁ hw).1] at hsome

/-- `sampleRelease` with the cleanup finalizer, once its deletion was requested, over a data plane
that holds its document. -/
def deletedWorld : World :=
  ⟨some { sampleRelease with deletionTimestamp := some 7, finalizers := [DataPlaneCleanupFinalizer] },
    ⟨[sampleDesired], by decide⟩⟩

/-- A run from a deleted Release: a pass records the Finalizing condition, another actor empties
the data plane, and the pass after that writes nothing to it. -/
theorem reconcile_phase_guards_deleted :
    Relation.ReflTransGen SysStep deletedWorld
      ⟨(reconcilePass quietOracle deletedWorld).world.release, ⟨[], List.nodup_nil⟩⟩ ∧
    DeletionRequested deletedWorld ∧
    ∀ c ∈ (reconcilePass quietOracle
      ⟨(reconcilePass quietOracle deletedWorld).world.release, ⟨[], List.nodup_nil⟩⟩).log,
      c.writesDataPlane = false :=
  have hrun : Relation.ReflTransGen SysStep deletedWorld
      ⟨(reconcilePass quietOracle deletedWorld).world.release, ⟨[], List.nodup_nil⟩⟩ :=
    (Relation.ReflTransGen.single (.reconcile quietOracle deletedWorld)).tail (.otherActors _ _)
  have hdel : DeletionRequested deletedWorld := fun r hr => by cases hr; rfl
  ⟨hrun, hdel, reconcile_phase_guards.2 _ _ hrun hdel quietOracle⟩

end ReleaseController
end OpenChoreo
