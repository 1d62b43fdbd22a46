import OpenChoreo.Api.Components

/-!
# Deployment pipelines

The pipeline reads of `component_service.go`. A project names its deployment pipeline or leaves the
choice to the default one. `validatePromotionPath` accepts a promotion when a path of that pipeline
leaves the source environment and lists the target among its targets, and
`getEnvironmentsFromDeploymentPipeline` collects every environment the paths name in a set and lists
it in the order its range over the set takes, which Go picks anew for every call: two calls list the
same environments, in orders that may differ (`pipelineEnvironments_perm`).

The name of the default pipeline is a constant outside the sources, so it is a parameter here.
-/

namespace OpenChoreo
namespace Api

/-- The pipeline a project uses: the one it names, or the default one. -/
def pipelineName (defaultPipeline : String) (project : Project) : String :=
  if project.deploymentPipeline != "" then project.deploymentPipeline else defaultPipeline

/-- The pipeline `Get` of `validatePromotionPath` and `getEnvironmentsFromDeploymentPipeline`. -/
def getDeploymentPipeline (s : Store) (orgName name : String) : Except GoError DeploymentPipeline :=
  match s.pipelines.get? (orgName, name) with
  | some pipeline => .ok pipeline
  | none => .error (.ofSentinel .deploymentPipelineNotFound)

/-- The project's pipeline, looked up as both functions do it: the project's error is passed on as
it is. -/
def projectPipeline (defaultPipeline : String) (s : Store) (orgName projectName : String) :
    Except GoError DeploymentPipeline := do
  let project ← getProject s orgName projectName
  getDeploymentPipeline s orgName (pipelineName defaultPipeline project)

/-- The loop of `validatePromotionPath`: a path from the source environment lists the target. -/
def allowsPromotion (pipeline : DeploymentPipeline) (sourceEnv targetEnv : String) : Bool :=
  pipeline.promotionPaths.any fun path =>
    path.sourceEnvironmentRef == sourceEnv && path.targetEnvironmentRefs.any (· == targetEnv)

/-- `validatePromotionPath`. -/
def validatePromotionPath (defaultPipeline : String) (s : Store)
    (orgName projectName sourceEnv targetEnv : String) : Except GoError Unit := do
  let pipeline ← projectPipeline defaultPipeline s orgName projectName
  if allowsPromotion pipeline sourceEnv targetEnv then pure ()
  else throw (.ofSentinel .invalidPromotionPath)

/-- The environment set of `getEnvironmentsFromDeploymentPipeline`: the source and the targets of
each path, set to true path by path. -/
def environmentSet (pipeline : DeploymentPipeline) : GoMap Bool :=
  pipeline.promotionPaths.foldl (fun environmentSet path =>
    path.targetEnvironmentRefs.foldl (fun environmentSet target => environmentSet.set target true)
      (environmentSet.set path.sourceEnvironmentRef true)) []

/-- The slice `getEnvironmentsFromDeploymentPipeline` builds from the environment set, in the order
the range over the set takes. -/
def pipelineEnvironments (order : RangeOrder) (pipeline : DeploymentPipeline) : List String :=
  (order.arrange (environmentSet pipeline)).map (·.1)

/-- `getEnvironmentsFromDeploymentPipeline`, whose range over the environment set takes `order`. -/
def getEnvironmentsFromDeploymentPipeline (order : RangeOrder) (defaultPipeline : String)
    (s : Store) (orgName projectName : String) : Except GoError (List String) := do
  let pipeline ← projectPipeline defaultPipeline s orgName projectName
  pure (pipelineEnvironments order pipeline)

/-- The pipeline of a project, as the store holds it. -/
def PipelineOf (defaultPipeline : String) (s : Store) (orgName projectName : String)
    (pipeline : DeploymentPipeline) : Prop :=
  ∃ project, s.projects.get? (orgName, projectName) = some project ∧
    s.pipelines.get? (orgName, pipelineName defaultPipeline project) = some pipeline

section Lemmas

variable {defaultPipeline : String} {s : Store} {orgName projectName : String}

theorem projectPipeline_eq_ok {pipeline : DeploymentPipeline} :
    projectPipeline defaultPipeline s orgName projectName = .ok pipeline ↔
      PipelineOf defaultPipeline s orgName projectName pipeline := by
  unfold projectPipeline PipelineOf getProject getDeploymentPipeline
  cases hp : s.projects.get? (orgName, projectName) with
  | none => simp [bind, Except.bind]
  | some project =>
    cases hl : s.pipelines.get? (orgName, pipelineName defaultPipeline project) <;>
      simp [bind, Except.bind, hl]

theorem projectPipeline_error {err : GoError}
    (h : projectPipeline defaultPipeline s orgName projectName = .error err) :
    err = .ofSentinel .projectNotFound ∨ err = .ofSentinel .deploymentPipelineNotFound := by
  unfold projectPipeline getProject getDeploymentPipeline at h
  cases hp : s.projects.get? (orgName, projectName) with
  | none => simp_all [bind, Except.bind]
  | some project =>
    cases hl : s.pipelines.get? (orgName, pipelineName defaultPipeline project) <;>
      simp_all [bind, Except.bind]

theorem allowsPromotion_iff {pipeline : DeploymentPipeline} {sourceEnv targetEnv : String} :
    allowsPromotion pipeline sourceEnv targetEnv = true ↔
      ∃ path ∈ pipeline.promotionPaths,
        path.sourceEnvironmentRef = sourceEnv ∧ targetEnv ∈ path.targetEnvironmentRefs := by
  simp [allowsPromotion]

theorem validatePromotionPath_eq_ok {sourceEnv targetEnv : String} :
    validatePromotionPath defaultPipeline s orgName projectName sourceEnv targetEnv = .ok () ↔
      ∃ pipeline, PipelineOf defaultPipeline s orgName projectName pipeline ∧
        allowsPromotion pipeline sourceEnv targetEnv = true := by
  unfold validatePromotionPath
  rcases h : projectPipeline defaultPipeline s orgName projectName with err | pipeline
  · simp only [bind, Except.bind, reduceCtorEq, false_iff, not_exists, not_and]
    intro pipeline hp
    rw [← projectPipeline_eq_ok, h] at hp
    cases hp
  · have hp := projectPipeline_eq_ok.1 h
    constructor
    · intro hv
      refine ⟨pipeline, hp, ?_⟩
      by_contra hn
      simp [bind, Except.bind, hn, throw, throwThe, MonadExceptOf.throw] at hv
    · rintro ⟨pipeline', hp', hallow⟩
      rw [← projectPipeline_eq_ok, h] at hp'
      cases hp'
      simp [bind, Except.bind, hallow, pure, Except.pure]

/-- The nested loops set the environments the paths name, one after another. -/
theorem environmentSet_eq (pipeline : DeploymentPipeline) :
    environmentSet pipeline =
      (pipeline.promotionPaths.flatMap fun path =>
        path.sourceEnvironmentRef :: path.targetEnvironmentRefs).foldl
        (fun (environmentSet : GoMap Bool) env => environmentSet.set env true) [] := by
  rw [environmentSet, List.flatMap_def, List.foldl_flatten, List.foldl_map]
  rfl

theorem mem_pipelineEnvironments {order : RangeOrder} {pipeline : DeploymentPipeline}
    {env : String} :
    env ∈ pipelineEnvironments order pipeline ↔
      ∃ path ∈ pipeline.promotionPaths,
        env = path.sourceEnvironmentRef ∨ env ∈ path.targetEnvironmentRefs := by
  rw [pipelineEnvironments, ((order.perm _).map _).mem_iff, environmentSet_eq,
    GoMap.mem_keys_foldl_set]
  simp [eq_comm]

/-- Two ranges over the environment set list the same environments, each once. -/
theorem pipelineEnvironments_perm (order order' : RangeOrder) (pipeline : DeploymentPipeline) :
    (pipelineEnvironments order pipeline).Perm (pipelineEnvironments order' pipeline) :=
  ((order.perm _).trans (order'.perm _).symm).map _

theorem nodup_pipelineEnvironments (order : RangeOrder) (pipeline : DeploymentPipeline) :
    (pipelineEnvironments order pipeline).Nodup := by
  rw [pipelineEnvironments, ((order.perm _).map _).nodup_iff, environmentSet_eq]
  exact GoMap.keys_nodup_foldl_set (fun env => env) _ _ List.nodup_nil

/-- Both ends of an allowed promotion are environments of the pipeline. -/
theorem mem_pipelineEnvironments_of_allowsPromotion {order : RangeOrder}
    {pipeline : DeploymentPipeline} {sourceEnv targetEnv : String}
    (h : allowsPromotion pipeline sourceEnv targetEnv = true) :
    sourceEnv ∈ pipelineEnvironments order pipeline ∧
      targetEnv ∈ pipelineEnvironments order pipeline := by
  obtain ⟨path, hpath, rfl, htarget⟩ := allowsPromotion_iff.1 h
  exact ⟨mem_pipelineEnvironments.2 ⟨path, hpath, .inl rfl⟩,
    mem_pipelineEnvironments.2 ⟨path, hpath, .inr htarget⟩⟩

theorem getEnvironmentsFromDeploymentPipeline_eq_ok {order : RangeOrder}
    {environments : List String} :
    getEnvironmentsFromDeploymentPipeline order defaultPipeline s orgName projectName =
        .ok environments ↔
      ∃ pipeline, PipelineOf defaultPipeline s orgName projectName pipeline ∧
        environments = pipelineEnvironments order pipeline := by
  unfold getEnvironmentsFromDeploymentPipeline
  rcases h : projectPipeline defaultPipeline s orgName projectName with err | pipeline
  · simp only [bind, Except.bind, reduceCtorEq, false_iff, not_exists, not_and]
    intro pipeline hp
    rw [← projectPipeline_eq_ok, h] at hp
    cases hp
  · have hp := projectPipeline_eq_ok.1 h
    simp only [bind, Except.bind, pure, Except.pure, Except.ok.injEq]
    constructor
    · rintro rfl
      exact ⟨pipeline, hp, rfl⟩
    · rintro ⟨pipeline', hp', rfl⟩
      rw [← projectPipeline_eq_ok, h] at hp'
      cases hp'
      rfl

end Lemmas

end Api
end OpenChoreo
