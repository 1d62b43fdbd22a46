import OpenChoreo.Api.BuildConfig

/-!
# Triggering a build and listing builds

`build_service.go` of the API service. `TriggerBuild` copies the workflow schema of a Component,
sets `repository.revision.commit` to the requested commit, and creates a `WorkflowRun` holding the
updated schema. `ListBuilds` reports the runs of a Component and reads the commit back with
`extractCommitFromSchema`.

The commit is written where it is read: the schema of every run `TriggerBuild` creates yields the
requested commit, and the update keeps every other key on the path it writes. A run listed later,
whatever its status by then, reports that commit (or `latest` for an empty one).

Go updates the nested maps of the schema in place, through the references the type assertions
return; the model writes each updated map back into its parent, which is the same value. A schema
that is the JSON `null` decodes into the nil map, which the update assigns into: `TriggerBuild`
then panics (`triggerBuild_null_schema`).
-/

namespace OpenChoreo
namespace Api

/-! ## Workflow runs and build responses -/

/-- `WorkflowOwner`: the project and component a run belongs to. -/
structure WorkflowOwner where
  projectName : String
  componentName : String
  deriving DecidableEq, Repr

/-- A status condition of a run: its type and status. -/
structure RunCondition where
  type : String
  status : String
  deriving DecidableEq, Repr

/-- `WorkflowRun`: its name and namespace, its owner and workflow, and from its status the
conditions and the built image. -/
structure WorkflowRun where
  name : String
  ns : String
  owner : WorkflowOwner
  workflow : WorkflowConfig
  conditions : List RunCondition
  image : String

/-- How a `TriggerBuild` call ends without a run: with the error it returns, or with a run-time
panic and Go's message for it, which ends the request without a reply. -/
inductive BuildFailure
  | error (text : String)
  | panic (message : String)

/-- `models.BuildResponse`, without the UID and the creation time the API server assigns. -/
structure BuildResponse where
  name : String
  componentName : String
  projectName : String
  orgName : String
  commit : String
  status : String
  image : String
  deriving DecidableEq, Repr

/-- What `TriggerBuild` and `ListBuilds` get from their surroundings. -/
structure BuildEnv where
  /-- `k8sClient.Get` of the Component with the given namespace and name. -/
  getComponent : String → String → Except String Component
  /-- The text of the error `json.Unmarshal` returns for content that is not a JSON object. -/
  unmarshalError : Json → String
  /-- `generateShortUUID`. -/
  shortUUID : Except String String
  /-- The error of `k8sClient.Create` for a run, if it fails. -/
  create : WorkflowRun → Option String
  /-- `k8sClient.List` of the workflow runs in a namespace. -/
  listRuns : String → Except String (List WorkflowRun)

/-! ## `TriggerBuild` -/

/-- The schema copy of `TriggerBuild`: the Component's schema decoded into a map (`none` is the nil
map that a `null` schema leaves), or an empty map when it has none. -/
def copySchema (env : BuildEnv) : Option RawExtension → Except String (Option (GoMap Json))
  | some ⟨some raw⟩ =>
    match jsonUnmarshalMap raw with
    | some schemaMap => .ok schemaMap
    | none =>
      let err := env.unmarshalError raw
      .error s!"failed to unmarshal component schema: {err}"
  | _ => .ok (some [])

/-- The commit update of `TriggerBuild`: set `revision.commit` in the `repository` object, creating
`revision`, or `repository` with it, when it is missing or not an object. -/
def setCommit (schemaMap : GoMap Json) (commit : String) : GoMap Json :=
  match asObject (schemaMap.get? "repository") with
  | some repo =>
    match asObject (repo.get? "revision") with
    | some revision =>
      schemaMap.set "repository" (.obj (repo.set "revision" (.obj (revision.set "commit" (.str commit)))))
    | none =>
      schemaMap.set "repository" (.obj (repo.set "revision" (.obj (GoMap.set [] "commit" (.str commit)))))
  | none =>
    schemaMap.set "repository"
      (.obj (GoMap.set [] "revision" (.obj (GoMap.set [] "commit" (.str commit)))))

/-- `TriggerBuild`: the run it creates and the response it returns. Marshalling the updated schema
cannot fail, so that error path is left out. The commit update of a nil schema map finds no
`repository` object and assigns one into the nil map, which panics. -/
def triggerBuild (env : BuildEnv) (orgName projectName componentName commit : String) :
    Except BuildFailure (WorkflowRun × BuildResponse) :=
  match env.getComponent orgName componentName with
  | .error err => .error (.error s!"failed to get component: {err}")
  | .ok component =>
    match component.workflow with
    | none =>
      .error (.error s!"component {componentName} does not have a workflow template configured")
    | some workflow =>
      if workflow.name = "" then
        .error (.error s!"component {componentName} does not have a workflow template configured")
      else
        match copySchema env workflow.schema with
        | .error err => .error (.error err)
        | .ok none => .error (.panic "assignment to entry in nil map")
        | .ok (some schemaMap) =>
          match env.shortUUID with
          | .error err => .error (.error s!"failed to generate UUID: {err}")
          | .ok uuid =>
            let workflowRun : WorkflowRun :=
              { name := s!"{componentName}-{uuid}", ns := orgName
                owner := ⟨projectName, componentName⟩
                workflow := ⟨workflow.name, some ⟨some (jsonMarshal (setCommit schemaMap commit))⟩⟩
                conditions := [], image := "" }
            match env.create workflowRun with
            | some err => .error (.error s!"failed to create workflow: {err}")
            | none =>
              .ok (workflowRun,
                { name := workflowRun.name, componentName := componentName
                  projectName := projectName, orgName := orgName, commit := commit
                  status := "Pending", image := "" })

/-! ## `ListBuilds` -/

/-- `extractCommitFromSchema`: `repository.revision.commit` when it is a string, else empty. -/
def extractCommitFromSchema : Option RawExtension → String
  | some ⟨some raw⟩ =>
    match jsonUnmarshalMap raw with
    | none => ""
    | some schemaMap =>
      match asObject ((schemaMap.getD []).get? "repository") with
      | none => ""
      | some repo =>
        match asObject (repo.get? "revision") with
        | none => ""
        | some revision => (asString (revision.get? "commit")).getD ""
  | _ => ""

/-- One of the scans of `GetLatestWorkflowStatus`: a condition of this type with status `True`. -/
def hasTrueCondition (conditions : List RunCondition) (type : String) : Bool :=
  conditions.any fun condition => condition.type = type ∧ condition.status = "True"

/-- `GetLatestWorkflowStatus`: the first of `WorkloadUpdated`, `WorkflowFailed`,
`WorkflowSucceeded` and `WorkflowRunning` that holds, else `Pending`. -/
def getLatestWorkflowStatus (conditions : List RunCondition) : String :=
  if conditions = [] then "Pending"
  else if hasTrueCondition conditions "WorkloadUpdated" then "Completed"
  else if hasTrueCondition conditions "WorkflowFailed" then "Failed"
  else if hasTrueCondition conditions "WorkflowSucceeded" then "Succeeded"
  else if hasTrueCondition conditions "WorkflowRunning" then "Running"
  else "Pending"

/-- The response `ListBuilds` builds for one run: an empty commit reads as `latest`. -/
def buildResponseOf (orgName projectName componentName : String) (run : WorkflowRun) :
    BuildResponse :=
  let commit := extractCommitFromSchema run.workflow.schema
  { name := run.name, componentName := componentName, projectName := projectName
    orgName := orgName, commit := if commit = "" then "latest" else commit
    status := getLatestWorkflowStatus run.conditions, image := run.image }

/-- `ListBuilds`: the runs of the namespace owned by the project and component. -/
def listBuilds (env : BuildEnv) (orgName projectName componentName : String) :
    Except String (List BuildResponse) :=
  match env.listRuns orgName with
  | .error err => .error s!"failed to list workflows: {err}"
  | .ok runs =>
    .ok ((runs.filter fun run =>
        run.owner.projectName = projectName ∧ run.owner.componentName = componentName).map
      (buildResponseOf orgName projectName componentName))

/-! ## The commit update -/

/-- What the commit update keeps of a schema: every top-level key but `repository`; when
`repository` is an object, its keys but `revision`; when `revision` is an object too, its keys but
`commit`. -/
structure KeepsOutsideCommit (m m' : GoMap Json) : Prop where
  top : ∀ k, k ≠ "repository" → m'.get? k = m.get? k
  repository : ∀ repo, asObject (m.get? "repository") = some repo →
    ∃ repo', asObject (m'.get? "repository") = some repo' ∧
      ∀ k, k ≠ "revision" → repo'.get? k = repo.get? k
  revision : ∀ repo revision, asObject (m.get? "repository") = some repo →
    asObject (repo.get? "revision") = some revision →
    ∃ repo' revision', asObject (m'.get? "repository") = some repo' ∧
      asObject (repo'.get? "revision") = some revision' ∧
      ∀ k, k ≠ "commit" → revision'.get? k = revision.get? k

section Commit

variable (schemaMap : GoMap Json) (commit : String)

/-- The three ways the update goes, by the shape of `repository` and `revision`. -/
theorem setCommit_cases :
    (∃ repo revision, asObject (schemaMap.get? "repository") = some repo ∧
      asObject (repo.get? "revision") = some revision ∧
      setCommit schemaMap commit = schemaMap.set "repository"
        (.obj (repo.set "revision" (.obj (revision.set "commit" (.str commit)))))) ∨
    (∃ repo, asObject (schemaMap.get? "repository") = some repo ∧
      asObject (repo.get? "revision") = none ∧
      setCommit schemaMap commit = schemaMap.set "repository"
        (.obj (repo.set "revision" (.obj (GoMap.set [] "commit" (.str commit)))))) ∨
    (asObject (schemaMap.get? "repository") = none ∧
      setCommit schemaMap commit = schemaMap.set "repository"
        (.obj (GoMap.set [] "revision" (.obj (GoMap.set [] "commit" (.str commit)))))) := by
  rcases hrepo : asObject (schemaMap.get? "repository") with _ | repo
  · exact .inr (.inr ⟨rfl, by simp only [setCommit, hrepo]⟩)
  rcases hrev : asObject (repo.get? "revision") with _ | revision
  · exact .inr (.inl ⟨repo, rfl, hrev, by simp only [setCommit, hrepo, hrev]⟩)
  · exact .inl ⟨repo, revision, rfl, hrev, by simp only [setCommit, hrepo, hrev]⟩

/-- The update reads back: the commit is where `extractCommitFromSchema` looks. -/
theorem extractCommitFromSchema_setCommit :
    extractCommitFromSchema (some ⟨some (jsonMarshal (setCommit schemaMap commit))⟩) = commit := by
  rcases setCommit_cases schemaMap commit with ⟨_, _, -, -, h⟩ | ⟨_, -, -, h⟩ | ⟨-, h⟩ <;>
    simp [h, extractCommitFromSchema]

theorem setCommit_keeps : KeepsOutsideCommit schemaMap (setCommit schemaMap commit) := by
  refine ⟨fun k hk => ?_, fun repo hrepo => ?_, fun repo revision hrepo hrev => ?_⟩
  · rcases setCommit_cases schemaMap commit with ⟨_, _, -, -, h⟩ | ⟨_, -, -, h⟩ | ⟨-, h⟩ <;>
      rw [h, GoMap.get?_set_ne _ _ hk]
  · rcases setCommit_cases schemaMap commit with ⟨_, _, h₁, -, h⟩ | ⟨_, h₁, -, h⟩ | ⟨h₁, -⟩
    · obtain rfl := Option.some.inj (hrepo.symm.trans h₁)
      exact ⟨_, by rw [h, GoMap.get?_set_self, asObject_obj], fun k hk => GoMap.get?_set_ne _ _ hk⟩
    · obtain rfl := Option.some.inj (hrepo.symm.trans h₁)
      exact ⟨_, by rw [h, GoMap.get?_set_self, asObject_obj], fun k hk => GoMap.get?_set_ne _ _ hk⟩
    · exact absurd (hrepo.symm.trans h₁) (by simp)
  · rcases setCommit_cases schemaMap commit with ⟨_, _, h₁, h₂, h⟩ | ⟨_, h₁, h₂, -⟩ | ⟨h₁, -⟩
    · obtain rfl := Option.some.inj (hrepo.symm.trans h₁)
      obtain rfl := Option.some.inj (hrev.symm.trans h₂)
      exact ⟨_, _, by rw [h, GoMap.get?_set_self, asObject_obj],
        by rw [GoMap.get?_set_self, asObject_obj], fun k hk => GoMap.get?_set_ne _ _ hk⟩
    · obtain rfl := Option.some.inj (hrepo.symm.trans h₁)
      exact absurd (hrev.symm.trans h₂) (by simp)
    · exact absurd (hrepo.symm.trans h₁) (by simp)

end Commit

/-! ## What `TriggerBuild` creates -/

/-- A successful `TriggerBuild` fetched a Component with a named workflow, copied its schema,
drew a name and created the run holding the updated schema; it returns that run. -/
theorem triggerBuild_ok {env : BuildEnv} {orgName projectName componentName commit : String}
    {run : WorkflowRun} {response : BuildResponse}
    (h : triggerBuild env orgName projectName componentName commit = .ok (run, response)) :
    ∃ component workflow schemaMap uuid,
      env.getComponent orgName componentName = .ok component ∧
      component.workflow = some workflow ∧ workflow.name ≠ "" ∧
      copySchema env workflow.schema = .ok (some schemaMap) ∧ env.shortUUID = .ok uuid ∧
      run = { name := s!"{componentName}-{uuid}", ns := orgName
              owner := ⟨projectName, componentName⟩
              workflow := ⟨workflow.name, some ⟨some (jsonMarshal (setCommit schemaMap commit))⟩⟩
              conditions := [], image := "" } ∧
      env.create run = none ∧
      response = { name := run.name, componentName := componentName, projectName := projectName
                   orgName := orgName, commit := commit, status := "Pending", image := "" } := by
  unfold triggerBuild at h
  rcases hget : env.getComponent orgName componentName with err | component <;>
    simp only [hget, reduceCtorEq] at h
  rcases hwf : component.workflow with _ | workflow <;> simp only [hwf, reduceCtorEq] at h
  by_cases hname : workflow.name = "" <;> simp only [hname, if_true, if_false, reduceCtorEq] at h
  rcases hcopy : copySchema env workflow.schema with err | _ | schemaMap <;>
    simp only [hcopy, reduceCtorEq] at h
  rcases huuid : env.shortUUID with err | uuid <;> simp only [huuid, reduceCtorEq] at h
  split at h
  · cases h
  · rename_i hcreate
    obtain ⟨rfl, rfl⟩ := Prod.mk.inj (Except.ok.inj h)
    exact ⟨component, workflow, schemaMap, uuid, rfl, hwf, hname, hcopy, rfl, rfl, hcreate, rfl⟩

/-- A Component whose workflow schema is the JSON `null` has it decoded into the nil map, and the
commit update panics assigning `repository` into that map. -/
theorem triggerBuild_null_schema {env : BuildEnv} {orgName projectName componentName commit : String}
    {component : Component} {workflow : WorkflowConfig}
    (hget : env.getComponent orgName componentName = .ok component)
    (hwf : component.workflow = some workflow) (hname : workflow.name ≠ "")
    (hnull : workflow.schema = some ⟨some .null⟩) :
    triggerBuild env orgName projectName componentName commit =
      .error (.panic "assignment to entry in nil map") := by
  simp [triggerBuild, hget, hwf, hname, hnull, copySchema, jsonUnmarshalMap]

/-- The build commit is written where it is read. Take a Component whose workflow schema decodes
to a JSON object. Every run `TriggerBuild` creates from it holds a schema from which
`extractCommitFromSchema` reads the requested commit, and which keeps every key of the original
schema outside the path to the commit. -/
theorem triggerBuild_commit_readable (env : BuildEnv)
    (orgName projectName componentName commit : String) (component : Component)
    (workflow : WorkflowConfig) (schemaMap : GoMap Json)
    (hget : env.getComponent orgName componentName = .ok component)
    (hwf : component.workflow = some workflow) (hraw : workflow.schema = some ⟨some (.obj schemaMap)⟩)
    (run : WorkflowRun) (response : BuildResponse)
    (h : triggerBuild env orgName projectName componentName commit = .ok (run, response)) :
    extractCommitFromSchema run.workflow.schema = commit ∧
      ∃ schemaMap', run.workflow.schema = some ⟨some (jsonMarshal schemaMap')⟩ ∧
        KeepsOutsideCommit schemaMap schemaMap' := by
  obtain ⟨component', workflow', schemaMap'', uuid, hget', hwf', -, hcopy, -, rfl, -, -⟩ :=
    triggerBuild_ok h
  obtain rfl : component = component' := Except.ok.inj (hget.symm.trans hget')
  obtain rfl : workflow = workflow' := Option.some.inj (hwf.symm.trans hwf')
  obtain rfl : schemaMap = schemaMap'' := by
    rw [hraw] at hcopy
    exact Option.some.inj (Except.ok.inj hcopy)
  exact ⟨extractCommitFromSchema_setCommit _ _, _, rfl, setCommit_keeps _ _⟩

/-- A schema that already records a URL, a branch and a commit, beside a template parameter. -/
def greeterSchema : GoMap Json :=
  [("repository", .obj [("url", .str "sample-workloads"),
      ("revision", .obj [("branch", .str "main"), ("commit", .str "abc123")])]),
    ("dockerfile", .str "Dockerfile")]

/-- The Docker workflow of the `greeter` Component, with `greeterSchema`. -/
def greeterWorkflow : WorkflowConfig := ⟨"docker", some ⟨some (.obj greeterSchema)⟩⟩

/-- The `greeter` Component. -/
def greeterComponent : Component :=
  { name := "greeter", ns := "default", displayName := "greeter", description := ""
    projectName := "default", type := "Service", workflow := some greeterWorkflow
    creationTimestamp := 1672531200000000000 }

/-- The run a build of commit `def456` of `greeter` creates. -/
def greeterRun : WorkflowRun :=
  { name := "greeter-1a2b3c4d", ns := "default", owner := ⟨"default", "greeter"⟩
    workflow := ⟨"docker", some ⟨some (jsonMarshal (setCommit greeterSchema "def456"))⟩⟩
    conditions := [], image := "" }

/-- The response `TriggerBuild` returns for that build. -/
def greeterResponse : BuildResponse :=
  { name := "greeter-1a2b3c4d", componentName := "greeter", projectName := "default"
    orgName := "default", commit := "def456", status := "Pending", image := "" }

/-- Surroundings in which every call succeeds; the namespace holds the run after it succeeded. -/
def greeterEnv : BuildEnv :=
  { getComponent := fun _ _ => .ok greeterComponent, unmarshalError := fun _ => ""
    shortUUID := .ok "1a2b3c4d", create := fun _ => none
    listRuns := fun _ =>
      .ok [{ greeterRun with conditions := [⟨"WorkflowSucceeded", "True"⟩], image := "greeter:def456" }] }

theorem triggerBuild_greeter :
    triggerBuild greeterEnv "default" "default" "greeter" "def456" = .ok (greeterRun, greeterResponse) :=
  rfl

theorem triggerBuild_commit_readable_greeter :
    greeterEnv.getComponent "default" "greeter" = .ok greeterComponent ∧
      greeterComponent.workflow = some greeterWorkflow ∧
      greeterWorkflow.schema = some ⟨some (.obj greeterSchema)⟩ ∧
      triggerBuild greeterEnv "default" "default" "greeter" "def456" =
        .ok (greeterRun, greeterResponse) ∧
      extractCommitFromSchema greeterRun.workflow.schema = "def456" ∧
      ∃ schemaMap', greeterRun.workflow.schema = some ⟨some (jsonMarshal schemaMap')⟩ ∧
        KeepsOutsideCommit greeterSchema schemaMap' :=
  ⟨rfl, rfl, rfl, triggerBuild_greeter,
    triggerBuild_commit_readable greeterEnv "default" "default" "greeter" "def456" greeterComponent
      greeterWorkflow greeterSchema rfl rfl rfl greeterRun greeterResponse triggerBuild_greeter⟩

/-! ## Listing a triggered build -/

/-- A triggered build is listed with its commit. Once the namespace holds the run `TriggerBuild`
created, with whatever status and image the build has reached since, `ListBuilds` of its project and
component reports it as `TriggerBuild` did, with the requested commit (`latest` for an empty one)
and the run's current status and image. -/
theorem triggerBuild_listed (env : BuildEnv) (orgName projectName componentName commit : String)
    (run : WorkflowRun) (response : BuildResponse)
    (h : triggerBuild env orgName projectName componentName commit = .ok (run, response))
    (runs : List WorkflowRun) (hlist : env.listRuns orgName = .ok runs)
    (conditions : List RunCondition) (image : String)
    (hmem : { run with conditions := conditions, image := image } ∈ runs) :
    ∃ responses, listBuilds env orgName projectName componentName = .ok responses ∧
      { response with
        commit := if commit = "" then "latest" else commit
        status := getLatestWorkflowStatus conditions
        image := image } ∈ responses := by
  obtain ⟨_, _, schemaMap, _, -, -, -, -, -, rfl, -, rfl⟩ := triggerBuild_ok h
  refine ⟨_, by rw [listBuilds, hlist], List.mem_map.2 ⟨_, List.mem_filter.2 ⟨hmem, by simp⟩, ?_⟩⟩
  simp only [buildResponseOf, extractCommitFromSchema_setCommit]

theorem triggerBuild_listed_greeter :
    triggerBuild greeterEnv "default" "default" "greeter" "def456" =
        .ok (greeterRun, greeterResponse) ∧
      greeterEnv.listRuns "default" =
        .ok [{ greeterRun with conditions := [⟨"WorkflowSucceeded", "True"⟩], image := "greeter:def456" }] ∧
      { greeterRun with conditions := [⟨"WorkflowSucceeded", "True"⟩], image := "greeter:def456" } ∈
        [{ greeterRun with conditions := [⟨"WorkflowSucceeded", "True"⟩], image := "greeter:def456" }] ∧
      ∃ responses, listBuilds greeterEnv "default" "default" "greeter" = .ok responses ∧
        { greeterResponse with
          commit := if "def456" = "" then "latest" else "def456"
          status := getLatestWorkflowStatus [⟨"WorkflowSucceeded", "True"⟩]
          image := "greeter:def456" } ∈ responses :=
  ⟨triggerBuild_greeter, rfl, List.mem_singleton_self _,
    triggerBuild_listed greeterEnv "default" "default" "greeter" "def456" greeterRun greeterResponse
      triggerBuild_greeter _ rfl _ _ (List.mem_singleton_self _)⟩

end Api
end OpenChoreo
