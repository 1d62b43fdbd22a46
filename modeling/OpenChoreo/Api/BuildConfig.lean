import Mathlib.Data.List.Nodup
import Mathlib.Data.List.Perm.Basic
import OpenChoreo.Api.Workflow

/-!
# The build configuration of a Component and its round trip

`component_service.go` of the API service. A create request carries a `BuildConfig` (a repository
URL, a branch, a path, a workflow template and template parameters). `createComponentResources`
stores it in the Component's `WorkflowConfig` through `convertBuildConfigToBuildSpec`, which writes
the repository fields under a `repository` key of the schema and each template parameter under its
own name. `toComponentResponse` reports it back through `convertBuildSpecToBuildConfig`.

The round trip keeps the configuration when the template reference is set and the template
parameters have distinct names, none of them `repository`: the repository URL and the template
reference come back, the branch and path come back with their defaults, and the template
parameters come back as a permutation of the original ones. A configuration with a repository URL
and no template is stored and reported as nil, and a parameter named `repository` overwrites the
repository fields.
-/

namespace OpenChoreo
namespace Api

/-! ## API models -/

/-- `models.TemplateParameter`. -/
structure TemplateParameter where
  name : String
  value : String
  deriving DecidableEq, Repr

/-- `models.BuildConfig`. -/
structure BuildConfig where
  repoURL : String
  branch : String
  componentPath : String
  buildTemplateRef : String
  templateParams : List TemplateParameter
  deriving DecidableEq, Repr

/-- `models.CreateComponentRequest`. -/
structure CreateComponentRequest where
  name : String
  displayName : String
  description : String
  type : String
  buildConfig : BuildConfig
  deriving DecidableEq, Repr

/-- The Component CR as the service writes and reads it: its name and namespace, the values of its
display-name and description annotations (an absent annotation reads as the empty string), its
owner project, its type, its workflow, and its creation timestamp in Unix nanoseconds, which the
API server sets when it creates the object. -/
structure Component where
  name : String
  ns : String
  displayName : String
  description : String
  projectName : String
  type : String
  workflow : Option WorkflowConfig
  creationTimestamp : Int

/-- Go's zero `time.Time`, 0001-01-01 00:00:00 UTC, in Unix nanoseconds: the creation timestamp of
a Component the service has built and the API server has not yet created. -/
def zeroTime : Int := -62135596800000000000

/-- `models.ComponentResponse`, without its type and workload specs. `createdAt` is in Unix
nanoseconds. -/
structure ComponentResponse where
  name : String
  displayName : String
  description : String
  type : String
  projectName : String
  orgName : String
  createdAt : Int
  status : String
  buildConfig : Option BuildConfig
  deriving DecidableEq, Repr

/-! ## Writing the schema: `convertBuildConfigToBuildSpec` -/

/-- The repository configuration of `convertBuildConfigToBuildSpec`: the URL when it is set, the
branch (by default `main`) under `revision`, and the path (by default `.`). -/
def buildRepositoryMap (buildConfig : BuildConfig) : GoMap Json :=
  let repositoryMap : GoMap Json :=
    if buildConfig.repoURL ≠ "" then GoMap.set [] "url" (.str buildConfig.repoURL) else []
  let revisionMap : GoMap Json :=
    if buildConfig.branch ≠ "" then GoMap.set [] "branch" (.str buildConfig.branch)
    else GoMap.set [] "branch" (.str "main")
  let repositoryMap := repositoryMap.set "revision" (.obj revisionMap)
  if buildConfig.componentPath ≠ "" then repositoryMap.set "appPath" (.str buildConfig.componentPath)
  else repositoryMap.set "appPath" (.str ".")

/-- The schema map of `convertBuildConfigToBuildSpec`: the repository configuration under
`repository`, then each template parameter under its name, a later one replacing an earlier one. -/
def buildSchemaMap (buildConfig : BuildConfig) : GoMap Json :=
  buildConfig.templateParams.foldl (fun schemaMap param => schemaMap.set param.name (.str param.value))
    (GoMap.set [] "repository" (.obj (buildRepositoryMap buildConfig)))

/-- `convertBuildConfigToBuildSpec`. Its marshalling error cannot occur, so it returns the
workflow configuration alone. -/
def convertBuildConfigToBuildSpec (buildConfig : BuildConfig) : WorkflowConfig :=
  { name := buildConfig.buildTemplateRef
    schema := some ⟨some (jsonMarshal (buildSchemaMap buildConfig))⟩ }

/-! ## Reading the schema: `convertBuildSpecToBuildConfig` -/

/-- The standard repository fields of `convertBuildSpecToBuildConfig`, read from
`schema.repository` into the partial configuration. -/
def extractRepositoryFields (schemaMap : GoMap Json) (buildConfig : BuildConfig) : BuildConfig :=
  match asObject (schemaMap.get? "repository") with
  | none => buildConfig
  | some repo =>
    let buildConfig := match asString (repo.get? "url") with
      | some url => { buildConfig with repoURL := url }
      | none => buildConfig
    let buildConfig := match asObject (repo.get? "revision") with
      | some revision => match asString (revision.get? "branch") with
        | some branch => { buildConfig with branch := branch }
        | none => buildConfig
      | none => buildConfig
    match asString (repo.get? "appPath") with
    | some appPath => { buildConfig with componentPath := appPath }
    | none => buildConfig

/-- The remaining schema fields of `convertBuildSpecToBuildConfig`, as template parameters. -/
def templateParametersOf (schemaMap : GoMap Json) : List TemplateParameter :=
  (schemaMap.filter fun e => e.1 ≠ "repository").map fun e => ⟨e.1, e.2.format⟩

/-- `convertBuildSpecToBuildConfig`: nil for a nameless workflow; the template reference alone
when there is no schema or it does not decode into a map; otherwise also the repository fields
and the template parameters, none of them from the nil map that a `null` schema decodes to. -/
def convertBuildSpecToBuildConfig (buildSpec : WorkflowConfig) : Option BuildConfig :=
  if buildSpec.name = "" then none
  else
    let buildConfig : BuildConfig :=
      { repoURL := "", branch := "", componentPath := "", buildTemplateRef := buildSpec.name
        templateParams := [] }
    match buildSpec.schema with
    | none => some buildConfig
    | some ⟨none⟩ => some buildConfig
    | some ⟨some raw⟩ =>
      match jsonUnmarshalMap raw with
      | none => some buildConfig
      | some schemaMap =>
        let schemaMap := schemaMap.getD []
        some { extractRepositoryFields schemaMap buildConfig with
          templateParams := templateParametersOf schemaMap }

/-- `convertBuildSpecToBuildConfig` gives a configuration exactly for a named workflow. -/
theorem convertBuildSpecToBuildConfig_isSome (buildSpec : WorkflowConfig) :
    (convertBuildSpecToBuildConfig buildSpec).isSome ↔ buildSpec.name ≠ "" := by
  unfold convertBuildSpecToBuildConfig
  split_ifs with h
  · simp [h]
  · simp only [ne_eq, h, not_false_eq_true, iff_true]
    split
    · rfl
    · rfl
    · split <;> rfl

/-! ## Storing and reporting a Component -/

/-- `createComponentResources`: the Component CR it hands to the client's `Create`, whose error
`create` returns. The workflow is set when the request names a repository or a template. -/
def createComponentResources (create : Component → Option String) (orgName projectName : String)
    (req : CreateComponentRequest) : Except String Component :=
  let displayName := if req.displayName = "" then req.name else req.displayName
  let componentCR : Component :=
    { name := req.name, ns := orgName, displayName := displayName, description := req.description
      projectName := projectName, type := req.type
      workflow :=
        if req.buildConfig.repoURL ≠ "" ∨ req.buildConfig.buildTemplateRef ≠ "" then
          some (convertBuildConfigToBuildSpec req.buildConfig)
        else none
      creationTimestamp := zeroTime }
  match create componentCR with
  | some err => .error s!"failed to create component CR: {err}"
  | none => .ok componentCR

/-- `toComponentResponse`: the build configuration is converted back only from a named workflow. -/
def toComponentResponse (component : Component) : ComponentResponse :=
  { name := component.name, displayName := component.displayName
    description := component.description, type := component.type
    projectName := component.projectName, orgName := component.ns
    createdAt := component.creationTimestamp, status := "Creating"
    buildConfig := match component.workflow with
      | some workflow => if workflow.name ≠ "" then convertBuildSpecToBuildConfig workflow else none
      | none => none }

/-! ## The template parameters in the schema map -/

section Params

variable {params : List TemplateParameter}

/-- The fold of the template parameters assigns only their names. -/
theorem get?_foldl_set_of_forall_ne {key : String} (hkey : ∀ p ∈ params, p.name ≠ key)
    (m : GoMap Json) :
    (params.foldl (fun m param => m.set param.name (.str param.value)) m).get? key = m.get? key := by
  induction params generalizing m with
  | nil => rfl
  | cons p rest ih =>
    rw [List.foldl_cons, ih (fun q hq => hkey q (.tail _ hq)),
      GoMap.get?_set_ne _ _ (Ne.symm (hkey p (.head _)))]

/-- With distinct names, every template parameter keeps its own entry, and an entry of the
starting map survives exactly when no parameter has its key. -/
theorem mem_foldl_set (hnodup : (params.map (·.name)).Nodup) (m : GoMap Json) (k : String)
    (v : Json) :
    (k, v) ∈ params.foldl (fun m param => m.set param.name (.str param.value)) m ↔
      (∃ p ∈ params, p.name = k ∧ v = .str p.value) ∨ ((k, v) ∈ m ∧ ∀ p ∈ params, p.name ≠ k) := by
  induction params generalizing m with
  | nil => simp
  | cons p rest ih =>
    obtain ⟨hp, hrest⟩ := List.nodup_cons.1 hnodup
    have hfresh : ∀ q ∈ rest, q.name ≠ p.name := fun q hq h => hp (List.mem_map.2 ⟨q, hq, h⟩)
    rw [List.foldl_cons, ih hrest, GoMap.mem_set]
    by_cases hk : k = p.name
    · subst hk
      simp only [List.mem_cons, exists_eq_or_imp, forall_eq_or_imp, true_and, ne_eq,
        not_true_eq_false, and_false, false_and, or_false]
      have hnone : ¬∃ q ∈ rest, q.name = p.name ∧ v = .str q.value :=
        fun ⟨q, hq, hname, _⟩ => hfresh q hq hname
      simp only [hnone, or_false, false_or]
      exact ⟨fun h => h.1, fun h => ⟨h, hfresh⟩⟩
    · simp only [List.mem_cons, exists_eq_or_imp, forall_eq_or_imp, hk, false_and, false_or,
        Ne.symm hk, ne_eq, not_false_eq_true, true_and, and_true]

/-- The fold keeps each key once. -/
theorem nodup_keys_foldl_set {m : GoMap Json} (hm : (m.map (·.1)).Nodup) :
    ((params.foldl (fun m param => m.set param.name (.str param.value)) m).map (·.1)).Nodup := by
  induction params generalizing m with
  | nil => exact hm
  | cons p rest ih => exact ih (GoMap.nodup_keys_set hm _ _)

end Params

/-! ## The round trip -/

section RoundTrip

variable {bc : BuildConfig}

/-- The schema map holds the repository configuration when no parameter is named `repository`. -/
theorem buildSchemaMap_get?_repository (hrepo : ∀ p ∈ bc.templateParams, p.name ≠ "repository") :
    (buildSchemaMap bc).get? "repository" = some (.obj (buildRepositoryMap bc)) := by
  rw [buildSchemaMap, get?_foldl_set_of_forall_ne hrepo, GoMap.get?_set_self]

/-- Reading the repository configuration back gives the URL, the branch and the path with their
defaults. -/
theorem extractRepositoryFields_of_get? {schemaMap : GoMap Json}
    (h : schemaMap.get? "repository" = some (.obj (buildRepositoryMap bc))) (base : BuildConfig) :
    extractRepositoryFields schemaMap base =
      { base with
        repoURL := if bc.repoURL ≠ "" then bc.repoURL else base.repoURL
        branch := if bc.branch ≠ "" then bc.branch else "main"
        componentPath := if bc.componentPath ≠ "" then bc.componentPath else "." } := by
  simp only [extractRepositoryFields, h, asObject_obj, buildRepositoryMap]
  by_cases hu : bc.repoURL = "" <;> by_cases hb : bc.branch = "" <;>
    by_cases hc : bc.componentPath = "" <;> simp [hu, hb, hc]

/-- The template parameters read back from the schema map are the original ones, in some order. -/
theorem templateParametersOf_buildSchemaMap (hnodup : (bc.templateParams.map (·.name)).Nodup)
    (hrepo : ∀ p ∈ bc.templateParams, p.name ≠ "repository") :
    (templateParametersOf (buildSchemaMap bc)).Perm bc.templateParams := by
  have hkeys : ((buildSchemaMap bc).map (·.1)).Nodup :=
    nodup_keys_foldl_set (GoMap.nodup_keys_set (m := []) List.nodup_nil _ _)
  have hnames : ((templateParametersOf (buildSchemaMap bc)).map (·.name)).Nodup := by
    simpa [templateParametersOf, Function.comp_def] using
      hkeys.sublist ((List.filter_sublist _).map _)
  refine (List.perm_ext_iff_of_nodup (hnames.of_map _) (hnodup.of_map _)).2 fun ⟨n, val⟩ => ?_
  simp only [templateParametersOf, List.mem_map, List.mem_filter, Prod.exists, buildSchemaMap,
    mem_foldl_set hnodup, GoMap.mem_set, TemplateParameter.mk.injEq]
  constructor
  · rintro ⟨k, v, ⟨⟨p, hp, rfl, rfl⟩ | ⟨⟨rfl, -⟩ | ⟨h, -⟩, -⟩, hk⟩, rfl, rfl⟩
    · simpa using hp
    · simp at hk
    · simp at h
  · intro h
    exact ⟨n, .str val, ⟨.inl ⟨_, h, rfl, rfl⟩, by simpa using hrepo _ h⟩, rfl, by simp⟩

/-- The round trip of a configuration with a template reference and distinct parameter names,
none of them `repository`. -/
theorem convertBuildSpecToBuildConfig_convertBuildConfigToBuildSpec
    (href : bc.buildTemplateRef ≠ "") (hrepo : ∀ p ∈ bc.templateParams, p.name ≠ "repository") :
    convertBuildSpecToBuildConfig (convertBuildConfigToBuildSpec bc) =
      some { repoURL := bc.repoURL
             branch := if bc.branch ≠ "" then bc.branch else "main"
             componentPath := if bc.componentPath ≠ "" then bc.componentPath else "."
             buildTemplateRef := bc.buildTemplateRef
             templateParams := templateParametersOf (buildSchemaMap bc) } := by
  simp only [convertBuildSpecToBuildConfig, convertBuildConfigToBuildSpec, href, if_false,
    jsonUnmarshalMap_jsonMarshal, Option.getD_some,
    extractRepositoryFields_of_get? (buildSchemaMap_get?_repository hrepo)]
  by_cases hu : bc.repoURL = "" <;> simp [hu]

/-- A build configuration with a template reference and distinct template parameter names, none of
them `repository`, comes back from its schema with its repository URL and template reference, its
branch and path or their defaults, and its template parameters in some order. -/
theorem buildConfig_round_trip (bc : BuildConfig) (href : bc.buildTemplateRef ≠ "")
    (hnodup : (bc.templateParams.map (·.name)).Nodup)
    (hrepo : ∀ p ∈ bc.templateParams, p.name ≠ "repository") :
    ∃ bc', convertBuildSpecToBuildConfig (convertBuildConfigToBuildSpec bc) = some bc' ∧
      bc'.repoURL = bc.repoURL ∧ bc'.buildTemplateRef = bc.buildTemplateRef ∧
      bc'.branch = (if bc.branch ≠ "" then bc.branch else "main") ∧
      bc'.componentPath = (if bc.componentPath ≠ "" then bc.componentPath else ".") ∧
      bc'.templateParams.Perm bc.templateParams :=
  ⟨_, convertBuildSpecToBuildConfig_convertBuildConfigToBuildSpec href hrepo, rfl, rfl, rfl, rfl,
    templateParametersOf_buildSchemaMap hnodup hrepo⟩

/-- A Docker build of a repository's default branch with two template parameters. -/
def dockerBuildConfig : BuildConfig :=
  { repoURL := "sample-workloads", branch := "", componentPath := "greeter"
    buildTemplateRef := "docker"
    templateParams := [⟨"dockerfile", "Dockerfile"⟩, ⟨"context", "."⟩] }

theorem buildConfig_round_trip_docker :
    dockerBuildConfig.buildTemplateRef ≠ "" ∧
      (dockerBuildConfig.templateParams.map (·.name)).Nodup ∧
      (∀ p ∈ dockerBuildConfig.templateParams, p.name ≠ "repository") ∧
      ∃ bc', convertBuildSpecToBuildConfig (convertBuildConfigToBuildSpec dockerBuildConfig) = some bc' ∧
        bc'.repoURL = dockerBuildConfig.repoURL ∧
        bc'.buildTemplateRef = dockerBuildConfig.buildTemplateRef ∧
        bc'.branch = (if dockerBuildConfig.branch ≠ "" then dockerBuildConfig.branch else "main") ∧
        bc'.componentPath =
          (if dockerBuildConfig.componentPath ≠ "" then dockerBuildConfig.componentPath else ".") ∧
        bc'.templateParams.Perm dockerBuildConfig.templateParams :=
  ⟨by decide, by decide, by decide,
    buildConfig_round_trip dockerBuildConfig (by decide) (by decide) (by decide)⟩

/-- A repository without a workflow template, which `createComponentResources` stores. -/
def repositoryOnlyConfig : BuildConfig :=
  { repoURL := "sample-workloads", branch := "", componentPath := "", buildTemplateRef := ""
    templateParams := [] }

/-- A template parameter named `repository`, which replaces the repository configuration. -/
def shadowingConfig : BuildConfig :=
  { dockerBuildConfig with templateParams := [⟨"repository", "mirror"⟩] }

/-- Both exclusions are needed: a stored configuration with a repository and no template comes
back as nil, and one whose template parameter is named `repository` (distinct names, a template
reference) comes back without its repository URL. -/
theorem buildConfig_round_trip_loses_config :
    repositoryOnlyConfig.repoURL ≠ "" ∧
      convertBuildSpecToBuildConfig (convertBuildConfigToBuildSpec repositoryOnlyConfig) = none ∧
      shadowingConfig.buildTemplateRef ≠ "" ∧
      (shadowingConfig.templateParams.map (·.name)).Nodup ∧
      (convertBuildSpecToBuildConfig (convertBuildConfigToBuildSpec shadowingConfig)).map
        (·.repoURL) = some "" ∧
      shadowingConfig.repoURL ≠ "" := by
  decide

end RoundTrip

/-! ## Storing a Component and reporting it back -/

/-- A Component that `createComponentResources` built has a workflow exactly when the request names
a repository or a template, and `toComponentResponse` reports a build configuration of it exactly
when the request names a template: the round trip of the requested one. -/
theorem createComponentResources_buildConfig {create : Component → Option String}
    {orgName projectName : String} {req : CreateComponentRequest} {component : Component}
    (h : createComponentResources create orgName projectName req = .ok component) :
    (component.workflow.isSome ↔
        (req.buildConfig.repoURL ≠ "" ∨ req.buildConfig.buildTemplateRef ≠ "")) ∧
      (toComponentResponse component).buildConfig =
        if req.buildConfig.buildTemplateRef ≠ "" then
          convertBuildSpecToBuildConfig (convertBuildConfigToBuildSpec req.buildConfig)
        else none := by
  unfold createComponentResources at h
  dsimp only at h
  split at h <;> cases h
  by_cases href : req.buildConfig.buildTemplateRef = ""
  · by_cases hurl : req.buildConfig.repoURL = "" <;>
      simp [toComponentResponse, href, hurl, convertBuildSpecToBuildConfig,
        convertBuildConfigToBuildSpec]
  · simp [toComponentResponse, href, convertBuildConfigToBuildSpec]

end Api
end OpenChoreo
