import OpenChoreo.GoMap

/-!
# From a workload descriptor to a Workload CR

`synth`, the CLI's workload synthesis: `ConvertWorkloadDescriptorToWorkloadCR` reads the
`workload.yaml` a developer keeps beside the source, checks the conversion parameters, and builds
the Workload CR. The CR has one container, `main`, with the image of the parameters; the
descriptor's endpoints and connections go into maps by name, and its environment variables and
files into the main container, with endpoint schemas and file contents read from paths beside the
descriptor.

The file system is given: the path `filepath.Join(filepath.Dir(descriptorPath), path)` names, and
what `os.ReadFile` returns for it. The descriptor arrives decoded, or as the error of reading or
decoding it; `readWorkloadDescriptorFromReader` (YAML decoding) and `ConvertWorkloadCRToYAML`
(YAML encoding) are not modelled. A descriptor field no modelled function reads (`apiVersion`, an
endpoint's `context`) is left out.

The file provides

* `convertDescriptorToWorkload_eq_ok`, the result of a conversion, with the shortcuts the code takes
  for an empty list of endpoints, connections, variables or files shown to agree with its loops;
* `convertWorkloadDescriptorToWorkloadCR_keeps_identity`: the descriptor sets the name, but never the
  owner, the image or the containers;
* `convertWorkloadDescriptorToWorkloadCR_value_or_valueFrom`: no variable or file gets both a value
  and a `valueFrom`;
* `convertWorkloadDescriptorToWorkloadCR_last_wins`: two endpoints or connections of one name leave
  the last one;
* `convertWorkloadDescriptorToWorkloadCR_succeeds_iff`: what a conversion needs to succeed. The
  "main container not found" error is never raised.
-/

namespace OpenChoreo
namespace Synth

/-! ## The descriptor -/

/-- `WorkloadDescriptorEndpoint`, without its `context`. -/
structure DescriptorEndpoint where
  name : String
  port : Int
  type : String
  schemaFile : String
  deriving DecidableEq, Repr

/-- `WorkloadDescriptorConnectionEnvVar`; the CR's `WorkloadConnectionEnvVar` has the same two
fields and is copied from it field by field. -/
structure ConnectionEnvVar where
  name : String
  value : String
  deriving DecidableEq, Repr

/-- `WorkloadDescriptorConnection`, with the variables of its `inject.env`. -/
structure DescriptorConnection where
  name : String
  type : String
  params : GoMap String
  env : List ConnectionEnvVar
  deriving DecidableEq, Repr

/-- `WorkloadDescriptorSecretKeyRef`, and the CR's `SecretKeyRef`. -/
structure SecretKeyRef where
  name : String
  key : String
  deriving DecidableEq, Repr

/-- `WorkloadDescriptorEnvVarSource`. -/
structure EnvVarSource where
  secretKeyRef : Option SecretKeyRef
  path : String
  deriving DecidableEq, Repr

/-- `WorkloadDescriptorEnvVar`. -/
structure DescriptorEnvVar where
  name : String
  value : String
  valueFrom : Option EnvVarSource
  deriving DecidableEq, Repr

/-- `WorkloadDescriptorFileVar`. -/
structure DescriptorFileVar where
  name : String
  mountPath : String
  value : String
  valueFrom : Option EnvVarSource
  deriving DecidableEq, Repr

/-- `WorkloadDescriptor`: the metadata name, the endpoints, the connections, and the environment
variables and files of its `configurations`. -/
structure WorkloadDescriptor where
  name : String
  endpoints : List DescriptorEndpoint
  connections : List DescriptorConnection
  env : List DescriptorEnvVar
  files : List DescriptorFileVar
  deriving DecidableEq, Repr

/-! ## The Workload CR -/

/-- `EnvVarValueFrom`, of which the conversion sets only the secret reference. -/
structure EnvVarValueFrom where
  secretRef : Option SecretKeyRef
  deriving DecidableEq, Repr

/-- `EnvVar` of a container. -/
structure EnvVar where
  key : String
  value : String
  valueFrom : Option EnvVarValueFrom
  deriving DecidableEq, Repr

/-- `FileVar` of a container. -/
structure FileVar where
  key : String
  mountPath : String
  value : String
  valueFrom : Option EnvVarValueFrom
  deriving DecidableEq, Repr

/-- `Container`: its image, environment variables and files. -/
structure Container where
  image : String
  env : List EnvVar
  files : List FileVar
  deriving DecidableEq, Repr

/-- `Schema` of an endpoint. -/
structure Schema where
  type : String
  content : String
  deriving DecidableEq, Repr

/-- `WorkloadEndpoint`. -/
structure WorkloadEndpoint where
  type : String
  port : Int
  schema : Option Schema
  deriving DecidableEq, Repr

/-- `WorkloadConnection`. -/
structure WorkloadConnection where
  type : String
  params : GoMap String
  env : List ConnectionEnvVar
  deriving DecidableEq, Repr

/-- `WorkloadOwner`. -/
structure WorkloadOwner where
  projectName : String
  componentName : String
  deriving DecidableEq, Repr

/-- The Workload CR: its type, its name, and the owner, containers, endpoints and connections of its
spec. A map the conversion never makes is the empty one. -/
structure Workload where
  apiVersion : String
  kind : String
  name : String
  owner : WorkloadOwner
  containers : GoMap Container
  endpoints : GoMap WorkloadEndpoint
  connections : GoMap WorkloadConnection
  deriving DecidableEq, Repr

/-- Modelled from the spec: `api.CreateWorkloadParams` is not among the sources; these are the four
fields the conversion reads. -/
structure CreateWorkloadParams where
  organizationName : String
  projectName : String
  componentName : String
  imageURL : String
  deriving DecidableEq, Repr

/-- The files beside a descriptor: the path `filepath.Join(filepath.Dir(descriptorPath), path)`
gives, and the content `os.ReadFile` reads from a path, or its error. -/
structure Files where
  resolve : String → String → String
  readFile : String → Except String String

/-! ## The conversion -/

/-- `validateConversionParams`. -/
def validateConversionParams (params : CreateWorkloadParams) : Except String Unit :=
  if params.organizationName = "" then .error "organization name is required"
  else if params.projectName = "" then .error "project name is required"
  else if params.componentName = "" then .error "component name is required"
  else if params.imageURL = "" then .error "image URL is required"
  else .ok ()

/-- `createBaseWorkload`: the owner and the `main` container with the image of the parameters. -/
def createBaseWorkload (workloadName : String) (params : CreateWorkloadParams) : Workload :=
  { apiVersion := "openchoreo.dev/v1alpha1", kind := "Workload", name := workloadName
    owner := ⟨params.projectName, params.componentName⟩
    containers := [("main", ⟨params.imageURL, [], []⟩)], endpoints := [], connections := [] }

/-- `readSchemaFile`. -/
def readSchemaFile (files : Files) (path : String) : Except String String :=
  (files.readFile path).mapError fun err => s!"failed to read schema file {path}: {err}"

/-- The body of the loop of `addEndpointsFromDescriptor`: the endpoint of a descriptor entry, its
schema file read and inlined when it names one. -/
def convertEndpoint (files : Files) (descriptorPath : String) (e : DescriptorEndpoint) :
    Except String WorkloadEndpoint :=
  if e.schemaFile ≠ "" then
    let schemaFilePath := files.resolve descriptorPath e.schemaFile
    match readSchemaFile files schemaFilePath with
    | .ok schemaContent => .ok ⟨e.type, e.port, some ⟨e.type, schemaContent⟩⟩
    | .error err => .error s!"failed to read schema file {schemaFilePath}: {err}"
  else .ok ⟨e.type, e.port, none⟩

/-- The loop of `addEndpointsFromDescriptor`: each endpoint assigned under its name in turn. -/
def addEndpoints (files : Files) (descriptorPath : String) :
    GoMap WorkloadEndpoint → List DescriptorEndpoint → Except String (GoMap WorkloadEndpoint)
  | endpoints, [] => .ok endpoints
  | endpoints, e :: rest =>
    match convertEndpoint files descriptorPath e with
    | .ok endpoint => addEndpoints files descriptorPath (endpoints.set e.name endpoint) rest
    | .error err => .error err

/-- `addEndpointsFromDescriptor`. -/
def addEndpointsFromDescriptor (files : Files) (workload : Workload)
    (descriptor : WorkloadDescriptor) (descriptorPath : String) : Except String Workload :=
  if descriptor.endpoints.isEmpty then .ok workload
  else (addEndpoints files descriptorPath [] descriptor.endpoints).map fun endpoints =>
    { workload with endpoints }

/-- The body of the loop of `addConnectionsFromDescriptor`. -/
def convertConnection (c : DescriptorConnection) : WorkloadConnection :=
  ⟨c.type, c.params, c.env⟩

/-- `addConnectionsFromDescriptor`. -/
def addConnectionsFromDescriptor (workload : Workload) (descriptor : WorkloadDescriptor) :
    Workload :=
  if descriptor.connections.isEmpty then workload
  else { workload with
    connections := descriptor.connections.foldl (fun m c => m.set c.name (convertConnection c)) [] }

/-- `valueFrom != nil && valueFrom.SecretKeyRef != nil`. -/
def hasSecretKeyRef : Option EnvVarSource → Bool
  | some source => source.secretKeyRef.isSome
  | none => false

/-- `valueFrom != nil && valueFrom.Path != ""`, with the path. -/
def sourcePath : Option EnvVarSource → Option String
  | some source => if source.path ≠ "" then some source.path else none
  | none => none

/-- `convertEnvVarSource`. -/
def convertEnvVarSource : Option EnvVarSource → Option EnvVarValueFrom
  | some source => some ⟨source.secretKeyRef⟩
  | none => none

/-- The body of the environment loop of `addConfigurationsFromDescriptor`. -/
def convertEnvVar (envVar : DescriptorEnvVar) : EnvVar :=
  if hasSecretKeyRef envVar.valueFrom then ⟨envVar.name, "", convertEnvVarSource envVar.valueFrom⟩
  else if envVar.value ≠ "" then ⟨envVar.name, envVar.value, none⟩
  else ⟨envVar.name, "", none⟩

/-- The body of the file loop of `addConfigurationsFromDescriptor`: a secret reference first, then
the content of the path, then the inline value. -/
def convertFileVar (files : Files) (descriptorPath : String) (fileVar : DescriptorFileVar) :
    Except String FileVar :=
  if hasSecretKeyRef fileVar.valueFrom then
    .ok ⟨fileVar.name, fileVar.mountPath, "", convertEnvVarSource fileVar.valueFrom⟩
  else match sourcePath fileVar.valueFrom with
    | some path =>
      let filePath := files.resolve descriptorPath path
      match files.readFile filePath with
      | .ok content => .ok ⟨fileVar.name, fileVar.mountPath, content, none⟩
      | .error err => .error s!"failed to read file {filePath}: {err}"
    | none =>
      if fileVar.value ≠ "" then .ok ⟨fileVar.name, fileVar.mountPath, fileVar.value, none⟩
      else .ok ⟨fileVar.name, fileVar.mountPath, "", none⟩

/-- The file loop of `addConfigurationsFromDescriptor`, which stops at the first file it cannot
read. -/
def convertFileVars (files : Files) (descriptorPath : String) :
    List DescriptorFileVar → Except String (List FileVar)
  | [] => .ok []
  | fileVar :: rest =>
    match convertFileVar files descriptorPath fileVar with
    | .ok converted => (convertFileVars files descriptorPath rest).map (converted :: ·)
    | .error err => .error err

/-- `addConfigurationsFromDescriptor`. -/
def addConfigurationsFromDescriptor (files : Files) (workload : Workload)
    (descriptor : WorkloadDescriptor) (descriptorPath : String) : Except String Workload :=
  match workload.containers.get? "main" with
  | none => .error "main container not found in workload"
  | some mainContainer =>
    let mainContainer :=
      if descriptor.env.isEmpty then mainContainer
      else { mainContainer with env := descriptor.env.map convertEnvVar }
    let withFiles : Except String Container :=
      if descriptor.files.isEmpty then .ok mainContainer
      else (convertFileVars files descriptorPath descriptor.files).map fun fileVars =>
        { mainContainer with files := fileVars }
    withFiles.map fun mainContainer =>
      { workload with containers := workload.containers.set "main" mainContainer }

/-- `convertDescriptorToWorkload`. -/
def convertDescriptorToWorkload (files : Files) (descriptor : WorkloadDescriptor)
    (params : CreateWorkloadParams) (descriptorPath : String) : Except String Workload := do
  let workloadName := descriptor.name
  if workloadName = "" then
    throw "workload name must be provided either in params or descriptor metadata"
  let workload := createBaseWorkload workloadName params
  let workload ← (addEndpointsFromDescriptor files workload descriptor descriptorPath).mapError
    fun err => s!"failed to add endpoints: {err}"
  let workload := addConnectionsFromDescriptor workload descriptor
  (addConfigurationsFromDescriptor files workload descriptor descriptorPath).mapError
    fun err => s!"failed to add configurations: {err}"

/-- `ConvertWorkloadDescriptorToWorkloadCR`, given what `readWorkloadDescriptor` returns for the
descriptor's path. -/
def convertWorkloadDescriptorToWorkloadCR (files : Files)
    (readDescriptor : Except String WorkloadDescriptor) (descriptorPath : String)
    (params : CreateWorkloadParams) : Except String Workload := do
  let descriptor ← readDescriptor.mapError fun err => s!"failed to read workload descriptor: {err}"
  (validateConversionParams params).mapError fun err => s!"invalid conversion parameters: {err}"
  (convertDescriptorToWorkload files descriptor params descriptorPath).mapError
    fun err => s!"failed to convert descriptor to workload CR: {err}"

/-- `CreateBasicWorkload`. -/
def createBasicWorkload (params : CreateWorkloadParams) : Except String Workload := do
  (validateConversionParams params).mapError fun err => s!"invalid conversion parameters: {err}"
  let workloadName := params.componentName ++ "-workload"
  pure (createBaseWorkload workloadName params)

/-! ## The loops -/

section Loops

variable {files : Files} {path : String}

/-- An endpoint converts unless it names a schema file that cannot be read. -/
theorem convertEndpoint_ok_iff {e : DescriptorEndpoint} :
    (∃ endpoint, convertEndpoint files path e = .ok endpoint) ↔
      (e.schemaFile ≠ "" → ∃ content, files.readFile (files.resolve path e.schemaFile) = .ok content) := by
  unfold convertEndpoint readSchemaFile
  by_cases hschema : e.schemaFile = ""
  · simp [hschema]
  · simp only [ne_eq, hschema, not_false_eq_true, if_true, true_implies]
    cases files.readFile (files.resolve path e.schemaFile) <;> simp [Except.mapError]

/-- The endpoint loop answers for a name with the last endpoint of that name, and leaves the other
names of the map it starts from as they were. -/
theorem addEndpoints_get? {m m' : GoMap WorkloadEndpoint} {es : List DescriptorEndpoint}
    (h : addEndpoints files path m es = .ok m') (key : String) :
    m'.get? key = (es.reverse.find? (·.name = key)).elim (m.get? key)
      fun e => (convertEndpoint files path e).toOption := by
  induction es generalizing m with
  | nil => cases h; rfl
  | cons e rest ih =>
    simp only [addEndpoints] at h
    split at h
    · rename_i endpoint hendpoint
      rw [ih h, List.reverse_cons, List.find?_append]
      cases rest.reverse.find? (·.name = key) with
      | some e' => rfl
      | none =>
        by_cases he : e.name = key
        · subst he; simp [hendpoint, Except.toOption]
        · simp [he, GoMap.get?_set_ne _ _ (Ne.symm he)]
    · cases h

/-- The endpoint loop keeps each name once. -/
theorem addEndpoints_keys_nodup {m m' : GoMap WorkloadEndpoint} {es : List DescriptorEndpoint}
    (h : addEndpoints files path m es = .ok m') (hm : (m.map (·.1)).Nodup) :
    (m'.map (·.1)).Nodup := by
  induction es generalizing m with
  | nil => cases h; exact hm
  | cons e rest ih =>
    simp only [addEndpoints] at h
    split at h
    · exact ih h (GoMap.nodup_keys_set hm _ _)
    · cases h

/-- The endpoint loop goes through exactly when every endpoint converts. -/
theorem addEndpoints_ok_iff {m : GoMap WorkloadEndpoint} {es : List DescriptorEndpoint} :
    (∃ m', addEndpoints files path m es = .ok m') ↔
      ∀ e ∈ es, ∃ endpoint, convertEndpoint files path e = .ok endpoint := by
  induction es generalizing m with
  | nil => simp [addEndpoints]
  | cons e rest ih =>
    simp only [addEndpoints, List.mem_cons, forall_eq_or_imp]
    cases convertEndpoint files path e <;> simp [ih]

/-- A file converts unless it takes its content from a path that cannot be read. -/
theorem convertFileVar_ok_iff {fileVar : DescriptorFileVar} :
    (∃ converted, convertFileVar files path fileVar = .ok converted) ↔
      (hasSecretKeyRef fileVar.valueFrom = false → ∀ source, sourcePath fileVar.valueFrom = some source →
        ∃ content, files.readFile (files.resolve path source) = .ok content) := by
  unfold convertFileVar
  cases hsecret : hasSecretKeyRef fileVar.valueFrom
  · cases hsource : sourcePath fileVar.valueFrom with
    | none => split_ifs <;> simp
    | some source =>
      rcases hread : files.readFile (files.resolve path source) with err | content <;> simp [hread]
  · simp

/-- A converted file has the descriptor file's name as its key, and a value or a secret
reference, never both. -/
theorem convertFileVar_exclusive {fileVar : DescriptorFileVar} {converted : FileVar}
    (h : convertFileVar files path fileVar = .ok converted) :
    converted.key = fileVar.name ∧ (converted.value = "" ∨ converted.valueFrom = none) ∧
      ∀ valueFrom, converted.valueFrom = some valueFrom → valueFrom.secretRef.isSome := by
  unfold convertFileVar at h
  cases hsecret : hasSecretKeyRef fileVar.valueFrom
  · simp only [hsecret, Bool.false_eq_true, ↓reduceIte] at h
    cases hsource : sourcePath fileVar.valueFrom with
    | some source =>
      rcases hread : files.readFile (files.resolve path source) with err | content <;>
        simp only [hsource, hread, reduceCtorEq, Except.ok.injEq] at h
      subst h
      exact ⟨rfl, .inr rfl, by simp⟩
    | none =>
      simp only [hsource] at h
      split_ifs at h <;> cases h <;> exact ⟨rfl, .inr rfl, by simp⟩
  · simp only [hsecret, ↓reduceIte, Except.ok.injEq] at h
    subst h
    refine ⟨rfl, .inl rfl, fun valueFrom hvalueFrom => ?_⟩
    cases hsource : fileVar.valueFrom with
    | none => simp [hsource, hasSecretKeyRef] at hsecret
    | some source =>
      simp only [hsource, convertEnvVarSource, Option.some.injEq] at hvalueFrom
      simpa [← hvalueFrom, hsource, hasSecretKeyRef] using hsecret

/-- The file loop converts the files in order, stopping at the first it cannot read. -/
theorem convertFileVars_spec {fs : List DescriptorFileVar} {converted : List FileVar}
    (h : convertFileVars files path fs = .ok converted) :
    converted.map FileVar.key = fs.map DescriptorFileVar.name ∧
      ∀ v ∈ converted, ∃ fileVar ∈ fs, convertFileVar files path fileVar = .ok v := by
  induction fs generalizing converted with
  | nil => cases h; simp
  | cons fileVar rest ih =>
    simp only [convertFileVars] at h
    split at h
    · rename_i v hv
      cases hrest : convertFileVars files path rest with
      | error err => simp [hrest, Except.map] at h
      | ok vs =>
        simp only [hrest, Except.map, Except.ok.injEq] at h
        subst h
        obtain ⟨hkeys, hmem⟩ := ih hrest
        refine ⟨by simp [hkeys, (convertFileVar_exclusive hv).1], ?_⟩
        intro w hw
        rcases List.mem_cons.1 hw with rfl | hw
        · exact ⟨fileVar, .head _, hv⟩
        · obtain ⟨f, hf, hfw⟩ := hmem w hw
          exact ⟨f, .tail _ hf, hfw⟩
    · cases h

/-- The file loop goes through exactly when every file converts. -/
theorem convertFileVars_ok_iff {fs : List DescriptorFileVar} :
    (∃ converted, convertFileVars files path fs = .ok converted) ↔
      ∀ fileVar ∈ fs, ∃ converted, convertFileVar files path fileVar = .ok converted := by
  induction fs with
  | nil => simp [convertFileVars]
  | cons fileVar rest ih =>
    simp only [convertFileVars, List.mem_cons, forall_eq_or_imp]
    cases convertFileVar files path fileVar with
    | ok v =>
      rw [← ih]
      cases convertFileVars files path rest <;> simp [Except.map]
    | error err => simp

end Loops

/-- A converted environment variable has the descriptor variable's name as its key, and a value
or a secret reference, never both. -/
theorem convertEnvVar_exclusive (envVar : DescriptorEnvVar) :
    (convertEnvVar envVar).key = envVar.name ∧
      ((convertEnvVar envVar).value = "" ∨ (convertEnvVar envVar).valueFrom = none) ∧
      ∀ valueFrom, (convertEnvVar envVar).valueFrom = some valueFrom →
        valueFrom.secretRef.isSome := by
  unfold convertEnvVar
  split_ifs with hsecret
  · refine ⟨rfl, .inl rfl, fun valueFrom hvalueFrom => ?_⟩
    cases hsource : envVar.valueFrom with
    | none => simp [hsource, hasSecretKeyRef] at hsecret
    | some source =>
      simp only [hsource, convertEnvVarSource, Option.some.injEq] at hvalueFrom
      simpa [← hvalueFrom, hsource, hasSecretKeyRef] using hsecret
  all_goals exact ⟨rfl, .inr rfl, by simp⟩

/-! ## The conversion as a whole -/

section Conversion

variable {files : Files} {path : String} {d : WorkloadDescriptor} {params : CreateWorkloadParams}
  {w : Workload}

/-- The connections of a descriptor as the conversion writes them. -/
def connectionMap (connections : List DescriptorConnection) : GoMap WorkloadConnection :=
  connections.foldl (fun m c => m.set c.name (convertConnection c)) []

/-- With no endpoints the shortcut of `addEndpointsFromDescriptor` agrees with the loop. -/
theorem addEndpointsFromDescriptor_eq {workload : Workload} (hnone : workload.endpoints = []) :
    addEndpointsFromDescriptor files workload d path =
      (addEndpoints files path [] d.endpoints).map fun endpoints => { workload with endpoints } := by
  unfold addEndpointsFromDescriptor
  split_ifs with hempty
  · rw [List.isEmpty_iff.1 hempty]
    cases workload
    simp_all [addEndpoints, Except.map]
  · rfl

/-- With no connections the shortcut of `addConnectionsFromDescriptor` agrees with the fold. -/
theorem addConnectionsFromDescriptor_eq {workload : Workload} (hnone : workload.connections = []) :
    addConnectionsFromDescriptor workload d =
      { workload with connections := connectionMap d.connections } := by
  unfold addConnectionsFromDescriptor
  split_ifs with hempty
  · rw [List.isEmpty_iff.1 hempty]
    cases workload
    simp_all [connectionMap]
  · rfl

/-- On a workload whose only container is an empty `main`, `addConfigurationsFromDescriptor` fills
it with the converted variables and files; the shortcuts for no variables and no files agree with
the loops. -/
theorem addConfigurationsFromDescriptor_eq {workload : Workload} {image : String}
    (hmain : workload.containers = [("main", ⟨image, [], []⟩)]) :
    addConfigurationsFromDescriptor files workload d path =
      (convertFileVars files path d.files).map fun fileVars =>
        { workload with containers := [("main", ⟨image, d.env.map convertEnvVar, fileVars⟩)] } := by
  have hget : workload.containers.get? "main" = some ⟨image, [], []⟩ := by
    rw [hmain]; exact GoMap.get?_set_self [] "main" _
  have hset : ∀ c : Container, workload.containers.set "main" c = [("main", c)] := by
    intro c; rw [hmain]; rfl
  unfold addConfigurationsFromDescriptor
  rw [hget]
  dsimp only
  rcases hconv : convertFileVars files path d.files with err | fileVars <;>
    by_cases henv : d.env.isEmpty <;> by_cases hfiles : d.files.isEmpty <;>
    simp_all [List.isEmpty_iff, convertFileVars, Except.map]

/-- A conversion succeeds exactly when the descriptor has a name, every endpoint converts and
every file converts; its result is the base workload of that name, with the endpoints, the
connections, and the main container holding the converted variables and files. -/
theorem convertDescriptorToWorkload_eq_ok :
    convertDescriptorToWorkload files d params path = .ok w ↔
      d.name ≠ "" ∧ ∃ endpoints fileVars, addEndpoints files path [] d.endpoints = .ok endpoints ∧
        convertFileVars files path d.files = .ok fileVars ∧
        w = { createBaseWorkload d.name params with
              containers := [("main", ⟨params.imageURL, d.env.map convertEnvVar, fileVars⟩)]
              endpoints := endpoints, connections := connectionMap d.connections } := by
  unfold convertDescriptorToWorkload
  by_cases hname : d.name = ""
  · simp [hname, throw, throwThe, MonadExceptOf.throw, bind, Except.bind]
  let base := createBaseWorkload d.name params
  have hadd : addEndpointsFromDescriptor files base d path =
      (addEndpoints files path [] d.endpoints).map fun endpoints => { base with endpoints } :=
    addEndpointsFromDescriptor_eq rfl
  simp only [hname, if_false, ne_eq, not_false_eq_true, true_and, bind, Except.bind, pure,
    Except.pure]
  rw [hadd]
  rcases hend : addEndpoints files path [] d.endpoints with err | endpoints
  · simp [Except.map, Except.mapError]
  have hconnect : addConnectionsFromDescriptor { base with endpoints } d =
      { base with endpoints, connections := connectionMap d.connections } :=
    addConnectionsFromDescriptor_eq rfl
  have hconfigure : addConfigurationsFromDescriptor files
      { base with endpoints, connections := connectionMap d.connections } d path =
      (convertFileVars files path d.files).map fun fileVars =>
        { base with endpoints, connections := connectionMap d.connections
                    containers := [("main", ⟨params.imageURL, d.env.map convertEnvVar, fileVars⟩)] } :=
    addConfigurationsFromDescriptor_eq rfl
  simp only [Except.map, Except.mapError, hconnect, hconfigure]
  rcases hfiles : convertFileVars files path d.files with err | fileVars
  · simp
  · simp [eq_comm]

/-- `ConvertWorkloadDescriptorToWorkloadCR` succeeds exactly when the descriptor was read, the
parameters pass their check, and the descriptor converts. -/
theorem convertWorkloadDescriptorToWorkloadCR_eq_ok {read : Except String WorkloadDescriptor} :
    convertWorkloadDescriptorToWorkloadCR files read path params = .ok w ↔
      ∃ descriptor, read = .ok descriptor ∧ validateConversionParams params = .ok () ∧
        convertDescriptorToWorkload files descriptor params path = .ok w := by
  unfold convertWorkloadDescriptorToWorkloadCR
  rcases read with err | descriptor
  · simp [bind, Except.bind, Except.mapError]
  rcases hvalid : validateConversionParams params with err | ⟨⟩
  · simp [bind, Except.bind, Except.mapError, hvalid]
  rcases hconvert : convertDescriptorToWorkload files descriptor params path with err | converted <;>
    simp [bind, Except.bind, Except.mapError, hconvert]

theorem validateConversionParams_eq_ok :
    validateConversionParams params = .ok () ↔
      params.organizationName ≠ "" ∧ params.projectName ≠ "" ∧ params.componentName ≠ "" ∧
        params.imageURL ≠ "" := by
  unfold validateConversionParams
  split_ifs <;> simp_all

/-! ## What a conversion gives -/

/-- Files beside `svc/workload.yaml`: an OpenAPI schema and a configuration file. -/
def sampleFiles : Files where
  resolve _ relative := "svc/" ++ relative
  readFile filePath :=
    if filePath = "svc/openapi.yaml" then .ok "openapi: 3.0.0"
    else if filePath = "svc/app.conf" then .ok "mode=prod"
    else .error "no such file or directory"

/-- A descriptor with two endpoints named `http`, a connection, a variable that names a secret
and also has a value, a plain variable, and a file read from a path. -/
def sampleDescriptor : WorkloadDescriptor where
  name := "reading-list"
  endpoints := [⟨"http", 8080, "REST", "openapi.yaml"⟩, ⟨"http", 9090, "REST", ""⟩]
  connections := [⟨"db", "database", [("name", "books")], [⟨"DB_URL", "url"⟩]⟩]
  env := [⟨"API_KEY", "inline", some ⟨some ⟨"secrets", "api-key"⟩, ""⟩⟩, ⟨"LOG_LEVEL", "info", none⟩]
  files := [⟨"app.conf", "/etc/app", "", some ⟨none, "app.conf"⟩⟩]

/-- Parameters for the sample descriptor. -/
def sampleParams : CreateWorkloadParams :=
  ⟨"acme", "shop", "reading-list", "registry/reading-list:v1"⟩

/-- The Workload CR the sample descriptor converts to: the second `http` endpoint, and the secret
reference without the inline value. -/
def sampleWorkload : Workload where
  apiVersion := "openchoreo.dev/v1alpha1"
  kind := "Workload"
  name := "reading-list"
  owner := ⟨"shop", "reading-list"⟩
  containers := [("main", ⟨"registry/reading-list:v1",
    [⟨"API_KEY", "", some ⟨some ⟨"secrets", "api-key"⟩⟩⟩, ⟨"LOG_LEVEL", "info", none⟩],
    [⟨"app.conf", "/etc/app", "mode=prod", none⟩]⟩)]
  endpoints := [("http", ⟨"REST", 9090, none⟩)]
  connections := [("db", ⟨"database", [("name", "books")], [⟨"DB_URL", "url"⟩]⟩)]

variable {read : Except String WorkloadDescriptor}

/-- The descriptor names the Workload but never its owner or what it runs: a successful conversion
has the validated parameters' project and component as its owner and one container, `main`, with
the parameters' image. -/
theorem convertWorkloadDescriptorToWorkloadCR_keeps_identity
    (h : convertWorkloadDescriptorToWorkloadCR files read path params = .ok w) :
    ∃ descriptor, read = .ok descriptor ∧ w.name = descriptor.name ∧ w.name ≠ "" ∧
      w.apiVersion = "openchoreo.dev/v1alpha1" ∧ w.kind = "Workload" ∧
      w.owner = ⟨params.projectName, params.componentName⟩ ∧
      w.containers.map (·.1) = ["main"] ∧ w.containers.map (·.2.image) = [params.imageURL] := by
  obtain ⟨descriptor, hread, -, hconvert⟩ := convertWorkloadDescriptorToWorkloadCR_eq_ok.1 h
  obtain ⟨hname, -, -, -, -, rfl⟩ := convertDescriptorToWorkload_eq_ok.1 hconvert
  exact ⟨descriptor, hread, rfl, hname, rfl, rfl, rfl, rfl, rfl⟩

theorem convertWorkloadDescriptorToWorkloadCR_keeps_identity_sample :
    convertWorkloadDescriptorToWorkloadCR sampleFiles (.ok sampleDescriptor) "svc/workload.yaml"
        sampleParams = .ok sampleWorkload ∧
      ∃ descriptor, (.ok sampleDescriptor : Except String WorkloadDescriptor) = .ok descriptor ∧
        sampleWorkload.name = descriptor.name ∧ sampleWorkload.name ≠ "" ∧
        sampleWorkload.apiVersion = "openchoreo.dev/v1alpha1" ∧ sampleWorkload.kind = "Workload" ∧
        sampleWorkload.owner = ⟨sampleParams.projectName, sampleParams.componentName⟩ ∧
        sampleWorkload.containers.map (·.1) = ["main"] ∧
        sampleWorkload.containers.map (·.2.image) = [sampleParams.imageURL] :=
  have h : convertWorkloadDescriptorToWorkloadCR sampleFiles (.ok sampleDescriptor)
      "svc/workload.yaml" sampleParams = .ok sampleWorkload := rfl
  ⟨h, convertWorkloadDescriptorToWorkloadCR_keeps_identity h⟩

/-- No variable or file of a converted Workload has both a value and a `valueFrom`, and every
`valueFrom` it has is a secret reference; the variables and files keep the descriptor's names and
order. A variable that names a secret loses its inline value, and one that names only a path gets
neither. -/
theorem convertWorkloadDescriptorToWorkloadCR_value_or_valueFrom
    (h : convertWorkloadDescriptorToWorkloadCR files read path params = .ok w) :
    ∃ descriptor main, read = .ok descriptor ∧ w.containers = [("main", main)] ∧
      main.env.map (·.key) = descriptor.env.map (·.name) ∧
      main.files.map (·.key) = descriptor.files.map (·.name) ∧
      (∀ v ∈ main.env, (v.value = "" ∨ v.valueFrom = none) ∧
        ∀ valueFrom, v.valueFrom = some valueFrom → valueFrom.secretRef.isSome) ∧
      (∀ f ∈ main.files, (f.value = "" ∨ f.valueFrom = none) ∧
        ∀ valueFrom, f.valueFrom = some valueFrom → valueFrom.secretRef.isSome) := by
  obtain ⟨descriptor, hread, -, hconvert⟩ := convertWorkloadDescriptorToWorkloadCR_eq_ok.1 h
  obtain ⟨-, -, fileVars, -, hfiles, rfl⟩ := convertDescriptorToWorkload_eq_ok.1 hconvert
  obtain ⟨hkeys, hmem⟩ := convertFileVars_spec hfiles
  refine ⟨descriptor, _, hread, rfl, by simp [Function.comp_def, convertEnvVar_exclusive], hkeys,
    ?_, fun f hf => ?_⟩
  · simp only [List.mem_map]
    rintro v ⟨envVar, -, rfl⟩
    exact (convertEnvVar_exclusive envVar).2
  · obtain ⟨fileVar, -, hconv⟩ := hmem f hf
    exact (convertFileVar_exclusive hconv).2

theorem convertWorkloadDescriptorToWorkloadCR_value_or_valueFrom_sample :
    convertWorkloadDescriptorToWorkloadCR sampleFiles (.ok sampleDescriptor) "svc/workload.yaml"
        sampleParams = .ok sampleWorkload ∧
      ∃ descriptor main, (.ok sampleDescriptor : Except String WorkloadDescriptor) = .ok descriptor ∧
        sampleWorkload.containers = [("main", main)] ∧
        main.env.map (·.key) = descriptor.env.map (·.name) ∧
        main.files.map (·.key) = descriptor.files.map (·.name) ∧
        (∀ v ∈ main.env, (v.value = "" ∨ v.valueFrom = none) ∧
          ∀ valueFrom, v.valueFrom = some valueFrom → valueFrom.secretRef.isSome) ∧
        (∀ f ∈ main.files, (f.value = "" ∨ f.valueFrom = none) ∧
          ∀ valueFrom, f.valueFrom = some valueFrom → valueFrom.secretRef.isSome) :=
  have h : convertWorkloadDescriptorToWorkloadCR sampleFiles (.ok sampleDescriptor)
      "svc/workload.yaml" sampleParams = .ok sampleWorkload := rfl
  ⟨h, convertWorkloadDescriptorToWorkloadCR_value_or_valueFrom h⟩

/-- Endpoints and connections go into maps by name, the last of a name winning: the converted
Workload answers for a name with the last endpoint or connection of that name in the descriptor,
and holds each name once. -/
theorem convertWorkloadDescriptorToWorkloadCR_last_wins
    (h : convertWorkloadDescriptorToWorkloadCR files read path params = .ok w) :
    ∃ descriptor, read = .ok descriptor ∧
      (∀ key, w.endpoints.get? key = (descriptor.endpoints.reverse.find? (·.name = key)).bind
        fun e => (convertEndpoint files path e).toOption) ∧
      (∀ key, w.connections.get? key =
        (descriptor.connections.reverse.find? (·.name = key)).map convertConnection) ∧
      (w.endpoints.map (·.1)).Nodup ∧ (w.connections.map (·.1)).Nodup := by
  obtain ⟨descriptor, hread, -, hconvert⟩ := convertWorkloadDescriptorToWorkloadCR_eq_ok.1 h
  obtain ⟨-, endpoints, -, hend, -, rfl⟩ := convertDescriptorToWorkload_eq_ok.1 hconvert
  refine ⟨descriptor, hread, fun key => ?_, fun key => ?_,
    addEndpoints_keys_nodup hend List.nodup_nil,
    GoMap.keys_nodup_foldl_set _ _ _ List.nodup_nil⟩
  · rw [addEndpoints_get? hend]
    cases descriptor.endpoints.reverse.find? (·.name = key) <;> rfl
  · simp only [connectionMap, GoMap.get?_foldl_set]
    cases descriptor.connections.reverse.find? (·.name = key) <;> rfl

theorem convertWorkloadDescriptorToWorkloadCR_last_wins_sample :
    convertWorkloadDescriptorToWorkloadCR sampleFiles (.ok sampleDescriptor) "svc/workload.yaml"
        sampleParams = .ok sampleWorkload ∧
      ∃ descriptor, (.ok sampleDescriptor : Except String WorkloadDescriptor) = .ok descriptor ∧
        (∀ key, sampleWorkload.endpoints.get? key =
          (descriptor.endpoints.reverse.find? (·.name = key)).bind
            fun e => (convertEndpoint sampleFiles "svc/workload.yaml" e).toOption) ∧
        (∀ key, sampleWorkload.connections.get? key =
          (descriptor.connections.reverse.find? (·.name = key)).map convertConnection) ∧
        (sampleWorkload.endpoints.map (·.1)).Nodup ∧
        (sampleWorkload.connections.map (·.1)).Nodup :=
  have h : convertWorkloadDescriptorToWorkloadCR sampleFiles (.ok sampleDescriptor)
      "svc/workload.yaml" sampleParams = .ok sampleWorkload := rfl
  ⟨h, convertWorkloadDescriptorToWorkloadCR_last_wins h⟩

/-- A conversion succeeds exactly when the descriptor was read, the four parameters are non-empty,
the descriptor has a name, and every schema file an endpoint names and every path a file takes its
content from (when it names no secret) can be read. The "main container not found" error of
`addConfigurationsFromDescriptor` is never raised. -/
theorem convertWorkloadDescriptorToWorkloadCR_succeeds_iff :
    (∃ w, convertWorkloadDescriptorToWorkloadCR files read path params = .ok w) ↔
      ∃ descriptor, read = .ok descriptor ∧
        params.organizationName ≠ "" ∧ params.projectName ≠ "" ∧ params.componentName ≠ "" ∧
        params.imageURL ≠ "" ∧ descriptor.name ≠ "" ∧
        (∀ e ∈ descriptor.endpoints, e.schemaFile ≠ "" →
          ∃ content, files.readFile (files.resolve path e.schemaFile) = .ok content) ∧
        (∀ f ∈ descriptor.files, hasSecretKeyRef f.valueFrom = false →
          ∀ source, sourcePath f.valueFrom = some source →
            ∃ content, files.readFile (files.resolve path source) = .ok content) := by
  simp only [convertWorkloadDescriptorToWorkloadCR_eq_ok, convertDescriptorToWorkload_eq_ok,
    validateConversionParams_eq_ok]
  constructor
  · rintro ⟨w, descriptor, hread, hparams, hname, endpoints, fileVars, hend, hfiles, -⟩
    exact ⟨descriptor, hread, hparams.1, hparams.2.1, hparams.2.2.1, hparams.2.2.2, hname,
      fun e he => convertEndpoint_ok_iff.1 (addEndpoints_ok_iff.1 ⟨_, hend⟩ e he),
      fun f hf => convertFileVar_ok_iff.1 (convertFileVars_ok_iff.1 ⟨_, hfiles⟩ f hf)⟩
  · rintro ⟨descriptor, hread, horg, hproj, hcomp, himage, hname, hschemas, hpaths⟩
    obtain ⟨endpoints, hend⟩ :=
      addEndpoints_ok_iff.2 fun e he => convertEndpoint_ok_iff.2 (hschemas e he)
    obtain ⟨fileVars, hfiles⟩ :=
      convertFileVars_ok_iff.2 fun f hf => convertFileVar_ok_iff.2 (hpaths f hf)
    exact ⟨_, descriptor, hread, ⟨horg, hproj, hcomp, himage⟩, hname, endpoints, fileVars, hend,
      hfiles, rfl⟩

end Conversion

end Synth
end OpenChoreo
