import OpenChoreo.Api.Deployments

/-!
# The HTTP handlers of the component endpoints

`handlers/components.go`: `CreateComponent`, `PromoteComponent` and `UpdateComponentBinding` check
their path parameters, prepare the body (`PromoteComponent` trims it, `UpdateComponentBinding`
validates it) and call the service. A service error becomes a reply through a table of sentinels
that each handler lists in its own order; an error whose chain ends in none of them is a 500.

The request bodies arrive decoded; the "Invalid request body" replies to bodies that are not JSON
are left out.

Two of the replies are worth noting. `PromoteComponent` without a binding in the source environment
fails in the service with `ErrBindingNotFound`, which the handler does not list (it lists
`ErrReleaseBindingNotFound`, which the service never returns), so the client gets a 500. And
`CreateComponent` of a name another project uses fails at the API server's `Create`, which is not
`ErrComponentAlreadyExists` either, so the client gets a 500 where the same name in the same project
gets a 409.
-/

namespace OpenChoreo
namespace Api

/-! ## Replies -/

/-- The error codes of `services/errors.go` that the three handlers send. -/
def codeProjectNotFound : String := "PROJECT_NOT_FOUND"
/-- `CodeComponentExists`. -/
def codeComponentExists : String := "COMPONENT_EXISTS"
/-- `CodeComponentNotFound`. -/
def codeComponentNotFound : String := "COMPONENT_NOT_FOUND"
/-- `CodeBindingNotFound`. -/
def codeBindingNotFound : String := "BINDING_NOT_FOUND"
/-- `CodeDeploymentPipelineNotFound`. -/
def codeDeploymentPipelineNotFound : String := "DEPLOYMENT_PIPELINE_NOT_FOUND"
/-- `CodeInvalidPromotionPath`. -/
def codeInvalidPromotionPath : String := "INVALID_PROMOTION_PATH"
/-- `CodeReleaseBindingNotFound`. -/
def codeReleaseBindingNotFound : String := "RELEASE_BINDING_NOT_FOUND"
/-- `CodeInternalError`. -/
def codeInternalError : String := "INTERNAL_ERROR"

/-- What `writeErrorResponse` puts in the body: the message and the code. -/
structure ErrorBody where
  message : String
  code : String
  deriving DecidableEq, Repr

/-- A handler's reply: the HTTP status, and the body (the service's result, or an error). -/
structure Reply (α : Type) where
  status : Nat
  body : Except ErrorBody α

/-- The reply to a service error: the first entry of the handler's table whose sentinel ends the
error's chain gives the status, the message and the code; any other error is an internal error. -/
def errorReply {α : Type} (table : List (Sentinel × Nat × String × String)) (err : GoError) :
    Reply α :=
  match table.find? fun entry => err.isSentinel entry.1 with
  | some (_, status, message, code) => ⟨status, .error ⟨message, code⟩⟩
  | none => ⟨500, .error ⟨"Internal server error", codeInternalError⟩⟩

/-- An error whose chain ends in no sentinel of the table is an internal error. -/
theorem errorReply_of_forall_not {α : Type} {table : List (Sentinel × Nat × String × String)}
    {err : GoError} (h : ∀ entry ∈ table, err.isSentinel entry.1 = false) :
    (errorReply table err : Reply α) = ⟨500, .error ⟨"Internal server error", codeInternalError⟩⟩ := by
  have : table.find? (fun entry => err.isSentinel entry.1) = none :=
    List.find?_eq_none.2 fun entry hentry => by simp [h entry hentry]
  simp [errorReply, this]

namespace Handler

/-- `Handler.CreateComponent`, with the times the service's call reads. -/
def createComponent (s : Store) (orgName projectName : String) (req : CreateComponentRequest)
    (createdAt now : Int) : Reply ComponentResponse × Store :=
  if orgName == "" || projectName == "" then
    (⟨400, .error ⟨"Organization name and project name are required", "INVALID_PARAMS"⟩⟩, s)
  else
    match Api.createComponent s orgName projectName req createdAt now with
    | .ok (component, s') => (⟨201, .ok component⟩, s')
    | .error err =>
      (errorReply [(.projectNotFound, 404, "Project not found", codeProjectNotFound),
        (.componentAlreadyExists, 409, "Component already exists", codeComponentExists)] err, s)

/-- `Handler.PromoteComponent`, with the range orders the service's call takes. -/
def promoteComponent (orders : Nat → RangeOrder) (defaultPipeline : String) (s : Store)
    (orgName projectName componentName : String) (req : PromoteComponentRequest) :
    Reply (List BindingResponse) × Store :=
  if orgName == "" || projectName == "" || componentName == "" then
    (⟨400, .error ⟨"Organization name, project name, and component name are required",
      "INVALID_PARAMS"⟩⟩, s)
  else
    let promoteReq : PromoteComponentPayload := ⟨req.sanitize, componentName, projectName, orgName⟩
    let (result, s') := Api.promoteComponent orders defaultPipeline s promoteReq
    match result with
    | .ok bindings => (⟨200, .ok bindings⟩, s')
    | .error err =>
      (errorReply [(.projectNotFound, 404, "Project not found", codeProjectNotFound),
        (.componentNotFound, 404, "Component not found", codeComponentNotFound),
        (.deploymentPipelineNotFound, 404, "Deployment pipeline not found",
          codeDeploymentPipelineNotFound),
        (.invalidPromotionPath, 400, "Invalid promotion path", codeInvalidPromotionPath),
        (.releaseBindingNotFound, 404, "Source release binding not found",
          codeReleaseBindingNotFound)] err, s')

/-- `Handler.UpdateComponentBinding`. -/
def updateComponentBinding (s : Store) (orgName projectName componentName bindingName : String)
    (req : UpdateBindingRequest) : Reply BindingResponse × Store :=
  if orgName == "" || projectName == "" || componentName == "" || bindingName == "" then
    (⟨400, .error ⟨"Organization name, project name, component name, and binding name are required",
      "INVALID_PARAMS"⟩⟩, s)
  else
    match req.validate with
    | .error err => (⟨400, .error ⟨err.text, "INVALID_REQUEST"⟩⟩, s)
    | .ok () =>
      match Api.updateComponentBinding s orgName projectName componentName bindingName req with
      | .ok (binding, s') => (⟨200, .ok binding⟩, s')
      | .error err =>
        (errorReply [(.projectNotFound, 404, "Project not found", codeProjectNotFound),
          (.componentNotFound, 404, "Component not found", codeComponentNotFound),
          (.bindingNotFound, 404, "Binding not found", codeBindingNotFound)] err, s)

end Handler

/-! ## Replies to a name or a binding that is not where the handler expects it -/

section Replies

variable {s : Store} {orgName projectName componentName : String}

/-- `CreateComponent` of a name the organization already uses leaves the store as it is; the reply
is a 409 when the Component of that name is in the same project, and a 500 when it is in another
one, whose `Create` fails with an error no entry of the table names. -/
theorem createComponent_taken_name_reply {req : CreateComponentRequest} {createdAt now : Int}
    {project : Project} {existing : Component} (hparams : orgName ≠ "" ∧ projectName ≠ "")
    (hproject : s.projects.get? (orgName, projectName) = some project)
    (hexisting : s.components.get? (orgName, req.sanitize.name) = some existing) :
    Handler.createComponent s orgName projectName req createdAt now =
      (if existing.projectName = projectName then
        ⟨409, .error ⟨"Component already exists", codeComponentExists⟩⟩
      else ⟨500, .error ⟨"Internal server error", codeInternalError⟩⟩, s) := by
  have hverify := verifyProject_eq_ok.2 ⟨project, hproject⟩
  have hparams' : (orgName == "" || projectName == "") = false := by simp [hparams.1, hparams.2]
  by_cases hsame : existing.projectName = projectName
  · have hexists := componentExists_iff.2 ⟨existing, hexisting, hsame⟩
    simp [Handler.createComponent, Api.createComponent, hparams', hverify, hexists, hsame,
      errorReply, bind, Except.bind, throw, throwThe, MonadExceptOf.throw]
  · have hexists : componentExists s orgName projectName req.sanitize.name = false := by
      rw [Bool.eq_false_iff]
      intro h
      obtain ⟨c, hc, hproj⟩ := componentExists_iff.1 h
      rw [hexisting] at hc
      cases hc
      exact hsame hproj
    have htaken := List.mem_map.2 ⟨existing, (Objects.get?_eq_some.1 hexisting).1,
      (Objects.get?_eq_some.1 hexisting).2⟩
    obtain ⟨err, herr⟩ : ∃ err, createComponentResources (createError s) orgName projectName
        req.sanitize = .error err := createComponentResources_taken htaken
    simp only [Handler.createComponent, Api.createComponent, hparams', hverify, hexists, herr,
      hsame, bind, Except.bind, if_false, Bool.false_eq_true, throw, throwThe, MonadExceptOf.throw,
      pure, Except.pure]
    rw [errorReply_of_forall_not]
    simp [GoError.isSentinel]

/-- `shop` asks for a component `invoices`, the name of a component of `billing`. -/
theorem createComponent_taken_name_reply_invoices :
    ("acme" ≠ "" ∧ "shop" ≠ "") ∧
      sampleStore.projects.get? ("acme", "shop") = some ⟨"shop", "acme", ""⟩ ∧
      sampleStore.components.get? ("acme", (CreateComponentRequest.sanitize
        ⟨" invoices", "", "", "Service", ⟨"", "", "", "", []⟩⟩).name) =
        some (sampleComponent "billing" "invoices") ∧
      Handler.createComponent sampleStore "acme" "shop"
          ⟨" invoices", "", "", "Service", ⟨"", "", "", "", []⟩⟩ 1700000000000000000
          1700000001000000000 =
        (if (sampleComponent "billing" "invoices").projectName = "shop" then
          ⟨409, .error ⟨"Component already exists", codeComponentExists⟩⟩
        else ⟨500, .error ⟨"Internal server error", codeInternalError⟩⟩, sampleStore) :=
  have hparams : "acme" ≠ "" ∧ "shop" ≠ "" := by decide
  have hproject : sampleStore.projects.get? ("acme", "shop") = some ⟨"shop", "acme", ""⟩ := rfl
  have hexisting : sampleStore.components.get? ("acme", (CreateComponentRequest.sanitize
      ⟨" invoices", "", "", "Service", ⟨"", "", "", "", []⟩⟩).name) =
      some (sampleComponent "billing" "invoices") := rfl
  ⟨hparams, hproject, hexisting, createComponent_taken_name_reply hparams hproject hexisting⟩

/-- `PromoteComponent` of a component with no binding in the source environment, along a step the
pipeline allows, leaves the store as it is and replies 500: the service fails with
`ErrBindingNotFound`, which the handler's table does not list. -/
theorem promoteComponent_source_missing_reply {orders : Nat → RangeOrder} {defaultPipeline : String}
    {req : PromoteComponentRequest} {pipeline : DeploymentPipeline} {component : Component}
    {kind : BindingKind} (hparams : orgName ≠ "" ∧ projectName ≠ "" ∧ componentName ≠ "")
    (hpipeline : PipelineOf defaultPipeline s orgName projectName pipeline)
    (hallow : allowsPromotion pipeline req.sanitize.sourceEnvironment
      req.sanitize.targetEnvironment = true)
    (hcomponent : ComponentIn s orgName projectName componentName component)
    (hkind : BindingKind.ofComponentType component.type = some kind)
    (hsource : s.bindingIn (kind, orgName, componentName, req.sanitize.sourceEnvironment) = none) :
    Handler.promoteComponent orders defaultPipeline s orgName projectName componentName req =
      (⟨500, .error ⟨"Internal server error", codeInternalError⟩⟩, s) := by
  let payload : PromoteComponentPayload := ⟨req.sanitize, componentName, projectName, orgName⟩
  obtain ⟨err, herr, hcause⟩ : ∃ err, createOrUpdateTargetBinding s payload component.type =
      .error err ∧ err.cause = .sentinel .bindingNotFound :=
    createOrUpdateTargetBinding_source_missing hkind hsource
  have hpath : validatePromotionPath defaultPipeline s payload.orgName payload.projectName
      payload.sourceEnvironment payload.targetEnvironment = .ok () :=
    validatePromotionPath_eq_ok.2 ⟨pipeline, hpipeline, hallow⟩
  have hpromote : promoteTargetBinding defaultPipeline s payload =
      .error (err.wrap "failed to create target binding: ") := by
    rw [promoteTargetBinding_eq_of_checks hpath hcomponent, herr]
    rfl
  have hparams' : (orgName == "" || projectName == "" || componentName == "") = false := by
    simp [hparams.1, hparams.2.1, hparams.2.2]
  simp only [Handler.promoteComponent, hparams', Bool.false_eq_true, if_false, Api.promoteComponent,
    show (⟨req.sanitize, componentName, projectName, orgName⟩ : PromoteComponentPayload) = payload
      from rfl, hpromote]
  rw [errorReply_of_forall_not]
  simp [GoError.isSentinel, hcause]

/-- `cart` has no binding in staging to promote to production. -/
theorem promoteComponent_source_missing_reply_staging :
    ("acme" ≠ "" ∧ "shop" ≠ "" ∧ "cart" ≠ "") ∧
      PipelineOf "default" sampleStore "acme" "shop" samplePipeline ∧
      allowsPromotion samplePipeline (PromoteComponentRequest.sanitize ⟨"staging", "production"⟩).sourceEnvironment
        (PromoteComponentRequest.sanitize ⟨"staging", "production"⟩).targetEnvironment = true ∧
      ComponentIn sampleStore "acme" "shop" "cart" (sampleComponent "shop" "cart") ∧
      BindingKind.ofComponentType (sampleComponent "shop" "cart").type = some .service ∧
      sampleStore.bindingIn (.service, "acme", "cart",
        (PromoteComponentRequest.sanitize ⟨"staging", "production"⟩).sourceEnvironment) = none ∧
      Handler.promoteComponent (fun _ => .listed) "default" sampleStore "acme" "shop" "cart"
          ⟨"staging", "production"⟩ =
        (⟨500, .error ⟨"Internal server error", codeInternalError⟩⟩, sampleStore) :=
  have hparams : "acme" ≠ "" ∧ "shop" ≠ "" ∧ "cart" ≠ "" := by decide
  have hpipeline : PipelineOf "default" sampleStore "acme" "shop" samplePipeline := ⟨_, rfl, rfl⟩
  have hcomponent : ComponentIn sampleStore "acme" "shop" "cart" (sampleComponent "shop" "cart") :=
    ⟨⟨_, rfl⟩, rfl, rfl⟩
  have hallow : allowsPromotion samplePipeline
      (PromoteComponentRequest.sanitize ⟨"staging", "production"⟩).sourceEnvironment
      (PromoteComponentRequest.sanitize ⟨"staging", "production"⟩).targetEnvironment = true := rfl
  have hsource : sampleStore.bindingIn (.service, "acme", "cart",
      (PromoteComponentRequest.sanitize ⟨"staging", "production"⟩).sourceEnvironment) = none := rfl
  ⟨hparams, hpipeline, hallow, hcomponent, rfl, hsource,
    promoteComponent_source_missing_reply hparams hpipeline hallow hcomponent rfl hsource⟩

end Replies

end Api
end OpenChoreo
