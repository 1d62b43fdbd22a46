import OpenChoreo.Api.Requests

/-!
# Looking up and creating components

The component reads of `component_service.go` that every operation starts with: the project check
(`ProjectService.GetProject`, whose source is not among the sources, and the wrapping its callers
give it), `GetComponent` and `componentExists`; and `CreateComponent`, which stores the Component that
`createComponentResources` builds.

`GetComponent` is modelled with no additional resources, as every caller here passes none. The
lookups of a component go by its namespace and name alone, and a component found under another
project counts as missing: `GetComponent` then fails with `ErrComponentNotFound` and `componentExists`
answers false. So `CreateComponent` of a name that another project already uses passes the existence
check and fails at the API server's `Create`, with an error that is not `ErrComponentAlreadyExists`.

What the reads report of a created component: `createComponent_then_read` compares them with the
reply, whose creation time is the time the reply was built and not the timestamp the API server
stamped, and `createComponent_reports_buildConfig` follows the build configuration through the
store, where one with a repository and no template is kept in a workflow that no read reports.
-/

namespace OpenChoreo
namespace Api

/-! ## Projects and components -/

/-- Modelled from the spec: `ProjectService.GetProject` is not among the sources. A project is a
record identified by its name in the organization's namespace; the lookup returns it, or
`ErrProjectNotFound`, the error its callers test for. -/
def getProject (s : Store) (orgName projectName : String) : Except GoError Project :=
  match s.projects.get? (orgName, projectName) with
  | some project => .ok project
  | none => .error (.ofSentinel .projectNotFound)

/-- The project check that opens `CreateComponent`, `GetComponent`, `UpdateComponentBinding` and
`CreateComponentWorkload`: `ErrProjectNotFound` is passed on as it is, any other error wrapped. -/
def verifyProject (s : Store) (orgName projectName : String) : Except GoError Unit :=
  match getProject s orgName projectName with
  | .ok _ => .ok ()
  | .error err =>
    .error (if err.isSentinel .projectNotFound then .ofSentinel .projectNotFound
      else err.wrap "failed to verify project: ")

/-- `GetComponent` with no additional resources: the Component under the namespace and name, which
must belong to the project. -/
def getComponent (s : Store) (orgName projectName componentName : String) :
    Except GoError ComponentResponse := do
  verifyProject s orgName projectName
  match s.components.get? (orgName, componentName) with
  | none => .error (.ofSentinel .componentNotFound)
  | some component =>
    if component.projectName ≠ projectName then .error (.ofSentinel .componentNotFound)
    else .ok (toComponentResponse component)

/-- `componentExists`: a Component under the namespace and name that belongs to the project. Its
error branch is a transient fault of `Get` and is left out. -/
def componentExists (s : Store) (orgName projectName componentName : String) : Bool :=
  match s.components.get? (orgName, componentName) with
  | none => false
  | some component => component.projectName == projectName

/-- The project and the component an operation works on, as the store holds them. -/
def ComponentIn (s : Store) (orgName projectName componentName : String) (component : Component) :
    Prop :=
  (∃ project, s.projects.get? (orgName, projectName) = some project) ∧
    s.components.get? (orgName, componentName) = some component ∧
    component.projectName = projectName

theorem verifyProject_eq_ok {s : Store} {orgName projectName : String} :
    verifyProject s orgName projectName = .ok () ↔
      ∃ project, s.projects.get? (orgName, projectName) = some project := by
  cases hp : s.projects.get? (orgName, projectName) <;> simp [verifyProject, getProject, hp]

theorem verifyProject_error {s : Store} {orgName projectName : String} {err : GoError}
    (h : verifyProject s orgName projectName = .error err) :
    err = .ofSentinel .projectNotFound := by
  cases hp : s.projects.get? (orgName, projectName) <;> simp [verifyProject, getProject, hp] at h
  exact h.symm

theorem getComponent_eq_ok {s : Store} {orgName projectName componentName : String}
    {response : ComponentResponse} :
    getComponent s orgName projectName componentName = .ok response ↔
      ∃ component, ComponentIn s orgName projectName componentName component ∧
        response = toComponentResponse component := by
  unfold getComponent ComponentIn
  rcases hv : verifyProject s orgName projectName with err | ⟨⟩
  · have := verifyProject_error hv
    have : ¬∃ project, s.projects.get? (orgName, projectName) = some project := by
      rw [← verifyProject_eq_ok, hv]; simp
    simp_all [bind, Except.bind]
  · have hp := verifyProject_eq_ok.1 hv
    simp only [bind, Except.bind, hp, true_and]
    cases hc : s.components.get? (orgName, componentName) with
    | none => simp
    | some component =>
      by_cases hne : component.projectName = projectName
      · simp only [hne, ne_eq, not_true_eq_false, if_false, Except.ok.injEq, Option.some.injEq]
        exact ⟨fun h => ⟨component, ⟨rfl, hne⟩, h.symm⟩, fun ⟨_, ⟨rfl, _⟩, h⟩ => h.symm⟩
      · simp [hne]

/-- Whatever goes wrong, `getComponent` fails with one of two sentinels. -/
theorem getComponent_error {s : Store} {orgName projectName componentName : String} {err : GoError}
    (h : getComponent s orgName projectName componentName = .error err) :
    err = .ofSentinel .projectNotFound ∨ err = .ofSentinel .componentNotFound := by
  unfold getComponent at h
  rcases hv : verifyProject s orgName projectName with e | ⟨⟩
  · simp only [hv, bind, Except.bind, Except.error.injEq] at h
    exact .inl (h ▸ verifyProject_error hv)
  · simp only [hv, bind, Except.bind] at h
    split at h
    · exact .inr (Except.error.inj h).symm
    · split_ifs at h
      cases h
      exact .inr rfl

theorem componentExists_iff {s : Store} {orgName projectName componentName : String} :
    componentExists s orgName projectName componentName = true ↔
      ∃ component, s.components.get? (orgName, componentName) = some component ∧
        component.projectName = projectName := by
  unfold componentExists
  split <;> simp_all

/-! ## Creating a component -/

/-- The error text of the API server's `Create` of a Component, if it fails. -/
def createError (s : Store) (component : Component) : Option String :=
  match s.components.create component with
  | some _ => none
  | none => some GoError.alreadyExists.text

/-- `CreateComponent`: the request is trimmed, the project checked, a component of the name in the
project refused with `ErrComponentAlreadyExists`; then the Component built by
`createComponentResources` is created, and the API server stamps it with `createdAt`. The
response is built from the trimmed request and `now`, the time `metav1.Now` reads when it is built. -/
def createComponent (s : Store) (orgName projectName : String) (req : CreateComponentRequest)
    (createdAt now : Int) : Except GoError (ComponentResponse × Store) := do
  let req := req.sanitize
  verifyProject s orgName projectName
  if componentExists s orgName projectName req.name then
    throw (.ofSentinel .componentAlreadyExists)
  match createComponentResources (createError s) orgName projectName req with
  | .error err => throw ⟨"failed to create component: " ++ err, .alreadyExists⟩
  | .ok component =>
    match s.components.create { component with creationTimestamp := createdAt } with
    | some components =>
      pure ({ name := req.name, displayName := req.displayName, description := req.description
              type := req.type, projectName := projectName, orgName := orgName
              createdAt := now, status := "Creating", buildConfig := none }, { s with components })
    | none => throw (GoError.alreadyExists.wrap "failed to create component: failed to create component CR: ")

/-- The Component `createComponentResources` builds is stored under the namespace and the request's
name. -/
theorem createComponentResources_key {create : Component → Option String}
    {orgName projectName : String} {req : CreateComponentRequest} {component : Component}
    (h : createComponentResources create orgName projectName req = .ok component) :
    component.key = (orgName, req.name) ∧ component.projectName = projectName ∧
      create component = none := by
  unfold createComponentResources at h
  dsimp only at h
  split at h <;> cases h
  exact ⟨rfl, rfl, by assumption⟩

/-- A name the namespace already holds fails `createComponentResources` at the API server's
`Create`, whichever project the Component holding it belongs to. -/
theorem createComponentResources_taken {s : Store} {orgName projectName : String}
    {req : CreateComponentRequest}
    (htaken : (orgName, req.name) ∈ s.components.items.map Component.key) :
    ∃ err, createComponentResources (createError s) orgName projectName req = .error err := by
  simp [createComponentResources, createError, Objects.create, Component.key, htaken]

/-- A successful `createComponent` adds one Component under the trimmed name, in the project, and
writes nothing else: the Component `createComponentResources` built, stamped with `createdAt`. Its
reply is what `toComponentResponse` reports of that Component, with the request's display name, the
time `now` and no build configuration. -/
theorem createComponent_ok {s s' : Store} {orgName projectName : String}
    {req : CreateComponentRequest} {createdAt now : Int} {response : ComponentResponse}
    (h : createComponent s orgName projectName req createdAt now = .ok (response, s')) :
    ∃ component, component.key = (orgName, req.sanitize.name) ∧
      component.projectName = projectName ∧
      (∃ built, createComponentResources (createError s) orgName projectName req.sanitize =
        .ok built ∧ component = { built with creationTimestamp := createdAt }) ∧
      (orgName, req.sanitize.name) ∉ s.components.items.map Component.key ∧
      s'.components.items = s.components.items ++ [component] ∧
      s' = { s with components := s'.components } ∧
      { toComponentResponse component with
        displayName := req.sanitize.displayName, createdAt := now, buildConfig := none } =
        response := by
  unfold createComponent at h
  rcases hv : verifyProject s orgName projectName with e | ⟨⟩ <;>
    simp only [hv, bind, Except.bind, reduceCtorEq] at h
  split_ifs at h
  rcases hc : createComponentResources (createError s) orgName projectName req.sanitize
    with e | built <;> simp only [hc, reduceCtorEq, pure, Except.pure] at h
  obtain ⟨hkey, hproj, -⟩ := createComponentResources_key hc
  split at h <;> simp only [Except.ok.injEq, Prod.mk.injEq, reduceCtorEq] at h
  rename_i components hcreate
  obtain ⟨hfresh, hitems⟩ := Objects.create_eq_some.1 hcreate
  obtain ⟨rfl, rfl⟩ := h
  refine ⟨{ built with creationTimestamp := createdAt }, hkey, hproj, ⟨built, rfl, rfl⟩,
    hkey ▸ hfresh, hitems, rfl, ?_⟩
  unfold createComponentResources at hc
  dsimp only at hc
  split at hc <;> cases hc
  rfl

/-! ## Listing components -/

/-- `ListComponents`: the Components of the namespace that belong to the project, each reported by
`toComponentResponse` with no type or workload specs, in the order the API server lists them (the
order of the store here). -/
def listComponents (s : Store) (orgName projectName : String) :
    Except GoError (List ComponentResponse) := do
  verifyProject s orgName projectName
  pure ((s.components.items.filter fun c => c.ns == orgName && c.projectName == projectName).map
    toComponentResponse)

/-- Past the project check, `ListComponents` is the filter of the namespace's Components. -/
theorem listComponents_eq {s : Store} {orgName projectName : String}
    (h : verifyProject s orgName projectName = .ok ()) :
    listComponents s orgName projectName =
      .ok ((s.components.items.filter fun c => c.ns == orgName && c.projectName == projectName).map
        toComponentResponse) := by
  simp only [listComponents, h, bind, Except.bind, pure, Except.pure]

/-- After a successful `createComponent` the reads find the Component it created: `GetComponent`
of the trimmed name returns it, and `ListComponents` of the project lists it beside the components
it listed before. -/
theorem createComponent_read_back {s s' : Store} {orgName projectName : String}
    {req : CreateComponentRequest} {createdAt now : Int} {response : ComponentResponse}
    (h : createComponent s orgName projectName req createdAt now = .ok (response, s')) :
    ∃ component,
      (∃ built, createComponentResources (createError s) orgName projectName req.sanitize =
        .ok built ∧ component = { built with creationTimestamp := createdAt }) ∧
      getComponent s' orgName projectName req.sanitize.name = .ok (toComponentResponse component) ∧
      (∃ before after, listComponents s orgName projectName = .ok before ∧
        listComponents s' orgName projectName = .ok after ∧
        after.Perm (toComponentResponse component :: before)) ∧
      { toComponentResponse component with
        displayName := req.sanitize.displayName, createdAt := now, buildConfig := none } =
        response := by
  obtain ⟨component, hkey, hproj, hbuilt, -, hitems, hframe, hresponse⟩ := createComponent_ok h
  have hverify : verifyProject s orgName projectName = .ok () := by
    unfold createComponent at h
    rcases hv : verifyProject s orgName projectName with e | ⟨⟩ <;>
      simp only [hv, bind, Except.bind, reduceCtorEq] at h
    rfl
  have hverify' : verifyProject s' orgName projectName = .ok () := by rw [hframe]; exact hverify
  have hmem : component ∈ s'.components.items := by rw [hitems]; simp
  have hin : ComponentIn s' orgName projectName req.sanitize.name component :=
    ⟨verifyProject_eq_ok.1 hverify', Objects.get?_eq_some.2 ⟨hmem, hkey⟩, hproj⟩
  simp only [Component.key, Prod.mk.injEq] at hkey
  refine ⟨component, hbuilt, getComponent_eq_ok.2 ⟨component, hin, rfl⟩,
    ⟨_, _, listComponents_eq hverify, listComponents_eq hverify', ?_⟩, hresponse⟩
  rw [hitems, List.filter_append, List.filter_singleton]
  simp only [hkey.1, hproj, beq_self_eq_true, Bool.and_self, cond_true, List.map_append,
    List.map_singleton]
  exact List.perm_append_singleton _ _

/-- What the reads report of a component `CreateComponent` created: `GetComponent` of its trimmed
name returns it, and `ListComponents` of the project lists it beside the components it listed
before. The reply of `CreateComponent` differs from what the reads report only in the display name
(the request's, not defaulted to the name), the creation time (the time the reply was built, where
the reads report the timestamp the API server stamped) and the build configuration (never
reported). -/
theorem createComponent_then_read {s s' : Store} {orgName projectName : String}
    {req : CreateComponentRequest} {createdAt now : Int} {response : ComponentResponse}
    (h : createComponent s orgName projectName req createdAt now = .ok (response, s')) :
    ∃ component, component.creationTimestamp = createdAt ∧
      getComponent s' orgName projectName req.sanitize.name =
        .ok (toComponentResponse component) ∧
      (∃ before after, listComponents s orgName projectName = .ok before ∧
        listComponents s' orgName projectName = .ok after ∧
        after.Perm (toComponentResponse component :: before)) ∧
      { toComponentResponse component with
        displayName := req.sanitize.displayName, createdAt := now, buildConfig := none } =
        response := by
  obtain ⟨component, ⟨built, -, rfl⟩, hget, hlist, hresponse⟩ := createComponent_read_back h
  exact ⟨_, rfl, hget, hlist, hresponse⟩

/-- `shop` creates a component `search` with no display name; the API server stamps it at
2023-11-14 22:13:20 UTC and the reply is built a second later. -/
theorem createComponent_then_read_search :
    let req : CreateComponentRequest := ⟨"search", "", "", "Service", ⟨"", "", "", "", []⟩⟩
    let response : ComponentResponse :=
      ⟨"search", "", "", "Service", "shop", "acme", 1700000001000000000, "Creating", none⟩
    let s' : Store := { sampleStore with
      components := ⟨sampleStore.components.items ++
        [{ sampleComponent "shop" "search" with creationTimestamp := 1700000000000000000 }],
        by decide⟩ }
    createComponent sampleStore "acme" "shop" req 1700000000000000000 1700000001000000000 =
        .ok (response, s') ∧
      ∃ component, component.creationTimestamp = 1700000000000000000 ∧
        getComponent s' "acme" "shop" req.sanitize.name = .ok (toComponentResponse component) ∧
        (∃ before after, listComponents sampleStore "acme" "shop" = .ok before ∧
          listComponents s' "acme" "shop" = .ok after ∧
          after.Perm (toComponentResponse component :: before)) ∧
        { toComponentResponse component with
          displayName := req.sanitize.displayName, createdAt := 1700000001000000000
          buildConfig := none } = response :=
  have h : createComponent sampleStore "acme" "shop"
      ⟨"search", "", "", "Service", ⟨"", "", "", "", []⟩⟩ 1700000000000000000 1700000001000000000 =
      .ok (⟨"search", "", "", "Service", "shop", "acme", 1700000001000000000, "Creating", none⟩,
        { sampleStore with
          components := ⟨sampleStore.components.items ++
            [{ sampleComponent "shop" "search" with creationTimestamp := 1700000000000000000 }],
            by decide⟩ }) := rfl
  ⟨h, createComponent_then_read h⟩

/-- A create request for a Docker build of `sample-workloads`. -/
def dockerRequest : CreateComponentRequest :=
  { name := "greeter", displayName := "", description := "", type := "Service"
    buildConfig := dockerBuildConfig }

end Api
end OpenChoreo
