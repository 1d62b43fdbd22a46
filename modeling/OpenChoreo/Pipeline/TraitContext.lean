import OpenChoreo.GoMap

/-!
# The trait evaluation context and its schema cache

`BuildTraitContext` of `trait.go`. It validates its input, takes the structural schema of the
trait from a per-request cache keyed by the trait's name (building and storing it on a miss),
merges the instance parameters with the environment overrides, applies the schema defaults and
assembles the context map.

The structural-schema builder, the parameter decoders, the deep merge and the defaulting are not
among the sources; they are the fields of `Externals`, and every theorem holds for all of them.
The cache is a `GoMap`.

The cache is transparent: over any sequence of calls that share one cache, in which traits of one
name carry one schema, each call returns what it returns with no cache, and every cache entry is
the structural schema of the traits of its name.
-/

namespace OpenChoreo
namespace Pipeline

/-! ## Inputs and context -/

/-- `runtime.RawExtension`: the raw bytes, which may be nil. -/
structure RawExtension (B : Type) where
  raw : Option B
  deriving DecidableEq

/-- `Trait.Spec.Schema`. -/
structure TraitSchema (B : Type) where
  types : Option (RawExtension B)
  parameters : Option (RawExtension B)
  envOverrides : Option (RawExtension B)
  deriving DecidableEq

/-- The fields of a `Trait` that `BuildTraitContext` reads. -/
structure Trait (B : Type) where
  name : String
  schema : TraitSchema B
  deriving DecidableEq

/-- `SchemaInput`: what `BuildStructuralSchema` is built from. -/
structure SchemaInput (B : Type) where
  types : Option (RawExtension B)
  parametersSchema : Option (RawExtension B)
  envOverridesSchema : Option (RawExtension B)

/-- The fields of a `Component` that `BuildTraitContext` reads. -/
structure Component where
  name : String
  ns : String
  deriving DecidableEq

/-- `ComponentTrait`: one trait instance of a component. -/
structure TraitInstance (B : Type) where
  instanceName : String
  parameters : Option (RawExtension B)
  deriving DecidableEq

/-- The fields of a `ComponentDeployment` that `BuildTraitContext` reads: the environment overrides
keyed by instance name, or nil. -/
structure ComponentDeployment (B : Type) where
  traitOverrides : Option (List (String × RawExtension B))
  deriving DecidableEq

/-- `EnvironmentContext`. -/
structure EnvironmentContext where
  name : String
  virtualHost : String
  deriving DecidableEq

/-- `MetadataContext`. -/
structure MetadataContext where
  name : String
  ns : String
  labels : List (String × String)
  annotations : List (String × String)
  podSelectors : List (String × String)
  deriving DecidableEq

/-- `TraitContextInput` without its schema cache, which is passed and returned separately. -/
structure TraitContextInput (B : Type) where
  trait : Option (Trait B)
  component : Option Component
  inst : TraitInstance B
  componentDeployment : Option (ComponentDeployment B)
  environment : EnvironmentContext
  metadata : MetadataContext
  deriving DecidableEq

/-- A value of the context map: a parameter map, a string, or a nested map. -/
inductive Value (P : Type)
  | params (p : P)
  | string (s : String)
  | object (fields : List (String × Value P))

/-- A map of string labels as a context value. -/
def Value.ofStrings {P : Type} (m : List (String × String)) : Value P :=
  .object (m.map fun e => (e.1, .string e.2))

/-- The functions `BuildTraitContext` calls that are not among the sources: they decode to and
work on parameter maps of type `P` and structural schemas of type `σ`. -/
structure Externals (B P σ : Type) where
  buildStructuralSchema : SchemaInput B → Except String (Option σ)
  extractParameters : Option (RawExtension B) → Except String P
  unmarshal : B → Except String P
  emptyParams : P
  deepMerge : P → P → P
  applyDefaults : P → Option σ → P

/-! ## The schema cache -/

/-- `SchemaCache`: structural schemas keyed by trait name; a stored schema may be nil. -/
abbrev SchemaCache (σ : Type) : Type := GoMap (Option σ)

/-! ## `BuildTraitContext` -/

section Build

variable {B P σ : Type} (ext : Externals B P σ)

/-- The schema input of a trait. -/
def schemaInput (trait : Trait B) : SchemaInput B :=
  ⟨trait.schema.types, trait.schema.parameters, trait.schema.envOverrides⟩

/-- Step 1 of `BuildTraitContext`: the structural schema from the cache, or built and then stored
when the cache is not nil. -/
def getStructuralSchema (cache : Option (SchemaCache σ)) (trait : Trait B) :
    Except String (Option σ) × Option (SchemaCache σ) :=
  let cached : Option σ := match cache with
    | some c => (c.get? trait.name).getD none
    | none => none
  match cached with
  | some structural => (.ok (some structural), cache)
  | none =>
    match ext.buildStructuralSchema (schemaInput trait) with
    | .error err => (.error s!"failed to build trait schema: {err}", cache)
    | .ok structural => (.ok structural, cache.map (·.set trait.name structural))

/-- `extractParametersFromRawExtension`. -/
def extractParametersFromRawExtension : Option (RawExtension B) → Except String P
  | none => .ok ext.emptyParams
  | some ⟨none⟩ => .ok ext.emptyParams
  | some ⟨some raw⟩ =>
    match ext.unmarshal raw with
    | .error err => .error s!"failed to unmarshal parameters: {err}"
    | .ok params => .ok params

/-- Steps 2 to 4 of `BuildTraitContext`: instance parameters, environment overrides of the
instance, schema defaults. -/
def traitParameters (input : TraitContextInput B) (structural : Option σ) : Except String P :=
  match ext.extractParameters input.inst.parameters with
  | .error err => .error s!"failed to extract trait instance parameters: {err}"
  | .ok parameters =>
    let merged : Except String P :=
      match input.componentDeployment.bind (·.traitOverrides) with
      | none => .ok parameters
      | some overrides =>
        match overrides.lookup input.inst.instanceName with
        | none => .ok parameters
        | some instanceOverride =>
          match extractParametersFromRawExtension ext (some instanceOverride) with
          | .error err => .error s!"failed to extract trait environment overrides: {err}"
          | .ok envOverrides => .ok (ext.deepMerge parameters envOverrides)
    merged.map fun parameters => ext.applyDefaults parameters structural

/-- Steps 5 to 8 of `BuildTraitContext`: the context map around the parameters. -/
def traitContextMap (input : TraitContextInput B) (trait : Trait B) (component : Component)
    (parameters : P) : List (String × Value P) :=
  [("parameters", .params parameters),
   ("trait", .object [("name", .string trait.name),
     ("instanceName", .string input.inst.instanceName)]),
   ("component", .object ([("name", .string component.name)] ++
     if component.ns ≠ "" then [("namespace", .string component.ns)] else [])),
   ("environment", .object [("name", .string input.environment.name),
     ("vhost", .string input.environment.virtualHost)]),
   ("metadata", .object ([("name", .string input.metadata.name),
     ("namespace", .string input.metadata.ns)] ++
     (if 0 < input.metadata.labels.length then
       [("labels", Value.ofStrings input.metadata.labels)] else []) ++
     (if 0 < input.metadata.annotations.length then
       [("annotations", Value.ofStrings input.metadata.annotations)] else []) ++
     (if 0 < input.metadata.podSelectors.length then
       [("podSelectors", Value.ofStrings input.metadata.podSelectors)] else [])))]

/-- The checks `BuildTraitContext` makes before it reads the cache: the input, its trait and its
component are not nil, and the metadata names a name and a namespace. -/
def validateTraitContextInput :
    Option (TraitContextInput B) → Except String (TraitContextInput B × Trait B × Component)
  | none => .error "trait context input is nil"
  | some input =>
    match input.trait, input.component with
    | none, _ => .error "trait is nil"
    | some _, none => .error "component is nil"
    | some trait, some component =>
      if input.metadata.name = "" then .error "metadata.name is required"
      else if input.metadata.ns = "" then .error "metadata.namespace is required"
      else .ok (input, trait, component)

/-- `BuildTraitContext`, with the schema cache passed in and returned; `none` is a nil map. -/
def buildTraitContext (cache : Option (SchemaCache σ)) (input : Option (TraitContextInput B)) :
    Except String (List (String × Value P)) × Option (SchemaCache σ) :=
  match validateTraitContextInput input with
  | .error err => (.error err, cache)
  | .ok (input, trait, component) =>
    match getStructuralSchema ext cache trait with
    | (.error err, cache') => (.error err, cache')
    | (.ok structural, cache') =>
      ((traitParameters ext input structural).map (traitContextMap input trait component), cache')

/-- A sequence of calls that share one schema cache. -/
def buildTraitContexts (cache : Option (SchemaCache σ)) :
    List (Option (TraitContextInput B)) →
      List (Except String (List (String × Value P))) × Option (SchemaCache σ)
  | [] => ([], cache)
  | input :: rest =>
    let first := buildTraitContext ext cache input
    let more := buildTraitContexts first.2 rest
    (first.1 :: more.1, more.2)

end Build

/-! ## The cache is transparent -/

section Cache

variable {B P σ : Type} (ext : Externals B P σ)

/-- The traits of a sequence of inputs. -/
def traitsOf (inputs : List (Option (TraitContextInput B))) : List (Trait B) :=
  inputs.filterMap fun input => input.bind (·.trait)

/-- Traits of one name carry one schema. -/
def SameNameSameSchema (traits : List (Trait B)) : Prop :=
  ∀ t ∈ traits, ∀ u ∈ traits, t.name = u.name → t.schema = u.schema

/-- Every entry of the cache is the structural schema of a trait of `traits` with its name. -/
def CacheBuiltFrom (traits : List (Trait B)) (cache : SchemaCache σ) : Prop :=
  ∀ n v, (n, v) ∈ cache → ∃ t ∈ traits, t.name = n ∧ ext.buildStructuralSchema (schemaInput t) = .ok v

theorem CacheBuiltFrom.mono {traits traits' : List (Trait B)} {cache : SchemaCache σ}
    (h : CacheBuiltFrom ext traits cache) (hsub : ∀ t ∈ traits, t ∈ traits') :
    CacheBuiltFrom ext traits' cache := fun n v hnv =>
  let ⟨t, ht, hrest⟩ := h n v hnv; ⟨t, hsub t ht, hrest⟩

/-- Under one schema per name, a cache built from the traits gives every trait of its name the
schema built from that trait. -/
theorem CacheBuiltFrom.get? {traits : List (Trait B)} {cache : SchemaCache σ}
    (h : CacheBuiltFrom ext traits cache) (hsame : SameNameSameSchema traits) {trait : Trait B}
    (ht : trait ∈ traits) {v : Option σ} (hv : cache.get? trait.name = some v) :
    ext.buildStructuralSchema (schemaInput trait) = .ok v := by
  obtain ⟨t, ht', hname, hbuild⟩ := h _ _ (GoMap.mem_of_get? hv)
  rw [← hbuild, schemaInput, schemaInput, hsame trait ht t ht' hname.symm]

/-- Step 1 reads the same schema from a cache built from the traits as it builds with no cache,
and the cache it leaves is built from the traits. -/
theorem getStructuralSchema_cached {traits : List (Trait B)} {cache : SchemaCache σ}
    (h : CacheBuiltFrom ext traits cache) (hsame : SameNameSameSchema traits) {trait : Trait B}
    (ht : trait ∈ traits) :
    (getStructuralSchema ext (some cache) trait).1 = (getStructuralSchema ext none trait).1 ∧
    ∃ cache', (getStructuralSchema ext (some cache) trait).2 = some cache' ∧
      CacheBuiltFrom ext traits cache' := by
  have hbuilt : ∀ v, ext.buildStructuralSchema (schemaInput trait) = .ok v →
      CacheBuiltFrom ext traits (cache.set trait.name v) := fun v hv n w hnw => by
    rcases GoMap.mem_set.1 hnw with ⟨rfl, rfl⟩ | ⟨hnw, -⟩
    · exact ⟨trait, ht, rfl, hv⟩
    · exact h n w hnw
  rcases hget : cache.get? trait.name with _ | (_ | structural)
  all_goals simp only [getStructuralSchema, hget, Option.getD_none, Option.getD_some]
  rotate_right
  · rw [h.get? ext hsame ht hget]
    exact ⟨rfl, cache, rfl, h⟩
  all_goals
    rcases hb : ext.buildStructuralSchema (schemaInput trait) with err | v
    · exact ⟨rfl, cache, rfl, h⟩
    · exact ⟨rfl, _, rfl, hbuilt v hb⟩

theorem validateTraitContextInput_trait {input : Option (TraitContextInput B)}
    {input' : TraitContextInput B} {trait : Trait B} {component : Component}
    (h : validateTraitContextInput input = .ok (input', trait, component)) :
    input.bind (·.trait) = some trait := by
  rcases input with _ | input
  · cases h
  simp only [validateTraitContextInput] at h
  split at h
  · cases h
  · cases h
  · split_ifs at h
    cases h
    simp [*]

/-- One call from a cache built from the traits returns what it returns with no cache, and leaves
a cache built from the traits. -/
theorem buildTraitContext_cached {traits : List (Trait B)} {cache : SchemaCache σ}
    (h : CacheBuiltFrom ext traits cache) (hsame : SameNameSameSchema traits)
    (input : Option (TraitContextInput B)) (ht : ∀ t, input.bind (·.trait) = some t → t ∈ traits) :
    (buildTraitContext ext (some cache) input).1 = (buildTraitContext ext none input).1 ∧
    ∃ cache', (buildTraitContext ext (some cache) input).2 = some cache' ∧
      CacheBuiltFrom ext traits cache' := by
  unfold buildTraitContext
  rcases hv : validateTraitContextInput input with err | ⟨input', trait, component⟩
  · exact ⟨rfl, cache, rfl, h⟩
  dsimp only
  obtain ⟨hres, cache', hc', h'⟩ :=
    getStructuralSchema_cached ext h hsame (ht trait (validateTraitContextInput_trait hv))
  rcases e₁ : getStructuralSchema ext (some cache) trait with ⟨r₁, c₁⟩
  rcases e₂ : getStructuralSchema ext none trait with ⟨r₂, c₂⟩
  rw [e₁, e₂] at hres
  rw [e₁] at hc'
  subst hres hc'
  rcases r₁ with err | structural <;> exact ⟨rfl, cache', rfl, h'⟩

/-- A run of calls from a cache built from the traits returns what the calls return with no
cache, and leaves a cache built from the traits. -/
theorem buildTraitContexts_cached {traits : List (Trait B)} (hsame : SameNameSameSchema traits) :
    ∀ (inputs : List (Option (TraitContextInput B))) (cache : SchemaCache σ),
      CacheBuiltFrom ext traits cache → (∀ t ∈ traitsOf inputs, t ∈ traits) →
      (buildTraitContexts ext (some cache) inputs).1 =
        inputs.map (fun input => (buildTraitContext ext none input).1) ∧
      ∃ cache', (buildTraitContexts ext (some cache) inputs).2 = some cache' ∧
        CacheBuiltFrom ext traits cache'
  | [], cache, h, _ => ⟨rfl, cache, rfl, h⟩
  | input :: rest, cache, h, hsub => by
    obtain ⟨hfirst, cache', hc', h'⟩ := buildTraitContext_cached ext h hsame input fun t ht =>
      hsub t (List.mem_filterMap.2 ⟨input, List.mem_cons_self _ _, ht⟩)
    obtain ⟨hrest, cache'', hc'', h''⟩ := buildTraitContexts_cached hsame rest cache' h' fun t ht =>
      hsub t (by
        obtain ⟨a, ha, hat⟩ := List.mem_filterMap.1 ht
        exact List.mem_filterMap.2 ⟨a, List.mem_cons_of_mem _ ha, hat⟩)
    refine ⟨?_, cache'', ?_, h''⟩ <;>
      simp only [buildTraitContexts, hc', hfirst, hrest, hc'', List.map_cons]

/-- The schema cache is transparent. Over any sequence of calls of `BuildTraitContext` that share
one cache, initially empty, in which traits of one name carry one schema, each call returns what
the same call returns with a nil cache, errors included; and after every call each cache entry for
a name is the structural schema of every trait of that name, of which the calls so far had one. -/
theorem buildTraitContext_cache_transparent (inputs : List (Option (TraitContextInput B)))
    (hsame : SameNameSameSchema (traitsOf inputs)) :
    (buildTraitContexts ext (some []) inputs).1 =
      inputs.map (fun input => (buildTraitContext ext none input).1) ∧
    ∀ k, ∃ cache, (buildTraitContexts ext (some []) (inputs.take k)).2 = some cache ∧
      ∀ n v, (n, v) ∈ cache → (∃ t ∈ traitsOf (inputs.take k), t.name = n) ∧
        ∀ t ∈ traitsOf inputs, t.name = n → ext.buildStructuralSchema (schemaInput t) = .ok v := by
  have hsub : ∀ k, ∀ t ∈ traitsOf (inputs.take k), t ∈ traitsOf inputs := fun k _ ht =>
    ((List.take_sublist k inputs).filterMap _).subset ht
  have hempty : ∀ traits, CacheBuiltFrom ext traits ([] : SchemaCache σ) := fun _ _ _ h => by
    cases h
  refine ⟨(buildTraitContexts_cached ext hsame inputs [] (hempty _) fun _ h => h).1, fun k => ?_⟩
  have hsame' : SameNameSameSchema (traitsOf (inputs.take k)) := fun t ht u hu =>
    hsame t (hsub k t ht) u (hsub k u hu)
  obtain ⟨-, cache, hc, h⟩ :=
    buildTraitContexts_cached ext hsame' (inputs.take k) [] (hempty _) fun _ h => h
  refine ⟨cache, hc, fun n v hnv => ?_⟩
  obtain ⟨t, ht, hname, hbuild⟩ := h n v hnv
  refine ⟨⟨t, ht, hname⟩, fun u hu hun => ?_⟩
  rw [← hbuild, schemaInput, schemaInput, hsame u hu t (hsub k t ht) (hun.trans hname.symm)]

/-- Externals for the witnesses: every schema builds, and parameters decode to an empty map. -/
def sampleExternals : Externals String (List (String × String)) Unit :=
  ⟨fun _ => .ok (some ()), fun _ => .ok [], fun _ => .ok [], [], fun a b => b ++ a, fun p _ => p⟩

/-- A trait instance input with every required field set. -/
def sampleTraitInput : TraitContextInput String :=
  ⟨some ⟨"ingress", ⟨none, some ⟨some "{}"⟩, none⟩⟩, some ⟨"web", "org"⟩, ⟨"ingress-1", none⟩, none,
    ⟨"dev", "dev.example.com"⟩, ⟨"web-dev-1234", "dp-org", [], [], []⟩⟩

theorem buildTraitContext_cache_transparent_twice :
    SameNameSameSchema (traitsOf [some sampleTraitInput, some sampleTraitInput]) ∧
    (buildTraitContexts sampleExternals (some []) [some sampleTraitInput, some sampleTraitInput]).1 =
      [some sampleTraitInput, some sampleTraitInput].map
        (fun input => (buildTraitContext sampleExternals none input).1) :=
  have hsame : SameNameSameSchema (traitsOf [some sampleTraitInput, some sampleTraitInput]) :=
    fun t ht u hu _ => by
      simp [traitsOf, sampleTraitInput] at ht hu
      rw [ht, hu]
  ⟨hsame, (buildTraitContext_cache_transparent sampleExternals _ hsame).1⟩

end Cache

end Pipeline
end OpenChoreo
