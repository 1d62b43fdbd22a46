import Mathlib.Data.List.Infix
import OpenChoreo.GoMap
import OpenChoreo.Observer.Indices

/-!
# The log queries of the observer service

The `QueryBuilder` of the observer's OpenSearch package turns the parameters of a log request into
the body of a search: a `bool` query whose `must` list gathers the filters the request asks for,
and whose `should` list, with `minimum_should_match`, asks for one of several versions, components,
gateway hosts or APIs. The builders assemble Go maps; here the same query is a `Clause` tree.

| here | there |
| --- | --- |
| `Clause`, `Leaf` | the `map[string]interface{}` literals of the query DSL |
| `addTimeRangeFilter`, `addSearchPhraseFilter`, `addLogLevelFilter` | the functions of that name |
| `buildComponentLogsQuery` and its siblings | `QueryBuilder.BuildComponentLogsQuery` and so on |
| `checkQueryVersion` | `QueryBuilder.CheckQueryVersion` |
| `Clause.matches` | what OpenSearch does with a `bool` query |

What a leaf query (`term`, `range`, `wildcard`, `match`) selects is decided by the index's
mappings and analysers, which are not part of the repository: every result below holds for any
decision of the leaves, given as `sat : Leaf → Bool` for one document. What a `bool` query
selects is OpenSearch's rule, stated once in `Clause.matches`. Over it, each builder's query is
shown to select exactly the documents that pass the filters its parameters ask for. The gateway
query with both gateway hosts and APIs selects nothing: it moves both lists into a nested `bool`
in `must` and deletes its `should` list, but leaves the `minimum_should_match` of one behind, and
OpenSearch then asks for one `should` clause of none.
-/

namespace OpenChoreo
namespace Observer

/-! ## The query DSL and its meaning -/

/-- A leaf query of the DSL, as the builders write it. -/
inductive Leaf
  | term (field value : String)
  | range (field : String) (bounds : List (String × String))
  | wildcard (field pattern : String)
  | matchQuery (field text : String)
  deriving DecidableEq, Repr

/-- A query clause: a leaf, or `{"bool": {"must": .., "filter": .., "should": ..,
"minimum_should_match": ..}}` with the keys that are absent empty or `none`. -/
inductive Clause
  | leaf (l : Leaf)
  | bool (must filter should : List Clause) (minimumShouldMatch : Option Nat)
  deriving Repr

/-- How many of its `should` clauses a bool query needs: its `minimum_should_match` as given, also
beyond the number of `should` clauses (OpenSearch passes it to Lucene uncapped, and no document
then matches), and one when that comes to none but the query has `should` clauses and no `must`
or `filter` clause, which makes it a disjunction. -/
def requiredShould (mandatory : Bool) (minimumShouldMatch : Option Nat) (shouldCount : Nat) : Nat :=
  let required := minimumShouldMatch.getD 0
  if required = 0 ∧ mandatory = false ∧ 0 < shouldCount then 1 else required

mutual

/-- OpenSearch's meaning of a clause in query context, for a document whose leaf queries `sat`
decides. A bool query with no clause at all is a match-all query, whatever its
`minimum_should_match`. Every bool the builders make stands in query context. -/
def Clause.matches (sat : Leaf → Bool) : Clause → Bool
  | .leaf l => sat l
  | .bool must filter should minimumShouldMatch =>
    (must.isEmpty && filter.isEmpty && should.isEmpty) ||
      (allMatch sat must && allMatch sat filter &&
        decide (requiredShould (!must.isEmpty || !filter.isEmpty) minimumShouldMatch should.length ≤
          countMatches sat should))

/-- Whether every clause of a list matches. -/
def allMatch (sat : Leaf → Bool) : List Clause → Bool
  | [] => true
  | c :: cs => c.matches sat && allMatch sat cs

/-- How many clauses of a list match. -/
def countMatches (sat : Leaf → Bool) : List Clause → Nat
  | [] => 0
  | c :: cs => (if c.matches sat then 1 else 0) + countMatches sat cs

end

section Meaning

variable {sat : Leaf → Bool}

@[simp]
theorem matches_leaf (l : Leaf) : (Clause.leaf l).matches sat = sat l := by
  simp [Clause.matches]

@[simp]
theorem allMatch_eq_true {cs : List Clause} :
    allMatch sat cs = true ↔ ∀ c ∈ cs, c.matches sat = true := by
  induction cs with
  | nil => simp [allMatch]
  | cons c cs ih => simp [allMatch, ih]

theorem countMatches_pos_iff {cs : List Clause} :
    0 < countMatches sat cs ↔ ∃ c ∈ cs, c.matches sat = true := by
  induction cs with
  | nil => simp [countMatches]
  | cons c cs ih =>
    by_cases hc : c.matches sat
    · simp only [countMatches, hc, if_true]
      exact ⟨fun _ => ⟨c, List.mem_cons_self c cs, hc⟩, fun _ => by omega⟩
    · simp [countMatches, hc, ih]

/-- A bool query with no `should` clause and no `minimum_should_match` matches when all its `must`
and `filter` clauses do. -/
theorem matches_bool_nil (must filter : List Clause) :
    (Clause.bool must filter [] none).matches sat = (allMatch sat must && allMatch sat filter) := by
  cases must <;> cases filter <;> simp [Clause.matches, requiredShould, countMatches, allMatch]

/-- A bool query with `must` clauses, no `should` clause and a `minimum_should_match` above zero
matches nothing. -/
theorem matches_bool_nil_pos {must : List Clause} (filter : List Clause) {k : Nat}
    (hmust : must ≠ []) (hk : 0 < k) : (Clause.bool must filter [] (some k)).matches sat = false := by
  have hreq : requiredShould (!must.isEmpty || !filter.isEmpty) (some k) 0 = k := by
    simp only [requiredShould, Option.getD_some]
    split_ifs <;> omega
  simp [Clause.matches, List.isEmpty_iff, hmust, hreq, countMatches, Nat.not_le.2 hk]

/-- A bool query with `should` clauses and `minimum_should_match` one matches when all its `must`
and `filter` clauses and one of its `should` clauses do. -/
theorem matches_bool_some_one (must filter : List Clause) {should : List Clause}
    (hshould : should ≠ []) :
    (Clause.bool must filter should (some 1)).matches sat = true ↔
      (∀ c ∈ must, c.matches sat = true) ∧ (∀ c ∈ filter, c.matches sat = true) ∧
        ∃ c ∈ should, c.matches sat = true := by
  have hlen : 0 < should.length := List.length_pos.2 hshould
  have hreq : requiredShould (!must.isEmpty || !filter.isEmpty) (some 1) should.length = 1 := by
    simp only [requiredShould, Option.getD_some]; split <;> omega
  have hempty : should.isEmpty = false := by cases should <;> simp_all
  simp only [Clause.matches, hreq, hempty, Bool.and_false, Bool.false_or, Bool.and_eq_true,
    allMatch_eq_true, decide_eq_true_eq, Nat.one_le_iff_ne_zero, ← Nat.pos_iff_ne_zero,
    countMatches_pos_iff, and_assoc]

/-- Two `should` clauses with `minimum_should_match` two must both match. -/
theorem matches_bool_both (a b : Clause) :
    (Clause.bool [] [] [a, b] (some 2)).matches sat = (a.matches sat && b.matches sat) := by
  cases ha : a.matches sat <;> cases hb : b.matches sat <;>
    simp [Clause.matches, requiredShould, countMatches, allMatch, ha, hb]

end Meaning

/-! ## The search body -/

/-- The `bool` map at the top of a search body, which the builders fill in and change. -/
structure BoolQuery where
  must : List Clause := []
  filter : List Clause := []
  should : List Clause := []
  minimumShouldMatch : Option Nat := none

/-- The clause a `bool` map stands for. -/
def BoolQuery.toClause (b : BoolQuery) : Clause :=
  .bool b.must b.filter b.should b.minimumShouldMatch

/-- `query["query"]["bool"]["should"] = shouldConditions` followed by
`query["query"]["bool"]["minimum_should_match"] = 1`. -/
def BoolQuery.setShould (b : BoolQuery) (shouldConditions : List Clause) : BoolQuery :=
  { b with should := shouldConditions, minimumShouldMatch := some 1 }

/-- A search body: `{"size": .., "query": {"bool": ..}, "sort": [{field: {"order": ..}}]}`. -/
structure SearchQuery where
  size : Int
  query : BoolQuery
  sort : List (String × String)

/-- The documents a search body selects. -/
def SearchQuery.selects (q : SearchQuery) (sat : Leaf → Bool) : Bool :=
  q.query.toClause.matches sat

section Body

variable {sat : Leaf → Bool}

/-- A `bool` map with nothing but `must` asks for all of it. -/
theorem BoolQuery.matches_must (must : List Clause) :
    ({ must } : BoolQuery).toClause.matches sat = allMatch sat must := by
  simp [BoolQuery.toClause, matches_bool_nil, allMatch]

/-- After `setShould` with a non-empty list, one of its clauses has to match besides `must` and
`filter`. -/
theorem BoolQuery.matches_setShould (b : BoolQuery) {should : List Clause} (hshould : should ≠ []) :
    (b.setShould should).toClause.matches sat = true ↔
      allMatch sat b.must = true ∧ allMatch sat b.filter = true ∧
        ∃ c ∈ should, c.matches sat = true := by
  rw [allMatch_eq_true, allMatch_eq_true]
  exact matches_bool_some_one b.must b.filter hshould

end Body

/-! ## Parameters and labels -/

/-- The label names of the observer's `labels` package that the queries filter on. The package is
not among the sources: the results hold for any names. -/
structure ObserverLabels where
  osComponentID : String
  osEnvironmentID : String
  osProjectID : String
  osOrganizationUUID : String
  osTarget : String
  osBuildID : String
  osBuildUUID : String
  osVersion : String
  osVersionID : String
  targetBuild : String
  queryParamLogTypeBuild : String

/-- Modelled from the spec: `ComponentQueryParams` is not among the sources; these are the fields
`BuildComponentLogsQuery` reads (`namespaceName` is its `Namespace`). -/
structure ComponentQueryParams where
  componentID : String
  environmentID : String
  namespaceName : String
  logType : String
  buildID : String
  buildUUID : String
  startTime : String
  endTime : String
  searchPhrase : String
  logLevels : List String
  limit : Int
  sortOrder : String
  versions : List String
  versionIDs : List String

/-- Modelled from the spec: `QueryParams` is not among the sources; these are the fields the
project and organization queries read (`namespaceName` is its `Namespace`). -/
structure QueryParams where
  projectID : String
  environmentID : String
  organizationID : String
  namespaceName : String
  startTime : String
  endTime : String
  searchPhrase : String
  logLevels : List String
  limit : Int
  sortOrder : String

/-- Modelled from the spec: `GatewayQueryParams` is not among the sources; these are the fields
`BuildGatewayLogsQuery` reads. The values of `APIIDToVersionMap` are never read. -/
structure GatewayQueryParams where
  organizationID : String
  startTime : String
  endTime : String
  searchPhrase : String
  gatewayVHosts : List String
  apiIDToVersionMap : GoMap String
  limit : Int
  sortOrder : String

/-- Modelled from the spec: `ComponentTracesRequestParams` is not among the sources; these are the
fields `BuildComponentTracesQuery` reads. -/
structure ComponentTracesRequestParams where
  serviceName : String
  startTime : String
  endTime : String
  limit : Int
  sortOrder : String

/-! ## The leaves the builders write -/

/-- `{"term": {label + ".keyword": value}}`. -/
def keywordTerm (label value : String) : Leaf :=
  .term (label ++ ".keyword") value

/-- `{"term": {"kubernetes.namespace_name.keyword": namespace}}`. -/
def namespaceTerm (namespaceName : String) : Leaf :=
  .term "kubernetes.namespace_name.keyword" namespaceName

/-- `{"range": {"@timestamp": {"gt": startTime, "lt": endTime}}}`. -/
def timestampRange (startTime endTime : String) : Leaf :=
  .range "@timestamp" [("gt", startTime), ("lt", endTime)]

/-- `{"wildcard": {"log": fmt.Sprintf("*%s*", searchPhrase)}}`. -/
def searchPhraseWildcard (searchPhrase : String) : Leaf :=
  .wildcard "log" ("*" ++ searchPhrase ++ "*")

/-- `{"match": {"log": strings.ToUpper(logLevel)}}`. -/
def logLevelMatch (logLevel : String) : Leaf :=
  .matchQuery "log" logLevel.toUpper

/-- `{"wildcard": {"log": fmt.Sprintf("*\"apiPath\":\"/%s*", organizationID)}}`. -/
def apiPathWildcard (organizationID : String) : Leaf :=
  .wildcard "log" ("*\"apiPath\":\"/" ++ organizationID ++ "*")

/-- `{"wildcard": {"log": fmt.Sprintf("*\"gwHost\":%q*", vhost)}}`. -/
def gwHostWildcard (vhost : String) : Leaf :=
  .wildcard "log" ("*\"gwHost\":" ++ goQuote vhost ++ "*")

/-- `{"wildcard": {"log": fmt.Sprintf("*\"apiUuid\":%q*", apiID)}}`. -/
def apiUuidWildcard (apiID : String) : Leaf :=
  .wildcard "log" ("*\"apiUuid\":" ++ goQuote apiID ++ "*")

/-- `{"term": {fmt.Sprintf("kubernetes.labels.%s.keyword", key): value}}`. -/
def podLabelTerm (key value : String) : Leaf :=
  .term ("kubernetes.labels." ++ key ++ ".keyword") value

/-! ## The common filters -/

/-- `addTimeRangeFilter`: the time range, when both bounds are given. -/
def addTimeRangeFilter (mustConditions : List Clause) (startTime endTime : String) : List Clause :=
  if startTime ≠ "" ∧ endTime ≠ "" then
    mustConditions ++ [.leaf (timestampRange startTime endTime)]
  else mustConditions

/-- `addSearchPhraseFilter`: the wildcard search, when a phrase is given. -/
def addSearchPhraseFilter (mustConditions : List Clause) (searchPhrase : String) : List Clause :=
  if searchPhrase ≠ "" then mustConditions ++ [.leaf (searchPhraseWildcard searchPhrase)]
  else mustConditions

/-- `addLogLevelFilter`: a bool of one `match` per log level, one of which must match. -/
def addLogLevelFilter (mustConditions : List Clause) (logLevels : List String) : List Clause :=
  if logLevels.length > 0 then
    let shouldConditions := logLevels.map fun logLevel => Clause.leaf (logLevelMatch logLevel)
    if shouldConditions.length > 0 then
      mustConditions ++ [.bool [] [] shouldConditions (some 1)]
    else mustConditions
  else mustConditions

section Filters

variable {sat : Leaf → Bool} {mustConditions : List Clause}

/-- The step every builder repeats, `if cond { mustConditions = append(mustConditions, c) }`,
adds `c` to what must match when `cond` holds. -/
theorem allMatch_append_singleton {c : Clause} :
    allMatch sat (mustConditions ++ [c]) = true ↔
      allMatch sat mustConditions = true ∧ c.matches sat = true := by
  simp [or_imp, forall_and]

theorem allMatch_singleton (c : Clause) : allMatch sat [c] = c.matches sat := by
  simp [allMatch]

theorem allMatch_ite_append {p : Prop} [Decidable p] {c : Clause} :
    allMatch sat (if p then mustConditions ++ [c] else mustConditions) = true ↔
      allMatch sat mustConditions = true ∧ (p → c.matches sat = true) := by
  split_ifs with h <;> simp [h, or_imp, forall_and]

theorem allMatch_addTimeRangeFilter {startTime endTime : String} :
    allMatch sat (addTimeRangeFilter mustConditions startTime endTime) = true ↔
      allMatch sat mustConditions = true ∧
        (startTime ≠ "" ∧ endTime ≠ "" → sat (timestampRange startTime endTime) = true) :=
  allMatch_ite_append

theorem allMatch_addSearchPhraseFilter {searchPhrase : String} :
    allMatch sat (addSearchPhraseFilter mustConditions searchPhrase) = true ↔
      allMatch sat mustConditions = true ∧
        (searchPhrase ≠ "" → sat (searchPhraseWildcard searchPhrase) = true) :=
  allMatch_ite_append

theorem allMatch_addLogLevelFilter {logLevels : List String} :
    allMatch sat (addLogLevelFilter mustConditions logLevels) = true ↔
      allMatch sat mustConditions = true ∧
        (logLevels ≠ [] → ∃ logLevel ∈ logLevels, sat (logLevelMatch logLevel) = true) := by
  unfold addLogLevelFilter
  by_cases hlevels : logLevels = []
  · simp [hlevels]
  have hshould : logLevels.map (fun logLevel => Clause.leaf (logLevelMatch logLevel)) ≠ [] := by
    simpa using hlevels
  simp only [List.length_pos.2 hlevels, List.length_pos.2 hshould, if_true, allMatch_eq_true,
    List.mem_append, List.mem_singleton, forall_eq_or_imp]
  simp [or_imp, forall_and, matches_bool_some_one [] [] hshould, hlevels]

end Filters

/-- The three filters every log query but the gateway's ends with, in the builders' order. -/
theorem allMatch_commonFilters {startTime endTime searchPhrase : String} {logLevels : List String} :
    allMatch sat (addLogLevelFilter (addSearchPhraseFilter
        (addTimeRangeFilter mustConditions startTime endTime) searchPhrase) logLevels) = true ↔
      allMatch sat mustConditions = true ∧
      (startTime ≠ "" ∧ endTime ≠ "" → sat (timestampRange startTime endTime) = true) ∧
      (searchPhrase ≠ "" → sat (searchPhraseWildcard searchPhrase) = true) ∧
      (logLevels ≠ [] → ∃ logLevel ∈ logLevels, sat (logLevelMatch logLevel) = true) := by
  rw [allMatch_addLogLevelFilter, allMatch_addSearchPhraseFilter, allMatch_addTimeRangeFilter]
  simp only [and_assoc]

/-! ## `BuildComponentLogsQuery` -/

section Builders

variable (labels : ObserverLabels)

/-- The filters `BuildComponentLogsQuery` puts in `must`: the component; the environment, except
for build logs; the namespace when given; for build logs the build target and the build's ID and
UUID when given, and otherwise the time range; then the search phrase and the log levels. -/
def componentMustConditions (params : ComponentQueryParams) : List Clause :=
  let mustConditions := [Clause.leaf (keywordTerm labels.osComponentID params.componentID)]
  let mustConditions :=
    if params.logType ≠ labels.queryParamLogTypeBuild then
      mustConditions ++ [.leaf (keywordTerm labels.osEnvironmentID params.environmentID)]
    else mustConditions
  let mustConditions :=
    if params.namespaceName ≠ "" then mustConditions ++ [.leaf (namespaceTerm params.namespaceName)]
    else mustConditions
  let mustConditions :=
    if params.logType = labels.queryParamLogTypeBuild then
      let mustConditions := mustConditions ++ [.leaf (keywordTerm labels.osTarget labels.targetBuild)]
      let mustConditions :=
        if params.buildID ≠ "" then
          mustConditions ++ [.leaf (keywordTerm labels.osBuildID params.buildID)]
        else mustConditions
      if params.buildUUID ≠ "" then
        mustConditions ++ [.leaf (keywordTerm labels.osBuildUUID params.buildUUID)]
      else mustConditions
    else addTimeRangeFilter mustConditions params.startTime params.endTime
  let mustConditions := addSearchPhraseFilter mustConditions params.searchPhrase
  addLogLevelFilter mustConditions params.logLevels

/-- `QueryBuilder.BuildComponentLogsQuery` (its receiver is not read): the `must` filters, sorted
by timestamp, with the versions and version IDs as `should` terms when any is given. -/
def buildComponentLogsQuery (params : ComponentQueryParams) : SearchQuery :=
  let query : BoolQuery := { must := componentMustConditions labels params }
  let query :=
    if params.versions.length > 0 ∨ params.versionIDs.length > 0 then
      let shouldConditions :=
        params.versions.map (fun version => Clause.leaf (keywordTerm labels.osVersion version)) ++
          params.versionIDs.map fun versionID => Clause.leaf (keywordTerm labels.osVersionID versionID)
      if shouldConditions.length > 0 then query.setShould shouldConditions else query
    else query
  ⟨params.limit, query, [("@timestamp", params.sortOrder)]⟩

section Component

variable {sat : Leaf → Bool} {params : ComponentQueryParams}

theorem allMatch_componentMustConditions :
    allMatch sat (componentMustConditions labels params) = true ↔
      sat (keywordTerm labels.osComponentID params.componentID) = true ∧
      (params.logType ≠ labels.queryParamLogTypeBuild →
        sat (keywordTerm labels.osEnvironmentID params.environmentID) = true ∧
        (params.startTime ≠ "" ∧ params.endTime ≠ "" →
          sat (timestampRange params.startTime params.endTime) = true)) ∧
      (params.logType = labels.queryParamLogTypeBuild →
        sat (keywordTerm labels.osTarget labels.targetBuild) = true ∧
        (params.buildID ≠ "" → sat (keywordTerm labels.osBuildID params.buildID) = true) ∧
        (params.buildUUID ≠ "" → sat (keywordTerm labels.osBuildUUID params.buildUUID) = true)) ∧
      (params.namespaceName ≠ "" → sat (namespaceTerm params.namespaceName) = true) ∧
      (params.searchPhrase ≠ "" → sat (searchPhraseWildcard params.searchPhrase) = true) ∧
      (params.logLevels ≠ [] → ∃ logLevel ∈ params.logLevels, sat (logLevelMatch logLevel) = true) := by
  unfold componentMustConditions
  by_cases hbuild : params.logType = labels.queryParamLogTypeBuild <;>
    simp only [hbuild, ne_eq, not_true_eq_false, not_false_eq_true, if_true, if_false,
      allMatch_addLogLevelFilter, allMatch_addSearchPhraseFilter, allMatch_addTimeRangeFilter,
      allMatch_ite_append, allMatch_append_singleton, allMatch_singleton, matches_leaf,
      true_implies, false_implies, true_and] <;>
    tauto

/-- The component query asks for its `must` filters, and for one of the versions or version IDs
when any is given. -/
theorem buildComponentLogsQuery_selects :
    (buildComponentLogsQuery labels params).selects sat = true ↔
      allMatch sat (componentMustConditions labels params) = true ∧
      (params.versions ≠ [] ∨ params.versionIDs ≠ [] →
        (∃ version ∈ params.versions, sat (keywordTerm labels.osVersion version) = true) ∨
          ∃ versionID ∈ params.versionIDs, sat (keywordTerm labels.osVersionID versionID) = true) := by
  unfold buildComponentLogsQuery SearchQuery.selects
  by_cases hnone : params.versions = [] ∧ params.versionIDs = []
  · simp [hnone, BoolQuery.toClause, matches_bool_nil]
  have hne : params.versions ≠ [] ∨ params.versionIDs ≠ [] := not_and_or.1 hnone
  have hshould : params.versions.map (fun version => Clause.leaf (keywordTerm labels.osVersion version)) ++
      params.versionIDs.map (fun versionID => Clause.leaf (keywordTerm labels.osVersionID versionID)) ≠ [] := by
    rcases hne with h | h <;> simp [h]
  have hcond : params.versions.length > 0 ∨ params.versionIDs.length > 0 := by
    rcases hne with h | h <;> simp [List.length_pos, h]
  simp only [hcond, if_true, List.length_pos.2 hshould, BoolQuery.matches_setShould _ hshould]
  simp [hne, or_and_right, exists_or]

/-- The logs `BuildComponentLogsQuery` selects: those of the component; for runtime logs those of
the environment and, when both bounds are given, of the time range; for build logs those of the
build target and of the build's ID and UUID where given; those of the namespace, of the search
phrase and of one of the log levels where given; and those of one of the versions or version IDs
where any is given. -/
theorem buildComponentLogsQuery_selects_iff :
    (buildComponentLogsQuery labels params).selects sat = true ↔
      sat (keywordTerm labels.osComponentID params.componentID) = true ∧
      (params.logType ≠ labels.queryParamLogTypeBuild →
        sat (keywordTerm labels.osEnvironmentID params.environmentID) = true ∧
        (params.startTime ≠ "" ∧ params.endTime ≠ "" →
          sat (timestampRange params.startTime params.endTime) = true)) ∧
      (params.logType = labels.queryParamLogTypeBuild →
        sat (keywordTerm labels.osTarget labels.targetBuild) = true ∧
        (params.buildID ≠ "" → sat (keywordTerm labels.osBuildID params.buildID) = true) ∧
        (params.buildUUID ≠ "" → sat (keywordTerm labels.osBuildUUID params.buildUUID) = true)) ∧
      (params.namespaceName ≠ "" → sat (namespaceTerm params.namespaceName) = true) ∧
      (params.searchPhrase ≠ "" → sat (searchPhraseWildcard params.searchPhrase) = true) ∧
      (params.logLevels ≠ [] → ∃ logLevel ∈ params.logLevels, sat (logLevelMatch logLevel) = true) ∧
      (params.versions ≠ [] ∨ params.versionIDs ≠ [] →
        (∃ version ∈ params.versions, sat (keywordTerm labels.osVersion version) = true) ∨
          ∃ versionID ∈ params.versionIDs, sat (keywordTerm labels.osVersionID versionID) = true) := by
  rw [buildComponentLogsQuery_selects, allMatch_componentMustConditions]
  simp only [and_assoc]

end Component

/-! ## `BuildProjectLogsQuery` -/

/-- `QueryBuilder.BuildProjectLogsQuery`: the project and the environment, the common filters, and
one of the components when any is given. -/
def buildProjectLogsQuery (params : QueryParams) (componentIDs : List String) : SearchQuery :=
  let mustConditions := [Clause.leaf (keywordTerm labels.osProjectID params.projectID),
    .leaf (keywordTerm labels.osEnvironmentID params.environmentID)]
  let mustConditions := addTimeRangeFilter mustConditions params.startTime params.endTime
  let mustConditions := addSearchPhraseFilter mustConditions params.searchPhrase
  let mustConditions := addLogLevelFilter mustConditions params.logLevels
  let query : BoolQuery := { must := mustConditions }
  let query :=
    if componentIDs.length > 0 then
      query.setShould
        (componentIDs.map fun componentID => Clause.leaf (keywordTerm labels.osComponentID componentID))
    else query
  ⟨params.limit, query, [("@timestamp", params.sortOrder)]⟩

/-- The logs `BuildProjectLogsQuery` selects: those of the project and the environment, of the time
range when both bounds are given, of the search phrase and one of the log levels where given, and
of one of the components where any is given. -/
theorem buildProjectLogsQuery_selects_iff {sat : Leaf → Bool} {params : QueryParams}
    {componentIDs : List String} :
    (buildProjectLogsQuery labels params componentIDs).selects sat = true ↔
      sat (keywordTerm labels.osProjectID params.projectID) = true ∧
      sat (keywordTerm labels.osEnvironmentID params.environmentID) = true ∧
      (params.startTime ≠ "" ∧ params.endTime ≠ "" →
        sat (timestampRange params.startTime params.endTime) = true) ∧
      (params.searchPhrase ≠ "" → sat (searchPhraseWildcard params.searchPhrase) = true) ∧
      (params.logLevels ≠ [] → ∃ logLevel ∈ params.logLevels, sat (logLevelMatch logLevel) = true) ∧
      (componentIDs ≠ [] →
        ∃ componentID ∈ componentIDs, sat (keywordTerm labels.osComponentID componentID) = true) := by
  unfold buildProjectLogsQuery SearchQuery.selects
  by_cases hids : componentIDs = []
  · simp only [hids, List.length_nil, gt_iff_lt, lt_self_iff_false, if_false,
      BoolQuery.matches_must, allMatch_commonFilters]
    simp [allMatch, and_assoc]
  · have hshould : componentIDs.map (fun componentID =>
        Clause.leaf (keywordTerm labels.osComponentID componentID)) ≠ [] := by simpa using hids
    simp only [List.length_pos.2 hids, if_true, BoolQuery.matches_setShould _ hshould,
      allMatch_commonFilters]
    simp [allMatch, hids, and_assoc]

/-! ## `BuildGatewayLogsQuery` -/

/-- The filters `BuildGatewayLogsQuery` puts in `must` before it looks at hosts and APIs: the time
range and the search phrase, then the organization's API path when given. -/
def gatewayMustConditions (params : GatewayQueryParams) : List Clause :=
  let mustConditions := addTimeRangeFilter [] params.startTime params.endTime
  let mustConditions := addSearchPhraseFilter mustConditions params.searchPhrase
  if params.organizationID ≠ "" then mustConditions ++ [.leaf (apiPathWildcard params.organizationID)]
  else mustConditions

/-- `QueryBuilder.BuildGatewayLogsQuery`. The hosts go to `should`; the APIs too when there are no
hosts, and otherwise both lists go into one nested bool appended to `must`, needing two of its two
clauses, after which `should` is deleted and its `minimum_should_match` is left as it was. -/
def buildGatewayLogsQuery (params : GatewayQueryParams) : SearchQuery :=
  let mustConditions := gatewayMustConditions params
  let query : BoolQuery := { must := mustConditions }
  let query :=
    if params.gatewayVHosts.length > 0 then
      let shouldConditions := params.gatewayVHosts.map fun vhost => Clause.leaf (gwHostWildcard vhost)
      if shouldConditions.length > 0 then query.setShould shouldConditions else query
    else query
  let query :=
    if params.apiIDToVersionMap.length > 0 then
      let apiShouldConditions :=
        params.apiIDToVersionMap.map fun api => Clause.leaf (apiUuidWildcard api.1)
      if apiShouldConditions.length > 0 then
        -- `existing != nil`: the key is only ever set to a non-empty list
        if !query.should.isEmpty then
          let nestedBool := Clause.bool [] []
            [.bool [] [] query.should (some 1), .bool [] [] apiShouldConditions (some 1)] (some 2)
          { query with must := mustConditions ++ [nestedBool], should := [] }
        else query.setShould apiShouldConditions
      else query
    else query
  ⟨params.limit, query, [("@timestamp", params.sortOrder)]⟩

section Gateway

variable {sat : Leaf → Bool} {params : GatewayQueryParams}

theorem allMatch_gatewayMustConditions :
    allMatch sat (gatewayMustConditions params) = true ↔
      (params.startTime ≠ "" ∧ params.endTime ≠ "" →
        sat (timestampRange params.startTime params.endTime) = true) ∧
      (params.searchPhrase ≠ "" → sat (searchPhraseWildcard params.searchPhrase) = true) ∧
      (params.organizationID ≠ "" → sat (apiPathWildcard params.organizationID) = true) := by
  simp only [gatewayMustConditions, allMatch_ite_append, allMatch_addSearchPhraseFilter,
    allMatch_addTimeRangeFilter, matches_leaf]
  simp [allMatch, and_assoc]

/-- The gateway query asks for its first `must` filters, for one of the gateway hosts when any is
given and for one of the APIs when any is given; with both given it selects nothing. -/
theorem buildGatewayLogsQuery_selects :
    (buildGatewayLogsQuery params).selects sat = true ↔
      allMatch sat (gatewayMustConditions params) = true ∧
      (params.gatewayVHosts ≠ [] → ∃ vhost ∈ params.gatewayVHosts, sat (gwHostWildcard vhost) = true) ∧
      (params.apiIDToVersionMap ≠ [] →
        ∃ api ∈ params.apiIDToVersionMap, sat (apiUuidWildcard api.1) = true) ∧
      (params.gatewayVHosts = [] ∨ params.apiIDToVersionMap = []) := by
  unfold buildGatewayLogsQuery SearchQuery.selects
  have hhosts : params.gatewayVHosts ≠ [] →
      params.gatewayVHosts.map (fun vhost => Clause.leaf (gwHostWildcard vhost)) ≠ [] := by simp
  have hapis : params.apiIDToVersionMap ≠ [] →
      params.apiIDToVersionMap.map (fun api => Clause.leaf (apiUuidWildcard api.1)) ≠ [] := by simp
  by_cases hv : params.gatewayVHosts = [] <;> by_cases ha : params.apiIDToVersionMap = []
  · -- neither hosts nor APIs: `must` alone
    simp [hv, ha, BoolQuery.matches_must]
  · -- APIs alone: they become the `should` list
    simp [hv, ha, List.length_pos, BoolQuery.matches_setShould _ (hapis ha)]
  · -- hosts alone: they become the `should` list
    simp [hv, ha, List.length_pos, BoolQuery.matches_setShould _ (hhosts hv)]
  · -- both: a nested bool joins `must`, and the `minimum_should_match` of one left once `should`
    -- is deleted asks for a `should` clause of none
    simp [hv, ha, List.length_pos, BoolQuery.setShould, BoolQuery.toClause,
      matches_bool_nil_pos _ (List.append_ne_nil_of_right_ne_nil _ (List.cons_ne_nil _ _)) Nat.one_pos]

/-- The logs `BuildGatewayLogsQuery` selects: those of the time range when both bounds are given,
of the search phrase and of the organization's API path where given, naming one of the gateway
hosts when any is given and one of the APIs when any is given, and none at all when hosts and APIs
are both given: the nested bool would ask for one of each, but the `minimum_should_match` of one
left after `should` is deleted asks for a `should` clause of none. -/
theorem buildGatewayLogsQuery_selects_iff :
    (buildGatewayLogsQuery params).selects sat = true ↔
      (params.startTime ≠ "" ∧ params.endTime ≠ "" →
        sat (timestampRange params.startTime params.endTime) = true) ∧
      (params.searchPhrase ≠ "" → sat (searchPhraseWildcard params.searchPhrase) = true) ∧
      (params.organizationID ≠ "" → sat (apiPathWildcard params.organizationID) = true) ∧
      (params.gatewayVHosts ≠ [] → ∃ vhost ∈ params.gatewayVHosts, sat (gwHostWildcard vhost) = true) ∧
      (params.apiIDToVersionMap ≠ [] →
        ∃ api ∈ params.apiIDToVersionMap, sat (apiUuidWildcard api.1) = true) ∧
      (params.gatewayVHosts = [] ∨ params.apiIDToVersionMap = []) := by
  rw [buildGatewayLogsQuery_selects, allMatch_gatewayMustConditions]
  simp only [and_assoc]

end Gateway

/-! ## `BuildOrganizationLogsQuery` -/

/-- The loop of `BuildOrganizationLogsQuery` over the pod labels: one `term` per label, in the
order the map is iterated. -/
def addPodLabelFilters (mustConditions : List Clause) (podLabels : GoMap String) : List Clause :=
  podLabels.foldl (fun mustConditions label =>
    mustConditions ++ [.leaf (podLabelTerm label.1 label.2)]) mustConditions

/-- `QueryBuilder.BuildOrganizationLogsQuery`: the organization, the environment and the namespace
where given, the common filters, and the pod labels. -/
def buildOrganizationLogsQuery (params : QueryParams) (podLabels : GoMap String) : SearchQuery :=
  let mustConditions : List Clause := []
  let mustConditions :=
    if params.organizationID ≠ "" then
      mustConditions ++ [.leaf (keywordTerm labels.osOrganizationUUID params.organizationID)]
    else mustConditions
  let mustConditions :=
    if params.environmentID ≠ "" then
      mustConditions ++ [.leaf (keywordTerm labels.osEnvironmentID params.environmentID)]
    else mustConditions
  let mustConditions :=
    if params.namespaceName ≠ "" then mustConditions ++ [.leaf (namespaceTerm params.namespaceName)]
    else mustConditions
  let mustConditions := addTimeRangeFilter mustConditions params.startTime params.endTime
  let mustConditions := addSearchPhraseFilter mustConditions params.searchPhrase
  let mustConditions := addLogLevelFilter mustConditions params.logLevels
  let mustConditions := addPodLabelFilters mustConditions podLabels
  ⟨params.limit, { must := mustConditions }, [("@timestamp", params.sortOrder)]⟩

section Organization

variable {sat : Leaf → Bool}

theorem allMatch_addPodLabelFilters {mustConditions : List Clause} {podLabels : GoMap String} :
    allMatch sat (addPodLabelFilters mustConditions podLabels) = true ↔
      allMatch sat mustConditions = true ∧
        ∀ label ∈ podLabels, sat (podLabelTerm label.1 label.2) = true := by
  induction podLabels generalizing mustConditions with
  | nil => simp [addPodLabelFilters]
  | cons label podLabels ih =>
    simp only [addPodLabelFilters, List.foldl_cons] at ih ⊢
    rw [ih, allMatch_append_singleton, matches_leaf]
    simp [and_assoc]

/-- The logs `BuildOrganizationLogsQuery` selects: those of the organization, the environment and
the namespace where given, of the time range when both bounds are given, of the search phrase and
one of the log levels where given, and carrying every pod label, whichever order the map of labels
is iterated in. With none of these given it selects every log. -/
theorem buildOrganizationLogsQuery_selects_iff {params : QueryParams} {podLabels : GoMap String} :
    (buildOrganizationLogsQuery labels params podLabels).selects sat = true ↔
      (params.organizationID ≠ "" →
        sat (keywordTerm labels.osOrganizationUUID params.organizationID) = true) ∧
      (params.environmentID ≠ "" →
        sat (keywordTerm labels.osEnvironmentID params.environmentID) = true) ∧
      (params.namespaceName ≠ "" → sat (namespaceTerm params.namespaceName) = true) ∧
      (params.startTime ≠ "" ∧ params.endTime ≠ "" →
        sat (timestampRange params.startTime params.endTime) = true) ∧
      (params.searchPhrase ≠ "" → sat (searchPhraseWildcard params.searchPhrase) = true) ∧
      (params.logLevels ≠ [] → ∃ logLevel ∈ params.logLevels, sat (logLevelMatch logLevel) = true) ∧
      ∀ label ∈ podLabels, sat (podLabelTerm label.1 label.2) = true := by
  simp only [buildOrganizationLogsQuery, SearchQuery.selects, BoolQuery.matches_must,
    allMatch_addPodLabelFilters, allMatch_commonFilters, allMatch_ite_append, matches_leaf]
  simp [allMatch, and_assoc]

end Organization

/-! ## `BuildComponentTracesQuery` -/

/-- `QueryBuilder.BuildComponentTracesQuery`: the service's spans that start at or after the start
and end at or before the end, in `filter` context, sorted by start time. -/
def buildComponentTracesQuery (params : ComponentTracesRequestParams) : SearchQuery :=
  ⟨params.limit,
    { filter := [.leaf (.term "serviceName" params.serviceName),
        .leaf (.range "startTime" [("gte", params.startTime)]),
        .leaf (.range "endTime" [("lte", params.endTime)])] },
    [("startTime", params.sortOrder)]⟩

end Builders

/-! ## `CheckQueryVersion` -/

/-- `strings.Contains(s, substr)`. -/
def stringsContains (s substr : String) : Bool :=
  decide (substr.toList <:+: s.toList)

/-- A field of an index mapping: its type. -/
structure FieldMapping where
  type : String

/-- An index of a mapping response: the properties of its `mappings`. -/
structure IndexMapping where
  properties : GoMap FieldMapping

/-- Modelled from the spec: `MappingResponse` is not among the sources; its `Mappings` map index
names to their mappings. -/
structure MappingResponse where
  mappings : GoMap IndexMapping

/-- Whether an index of the mapping response is one `CheckQueryVersion` reads as V2: its name and
the index name contain one another, and its `log` field is a wildcard field. -/
def IndexMapping.isV2 (indexName : String) (entry : String × IndexMapping) : Bool :=
  (stringsContains entry.1 indexName || stringsContains indexName entry.1) &&
    (entry.2.properties.get? "log").map FieldMapping.type == some "wildcard"

/-- `QueryBuilder.CheckQueryVersion` (its receiver is not read): the loop over the mapping
response, which returns `"v2"` at the first related index whose `log` field is a wildcard. -/
def checkQueryVersion (mapping : MappingResponse) (indexName : String) : String :=
  loop mapping.mappings
where
  /-- The loop over the indices, in the order the map is iterated. -/
  loop : GoMap IndexMapping → String
    | [] => "v1"
    | (name, indexMapping) :: mappings =>
      if stringsContains name indexName || stringsContains indexName name then
        match indexMapping.properties.get? "log" with
        | some logField => if logField.type = "wildcard" then "v2" else loop mappings
        | none => loop mappings
      else loop mappings

theorem checkQueryVersion_loop_eq (indexName : String) (mappings : GoMap IndexMapping) :
    checkQueryVersion.loop indexName mappings =
      bif mappings.any (IndexMapping.isV2 indexName) then "v2" else "v1" := by
  induction mappings with
  | nil => rfl
  | cons entry mappings ih =>
    obtain ⟨name, indexMapping⟩ := entry
    rw [checkQueryVersion.loop, List.any_cons]
    by_cases hrel : (stringsContains name indexName || stringsContains indexName name) = true
    · rw [if_pos hrel]
      cases hlog : indexMapping.properties.get? "log" with
      | none => simp [IndexMapping.isV2, hlog, ih]
      | some logField =>
        by_cases hw : logField.type = "wildcard"
        · simp [IndexMapping.isV2, hrel, hlog, hw]
        · simp [IndexMapping.isV2, hrel, hlog, hw, beq_false_of_ne hw, ih]
    · simp [IndexMapping.isV2, hrel, ih]

/-- `CheckQueryVersion` answers `"v2"` exactly when some index related to the index name maps
`log` as a wildcard field, and `"v1"` otherwise, whichever order the map is iterated in. -/
theorem checkQueryVersion_eq (mapping : MappingResponse) (indexName : String) :
    checkQueryVersion mapping indexName =
      bif mapping.mappings.any (IndexMapping.isV2 indexName) then "v2" else "v1" :=
  checkQueryVersion_loop_eq indexName mapping.mappings

example : checkQueryVersion ⟨[("logs", ⟨[("log", ⟨"text"⟩)]⟩)]⟩ "logs-2025" = "v1" := by decide

end Observer
end OpenChoreo
