import Clouditor.EvaluationQuery
import Clouditor.ScopedRequests
import Clouditor.SQLGroups

/-! Requests that read rows of a cloud service: the filters, the conditions that confine a
statement to the services of the caller, and the pages they return. -/
namespace Clouditor
set_option autoImplicit false

inductive ListedTable where
  | assessmentResults
  | evidences
  | certificates
  | resources
  | cloudServices
  | catalogs
  | controls
  | metrics
  | targetsOfEvaluation
  | evaluationResults
  deriving DecidableEq

/-- The columns that GORM makes of the fields of a message, without its associations. -/
def ListedTable.columns : ListedTable → List String
  | .assessmentResults => ["id", "timestamp", "metric_id", "metric_configuration", "compliant",
      "evidence_id", "resource_id", "resource_types", "non_compliance_comments",
      "cloud_service_id", "tool_id"]
  | .evidences => ["id", "timestamp", "cloud_service_id", "tool_id", "raw", "resource"]
  | .certificates => ["id", "name", "cloud_service_id", "issue_date", "expiration_date",
      "standard", "assurance_level", "cab", "description"]
  | .resources => ["id", "cloud_service_id", "resource_type", "properties"]
  | .cloudServices => ["id", "name", "description", "created_at", "updated_at", "metadata"]
  | .catalogs => ["id", "name", "description", "all_in_scope", "assurance_levels", "short_name",
      "metadata"]
  | .controls => ["id", "category_name", "category_catalog_id", "name", "description",
      "parent_control_id", "parent_control_category_name", "parent_control_category_catalog_id",
      "assurance_level"]
  | .metrics => ["id", "name", "description", "category", "scale", "range", "interval",
      "deprecated_since"]
  | .targetsOfEvaluation => ["cloud_service_id", "catalog_id", "assurance_level"]
  | .evaluationResults => ["id", "cloud_service_id", "control_id", "control_category_name",
      "control_catalog_id", "parent_control_id", "status", "timestamp",
      "failing_assessment_result_ids", "comment", "valid_until"]

/-- An ORDER BY text that is empty or one column of the table with a direction. -/
def ListedTable.Orders (t : ListedTable) (text : String) : Prop :=
  text = "" ∨ ∃ c ∈ t.columns, text = c ++ " " ++ "asc" ∨ text = c ++ " " ++ "desc"

/-- The `order_by` of a request is empty or a column of the table. -/
def PaginatedRequest.OrdersBy (req : PaginatedRequest) (t : ListedTable) : Prop :=
  req.orderBy = "" ∨ req.orderBy ∈ t.columns

instance (req : PaginatedRequest) (t : ListedTable) : Decidable (req.OrdersBy t) :=
  inferInstanceAs (Decidable (_ ∨ _))

theorem orderStmt_orders (req : PaginatedRequest) (t : ListedTable) (h : req.OrdersBy t) :
    t.Orders (orderStmt req.orderBy req.asc) := by
  unfold orderStmt
  split
  · exact .inl rfl
  · rename_i hne
    refine .inr ⟨req.orderBy, h.resolve_left hne, ?_⟩
    cases req.asc
    · exact .inr rfl
    · exact .inl rfl

section Conditions
variable {C α : Type}

/-- `cloud_service_id IN ?`, unless the caller may see all services. -/
def Access.conditions (a : Access) (cloudServiceId : C) : List (SQL.BoundGroup C) :=
  if a.all then [] else [[(.isIn cloudServiceId, some (.list (a.allowed.map .text)))]]

def equals (c : C) (s : String) : SQL.BoundGroup C := [(.eq c, some (.value (.text s)))]

/-- The rows for conditions that are joined with AND. None of them mentions the time. -/
def selectWhere (column : α → C → SQL.Value) (conds : List (SQL.BoundGroup C)) (rows : List α) :
    Option (List α) :=
  SQL.GroupQuery.select column 0 (conds.map SQL.groupFragment) rows

variable {stamp : α → Option ℤ}

def paginateWhere (E : SQL.Engine α stamp) (column : α → C → SQL.Value) (req : PaginatedRequest)
    (conds : List (SQL.BoundGroup C)) (rows : List α) : Except Err (List α × PageTokenText) :=
  match selectWhere column conds rows with
  | none => .error (errDatabase.wrap "database error")
  | some rows => paginateStorage E req defaultPaginationOpts rows

end Conditions

def errPaginateResults (e : Err) : Err := ⟨some .internal, "could not paginate results: " ++ e.msg⟩

section AssessmentResults

/-- The field `metric_id` is validated, but no list call reads it. -/
structure AssessmentFilter where
  cloudServiceId : Option String
  compliant : Option Bool
  metricIds : Option (List String)
  metricId : Option String
  toolId : Option String

structure ListAssessmentResultsRequest where
  filter : Option AssessmentFilter
  latestByResourceId : Option Bool
  page : PaginatedRequest

def AssessmentFilter.valid (f : AssessmentFilter) : Bool :=
  f.cloudServiceId.all isUuid && f.metricIds.all (·.all (· ≠ "")) && f.metricId.all (· ≠ "") &&
    f.toolId.all (· ≠ "")

def ListAssessmentResultsRequest.valid (req : ListAssessmentResultsRequest) : Bool :=
  req.filter.all AssessmentFilter.valid

def ListAssessmentResultsRequest.permitted (a : Access) (req : ListAssessmentResultsRequest) :
    Bool :=
  req.filter.all (fun f => f.cloudServiceId.all a.checkAccess)

inductive AssessmentResultColumn where
  | cloudServiceId
  | compliant
  | metricId
  | toolId

def boolValue (b : Bool) : SQL.Value := .number (if b then 1 else 0)

def AssessmentResultRow.column (r : AssessmentResultRow) : AssessmentResultColumn → SQL.Value
  | .cloudServiceId => .text r.cloudServiceId
  | .compliant => boolValue r.compliant
  | .metricId => .text r.metricId
  | .toolId => r.toolId.elim .null .text

def AssessmentFilter.conditions (f : AssessmentFilter) :
    List (SQL.BoundGroup AssessmentResultColumn) :=
  f.cloudServiceId.toList.map (equals .cloudServiceId) ++
  f.compliant.toList.map (fun b => [(.eq .compliant, some (.value (boolValue b)))]) ++
  f.metricIds.toList.map (fun ids => [(.isIn .metricId, some (.list (ids.map .text)))]) ++
  f.toolId.toList.map (equals .toolId)

def ListAssessmentResultsRequest.conditions (a : Access) (req : ListAssessmentResultsRequest) :
    List (SQL.BoundGroup AssessmentResultColumn) :=
  req.filter.elim [] AssessmentFilter.conditions ++ a.conditions .cloudServiceId

def listAssessmentResults (E : SQL.Engine AssessmentResultRow AssessmentResultRow.timestamp)
    (a : Access) (table : List AssessmentResultRow) (req : ListAssessmentResultsRequest) :
    Except Err (List AssessmentResultRow × PageTokenText) :=
  if !req.valid then .error errInvalidRequest
  else if !req.permitted a then .error errPermissionDenied
  else if req.latestByResourceId.getD false then
    -- a raw statement: no page, no token and no order of the rows it leaves
    match selectWhere AssessmentResultRow.column (req.conditions a) table, E.sort "" with
    | some rows, some f => .ok (f (E.firstPer (fun r => (r.resourceId, r.metricId)) rows), .empty)
    | _, _ => .error (errStorage errDatabase.msg)
  else
    (paginateWhere E AssessmentResultRow.column req.page (req.conditions a) table).mapError
      errPaginateResults

end AssessmentResults

section Evidences

structure EvidenceFilter where
  cloudServiceId : Option String
  toolId : Option String

structure ListEvidencesRequest where
  filter : Option EvidenceFilter
  page : PaginatedRequest

def ListEvidencesRequest.valid (req : ListEvidencesRequest) : Bool :=
  req.filter.all (fun f => f.cloudServiceId.all isUuid && f.toolId.all isUuid)

inductive EvidenceColumn where
  | id
  | cloudServiceId
  | toolId

def EvidenceRow.column (e : EvidenceRow) : EvidenceColumn → SQL.Value
  | .id => .text e.id
  | .cloudServiceId => .text e.cloudServiceId
  | .toolId => .text e.toolId

/-- A field of a filter counts as set when it is not empty. -/
def setField (s : Option String) : Option String := s.filter (· ≠ "")

def ListEvidencesRequest.permitted (a : Access) (req : ListEvidencesRequest) : Bool :=
  req.filter.all (fun f => (setField f.cloudServiceId).all a.checkAccess)

def EvidenceFilter.conditions (f : EvidenceFilter) : List (SQL.BoundGroup EvidenceColumn) :=
  (setField f.cloudServiceId).toList.map (equals .cloudServiceId) ++
  (setField f.toolId).toList.map (equals .toolId)

def listEvidences (E : SQL.Engine EvidenceRow EvidenceRow.timestamp) (a : Access)
    (table : List EvidenceRow) (req : ListEvidencesRequest) :
    Except Err (List EvidenceRow × PageTokenText) :=
  if !req.valid then .error errInvalidRequest
  else if !req.permitted a then .error errPermissionDenied
  else
    (paginateWhere E EvidenceRow.column req.page
      (req.filter.elim [] EvidenceFilter.conditions ++ a.conditions .cloudServiceId)
      table).mapError errPaginateResults

def getEvidence (a : Access) (table : List EvidenceRow) (evidenceId : String) :
    Except Err EvidenceRow :=
  if !isUuid evidenceId then .error errInvalidRequest
  else match selectWhere EvidenceRow.column (equals .id evidenceId :: a.conditions .cloudServiceId)
      table with
    | none => .error (errStorage errDatabase.msg)
    | some [] => .error ⟨some .notFound, "evidence not found"⟩
    | some (e :: _) => .ok e

end Evidences

section Certificates

/-- A state of a certificate, in a table of its own. -/
structure CertificateState where
  id : String
  state : String
  treeId : String
  timestamp : String
  certificateId : String
  deriving DecidableEq

/-- A certificate as it is returned, with its preloaded states. -/
structure ListedCertificate where
  certificate : Certificate
  states : List CertificateState
  deriving DecidableEq

inductive CertificateColumn where
  | cloudServiceId

def Certificate.column (c : Certificate) : CertificateColumn → SQL.Value
  | .cloudServiceId => .text c.cloudServiceId

/-- One more statement reads the states of all certificates of a page that has any. -/
def preloadStates (S : SQL.Engine CertificateState (fun _ => none))
    (states : List CertificateState) (page : List Certificate) :
    Except Err (List ListedCertificate) :=
  if page.isEmpty then .ok []
  else match S.sort "" with
  | none => .error (errDatabase.wrap "database error")
  | some f =>
    let loaded := f (states.filter (fun s => (page.map Certificate.id).contains s.certificateId))
    .ok (page.map (fun c => ⟨c, loaded.filter (fun s => s.certificateId = c.id)⟩))

def listCertificates (E : SQL.Engine Certificate (fun _ => none))
    (S : SQL.Engine CertificateState (fun _ => none)) (a : Access) (table : List Certificate)
    (states : List CertificateState) (req : PaginatedRequest) :
    Except Err (List ListedCertificate × PageTokenText) :=
  let list : Except Err (List ListedCertificate × PageTokenText) :=
    match paginateWhere E Certificate.column req (a.conditions .cloudServiceId) table with
    | .error e => .error e
    | .ok (page, next) => (preloadStates S states page).map (fun page => (page, next))
  list.mapError errPaginateResults

end Certificates

section Resources

structure ResourceFilter where
  type : Option String
  cloudServiceId : Option String

structure ListResourcesRequest where
  filter : Option ResourceFilter
  page : PaginatedRequest

inductive ResourceColumn where
  | cloudServiceId
  | resourceType

def Resource.column (r : Resource) : ResourceColumn → SQL.Value
  | .cloudServiceId => .text r.cloudServiceId
  | .resourceType => .text r.resourceType

/-- The type anywhere but alone in a comma separated list. -/
def typeCondition (type : String) : SQL.BoundGroup ResourceColumn :=
  [type ++ ",%", "%," ++ type ++ ",%", "%," ++ type].map
    (fun p => (.like .resourceType, some (.value (.text p))))

def ResourceFilter.conditions (f : ResourceFilter) : List (SQL.BoundGroup ResourceColumn) :=
  f.cloudServiceId.toList.map (equals .cloudServiceId) ++ f.type.toList.map typeCondition

/-- A filter without a service is checked as one for the empty service id. -/
def ListResourcesRequest.permitted (a : Access) (req : ListResourcesRequest) : Bool :=
  req.filter.all (fun f => a.checkAccess (f.cloudServiceId.getD ""))

def listResources (E : SQL.Engine Resource (fun _ => none)) (a : Access) (table : List Resource)
    (req : ListResourcesRequest) : Except Err (List Resource × PageTokenText) :=
  if !req.permitted a then .error errPermissionDenied
  else paginateWhere E Resource.column req.page
    (req.filter.elim [] ResourceFilter.conditions ++ a.conditions .cloudServiceId) table

/-- The value of a message field, as far as `Related` looks at it. -/
inductive FieldValue where
  | text (s : String)
  | other

/-- The fields of an ontology resource in the order of its descriptor. -/
abbrev OntologyMessage := List (String × FieldValue)

structure Relationship where
  property : String
  value : String

/-- `strings.CutSuffix`. -/
def cutSuffix (s suffix : String) : Option String :=
  if suffix.toList.isSuffixOf s.toList then
    some (String.ofList (s.toList.take (s.toList.length - suffix.toList.length)))
  else none

def related (m : OntologyMessage) : List Relationship :=
  m.flatMap (fun p =>
    match cutSuffix p.1 "_id", p.2 with
    | some property, .text s => if s = "" then [] else [⟨property, s⟩]
    | _, _ => [])

structure GraphEdge where
  id : String
  source : String
  target : String
  type : String
  deriving DecidableEq

/-- The edges from one resource. Properties that are no ontology resource have none. -/
def Resource.edges (toOntologyResource : String → Option OntologyMessage) (r : Resource) :
    List GraphEdge :=
  match r.properties.bind toOntologyResource with
  | none => []
  | some m => (related m).map (fun rel => ⟨r.id ++ "-" ++ rel.value, r.id, rel.value, rel.property⟩)

def listGraphEdges (toOntologyResource : String → Option OntologyMessage)
    (E : SQL.Engine Resource (fun _ => none)) (a : Access) (table : List Resource)
    (req : PaginatedRequest) : Except Err (List GraphEdge × PageTokenText) :=
  match paginateWhere E Resource.column req (a.conditions .cloudServiceId) table with
  | .error e => .error (errStorage e.msg)
  -- the pages are pages of resources, each with any number of edges
  | .ok (page, next) => .ok (page.flatMap (Resource.edges toOntologyResource), next)

end Resources

section Fitting

theorem equals_fits {C : Type} (c : C) (s : String) : ∀ b ∈ equals c s, SQL.Fits b := by
  simp [equals, SQL.Fits, SQL.Predicate.takesArg]

/-- Conditions of an optional field. -/
theorem option_fits {β C : Type} (o : Option β) (g : β → SQL.BoundGroup C)
    (hg : ∀ x, ∀ b ∈ g x, SQL.Fits b) : ∀ c ∈ o.toList.map g, ∀ b ∈ c, SQL.Fits b := by
  intro c hc
  obtain ⟨x,_,rfl⟩ := List.mem_map.mp hc
  exact hg x

theorem assessment_conditions_fit (f : AssessmentFilter) :
    ∀ g ∈ f.conditions, ∀ b ∈ g, SQL.Fits b := by
  intro g hg
  simp only [AssessmentFilter.conditions, List.mem_append] at hg
  rcases hg with ((hg | hg) | hg) | hg
  · exact option_fits _ _ (equals_fits _) g hg
  · exact option_fits _ _ (by simp [SQL.Fits, SQL.Predicate.takesArg]) g hg
  · exact option_fits _ _ (by simp [SQL.Fits, SQL.Predicate.takesArg]) g hg
  · exact option_fits _ _ (equals_fits _) g hg

theorem evidence_conditions_fit (f : EvidenceFilter) :
    ∀ g ∈ f.conditions, ∀ b ∈ g, SQL.Fits b := by
  intro g hg
  rcases List.mem_append.mp hg with hg | hg
  · exact option_fits _ _ (equals_fits _) g hg
  · exact option_fits _ _ (equals_fits _) g hg

theorem resource_conditions_fit (f : ResourceFilter) :
    ∀ g ∈ f.conditions, ∀ b ∈ g, SQL.Fits b := by
  intro g hg
  rcases List.mem_append.mp hg with hg | hg
  · exact option_fits _ _ (equals_fits _) g hg
  · exact option_fits _ _ (by simp [typeCondition, SQL.Fits, SQL.Predicate.takesArg]) g hg

/-- A request without a filter has no conditions of its own. -/
theorem filter_fits {F C : Type} (filter : Option F) (conds : F → List (SQL.BoundGroup C))
    (h : ∀ f, ∀ g ∈ conds f, ∀ b ∈ g, SQL.Fits b) :
    ∀ g ∈ filter.elim [] conds, ∀ b ∈ g, SQL.Fits b := by
  cases filter with
  | none => simp
  | some f => exact h f

theorem conditions_fit {C : Type} (a : Access) (c : C) :
    ∀ g ∈ a.conditions c, ∀ b ∈ g, SQL.Fits b := by
  intro g hg b hb
  unfold Access.conditions at hg
  split_ifs at hg
  · cases hg
  · cases List.mem_singleton.mp hg
    cases List.mem_singleton.mp hb
    rfl

/-- The restriction to the services of a caller is the access check, row by row. -/
theorem conditions_meet {C α : Type} (a : Access) (column : α → C → SQL.Value) (c : C) (r : α)
    (s : String) (h : column r c = .text s) :
    (a.conditions c).all (SQL.meets column 0 r) = a.checkAccess s := by
  cases ha : a.all with
  | true => simp [Access.conditions, Access.checkAccess, ha]
  | false =>
    simp [Access.conditions, Access.checkAccess, ha, SQL.meets, h]

end Fitting
end Clouditor
