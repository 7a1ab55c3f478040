import Clouditor.CloudServiceLists

/-! The ORDER BY texts that list requests hand to the database. -/
namespace Clouditor
set_option autoImplicit false

/-- The list requests of the services, with what their handlers look at before they build a
statement. -/
inductive ListRequest where
  | listCatalogs (page : PaginatedRequest)
  | listControls (assuranceLevels : List String) (page : PaginatedRequest)
  | listCloudServices (page : PaginatedRequest)
  | listMetrics (page : PaginatedRequest)
  | listCertificates (page : PaginatedRequest)
  | listPublicCertificates (page : PaginatedRequest)
  | listTargetsOfEvaluation (cloudServiceId : String) (page : PaginatedRequest)
  | listAssessmentResults (req : ListAssessmentResultsRequest)
  | listEvaluationResults (req : ListEvaluationResultsRequest)
  | listResources (req : ListResourcesRequest)
  | listGraphEdges (page : PaginatedRequest)
  | listEvidences (req : ListEvidencesRequest)

namespace ListRequest

def page : ListRequest → PaginatedRequest
  | listCatalogs page | listControls _ page | listCloudServices page | listMetrics page
  | listCertificates page | listPublicCertificates page | listTargetsOfEvaluation _ page
  | listGraphEdges page => page
  | listAssessmentResults req => req.page
  | listEvaluationResults req => req.page
  | listResources req => req.page
  | listEvidences req => req.page

def table : ListRequest → ListedTable
  | listCatalogs _ => .catalogs
  | listControls _ _ => .controls
  | listCloudServices _ => .cloudServices
  | listMetrics _ => .metrics
  | listCertificates _ | listPublicCertificates _ => .certificates
  | listTargetsOfEvaluation _ _ => .targetsOfEvaluation
  | listAssessmentResults _ => .assessmentResults
  | listEvaluationResults _ => .evaluationResults
  -- edges are read off the resources they start from
  | listResources _ | listGraphEdges _ => .resources
  | listEvidences _ => .evidences

/-- `api.Validate`. No constraint of a request message concerns its page fields. -/
def valid : ListRequest → Bool
  | listControls levels _ => levels.all (· ≠ "")
  | listAssessmentResults req => req.valid
  | listEvaluationResults req => req.valid
  | listEvidences req => req.valid
  | listCatalogs _ | listCloudServices _ | listMetrics _ | listCertificates _
  | listPublicCertificates _ | listTargetsOfEvaluation _ _ | listResources _
  | listGraphEdges _ => true

def permitted (a : Access) : ListRequest → Bool
  | listTargetsOfEvaluation cloudServiceId _ => a.checkAccess cloudServiceId
  | listAssessmentResults req => req.permitted a
  | listEvaluationResults req => req.permitted a
  | listResources req => req.permitted a
  | listEvidences req => req.permitted a
  | listCatalogs _ | listControls _ _ | listCloudServices _ | listMetrics _
  | listCertificates _ | listPublicCertificates _ | listGraphEdges _ => true

/-- The latest results are read with a raw statement, past the pager. -/
def raw : ListRequest → Bool
  | listAssessmentResults req => req.latestByResourceId.getD false
  | listEvaluationResults req => req.latest
  | _ => false

end ListRequest

/-- The ORDER BY texts of the pager: `paginate` over a storage that notes the text of each
statement instead of running it. -/
def pagerOrders (req : PaginatedRequest) (opts : PaginationOpts) : List String :=
  match paginate req opts (fun _ _ => .ok ([orderStmt req.orderBy req.asc], true)) with
  | .ok (texts, _) => texts
  | .error _ => []

/-- Nothing but the noted texts is asked of the database. -/
theorem paginateStorage_orders {α : Type} {stamp : α → Option ℤ} (E E' : SQL.Engine α stamp)
    (req : PaginatedRequest) (opts : PaginationOpts) (rows : List α)
    (h : ∀ text ∈ pagerOrders req opts, E.sort text = E'.sort text) :
    paginateStorage E req opts rows = paginateStorage E' req opts rows := by
  cases ht : req.pageToken with
  | malformed => simp only [paginateStorage, paginate, ht]
  | empty | encoded _ =>
    have hs : E.sort (orderStmt req.orderBy req.asc) = E'.sort (orderStmt req.orderBy req.asc) :=
      h _ (by simp [pagerOrders, paginate, ht])
    simp only [paginateStorage, storageList, hs]

/-- The ORDER BY texts handed to GORM for a request. A raw statement is handed none. -/
def ListRequest.orders (a : Access) (req : ListRequest) : List String :=
  if !req.valid then []
  else if !req.permitted a then []
  else if req.raw then [""]
  else pagerOrders req.page defaultPaginationOpts

/-- Every text is empty or a column of the listed table with a direction, and a request with
another `order_by` is turned away before there is a statement. -/
def ListRequest.OrderingSafe (a : Access) (req : ListRequest) : Prop :=
  (∀ text ∈ req.orders a, req.table.Orders text) ∧
    (¬ req.page.OrdersBy req.table → req.orders a = [])

theorem pagerOrders_eq (req : PaginatedRequest) (opts : PaginationOpts) :
    pagerOrders req opts =
      if req.pageToken = .malformed then [] else [orderStmt req.orderBy req.asc] := by
  cases ht : req.pageToken <;> simp [pagerOrders, paginate, ht]

/-- No request is turned away because of its `order_by`. -/
theorem ordering_safe_iff (a : Access) (req : ListRequest) (hv : req.valid = true) :
    req.OrderingSafe a ↔ req.page.OrdersBy req.table ∨ req.permitted a = false ∨
      (req.raw = false ∧ req.page.pageToken = .malformed) := by
  unfold ListRequest.OrderingSafe ListRequest.orders
  simp only [hv, pagerOrders_eq, Bool.not_true, Bool.false_eq_true, if_false]
  by_cases ho : req.page.OrdersBy req.table
  · have htext := orderStmt_orders req.page req.table ho
    have hempty : req.table.Orders "" := .inl rfl
    split_ifs <;> simp [ho, htext, hempty]
  · by_cases hp : req.permitted a = true
    · by_cases hr : req.raw = true
      · simp [ho, hp, hr]
      · by_cases ht : req.page.pageToken = .malformed <;> simp [ho, hp, hr, ht]
    · simp [ho, hp]

theorem ordering_safe_sample : (ListRequest.listMetrics ⟨0, .empty, "name", true⟩).OrderingSafe
    ⟨false, []⟩ :=
  (ordering_safe_iff ⟨false, []⟩ (.listMetrics ⟨0, .empty, "name", true⟩) rfl).mpr
    (.inl (by decide))

instance (t : ListedTable) (text : String) : Decidable (t.Orders text) :=
  inferInstanceAs (Decidable (_ ∨ _))

/-- A subquery as `order_by` reads another table. -/
theorem ordering_of_subquery :
    (ListRequest.listMetrics
      ⟨0, .empty, "(SELECT raw FROM evidences LIMIT 1)", true⟩).valid = true ∧
    (ListRequest.listMetrics ⟨0, .empty, "(SELECT raw FROM evidences LIMIT 1)", true⟩).orders
      ⟨false, []⟩ = ["(SELECT raw FROM evidences LIMIT 1) asc"] ∧
    ¬ ListedTable.metrics.Orders "(SELECT raw FROM evidences LIMIT 1) asc" := by
  exact ⟨rfl, rfl, by decide⟩

end Clouditor
