import Clouditor.Requests
import Clouditor.SQLConditions
import Mathlib.Data.List.Nodup

/-! The messages the evaluation service works on. -/
namespace Clouditor
set_option autoImplicit false

inductive EvaluationStatus where
  | unspecified
  | compliant
  | compliantManually
  | notCompliant
  | notCompliantManually
  | pending
  deriving DecidableEq

/-- The wire number, which is also what the database column holds. -/
def EvaluationStatus.number : EvaluationStatus → ℤ
  | .unspecified => 0
  | .compliant => 1
  | .compliantManually => 2
  | .notCompliant => 3
  | .notCompliantManually => 4
  | .pending => 10

structure EvaluationResult where
  id : String
  cloudServiceId : String
  controlId : String
  controlCategoryName : String
  controlCatalogId : String
  parentControlId : Option String
  status : EvaluationStatus
  timestamp : Option Time
  failingAssessmentResultIds : List String
  validUntil : Option Time
  deriving DecidableEq

/-- The columns of `evaluation_results` that a filter can name. -/
inductive EvaluationColumn where
  | cloudServiceId
  | controlCatalogId
  | controlId
  | parentControlId
  | status
  | validUntil
  deriving DecidableEq

def EvaluationResult.column (r : EvaluationResult) : EvaluationColumn → SQL.Value
  | .cloudServiceId => .text r.cloudServiceId
  | .controlCatalogId => .text r.controlCatalogId
  | .controlId => .text r.controlId
  | .parentControlId => r.parentControlId.elim .null .text
  | .status => .number r.status.number
  | .validUntil => r.validUntil.elim .null .time

def EvaluationResult.manual (r : EvaluationResult) : Bool :=
  r.status = .compliantManually || r.status = .notCompliantManually

/-- A control with the metrics attached to it. `controls` are its sub-controls. -/
structure Control where
  id : String
  categoryName : String
  categoryCatalogId : String
  controls : List Control
  metrics : List String
  parentControlId : Option String
  assuranceLevel : Option String

def Control.key (c : Control) : String × String := (c.categoryName, c.id)

/-- The controls of one catalog as the orchestrator lists them: one per category and
id, each with references to its sub-controls, which are listed themselves. -/
structure ControlListing (catalogId : String) where
  controls : List Control
  key_nodup : (controls.map Control.key).Nodup
  sub_parent : ∀ c ∈ controls, ∀ s ∈ c.controls, s.parentControlId = some c.id
  sub_catalog : ∀ c ∈ controls, ∀ s ∈ c.controls, s.categoryCatalogId = catalogId
  sub_listed : ∀ c ∈ controls, ∀ s ∈ c.controls,
    ∃ t ∈ controls, t.key = s.key ∧ t.parentControlId = some c.id

theorem ControlListing.eq_of_key {catalogId : String} (L : ControlListing catalogId)
    {c d : Control} (hc : c ∈ L.controls) (hd : d ∈ L.controls) (h : c.key = d.key) : c = d :=
  List.inj_on_of_nodup_map L.key_nodup hc hd h

structure Catalog where
  id : String
  assuranceLevels : List String

structure TargetOfEvaluation where
  cloudServiceId : String
  catalogId : String
  assuranceLevel : Option String

/-- `slices.Index`. -/
def sliceIndex (levels : List String) (level : String) : ℤ :=
  match levels.idxOf? level with
  | some i => i
  | none => -1

def Control.isRelevantFor (c : Control) (toe : TargetOfEvaluation) (catalog : Catalog) : Bool :=
  if catalog.assuranceLevels.length = 0 then true
  else match c.assuranceLevel, toe.assuranceLevel with
    | some control, some target =>
      sliceIndex catalog.assuranceLevels control ≤ sliceIndex catalog.assuranceLevels target
    | _, _ => true

structure AssessmentResult where
  id : String
  timestamp : Time
  metricId : String
  compliant : Bool
  resourceId : String
  cloudServiceId : String
  deriving DecidableEq

end Clouditor
