import Clouditor.EvaluationData
import Clouditor.MetricStore

/-! Requests that write rows of a cloud service: what the orchestrator, the evidence store
and the discovery service check, and which rows they then write. -/
namespace Clouditor
set_option autoImplicit false

structure Metadata where
  labels : List (String × String)
  icon : Option String
  deriving DecidableEq

structure CloudService where
  id : String
  name : String
  description : String
  createdAt : Option Time
  updatedAt : Option Time
  metadata : Option Metadata
  deriving DecidableEq

structure Certificate where
  id : String
  name : String
  cloudServiceId : String
  issueDate : String
  expirationDate : String
  standard : String
  assuranceLevel : String
  cab : String
  description : String
  deriving DecidableEq

/-- A row of the evidence store, with its resource as stored text. -/
structure EvidenceRow where
  id : String
  timestamp : Option Time
  cloudServiceId : String
  toolId : String
  raw : Option String
  resource : Option String
  deriving DecidableEq

structure AssessmentResultRow where
  id : String
  timestamp : Option Time
  metricId : String
  metricConfiguration : Option MetricConfiguration
  compliant : Bool
  evidenceId : String
  resourceId : String
  resourceTypes : List String
  nonComplianceComments : String
  cloudServiceId : String
  toolId : Option String
  deriving DecidableEq

/-- What a discoverer knows of a resource. -/
structure Discovered where
  id : String
  resourceType : String
  properties : Option String
  deriving DecidableEq

structure Resource extends Discovered where
  cloudServiceId : String
  deriving DecidableEq

def Resource.key (r : Resource) : String := r.id

def TargetOfEvaluation.key (t : TargetOfEvaluation) : String × String :=
  (t.cloudServiceId, t.catalogId)

/-- The tables with rows of a cloud service, and the catalogs for the foreign key of the
targets of evaluation. -/
structure Database where
  store : MetricStore
  certificates : Keyed.Rows Certificate.id
  targets : Keyed.Rows TargetOfEvaluation.key
  cloudServices : Keyed.Rows CloudService.id
  evidences : Keyed.Rows EvidenceRow.id
  assessmentResults : Keyed.Rows AssessmentResultRow.id
  resources : Keyed.Rows Resource.key
  catalogs : List String

section Validation

def CloudService.valid (s : CloudService) : Bool := (s.id = "" || isUuid s.id) && s.name ≠ ""

def Certificate.valid (c : Certificate) : Bool :=
  c.id ≠ "" && c.name ≠ "" && isUuid c.cloudServiceId

def TargetOfEvaluation.valid (t : TargetOfEvaluation) : Bool :=
  isUuid t.cloudServiceId && t.catalogId ≠ "" && t.assuranceLevel.all
    (["", "basic", "substantial", "high", "low", "medium"].contains ·)

def EvidenceRow.valid (e : EvidenceRow) : Bool :=
  isUuid e.id && e.timestamp.isSome && isUuid e.cloudServiceId && e.toolId ≠ "" &&
    e.raw.all (· ≠ "") && e.resource.isSome

def AssessmentResultRow.valid (r : AssessmentResultRow) : Bool :=
  isUuid r.id && r.timestamp.isSome && r.metricId ≠ "" &&
    r.metricConfiguration.any MetricConfiguration.valid && isUuid r.evidenceId &&
    r.resourceId ≠ "" && r.resourceTypes.length ≠ 0 && isUuid r.cloudServiceId &&
    r.toolId.all (· ≠ "")

def Resource.valid (r : Resource) : Bool :=
  r.id ≠ "" && isUuid r.cloudServiceId && r.resourceType ≠ "" && r.properties.isSome

end Validation

section Orchestrator

def errUniqueConstraintFailed : String := "unique constraint failed"

def errStorage (msg : String) : Err := ⟨some .internal, "database error: " ++ msg⟩

def errCertificationNotFound : Err := ⟨some .notFound, "certificate not found"⟩
def errToeNotFound : Err := ⟨some .notFound, "ToE not found"⟩
def errServiceNotFound : Err := ⟨some .notFound, "service not found"⟩

/-- What a handler answers, and the database after it. -/
abbrev Handled (α : Type) := Except Err (α × Database)

def Database.updateMetricConfiguration (db : Database) (a : Access) (now : Time)
    (req : UpdateMetricConfigurationRequest) : Handled MetricConfiguration :=
  (db.store.updateMetricConfiguration a (fun s => (db.cloudServices.find s).isSome) now req).map
    (fun c => (c.answer, { db with store := c.store }))

def Database.createCertificate (db : Database) (a : Access) (c : Certificate) :
    Handled Certificate :=
  checked c.valid a c.cloudServiceId <|
    match db.certificates.create c with
    | none => .error ⟨some .internal,
        "could not add certificate to the database: " ++ errUniqueConstraintFailed⟩
    | some rows => .ok (c, { db with certificates := rows })

def Database.updateCertificate (db : Database) (a : Access) (c : Certificate) :
    Handled Certificate :=
  checked c.valid a c.cloudServiceId <|
    match db.certificates.find c.id with
    | none => .error errCertificationNotFound
    -- whatever service the stored row belongs to
    | some _ => .ok (c, { db with certificates := db.certificates.save c })

/-- Here the service of the stored row is checked, not one of the request. -/
def Database.removeCertificate (db : Database) (a : Access) (certificateId : String) :
    Handled Unit :=
  if certificateId = "" then .error errInvalidRequest
  else match db.certificates.find certificateId with
    | none => .error errCertificationNotFound
    | some row =>
      if !a.checkAccess row.cloudServiceId then .error errPermissionDenied
      else .ok ((), { db with certificates := db.certificates.delete certificateId })

def Database.createTargetOfEvaluation (db : Database) (a : Access) (t : TargetOfEvaluation) :
    Handled TargetOfEvaluation :=
  checked t.valid a t.cloudServiceId <|
    match db.targets.create t with
    | none => .error (errStorage errUniqueConstraintFailed)
    | some rows =>
      if !(db.catalogs.contains t.catalogId && (db.cloudServices.find t.cloudServiceId).isSome)
      then .error ⟨some .invalidArgument, "invalid catalog or cloud service"⟩
      else .ok (t, { db with targets := rows })

/-- `Update` writes the fields that are set. If none is, there is no statement to run and
no row is affected. -/
def Database.updateTargetOfEvaluation (db : Database) (a : Access) (t : TargetOfEvaluation) :
    Handled TargetOfEvaluation :=
  checked t.valid a t.cloudServiceId <|
    match db.targets.find t.key, t.assuranceLevel with
    | some row, some level =>
      .ok (t, { db with targets := db.targets.save { row with assuranceLevel := some level } })
    | _, _ => .error errToeNotFound

def Database.removeTargetOfEvaluation (db : Database) (a : Access)
    (cloudServiceId catalogId : String) : Handled Unit :=
  checked (isUuid cloudServiceId && catalogId ≠ "") a cloudServiceId <|
    match db.targets.find (cloudServiceId, catalogId) with
    | none => .error errToeNotFound
    | some _ => .ok ((), { db with targets := db.targets.delete (cloudServiceId, catalogId) })

/-- The service that `RegisterCloudService` makes of a request. -/
def CloudService.registered (s : CloudService) (newId : String) (now : Time) : CloudService where
  id := newId
  name := s.name
  description := s.description
  createdAt := some now
  updatedAt := some now
  metadata := some (s.metadata.getD ⟨[], none⟩)

/-- Registering a service does not check any access rights. -/
def Database.registerCloudService (db : Database) (newId : String) (now : Time)
    (s : CloudService) : Handled CloudService :=
  if !s.valid then .error errInvalidRequest
  else match db.cloudServices.create (s.registered newId now) with
    | none => .error ⟨some .internal,
        "could not add cloud service to the database: " ++ errUniqueConstraintFailed⟩
    | some rows => .ok (s.registered newId now, { db with cloudServices := rows })

def Database.updateCloudService (db : Database) (a : Access) (now : Time) (s : CloudService) :
    Handled CloudService :=
  checked s.valid a s.id <|
    match db.cloudServices.find s.id with
    | none => .error errServiceNotFound
    | some _ =>
      let res := { s with updatedAt := some now }
      .ok (res, { db with cloudServices := db.cloudServices.save res })

/-- A service that targets of evaluation or metric configurations refer to stays. -/
def Database.removeCloudService (db : Database) (a : Access) (cloudServiceId : String) :
    Handled Unit :=
  checked (isUuid cloudServiceId) a cloudServiceId <|
    match db.cloudServices.find cloudServiceId with
    | none => .error errServiceNotFound
    | some _ =>
      if db.targets.any (fun t => t.cloudServiceId = cloudServiceId) ||
          db.store.configurations.any (fun c => c.cloudServiceId = cloudServiceId) then
        .error (errStorage "FOREIGN KEY constraint failed")
      else .ok ((), { db with cloudServices := db.cloudServices.delete cloudServiceId })

def Database.storeAssessmentResult (db : Database) (a : Access) (r : AssessmentResultRow) :
    Handled Unit :=
  checked r.valid a r.cloudServiceId <|
    match db.assessmentResults.create r with
    | none => .error (errStorage errUniqueConstraintFailed)
    | some rows => .ok ((), { db with assessmentResults := rows })

end Orchestrator

section OtherServices

def Database.storeEvidence (db : Database) (a : Access) (e : EvidenceRow) : Handled Unit :=
  checked e.valid a e.cloudServiceId <|
    match db.evidences.create e with
    | none => .error ⟨some .alreadyExists, "entry already exists"⟩
    | some rows => .ok ((), { db with evidences := rows })

/-- The resource is not a required field. Without one the handler gets past the access
check only for the empty service id, and then dereferences a nil pointer. -/
def Database.updateResource (db : Database) (a : Access) (resource : Option Resource) :
    Handled Resource :=
  checked (resource.all Resource.valid) a (resource.elim "" Resource.cloudServiceId) <|
    match resource with
    | none => .error ⟨none, "invalid memory address or nil pointer dereference"⟩
    -- whatever service a stored row of this id belongs to
    | some r => .ok (r, { db with resources := db.resources.save r })

/-- `Start`, together with what the scheduled discoverers then save. The discovery works
for the service `csId`; `configured` is the outcome of the set up of the providers. -/
def Database.startDiscovery (db : Database) (a : Access) (csId : String)
    (configured : Except Err Unit) (found : List Discovered) : Handled Unit :=
  checked true a csId <|
    match configured with
    | .error e => .error e
    | .ok _ =>
      -- one `Save` for each resource, which all get the service of the discovery
      let rows := db.resources.saveAll (found.map (fun d => { d with cloudServiceId := csId }))
      .ok ((), { db with resources := rows })

end OtherServices

/-- A call from outside: the rights of the caller, the time and the next random id. -/
structure Call where
  access : Access
  now : Time
  newId : String

inductive ScopedRequest where
  | updateMetricConfiguration (req : UpdateMetricConfigurationRequest)
  | createCertificate (c : Certificate)
  | updateCertificate (c : Certificate)
  | removeCertificate (certificateId : String)
  | createTargetOfEvaluation (t : TargetOfEvaluation)
  | updateTargetOfEvaluation (t : TargetOfEvaluation)
  | removeTargetOfEvaluation (cloudServiceId catalogId : String)
  | registerCloudService (s : CloudService)
  | updateCloudService (s : CloudService)
  | removeCloudService (cloudServiceId : String)
  | storeAssessmentResult (r : AssessmentResultRow)
  | storeEvidence (e : EvidenceRow)
  | updateResource (r : Option Resource)
  | startDiscovery (csId : String) (configured : Except Err Unit) (found : List Discovered)

/-- The database after an accepted request. -/
def Database.handle (db : Database) (call : Call) : ScopedRequest → Except Err Database
  | .updateMetricConfiguration req =>
    (db.updateMetricConfiguration call.access call.now req).map Prod.snd
  | .createCertificate c => (db.createCertificate call.access c).map Prod.snd
  | .updateCertificate c => (db.updateCertificate call.access c).map Prod.snd
  | .removeCertificate id => (db.removeCertificate call.access id).map Prod.snd
  | .createTargetOfEvaluation t => (db.createTargetOfEvaluation call.access t).map Prod.snd
  | .updateTargetOfEvaluation t => (db.updateTargetOfEvaluation call.access t).map Prod.snd
  | .removeTargetOfEvaluation s c => (db.removeTargetOfEvaluation call.access s c).map Prod.snd
  | .registerCloudService s => (db.registerCloudService call.newId call.now s).map Prod.snd
  | .updateCloudService s => (db.updateCloudService call.access call.now s).map Prod.snd
  | .removeCloudService id => (db.removeCloudService call.access id).map Prod.snd
  | .storeAssessmentResult r => (db.storeAssessmentResult call.access r).map Prod.snd
  | .storeEvidence e => (db.storeEvidence call.access e).map Prod.snd
  | .updateResource r => (db.updateResource call.access r).map Prod.snd
  | .startDiscovery csId configured found =>
    (db.startDiscovery call.access csId configured found).map Prod.snd

end Clouditor
