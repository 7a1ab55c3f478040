import Clouditor.ScopedRequests

/-! Which rows a caller without access to all cloud services can write. -/
namespace Clouditor
set_option autoImplicit false

/-- Every row that was created, changed or deleted belongs to a service in `L`, before
and after. -/
structure Isolated (L : String → Prop) (db db' : Database) : Prop where
  configurations : Keyed.Confined MetricConfiguration.cloudServiceId L
    db.store.configurations db'.store.configurations
  certificates : Keyed.Confined Certificate.cloudServiceId L db.certificates db'.certificates
  targets : Keyed.Confined TargetOfEvaluation.cloudServiceId L db.targets db'.targets
  cloudServices : Keyed.Confined CloudService.id L db.cloudServices db'.cloudServices
  evidences : Keyed.Confined EvidenceRow.cloudServiceId L db.evidences db'.evidences
  assessmentResults : Keyed.Confined AssessmentResultRow.cloudServiceId L
    db.assessmentResults db'.assessmentResults
  resources : Keyed.Confined Resource.cloudServiceId L db.resources db'.resources

section Tables
variable {L : String → Prop}

theorem Isolated.refl (db : Database) : Isolated L db db :=
  ⟨.refl _, .refl _, .refl _, .refl _, .refl _, .refl _, .refl _⟩

/-! A request writes one table, and the others stay as they are. -/

theorem isolated_store (db : Database) (store : MetricStore) :
    Isolated L db { db with store := store } ↔
      Keyed.Confined MetricConfiguration.cloudServiceId L db.store.configurations
        store.configurations :=
  ⟨fun h => h.configurations, fun h => { Isolated.refl db with configurations := h }⟩

theorem isolated_certificates (db : Database) (rows : Keyed.Rows Certificate.id) :
    Isolated L db { db with certificates := rows } ↔
      Keyed.Confined Certificate.cloudServiceId L db.certificates rows :=
  ⟨fun h => h.certificates, fun h => { Isolated.refl db with certificates := h }⟩

theorem isolated_targets (db : Database) (rows : Keyed.Rows TargetOfEvaluation.key) :
    Isolated L db { db with targets := rows } ↔
      Keyed.Confined TargetOfEvaluation.cloudServiceId L db.targets rows :=
  ⟨fun h => h.targets, fun h => { Isolated.refl db with targets := h }⟩

theorem isolated_cloudServices (db : Database) (rows : Keyed.Rows CloudService.id) :
    Isolated L db { db with cloudServices := rows } ↔
      Keyed.Confined CloudService.id L db.cloudServices rows :=
  ⟨fun h => h.cloudServices, fun h => { Isolated.refl db with cloudServices := h }⟩

theorem isolated_resources (db : Database) (rows : Keyed.Rows Resource.key) :
    Isolated L db { db with resources := rows } ↔
      Keyed.Confined Resource.cloudServiceId L db.resources rows :=
  ⟨fun h => h.resources, fun h => { Isolated.refl db with resources := h }⟩

end Tables
section Handlers
variable {db : Database} {a : Access}

/-- The services a caller may access. -/
abbrev Access.Own (a : Access) (s : String) : Prop := s ∈ a.allowed

theorem updateMetricConfiguration_store {now : Time} {req : UpdateMetricConfigurationRequest}
    {p : MetricConfiguration × Database} (h : db.updateMetricConfiguration a now req = .ok p) :
    p.2 = { db with store :=
      { db.store with configurations := db.store.configurations.save (req.written now) } } := by
  unfold Database.updateMetricConfiguration at h
  cases hc : db.store.updateMetricConfiguration a
      (fun s => (db.cloudServices.find s).isSome) now req with
  | error e =>
    rw [hc] at h
    cases h
  | ok c =>
    rw [hc] at h
    cases h
    obtain ⟨_,rfl⟩ := updateMetricConfiguration_ok hc
    rfl

/-- The access check reads the service of the request, the row is chosen by the service
of the configuration. -/
theorem updateMetricConfiguration_isolated_iff {now : Time}
    {req : UpdateMetricConfigurationRequest} {p : MetricConfiguration × Database}
    (h : db.updateMetricConfiguration a now req = .ok p) :
    Isolated a.Own db p.2 ↔ a.Own req.configuration.cloudServiceId ∨
      db.store.configurations.find (req.written now).pair = some (req.written now) := by
  rw [updateMetricConfiguration_store h, isolated_store, Keyed.confined_save_iff]
  constructor
  · rintro (hsame | ⟨hown,_⟩)
    · exact .inr hsame
    · exact .inl hown
  · rintro (hown | hsame)
    · refine .inr ⟨hown, fun old hold => ?_⟩
      -- a row under this key belongs to the service of the key
      have hpair := db.store.configurations.key_of_find _ old hold
      have hs : old.cloudServiceId = req.configuration.cloudServiceId := congrArg Prod.snd hpair
      rw [hs]
      exact hown
    · exact .inl hsame

theorem createCertificate_isolated (ha : a.all = false) {c : Certificate}
    {p : Certificate × Database} (h : db.createCertificate a c = .ok p) :
    Isolated a.Own db p.2 := by
  obtain ⟨hacc,h⟩ := checked_ok h
  split at h
  · cases h
  · rename_i rows hrows
    cases h
    rw [isolated_certificates, Keyed.confined_create_iff _ rows c hrows]
    exact checkAccess_mem a _ ha hacc

/-- Only the new service of a certificate is checked, not the one it had. -/
theorem updateCertificate_isolated_iff (ha : a.all = false) {c : Certificate}
    {p : Certificate × Database} (h : db.updateCertificate a c = .ok p) :
    Isolated a.Own db p.2 ↔
      ∀ old, db.certificates.find c.id = some old → a.Own old.cloudServiceId := by
  obtain ⟨hacc,h⟩ := checked_ok h
  have hown : a.Own c.cloudServiceId := checkAccess_mem a _ ha hacc
  split at h
  · cases h
  · cases h
    rw [isolated_certificates, Keyed.confined_save_iff]
    constructor
    · rintro (hsame | ⟨_,hold⟩)
      · intro old hold
        rw [hsame] at hold
        cases hold
        exact hown
      · exact hold
    · intro hold
      exact .inr ⟨hown, hold⟩

theorem removeCertificate_isolated (ha : a.all = false) {id : String} {p : Unit × Database}
    (h : db.removeCertificate a id = .ok p) : Isolated a.Own db p.2 := by
  unfold Database.removeCertificate at h
  split at h
  · cases h
  · split at h
    · cases h
    · rename_i row hrow
      split at h
      · cases h
      · rename_i hacc
        cases h
        -- the row that goes is the one whose service was checked
        rw [isolated_certificates, Keyed.confined_delete_iff]
        intro old hold
        rw [hrow] at hold
        cases hold
        exact checkAccess_mem a _ ha (by simpa using hacc)

theorem createTargetOfEvaluation_isolated (ha : a.all = false) {t : TargetOfEvaluation}
    {p : TargetOfEvaluation × Database} (h : db.createTargetOfEvaluation a t = .ok p) :
    Isolated a.Own db p.2 := by
  obtain ⟨hacc,h⟩ := checked_ok h
  split at h
  · cases h
  · rename_i rows hrows
    split at h
    · cases h
    · cases h
      rw [isolated_targets, Keyed.confined_create_iff _ rows t hrows]
      exact checkAccess_mem a _ ha hacc

/-- The service is part of the key of a target, so the row that is written over belongs
to the service that was checked. -/
theorem target_own {t old : TargetOfEvaluation} (hown : a.Own t.cloudServiceId)
    (h : db.targets.find t.key = some old) : a.Own old.cloudServiceId := by
  have hkey := db.targets.key_of_find _ old h
  have hs : old.cloudServiceId = t.cloudServiceId := congrArg Prod.fst hkey
  rw [hs]
  exact hown

theorem updateTargetOfEvaluation_isolated (ha : a.all = false) {t : TargetOfEvaluation}
    {p : TargetOfEvaluation × Database} (h : db.updateTargetOfEvaluation a t = .ok p) :
    Isolated a.Own db p.2 := by
  obtain ⟨hacc,h⟩ := checked_ok h
  have hown : a.Own t.cloudServiceId := checkAccess_mem a _ ha hacc
  split at h
  · rename_i row level hrow hlevel
    cases h
    have hkey : (TargetOfEvaluation.key { row with assuranceLevel := some level }) = t.key :=
      db.targets.key_of_find _ row hrow
    have hrow' : a.Own row.cloudServiceId := target_own hown hrow
    rw [isolated_targets, Keyed.confined_save_iff, hkey]
    exact .inr ⟨hrow', fun old hold => target_own hown hold⟩
  · cases h

theorem removeTargetOfEvaluation_isolated (ha : a.all = false) {s c : String}
    {p : Unit × Database} (h : db.removeTargetOfEvaluation a s c = .ok p) :
    Isolated a.Own db p.2 := by
  obtain ⟨hacc,h⟩ := checked_ok h
  have hown : a.Own s := checkAccess_mem a _ ha hacc
  split at h
  · cases h
  · cases h
    rw [isolated_targets, Keyed.confined_delete_iff]
    intro old hold
    have hs : old.cloudServiceId = s := congrArg Prod.fst (db.targets.key_of_find _ old hold)
    rw [hs]
    exact hown

theorem registerCloudService_isolated_iff {newId : String} {now : Time} {s : CloudService}
    {p : CloudService × Database} (h : db.registerCloudService newId now s = .ok p) :
    Isolated a.Own db p.2 ↔ a.Own newId := by
  unfold Database.registerCloudService at h
  split at h
  · cases h
  · split at h
    · cases h
    · rename_i rows hrows
      cases h
      rw [isolated_cloudServices, Keyed.confined_create_iff _ rows _ hrows]
      rfl

theorem updateCloudService_isolated (ha : a.all = false) {now : Time} {s : CloudService}
    {p : CloudService × Database} (h : db.updateCloudService a now s = .ok p) :
    Isolated a.Own db p.2 := by
  obtain ⟨hacc,h⟩ := checked_ok h
  have hown : a.Own s.id := checkAccess_mem a _ ha hacc
  split at h
  · cases h
  · cases h
    rw [isolated_cloudServices, Keyed.confined_save_iff]
    refine .inr ⟨hown, fun old hold => ?_⟩
    rw [db.cloudServices.key_of_find _ old hold]
    exact hown

theorem removeCloudService_isolated (ha : a.all = false) {id : String} {p : Unit × Database}
    (h : db.removeCloudService a id = .ok p) : Isolated a.Own db p.2 := by
  obtain ⟨hacc,h⟩ := checked_ok h
  split at h
  · cases h
  · split at h
    · cases h
    · cases h
      rw [isolated_cloudServices, Keyed.confined_delete_iff]
      intro old hold
      rw [db.cloudServices.key_of_find _ old hold]
      exact checkAccess_mem a _ ha hacc

theorem storeAssessmentResult_isolated (ha : a.all = false) {r : AssessmentResultRow}
    {p : Unit × Database} (h : db.storeAssessmentResult a r = .ok p) :
    Isolated a.Own db p.2 := by
  obtain ⟨hacc,h⟩ := checked_ok h
  split at h
  · cases h
  · rename_i rows hrows
    cases h
    exact { Isolated.refl db with assessmentResults :=
      (Keyed.confined_create_iff _ rows r hrows).mpr (checkAccess_mem a _ ha hacc) }

theorem storeEvidence_isolated (ha : a.all = false) {e : EvidenceRow} {p : Unit × Database}
    (h : db.storeEvidence a e = .ok p) : Isolated a.Own db p.2 := by
  obtain ⟨hacc,h⟩ := checked_ok h
  split at h
  · cases h
  · rename_i rows hrows
    cases h
    exact { Isolated.refl db with evidences :=
      (Keyed.confined_create_iff _ rows e hrows).mpr (checkAccess_mem a _ ha hacc) }

/-- Only the new service of a resource is checked, not the one it had. -/
theorem updateResource_isolated_iff (ha : a.all = false) {resource : Option Resource}
    {p : Resource × Database} (h : db.updateResource a resource = .ok p) :
    Isolated a.Own db p.2 ↔
      ∀ r ∈ resource, ∀ old, db.resources.find r.id = some old → a.Own old.cloudServiceId := by
  obtain ⟨hacc,h⟩ := checked_ok h
  cases resource with
  | none => cases h
  | some r =>
    have hown : a.Own r.cloudServiceId := checkAccess_mem a _ ha hacc
    cases h
    rw [isolated_resources, Keyed.confined_save_iff]
    constructor
    · rintro (hsame | ⟨_,hold⟩) r' hr' old hold'
      · cases hr'
        cases hsame.symm.trans hold'
        exact hown
      · cases hr'
        exact hold old hold'
    · intro hold
      exact .inr ⟨hown, hold r rfl⟩

theorem startDiscovery_isolated_iff (ha : a.all = false) {csId : String}
    {configured : Except Err Unit} {found : List Discovered} {p : Unit × Database}
    (h : db.startDiscovery a csId configured found = .ok p) :
    Isolated a.Own db p.2 ↔
      ∀ d ∈ found, ∀ old, db.resources.find d.id = some old → a.Own old.cloudServiceId := by
  obtain ⟨hacc,h⟩ := checked_ok h
  have hown : a.Own csId := checkAccess_mem a _ ha hacc
  split at h
  · cases h
  · cases h
    rw [isolated_resources, Keyed.confined_saveAll_iff]
    · simp only [List.forall_mem_map]
      rfl
    · simp only [List.forall_mem_map]
      exact fun d _ => hown

end Handlers

section Isolation

/-- The rows a request is about to write belong to the caller. For most requests the
access check says so. -/
def WritesOwn (db : Database) (call : Call) : ScopedRequest → Prop
  | .updateMetricConfiguration req => call.access.Own req.configuration.cloudServiceId ∨
      db.store.configurations.find (req.written call.now).pair = some (req.written call.now)
  | .updateCertificate c =>
      ∀ old, db.certificates.find c.id = some old → call.access.Own old.cloudServiceId
  | .registerCloudService _ => call.access.Own call.newId
  | .updateResource resource => ∀ r ∈ resource,
      ∀ old, db.resources.find r.id = some old → call.access.Own old.cloudServiceId
  | .startDiscovery _ _ found => ∀ d ∈ found,
      ∀ old, db.resources.find d.id = some old → call.access.Own old.cloudServiceId
  | _ => True

theorem map_snd_ok {α : Type} {r : Handled α} {db' : Database} (h : r.map Prod.snd = .ok db') :
    ∃ p, r = .ok p ∧ p.2 = db' := by
  cases r with
  | error e => cases h
  | ok p => exact ⟨p, rfl, Except.ok.inj h⟩

/-- An accepted request of a caller without access to all services writes only rows of
the services of the caller exactly when it writes over no row of another one. -/
theorem handle_isolated_iff (db : Database) (call : Call) (ha : call.access.all = false)
    (req : ScopedRequest) (db' : Database) (h : db.handle call req = .ok db') :
    Isolated call.access.Own db db' ↔ WritesOwn db call req := by
  cases req with
  | updateMetricConfiguration req =>
    obtain ⟨p,hp,rfl⟩ := map_snd_ok h
    exact updateMetricConfiguration_isolated_iff hp
  | createCertificate c =>
    obtain ⟨p,hp,rfl⟩ := map_snd_ok h
    exact iff_of_true (createCertificate_isolated ha hp) trivial
  | updateCertificate c =>
    obtain ⟨p,hp,rfl⟩ := map_snd_ok h
    exact updateCertificate_isolated_iff ha hp
  | removeCertificate id =>
    obtain ⟨p,hp,rfl⟩ := map_snd_ok h
    exact iff_of_true (removeCertificate_isolated ha hp) trivial
  | createTargetOfEvaluation t =>
    obtain ⟨p,hp,rfl⟩ := map_snd_ok h
    exact iff_of_true (createTargetOfEvaluation_isolated ha hp) trivial
  | updateTargetOfEvaluation t =>
    obtain ⟨p,hp,rfl⟩ := map_snd_ok h
    exact iff_of_true (updateTargetOfEvaluation_isolated ha hp) trivial
  | removeTargetOfEvaluation s c =>
    obtain ⟨p,hp,rfl⟩ := map_snd_ok h
    exact iff_of_true (removeTargetOfEvaluation_isolated ha hp) trivial
  | registerCloudService s =>
    obtain ⟨p,hp,rfl⟩ := map_snd_ok h
    exact registerCloudService_isolated_iff hp
  | updateCloudService s =>
    obtain ⟨p,hp,rfl⟩ := map_snd_ok h
    exact iff_of_true (updateCloudService_isolated ha hp) trivial
  | removeCloudService id =>
    obtain ⟨p,hp,rfl⟩ := map_snd_ok h
    exact iff_of_true (removeCloudService_isolated ha hp) trivial
  | storeAssessmentResult r =>
    obtain ⟨p,hp,rfl⟩ := map_snd_ok h
    exact iff_of_true (storeAssessmentResult_isolated ha hp) trivial
  | storeEvidence e =>
    obtain ⟨p,hp,rfl⟩ := map_snd_ok h
    exact iff_of_true (storeEvidence_isolated ha hp) trivial
  | updateResource r =>
    obtain ⟨p,hp,rfl⟩ := map_snd_ok h
    exact updateResource_isolated_iff ha hp
  | startDiscovery csId configured found =>
    obtain ⟨p,hp,rfl⟩ := map_snd_ok h
    exact startDiscovery_isolated_iff ha hp

def sampleStore : MetricStore where
  metrics := []
  implementations := Keyed.Rows.empty _
  configurations := Keyed.Rows.empty _
  defaultMetricConfigurations _ := none
  ids_nodup := by decide

def sampleCertificate (cloudServiceId : String) : Certificate where
  id := "1234"
  name := "EUCS certificate"
  cloudServiceId := cloudServiceId
  issueDate := "2021-11-06"
  expirationDate := "2024-11-06"
  standard := "EUCS"
  assuranceLevel := "Basic"
  cab := "Cab123"
  description := ""

/-- A database with the certificate of one service. -/
def sampleDatabase (cloudServiceId : String) : Database where
  store := sampleStore
  certificates := (Keyed.Rows.empty _).save (sampleCertificate cloudServiceId)
  targets := Keyed.Rows.empty _
  cloudServices := Keyed.Rows.empty _
  evidences := Keyed.Rows.empty _
  assessmentResults := Keyed.Rows.empty _
  resources := Keyed.Rows.empty _
  catalogs := []

def sampleCall : Call where
  access := ⟨false, ["11111111-1111-1111-1111-111111111111"]⟩
  now := 0
  newId := "99999999-9999-9999-9999-999999999999"

theorem handle_isolated_certificate :
    sampleCall.access.all = false ∧
    ∃ db', (sampleDatabase "11111111-1111-1111-1111-111111111111").handle sampleCall
        (.updateCertificate (sampleCertificate "11111111-1111-1111-1111-111111111111")) =
          .ok db' ∧
      Isolated sampleCall.access.Own (sampleDatabase "11111111-1111-1111-1111-111111111111")
        db' := by
  refine ⟨rfl, _, rfl, (handle_isolated_iff _ sampleCall rfl
    (.updateCertificate (sampleCertificate "11111111-1111-1111-1111-111111111111")) _ rfl).mpr ?_⟩
  intro old hold
  cases Option.some.inj hold
  decide

/-- The certificate of another service becomes one of the caller. -/
theorem handle_isolated_takeover :
    sampleCall.access.all = false ∧
    ∃ db', (sampleDatabase "22222222-2222-2222-2222-222222222222").handle sampleCall
        (.updateCertificate (sampleCertificate "11111111-1111-1111-1111-111111111111")) =
          .ok db' ∧
      ¬ Isolated sampleCall.access.Own (sampleDatabase "22222222-2222-2222-2222-222222222222")
        db' := by
  refine ⟨rfl, _, rfl, fun h => ?_⟩
  have hown := h.certificates "1234" (by decide)
    (sampleCertificate "22222222-2222-2222-2222-222222222222") (.inl rfl)
  exact absurd hown (by decide)

end Isolation
end Clouditor
