import Clouditor.WriteIsolation

/-! What the requests of a cloud service do, all at once: under which condition a request is
accepted, and what an accepted one writes. -/
namespace Clouditor
set_option autoImplicit false

/-- The checks that an accepted request has passed. -/
def Database.Accepts (db : Database) (call : Call) : ScopedRequest → Prop
  | .updateMetricConfiguration req => isUuid req.cloudServiceId = true ∧ req.metricId ≠ "" ∧
      req.configuration.valid = true ∧ call.access.checkAccess req.cloudServiceId = true ∧
      (db.store.getMetric req.configuration.metricId).isSome = true ∧
      (db.cloudServices.find req.configuration.cloudServiceId).isSome = true
  | .createCertificate c => c.valid = true ∧ call.access.checkAccess c.cloudServiceId = true ∧
      db.certificates.find c.id = none
  | .updateCertificate c => c.valid = true ∧ call.access.checkAccess c.cloudServiceId = true ∧
      (db.certificates.find c.id).isSome = true
  | .removeCertificate id => id ≠ "" ∧
      ∃ c, db.certificates.find id = some c ∧ call.access.checkAccess c.cloudServiceId = true
  | .createTargetOfEvaluation t => t.valid = true ∧
      call.access.checkAccess t.cloudServiceId = true ∧ db.targets.find t.key = none ∧
      t.catalogId ∈ db.catalogs ∧ (db.cloudServices.find t.cloudServiceId).isSome = true
  | .updateTargetOfEvaluation t => t.valid = true ∧
      call.access.checkAccess t.cloudServiceId = true ∧ (db.targets.find t.key).isSome = true ∧
      t.assuranceLevel.isSome = true
  | .removeTargetOfEvaluation s c => (isUuid s && c ≠ "") = true ∧
      call.access.checkAccess s = true ∧ (db.targets.find (s, c)).isSome = true
  | .registerCloudService s => s.valid = true ∧ db.cloudServices.find call.newId = none
  | .updateCloudService s => s.valid = true ∧ call.access.checkAccess s.id = true ∧
      (db.cloudServices.find s.id).isSome = true
  | .removeCloudService id => isUuid id = true ∧ call.access.checkAccess id = true ∧
      (db.cloudServices.find id).isSome = true ∧
      db.targets.any (fun t => t.cloudServiceId = id) = false ∧
      db.store.configurations.any (fun c => c.cloudServiceId = id) = false
  | .storeAssessmentResult r => r.valid = true ∧
      call.access.checkAccess r.cloudServiceId = true ∧ db.assessmentResults.find r.id = none
  | .storeEvidence e => e.valid = true ∧ call.access.checkAccess e.cloudServiceId = true ∧
      db.evidences.find e.id = none
  | .updateResource r => ∃ row, r = some row ∧ row.valid = true ∧
      call.access.checkAccess row.cloudServiceId = true
  | .startDiscovery csId configured _ => call.access.checkAccess csId = true ∧
      configured = .ok ()

/-- The rows after a request that was accepted. -/
def Database.write (db : Database) (call : Call) : ScopedRequest → Database
  | .updateMetricConfiguration req =>
    let rows := db.store.configurations.save (req.written call.now)
    { db with store := { db.store with configurations := rows } }
  | .createCertificate c => { db with certificates := db.certificates.save c }
  | .updateCertificate c => { db with certificates := db.certificates.save c }
  | .removeCertificate id => { db with certificates := db.certificates.delete id }
  | .createTargetOfEvaluation t => { db with targets := db.targets.save t }
  -- the key and the level are all that a target has
  | .updateTargetOfEvaluation t => { db with targets := db.targets.save t }
  | .removeTargetOfEvaluation s c => { db with targets := db.targets.delete (s, c) }
  | .registerCloudService s =>
    let service := s.registered call.newId call.now
    { db with cloudServices := db.cloudServices.save service }
  | .updateCloudService s =>
    let service := { s with updatedAt := some call.now }
    { db with cloudServices := db.cloudServices.save service }
  | .removeCloudService id => { db with cloudServices := db.cloudServices.delete id }
  | .storeAssessmentResult r => { db with assessmentResults := db.assessmentResults.save r }
  | .storeEvidence e => { db with evidences := db.evidences.save e }
  | .updateResource r => { db with resources := db.resources.saveAll r.toList }
  | .startDiscovery csId _ found =>
    let rows := found.map (fun d => { d with cloudServiceId := csId })
    { db with resources := db.resources.saveAll rows }

section Handlers
variable {db db' : Database} {call : Call}

theorem checked_eq_ok_iff {α : Type} (valid : Bool) (a : Access) (s : String)
    (handler : Except Err α) (x : α) :
    checked valid a s handler = .ok x ↔
      valid = true ∧ a.checkAccess s = true ∧ handler = .ok x := by
  unfold checked
  cases valid <;> cases a.checkAccess s <;> simp

theorem map_snd_eq_ok_iff {α : Type} (r : Handled α) :
    r.map Prod.snd = .ok db' ↔ ∃ x, r = .ok (x, db') := by
  cases r with
  | error e => simp [Except.map]
  | ok p =>
    simp only [Except.map, Except.ok.injEq]
    exact ⟨fun h => ⟨p.1, h ▸ rfl⟩, fun ⟨x,h⟩ => by rw [h]⟩

theorem ite_error_eq_ok_iff {α : Type} (p : Prop) [Decidable p] (e : Err) (r : Except Err α)
    (x : α) : (if p then .error e else r) = .ok x ↔ ¬ p ∧ r = .ok x := by
  by_cases hp : p <;> simp [hp]

theorem updateMetricConfiguration_eq_ok_iff (req : UpdateMetricConfigurationRequest) :
    (∃ x, db.updateMetricConfiguration call.access call.now req = .ok (x, db')) ↔
      db.Accepts call (.updateMetricConfiguration req) ∧
        db' = db.write call (.updateMetricConfiguration req) := by
  constructor
  · rintro ⟨x,h⟩
    refine ⟨?_, updateMetricConfiguration_store h⟩
    by_cases hid : isUuid req.cloudServiceId = true
    · simp only [Database.updateMetricConfiguration, MetricStore.updateMetricConfiguration, hid,
        dif_pos] at h
      split_ifs at h with hvalid haccess hexists
      · cases h
      · cases h
      · cases h
      · simp_all [Database.Accepts, Option.isSome_iff_ne_none]
    · simp [Database.updateMetricConfiguration, MetricStore.updateMetricConfiguration, hid,
        Except.map] at h
  · rintro ⟨⟨hid,hm,hc,ha,hmetric,hservice⟩,rfl⟩
    refine ⟨req.written call.now, ?_⟩
    simp [Database.updateMetricConfiguration, MetricStore.updateMetricConfiguration, hid, hm, hc,
      ha, Option.isSome_iff_ne_none.mp hmetric, Option.isSome_iff_ne_none.mp hservice, Except.map]
    exact ⟨rfl, rfl⟩

/-- An update of a target leaves the key of the stored row, so it stores the request. -/
theorem save_updated_target (t row : TargetOfEvaluation) (level : String)
    (hkey : row.key = t.key) (hlevel : t.assuranceLevel = some level) :
    { row with assuranceLevel := some level } = t := by
  have hs : row.cloudServiceId = t.cloudServiceId := congrArg Prod.fst hkey
  have hc : row.catalogId = t.catalogId := congrArg Prod.snd hkey
  rw [hs, hc, ← hlevel]

/-- A request is accepted exactly if it passes its checks, and then it writes what it says. -/
theorem handle_eq_ok_iff (db db' : Database) (call : Call) (req : ScopedRequest) :
    db.handle call req = .ok db' ↔ db.Accepts call req ∧ db' = db.write call req := by
  cases req with
  | updateMetricConfiguration req =>
    rw [Database.handle, map_snd_eq_ok_iff, updateMetricConfiguration_eq_ok_iff]
  | createCertificate c =>
    simp only [Database.handle, map_snd_eq_ok_iff, Database.createCertificate, checked_eq_ok_iff,
      Database.Accepts, Database.write, Keyed.Rows.create]
    cases db.certificates.find c.id <;> simp [and_assoc, @eq_comm _ db']
  | updateCertificate c =>
    simp only [Database.handle, map_snd_eq_ok_iff, Database.updateCertificate, checked_eq_ok_iff,
      Database.Accepts, Database.write]
    cases db.certificates.find c.id <;> simp [and_assoc, @eq_comm _ db']
  | removeCertificate id =>
    simp only [Database.handle, map_snd_eq_ok_iff, Database.removeCertificate,
      Database.Accepts, Database.write]
    cases db.certificates.find id <;> simp [ite_error_eq_ok_iff, and_assoc, @eq_comm _ db']
  | createTargetOfEvaluation t =>
    simp only [Database.handle, map_snd_eq_ok_iff, Database.createTargetOfEvaluation,
      checked_eq_ok_iff, Database.Accepts, Database.write, Keyed.Rows.create]
    cases db.targets.find t.key <;>
      simp [ite_error_eq_ok_iff, Option.isSome_iff_ne_none, and_assoc, @eq_comm _ db']
  | updateTargetOfEvaluation t =>
    simp only [Database.handle, map_snd_eq_ok_iff, Database.updateTargetOfEvaluation,
      checked_eq_ok_iff, Database.Accepts, Database.write]
    cases hf : db.targets.find t.key with
    | none => simp
    | some row =>
      have hkey := db.targets.key_of_find _ row hf
      cases hlevel : t.assuranceLevel with
      | none => simp
      | some level =>
        simp [save_updated_target t row level hkey hlevel, and_assoc, @eq_comm _ db']
  | removeTargetOfEvaluation s c =>
    simp only [Database.handle, map_snd_eq_ok_iff, Database.removeTargetOfEvaluation,
      checked_eq_ok_iff, Database.Accepts, Database.write]
    cases db.targets.find (s, c) <;> simp [and_assoc, @eq_comm _ db']
  | registerCloudService s =>
    simp only [Database.handle, map_snd_eq_ok_iff, Database.registerCloudService,
      Database.Accepts, Database.write, Keyed.Rows.create]
    have hkey : (s.registered call.newId call.now).id = call.newId := rfl
    rw [hkey]
    cases s.valid <;> cases db.cloudServices.find call.newId <;> simp [@eq_comm _ db']
  | updateCloudService s =>
    simp only [Database.handle, map_snd_eq_ok_iff, Database.updateCloudService, checked_eq_ok_iff,
      Database.Accepts, Database.write]
    cases db.cloudServices.find s.id <;> simp [and_assoc, @eq_comm _ db']
  | removeCloudService id =>
    simp only [Database.handle, map_snd_eq_ok_iff, Database.removeCloudService, checked_eq_ok_iff,
      Database.Accepts, Database.write]
    cases db.cloudServices.find id with
    | none => simp
    | some row =>
      cases db.targets.any (fun t => t.cloudServiceId = id) <;>
        cases db.store.configurations.any (fun c => c.cloudServiceId = id) <;>
        simp [and_assoc, @eq_comm _ db']
  | storeAssessmentResult r =>
    simp only [Database.handle, map_snd_eq_ok_iff, Database.storeAssessmentResult,
      checked_eq_ok_iff, Database.Accepts, Database.write, Keyed.Rows.create]
    cases db.assessmentResults.find r.id <;> simp [and_assoc, @eq_comm _ db']
  | storeEvidence e =>
    simp only [Database.handle, map_snd_eq_ok_iff, Database.storeEvidence, checked_eq_ok_iff,
      Database.Accepts, Database.write, Keyed.Rows.create]
    cases db.evidences.find e.id <;> simp [and_assoc, @eq_comm _ db']
  | updateResource r =>
    simp only [Database.handle, map_snd_eq_ok_iff, Database.updateResource, checked_eq_ok_iff,
      Database.Accepts, Database.write]
    cases r <;> simp [and_assoc, @eq_comm _ db', Keyed.Rows.saveAll]
  | startDiscovery csId configured found =>
    simp only [Database.handle, map_snd_eq_ok_iff, Database.startDiscovery, checked_eq_ok_iff,
      Database.Accepts, Database.write]
    cases configured <;> simp [@eq_comm _ db']

end Handlers
end Clouditor
