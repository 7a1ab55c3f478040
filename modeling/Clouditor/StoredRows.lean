import Clouditor.RequestEffects

/-! What holds of the rows after any number of requests from any callers: which evidence and
which results are there, that every row is valid and refers to rows that exist, and that
nobody changes rows of a service they have no access to. -/
namespace Clouditor
set_option autoImplicit false

section Runs

/-- A request that is refused leaves the rows as they are. -/
def Database.serve (db : Database) (r : Call × ScopedRequest) : Database :=
  match db.handle r.1 r.2 with
  | .ok db' => db'
  | .error _ => db

def Database.serveAll (db : Database) (rs : List (Call × ScopedRequest)) : Database :=
  rs.foldl Database.serve db

variable {db : Database} {call : Call} {req : ScopedRequest}

theorem serve_of_accepts (h : db.Accepts call req) : db.serve (call, req) = db.write call req := by
  have hok := (handle_eq_ok_iff db _ call req).mpr ⟨h, rfl⟩
  simp only [Database.serve, hok]

theorem serve_of_not_accepts (h : ¬ db.Accepts call req) : db.serve (call, req) = db := by
  unfold Database.serve
  split
  · rename_i db' hok
    exact absurd ((handle_eq_ok_iff db db' call req).mp hok).1 h
  · rfl

theorem serveAll_cons (db : Database) (r : Call × ScopedRequest)
    (rs : List (Call × ScopedRequest)) :
    db.serveAll (r :: rs) = (db.serve r).serveAll rs := rfl

/-- What every accepted request keeps, every run keeps. -/
theorem serveAll_invariant {P : Database → Prop} (rs : List (Call × ScopedRequest))
    (hstep : ∀ db call req, (call, req) ∈ rs → P db → db.Accepts call req →
      P (db.write call req)) (db : Database) (h : P db) : P (db.serveAll rs) := by
  induction rs generalizing db with
  | nil => exact h
  | cons r rs ih =>
    obtain ⟨call,req⟩ := r
    have hrest : ∀ db call req, (call, req) ∈ rs → P db → db.Accepts call req →
        P (db.write call req) :=
      fun db call req hmem => hstep db call req (List.mem_cons_of_mem _ hmem)
    rw [serveAll_cons]
    apply ih hrest
    by_cases hacc : db.Accepts call req
    · rw [serve_of_accepts hacc]
      exact hstep db call req List.mem_cons_self h hacc
    · rw [serve_of_not_accepts hacc]
      exact h

end Runs

section WrittenRows

/-- The evidence that a request asks to store, if it is valid and the caller may store it. -/
def offeredEvidences (r : Call × ScopedRequest) : List EvidenceRow :=
  match r.2 with
  | .storeEvidence e =>
    if e.valid = true ∧ r.1.access.checkAccess e.cloudServiceId = true then [e] else []
  | _ => []

def offeredAssessmentResults (r : Call × ScopedRequest) : List AssessmentResultRow :=
  match r.2 with
  | .storeAssessmentResult a =>
    if a.valid = true ∧ r.1.access.checkAccess a.cloudServiceId = true then [a] else []
  | _ => []

/-- Resources come from a client, or as all that a discovery finds. -/
def offeredResources (r : Call × ScopedRequest) : List Resource :=
  match r.2 with
  | .updateResource (some row) =>
    if row.valid = true ∧ r.1.access.checkAccess row.cloudServiceId = true then [row] else []
  | .startDiscovery csId (.ok _) found =>
    if r.1.access.checkAccess csId = true then
      found.map (fun d => { d with cloudServiceId := csId })
    else []
  | _ => []

theorem create_getD_of_none {K V : Type} [DecidableEq K] {key : V → K} (rows : Keyed.Rows key)
    (v : V) (h : rows.find (key v) = none) : (rows.create v).getD rows = rows.save v := by
  simp [Keyed.Rows.create, h]

theorem create_getD_of_some {K V : Type} [DecidableEq K] {key : V → K} (rows : Keyed.Rows key)
    (v : V) (h : rows.find (key v) ≠ none) : (rows.create v).getD rows = rows := by
  simp [Keyed.Rows.create, Option.isSome_iff_ne_none.mpr h]

theorem evidences_serve (db : Database) (r : Call × ScopedRequest) :
    (db.serve r).evidences = db.evidences.createAll (offeredEvidences r) := by
  obtain ⟨call,req⟩ := r
  by_cases hacc : db.Accepts call req
  · rw [serve_of_accepts hacc]
    cases req
    case storeEvidence e =>
      obtain ⟨hvalid,haccess,hnew⟩ := hacc
      simp only [offeredEvidences, hvalid, haccess, and_self, if_true]
      exact (create_getD_of_none db.evidences e hnew).symm
    all_goals rfl
  · rw [serve_of_not_accepts hacc]
    cases req
    case storeEvidence e =>
      simp only [offeredEvidences]
      split_ifs with hmay
      · have htaken : db.evidences.find e.id ≠ none := fun h => hacc ⟨hmay.1, hmay.2, h⟩
        exact (create_getD_of_some db.evidences e htaken).symm
      · rfl
    all_goals rfl

theorem assessmentResults_serve (db : Database) (r : Call × ScopedRequest) :
    (db.serve r).assessmentResults =
      db.assessmentResults.createAll (offeredAssessmentResults r) := by
  obtain ⟨call,req⟩ := r
  by_cases hacc : db.Accepts call req
  · rw [serve_of_accepts hacc]
    cases req
    case storeAssessmentResult a =>
      obtain ⟨hvalid,haccess,hnew⟩ := hacc
      simp only [offeredAssessmentResults, hvalid, haccess, and_self, if_true]
      exact (create_getD_of_none db.assessmentResults a hnew).symm
    all_goals rfl
  · rw [serve_of_not_accepts hacc]
    cases req
    case storeAssessmentResult a =>
      simp only [offeredAssessmentResults]
      split_ifs with hmay
      · have htaken : db.assessmentResults.find a.id ≠ none := fun h => hacc ⟨hmay.1, hmay.2, h⟩
        exact (create_getD_of_some db.assessmentResults a htaken).symm
      · rfl
    all_goals rfl

theorem resources_serve (db : Database) (r : Call × ScopedRequest) :
    (db.serve r).resources = db.resources.saveAll (offeredResources r) := by
  obtain ⟨call,req⟩ := r
  by_cases hacc : db.Accepts call req
  · rw [serve_of_accepts hacc]
    cases req
    case updateResource row =>
      obtain ⟨row,rfl,hvalid,haccess⟩ := hacc
      simp only [offeredResources, hvalid, haccess, and_self, if_true]
      rfl
    case startDiscovery csId configured found =>
      obtain ⟨haccess,rfl⟩ := hacc
      simp only [offeredResources, haccess, if_true]
      rfl
    all_goals rfl
  · rw [serve_of_not_accepts hacc]
    cases req
    case updateResource row =>
      cases row with
      | none => rfl
      | some row =>
        have hrefused : ¬ (row.valid = true ∧ call.access.checkAccess row.cloudServiceId = true) :=
          fun h => hacc ⟨row, rfl, h⟩
        simp only [offeredResources, hrefused, if_false]
        rfl
    case startDiscovery csId configured found =>
      cases configured with
      | error e => rfl
      | ok u =>
        have hrefused : ¬ call.access.checkAccess csId = true := fun h => hacc ⟨h, rfl⟩
        simp only [offeredResources, hrefused]
        rfl
    all_goals rfl

/-- A table to which every request does `put` with the records it offers. -/
theorem serveAll_table {T V : Type} {f : Database → T} {put : T → List V → T}
    {offered : Call × ScopedRequest → List V}
    (hnil : ∀ t, put t [] = t) (happend : ∀ t vs ws, put t (vs ++ ws) = put (put t vs) ws)
    (hserve : ∀ db r, f (db.serve r) = put (f db) (offered r))
    (rs : List (Call × ScopedRequest)) (db : Database) :
    f (db.serveAll rs) = put (f db) (rs.flatMap offered) := by
  induction rs generalizing db with
  | nil => exact (hnil (f db)).symm
  | cons r rs ih => rw [serveAll_cons, ih, hserve, List.flatMap_cons, happend]

/-- Of the evidences and of the results with one id the first that is offered is stored and
never replaced. Of the resources with one id it is the last. -/
theorem rows_of_run (db : Database) (rs : List (Call × ScopedRequest)) (id : String) :
    (db.serveAll rs).evidences.find id =
      (db.evidences.find id).or ((rs.flatMap offeredEvidences).find? (fun e => e.id = id)) ∧
    (db.serveAll rs).assessmentResults.find id = (db.assessmentResults.find id).or
      ((rs.flatMap offeredAssessmentResults).find? (fun a => a.id = id)) ∧
    (db.serveAll rs).resources.find id =
      ((rs.flatMap offeredResources).reverse.find? (fun row => row.id = id)).or
        (db.resources.find id) := by
  refine ⟨?_, ?_, ?_⟩
  · rw [serveAll_table (f := Database.evidences) (fun _ => rfl) Keyed.createAll_append
      evidences_serve, Keyed.find_createAll]
  · rw [serveAll_table (f := Database.assessmentResults) (fun _ => rfl) Keyed.createAll_append
      assessmentResults_serve, Keyed.find_createAll]
  · rw [serveAll_table (f := Database.resources) (fun _ => rfl) Keyed.saveAll_append
      resources_serve, Keyed.find_saveAll]
    rfl

end WrittenRows

section WellFormedRows

/-- Every row is valid and the rows that it refers to exist. A discovery does not validate
the resources that it saves, so these are left out. -/
structure Database.WellFormed (db : Database) : Prop where
  services : db.cloudServices.All (fun s => isUuid s.id = true ∧ s.name ≠ "")
  certificates : db.certificates.All (fun c => c.valid = true)
  targets : db.targets.All (fun t => t.valid = true ∧ t.catalogId ∈ db.catalogs ∧
    (db.cloudServices.find t.cloudServiceId).isSome = true)
  configurations : db.store.configurations.All (fun c => c.valid = true ∧
    (db.store.getMetric c.metricId).isSome = true ∧
    (db.cloudServices.find c.cloudServiceId).isSome = true)
  evidences : db.evidences.All (fun e => e.valid = true)
  assessmentResults : db.assessmentResults.All (fun a => a.valid = true)

variable {db : Database}

/-- A service that is written over stays, and so does what refers to it. -/
theorem WellFormed.saveService (h : db.WellFormed) (s : CloudService)
    (hid : isUuid s.id = true) (hname : s.name ≠ "") :
    ({ db with cloudServices := db.cloudServices.save s } : Database).WellFormed := by
  have hstays (k : String) (hk : (db.cloudServices.find k).isSome = true) :
      ((db.cloudServices.save s).find k).isSome = true := by
    rw [Keyed.find_save]
    split_ifs
    · rfl
    · exact hk
  exact { h with
    services := h.services.save ⟨hid, hname⟩
    targets := h.targets.imp (fun t ht => ⟨ht.1, ht.2.1, hstays _ ht.2.2⟩)
    configurations := h.configurations.imp (fun c hc => ⟨hc.1, hc.2.1, hstays _ hc.2.2⟩) }

/-- Nothing refers to a service that can be removed. -/
theorem WellFormed.removeService (h : db.WellFormed) (id : String)
    (htargets : db.targets.any (fun t => t.cloudServiceId = id) = false)
    (hconfigs : db.store.configurations.any (fun c => c.cloudServiceId = id) = false) :
    ({ db with cloudServices := db.cloudServices.delete id } : Database).WellFormed := by
  rw [Keyed.any_eq_false_iff] at htargets hconfigs
  have hstays (k : String) (hk : (db.cloudServices.find k).isSome = true) (hne : k ≠ id) :
      ((db.cloudServices.delete id).find k).isSome = true := by
    rw [Keyed.find_delete, if_neg hne]
    exact hk
  exact { h with
    services := h.services.delete id
    targets := fun k t hfind => by
      have ht := h.targets k t hfind
      exact ⟨ht.1, ht.2.1, hstays _ ht.2.2 (of_decide_eq_false (htargets k t hfind))⟩
    configurations := fun k c hfind => by
      have hc := h.configurations k c hfind
      exact ⟨hc.1, hc.2.1, hstays _ hc.2.2 (of_decide_eq_false (hconfigs k c hfind))⟩ }

theorem wellFormed_write (h : db.WellFormed) (call : Call) (hid : isUuid call.newId = true)
    (req : ScopedRequest) (hacc : db.Accepts call req) : (db.write call req).WellFormed := by
  cases req with
  | updateMetricConfiguration req =>
    obtain ⟨_,_,hvalid,_,hmetric,hservice⟩ := hacc
    exact { h with configurations := h.configurations.save ⟨hvalid, hmetric, hservice⟩ }
  | createCertificate c => exact { h with certificates := h.certificates.save hacc.1 }
  | updateCertificate c => exact { h with certificates := h.certificates.save hacc.1 }
  | removeCertificate id => exact { h with certificates := h.certificates.delete id }
  | createTargetOfEvaluation t =>
    obtain ⟨hvalid,_,_,hcatalog,hservice⟩ := hacc
    exact { h with targets := h.targets.save ⟨hvalid, hcatalog, hservice⟩ }
  | updateTargetOfEvaluation t =>
    obtain ⟨hvalid,_,hstored,_⟩ := hacc
    -- the stored row has the same key, and it referred to a catalog and a service
    obtain ⟨old,hold⟩ := Option.isSome_iff_exists.mp hstored
    have hkey := db.targets.key_of_find _ old hold
    obtain ⟨_,hcatalog,hservice⟩ := h.targets _ old hold
    have hs : old.cloudServiceId = t.cloudServiceId := congrArg Prod.fst hkey
    have hc : old.catalogId = t.catalogId := congrArg Prod.snd hkey
    rw [hc] at hcatalog
    rw [hs] at hservice
    exact { h with targets := h.targets.save ⟨hvalid, hcatalog, hservice⟩ }
  | removeTargetOfEvaluation s c => exact { h with targets := h.targets.delete (s, c) }
  | registerCloudService s =>
    have hname : s.name ≠ "" := by
      have hvalid := hacc.1
      simp only [CloudService.valid, Bool.and_eq_true, decide_eq_true_eq] at hvalid
      exact hvalid.2
    exact WellFormed.saveService h (s.registered call.newId call.now) hid hname
  | updateCloudService s =>
    obtain ⟨hvalid,_,hstored⟩ := hacc
    -- an empty id would be valid, but no row has one
    obtain ⟨old,hold⟩ := Option.isSome_iff_exists.mp hstored
    have hkey : old.id = s.id := db.cloudServices.key_of_find _ old hold
    have huuid := (h.services _ old hold).1
    rw [hkey] at huuid
    simp only [CloudService.valid, Bool.and_eq_true, decide_eq_true_eq] at hvalid
    exact WellFormed.saveService h { s with updatedAt := some call.now } huuid hvalid.2
  | removeCloudService id =>
    obtain ⟨_,_,_,htargets,hconfigs⟩ := hacc
    exact WellFormed.removeService h id htargets hconfigs
  | storeAssessmentResult r => exact { h with assessmentResults := h.assessmentResults.save hacc.1 }
  | storeEvidence e => exact { h with evidences := h.evidences.save hacc.1 }
  | updateResource r => exact { h with }
  | startDiscovery csId configured found => exact { h with }

/-- Whatever is requested, by whomever, the rows stay valid and no reference dangles. -/
theorem wellFormed_of_run (db : Database) (h : db.WellFormed)
    (rs : List (Call × ScopedRequest)) (hids : ∀ r ∈ rs, isUuid r.1.newId = true) :
    (db.serveAll rs).WellFormed := by
  apply serveAll_invariant rs _ db h
  intro db call req hmem hdb hacc
  exact wellFormed_write hdb call (hids (call, req) hmem) req hacc

/-- A new service with a target of evaluation can no longer be removed. -/
def registrations : List (Call × ScopedRequest) :=
  let admin : Call := ⟨⟨true, []⟩, 0, "33333333-3333-3333-3333-333333333333"⟩
  [(admin, .registerCloudService ⟨"", "Shop", "", none, none, none⟩),
    (admin, .createTargetOfEvaluation
      ⟨"33333333-3333-3333-3333-333333333333", "EUCS", some "basic"⟩),
    (admin, .removeCloudService "33333333-3333-3333-3333-333333333333")]

def catalogDatabase : Database :=
  { sampleDatabase "11111111-1111-1111-1111-111111111111" with catalogs := ["EUCS"] }

theorem wellFormed_of_registrations : (catalogDatabase.serveAll registrations).WellFormed ∧
    ((catalogDatabase.serveAll registrations).cloudServices.find
      "33333333-3333-3333-3333-333333333333").isSome = true := by
  refine ⟨wellFormed_of_run catalogDatabase ?_ registrations (by decide), by decide⟩
  exact {
    services := Keyed.Rows.all_empty _
    certificates := (Keyed.Rows.all_empty _).save (by decide)
    targets := Keyed.Rows.all_empty _
    configurations := Keyed.Rows.all_empty _
    evidences := Keyed.Rows.all_empty _
    assessmentResults := Keyed.Rows.all_empty _ }

end WellFormedRows

section OtherServices

/-- The rows of a service in the tables in which a row cannot change its service. -/
structure KeepsRowsOf (s : String) (db db' : Database) : Prop where
  evidences : Keyed.Agree EvidenceRow.cloudServiceId (· = s) db.evidences db'.evidences
  assessmentResults : Keyed.Agree AssessmentResultRow.cloudServiceId (· = s)
    db.assessmentResults db'.assessmentResults
  targets : Keyed.Agree TargetOfEvaluation.cloudServiceId (· = s) db.targets db'.targets
  services : Keyed.Agree CloudService.id (· = s) db.cloudServices db'.cloudServices

theorem KeepsRowsOf.refl (s : String) (db : Database) : KeepsRowsOf s db db :=
  ⟨.refl _, .refl _, .refl _, .refl _⟩

theorem KeepsRowsOf.trans {s : String} {db db' db'' : Database} (h : KeepsRowsOf s db db')
    (h' : KeepsRowsOf s db' db'') : KeepsRowsOf s db db'' :=
  ⟨h.evidences.trans h'.evidences, h.assessmentResults.trans h'.assessmentResults,
    h.targets.trans h'.targets, h.services.trans h'.services⟩

theorem keepsRowsOf_write {s : String} {db : Database} {call : Call}
    (hs : call.access.checkAccess s = false) (hid : call.newId ≠ s) (req : ScopedRequest)
    (hacc : db.Accepts call req) : KeepsRowsOf s db (db.write call req) := by
  -- a service that the caller may access is not this one
  have hother (k : String) (hk : call.access.checkAccess k = true) : k ≠ s := by
    intro heq
    rw [heq, hs] at hk
    cases hk
  have htarget (k : String × String) (hk : k.1 ≠ s) (old : TargetOfEvaluation)
      (hold : db.targets.find k = some old) : old.cloudServiceId ≠ s := by
    have hkey : old.cloudServiceId = k.1 := congrArg Prod.fst (db.targets.key_of_find _ old hold)
    rw [hkey]
    exact hk
  have hservice (k : String) (hk : k ≠ s) (old : CloudService)
      (hold : db.cloudServices.find k = some old) : old.id ≠ s := by
    rw [db.cloudServices.key_of_find _ old hold]
    exact hk
  have hsame := KeepsRowsOf.refl s db
  cases req with
  | createTargetOfEvaluation t =>
    have hne := hother _ hacc.2.1
    exact { hsame with targets := Keyed.agree_save db.targets t hne (htarget _ hne) }
  | updateTargetOfEvaluation t =>
    have hne := hother _ hacc.2.1
    exact { hsame with targets := Keyed.agree_save db.targets t hne (htarget _ hne) }
  | removeTargetOfEvaluation k c =>
    have hne := hother k hacc.2.1
    exact { hsame with targets := Keyed.agree_delete db.targets (k, c) (htarget (k, c) hne) }
  | registerCloudService r =>
    have hagree := Keyed.agree_save (L := (· = s)) db.cloudServices
      (r.registered call.newId call.now) hid (hservice _ hid)
    exact { hsame with services := hagree }
  | updateCloudService r =>
    have hne := hother r.id hacc.2.1
    have hagree := Keyed.agree_save (L := (· = s)) db.cloudServices
      { r with updatedAt := some call.now } hne (hservice _ hne)
    exact { hsame with services := hagree }
  | removeCloudService k =>
    have hne := hother k hacc.2.1
    exact { hsame with services := Keyed.agree_delete db.cloudServices k (hservice k hne) }
  | storeAssessmentResult a =>
    have hne := hother _ hacc.2.1
    have hagree := Keyed.agree_save (L := (· = s)) db.assessmentResults a hne
      (fun old hold => absurd (hacc.2.2.symm.trans hold) nofun)
    exact { hsame with assessmentResults := hagree }
  | storeEvidence e =>
    have hne := hother _ hacc.2.1
    have hagree := Keyed.agree_save (L := (· = s)) db.evidences e hne
      (fun old hold => absurd (hacc.2.2.symm.trans hold) nofun)
    exact { hsame with evidences := hagree }
  | updateMetricConfiguration _ => exact { hsame with }
  | createCertificate _ => exact { hsame with }
  | updateCertificate _ => exact { hsame with }
  | removeCertificate _ => exact { hsame with }
  | updateResource _ => exact { hsame with }
  | startDiscovery _ _ _ => exact { hsame with }

theorem keepsRowsOf_serve {s : String} {call : Call} (hs : call.access.checkAccess s = false)
    (hid : call.newId ≠ s) (db : Database) (req : ScopedRequest) :
    KeepsRowsOf s db (db.serve (call, req)) := by
  by_cases hacc : db.Accepts call req
  · rw [serve_of_accepts hacc]
    exact keepsRowsOf_write hs hid req hacc
  · rw [serve_of_not_accepts hacc]
    exact .refl s db

/-- Callers without access to a service, however many requests they make, neither change nor
remove nor add any of its evidences, results and targets, nor the service itself. -/
theorem rows_of_others_kept (db : Database) (s : String) (rs : List (Call × ScopedRequest))
    (hrs : ∀ r ∈ rs, r.1.access.checkAccess s = false ∧ r.1.newId ≠ s) :
    KeepsRowsOf s db (db.serveAll rs) := by
  apply serveAll_invariant (P := fun db' => KeepsRowsOf s db db') rs _ db (.refl s db)
  intro db' call req hmem hkept hacc
  obtain ⟨haccess,hid⟩ := hrs (call, req) hmem
  exact hkept.trans (keepsRowsOf_write haccess hid req hacc)

/-- The service of somebody else stays, whatever the caller of the sample removes. -/
theorem rows_of_removal_kept :
    KeepsRowsOf "33333333-3333-3333-3333-333333333333"
      (catalogDatabase.serveAll registrations)
      ((catalogDatabase.serveAll registrations).serveAll
        [(sampleCall, .removeCloudService "33333333-3333-3333-3333-333333333333")]) :=
  rows_of_others_kept _ _ _ (by decide)

end OtherServices
end Clouditor
