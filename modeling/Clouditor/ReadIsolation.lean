import Clouditor.PageChains
import Clouditor.ScopedLists
import Clouditor.WriteIsolation
import Mathlib.Data.String.Basic

/-! What a caller who may see some cloud services can learn about the others: nothing from
the list calls, but something from the removal of a certificate. -/
namespace Clouditor
set_option autoImplicit false

/-- The tables that are read, with the states of the certificates. -/
structure ReadDatabase extends Database where
  states : Keyed.Rows CertificateState.id

/-- The database behind each of the tables. -/
structure ReadEngines where
  results : SQL.Engine AssessmentResultRow AssessmentResultRow.timestamp
  evidences : SQL.Engine EvidenceRow EvidenceRow.timestamp
  certificates : SQL.Engine Certificate (fun _ => none)
  states : SQL.Engine CertificateState (fun _ => none)
  resources : SQL.Engine Resource (fun _ => none)

/-- The order of rows is a function of the selected rows, as long as no text but a column
name is in the ORDER BY. -/
structure ReadEngines.RowOrder (D : ReadEngines) : Prop where
  results : D.results.RowOrder AssessmentResultRow.id ListedTable.assessmentResults.Orders
  evidences : D.evidences.RowOrder EvidenceRow.id ListedTable.evidences.Orders
  certificates : D.certificates.RowOrder Certificate.id ListedTable.certificates.Orders
  states : D.states.RowOrder CertificateState.id (· = "")
  resources : D.resources.RowOrder Resource.key ListedTable.resources.Orders

inductive ReadRequest where
  | listAssessmentResults (req : ListAssessmentResultsRequest)
  | listEvidences (req : ListEvidencesRequest)
  | listCertificates (req : PaginatedRequest)
  | listResources (req : ListResourcesRequest)
  | listGraphEdges (req : PaginatedRequest)
  | getEvidence (evidenceId : String)

/-- The `order_by` of a list request is empty or a column name. -/
def ReadRequest.Ordered : ReadRequest → Prop
  | .listAssessmentResults req => req.page.OrdersBy .assessmentResults
  | .listEvidences req => req.page.OrdersBy .evidences
  | .listCertificates req => req.OrdersBy .certificates
  | .listResources req => req.page.OrdersBy .resources
  | .listGraphEdges req => req.OrdersBy .resources
  | .getEvidence _ => True

inductive ReadResponse where
  | assessmentResults (results : List AssessmentResultRow) (next : PageTokenText)
  | evidences (evidences : List EvidenceRow) (next : PageTokenText)
  | certificates (certificates : List ListedCertificate) (next : PageTokenText)
  | resources (results : List Resource) (next : PageTokenText)
  | graphEdges (edges : List GraphEdge) (next : PageTokenText)
  | evidence (e : EvidenceRow)
  deriving DecidableEq

def ReadDatabase.respond (db : ReadDatabase) (D : ReadEngines)
    (toOntologyResource : String → Option OntologyMessage) (a : Access) :
    ReadRequest → Except Err ReadResponse
  | .listAssessmentResults req =>
    (listAssessmentResults D.results a db.assessmentResults.toList req).map
      (fun r => .assessmentResults r.1 r.2)
  | .listEvidences req =>
    (listEvidences D.evidences a db.evidences.toList req).map (fun r => .evidences r.1 r.2)
  | .listCertificates req =>
    (listCertificates D.certificates D.states a db.certificates.toList db.states.toList req).map
      (fun r => .certificates r.1 r.2)
  | .listResources req =>
    (listResources D.resources a db.resources.toList req).map (fun r => .resources r.1 r.2)
  | .listGraphEdges req =>
    (listGraphEdges toOntologyResource D.resources a db.resources.toList req).map
      (fun r => .graphEdges r.1 r.2)
  | .getEvidence id => (getEvidence a db.evidences.toList id).map .evidence

/-- A state that is stored for a certificate of a service in `L`. -/
def ReadDatabase.holdsState (db : ReadDatabase) (L : List String) (s : CertificateState) : Prop :=
  db.states.find s.id = some s ∧
    ∃ c, db.certificates.find s.certificateId = some c ∧ c.cloudServiceId ∈ L

/-- The two stores have the same rows of the services in `L`. -/
structure AgreeOn (L : List String) (db db' : ReadDatabase) : Prop where
  results : Keyed.Agree AssessmentResultRow.cloudServiceId (· ∈ L) db.assessmentResults
    db'.assessmentResults
  evidences : Keyed.Agree EvidenceRow.cloudServiceId (· ∈ L) db.evidences db'.evidences
  certificates : Keyed.Agree Certificate.cloudServiceId (· ∈ L) db.certificates db'.certificates
  resources : Keyed.Agree Resource.cloudServiceId (· ∈ L) db.resources db'.resources
  states : ∀ s, db.holdsState L s ↔ db'.holdsState L s

section Selection
variable {C α : Type} {stamp : α → Option ℤ}

/-- For a caller with some services, the joined conditions are met by rows of those only. -/
theorem selectWhere_scoped (column : α → C → SQL.Value) (owner : α → String) (c : C)
    (hc : ∀ r, column r c = .text (owner r)) (a : Access) (ha : a.all = false)
    (conds : List (SQL.BoundGroup C)) (hfits : ∀ g ∈ conds, ∀ b ∈ g, SQL.Fits b) :
    ∃ p : α → Bool, (∀ r, p r = true → owner r ∈ a.allowed) ∧
      (∀ r, p r = true → ∀ g ∈ conds, SQL.meets column 0 r g = true) ∧
      ∀ rows, selectWhere column (conds ++ a.conditions c) rows = some (rows.filter p) := by
  refine ⟨fun r => (conds ++ a.conditions c).all (SQL.meets column 0 r), ?_, ?_, ?_⟩
  · intro r hr
    simp only [List.all_append, Bool.and_eq_true] at hr
    rw [conditions_meet a column c r (owner r) (hc r)] at hr
    exact checkAccess_mem a (owner r) ha hr.2
  · intro r hr g hg
    exact List.all_eq_true.mp hr g (List.mem_append_left _ hg)
  · intro rows
    apply SQL.select_groups
    intro g hg
    rcases List.mem_append.mp hg with hg | hg
    · exact hfits g hg
    · exact conditions_fit a c g hg

/-- The pager sees nothing but the selected rows. -/
theorem paginateStorage_perm {K : Type} {E : SQL.Engine α stamp} {key : α → K}
    {texts : String → Prop} (hE : E.RowOrder key texts) (req : PaginatedRequest)
    (ht : texts (orderStmt req.orderBy req.asc)) (opts : PaginationOpts) (rows rows' : List α)
    (hn : (rows.map key).Nodup) (hp : rows.Perm rows') :
    paginateStorage E req opts rows = paginateStorage E req opts rows' := by
  have hlist (start size : ℤ) : storageList E req.orderBy req.asc start size rows =
      storageList E req.orderBy req.asc start size rows' := by
    unfold storageList
    split
    · rfl
    · rename_i f hf
      rw [hE.sort_eq _ f ht hf rows rows' hn hp]
  unfold paginateStorage
  simp only [hlist]

theorem mem_of_paginateStorage (E : SQL.Engine α stamp) (req : PaginatedRequest)
    (opts : PaginationOpts) (rows page : List α) (next : PageTokenText)
    (h : paginateStorage E req opts rows = .ok (page, next)) (r : α) (hr : r ∈ page) :
    r ∈ rows := by
  obtain ⟨f,hf,rfl⟩ := paginateStorage_page E req opts rows page next h
  have hmem : r ∈ f rows := by
    unfold window at hr
    split at hr
    · exact List.mem_of_mem_drop hr
    · exact List.mem_of_mem_drop (List.mem_of_mem_take hr)
  exact (E.sort_perm _ f hf rows).mem_iff.mp hmem

theorem selected_keys_nodup {K : Type} [DecidableEq K] {key : α → K} (rows : Keyed.Rows key)
    (p : α → Bool) : ((rows.toList.filter p).map key).Nodup :=
  rows.toList_keys_nodup.sublist (List.filter_sublist.map key)

/-- Tables that agree on the services of the caller give the same page and token. -/
theorem paginateWhere_agree {K : Type} [DecidableEq K] {E : SQL.Engine α stamp} {key : α → K}
    {texts : String → Prop} (hE : E.RowOrder key texts) (column : α → C → SQL.Value)
    (owner : α → String) (c : C) (hc : ∀ r, column r c = .text (owner r)) (a : Access)
    (ha : a.all = false) (conds : List (SQL.BoundGroup C))
    (hfits : ∀ g ∈ conds, ∀ b ∈ g, SQL.Fits b) (req : PaginatedRequest)
    (ht : texts (orderStmt req.orderBy req.asc)) (rows rows' : Keyed.Rows key)
    (h : Keyed.Agree owner (· ∈ a.allowed) rows rows') :
    paginateWhere E column req (conds ++ a.conditions c) rows.toList =
      paginateWhere E column req (conds ++ a.conditions c) rows'.toList := by
  obtain ⟨p,hp,_,hsel⟩ := selectWhere_scoped column owner c hc a ha conds hfits
  simp only [paginateWhere, hsel]
  exact paginateStorage_perm hE req ht _ _ _ (selected_keys_nodup rows p) (h.filter_perm p hp)

end Selection

section Isolation
variable {D : ReadEngines} (hD : D.RowOrder) {a : Access} (ha : a.all = false)
  {db db' : ReadDatabase} (h : AgreeOn a.allowed db db')
include hD ha h

theorem listAssessmentResults_agree (req : ListAssessmentResultsRequest)
    (ho : req.page.OrdersBy .assessmentResults) :
    listAssessmentResults D.results a db.assessmentResults.toList req =
      listAssessmentResults D.results a db'.assessmentResults.toList req := by
  have hfits := filter_fits req.filter _ assessment_conditions_fit
  have hpage := paginateWhere_agree hD.results AssessmentResultRow.column
    AssessmentResultRow.cloudServiceId .cloudServiceId (fun _ => rfl) a ha _ hfits req.page
    (orderStmt_orders req.page _ ho) _ _ h.results
  obtain ⟨p,hp,_,hsel⟩ := selectWhere_scoped AssessmentResultRow.column
    AssessmentResultRow.cloudServiceId .cloudServiceId (fun _ => rfl) a ha _ hfits
  have hperm := h.results.filter_perm p hp
  have hkeys := selected_keys_nodup db.assessmentResults p
  unfold listAssessmentResults ListAssessmentResultsRequest.conditions
  rw [hpage, hsel, hsel]
  cases hs : D.results.sort "" with
  | none => rfl
  | some f =>
    -- the newest rows are the same, and their order is a function of them
    have hlatest := hD.results.sort_eq "" f (.inl rfl) hs _ _
      (SQL.firstPer_keys_nodup D.results _ _ _ hkeys)
      (hD.results.firstPer_perm (fun r => (r.resourceId, r.metricId)) _ _ hkeys hperm)
    simp only [hlatest]

theorem listEvidences_agree (req : ListEvidencesRequest) (ho : req.page.OrdersBy .evidences) :
    listEvidences D.evidences a db.evidences.toList req =
      listEvidences D.evidences a db'.evidences.toList req := by
  unfold listEvidences
  rw [paginateWhere_agree hD.evidences EvidenceRow.column EvidenceRow.cloudServiceId
    .cloudServiceId (fun _ => rfl) a ha _ (filter_fits req.filter _ evidence_conditions_fit)
    req.page (orderStmt_orders req.page _ ho) _ _ h.evidences]

theorem listResources_agree (req : ListResourcesRequest) (ho : req.page.OrdersBy .resources) :
    listResources D.resources a db.resources.toList req =
      listResources D.resources a db'.resources.toList req := by
  unfold listResources
  rw [paginateWhere_agree hD.resources Resource.column Resource.cloudServiceId .cloudServiceId
    (fun _ => rfl) a ha _ (filter_fits req.filter _ resource_conditions_fit) req.page
    (orderStmt_orders req.page _ ho) _ _ h.resources]

theorem listGraphEdges_agree (toOntologyResource : String → Option OntologyMessage)
    (req : PaginatedRequest) (ho : req.OrdersBy .resources) :
    listGraphEdges toOntologyResource D.resources a db.resources.toList req =
      listGraphEdges toOntologyResource D.resources a db'.resources.toList req := by
  have hpage := paginateWhere_agree hD.resources Resource.column Resource.cloudServiceId
    .cloudServiceId (fun _ => rfl) a ha [] (by simp) req (orderStmt_orders req _ ho) _ _ h.resources
  rw [List.nil_append] at hpage
  unfold listGraphEdges
  rw [hpage]

omit hD ha in
/-- The states of a certificate that the caller may see are the same in both stores. -/
theorem states_perm (page : List Certificate)
    (hmem : ∀ c ∈ page, db.certificates.find c.id = some c ∧ c.cloudServiceId ∈ a.allowed) :
    (db.states.toList.filter (fun s => (page.map Certificate.id).contains s.certificateId)).Perm
      (db'.states.toList.filter (fun s => (page.map Certificate.id).contains s.certificateId)) := by
  have hnodup (r : Keyed.Rows CertificateState.id) (p : CertificateState → Bool) :
      (r.toList.filter p).Nodup := List.Nodup.of_map CertificateState.id (selected_keys_nodup r p)
  rw [List.perm_ext_iff_of_nodup (hnodup _ _) (hnodup _ _)]
  intro s
  simp only [List.mem_filter, Keyed.Rows.mem_toList, List.contains_iff_mem, List.mem_map]
  apply and_congr_left
  rintro ⟨c,hc,hid⟩
  obtain ⟨hfind,hown⟩ := hmem c hc
  have hfind' := (h.certificates c hown).mp hfind
  rw [hid] at hfind hfind'
  have hs := h.states s
  simp only [ReadDatabase.holdsState, hfind, hfind', Option.some.injEq, exists_eq_left', hown,
    and_true] at hs
  exact hs

omit ha in
theorem preloadStates_agree (page : List Certificate)
    (hmem : ∀ c ∈ page, db.certificates.find c.id = some c ∧ c.cloudServiceId ∈ a.allowed) :
    preloadStates D.states db.states.toList page =
      preloadStates D.states db'.states.toList page := by
  unfold preloadStates
  cases hs : D.states.sort "" with
  | none => rfl
  | some f =>
    simp only [hD.states.sort_eq "" f rfl hs _ _ (selected_keys_nodup db.states _)
      (states_perm h page hmem)]

theorem listCertificates_agree (req : PaginatedRequest) (ho : req.OrdersBy .certificates) :
    listCertificates D.certificates D.states a db.certificates.toList db.states.toList req =
      listCertificates D.certificates D.states a db'.certificates.toList db'.states.toList req := by
  have hpage := paginateWhere_agree hD.certificates Certificate.column Certificate.cloudServiceId
    .cloudServiceId (fun _ => rfl) a ha [] (by simp) req (orderStmt_orders req _ ho) _ _
    h.certificates
  obtain ⟨p,hp,_,hsel⟩ := selectWhere_scoped Certificate.column Certificate.cloudServiceId
    .cloudServiceId (fun _ => rfl) a ha [] (by simp)
  rw [List.nil_append] at hpage hsel
  unfold listCertificates
  rw [← hpage]
  cases hres : paginateWhere D.certificates Certificate.column req (a.conditions .cloudServiceId)
      db.certificates.toList with
  | error e => rfl
  | ok res =>
    obtain ⟨page,next⟩ := res
    -- the page holds rows of the caller only, so their states may be loaded from either store
    have hmem (c : Certificate) (hc : c ∈ page) :
        db.certificates.find c.id = some c ∧ c.cloudServiceId ∈ a.allowed := by
      simp only [paginateWhere, hsel] at hres
      have hc' := List.mem_filter.mp (mem_of_paginateStorage _ req _ _ page next hres c hc)
      exact ⟨(db.certificates.mem_toList c).mp hc'.1, hp c hc'.2⟩
    simp only [preloadStates_agree hD h page hmem]

omit hD in
theorem getEvidence_agree (evidenceId : String) :
    getEvidence a db.evidences.toList evidenceId =
      getEvidence a db'.evidences.toList evidenceId := by
  obtain ⟨p,hp,hid,hsel⟩ := selectWhere_scoped EvidenceRow.column EvidenceRow.cloudServiceId
    .cloudServiceId (fun _ => rfl) a ha [equals .id evidenceId]
    (by simpa using equals_fits EvidenceColumn.id evidenceId)
  have hperm := h.evidences.filter_perm p hp
  have hkeys := selected_keys_nodup db.evidences p
  have hone (e : EvidenceRow) (he : e ∈ db.evidences.toList.filter p) : e.id = evidenceId := by
    have hm := hid e (List.mem_filter.mp he).2 _ List.mem_cons_self
    simpa [equals, SQL.meets, EvidenceRow.column] using hm
  unfold getEvidence
  rw [← List.singleton_append, hsel, hsel]
  generalize db.evidences.toList.filter p = l at hperm hkeys hone
  -- at most one row has the id
  cases l with
  | nil => rw [List.nil_perm.mp hperm]
  | cons e rest =>
    cases rest with
    | nil => rw [List.singleton_perm.mp hperm]
    | cons e' rest => simp [hone e (by simp), hone e' (by simp)] at hkeys

/-- A caller with some services gets the same answer from all stores that agree on these:
the same rows, page boundaries and tokens, or the same error. -/
theorem reads_isolated (toOntologyResource : String → Option OntologyMessage) (req : ReadRequest)
    (ho : req.Ordered) :
    db.respond D toOntologyResource a req = db'.respond D toOntologyResource a req := by
  cases req with
  | listAssessmentResults req =>
    simp only [ReadDatabase.respond, listAssessmentResults_agree hD ha h req ho]
  | listEvidences req => simp only [ReadDatabase.respond, listEvidences_agree hD ha h req ho]
  | listCertificates req =>
    simp only [ReadDatabase.respond, listCertificates_agree hD ha h req ho]
  | listResources req => simp only [ReadDatabase.respond, listResources_agree hD ha h req ho]
  | listGraphEdges req =>
    simp only [ReadDatabase.respond, listGraphEdges_agree hD ha h toOntologyResource req ho]
  | getEvidence id => simp only [ReadDatabase.respond, getEvidence_agree ha h id]

end Isolation

section Samples

/-- Databases that put rows in the order of their ids wherever they have the choice. -/
def ReadEngines.byId : ReadEngines where
  results := .byKey true _ AssessmentResultRow.id
  evidences := .byKey true _ EvidenceRow.id
  certificates := .byKey true _ Certificate.id
  states := .byKey true _ CertificateState.id
  resources := .byKey true _ Resource.key

theorem ReadEngines.byId_rowOrder : ReadEngines.byId.RowOrder where
  results := SQL.Engine.byKey_rowOrder true _ _ _
  evidences := SQL.Engine.byKey_rowOrder true _ _ _
  certificates := SQL.Engine.byKey_rowOrder true _ _ _
  states := SQL.Engine.byKey_rowOrder true _ _ _
  resources := SQL.Engine.byKey_rowOrder true _ _ _

/-- A store with one certificate of a foreign service, and the store without it. -/
def foreignStore (stored : Bool) : ReadDatabase where
  toDatabase := { sampleDatabase "22222222-2222-2222-2222-222222222222" with
    certificates := if stored then
      (Keyed.Rows.empty _).save (sampleCertificate "22222222-2222-2222-2222-222222222222")
      else Keyed.Rows.empty _ }
  states := Keyed.Rows.empty _

theorem foreignStore_agree : Keyed.Agree Certificate.cloudServiceId
    (· ∈ sampleCall.access.allowed) (foreignStore true).certificates
    (foreignStore false).certificates := by
  intro c hc
  simp only [foreignStore, if_true, Bool.false_eq_true, if_false, Keyed.find_save]
  constructor
  · intro h
    split at h
    · cases h
      exact absurd hc (by decide)
    · exact h
  · intro h
    cases h

theorem reads_isolated_sample : sampleCall.access.all = false ∧
    (foreignStore true).certificates.find "1234" ≠ (foreignStore false).certificates.find "1234" ∧
    (foreignStore true).respond .byId (fun _ => none) sampleCall.access
      (.listCertificates ⟨0, .empty, "name", true⟩) =
    (foreignStore false).respond .byId (fun _ => none) sampleCall.access
      (.listCertificates ⟨0, .empty, "name", true⟩) := by
  refine ⟨rfl, by decide, reads_isolated ReadEngines.byId_rowOrder rfl ?_ _ _ ?_⟩
  · refine ⟨fun _ _ => Iff.rfl, fun _ _ => Iff.rfl, foreignStore_agree, fun _ _ => Iff.rfl, ?_⟩
    intro s
    constructor <;> (rintro ⟨h,_⟩; cases h)
  · exact .inr (by decide)

end Samples

section Removal

/-- What a caller learns from a removal: success, or the code of the error. -/
def Database.removalAnswer (db : Database) (a : Access) (certificateId : String) :
    Except (Option Code) Unit :=
  ((db.removeCertificate a certificateId).mapError Err.code).map (fun _ => ())

theorem removalAnswer_eq (db : Database) (a : Access) (certificateId : String)
    (hid : certificateId ≠ "") : db.removalAnswer a certificateId =
      match db.certificates.find certificateId with
      | none => .error (some .notFound)
      | some c =>
        if a.checkAccess c.cloudServiceId then .ok () else .error (some .permissionDenied) := by
  unfold Database.removalAnswer Database.removeCertificate
  rw [if_neg hid]
  cases db.certificates.find certificateId with
  | none => rfl
  | some c =>
    by_cases hown : a.checkAccess c.cloudServiceId = true
    all_goals simp [hown, Except.map, Except.mapError, errPermissionDenied]

/-- A missing certificate and one of a foreign service are told apart by the code. -/
theorem removal_indistinguishable_iff (a : Access) (ha : a.all = false) (db db' : Database)
    (h : Keyed.Agree Certificate.cloudServiceId (· ∈ a.allowed) db.certificates db'.certificates)
    (certificateId : String) :
    db.removalAnswer a certificateId = db'.removalAnswer a certificateId ↔
      certificateId = "" ∨ (db.certificates.find certificateId).isSome =
        (db'.certificates.find certificateId).isSome := by
  by_cases hid : certificateId = ""
  · simp [Database.removalAnswer, Database.removeCertificate, hid]
  simp only [hid, false_or, removalAnswer_eq _ a certificateId hid]
  -- a certificate of the caller's services is stored in both or in neither
  have hsame (rows rows' : Keyed.Rows Certificate.id)
      (hr : Keyed.Agree Certificate.cloudServiceId (· ∈ a.allowed) rows rows')
      (c c' : Certificate) (hc : rows.find certificateId = some c)
      (hc' : rows'.find certificateId = some c') (hown : a.checkAccess c.cloudServiceId = true) :
      c = c' := by
    have hkey := rows.key_of_find _ c hc
    have hk := (hr c (checkAccess_mem a _ ha hown)).mp (by rw [hkey]; exact hc)
    rw [hkey, hc'] at hk
    exact (Option.some.inj hk).symm
  cases hc : db.certificates.find certificateId with
  | none =>
    cases hc' : db'.certificates.find certificateId with
    | none => simp
    | some c' => by_cases hown : a.checkAccess c'.cloudServiceId = true <;> simp [hown]
  | some c =>
    cases hc' : db'.certificates.find certificateId with
    | none => by_cases hown : a.checkAccess c.cloudServiceId = true <;> simp [hown]
    | some c' =>
      by_cases hown : a.checkAccess c.cloudServiceId = true
      · simp [hsame _ _ h c c' hc hc' hown]
      · by_cases hown' : a.checkAccess c'.cloudServiceId = true
        · simp [hsame _ _ (fun v hv => (h v hv).symm) c' c hc' hc hown']
        · simp [hown, hown']

theorem removal_of_foreign_certificate : sampleCall.access.all = false ∧
    (foreignStore true).removalAnswer sampleCall.access "5678" =
      (foreignStore false).removalAnswer sampleCall.access "5678" :=
  ⟨rfl, (removal_indistinguishable_iff _ rfl (foreignStore true).toDatabase
    (foreignStore false).toDatabase foreignStore_agree "5678").mpr (.inr (by decide))⟩

/-- Denied where it is stored, not found where it is not. -/
theorem removal_reveals_certificate : sampleCall.access.all = false ∧
    Keyed.Agree Certificate.cloudServiceId (· ∈ sampleCall.access.allowed)
      (foreignStore true).certificates (foreignStore false).certificates ∧
    (foreignStore true).removalAnswer sampleCall.access "1234" = .error (some .permissionDenied) ∧
    (foreignStore false).removalAnswer sampleCall.access "1234" = .error (some .notFound) :=
  ⟨rfl, foreignStore_agree, rfl, rfl⟩

end Removal
end Clouditor
