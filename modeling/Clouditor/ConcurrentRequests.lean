import Clouditor.Interleavings
import Clouditor.StoredRows
import Mathlib.Data.List.Permutation

/-! The handlers of the orchestrator while other requests are handled: updating a certificate
or a cloud service and removing a certificate first look rows up and write in a later
statement, all others run one statement. -/
namespace Clouditor
set_option autoImplicit false

open Interleaved (Handler Reliance Pending World Event)

section Handlers

/-- What comes of a request, without the answered message. -/
abbrev RequestHandler := Handler Database (Except Err Unit)

/-- Validation and access check come before any statement. -/
def gated (valid : Bool) (a : Access) (cloudServiceId : String) (h : RequestHandler) :
    RequestHandler :=
  if !valid then .answer (.error errInvalidRequest)
  else if !a.checkAccess cloudServiceId then .answer (.error errPermissionDenied)
  else h

/-- A handler with one statement. -/
def oneStatement (r : Call × ScopedRequest) : RequestHandler :=
  .write (fun db => ((db.handle r.1 r.2).map (fun _ => ()), db.serve r))

/-- `Save` inserts the row if it is gone by then. -/
def saveCertificate (c : Certificate) : RequestHandler :=
  .write (fun db => (.ok (), { db with certificates := db.certificates.save c }))

def updateCertificateHandler (call : Call) (c : Certificate) : RequestHandler :=
  gated c.valid call.access c.cloudServiceId <| .read fun db =>
    if (db.certificates.find c.id).isNone then .answer (.error errCertificationNotFound)
    else saveCertificate c

def saveCloudService (call : Call) (s : CloudService) : RequestHandler :=
  .write (fun db =>
    let service := { s with updatedAt := some call.now }
    (.ok (), { db with cloudServices := db.cloudServices.save service }))

def updateCloudServiceHandler (call : Call) (s : CloudService) : RequestHandler :=
  gated s.valid call.access s.id <| .read fun db =>
    if (db.cloudServices.find s.id).isNone then .answer (.error errServiceNotFound)
    else saveCloudService call s

def deleteCertificate (id : String) : RequestHandler :=
  .write (fun db =>
    if (db.certificates.find id).isNone then
      (.error (errStorage "record not in the database"), db)
    else (.ok (), { db with certificates := db.certificates.delete id }))

/-- An administrator is not asked about the row, for others it is counted once more. -/
def checkAuthorization (call : Call) (id : String) (h : RequestHandler) : RequestHandler :=
  if call.access.all then h
  else .read fun db =>
    if (db.certificates.find id).any (fun c => call.access.allowed.contains c.cloudServiceId)
    then h
    else .answer (.error errPermissionDenied)

def removeCertificateHandler (call : Call) (id : String) : RequestHandler :=
  if id = "" then .answer (.error errInvalidRequest)
  else .read fun db =>
    if (db.certificates.find id).isNone then .answer (.error errCertificationNotFound)
    else checkAuthorization call id (deleteCertificate id)

def requestHandler : Call × ScopedRequest → RequestHandler
  | (call, .updateCertificate c) => updateCertificateHandler call c
  | (call, .removeCertificate id) => removeCertificateHandler call id
  | (call, .updateCloudService s) => updateCloudServiceHandler call s
  | r => oneStatement r

end Handlers

section Sequential
variable {call : Call} {db : Database}

theorem serve_eq_getD (db : Database) (r : Call × ScopedRequest) :
    db.serve r = (db.handle r.1 r.2).toOption.getD db := by
  unfold Database.serve
  cases db.handle r.1 r.2 <;> rfl

theorem exec_updateCertificateHandler (db : Database) (call : Call) (c : Certificate) :
    (updateCertificateHandler call c).exec db =
      ((db.handle call (.updateCertificate c)).map (fun _ => ()),
        db.serve (call, .updateCertificate c)) := by
  simp only [updateCertificateHandler, gated, serve_eq_getD, Database.handle,
    Database.updateCertificate, checked]
  cases c.valid with
  | false => rfl
  | true =>
    cases call.access.checkAccess c.cloudServiceId with
    | false => rfl
    | true =>
      simp only [Handler.exec, Bool.not_true, Bool.false_eq_true, if_false]
      cases db.certificates.find c.id <;> rfl

theorem exec_updateCloudServiceHandler (db : Database) (call : Call) (s : CloudService) :
    (updateCloudServiceHandler call s).exec db =
      ((db.handle call (.updateCloudService s)).map (fun _ => ()),
        db.serve (call, .updateCloudService s)) := by
  simp only [updateCloudServiceHandler, gated, serve_eq_getD, Database.handle,
    Database.updateCloudService, checked]
  cases s.valid with
  | false => rfl
  | true =>
    cases call.access.checkAccess s.id with
    | false => rfl
    | true =>
      simp only [Handler.exec, Bool.not_true, Bool.false_eq_true, if_false]
      cases db.cloudServices.find s.id <;> rfl

theorem exec_removeCertificateHandler (db : Database) (call : Call) (id : String) :
    (removeCertificateHandler call id).exec db =
      ((db.handle call (.removeCertificate id)).map (fun _ => ()),
        db.serve (call, .removeCertificate id)) := by
  simp only [removeCertificateHandler, serve_eq_getD, Database.handle, Database.removeCertificate]
  split_ifs with hid
  · rfl
  · simp only [Handler.exec, checkAuthorization]
    cases hfind : db.certificates.find id with
    | none => rfl
    | some row =>
      cases hall : call.access.all with
      | true => simp [Access.checkAccess, hall, deleteCertificate, Handler.exec, hfind, Except.map,
          Except.toOption]
      | false =>
        by_cases hrow : row.cloudServiceId ∈ call.access.allowed
        · simp [Access.checkAccess, hall, deleteCertificate, Handler.exec, hfind, Except.map,
            Except.toOption, hrow]
        · simp [Access.checkAccess, hall, deleteCertificate, Handler.exec, hfind, Except.map,
            Except.toOption, hrow]

/-- Alone, a handler does what the database is said to do for its request. -/
theorem exec_requestHandler (db : Database) (r : Call × ScopedRequest) :
    (requestHandler r).exec db = ((db.handle r.1 r.2).map (fun _ => ()), db.serve r) := by
  obtain ⟨call,req⟩ := r
  cases req
  case updateCertificate c => exact exec_updateCertificateHandler db call c
  case removeCertificate id => exact exec_removeCertificateHandler db call id
  case updateCloudService s => exact exec_updateCloudServiceHandler db call s
  all_goals rfl

end Sequential

section Reliances

/-- What a request has found out when it goes on after looking something up. -/
inductive StillReady (db : Database) : Call × ScopedRequest → RequestHandler → Prop where
  | certificate (call : Call) (c : Certificate) (hvalid : c.valid = true)
      (haccess : call.access.checkAccess c.cloudServiceId = true)
      (hstored : (db.certificates.find c.id).isSome = true) :
      StillReady db (call, .updateCertificate c) (saveCertificate c)
  | cloudService (call : Call) (s : CloudService) (hvalid : s.valid = true)
      (haccess : call.access.checkAccess s.id = true)
      (hstored : (db.cloudServices.find s.id).isSome = true) :
      StillReady db (call, .updateCloudService s) (saveCloudService call s)
  | found (call : Call) (id : String) (hid : id ≠ "") (hall : call.access.all = false)
      (hstored : (db.certificates.find id).isSome = true) :
      StillReady db (call, .removeCertificate id)
        (checkAuthorization call id (deleteCertificate id))
  | authorized (call : Call) (id : String) (hid : id ≠ "") (row : Certificate)
      (hstored : db.certificates.find id = some row)
      (haccess : call.access.checkAccess row.cloudServiceId = true) :
      StillReady db (call, .removeCertificate id) (deleteCertificate id)

/-- What must not be written while a request is between looking a row up and writing it: the
row must not be removed, and before a removal it must not get another service either. -/
def Disturbs (r r' : Call × ScopedRequest) : Prop :=
  match r'.2, r.2 with
  | .updateCertificate c, .removeCertificate id => id = c.id
  | .updateCloudService s, .removeCloudService id => id = s.id
  | .removeCertificate id, .removeCertificate id' => id' = id
  | .removeCertificate id, .updateCertificate c => c.id = id
  | _, _ => False

/-- How a request can change the certificate with an id that is stored. -/
theorem find_certificates_serve (db : Database) (r : Call × ScopedRequest) (id : String)
    (hstored : (db.certificates.find id).isSome = true) :
    (db.serve r).certificates.find id = db.certificates.find id ∨
    (∃ call, r = (call, .removeCertificate id)) ∨
    ∃ call c, r = (call, .updateCertificate c) ∧ c.id = id ∧
      (db.serve r).certificates.find id = some c := by
  obtain ⟨call,req⟩ := r
  by_cases hacc : db.Accepts call req
  · rw [serve_of_accepts hacc]
    cases req
    case createCertificate c =>
      refine .inl ?_
      have hne : id ≠ c.id := by
        intro heq
        rw [heq, hacc.2.2] at hstored
        cases hstored
      rw [Database.write, Keyed.find_save, if_neg hne]
    case updateCertificate c =>
      by_cases hid : id = c.id
      · refine .inr (.inr ⟨call, c, rfl, hid.symm, ?_⟩)
        rw [Database.write, Keyed.find_save, if_pos hid]
      · exact .inl (by rw [Database.write, Keyed.find_save, if_neg hid])
    case removeCertificate k =>
      by_cases hid : id = k
      · exact .inr (.inl ⟨call, by rw [hid]⟩)
      · exact .inl (by rw [Database.write, Keyed.find_delete, if_neg hid])
    all_goals exact .inl rfl
  · exact .inl (by rw [serve_of_not_accepts hacc])

theorem isSome_certificates_serve (db : Database) (r : Call × ScopedRequest) (id : String)
    (hstored : (db.certificates.find id).isSome = true)
    (hremoved : ∀ call, r ≠ (call, .removeCertificate id)) :
    ((db.serve r).certificates.find id).isSome = true := by
  rcases find_certificates_serve db r id hstored with h | ⟨call,h⟩ | ⟨_,c,_,_,h⟩
  · rw [h]
    exact hstored
  · exact absurd h (hremoved call)
  · rw [h]
    rfl

theorem isSome_cloudServices_serve (db : Database) (r : Call × ScopedRequest) (id : String)
    (hstored : (db.cloudServices.find id).isSome = true)
    (hremoved : ∀ call, r ≠ (call, .removeCloudService id)) :
    ((db.serve r).cloudServices.find id).isSome = true := by
  obtain ⟨call,req⟩ := r
  have hsaved (s : CloudService) : ((db.cloudServices.save s).find id).isSome = true := by
    rw [Keyed.find_save]
    split_ifs
    · rfl
    · exact hstored
  by_cases hacc : db.Accepts call req
  · rw [serve_of_accepts hacc]
    cases req
    case registerCloudService s => exact hsaved _
    case updateCloudService s => exact hsaved _
    case removeCloudService k =>
      have hne : id ≠ k := fun h => hremoved call (by rw [h])
      rw [Database.write, Keyed.find_delete, if_neg hne]
      exact hstored
    all_goals exact hstored
  · rw [serve_of_not_accepts hacc]
    exact hstored

theorem updateCertificateHandler_eq (call : Call) (c : Certificate) (hvalid : c.valid = true)
    (haccess : call.access.checkAccess c.cloudServiceId = true) :
    updateCertificateHandler call c = .read fun db =>
      if (db.certificates.find c.id).isNone then .answer (.error errCertificationNotFound)
      else saveCertificate c := by
  simp only [updateCertificateHandler, gated, hvalid, haccess, Bool.not_true, Bool.false_eq_true,
    if_false]

theorem gated_eq_read {valid : Bool} {a : Access} {s : String} {h : RequestHandler}
    {next : Database → RequestHandler} (hread : gated valid a s h = .read next) :
    valid = true ∧ a.checkAccess s = true ∧ h = .read next := by
  unfold gated at hread
  split_ifs at hread with hvalid haccess
  · exact ⟨by simpa using hvalid, by simpa using haccess, hread⟩

/-- A handler that is not done after its first look knows what it was looking for. -/
theorem ready_of_first (db : Database) (r : Call × ScopedRequest)
    (next : Database → RequestHandler) (hread : requestHandler r = .read next) :
    (∃ a, next db = .answer a) ∨ StillReady db r (next db) := by
  obtain ⟨call,req⟩ := r
  cases req
  case updateCertificate c =>
    obtain ⟨hvalid,haccess,hnext⟩ := gated_eq_read hread
    cases hnext
    dsimp only
    split_ifs with hfind
    · exact .inl ⟨_, rfl⟩
    · have hsome : (db.certificates.find c.id).isSome = true := by
        simpa [Option.isSome_iff_ne_none] using hfind
      exact .inr (.certificate call c hvalid haccess hsome)
  case removeCertificate id =>
    simp only [requestHandler, removeCertificateHandler] at hread
    split_ifs at hread with hid
    cases hread
    dsimp only
    split_ifs with hfind
    · exact .inl ⟨_, rfl⟩
    · have hstored : (db.certificates.find id).isSome = true := by
        simpa [Option.isSome_iff_ne_none] using hfind
      refine .inr ?_
      cases hall : call.access.all with
      | false => exact .found call id hid hall hstored
      | true =>
        obtain ⟨row,hrow⟩ := Option.isSome_iff_exists.mp hstored
        have haccess : call.access.checkAccess row.cloudServiceId = true := by
          rw [Access.checkAccess, hall, Bool.true_or]
        rw [checkAuthorization, hall, if_pos rfl]
        exact .authorized call id hid row hrow haccess
  case updateCloudService s =>
    obtain ⟨hvalid,haccess,hnext⟩ := gated_eq_read hread
    cases hnext
    dsimp only
    split_ifs with hfind
    · exact .inl ⟨_, rfl⟩
    · have hsome : (db.cloudServices.find s.id).isSome = true := by
        simpa [Option.isSome_iff_ne_none] using hfind
      exact .inr (.cloudService call s hvalid haccess hsome)
  all_goals cases hread

/-- Only a removal looks twice. -/
theorem ready_of_next (db : Database) (r : Call × ScopedRequest)
    (next : Database → RequestHandler) (hready : StillReady db r (.read next)) :
    (∃ a, next db = .answer a) ∨ StillReady db r (next db) := by
  generalize hh : Handler.read next = h at hready
  cases hready with
  | certificate => cases hh
  | cloudService => cases hh
  | authorized => cases hh
  | found call id hid hall hstored =>
    rw [checkAuthorization, hall, if_neg Bool.false_ne_true] at hh
    cases hh
    obtain ⟨row,hrow⟩ := Option.isSome_iff_exists.mp hstored
    dsimp only
    rw [hrow, Option.any_some]
    split_ifs with hallowed
    · refine .inr (.authorized call id hid row hrow ?_)
      rw [Access.checkAccess, hall, Bool.false_or]
      exact hallowed
    · exact .inl ⟨_, rfl⟩

theorem accepts_of_ok {db : Database} {call : Call} {req : ScopedRequest}
    (h : (db.handle call req).map (fun _ => ()) = .ok ()) : db.Accepts call req := by
  cases hok : db.handle call req with
  | error e =>
    rw [hok] at h
    cases h
  | ok db' => exact ((handle_eq_ok_iff db db' call req).mp hok).1

theorem handle_of_accepts {db : Database} {call : Call} {req : ScopedRequest}
    (h : db.Accepts call req) : db.handle call req = .ok (db.write call req) :=
  (handle_eq_ok_iff db _ call req).mpr ⟨h, rfl⟩

/-- As long as it is ready, a request ends as if it had only just come. -/
theorem exec_of_stillReady (db : Database) (r : Call × ScopedRequest) (h : RequestHandler)
    (hready : StillReady db r h) : h.exec db = (requestHandler r).exec db := by
  cases hready with
  | certificate call c hvalid haccess hstored =>
    have hacc : db.Accepts call (.updateCertificate c) := ⟨hvalid, haccess, hstored⟩
    rw [exec_requestHandler, handle_of_accepts hacc, serve_of_accepts hacc]
    rfl
  | cloudService call s hvalid haccess hstored =>
    have hacc : db.Accepts call (.updateCloudService s) := ⟨hvalid, haccess, hstored⟩
    rw [exec_requestHandler, handle_of_accepts hacc, serve_of_accepts hacc]
    rfl
  | found call id hid hall hstored =>
    obtain ⟨row,hrow⟩ := Option.isSome_iff_exists.mp hstored
    simp only [requestHandler, removeCertificateHandler, if_neg hid, Handler.exec, hrow,
      Option.isNone_some, Bool.false_eq_true, if_false]
  | authorized call id hid row hrow haccess =>
    have hacc : db.Accepts call (.removeCertificate id) := ⟨hid, row, hrow, haccess⟩
    rw [exec_requestHandler, handle_of_accepts hacc, serve_of_accepts hacc]
    simp only [deleteCertificate, Handler.exec, hrow, Option.isNone_some, Bool.false_eq_true,
      if_false]
    rfl

theorem stillReady_serve (db : Database) (r r' : Call × ScopedRequest) (h : RequestHandler)
    (hquiet : ¬ Disturbs r r') (hready : StillReady db r' h) : StillReady (db.serve r) r' h := by
  cases hready with
  | certificate call c hvalid haccess hstored =>
    refine .certificate call c hvalid haccess (isSome_certificates_serve db r c.id hstored ?_)
    rintro call' rfl
    exact hquiet rfl
  | cloudService call s hvalid haccess hstored =>
    refine .cloudService call s hvalid haccess (isSome_cloudServices_serve db r s.id hstored ?_)
    rintro call' rfl
    exact hquiet rfl
  | found call id hid hall hstored =>
    refine .found call id hid hall (isSome_certificates_serve db r id hstored ?_)
    rintro call' rfl
    exact hquiet rfl
  | authorized call id hid row hrow haccess =>
    refine .authorized call id hid row ?_ haccess
    rcases find_certificates_serve db r id (by rw [hrow]; rfl) with hsame | ⟨_,rfl⟩ | ⟨_,c,rfl,hc,_⟩
    · exact hsame.trans hrow
    · exact absurd rfl hquiet
    · exact absurd hc hquiet

def requestReliance : Reliance requestHandler where
  Ready := StillReady
  Disturbs := Disturbs
  first := ready_of_first
  next := ready_of_next
  exec_eq := exec_of_stillReady
  stable := by
    intro db r r' h hquiet hready
    rw [exec_requestHandler]
    exact stillReady_serve db r r' h hquiet hready

end Reliances

section Runs

theorem replay_state (db : Database) (rs : List (Call × ScopedRequest)) :
    (Interleaved.replay requestHandler db rs).2 = db.serveAll rs := by
  induction rs generalizing db with
  | nil => rfl
  | cons r rs ih =>
    rw [serveAll_cons, Interleaved.replay, ih, exec_requestHandler]

/-- A certificate is updated while another one is created. -/
def quietEvents : List (Event (Call × ScopedRequest)) :=
  let c := sampleCertificate "11111111-1111-1111-1111-111111111111"
  [.receive (sampleCall, .updateCertificate { c with name := "EUCS" }),
    .receive (sampleCall, .createCertificate { c with id := "1235" }), .advance 0, .advance 1,
    .advance 0]

/-- If both requests are accepted, one after the other, the certificate is gone. -/
theorem not_replay_of_both (db : Database) {db' : Database} (c : Certificate) (ca cr : Call)
    (hthere : db'.certificates.find c.id = some c) (order : List (Call × ScopedRequest))
    (horder : order.Perm [(cr, .removeCertificate c.id), (ca, .updateCertificate c)]) :
    Interleaved.replay requestHandler db order ≠ ([.ok (), .ok ()], db') := by
  have hgone (db : Database) (hacc : db.Accepts cr (.removeCertificate c.id)) :
      (db.serve (cr, .removeCertificate c.id)).certificates.find c.id = none := by
    rw [serve_of_accepts hacc, Database.write, Keyed.find_delete, if_pos rfl]
  intro heq
  rcases List.perm_pair.mp horder with rfl | rfl
  · -- the update does not find it any more
    simp only [Interleaved.replay, exec_requestHandler, Prod.mk.injEq, List.cons.injEq] at heq
    obtain ⟨⟨hremoval,hupdate,_⟩,_⟩ := heq
    have hstored := (accepts_of_ok hupdate).2.2
    rw [hgone db (accepts_of_ok hremoval)] at hstored
    cases hstored
  · simp only [Interleaved.replay, exec_requestHandler, Prod.mk.injEq, List.cons.injEq] at heq
    obtain ⟨⟨_,hremoval,_⟩,hstate⟩ := heq
    rw [← hstate, hgone _ (accepts_of_ok hremoval)] at hthere
    cases hthere

/-- The removal is received before the update has looked its certificate up. -/
theorem update_looks_first (db : Database) (c row : Certificate) (ca cr : Call)
    (hvalid : c.valid = true) (haccess : ca.access.checkAccess c.cloudServiceId = true)
    (hrow : db.certificates.find c.id = some row) :
    Transitions.run (Interleaved.step requestHandler) (World.start db)
      [.receive (ca, .updateCertificate c), .receive (cr, .removeCertificate c.id), .advance 0] =
    some ⟨db, [⟨(ca, .updateCertificate c), saveCertificate c, 1⟩,
      ⟨(cr, .removeCertificate c.id), requestHandler (cr, .removeCertificate c.id), 0⟩], []⟩ := by
  have hlooked : Interleaved.step requestHandler
      ⟨db, [⟨(ca, .updateCertificate c), requestHandler (ca, .updateCertificate c), 0⟩,
        ⟨(cr, .removeCertificate c.id), requestHandler (cr, .removeCertificate c.id), 0⟩], []⟩
        (.advance 0) =
      some ⟨db, [⟨(ca, .updateCertificate c), saveCertificate c, 1⟩,
        ⟨(cr, .removeCertificate c.id), requestHandler (cr, .removeCertificate c.id), 0⟩], []⟩ := by
    simp [Interleaved.step, requestHandler, saveCertificate, hrow,
      updateCertificateHandler_eq ca c hvalid haccess]
  rw [Transitions.run_cons_eq_some]
  refine ⟨_, rfl, (Transitions.run_cons_eq_some ..).mpr ⟨_, rfl, ?_⟩⟩
  exact (Transitions.run_cons_eq_some ..).mpr ⟨_, hlooked, rfl⟩

/-- The whole removal comes between the two statements of the update. -/
theorem update_overtaken (db : Database) (c row : Certificate) (ca cr : Call)
    (hvalid : c.valid = true) (haccess : ca.access.checkAccess c.cloudServiceId = true)
    (hrow : db.certificates.find c.id = some row)
    (hacc : db.Accepts cr (.removeCertificate c.id)) :
    ∃ events, Transitions.run (Interleaved.step requestHandler) (World.start db) events =
      some ⟨{ db with certificates := (db.certificates.delete c.id).save c }, [],
        [((cr, .removeCertificate c.id), .ok ()), ((ca, .updateCertificate c), .ok ())]⟩ := by
  have hfirst := update_looks_first db c row ca cr hvalid haccess hrow
  obtain ⟨k,hk⟩ := Interleaved.exists_end requestHandler
    ⟨db, [⟨(ca, .updateCertificate c), saveCertificate c, 1⟩,
      ⟨(cr, .removeCertificate c.id), requestHandler (cr, .removeCertificate c.id), 0⟩], []⟩
    1 _ _ _ rfl
  rw [exec_requestHandler, handle_of_accepts hacc, serve_of_accepts hacc] at hk
  have hsaved : Interleaved.step requestHandler
      ⟨db.write cr (.removeCertificate c.id), [⟨(ca, .updateCertificate c), saveCertificate c, 1⟩],
        [((cr, .removeCertificate c.id), .ok ())]⟩ (.advance 0) =
      some ⟨{ db with certificates := (db.certificates.delete c.id).save c }, [],
        [((cr, .removeCertificate c.id), .ok ()), ((ca, .updateCertificate c), .ok ())]⟩ :=
    rfl
  -- the update looks, the removal is served to its end, and the update saves
  have hlast := (Transitions.run_cons_eq_some _ _ _ _ []).mpr ⟨_, hsaved, rfl⟩
  exact ⟨_, Transitions.run_trans hfirst (Transitions.run_trans hk hlast)⟩

/-- An update that has found its certificate brings it back after a removal, and no order of
the two requests explains that. -/
theorem removal_undone (db : Database) (c row : Certificate) (ca cr : Call)
    (hvalid : c.valid = true) (haccess : ca.access.checkAccess c.cloudServiceId = true)
    (hrow : db.certificates.find c.id = some row)
    (hremove : cr.access.checkAccess row.cloudServiceId = true) :
    ∃ events w, Transitions.run (Interleaved.step requestHandler) (World.start db) events =
        some w ∧
      w.log = [((cr, .removeCertificate c.id), .ok ()), ((ca, .updateCertificate c), .ok ())] ∧
      w.state.certificates.find c.id = some c ∧
      ∀ order, order.Perm [(cr, .removeCertificate c.id), (ca, .updateCertificate c)] →
        Interleaved.replay requestHandler db order ≠ ([.ok (), .ok ()], w.state) := by
  have hid : c.id ≠ "" := by
    simp only [Certificate.valid, Bool.and_eq_true, decide_eq_true_eq] at hvalid
    exact hvalid.1.1
  have hacc : db.Accepts cr (.removeCertificate c.id) := ⟨hid, row, hrow, hremove⟩
  obtain ⟨events,hrun⟩ := update_overtaken db c row ca cr hvalid haccess hrow hacc
  have hback : ((db.certificates.delete c.id).save c).find c.id = some c := by
    rw [Keyed.find_save, if_pos rfl]
  exact ⟨events, _, hrun, rfl, hback, not_replay_of_both db c ca cr hback⟩

theorem sample_removal_undone :
    let c := sampleCertificate "11111111-1111-1111-1111-111111111111"
    ∃ events w, Transitions.run (Interleaved.step requestHandler)
        (World.start (sampleDatabase "11111111-1111-1111-1111-111111111111")) events = some w ∧
      w.state.certificates.find "1234" = some c := by
  obtain ⟨events,w,hrun,_,hfind,_⟩ := removal_undone
    (sampleDatabase "11111111-1111-1111-1111-111111111111")
    (sampleCertificate "11111111-1111-1111-1111-111111111111") _ sampleCall sampleCall
    (by decide) (by decide) rfl (by decide)
  exact ⟨events, w, hrun, hfind⟩

end Runs
end Clouditor
