import Clouditor.ScopedLists
import Clouditor.WriteIsolation

/-! From the token of a caller to the cloud services it is shown: `AllowedCloudServices` and
`ListCloudServices`. -/
namespace Clouditor
set_option autoImplicit false

/-- A JSON value of a token claim, as far as its type is asserted. -/
inductive ClaimValue where
  | bool (b : Bool)
  | text (s : String)
  | array (items : List ClaimValue)
  | other

def ClaimValue.text? : ClaimValue → Option String
  | .text s => some s
  | _ => none

/-- What a request carries of its caller. -/
inductive CallContext where
  | nil
  | noBearer
  | unparsable
  | token (claims : List (String × ClaimValue))

structure AuthorizationStrategyJWT where
  cloudServicesKey : String
  allowAllKey : String

def AuthorizationStrategyJWT.allowedCloudServices (s : AuthorizationStrategyJWT) :
    CallContext → Access
  | .nil | .noBearer | .unparsable => ⟨false, []⟩
  | .token claims =>
    match claims.lookup s.allowAllKey with
    | some (.bool true) => ⟨true, []⟩
    | _ =>
      match claims.lookup s.cloudServicesKey with
      -- items that are not strings are skipped
      | some (.array items) => ⟨false, items.filterMap ClaimValue.text?⟩
      | _ => ⟨false, []⟩

/-- `Find` with a string slice as its only inline condition: the primary keys, or no
condition at all if there are none. -/
def findByPrimaryKey {α : Type} (key : α → String) (ids : List String) (rows : List α) : List α :=
  if ids.isEmpty then rows else rows.filter (fun r => ids.contains (key r))

def Database.listCloudServices (db : Database) (E : SQL.Engine CloudService (fun _ => none))
    (a : Access) (req : PaginatedRequest) : Except Err (List CloudService × PageTokenText) :=
  let rows := db.cloudServices.toList
  (paginateStorage E req defaultPaginationOpts
    (if a.all then rows else findByPrimaryKey CloudService.id a.allowed rows)).mapError
      errPaginateResults

/-- All pages of a list request together. -/
def Database.listAllCloudServices (db : Database) (E : SQL.Engine CloudService (fun _ => none))
    (a : Access) (req : PaginatedRequest) (calls : ℕ) : Option (Except Err (List CloudService)) :=
  listAllPaginated (fun t => db.listCloudServices E a { req with pageToken := t }) calls .empty

/-- The pages yield the services that the inline condition selects, in some order. -/
theorem listAllCloudServices_eq (db : Database) (E : SQL.Engine CloudService (fun _ => none))
    (a : Access) (ha : a.all = false) (req : PaginatedRequest) (f : List CloudService → _)
    (hf : E.sort (orderStmt req.orderBy req.asc) = some f) (calls : ℕ)
    (hn : db.cloudServices.toList.length < calls) :
    db.listAllCloudServices E a req calls =
      some (.ok (f (findByPrimaryKey CloudService.id a.allowed db.cloudServices.toList))) := by
  have hlen : (findByPrimaryKey CloudService.id a.allowed db.cloudServices.toList).length ≤
      db.cloudServices.toList.length := by
    unfold findByPrimaryKey
    split
    · exact le_rfl
    · exact List.length_filter_le _ _
  have hall := paginateStorage_all E req defaultPaginationOpts (by decide) (by decide) f hf
    (findByPrimaryKey CloudService.id a.allowed db.cloudServices.toList) calls (by omega)
  simp only [Database.listAllCloudServices, Database.listCloudServices, ha, Bool.false_eq_true,
    if_false]
  rw [listAllPaginated_mapError, hall]
  rfl

/-- A statement that the database rejects ends the first call. -/
theorem listAllCloudServices_error (db : Database) (E : SQL.Engine CloudService (fun _ => none))
    (a : Access) (req : PaginatedRequest)
    (hf : E.sort (orderStmt req.orderBy req.asc) = none) (calls : ℕ) :
    ∀ rows, db.listAllCloudServices E a req calls ≠ some (.ok rows) := by
  intro rows h
  cases calls with
  | zero => cases h
  | succ n =>
    simp [Database.listAllCloudServices, Database.listCloudServices, listAllPaginated,
      paginateStorage, paginate, storageList, hf, Except.mapError] at h

/-- A caller who may see the services in `L` is shown exactly these, unless `L` is empty:
then the condition falls away and every stored service is shown. -/
theorem listed_services_are_allowed_iff (s : AuthorizationStrategyJWT) (ctx : CallContext)
    (hctx : (s.allowedCloudServices ctx).all = false) (db : Database)
    (E : SQL.Engine CloudService (fun _ => none)) (req : PaginatedRequest) :
    (∃ rows, (∀ calls, db.cloudServices.toList.length < calls →
        db.listAllCloudServices E (s.allowedCloudServices ctx) req calls = some (.ok rows)) ∧
      rows.Perm (db.cloudServices.toList.filter
        (fun c => (s.allowedCloudServices ctx).allowed.contains c.id))) ↔
    (E.sort (orderStmt req.orderBy req.asc)).isSome = true ∧
      ((s.allowedCloudServices ctx).allowed ≠ [] ∨ db.cloudServices.toList = []) := by
  generalize s.allowedCloudServices ctx = a at hctx
  cases hf : E.sort (orderStmt req.orderBy req.asc) with
  | none =>
    refine ⟨fun ⟨rows,hrows,_⟩ => ?_, fun h => by cases h.1⟩
    exact absurd (hrows _ (Nat.lt_succ_self _)) (listAllCloudServices_error db E a req hf _ rows)
  | some f =>
    have heq := listAllCloudServices_eq db E a hctx req f hf
    have hperm := E.sort_perm _ f hf
    simp only [Option.isSome_some, true_and]
    constructor
    · rintro ⟨rows,hrows,hp⟩
      by_contra hno
      rw [not_or, not_not] at hno
      obtain ⟨hnil,hne⟩ := hno
      have hcalls := Nat.lt_succ_self db.cloudServices.toList.length
      have hrow := (heq _ hcalls).symm.trans (hrows _ hcalls)
      simp only [Option.some.injEq, Except.ok.injEq, findByPrimaryKey, hnil, List.isEmpty_nil,
        if_true] at hrow
      -- all of them are listed although none is allowed
      rw [← hrow, hnil] at hp
      have hempty := (hperm _).symm.trans hp
      simp only [List.contains_nil, List.filter_false, List.perm_nil] at hempty
      exact hne hempty
    · intro h
      refine ⟨_, heq, (hperm _).trans ?_⟩
      unfold findByPrimaryKey
      split
      · rename_i hnil
        rcases h with h | h
        · exact absurd (List.isEmpty_iff.mp hnil) h
        · rw [h]
          exact List.Perm.nil
      · exact List.Perm.refl _

def sampleStrategy : AuthorizationStrategyJWT := ⟨"cloudserviceid", "cladmin"⟩

def storedService (id : String) : CloudService := ⟨id, "service", "", none, none, none⟩

/-- A database with one registered service. -/
def servedDatabase : Database :=
  { sampleDatabase "22222222-2222-2222-2222-222222222222" with
    cloudServices := (Keyed.Rows.empty _).save
      (storedService "22222222-2222-2222-2222-222222222222") }

theorem listed_services_with_claim :
    ∃ rows, (∀ calls, servedDatabase.cloudServices.toList.length < calls →
        servedDatabase.listAllCloudServices (.inTableOrder true _)
          (sampleStrategy.allowedCloudServices (.token [("cloudserviceid",
            .array [.text "11111111-1111-1111-1111-111111111111"])]))
          ⟨0, .empty, "name", true⟩ calls = some (.ok rows)) ∧
      rows.Perm (servedDatabase.cloudServices.toList.filter (fun c =>
        (sampleStrategy.allowedCloudServices (.token [("cloudserviceid",
          .array [.text "11111111-1111-1111-1111-111111111111"])])).allowed.contains c.id)) :=
  (listed_services_are_allowed_iff sampleStrategy _ (by decide) servedDatabase
    (.inTableOrder true _) ⟨0, .empty, "name", true⟩).mpr ⟨rfl, .inl (by decide)⟩

/-- A call without a token is shown a service that it may not see. -/
theorem listed_services_without_token :
    (sampleStrategy.allowedCloudServices .noBearer).all = false ∧
    (sampleStrategy.allowedCloudServices .noBearer).allowed = [] ∧
    servedDatabase.listAllCloudServices (.inTableOrder true _)
      (sampleStrategy.allowedCloudServices .noBearer) ⟨0, .empty, "name", true⟩ 2 =
        some (.ok [storedService "22222222-2222-2222-2222-222222222222"]) := by
  exact ⟨rfl, rfl, rfl⟩

end Clouditor
