import Clouditor.AzureStorageAccounts
import Clouditor.Transitions

/-! Runs of `List` of one Azure discoverer, which keeps `backupMap` from one run to the next, and
when the backups that a run attaches to disks and object storages are those that exist. -/
namespace Clouditor
set_option autoImplicit false
open Paged

/-- The answers of Azure in one run. Of the discoveries that have nothing to do with backups only
the outcome counts, with the id and name of each resource. -/
structure AzureRun where
  authorize : Option Err
  resourceGroups : Outcome Err (List (String × String))
  defenderClient : Option Err
  pricings : Except Err (List Pricing)
  storageClients : Option Err
  vaults : VaultAnswers
  accounts : List (Except Err (List AccountAnswers))
  sqlServers : Outcome Err (List (String × String))
  cosmosDB : Outcome Err (List (String × String))
  vaultsAgain : VaultAnswers
  blockStoragesClient : Option Err
  disks : List (Except Err (List (Option Disk)))
  virtualMachines : Outcome Err (List (String × String))
  functionsWebApps : Outcome Err (List (String × String))
  networkInterfaces : Outcome Err (List (String × String))
  loadBalancer : Outcome Err (List (String × String))
  applicationGateway : Outcome Err (List (String × String))

/-- What `List` returns, a list and possibly an error. -/
structure Listing where
  resources : List AzureResource
  err : Option Err

section Discovery
variable (lower : String → String)

def discoverBlockStorages (backupMap : BackupMap) (client : Option Err)
    (disks : List (Except Err (List (Option Disk)))) : Outcome Err (List AzureResource) :=
  match client with
  | some e => fail e
  | none => do
    let list ← foldPages (Err.wrap "error getting next page") (collect (fun disk =>
      inContext (Err.wrap "could not handle block storage")
        (handleBlockStorage lower backupMap disk))) [] disks
    return list.map .blockStorage

/-- The outcome of a discovery that has nothing to do with backups. -/
def others (context : String) (found : Outcome Err (List (String × String))) :
    Outcome Err (List AzureResource) := do
  let list ← inContext (Err.wrap context) found
  return list.map (fun r => .other r.1 r.2)

namespace AzureRun
variable (run : AzureRun)

/-- `List` up to the storage accounts. -/
def listAccounts (backupMap : BackupMap) : BackupMap × Outcome Err (List AzureResource) :=
  match run.authorize with
  | some e => (backupMap, fail (e.wrap "could not authenticate to Azure"))
  | none =>
    match others "could not discover resource groups" run.resourceGroups with
    | .error failure => (backupMap, .error failure)
    | .ok rg =>
      match discoverDefender run.defenderClient run.pricings with
      | .error e => (backupMap, fail (e.wrap "could not discover Defender for X"))
      | .ok defender =>
        let (map, storageAccounts) := discoverStorageAccounts lower defender backupMap
          run.storageClients run.vaults run.accounts
        (map, do
          let storageAccounts ← inContext (Err.wrap "could not discover storage accounts")
            storageAccounts
          return rg ++ storageAccounts)

/-- `List` up to the databases, which come before the second discovery of the vaults. -/
def listStorages (backupMap : BackupMap) : BackupMap × Outcome Err (List AzureResource) :=
  let (map, list) := run.listAccounts lower backupMap
  (map, do
    let list ← list
    let dbs ← others "could not discover sql databases" run.sqlServers
    let cosmosDB ← others "could not discover cosmos db accounts" run.cosmosDB
    return list ++ dbs ++ cosmosDB)

/-- `List` up to the network interfaces: an error so far leaves no list. -/
def listCompute (backupMap : BackupMap) : BackupMap × Outcome Err (List AzureResource) :=
  match run.listStorages lower backupMap with
  | (map, .error failure) => (map, .error failure)
  | (map, .ok list) =>
    -- asks Azure again only if the first discovery has left the map empty
    match discoverBackupVaults lower map run.vaultsAgain with
    | (map, some .fault) => (map, .error .fault)
    | (map, _) => (map, do
      let storage ← inContext (Err.wrap "could not discover block storage")
        (discoverBlockStorages lower map run.blockStoragesClient run.disks)
      let virtualMachines ← others "could not discover virtual machines" run.virtualMachines
      let functions ← others "could not discover functions" run.functionsWebApps
      let interfaces ← others "could not discover network interfaces" run.networkInterfaces
      return list ++ storage ++ map.storages "Microsoft.Compute/disks" ++ virtualMachines ++
        functions ++ interfaces)

/-- A discovery whose error does not take away the list so far. -/
def andOthers (list : List AzureResource) (found : Outcome Err (List AzureResource)) :
    Outcome Err Listing :=
  match found with
  | .error .fault => .error .fault
  | .error (.error e) => .ok ⟨list, some e⟩
  | .ok more => .ok ⟨list ++ more, none⟩

def list (backupMap : BackupMap) : BackupMap × Outcome Err Listing :=
  let (map, found) := run.listCompute lower backupMap
  (map, match found with
    | .error .fault => .error .fault
    | .error (.error e) => .ok ⟨[], some e⟩
    | .ok list => do
      let listing ← andOthers list
        (others "could not discover load balancer" run.loadBalancer)
      match listing.err with
      | some _ => return listing
      | none =>
        andOthers listing.resources
          (others "could not discover application gateways" run.applicationGateway))

/-- The map after a run, unless the run ends the process. -/
def step (backupMap : BackupMap) (run : AzureRun) : Option BackupMap :=
  match run.list lower backupMap with
  | (_, .error _) => none
  | (map, .ok _) => some map

end AzureRun
end Discovery

section Backups
variable (lower : String → String)

/-- The instances that back up a resource, given its id in lower case. -/
def backupsOf (entries : List BackupEntry) (dataSourceType id : String) : List BackupEntry :=
  entries.filter (fun e => e.dataSourceType = dataSourceType ∧ lower e.resourceId = id)

/-- A disk or an object storage has all its backups, and no other. -/
def BackedUp (entries : List BackupEntry) : AzureResource → Prop
  | .objectStorage s => s.backups = backupsEmptyCheck
      ((backupsOf lower entries "Microsoft.Storage/storageAccounts/blobServices"
        (s.parentId.getD "")).map BackupEntry.backup)
  | .blockStorage s => s.backups = backupsEmptyCheck
      ((backupsOf lower entries "Microsoft.Compute/disks" s.id).map BackupEntry.backup)
  | _ => True

/-- A run in which no request for backups fails and in which they do not change attaches the
backups that exist. -/
def AttachesBackups (backupMap : BackupMap) (run : AzureRun) : Prop :=
  ∀ entries, run.vaults.Hold lower entries → run.vaultsAgain = run.vaults →
    ∀ listing, (run.list lower backupMap).2 = .ok listing →
      ∀ r ∈ listing.resources, BackedUp lower entries r

/-- The map has, under exactly the id of a resource, all its backups. -/
def HoldsAll (map : BackupMap) (entries : List BackupEntry) (dataSourceType id : String) : Prop :=
  map.backups dataSourceType id =
    (backupsOf lower entries dataSourceType (lower id)).map BackupEntry.backup

/-- The map will hold the backups of a resource: while it is empty, if there is at most one, with
the id written as that of the resource and on the last page of its vault; later, if that is what
it holds already. -/
structure Held (backupMap : BackupMap) (answers : VaultAnswers) (entries : List BackupEntry)
    (dataSourceType id : String) : Prop where
  first : backupMap = [] →
    (backupsOf lower entries dataSourceType (lower id)).length ≤ 1 ∧
      ∀ e ∈ backupsOf lower entries dataSourceType (lower id),
        e.resourceId = id ∧ answers.OnLastPage lower e
  later : backupMap ≠ [] → HoldsAll lower backupMap entries dataSourceType id

/-- The run returns the disks and object storages it finds. -/
def AzureRun.Returns (run : AzureRun) (backupMap : BackupMap) : Prop :=
  (∃ found, (run.listCompute lower backupMap).2 = .ok found) ∧
    ∃ listing, (run.list lower backupMap).2 = .ok listing

/-- The map holds, for every account with a container and for every disk, what exists. -/
def Current (backupMap : BackupMap) (run : AzureRun) : Prop :=
  ∀ entries, run.vaults.Hold lower entries → run.vaultsAgain = run.vaults →
    run.Returns lower backupMap →
      (∀ accounts, pageValues run.accounts = some accounts → ∀ a ∈ accounts,
        pageValues a.containers ≠ some [] →
          Held lower backupMap run.vaults entries
            "Microsoft.Storage/storageAccounts/blobServices" (a.account.id.getD "")) ∧
      ∀ disks, pageValues run.disks = some disks → ∀ disk ∈ disks,
        Held lower backupMap run.vaults entries "Microsoft.Compute/disks"
          ((disk.bind Disk.id).getD "")

variable {lower}

theorem discoverBackupVaults_of_ne_nil {backupMap : BackupMap} (h : backupMap ≠ [])
    (answers : VaultAnswers) : discoverBackupVaults lower backupMap answers = (backupMap, none) :=
  if_pos h

/-- The entries kept under exactly the id of a resource. -/
def keptUnder (kept : List BackupEntry) (dataSourceType id : String) : List BackupEntry :=
  kept.filter (fun e => e.dataSourceType = dataSourceType ∧ e.resourceId = id)

theorem mem_keptUnder_iff {kept : List BackupEntry} {dataSourceType id : String}
    {e : BackupEntry} : e ∈ keptUnder kept dataSourceType id ↔
      e ∈ kept ∧ e.dataSourceType = dataSourceType ∧ e.resourceId = id := by
  rw [keptUnder, List.mem_filter, decide_eq_true_eq]

theorem keptUnder_sublist {kept entries : List BackupEntry} (h : kept.Sublist entries)
    (dataSourceType id : String) :
    (keptUnder kept dataSourceType id).Sublist
      (backupsOf lower entries dataSourceType (lower id)) := by
  have hweaker : (keptUnder kept dataSourceType id).Sublist
      (backupsOf lower kept dataSourceType (lower id)) := by
    apply List.monotone_filter_right
    intro e he
    simp only [decide_eq_true_eq] at he ⊢
    exact ⟨he.1, congrArg lower he.2⟩
  exact hweaker.trans (h.filter _)

theorem backups_kept_iff {answers : VaultAnswers} {entries kept : List BackupEntry}
    (hkept : kept.Sublist entries) (hpage : ∀ e, e ∈ kept ↔ answers.OnLastPage lower e)
    (dataSourceType id : String) :
    HoldsAll lower kept entries dataSourceType id ↔
      (backupsOf lower entries dataSourceType (lower id)).length ≤ 1 ∧
        ∀ e ∈ backupsOf lower entries dataSourceType (lower id),
          e.resourceId = id ∧ answers.OnLastPage lower e := by
  have hsublist : (keptUnder kept dataSourceType id).Sublist
      (backupsOf lower entries dataSourceType (lower id)) :=
    keptUnder_sublist hkept dataSourceType id
  have hlast : BackupMap.backups kept dataSourceType id =
      (keptUnder kept dataSourceType id).getLast?.toList.map BackupEntry.backup := rfl
  rw [HoldsAll, hlast]
  match hall : backupsOf lower entries dataSourceType (lower id) with
  | [] =>
    rw [hall, List.sublist_nil] at hsublist
    simp [hsublist]
  | [e] =>
    have hbackup : e ∈ backupsOf lower entries dataSourceType (lower id) := by simp [hall]
    have htype : e.dataSourceType = dataSourceType :=
      (of_decide_eq_true (List.mem_filter.mp hbackup).2).1
    have hfound : e ∈ keptUnder kept dataSourceType id ↔
        e.resourceId = id ∧ answers.OnLastPage lower e := by
      rw [mem_keptUnder_iff, hpage, and_iff_right htype, and_comm]
    rw [hall] at hsublist
    obtain hnil | hone := List.sublist_singleton.mp hsublist
    · rw [hnil] at hfound
      simp [hnil, ← hfound]
    · rw [hone] at hfound
      simp [hone, ← hfound]
  | e :: e' :: rest =>
    have hlength : ((keptUnder kept dataSourceType id).getLast?.toList.map
        BackupEntry.backup).length ≤ 1 := by
      cases (keptUnder kept dataSourceType id).getLast? <;> simp
    constructor
    · intro heq
      rw [heq] at hlength
      simp at hlength
    · rintro ⟨hone, _⟩
      simp at hone

/-- The map that the accounts and the disks of a run are looked up in. -/
theorem map_in_force {backupMap : BackupMap} {answers : VaultAnswers}
    {entries : List BackupEntry} (h : answers.Hold lower entries) :
    ∃ map, discoverBackupVaults lower backupMap answers = (map, none) ∧
      discoverBackupVaults lower map answers = (map, none) ∧
      ∀ dataSourceType id,
        HoldsAll lower map entries dataSourceType id ↔
          Held lower backupMap answers entries dataSourceType id := by
  by_cases hmap : backupMap = []
  -- this run fills the map, or leaves it empty both times
  · obtain ⟨kept, hdiscovered, hkept, hpage⟩ := h.kept
    subst hmap
    refine ⟨kept, hdiscovered, ?_, fun dataSourceType id => ?_⟩
    · by_cases hempty : kept = []
      · rw [hempty] at hdiscovered ⊢
        exact hdiscovered
      · exact discoverBackupVaults_of_ne_nil hempty answers
    · rw [backups_kept_iff hkept hpage]
      exact ⟨fun hfirst => ⟨fun _ => hfirst, fun hne => absurd rfl hne⟩, fun held => held.first rfl⟩
  · have hstays : discoverBackupVaults lower backupMap answers = (backupMap, none) :=
      discoverBackupVaults_of_ne_nil hmap answers
    refine ⟨backupMap, hstays, hstays, fun dataSourceType id => ?_⟩
    exact ⟨fun hlater => ⟨fun hnil => absurd hnil hmap, fun _ => hlater⟩,
      fun held => held.later hmap⟩

/-- An enabled backup is not taken for the entry of a resource without backups. -/
theorem backupsEmptyCheck_inj (held existing : List BackupEntry) :
    backupsEmptyCheck (held.map BackupEntry.backup) =
        backupsEmptyCheck (existing.map BackupEntry.backup) ↔
      held.map BackupEntry.backup = existing.map BackupEntry.backup := by
  cases held with
  | nil => cases existing <;> simp [backupsEmptyCheck, BackupEntry.backup]
  | cons e held => cases existing <;> simp [backupsEmptyCheck, BackupEntry.backup]

theorem backups_attached_iff (map : BackupMap) (entries : List BackupEntry)
    (dataSourceType id : String) :
    backupsEmptyCheck (map.backups dataSourceType id) =
        backupsEmptyCheck
          ((backupsOf lower entries dataSourceType (lower id)).map BackupEntry.backup) ↔
      HoldsAll lower map entries dataSourceType id :=
  backupsEmptyCheck_inj _ _

theorem others_backedUp {context : String} {found : Outcome Err (List (String × String))}
    {list : List AzureResource} (h : others context found = .ok list)
    (entries : List BackupEntry) : ∀ r ∈ list, BackedUp lower entries r := by
  simp only [others, bind_eq_ok_iff, pure_eq_ok_iff] at h
  obtain ⟨names, _, rfl⟩ := h
  intro r hr
  obtain ⟨name, _, rfl⟩ := List.mem_map.mp hr
  trivial

theorem storages_backedUp (map : BackupMap) (dataSourceType : String)
    (entries : List BackupEntry) :
    ∀ r ∈ map.storages dataSourceType, BackedUp lower entries r := by
  intro r hr
  obtain ⟨storage, _, rfl⟩ := List.mem_map.mp hr
  trivial

section Objects
variable {defender : DefenderMap} {map : BackupMap} (entries : List BackupEntry)

theorem handleBlockStorage_backups {disk : Option Disk} {storage : BlockStorage}
    (h : handleBlockStorage lower map disk = .ok storage) :
    storage.id = lower ((disk.bind Disk.id).getD "") ∧
      storage.backups = backupsEmptyCheck (map.backups "Microsoft.Compute/disks"
        ((disk.bind Disk.id).getD "")) := by
  simp only [handleBlockStorage, bind_eq_ok_iff, pure_eq_ok_iff, orFail_eq_ok_iff] at h
  obtain ⟨disk, rfl, id, hid, _, _, _, _, rfl⟩ := h
  rw [Option.bind_some, hid]
  exact ⟨rfl, rfl⟩

/-- An account without an id faults. -/
theorem discoverObjectStorages_id {answers : AccountAnswers} {list : List AzureResource}
    (h : discoverObjectStorages lower defender map answers = .ok list) :
    ∃ id, answers.account.id = some id := by
  simp only [discoverObjectStorages, bind_eq_ok_iff] at h
  obtain ⟨group, hgroup, _⟩ := h
  cases hid : answers.account.id with
  | none =>
    rw [hid] at hgroup
    cases hgroup
  | some id => exact ⟨id, rfl⟩

theorem objectStorages_backedUp_iff {answers : AccountAnswers} {list : List AzureResource}
    (h : discoverObjectStorages lower defender map answers = .ok list) :
    (∀ r ∈ list, BackedUp lower entries r) ↔
      (pageValues answers.containers ≠ some [] →
        HoldsAll lower map entries "Microsoft.Storage/storageAccounts/blobServices"
          (answers.account.id.getD "")) := by
  obtain ⟨id, hid⟩ := discoverObjectStorages_id h
  obtain ⟨containers, storages, hcontainers, rfl, hhandled⟩ := discoverObjectStorages_ok h
  have hstorage (storage : ObjectStorage) (hmem : storage ∈ storages) :
      BackedUp lower entries (.objectStorage storage) ↔
        HoldsAll lower map entries "Microsoft.Storage/storageAccounts/blobServices" id := by
    obtain ⟨container, _, hcontainer⟩ := exists_of_mem_right hhandled hmem
    have hmade := handleObjectStorage_ok hcontainer
    rw [BackedUp, hmade.parentId, hmade.backups, Option.bind_some, hid]
    exact backups_attached_iff map entries _ id
  rw [List.forall_mem_map, hid, hcontainers]
  cases hhandled with
  | nil => simp
  | cons hfirst hrest =>
    constructor
    · intro hall _
      exact (hstorage _ List.mem_cons_self).mp (hall _ List.mem_cons_self)
    · intro hheld storage hmem
      exact (hstorage storage hmem).mpr (hheld (by simp))

theorem accounts_backedUp_iff (accounts : List AccountAnswers) {acc found : List AzureResource}
    (h : accounts.foldlM (discoverAccount lower defender map) acc = .ok found) :
    (∀ r ∈ found, BackedUp lower entries r) ↔
      (∀ r ∈ acc, BackedUp lower entries r) ∧
        ∀ a ∈ accounts, pageValues a.containers ≠ some [] →
          HoldsAll lower map entries "Microsoft.Storage/storageAccounts/blobServices"
            (a.account.id.getD "") := by
  induction accounts generalizing acc with
  | nil =>
    cases h
    simp
  | cons answers accounts ih =>
    simp only [List.foldlM_cons, bind_eq_ok_iff] at h
    obtain ⟨acc₁, haccount, hrest⟩ := h
    obtain ⟨objects, files, service, hobjects, hfiles, _, rfl⟩ := discoverAccount_ok haccount
    obtain ⟨_, storages, _, rfl, _⟩ := discoverFileStorages_ok hfiles
    have hothers : ∀ r ∈ storages.map AzureResource.fileStorage ++
        [AzureResource.storageService service], BackedUp lower entries r := by
      rw [List.forall_mem_append, List.forall_mem_map, List.forall_mem_singleton]
      exact ⟨fun _ _ => trivial, trivial⟩
    rw [ih hrest, List.append_assoc, List.forall_mem_append, List.forall_mem_append,
      objectStorages_backedUp_iff entries hobjects, List.forall_mem_cons, eq_true hothers, and_true,
      and_assoc]

theorem disks_backedUp_iff {client : Option Err} {disks : List (Except Err (List (Option Disk)))}
    {list : List AzureResource} (h : discoverBlockStorages lower map client disks = .ok list) :
    ∃ values, pageValues disks = some values ∧
      ((∀ r ∈ list, BackedUp lower entries r) ↔
        ∀ disk ∈ values,
          HoldsAll lower map entries "Microsoft.Compute/disks" ((disk.bind Disk.id).getD "")) := by
  cases client with
  | some e => cases h
  | none =>
    simp only [discoverBlockStorages, bind_eq_ok_iff, pure_eq_ok_iff,
      foldPages_collect_eq_ok_iff, inContext_eq_ok_iff] at h
    obtain ⟨storages, ⟨values, hvalues, hhandled⟩, rfl⟩ := h
    have hstorage (disk : Option Disk) (storage : BlockStorage)
        (hdisk : handleBlockStorage lower map disk = .ok storage) :
        BackedUp lower entries (.blockStorage storage) ↔
          HoldsAll lower map entries "Microsoft.Compute/disks"
            ((disk.bind Disk.id).getD "") := by
      obtain ⟨hid, hbackups⟩ := handleBlockStorage_backups hdisk
      rw [BackedUp, hid, hbackups]
      exact backups_attached_iff map entries _ _
    refine ⟨values, hvalues, ?_⟩
    rw [List.forall_mem_map]
    constructor
    · intro hall disk hdisk
      obtain ⟨storage, hmem, hhandle⟩ := exists_of_mem_left hhandled hdisk
      exact (hstorage disk storage hhandle).mp (hall storage hmem)
    · intro hall storage hmem
      obtain ⟨disk, hdisk, hhandle⟩ := exists_of_mem_right hhandled hmem
      exact (hstorage disk storage hhandle).mpr (hall disk hdisk)

end Objects

section Listing
variable {run : AzureRun} {backupMap : BackupMap}

theorem listAccounts_ok {list : List AzureResource}
    (h : (run.listAccounts lower backupMap).2 = .ok list) :
    (run.listAccounts lower backupMap).1 =
        (discoverBackupVaults lower backupMap run.vaults).1 ∧
      ∃ rg defender accounts, list = rg ++ accounts ∧
        others "could not discover resource groups" run.resourceGroups = .ok rg ∧
        listStorageAccounts lower defender (discoverBackupVaults lower backupMap run.vaults).1
          run.accounts = .ok accounts := by
  unfold AzureRun.listAccounts at h ⊢
  cases hauthorize : run.authorize with
  | some e =>
    rw [hauthorize] at h
    cases h
  | none =>
    rw [hauthorize] at h
    cases hgroups : others "could not discover resource groups" run.resourceGroups with
    | error failure =>
      rw [hgroups] at h
      cases h
    | ok rg =>
      rw [hgroups] at h
      cases hdefender : discoverDefender run.defenderClient run.pricings with
      | error e =>
        rw [hdefender] at h
        cases h
      | ok defender =>
        rw [hdefender] at h
        simp only [bind_eq_ok_iff, pure_eq_ok_iff, inContext_eq_ok_iff] at h
        obtain ⟨accounts, haccounts, rfl⟩ := h
        obtain ⟨hmap, hlist⟩ := discoverStorageAccounts_ok haccounts
        exact ⟨hmap, rg, defender, accounts, rfl, rfl, hlist⟩

theorem listStorages_ok {list : List AzureResource}
    (h : (run.listStorages lower backupMap).2 = .ok list) :
    (run.listStorages lower backupMap).1 =
        (discoverBackupVaults lower backupMap run.vaults).1 ∧
      ∃ defender rg accounts dbs cosmosDB, list = rg ++ accounts ++ dbs ++ cosmosDB ∧
        others "could not discover resource groups" run.resourceGroups = .ok rg ∧
        listStorageAccounts lower defender (discoverBackupVaults lower backupMap run.vaults).1
          run.accounts = .ok accounts ∧
        others "could not discover sql databases" run.sqlServers = .ok dbs ∧
        others "could not discover cosmos db accounts" run.cosmosDB = .ok cosmosDB := by
  simp only [AzureRun.listStorages, bind_eq_ok_iff, pure_eq_ok_iff] at h ⊢
  obtain ⟨list, hlist, dbs, hdbs, cosmosDB, hcosmosDB, rfl⟩ := h
  obtain ⟨hmap, rg, defender, accounts, rfl, hrg, haccounts⟩ := listAccounts_ok hlist
  exact ⟨hmap, defender, rg, accounts, dbs, cosmosDB, rfl, hrg, haccounts, hdbs, hcosmosDB⟩

/-- The resources of a run are backed up as they should if the accounts and the disks are found
in the map that both discoveries of the vaults leave. -/
theorem listCompute_backedUp_iff {map : BackupMap} {found : List AzureResource}
    (entries : List BackupEntry)
    (hvaults : discoverBackupVaults lower backupMap run.vaults = (map, none))
    (hagain : discoverBackupVaults lower map run.vaultsAgain = (map, none))
    (h : (run.listCompute lower backupMap).2 = .ok found) :
    ∃ accounts disks, pageValues run.accounts = some accounts ∧
      pageValues run.disks = some disks ∧
      ((∀ r ∈ found, BackedUp lower entries r) ↔
        (∀ a ∈ accounts, pageValues a.containers ≠ some [] →
          HoldsAll lower map entries "Microsoft.Storage/storageAccounts/blobServices"
            (a.account.id.getD "")) ∧
        ∀ disk ∈ disks,
          HoldsAll lower map entries "Microsoft.Compute/disks"
            ((disk.bind Disk.id).getD "")) := by
  unfold AzureRun.listCompute at h
  cases hlist : (run.listStorages lower backupMap).2 with
  | error failure =>
    rw [show run.listStorages lower backupMap = (_, .error failure) from
      Prod.ext rfl hlist] at h
    cases h
  | ok list =>
    obtain ⟨hmap, defender, rg, storages, dbs, cosmosDB, rfl, hrg, hstorages, hdbs, hcosmosDB⟩ :=
      listStorages_ok hlist
    rw [hvaults] at hmap hstorages
    rw [show run.listStorages lower backupMap = (map, .ok _) from Prod.ext hmap hlist] at h
    simp only [hagain, bind_eq_ok_iff, pure_eq_ok_iff, inContext_eq_ok_iff] at h
    obtain ⟨blocks, hblocks, machines, hmachines, functions, hfunctions, interfaces, hinterfaces,
      rfl⟩ := h
    obtain ⟨accounts, found, haccounts, hfound, rfl⟩ := listStorageAccounts_ok hstorages
    obtain ⟨disks, hdisks, hdisksIff⟩ := disks_backedUp_iff entries hblocks
    refine ⟨accounts, disks, haccounts, hdisks, ?_⟩
    -- only the accounts and the disks have backups to compare
    simp only [List.forall_mem_append, accounts_backedUp_iff entries accounts hfound, hdisksIff,
      eq_true (others_backedUp hrg entries), eq_true (others_backedUp hdbs entries),
      eq_true (others_backedUp hcosmosDB entries), eq_true (others_backedUp hmachines entries),
      eq_true (others_backedUp hfunctions entries),
      eq_true (others_backedUp hinterfaces entries), eq_true (storages_backedUp map _ entries),
      List.not_mem_nil, false_implies, implies_true, true_and, and_true]

end Listing

section Runs
variable {run : AzureRun} {backupMap : BackupMap}

theorem andOthers_ok {list : List AzureResource} {context : String}
    {found : Outcome Err (List (String × String))} {listing : Listing}
    (h : AzureRun.andOthers list (others context found) = .ok listing) :
    ∃ more, listing.resources = list ++ more ∧
      ∀ entries, ∀ r ∈ more, BackedUp lower entries r := by
  cases hothers : others context found with
  | ok more =>
    rw [hothers] at h
    cases h
    exact ⟨more, rfl, others_backedUp hothers⟩
  | error failure =>
    rw [hothers] at h
    cases failure with
    | error e =>
      cases h
      exact ⟨[], by simp, by simp⟩
    | fault => cases h

/-- Load balancers and gateways add to the list, and their errors leave it. -/
theorem list_resources {found : List AzureResource} {listing : Listing}
    (hfound : (run.listCompute lower backupMap).2 = .ok found)
    (h : (run.list lower backupMap).2 = .ok listing) :
    ∃ more, listing.resources = found ++ more ∧
      ∀ entries, ∀ r ∈ more, BackedUp lower entries r := by
  simp only [AzureRun.list, hfound, bind_eq_ok_iff] at h
  obtain ⟨balanced, hbalanced, h⟩ := h
  obtain ⟨more, hmore, hbackedUp⟩ := andOthers_ok hbalanced
  cases herr : balanced.err with
  | some e =>
    rw [herr] at h
    cases h
    exact ⟨more, hmore, hbackedUp⟩
  | none =>
    rw [herr] at h
    obtain ⟨more', hmore', hbackedUp'⟩ := andOthers_ok h
    refine ⟨more ++ more', ?_, fun entries => ?_⟩
    · rw [hmore', hmore, List.append_assoc]
    · rw [List.forall_mem_append]
      exact ⟨hbackedUp entries, hbackedUp' entries⟩

theorem list_of_error {failure : Failure Err} {listing : Listing}
    (hfound : (run.listCompute lower backupMap).2 = .error failure)
    (h : (run.list lower backupMap).2 = .ok listing) : listing.resources = [] := by
  simp only [AzureRun.list, hfound] at h
  cases failure with
  | error e =>
    cases h
    rfl
  | fault => cases h

/-- One run, from any map. -/
theorem attachesBackups_iff_current (backupMap : BackupMap) (run : AzureRun) :
    AttachesBackups lower backupMap run ↔ Current lower backupMap run := by
  apply forall_congr'
  intro entries
  apply imp_congr_right
  intro hhold
  apply imp_congr_right
  intro hagain
  obtain ⟨map, hvaults, hstays, hheld⟩ := map_in_force hhold
  rw [← hagain] at hstays
  constructor
  · rintro h ⟨⟨found, hfound⟩, listing, hlisting⟩
    obtain ⟨accounts, disks, haccounts, hdisks, hiff⟩ :=
      listCompute_backedUp_iff entries hvaults hstays hfound
    obtain ⟨more, hmore, _⟩ := list_resources hfound hlisting
    have hall := h listing hlisting
    rw [hmore, List.forall_mem_append, hiff] at hall
    obtain ⟨⟨hobjects, hblocks⟩, _⟩ := hall
    rw [haccounts, hdisks]
    constructor
    · rintro _ ⟨⟩ a ha hcontainers
      exact (hheld _ _).mp (hobjects a ha hcontainers)
    · rintro _ ⟨⟩ disk hdisk
      exact (hheld _ _).mp (hblocks disk hdisk)
  · intro h listing hlisting
    -- without the disks there is no list at all
    cases hfound : (run.listCompute lower backupMap).2 with
    | error failure =>
      rw [list_of_error hfound hlisting]
      intro r hr
      cases hr
    | ok found =>
      obtain ⟨accounts, disks, haccounts, hdisks, hiff⟩ :=
        listCompute_backedUp_iff entries hvaults hstays hfound
      obtain ⟨more, hmore, hbackedUp⟩ := list_resources hfound hlisting
      obtain ⟨hobjects, hblocks⟩ := h ⟨⟨found, hfound⟩, listing, hlisting⟩
      rw [hmore, List.forall_mem_append, hiff]
      refine ⟨⟨fun a ha hcontainers => ?_, fun disk hdisk => ?_⟩, hbackedUp entries⟩
      · exact (hheld _ _).mpr (hobjects accounts haccounts a ha hcontainers)
      · exact (hheld _ _).mpr (hblocks disks hdisks disk hdisk)

end Runs

/-- In a sequence of runs of a new discoverer, each one attaches the backups that exist exactly
if the map, in which they are looked up, is current in each run: filled in this run, with the
only backup of each resource, or filled in an earlier one and still right. -/
theorem backups_attached_iff_current (lower : String → String) (runs : List AzureRun) :
    Transitions.Allowed (AzureRun.step lower) (AttachesBackups lower) [] runs ↔
      Transitions.Allowed (AzureRun.step lower) (Current lower) [] runs :=
  Transitions.allowed_congr attachesBackups_iff_current runs []

def backedUpDisk : Disk :=
  ⟨some "/disk", none, none, [],
    some ⟨none, some ⟨some "EncryptionAtRestWithPlatformKey", none⟩⟩, .ok none⟩

def diskInstance : BackupInstance :=
  ⟨some "/instance", none, some "Microsoft.Compute/disks", some "/disk", some "",
    .ok (some (some "P7D"))⟩

/-- A run in a subscription with one disk and one vault. -/
def diskRun (instances : List BackupInstance) : AzureRun :=
  let vaults : VaultAnswers :=
    ⟨none, [.ok [⟨some "/s/1/g/g/p/p/v/vault", some "vault", none, [.ok instances]⟩]]⟩
  { authorize := none, resourceGroups := .ok [], defenderClient := none, pricings := .ok [],
    storageClients := none, vaults := vaults, accounts := [.ok []], sqlServers := .ok [],
    cosmosDB := .ok [], vaultsAgain := vaults, blockStoragesClient := none,
    disks := [.ok [some backedUpDisk]], virtualMachines := .ok [], functionsWebApps := .ok [],
    networkInterfaces := .ok [], loadBalancer := .ok [], applicationGateway := .ok [] }

/-- The backup of a disk is still attached in the run after its instance was removed. -/
theorem removed_backup_stays :
    ¬ Transitions.Allowed (AzureRun.step asciiLower) (AttachesBackups asciiLower) []
      [diskRun [diskInstance], diskRun []] := by
  intro h
  have hsecond := (h.2 _ rfl).1
  have hnone : (diskRun []).vaults.Hold asciiLower [] :=
    ⟨rfl, _, _, rfl, .cons ⟨⟨_, rfl, by decide⟩, by decide, _, rfl, .nil⟩ .nil, rfl⟩
  have hdisk := hsecond [] hnone rfl _ rfl _ List.mem_cons_self
  unfold BackedUp at hdisk
  exact absurd hdisk (by decide)

end Backups
end Clouditor
