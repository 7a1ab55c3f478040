import Clouditor.AzureBackups

/-! The loop of the Azure discoverer over the storage accounts of a subscription, and which
storages the service of an account is given. -/
namespace Clouditor
set_option autoImplicit false
open Paged

/-- A storage account with the pages of its containers and of its file shares. -/
structure AccountAnswers where
  account : StorageAccount
  containers : List (Except Err (List (Option ListContainerItem)))
  shares : List (Except Err (List (Option FileShareItem)))
  deriving DecidableEq

section Accounts
variable (lower : String → String) (defender : DefenderMap) (backupMap : BackupMap)

def discoverObjectStorages (answers : AccountAnswers) : Outcome Err (List AzureResource) := do
  let _ ← resourceGroupName (answers.account.id.getD "")
  let list ← foldPages errGettingNextPage (collect (fun container =>
    inContext (Err.wrap "could not handle object storage")
      (handleObjectStorage lower defender backupMap (some answers.account) container)))
    [] answers.containers
  return list.map .objectStorage

def discoverFileStorages (answers : AccountAnswers) : Outcome Err (List AzureResource) := do
  let _ ← resourceGroupName (answers.account.id.getD "")
  let list ← foldPages errGettingNextPage (collect (fun share =>
    inContext (Err.wrap "could not handle file storage")
      (handleFileStorage lower defender (some answers.account) share)))
    [] answers.shares
  return list.map .fileStorage

/-- The callback for one account. The service is made from all storages and services so far. -/
def discoverAccount (storageResourcesList : List AzureResource) (answers : AccountAnswers) :
    Outcome Err (List AzureResource) := do
  let objectStorages ← inContext (Err.wrap "could not handle object storages")
    (discoverObjectStorages lower defender backupMap answers)
  let fileStorages ← inContext (Err.wrap "could not handle file storages")
    (discoverFileStorages lower defender answers)
  let list := storageResourcesList ++ objectStorages ++ fileStorages
  let service ← inContext (Err.wrap "could not create storage service")
    (handleStorageAccount lower (some answers.account) list)
  return list ++ [.storageService service]

/-- The storages of the instances of a kind, as `backupMap` holds them. -/
def BackupMap.storages (map : BackupMap) (dataSourceType : String) : List AzureResource :=
  ((map.filter (fun e => e.dataSourceType = dataSourceType)).filterMap BackupEntry.storage).map
    .backupStorage

/-- What is listed once the vaults are discovered. -/
def listStorageAccounts (accounts : List (Except Err (List AccountAnswers))) :
    Outcome Err (List AzureResource) := do
  let list ← foldPages (Err.wrap "error getting next page")
    (discoverAccount lower defender backupMap) [] accounts
  return list ++ backupMap.storages "Microsoft.Storage/storageAccounts/blobServices"

/-- An error in the discovery of the vaults is logged only. -/
def discoverStorageAccounts (clients : Option Err) (vaults : VaultAnswers)
    (accounts : List (Except Err (List AccountAnswers))) :
    BackupMap × Outcome Err (List AzureResource) :=
  match clients with
  | some e => (backupMap, fail e)
  | none =>
    match discoverBackupVaults lower backupMap vaults with
    | (map, some .fault) => (map, .error .fault)
    | (map, _) => (map, listStorageAccounts lower defender map accounts)

end Accounts

section StorageIds
variable (lower : String → String)

/-- The ids of the containers and file shares of an account. -/
def AccountAnswers.ownIds (answers : AccountAnswers) : List String :=
  ((pageValues answers.containers).getD []).map
      (fun container => resourceID lower (container.bind ListContainerItem.id)) ++
    ((pageValues answers.shares).getD []).map
      (fun share => resourceID lower (share.bind FileShareItem.id))

/-- The ids that an account adds to the list, with that of its service at the end. -/
def AccountAnswers.listedIds (answers : AccountAnswers) : List String :=
  answers.ownIds lower ++ [resourceID lower answers.account.id]

/-- The name as it is written in the id of the account. -/
def AccountAnswers.accountName (answers : AccountAnswers) : String :=
  (Clouditor.accountName (answers.account.id.getD "")).toOption.getD ""

def AzureResource.service : AzureResource → Option ObjectStorageService
  | .storageService s => some s
  | _ => none

/-- The service of an account lists exactly the storages of the account, each once. -/
structure OwnStorages (answers : AccountAnswers) (service : ObjectStorageService) : Prop where
  id : service.id = resourceID lower answers.account.id
  storages : ∀ id, id ∈ service.storageIds ↔ id ∈ answers.ownIds lower
  once : service.storageIds.Nodup

/-- The ids of an account can be told from those listed before it by its name. -/
structure ToldApart (earlier : List AccountAnswers) (answers : AccountAnswers) : Prop where
  distinct : (answers.ownIds lower).Nodup
  own : ∀ id ∈ answers.ownIds lower, contains id answers.accountName
  other : ∀ id ∈ earlier.flatMap (AccountAnswers.listedIds lower),
    ¬ contains id answers.accountName

theorem filter_exact_iff (p : String → Bool) (earlier own : List String) :
    (∀ id, id ∈ (earlier ++ own).filter p ↔ id ∈ own) ∧ ((earlier ++ own).filter p).Nodup ↔
      own.Nodup ∧ (∀ id ∈ own, p id) ∧ ∀ id ∈ earlier, ¬ p id := by
  rw [List.filter_append]
  constructor
  · rintro ⟨hmem, honce⟩
    have hown (id : String) (hid : id ∈ own) : p id := by
      have hfilter := (hmem id).mpr hid
      rw [← List.filter_append] at hfilter
      exact (List.mem_filter.mp hfilter).2
    rw [List.filter_eq_self.mpr hown] at hmem honce
    refine ⟨honce.of_append_right, hown, fun id hid hp => ?_⟩
    -- such an id would be listed for the earlier account and for this one
    have hearlier : id ∈ earlier.filter p := List.mem_filter.mpr ⟨hid, hp⟩
    have hagain : id ∈ own := (hmem id).mp (List.mem_append_left _ hearlier)
    exact (List.disjoint_of_nodup_append honce) hearlier hagain
  · rintro ⟨hnodup, hown, hother⟩
    rw [List.filter_eq_self.mpr hown, List.filter_eq_nil_iff.mpr hother, List.nil_append]
    exact ⟨fun _ => Iff.rfl, hnodup⟩

/-- The loop of `handleStorageAccount`, which reads the name of the account for each storage. -/
theorem foldlM_storageIds (name : Outcome Err String) (list : List AzureResource)
    {ids ids' : List String}
    (h : list.foldlM (fun ids storage => do
      let name ← name
      return if contains storage.getId name then ids ++ [storage.getId] else ids) ids =
        .ok ids') :
    ids' = ids ++ (list.map AzureResource.getId).filter
      (contains · (name.toOption.getD "")) := by
  induction list generalizing ids with
  | nil =>
    cases h
    simp
  | cons storage list ih =>
    simp only [List.foldlM_cons, bind_eq_ok_iff, pure_eq_ok_iff] at h
    obtain ⟨_, ⟨text, hname, rfl⟩, h⟩ := h
    rw [ih h, hname]
    simp only [Except.toOption, Option.getD_some, List.map_cons, List.filter_cons]
    split <;> simp

theorem handleStorageAccount_ids {lower : String → String} {account : StorageAccount}
    {list : List AzureResource} {service : ObjectStorageService}
    (h : handleStorageAccount lower (some account) list = .ok service) :
    service.id = resourceID lower account.id ∧
      service.storageIds = (list.map AzureResource.getId).filter
        (contains · ((accountName (account.id.getD "")).toOption.getD "")) := by
  simp only [handleStorageAccount, bind_eq_ok_iff, pure_eq_ok_iff, orFail_eq_ok_iff,
    Option.some.injEq] at h
  obtain ⟨_, rfl, ids, hids, _, _, _, _, _, _, rfl⟩ := h
  exact ⟨rfl, foldlM_storageIds _ _ hids⟩

section Loop
variable {lower : String → String} {defender : DefenderMap} {backupMap : BackupMap}
  {answers : AccountAnswers}

theorem discoverObjectStorages_ok {list : List AzureResource}
    (h : discoverObjectStorages lower defender backupMap answers = .ok list) :
    ∃ containers storages, pageValues answers.containers = some containers ∧
      list = storages.map .objectStorage ∧
      List.Forall₂ (fun container storage =>
        handleObjectStorage lower defender backupMap (some answers.account) container =
          .ok storage) containers storages := by
  simp only [discoverObjectStorages, bind_eq_ok_iff, pure_eq_ok_iff,
    foldPages_collect_eq_ok_iff, inContext_eq_ok_iff] at h
  obtain ⟨_, _, storages, ⟨containers, hpages, hstorages⟩, rfl⟩ := h
  exact ⟨containers, storages, hpages, rfl, hstorages⟩

theorem discoverFileStorages_ok {list : List AzureResource}
    (h : discoverFileStorages lower defender answers = .ok list) :
    ∃ shares storages, pageValues answers.shares = some shares ∧
      list = storages.map .fileStorage ∧
      List.Forall₂ (fun share storage =>
        handleFileStorage lower defender (some answers.account) share = .ok storage)
        shares storages := by
  simp only [discoverFileStorages, bind_eq_ok_iff, pure_eq_ok_iff,
    foldPages_collect_eq_ok_iff, inContext_eq_ok_iff] at h
  obtain ⟨_, _, storages, ⟨shares, hpages, hstorages⟩, rfl⟩ := h
  exact ⟨shares, storages, hpages, rfl, hstorages⟩

/-- What the callback appends for an account. -/
theorem discoverAccount_ok {acc acc' : List AzureResource}
    (h : discoverAccount lower defender backupMap acc answers = .ok acc') :
    ∃ objectStorages fileStorages service,
      discoverObjectStorages lower defender backupMap answers = .ok objectStorages ∧
      discoverFileStorages lower defender answers = .ok fileStorages ∧
      handleStorageAccount lower (some answers.account) (acc ++ objectStorages ++ fileStorages) =
        .ok service ∧
      acc' = acc ++ objectStorages ++ fileStorages ++ [.storageService service] := by
  simp only [discoverAccount, bind_eq_ok_iff, pure_eq_ok_iff, inContext_eq_ok_iff] at h
  obtain ⟨objectStorages, hobjects, fileStorages, hfiles, service, hservice, rfl⟩ := h
  exact ⟨_, _, _, hobjects, hfiles, hservice, rfl⟩

/-- The ids and the service that the callback appends. -/
theorem discoverAccount_ids {acc acc' : List AzureResource}
    (h : discoverAccount lower defender backupMap acc answers = .ok acc') :
    ∃ service : ObjectStorageService,
      acc'.filterMap AzureResource.service = acc.filterMap AzureResource.service ++ [service] ∧
      acc'.map AzureResource.getId =
        acc.map AzureResource.getId ++ answers.listedIds lower ∧
      service.id = resourceID lower answers.account.id ∧
      service.storageIds = (acc.map AzureResource.getId ++ answers.ownIds lower).filter
        (contains · answers.accountName) := by
  obtain ⟨_, _, service, hobjects, hfiles, hservice, rfl⟩ := discoverAccount_ok h
  obtain ⟨containers, objects, hcontainers, rfl, hhandled⟩ := discoverObjectStorages_ok hobjects
  obtain ⟨shares, files, hshares, rfl, hhandled'⟩ := discoverFileStorages_ok hfiles
  obtain ⟨hid, hids⟩ := handleStorageAccount_ids hservice
  have hown : answers.ownIds lower =
      objects.map ObjectStorage.id ++ files.map FileStorage.id := by
    rw [AccountAnswers.ownIds, hcontainers, hshares,
      map_eq_map_of_forall₂ hhandled (fun _ _ h => (handleObjectStorage_ok h).id),
      map_eq_map_of_forall₂ hhandled' (fun _ _ h => (handleFileStorage_ok h).id)]
    rfl
  have hgetId : (acc ++ objects.map AzureResource.objectStorage ++
      files.map AzureResource.fileStorage).map AzureResource.getId =
        acc.map AzureResource.getId ++ answers.ownIds lower := by
    rw [hown]
    simp [Function.comp_def, AzureResource.getId]
  refine ⟨service, ?_, ?_, hid, ?_⟩
  · simp [List.filterMap_append, List.filterMap_map, Function.comp_def, AzureResource.service]
  · rw [List.map_append, hgetId, AccountAnswers.listedIds, ← hid]
    simp [AzureResource.getId]
  · rw [hids, hgetId]
    rfl

theorem ownStorages_iff {service : ObjectStorageService} {earlier : List AccountAnswers}
    (hid : service.id = resourceID lower answers.account.id)
    (hids : service.storageIds =
      (earlier.flatMap (AccountAnswers.listedIds lower) ++ answers.ownIds lower).filter
        (contains · answers.accountName)) :
    OwnStorages lower answers service ↔ ToldApart lower earlier answers := by
  have hexact := filter_exact_iff (contains · answers.accountName)
    (earlier.flatMap (AccountAnswers.listedIds lower)) (answers.ownIds lower)
  rw [← hids] at hexact
  constructor
  · intro h
    obtain ⟨hdistinct, hown, hother⟩ := hexact.mp ⟨h.storages, h.once⟩
    exact ⟨hdistinct, hown, hother⟩
  · intro h
    obtain ⟨hstorages, honce⟩ := hexact.mpr ⟨h.distinct, h.own, h.other⟩
    exact ⟨hid, hstorages, honce⟩

theorem forall_split_cons {α : Type} (P : List α → α → Prop) (x : α) (xs : List α) :
    (∀ front y back, x :: xs = front ++ y :: back → P front y) ↔
      P [] x ∧ ∀ front y back, xs = front ++ y :: back → P (x :: front) y := by
  constructor
  · intro h
    refine ⟨h [] x xs rfl, fun front y back hxs => h (x :: front) y back ?_⟩
    rw [hxs, List.cons_append]
  · rintro ⟨hx, hxs⟩ (_ | ⟨_, front⟩) y back heq
    · cases heq
      exact hx
    · cases heq
      exact hxs front y back rfl

/-- The services of a run, by induction over the accounts: what is listed so far are the ids of
the accounts before. -/
theorem services_own_iff (accounts earlier : List AccountAnswers)
    {acc acc' : List AzureResource}
    (hacc : acc.map AzureResource.getId = earlier.flatMap (AccountAnswers.listedIds lower))
    (h : accounts.foldlM (discoverAccount lower defender backupMap) acc = .ok acc') :
    ∃ services,
      acc'.filterMap AzureResource.service = acc.filterMap AzureResource.service ++ services ∧
      (List.Forall₂ (OwnStorages lower) accounts services ↔
        ∀ front answers back, accounts = front ++ answers :: back →
          ToldApart lower (earlier ++ front) answers) := by
  induction accounts generalizing earlier acc with
  | nil =>
    cases h
    exact ⟨[], by simp, by simp⟩
  | cons answers accounts ih =>
    simp only [List.foldlM_cons, bind_eq_ok_iff] at h
    obtain ⟨acc₁, haccount, hrest⟩ := h
    -- the step: one more service, and the ids of one more account in the list
    obtain ⟨service, hservices, hlisted, hid, hids⟩ := discoverAccount_ids haccount
    rw [hacc] at hlisted hids
    have hacc₁ : acc₁.map AzureResource.getId =
        (earlier ++ [answers]).flatMap (AccountAnswers.listedIds lower) := by
      rw [hlisted, List.flatMap_append, List.flatMap_singleton]
    obtain ⟨services, hservices', hiff⟩ := ih (earlier ++ [answers]) hacc₁ hrest
    refine ⟨service :: services, ?_, ?_⟩
    · rw [hservices', hservices, List.append_assoc, List.singleton_append]
    · rw [List.forall₂_cons, ownStorages_iff hid hids, hiff, forall_split_cons]
      simp only [List.append_nil, List.append_assoc, List.singleton_append]

end Loop

theorem discoverStorageAccounts_ok {lower : String → String} {defender : DefenderMap}
    {backupMap : BackupMap} {clients : Option Err} {vaults : VaultAnswers}
    {accounts : List (Except Err (List AccountAnswers))} {list : List AzureResource}
    (h : (discoverStorageAccounts lower defender backupMap clients vaults accounts).2 =
      .ok list) :
    (discoverStorageAccounts lower defender backupMap clients vaults accounts).1 =
        (discoverBackupVaults lower backupMap vaults).1 ∧
      listStorageAccounts lower defender (discoverBackupVaults lower backupMap vaults).1
        accounts = .ok list := by
  unfold discoverStorageAccounts at h ⊢
  cases clients with
  | some e => cases h
  | none =>
    dsimp only at h ⊢
    split at h
    case h_1 => cases h
    case h_2 map failure hfailure hvaults =>
      rw [hvaults]
      exact ⟨rfl, h⟩

theorem listStorageAccounts_ok {lower : String → String} {defender : DefenderMap}
    {backupMap : BackupMap} {accounts : List (Except Err (List AccountAnswers))}
    {list : List AzureResource}
    (h : listStorageAccounts lower defender backupMap accounts = .ok list) :
    ∃ values found, pageValues accounts = some values ∧
      values.foldlM (discoverAccount lower defender backupMap) [] = .ok found ∧
      list = found ++ backupMap.storages "Microsoft.Storage/storageAccounts/blobServices" := by
  simp only [listStorageAccounts, bind_eq_ok_iff, pure_eq_ok_iff, foldPages_eq_ok_iff] at h
  obtain ⟨found, ⟨values, hvalues, hfound⟩, rfl⟩ := h
  exact ⟨values, found, hvalues, hfound, rfl⟩

theorem storages_service (map : BackupMap) (dataSourceType : String) :
    (map.storages dataSourceType).filterMap AzureResource.service = [] := by
  simp [BackupMap.storages, Function.comp_def, AzureResource.service]

/-- Where the discovery returns its list, every service has exactly the storages of its account,
each once, if and only if the ids of the storages of an account are distinct and have its name in
them, and no storage or service of an account before it has. -/
theorem storage_ids_iff (lower : String → String) (defender : DefenderMap)
    (backupMap : BackupMap) (clients : Option Err) (vaults : VaultAnswers)
    (accounts : List (Except Err (List AccountAnswers))) (list : List AzureResource)
    (h : (discoverStorageAccounts lower defender backupMap clients vaults accounts).2 =
      .ok list) :
    ∃ values, pageValues accounts = some values ∧
      (List.Forall₂ (OwnStorages lower) values (list.filterMap AzureResource.service) ↔
        ∀ front answers back, values = front ++ answers :: back →
          ToldApart lower front answers) := by
  obtain ⟨values, found, hvalues, hfound, rfl⟩ :=
    listStorageAccounts_ok (discoverStorageAccounts_ok h).2
  obtain ⟨services, hservices, hiff⟩ := services_own_iff values [] rfl hfound
  refine ⟨values, hvalues, ?_⟩
  rw [List.filterMap_append, hservices, storages_service, List.append_nil, List.filterMap_nil,
    List.nil_append, hiff]
  simp only [List.nil_append]

/-- An account with one container. The parts of its id are short, but as many as in Azure. -/
def accountNamed (name : String) : AccountAnswers :=
  let id := "/s/1/g/g/p/p/a/" ++ name
  { account := ⟨some id, some name, none, [],
      some ⟨none, some ⟨some "Microsoft.Storage", none⟩, none, none, some none⟩⟩
    containers := [.ok [some ⟨some (id ++ "/c"), some "c",
      some ⟨none, none⟩⟩]]
    shares := [.ok []] }

/-- The discovery in a subscription without backups and Defender. -/
def listAccounts (accounts : List AccountAnswers) : Outcome Err (List AzureResource) :=
  (discoverStorageAccounts asciiLower (fun _ => none) [] none ⟨none, [.ok []]⟩ [.ok accounts]).2

theorem one_account_owns :
    ∃ list, listAccounts [accountNamed "store"] = .ok list ∧
      List.Forall₂ (OwnStorages asciiLower) [accountNamed "store"]
        (list.filterMap AzureResource.service) := by
  obtain ⟨values, hvalues, hiff⟩ := storage_ids_iff asciiLower (fun _ => none) [] none
    ⟨none, [.ok []]⟩ [.ok [accountNamed "store"]] _ rfl
  cases hvalues
  refine ⟨_, rfl, hiff.mpr fun front answers back hsplit => ?_⟩
  obtain ⟨rfl, hrest⟩ := List.append_eq_singleton_iff.mp hsplit.symm |>.resolve_right (by simp)
  cases hrest
  exact ⟨by decide, by decide +kernel, by decide⟩

/-- The service of `store` gets the container and the service of `store2`, which is listed before
it. -/
theorem service_lists_other_account :
    ∃ list, listAccounts [accountNamed "store2", accountNamed "store"] = .ok list ∧
      ¬ List.Forall₂ (OwnStorages asciiLower) [accountNamed "store2", accountNamed "store"]
        (list.filterMap AzureResource.service) := by
  refine ⟨_, rfl, fun h => ?_⟩
  obtain ⟨service, hservice, hother⟩ : ∃ service,
      List.Forall₂ (OwnStorages asciiLower) [accountNamed "store"] [service] ∧
        asciiLower ((accountNamed "store2").account.id.getD "") ∈ service.storageIds := by
    cases h with
    | cons _ h => exact ⟨_, h, by decide +kernel⟩
  cases hservice with
  | cons hservice _ =>
    have hown := (hservice.storages _).mp hother
    exact absurd hown (by decide +kernel)

end StorageIds
end Clouditor
