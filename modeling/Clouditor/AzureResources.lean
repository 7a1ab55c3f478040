import Clouditor.DiscoveredResources
import Clouditor.PagedCalls
import Clouditor.SeparatedTexts

/-! What the Azure discoverer makes of storage accounts, blob containers, file shares and disks:
the properties it derives from Azure ids and from the Defender pricings, and the faults of the
pointers that it reads unchecked. `lower` is `strings.ToLower`. -/
namespace Clouditor
set_option autoImplicit false
open Paged

section Texts

def splitChars (sep : Char) : List Char → List (List Char)
  | [] => [[]]
  | c :: cs =>
    if c = sep then [] :: splitChars sep cs
    else
      match splitChars sep cs with
      | [] => [[c]]
      | part :: parts => (c :: part) :: parts

/-- `strings.Split` at a single character. -/
def split (s : String) (sep : Char) : List String :=
  (splitChars sep s.toList).map String.ofList

theorem splitChars_eq_splitOn (sep : Char) (text : List Char) :
    splitChars sep text = text.splitOn sep := by
  induction text with
  | nil => rfl
  | cons c cs ih =>
    rw [splitChars, List.splitOn_cons_eq_if_modifyHead, ih]
    by_cases h : c = sep
    · simp [h]
    · cases hcs : cs.splitOn sep with
      | nil => exact absurd hcs (List.splitOn_ne_nil sep cs)
      | cons part parts => simp [h]

section
variable {sep : Char} {parts : List String}

theorem split_eq_map_iff (s : String) :
    split s sep = parts ↔ s.toList.splitOn sep = parts.map String.toList := by
  rw [split, splitChars_eq_splitOn]
  constructor
  · intro h
    simp [← h, Function.comp_def]
  · intro h
    simp [h, Function.comp_def]

theorem split_eq_iff (hne : parts ≠ []) (hsep : ∀ part ∈ parts, sep ∉ part.toList) (s : String) :
    split s sep = parts ↔ s = (String.singleton sep).intercalate parts := by
  rw [split_eq_map_iff, Separated.splitOn_eq_iff (by simpa using hne) (by simpa using hsep),
    ← String.toList_inj, String.toList_intercalate, String.toList_singleton]

theorem split_extends_iff (hne : parts ≠ []) (hsep : ∀ part ∈ parts, sep ∉ part.toList)
    (s : String) :
    (∃ more, more ≠ [] ∧ split s sep = parts ++ more) ↔
      ∃ rest, s = (String.singleton sep).intercalate parts ++ String.singleton sep ++ rest := by
  have htexts := Separated.splitOn_extends_iff (by simpa using hne)
    (by simpa using hsep : ∀ l ∈ parts.map String.toList, sep ∉ l) s.toList
  constructor
  · intro ⟨more, hmore, h⟩
    rw [split_eq_map_iff, List.map_append] at h
    obtain ⟨rest, hrest⟩ := htexts.mp ⟨_, by simpa using hmore, h⟩
    refine ⟨String.ofList rest, String.toList_inj.mp ?_⟩
    simpa [String.toList_intercalate] using hrest
  · intro ⟨rest, h⟩
    have hlist : s.toList = [sep].intercalate (parts.map String.toList) ++ sep :: rest.toList := by
      simp [h, String.toList_intercalate]
    obtain ⟨more, hmore, hsplit⟩ := htexts.mpr ⟨_, hlist⟩
    refine ⟨more.map String.ofList, by simpa using hmore, ?_⟩
    rw [split_eq_map_iff, hsplit]
    simp [Function.comp_def]

end

/-- `strings.ToLower` for texts in ASCII. -/
def asciiLower (s : String) : String := String.ofList (s.toList.map Char.toLower)

/-- `strings.Contains`. -/
def contains (s part : String) : Bool := decide (part.toList <:+: s.toList)

variable (lower : String → String)

def resourceID : Option String → String
  | none => ""
  | some id => lower id

def resourceID2 (id : Option String) : Option String := id.map lower

/-- A part of an Azure id, which is not checked to have that many. -/
def idPart (id : String) (n : ℕ) : Outcome Err String := deref (split id '/')[n]?

def getName (id : String) : Outcome Err String :=
  if id = "" then .ok "" else idPart id 8

def accountName (id : String) : Outcome Err String :=
  if id = "" then .ok "" else idPart id 8

def diskEncryptionSetName (id : String) : Outcome Err String :=
  if id = "" then .ok "" else idPart id 8

def resourceGroupName (id : String) : Outcome Err String := idPart id 4

def resourceGroupID : Option String → Option String
  | none => none
  | some id =>
    if (split id '/').length < 5 then none
    else some (lower ("/".intercalate ((split id '/').take 5)))

/-- The TLS version in tenths. -/
def tlsVersion : Option String → ℕ
  | none => 0
  | some version =>
    if version ∈ ["1.0", "1_0", "TLS1_0"] then 10
    else if version ∈ ["1.1", "1_1", "TLS1_1"] then 11
    else if version ∈ ["1.2", "1_2", "TLS1_2"] then 12
    else if version ∈ ["1.3", "1_3"] then 13
    else 0

def generalizeURL (url : String) : Outcome Err String :=
  if url = "" then .ok ""
  -- `urlSplit[1]` is assigned without a check
  else if (split url '.').length < 2 then .error .fault
  else .ok (".".intercalate ((split url '.').set 1 "[file,blob]"))

def labels (tags : List (String × Option String)) : List (String × String) :=
  tags.map (fun tag => (tag.1, tag.2.getD ""))

end Texts

structure AccountEncryption where
  keySource : Option String
  keyVaultProperties : Option (Option String)
  deriving DecidableEq

structure AccountProperties where
  creationTime : Option Time
  encryption : Option AccountEncryption
  enableHTTPSTrafficOnly : Option Bool
  minimumTLSVersion : Option String
  primaryEndpoints : Option (Option String)
  deriving DecidableEq

/-- `armstorage.Account`. `keyVaultProperties` points to the URI of the vault, and
`primaryEndpoints` to the one for blobs. -/
structure StorageAccount where
  id : Option String
  name : Option String
  location : Option String
  tags : List (String × Option String)
  properties : Option AccountProperties
  deriving DecidableEq

structure FileShareItem where
  id : Option String
  name : Option String
  deriving DecidableEq

structure ContainerProperties where
  hasImmutabilityPolicy : Option Bool
  publicAccess : Option String
  deriving DecidableEq

structure ListContainerItem where
  id : Option String
  name : Option String
  properties : Option ContainerProperties
  deriving DecidableEq

structure DiskEncryption where
  type : Option String
  diskEncryptionSetID : Option String
  deriving DecidableEq

structure DiskProperties where
  timeCreated : Option Time
  encryption : Option DiskEncryption
  deriving DecidableEq

/-- `armcompute.Disk`, with the answer to the request for its disk encryption set: the key
pointer inside is two structures deep. -/
structure Disk where
  id : Option String
  name : Option String
  location : Option String
  tags : List (String × Option String)
  properties : Option DiskProperties
  encryptionSet : Except Err (Option (Option String))
  deriving DecidableEq

/-- A pricing of Defender for X. Its properties are always there, its tier may be missing. -/
structure Pricing where
  name : Option String
  pricingTier : Option String
  deriving DecidableEq

structure DefenderProperties where
  monitoringLogDataEnabled : Bool
  securityAlertsEnabled : Bool
  deriving DecidableEq

structure ResourceLogging where
  monitoringEnabled : Bool
  securityAlertsEnabled : Bool
  deriving DecidableEq

/-- TLS with its version in tenths, always enabled. -/
structure AzureTransport where
  enforced : Bool
  protocolVersion : ℕ
  deriving DecidableEq

structure Backup where
  enabled : Bool
  retentionPeriod : Option ℤ
  storageId : Option String
  transportEncryption : Option AzureTransport
  deriving DecidableEq

inductive BackupKind where
  | objectStorage
  | blockStorage
  deriving DecidableEq

/-- The storage that a backup instance is itself. -/
structure BackupStorage where
  kind : BackupKind
  id : String
  name : String
  geoLocation : Option String
  parentId : Option String
  deriving DecidableEq

/-- One instance as `backupMap` holds it. -/
structure BackupEntry where
  dataSourceType : String
  resourceId : String
  retentionPeriod : ℤ
  storageId : Option String
  storage : Option BackupStorage
  deriving DecidableEq

def BackupEntry.backup (e : BackupEntry) : Backup :=
  ⟨true, some e.retentionPeriod, e.storageId, some ⟨true, 12⟩⟩

/-- `backupMap` by the assignments made to it, in order. -/
abbrev BackupMap := List BackupEntry

structure FileStorage where
  id : String
  name : String
  creationTime : Option Time
  geoLocation : Option String
  labels : List (String × String)
  parentId : Option String
  resourceLogging : ResourceLogging
  atRestEncryption : Option AtRestEncryption
  deriving DecidableEq

structure ObjectStorage where
  id : String
  name : String
  creationTime : Option Time
  geoLocation : Option String
  labels : List (String × String)
  parentId : Option String
  atRestEncryption : Option AtRestEncryption
  immutability : Bool
  resourceLogging : ResourceLogging
  backups : List Backup
  publicAccess : Bool
  deriving DecidableEq

structure ObjectStorageService where
  id : String
  name : String
  storageIds : List String
  creationTime : Option Time
  geoLocation : Option String
  labels : List (String × String)
  parentId : Option String
  transportEncryption : AzureTransport
  url : String
  deriving DecidableEq

structure BlockStorage where
  id : String
  name : String
  creationTime : Option Time
  geoLocation : Option String
  labels : List (String × String)
  parentId : Option String
  atRestEncryption : Option AtRestEncryption
  backups : List Backup
  deriving DecidableEq

inductive AzureResource where
  | fileStorage (s : FileStorage)
  | objectStorage (s : ObjectStorage)
  | storageService (s : ObjectStorageService)
  | blockStorage (s : BlockStorage)
  | backupStorage (s : BackupStorage)
  | other (id name : String)
  deriving DecidableEq

def AzureResource.getId : AzureResource → String
  | .fileStorage s => s.id
  | .objectStorage s => s.id
  | .storageService s => s.id
  | .blockStorage s => s.id
  | .backupStorage s => s.id
  | .other id _ => id

section Defender

abbrev DefenderMap := String → Option DefenderProperties

def Pricing.key (p : Pricing) : String := p.name.getD ""

def Pricing.free (p : Pricing) : Bool := p.pricingTier.getD "" = "Free"

def Pricing.properties (p : Pricing) : DefenderProperties := ⟨!p.free, !p.free⟩

def defenderMap (pricings : List Pricing) : DefenderMap :=
  pricings.foldl (fun map elem => Function.update map elem.key (some elem.properties))
    (fun _ => none)

def discoverDefender (client : Option Err) (pricings : Except Err (List Pricing)) :
    Except Err DefenderMap :=
  match client, pricings with
  | some e, _ => .error e
  | none, .error _ => .error ⟨none, "could not discover pricings"⟩
  | none, .ok pricings => .ok (defenderMap pricings)

/-- The logging of a storage: whether it is there depends on the pricing of storage accounts, and
what it says on that of virtual machines. -/
def resourceLogging (defender : DefenderMap) : Outcome Err ResourceLogging :=
  match defender "StorageAccounts" with
  | none => .ok ⟨false, false⟩
  | some _ => do
    -- the test was for another entry, so this one may be missing
    let properties ← deref (defender "VirtualMachines")
    return ⟨properties.monitoringLogDataEnabled, properties.securityAlertsEnabled⟩

end Defender

section Handlers
variable (lower : String → String)

def errorf (text : String) : Err := ⟨none, text⟩

def errEmptyStorageAccount : Err := errorf "storage account is empty"

def storageAtRestEncryption (account : Option StorageAccount) :
    Outcome Err (Option AtRestEncryption) := do
  let account ← orFail errEmptyStorageAccount account
  let properties ← orFail (errorf "keySource is empty") account.properties
  let encryption ← deref properties.encryption
  let keySource ← orFail (errorf "keySource is empty") encryption.keySource
  if keySource = "Microsoft.Storage" then
    return some (.managedKey "AES256")
  else if keySource = "Microsoft.Keyvault" then
    -- only the URI inside is read with `util.Deref`
    let keyVaultURI ← deref encryption.keyVaultProperties
    return some (.customerKey (keyVaultURI.getD ""))
  else
    return none

def backupsEmptyCheck (backups : List Backup) : List Backup :=
  if backups = [] then [⟨false, none, none, none⟩] else backups

/-- The backup that `backupMap` holds for a resource: the one assigned last under exactly this
id. -/
def BackupMap.backups (map : BackupMap) (dataSourceType resourceId : String) : List Backup :=
  (map.filter (fun e => e.dataSourceType = dataSourceType ∧ e.resourceId = resourceId)).getLast?
    |>.toList.map BackupEntry.backup

def handleFileStorage (defender : DefenderMap) (account : Option StorageAccount)
    (fileshare : Option FileShareItem) : Outcome Err FileStorage := do
  let account ← orFail errEmptyStorageAccount account
  let fileshare ← orFail (errorf "fileshare is nil") fileshare
  let id ← orFail (errorf "fileshare is nil") fileshare.id
  let enc ← inContext
    (Err.wrap "could not get file storage properties for the atRestEncryption")
    (storageAtRestEncryption (some account))
  let logging ← resourceLogging defender
  let properties ← deref account.properties
  return {
    id := resourceID lower (some id)
    name := fileshare.name.getD ""
    creationTime := properties.creationTime
    geoLocation := account.location
    labels := labels account.tags
    parentId := resourceID2 lower account.id
    resourceLogging := logging
    atRestEncryption := enc }

def handleObjectStorage (defender : DefenderMap) (backupMap : BackupMap)
    (account : Option StorageAccount) (container : Option ListContainerItem) :
    Outcome Err ObjectStorage := do
  let account ← orFail errEmptyStorageAccount account
  let container ← orFail (errorf "container is nil") container
  let id ← orFail (errorf "container is nil") container.id
  let enc ← inContext
    (Err.wrap "could not get object storage properties for the atRestEncryption")
    (storageAtRestEncryption (some account))
  let logging ← resourceLogging defender
  let properties ← deref account.properties
  let containerProperties ← deref container.properties
  return {
    id := resourceID lower (some id)
    name := container.name.getD ""
    creationTime := properties.creationTime
    geoLocation := account.location
    labels := labels account.tags
    parentId := resourceID2 lower account.id
    atRestEncryption := enc
    immutability := containerProperties.hasImmutabilityPolicy.getD false
    resourceLogging := logging
    -- the id is looked up as Azure writes it here
    backups := backupsEmptyCheck (backupMap.backups
      "Microsoft.Storage/storageAccounts/blobServices" (account.id.getD ""))
    publicAccess := containerProperties.publicAccess.getD "" ≠ "None" }

/-- The service takes every storage whose id has the name of the account somewhere in it. -/
def handleStorageAccount (account : Option StorageAccount) (storagesList : List AzureResource) :
    Outcome Err ObjectStorageService := do
  let account ← orFail errEmptyStorageAccount account
  -- the name is read inside of the loop, so an id that is too short faults only with a storage
  let storageIds ← storagesList.foldlM (fun ids storage => do
    let name ← accountName (account.id.getD "")
    return if contains storage.getId name then ids ++ [storage.getId] else ids) []
  let properties ← deref account.properties
  let blob ← deref properties.primaryEndpoints
  let url ← generalizeURL (blob.getD "")
  return {
    id := resourceID lower account.id
    name := account.name.getD ""
    storageIds := storageIds
    creationTime := properties.creationTime
    geoLocation := account.location
    labels := labels account.tags
    parentId := resourceGroupID lower account.id
    transportEncryption :=
      ⟨properties.enableHTTPSTrafficOnly.getD false, tlsVersion properties.minimumTLSVersion⟩
    url := url }

def keyURL (disk : Disk) (diskEncryptionSetID : String) : Outcome Err String := do
  if diskEncryptionSetID = "" then
    fail (errorf "no disk encryption set ID was specified")
  else
    let _ ← resourceGroupName diskEncryptionSetID
    let _ ← diskEncryptionSetName diskEncryptionSetID
    match disk.encryptionSet with
    | .error e => fail (e.wrap "could not get key vault")
    | .ok activeKey =>
      let keyUrl ← deref activeKey
      orFail (errorf "could not get keyURL") keyUrl

def blockStorageAtRestEncryption (disk : Option Disk) :
    Outcome Err (Option AtRestEncryption) := do
  let disk ← orFail (errorf "disk is empty") disk
  let properties ← deref disk.properties
  let encryption ← deref properties.encryption
  let type ← orFail (errorf "error getting atRestEncryption properties of blockStorage")
    encryption.type
  if type = "EncryptionAtRestWithPlatformKey" then
    return some (.managedKey "AES256")
  else if type = "EncryptionAtRestWithCustomerKey" then
    let keyUrl ← inContext (Err.wrap "could not get keyVaultID")
      (keyURL disk (encryption.diskEncryptionSetID.getD ""))
    return some (.customerKey keyUrl)
  else
    return none

def handleBlockStorage (backupMap : BackupMap) (disk : Option Disk) :
    Outcome Err BlockStorage := do
  let disk ← orFail (errorf "disk is nil") disk
  let id ← orFail (errorf "disk is nil") disk.id
  let enc ← inContext
    (Err.wrap "could not get block storage properties for the atRestEncryption")
    (blockStorageAtRestEncryption (some disk))
  let properties ← deref disk.properties
  return {
    id := resourceID lower (some id)
    name := disk.name.getD ""
    creationTime := properties.timeCreated
    geoLocation := disk.location
    labels := labels disk.tags
    parentId := resourceGroupID lower (some id)
    atRestEncryption := enc
    backups := backupsEmptyCheck (backupMap.backups "Microsoft.Compute/disks" id) }

/-- What a file storage has from its share and from the Defender map. -/
structure MadeFromShare (defender : DefenderMap) (share : Option FileShareItem)
    (storage : FileStorage) : Prop where
  id : storage.id = resourceID lower (share.bind FileShareItem.id)
  logging : resourceLogging defender = .ok storage.resourceLogging

/-- What an object storage has from its account and container and from the two maps. -/
structure MadeFromContainer (defender : DefenderMap) (backupMap : BackupMap)
    (account : Option StorageAccount) (container : Option ListContainerItem)
    (storage : ObjectStorage) : Prop where
  id : storage.id = resourceID lower (container.bind ListContainerItem.id)
  parentId : storage.parentId = resourceID2 lower (account.bind StorageAccount.id)
  logging : resourceLogging defender = .ok storage.resourceLogging
  backups : storage.backups = backupsEmptyCheck (backupMap.backups
    "Microsoft.Storage/storageAccounts/blobServices" ((account.bind StorageAccount.id).getD ""))

variable {lower}

theorem handleFileStorage_ok {defender : DefenderMap} {account : Option StorageAccount}
    {share : Option FileShareItem} {storage : FileStorage}
    (h : handleFileStorage lower defender account share = .ok storage) :
    MadeFromShare lower defender share storage := by
  simp only [handleFileStorage, bind_eq_ok_iff, pure_eq_ok_iff, orFail_eq_ok_iff] at h
  obtain ⟨_, _, share, rfl, id, hid, _, _, logging, hlogging, _, _, rfl⟩ := h
  refine ⟨?_, hlogging⟩
  rw [Option.bind_some, hid]

theorem handleObjectStorage_ok {defender : DefenderMap} {backupMap : BackupMap}
    {account : Option StorageAccount} {container : Option ListContainerItem}
    {storage : ObjectStorage}
    (h : handleObjectStorage lower defender backupMap account container = .ok storage) :
    MadeFromContainer lower defender backupMap account container storage := by
  simp only [handleObjectStorage, bind_eq_ok_iff, pure_eq_ok_iff, orFail_eq_ok_iff] at h
  obtain ⟨account, rfl, container, rfl, id, hid, _, _, logging, hlogging, _, _, _, _, rfl⟩ := h
  refine ⟨?_, rfl, hlogging, rfl⟩
  rw [Option.bind_some, hid]

end Handlers

section StorageLogging

/-- The pricing of a kind that counts: the last one of its name. -/
def pricingOf (pricings : List Pricing) (kind : String) : Option Pricing :=
  (pricings.filter (fun p => p.key = kind)).getLast?

theorem defenderMap_apply (pricings : List Pricing) (kind : String) :
    defenderMap pricings kind = (pricingOf pricings kind).map Pricing.properties := by
  induction pricings using List.reverseRecOn with
  | nil => rfl
  | append_singleton pricings p ih =>
    unfold defenderMap pricingOf at *
    rw [List.foldl_concat, List.filter_append]
    by_cases hp : p.key = kind
    · subst hp
      simp
    · rw [Function.update_of_ne (Ne.symm hp), ih]
      simp [hp]

/-- The parts of an account that Azure always fills in where it fills in the others. -/
def StorageAccount.Filled (account : StorageAccount) : Prop :=
  ∀ properties, account.properties = some properties →
    ∃ encryption, properties.encryption = some encryption ∧
      (encryption.keySource = some "Microsoft.Keyvault" → encryption.keyVaultProperties.isSome)

def ListContainerItem.Filled (container : ListContainerItem) : Prop :=
  container.properties.isSome

/-- What the logging of a storage has to say. -/
def loggingOf (pricings : List Pricing) : ResourceLogging :=
  match pricingOf pricings "StorageAccounts" with
  | none => ⟨false, false⟩
  | some p => ⟨!p.free, !p.free⟩

/-- No storage faults, and the logging of each is that of storage accounts. -/
structure LoggingFollows (lower : String → String) (pricings : List Pricing) : Prop where
  file_returns : ∀ (account : StorageAccount) share, account.Filled →
    handleFileStorage lower (defenderMap pricings) (some account) share ≠ .error .fault
  file_logging : ∀ account share storage,
    handleFileStorage lower (defenderMap pricings) account share = .ok storage →
      storage.resourceLogging = loggingOf pricings
  object_returns : ∀ backupMap (account : StorageAccount) (container : ListContainerItem),
    account.Filled → container.Filled →
      handleObjectStorage lower (defenderMap pricings) backupMap (some account)
        (some container) ≠ .error .fault
  object_logging : ∀ backupMap account container storage,
    handleObjectStorage lower (defenderMap pricings) backupMap account container = .ok storage →
      storage.resourceLogging = loggingOf pricings

theorem storageAtRestEncryption_returns {account : StorageAccount} (h : account.Filled) :
    storageAtRestEncryption (some account) ≠ .error .fault := by
  intro hfault
  simp only [storageAtRestEncryption, bind_eq_fault_iff, orFail_ne_fault, orFail_eq_ok_iff,
    deref_eq_fault_iff, deref_eq_ok_iff, false_or, Option.some.injEq] at hfault
  obtain ⟨_, rfl, properties, hproperties, hfault⟩ := hfault
  obtain ⟨encryption, hencryption, hvault⟩ := h properties hproperties
  rw [hencryption] at hfault
  obtain hnone | ⟨_, henc, keySource, hsource, hfault⟩ := hfault
  · cases hnone
  · cases henc
    split_ifs at hfault with hmanaged hcustomer
    · exact pure_ne_fault hfault
    · subst hcustomer
      simp only [bind_eq_fault_iff, deref_eq_fault_iff, pure_ne_fault, and_false,
        exists_false, or_false] at hfault
      have huri := hvault hsource
      rw [hfault] at huri
      cases huri
    · exact pure_ne_fault hfault

theorem storageAtRestEncryption_properties {account : StorageAccount}
    {enc : Option AtRestEncryption} (h : storageAtRestEncryption (some account) = .ok enc) :
    account.properties ≠ none := by
  simp only [storageAtRestEncryption, bind_eq_ok_iff, orFail_eq_ok_iff,
    Option.some.injEq] at h
  obtain ⟨_, rfl, properties, hproperties, _⟩ := h
  rw [hproperties]
  exact Option.some_ne_none properties

/-- With the encryption at rest read, only the logging can fault. -/
theorem handleFileStorage_returns {lower : String → String} {defender : DefenderMap}
    {account : StorageAccount} {share : Option FileShareItem} (haccount : account.Filled)
    (h : resourceLogging defender ≠ .error .fault) :
    handleFileStorage lower defender (some account) share ≠ .error .fault := by
  intro hfault
  simp only [handleFileStorage, bind_eq_fault_iff, orFail_ne_fault, orFail_eq_ok_iff,
    inContext_eq_fault_iff, inContext_eq_ok_iff, deref_eq_fault_iff, pure_ne_fault, false_or,
    Option.some.injEq, and_false, exists_false, or_false] at hfault
  obtain ⟨_, rfl, _, _, _, _, henc | ⟨enc, henc, hlogging | ⟨_, _, hnone⟩⟩⟩ := hfault
  · exact storageAtRestEncryption_returns haccount henc
  · exact h hlogging
  · exact storageAtRestEncryption_properties henc hnone

theorem handleObjectStorage_returns {lower : String → String} {defender : DefenderMap}
    {backupMap : BackupMap} {account : StorageAccount} {container : ListContainerItem}
    (haccount : account.Filled) (hcontainer : container.Filled)
    (h : resourceLogging defender ≠ .error .fault) :
    handleObjectStorage lower defender backupMap (some account) (some container) ≠
      .error .fault := by
  intro hfault
  simp only [handleObjectStorage, bind_eq_fault_iff, orFail_ne_fault, orFail_eq_ok_iff,
    inContext_eq_fault_iff, inContext_eq_ok_iff, deref_eq_fault_iff, pure_ne_fault, false_or,
    Option.some.injEq, and_false, exists_false, or_false] at hfault
  obtain ⟨_, rfl, _, rfl, _, _, henc | ⟨enc, henc, hlogging | ⟨_, _, hnone | ⟨_, _, hnone⟩⟩⟩⟩ :=
    hfault
  · exact storageAtRestEncryption_returns haccount henc
  · exact h hlogging
  · exact storageAtRestEncryption_properties henc hnone
  · rw [ListContainerItem.Filled, hnone] at hcontainer
    cases hcontainer

/-- An account with nothing but a key managed by Azure. -/
def plainAccount : StorageAccount :=
  ⟨none, none, none, [], some ⟨none, some ⟨some "Microsoft.Storage", none⟩, none, none, none⟩⟩

theorem plainAccount_filled : plainAccount.Filled := by
  rintro _ ⟨⟩
  exact ⟨_, rfl, nofun⟩

/-- A plain account gets as far as the logging. -/
theorem handleFileStorage_plainAccount (lower : String → String) (defender : DefenderMap) :
    handleFileStorage lower defender (some plainAccount) (some ⟨some "", none⟩) = (do
      let logging ← resourceLogging defender
      return ⟨lower "", "", none, none, [], none, logging, some (.managedKey "AES256")⟩) :=
  rfl

theorem resourceLogging_fails {defender : DefenderMap} {failure : Failure Err}
    (h : resourceLogging defender = .error failure) : failure = .fault := by
  unfold resourceLogging at h
  split at h
  · cases h
  · cases hmachines : defender "VirtualMachines" with
    | none =>
      rw [hmachines] at h
      cases h
      rfl
    | some properties =>
      rw [hmachines] at h
      cases h

/-- The handlers pass the outcome of the logging on. -/
theorem loggingFollows_iff (lower : String → String) (pricings : List Pricing) :
    LoggingFollows lower pricings ↔
      resourceLogging (defenderMap pricings) = .ok (loggingOf pricings) := by
  constructor
  · intro h
    have hplain := handleFileStorage_plainAccount lower (defenderMap pricings)
    cases hlogging : resourceLogging (defenderMap pricings) with
    | ok logging =>
      rw [hlogging] at hplain
      rw [← h.file_logging _ _ _ hplain]
    | error failure =>
      rw [hlogging, resourceLogging_fails hlogging] at hplain
      exact absurd hplain (h.file_returns _ _ plainAccount_filled)
  · intro h
    have hreturns : resourceLogging (defenderMap pricings) ≠ .error .fault := by
      rw [h]
      nofun
    have hsame (logging : ResourceLogging)
        (hlogging : resourceLogging (defenderMap pricings) = .ok logging) :
        logging = loggingOf pricings := by
      rw [h] at hlogging
      exact (Except.ok.inj hlogging).symm
    exact ⟨fun _ _ haccount => handleFileStorage_returns haccount hreturns,
      fun _ _ _ hstorage => hsame _ (handleFileStorage_ok hstorage).logging,
      fun _ _ _ haccount hcontainer => handleObjectStorage_returns haccount hcontainer hreturns,
      fun _ _ _ _ hstorage => hsame _ (handleObjectStorage_ok hstorage).logging⟩

/-- The logging of the storages follows the pricing of storage accounts for all accounts, shares
and containers exactly if there is no such pricing, or one of virtual machines that is free where
it is. -/
theorem storage_logging_iff (lower : String → String) (pricings : List Pricing) :
    LoggingFollows lower pricings ↔
      ∀ storage, pricingOf pricings "StorageAccounts" = some storage →
        ∃ machines, pricingOf pricings "VirtualMachines" = some machines ∧
          machines.free = storage.free := by
  rw [loggingFollows_iff]
  unfold resourceLogging loggingOf
  rw [defenderMap_apply, defenderMap_apply]
  cases pricingOf pricings "StorageAccounts" with
  | none => simp
  | some storage =>
    cases pricingOf pricings "VirtualMachines" with
    | none => simp [-bind_pure_comp]
    | some machines => simp [-bind_pure_comp, Pricing.properties]

/-- With Defender for storage alone, the discovery of a file share faults. -/
theorem storage_pricing_alone_faults :
    ¬ LoggingFollows id [⟨some "StorageAccounts", some "Standard"⟩] ∧
      handleFileStorage id (defenderMap [⟨some "StorageAccounts", some "Standard"⟩])
        (some plainAccount) (some ⟨some "/shares/a", none⟩) = .error .fault := by
  have hfault : handleFileStorage id
      (defenderMap [⟨some "StorageAccounts", some "Standard"⟩]) (some plainAccount)
      (some ⟨some "/shares/a", none⟩) = .error .fault := rfl
  exact ⟨fun h => h.file_returns _ _ plainAccount_filled hfault, hfault⟩

end StorageLogging

end Clouditor
