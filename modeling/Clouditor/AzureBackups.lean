import Clouditor.AppendLoops
import Clouditor.AzureResources

/-! The backups that the Azure discoverer finds in the backup vaults of a subscription, and how
it fills `backupMap` with them. -/
namespace Clouditor
set_option autoImplicit false
open Paged

/-- What the discoverer reads of a backup instance, with the answer to the request for its
policy: `none` stands for a policy of another shape than a retention rule with an absolute
duration. -/
structure BackupInstance where
  id : Option String
  name : Option String
  datasourceType : Option String
  resourceID : Option String
  policyID : Option String
  policy : Except Err (Option (Option String))
  deriving DecidableEq

/-- A backup vault with the pages of its instances. -/
structure BackupVault where
  id : Option String
  name : Option String
  location : Option String
  instances : List (Except Err (List BackupInstance))
  deriving DecidableEq

/-- `fmt.Errorf("%s: %v", ErrGettingNextPage, err)`. -/
def errGettingNextPage (e : Err) : Err := ⟨none, "error getting next page: " ++ e.error⟩

section Instances
variable {α : Type}

/-- The loop over the pages, whose variable holds the page read last. -/
def lastPage : List α → List (Except Err (List α)) → Outcome Err (List α)
  | list, [] => .ok list
  | _, .error e :: _ => fail (errGettingNextPage e)
  | _, .ok list :: pages => lastPage list pages

def discoverBackupInstances (resourceGroup vaultName : String)
    (pages : List (Except Err (List BackupInstance))) : Outcome Err (List BackupInstance) :=
  if resourceGroup = "" ∨ vaultName = "" then
    fail (errorf "missing resource group and/or vault name")
  else lastPage [] pages

/-- All instances in order if every page is read, and only an error otherwise. -/
def ListsAllPages (resourceGroup vaultName : String)
    (pages : List (Except Err (List BackupInstance))) : Prop :=
  match pageValues pages with
  | some instances => discoverBackupInstances resourceGroup vaultName pages = .ok instances
  | none => ∃ e, discoverBackupInstances resourceGroup vaultName pages = fail e

theorem lastPage_of_error {e : Err} {pages : List (Except Err (List α))} (h : .error e ∈ pages)
    (list : List α) : ∃ e', lastPage list pages = fail e' := by
  induction pages generalizing list with
  | nil => cases h
  | cons page pages ih =>
    cases page with
    | error e' => exact ⟨_, rfl⟩
    | ok values =>
      have hrest : .error e ∈ pages := by simpa using h
      exact ih hrest values

theorem lastPage_map_ok (lists : List (List α)) (list : List α) :
    lastPage list (lists.map .ok) = .ok (lists.getLast?.getD list) := by
  induction lists generalizing list with
  | nil => rfl
  | cons first lists ih =>
    rw [List.map_cons, lastPage, ih, List.getLast?_cons]
    rfl

theorem getLast_eq_flatten_iff (lists : List (List α)) :
    lists.getLast?.getD [] = lists.flatten ↔ ∀ list ∈ lists.dropLast, list = [] := by
  induction lists using List.reverseRecOn with
  | nil => simp
  | append_singleton lists last _ => simp

/-- The instances of all pages are returned exactly if a page fails, so that there is an error to
return, or the vault has a name and a group and all pages before the last one are empty. -/
theorem lists_all_pages_iff (resourceGroup vaultName : String)
    (pages : List (Except Err (List BackupInstance))) :
    ListsAllPages resourceGroup vaultName pages ↔
      (∃ e, .error e ∈ pages) ∨
        resourceGroup ≠ "" ∧ vaultName ≠ "" ∧ ∀ page ∈ pages.dropLast, page = .ok [] := by
  unfold ListsAllPages discoverBackupInstances
  cases hvalues : pageValues pages with
  | none =>
    have herror := pageValues_eq_none_iff.mp hvalues
    simp only [herror, true_or, iff_true]
    obtain ⟨e, he⟩ := herror
    split
    · exact ⟨_, rfl⟩
    · exact lastPage_of_error he []
  | some instances =>
    have hread : ¬ ∃ e, .error e ∈ pages := by
      rw [← pageValues_eq_none_iff, hvalues]
      nofun
    simp only [hread, false_or]
    split
    case isTrue hnames =>
      simp only [fail, reduceCtorEq, false_iff]
      tauto
    case isFalse hnames =>
      rw [not_or] at hnames
      obtain ⟨lists, rfl, rfl⟩ := pageValues_eq_some_iff.mp hvalues
      rw [lastPage_map_ok, Except.ok.injEq, getLast_eq_flatten_iff, ← List.map_dropLast,
        List.forall_mem_map]
      simp only [hnames, Except.ok.injEq, true_and, ne_eq, not_false_eq_true]

/-- The first of two pages is lost. -/
theorem first_page_lost :
    let first : BackupInstance := ⟨some "first", none, none, none, none, .ok none⟩
    let second : BackupInstance := ⟨some "second", none, none, none, none, .ok none⟩
    discoverBackupInstances "group" "vault" [.ok [first], .ok [second]] = .ok [second] ∧
      ¬ ListsAllPages "group" "vault" [.ok [first], .ok [second]] := by
  refine ⟨rfl, ?_⟩
  unfold ListsAllPages
  simp [pageValues, discoverBackupInstances, lastPage]

end Instances

section Vaults
variable (lower : String → String)

/-- `strconv.Atoi` with its range check. -/
def atoi (text : List Char) : Option ℤ :=
  let number (digits : List Char) : Option ℤ :=
    if digits ≠ [] ∧ digits.all Char.isDigit then
      some (digits.foldl (fun n c => 10 * n + (c.toNat - '0'.toNat : ℤ)) 0)
    else none
  let value :=
    match text with
    | '-' :: digits => (number digits).map (- ·)
    | '+' :: digits => number digits
    | digits => number digits
  value.filter (fun n => -2 ^ 63 ≤ n ∧ n < 2 ^ 63)

/-- The retention in nanoseconds, an `int64`. The first and the last byte of the text are cut
off; if one of them belongs to a longer character, the rest is no number. -/
def retentionDuration (retention : String) : Outcome Err ℤ :=
  match retention.toList with
  | [] => .ok 0
  -- `retention[1:0]` is out of range for a single byte
  | [c] => if c.toNat < 128 then .error .fault else .ok 0
  | first :: rest =>
    if first.toNat < 128 ∧ (rest.getLastD first).toNat < 128 then
      .ok (((atoi rest.dropLast).getD 0 * (24 * 3600 * 10 ^ 9)).bmod (2 ^ 64))
    else .ok 0

def backupPolicyName (id : String) : Outcome Err String :=
  -- ten parts pass the check, but there is no part 10 then
  if (split id '/').length < 10 then .ok "" else idPart id 10

def handleInstances (vault : Option BackupVault) (instance_ : Option BackupInstance) :
    Outcome Err (Option BackupStorage) := do
  let vault ← orFail (errorf "vault and/or instance is nil") vault
  let instance_ ← orFail (errorf "vault and/or instance is nil") instance_
  let datasourceType ← deref instance_.datasourceType
  let storage (kind : BackupKind) : BackupStorage :=
    ⟨kind, resourceID lower instance_.id, instance_.name.getD "", vault.location,
      resourceGroupID lower instance_.id⟩
  if datasourceType = "Microsoft.Storage/storageAccounts/blobServices" then
    return some (storage .objectStorage)
  else if datasourceType = "Microsoft.Compute/disks" then
    return some (storage .blockStorage)
  else
    return none

/-- One round of the loop over the instances of a vault. An instance whose policy is not read is
left out. -/
def instanceEntry (vault : BackupVault) (instance_ : BackupInstance) :
    Outcome Err (Option BackupEntry) := do
  let vaultId ← deref vault.id
  let _ ← resourceGroupName vaultId
  let _ ← deref vault.name
  let policyId ← deref instance_.policyID
  let _ ← backupPolicyName policyId
  match instance_.policy with
  -- logged, and the loop goes on
  | .error _ => return none
  | .ok policy =>
    -- the type assertions on the rules of the policy panic
    let retention ← deref policy
    let storage ← inContext (fun _ => errorf "could not handle instance")
      (handleInstances lower (some vault) (some instance_))
    let retentionPeriod ← retentionDuration (retention.getD "")
    return some {
      dataSourceType := instance_.datasourceType.getD ""
      resourceId := instance_.resourceID.getD ""
      retentionPeriod := retentionPeriod
      storageId := instance_.id
      storage := storage }

/-- What the discovery adds to the map for one vault. The error comes before the first entry. -/
def vaultEntries (vault : BackupVault) : Outcome Err (List BackupEntry) := do
  let resourceGroup ← resourceGroupName (vault.id.getD "")
  let instances ← inContext (fun e => ⟨none, "could not discover backup instances: " ++ e.error⟩)
    (discoverBackupInstances resourceGroup (vault.name.getD "") vault.instances)
  let entries ← instances.foldlM (collect (instanceEntry lower vault)) []
  return entries.filterMap id

/-- The answers that Azure gives to the discovery of the vaults: whether the clients can be made,
and the pages of vaults. -/
structure VaultAnswers where
  clients : Option Err
  vaults : List (Except Err (List BackupVault))
  deriving DecidableEq

def vaultFailure (item : Except Err BackupVault) : Option (Failure Err) :=
  match item with
  | .error e => some (.error (e.wrap "error getting next page"))
  | .ok vault =>
    match vaultEntries lower vault with
    | .error failure => some failure
    | .ok _ => none

def vaultAppends (item : Except Err BackupVault) : List BackupEntry :=
  match item with
  | .error _ => []
  | .ok vault => (vaultEntries lower vault).toOption.getD []

/-- The map is filled only while it is empty, and keeps what was added before a failure. -/
def discoverBackupVaults (map : BackupMap) (answers : VaultAnswers) :
    BackupMap × Option (Failure Err) :=
  -- "Backup Vaults already discovered."
  if map ≠ [] then (map, none)
  else
    match answers.clients with
    | some e => (map, some (.error e))
    | none =>
      AppendLoop.run (fun _ item _ => vaultFailure lower item) (vaultAppends lower) 0
        (pageItems answers.vaults) map

/-- The instances of a vault that answers every request, as entries of the map. -/
structure VaultHolds (vault : BackupVault) (entries : List BackupEntry) : Prop where
  group : ∃ group, resourceGroupName (vault.id.getD "") = .ok group ∧ group ≠ ""
  name : vault.name.getD "" ≠ ""
  instances : ∃ instances, pageValues vault.instances = some instances ∧
    List.Forall₂ (fun i e => instanceEntry lower vault i = .ok (some e)) instances entries

/-- The instances that exist where no request fails. -/
structure VaultAnswers.Hold (answers : VaultAnswers) (entries : List BackupEntry) : Prop where
  clients : answers.clients = none
  vaults : ∃ vaults blocks, pageValues answers.vaults = some vaults ∧
    List.Forall₂ (VaultHolds lower) vaults blocks ∧ blocks.flatten = entries

/-- An instance on the last page of its vault. -/
def VaultAnswers.OnLastPage (answers : VaultAnswers) (e : BackupEntry) : Prop :=
  ∃ vaults, pageValues answers.vaults = some vaults ∧ ∃ vault ∈ vaults,
    ∃ page, vault.instances.getLast? = some (.ok page) ∧
      ∃ i ∈ page, instanceEntry lower vault i = .ok (some e)

variable {lower}

/-- The map gets what is on the last page of a vault. -/
theorem VaultHolds.kept {vault : BackupVault} {entries : List BackupEntry}
    (h : VaultHolds lower vault entries) :
    ∃ kept, vaultEntries lower vault = .ok kept ∧ kept <:+ entries ∧
      ∀ e, e ∈ kept ↔ ∃ page, vault.instances.getLast? = some (.ok page) ∧
        ∃ i ∈ page, instanceEntry lower vault i = .ok (some e) := by
  obtain ⟨group, hgroup, hne⟩ := h.group
  obtain ⟨instances, hinstances, hentries⟩ := h.instances
  obtain ⟨lists, hpages, rfl⟩ := pageValues_eq_some_iff.mp hinstances
  have hread : discoverBackupInstances group (vault.name.getD "") vault.instances =
      .ok (lists.getLast?.getD []) := by
    rw [hpages, discoverBackupInstances, if_neg (not_or.mpr ⟨hne, h.name⟩), lastPage_map_ok]
  -- the pages before the last one take up a part at the front of the entries
  obtain ⟨front, hfront⟩ : ∃ front, lists.flatten = front ++ lists.getLast?.getD [] := by
    induction lists using List.reverseRecOn with
    | nil => exact ⟨[], rfl⟩
    | append_singleton lists last _ => exact ⟨lists.flatten, by simp⟩
  rw [hfront] at hentries
  have hlast := (List.forall₂_drop_append entries front _ hentries.flip).flip
  have hkept : vaultEntries lower vault = .ok (entries.drop front.length) := by
    simp only [vaultEntries, bind_eq_ok_iff, inContext_eq_ok_iff, pure_eq_ok_iff,
      foldlM_collect_eq_ok_iff, List.nil_append]
    exact ⟨group, hgroup, _, hread, _, ⟨_, rfl, List.forall₂_map_right_iff.mpr hlast⟩,
      by simp⟩
  refine ⟨_, hkept, List.drop_suffix _ _, fun e => ?_⟩
  rw [hpages, List.getLast?_map]
  constructor
  · intro he
    obtain ⟨i, hi, hie⟩ := exists_of_mem_right hlast he
    cases hlists : lists.getLast? with
    | none => simp [hlists] at hi
    | some page =>
      rw [hlists] at hi
      exact ⟨page, rfl, i, hi, hie⟩
  · rintro ⟨page, hpage, i, hi, hie⟩
    obtain ⟨_, hlists, ⟨⟩⟩ := Option.map_eq_some_iff.mp hpage
    rw [hlists] at hlast
    obtain ⟨e', he', hie'⟩ := exists_of_mem_left hlast hi
    rw [hie] at hie'
    cases hie'
    exact he'

theorem VaultHolds.vaultFailure_eq {vault : BackupVault} {entries : List BackupEntry}
    (h : VaultHolds lower vault entries) : vaultFailure lower (.ok vault) = none := by
  obtain ⟨kept, hkept, _, _⟩ := h.kept
  simp [vaultFailure, hkept]

theorem vaultAppends_sublist {vaults : List BackupVault} {blocks : List (List BackupEntry)}
    (h : List.Forall₂ (VaultHolds lower) vaults blocks) :
    (vaults.flatMap (fun vault => vaultAppends lower (.ok vault))).Sublist blocks.flatten := by
  induction h with
  | nil => exact List.Sublist.slnil
  | @cons vault _ _ _ hblock _ ih =>
    obtain ⟨kept, hkept, hsuffix, _⟩ := hblock.kept
    have happends : vaultAppends lower (.ok vault) = kept := by
      rw [vaultAppends, hkept]
      rfl
    rw [List.flatMap_cons, List.flatten_cons, happends]
    exact hsuffix.sublist.append ih

/-- From an empty map the discovery reaches its end, with the instances on the last pages. -/
theorem VaultAnswers.Hold.kept {answers : VaultAnswers} {entries : List BackupEntry}
    (h : answers.Hold lower entries) :
    ∃ kept, discoverBackupVaults lower [] answers = (kept, none) ∧ kept.Sublist entries ∧
      ∀ e, e ∈ kept ↔ answers.OnLastPage lower e := by
  obtain ⟨vaults, blocks, hvaults, hblocks, rfl⟩ := h.vaults
  let kept := vaults.flatMap (fun vault => vaultAppends lower (.ok vault))
  have hrun : discoverBackupVaults lower [] answers =
      AppendLoop.run (fun _ item _ => vaultFailure lower item) (vaultAppends lower) 0
        (vaults.map .ok) [] := by
    simp [discoverBackupVaults, h.clients, pageItems_of_pageValues hvaults]
  have hreach : (discoverBackupVaults lower [] answers).2 = none := by
    rw [hrun, AppendLoop.run_none_iff]
    intro k item hitem
    obtain ⟨vault, hvault, rfl⟩ := List.mem_map.mp (List.mem_of_getElem? hitem)
    obtain ⟨block, _, hholds⟩ := exists_of_mem_left hblocks hvault
    exact hholds.vaultFailure_eq
  have hkept : (discoverBackupVaults lower [] answers).1 = kept := by
    rw [hrun] at hreach ⊢
    rw [AppendLoop.run_eq_append _ _ _ _ _ hreach, List.nil_append, List.flatMap_map]
  refine ⟨kept, Prod.ext hkept hreach, ?_, fun e => ?_⟩
  · exact vaultAppends_sublist hblocks
  · have hmem (vault : BackupVault) (hvault : vault ∈ vaults) :
        e ∈ vaultAppends lower (.ok vault) ↔ ∃ page, vault.instances.getLast? = some (.ok page) ∧
          ∃ i ∈ page, instanceEntry lower vault i = .ok (some e) := by
      obtain ⟨block, _, hholds⟩ := exists_of_mem_left hblocks hvault
      obtain ⟨kept, hkept, _, hon⟩ := hholds.kept
      rw [vaultAppends, hkept]
      exact hon e
    rw [show e ∈ kept ↔ _ from List.mem_flatMap]
    constructor
    · rintro ⟨vault, hvault, he⟩
      exact ⟨vaults, hvaults, vault, hvault, (hmem vault hvault).mp he⟩
    · rintro ⟨_, hvaults', vault, hvault, he⟩
      rw [hvaults] at hvaults'
      cases hvaults'
      exact ⟨vault, hvault, (hmem vault hvault).mpr he⟩

end Vaults
end Clouditor
