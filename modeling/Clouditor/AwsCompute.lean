import Clouditor.KeyedRows
import Clouditor.PagedCalls
import Clouditor.Requests

/-! The compute discoverer for AWS: volumes, network interfaces, virtual machines with references
to both, and functions, which come in pages. -/
namespace Clouditor
set_option autoImplicit false
open Paged

/-- Seconds of the zero value of `time.Time`. -/
def zeroTime : Time := -62135596800

/-- Pointers of the API are optional. -/
structure Tag where
  key : Option String
  value : Option String

structure Ec2Volume where
  volumeId : Option String
  encrypted : Option Bool
  createTime : Option Time
  tags : List Tag

structure Ec2NetworkInterface where
  networkInterfaceId : Option String
  tagSet : List Tag

/-- A block device mapping has a pointer to its volume, which has a pointer to an id. -/
structure Ec2Instance where
  instanceId : Option String
  tags : List Tag
  blockDeviceMappings : List (Option (Option String))
  networkInterfaces : List (Option String)

structure LambdaFunction where
  functionArn : Option String
  functionName : Option String

inductive ErrorFault where
  | unknown
  | server
  | client

def ErrorFault.text : ErrorFault → String
  | .unknown => "unknown"
  | .server => "server"
  | .client => "client"

/-- An error of the client is one of the API or another, such as a lost connection. -/
inductive AwsError where
  | api (code : String) (fault : ErrorFault) (message : String)
  | other (text : String)

def formatError (code : String) (fault : ErrorFault) (message : String) : Err :=
  ⟨none, "code: " ++ code ++ ", fault: " ++ fault.text ++ ", message: " ++ message⟩

def prettyError : AwsError → Err
  | .api code fault message => formatError code fault message
  | .other text => ⟨none, text⟩

/-- The answers of the API, and the settings of the client. -/
structure ComputeAPI where
  describeVolumes : Except AwsError (List Ec2Volume)
  describeNetworkInterfaces : Except AwsError (List Ec2NetworkInterface)
  /-- The instances of each reservation. -/
  describeInstances : Except AwsError (List (List Ec2Instance))
  /-- The functions from a marker on, and the next marker. -/
  listFunctions : Option String → Except AwsError (List LambdaFunction × Option String)
  region : String
  accountID : Option String

abbrev Labels := AList (fun _ : String => String)

structure ManagedKeyEncryption where
  enabled : Bool
  algorithm : String

/-- The ontology resources of this discoverer, without their raw data. -/
inductive Ec2Resource where
  | blockStorage (id name : String) (creationTime : Time) (region : String) (labels : Labels)
      (atRestEncryption : ManagedKeyEncryption)
  | networkInterface (id name region : String) (labels : Labels)
  | virtualMachine (id name region : String) (labels : Labels)
      (networkInterfaceIds blockStorageIds : List String) (bootLogging osLogging : Bool)
  | function (id name region : String)

def Ec2Resource.getId : Ec2Resource → String
  | .blockStorage id .. => id
  | .networkInterface id .. => id
  | .virtualMachine id .. => id
  | .function id .. => id

section Discoverer
variable (api : ComputeAPI)

def ec2Arn : String := "arn:aws:ec2:"

def ComputeAPI.arnify (typ : String) (id : Option String) : String :=
  ec2Arn ++ api.region ++ ":" ++ api.accountID.getD "" ++ ":" ++ typ ++ "/" ++ id.getD ""

/-- The tag `Name` if there is one. -/
def nameOrID (tags : List Tag) (id : Option String) : String :=
  match tags.find? (fun tag => tag.key.getD "" = "Name") with
  | some tag => tag.value.getD ""
  | none => id.getD ""

def Tag.labels (tags : List Tag) : Labels :=
  tags.foldl (fun labels tag => labels.insert (tag.key.getD "") (tag.value.getD "")) ∅

def ComputeAPI.volumeResource (volume : Ec2Volume) : Ec2Resource :=
  let enabled := volume.encrypted.getD false
  .blockStorage (api.arnify "volume" volume.volumeId) (nameOrID volume.tags volume.volumeId)
    (volume.createTime.getD zeroTime) api.region (Tag.labels volume.tags)
    ⟨enabled, if enabled then "AES-256" else ""⟩

/-- What the API answers, or its error. -/
def answered {α : Type} : Except AwsError α → Outcome Err α
  | .ok a => .ok a
  | .error e => fail (prettyError e)

def ComputeAPI.discoverVolumes : Outcome Err (List Ec2Resource) := do
  let volumes ← answered api.describeVolumes
  pure (volumes.map api.volumeResource)

def ComputeAPI.interfaceResource (ifc : Ec2NetworkInterface) : Ec2Resource :=
  .networkInterface (api.arnify "network-interface" ifc.networkInterfaceId)
    (nameOrID ifc.tagSet ifc.networkInterfaceId) api.region (Tag.labels ifc.tagSet)

def ComputeAPI.discoverNetworkInterfaces : Outcome Err (List Ec2Resource) := do
  let ifcs ← answered api.describeNetworkInterfaces
  pure (ifcs.map api.interfaceResource)

/-- A mapping without a volume is dereferenced all the same. -/
def ComputeAPI.mapBlockStorageIDsOfVM (vm : Ec2Instance) : Outcome Err (List String) :=
  vm.blockDeviceMappings.mapM (fun ebs => do
    let volumeId ← deref ebs
    pure (api.arnify "volume" volumeId))

def ComputeAPI.getNetworkInterfacesOfVM (vm : Ec2Instance) : List String :=
  vm.networkInterfaces.map (api.arnify "network-interface")

def getNameOfVM (vm : Ec2Instance) : String := nameOrID vm.tags vm.instanceId

/-- There is no option to find out whether logs are enabled. -/
def getBootLog (_ : Ec2Instance) : Bool := false

def getOSLog (_ : Ec2Instance) : Bool := false

def ComputeAPI.instanceResource (vm : Ec2Instance) (blockStorageIds : List String) : Ec2Resource :=
  .virtualMachine (api.arnify "instance" vm.instanceId) (getNameOfVM vm) api.region
    (Tag.labels vm.tags) (api.getNetworkInterfacesOfVM vm) blockStorageIds (getBootLog vm)
    (getOSLog vm)

def ComputeAPI.discoverVirtualMachines : Outcome Err (List Ec2Resource) := do
  let reservations ← answered api.describeInstances
  reservations.flatten.mapM (fun vm => do
    let blockStorageIds ← api.mapBlockStorageIDsOfVM vm
    pure (api.instanceResource vm blockStorageIds))

def ComputeAPI.mapFunctionResources (functions : List LambdaFunction) : List Ec2Resource :=
  functions.map (fun f => .function (f.functionArn.getD "") (f.functionName.getD "") api.region)

/-- One call for each marker until there is none; the number bounds the calls. -/
def ComputeAPI.discoverFunctions : ℕ → Option String → Option (Outcome Err (List Ec2Resource))
  | 0, _ => none
  | n + 1, marker =>
    match api.listFunctions marker with
    | .error e => some (fail (prettyError e))
    | .ok (functions, none) => some (.ok (api.mapFunctionResources functions))
    | .ok (functions, some next) => (ComputeAPI.discoverFunctions n (some next)).map (fun r =>
        r.map (api.mapFunctionResources functions ++ ·))

/-- Network interfaces share the error text of the volumes. -/
def ComputeAPI.listMachines : Outcome Err (List Ec2Resource) := do
  let volumes ← inContext (Err.wrap "could not discover volumes") api.discoverVolumes
  let ifcs ← inContext (Err.wrap "could not discover volumes") api.discoverNetworkInterfaces
  let vms ← inContext (Err.wrap "could not discover virtual machines") api.discoverVirtualMachines
  pure (volumes ++ ifcs ++ vms)

def ComputeAPI.list (calls : ℕ) : Option (Outcome Err (List Ec2Resource)) :=
  match api.listMachines with
  | .error e => some (.error e)
  | .ok machines => (api.discoverFunctions calls none).map (fun functions =>
      (inContext (Err.wrap "could not discover functions") functions).map (machines ++ ·))

end Discoverer

section Ids
variable {api : ComputeAPI}

def arnStem (api : ComputeAPI) : List Char :=
  api.region.toList ++ ":".toList ++ (api.accountID.getD "").toList ++ ":".toList

/-- The kind and the id stand behind a part that all ids share. -/
theorem arnify_toList (typ : String) (id : Option String) : (api.arnify typ id).toList =
    ec2Arn.toList ++ (arnStem api ++ (typ.toList ++ '/' :: (id.getD "").toList)) := by
  have hslash : "/".toList = ['/'] := rfl
  simp only [ComputeAPI.arnify, arnStem, String.toList_append, hslash, List.append_assoc,
    List.cons_append, List.nil_append]

theorem arnify_inj_iff (typ : String) (id id' : Option String) :
    api.arnify typ id = api.arnify typ id' ↔ id.getD "" = id'.getD "" := by
  rw [← String.toList_inj, arnify_toList, arnify_toList, List.append_cancel_left_eq,
    List.append_cancel_left_eq, List.append_cancel_left_eq, List.cons.injEq, String.toList_inj]
  simp only [true_and]

/-- The kinds differ in their first letters. -/
theorem arnify_ne (typ typ' : String) {c c' : Char} (h : typ.toList.head? = some c)
    (h' : typ'.toList.head? = some c') (hne : c ≠ c') (id id' : Option String) :
    api.arnify typ id ≠ api.arnify typ' id' := by
  intro heq
  rw [← String.toList_inj, arnify_toList, arnify_toList, List.append_cancel_left_eq,
    List.append_cancel_left_eq] at heq
  obtain ⟨rest,hrest⟩ := List.head?_eq_some_iff.mp h
  obtain ⟨rest',hrest'⟩ := List.head?_eq_some_iff.mp h'
  rw [hrest, hrest', List.cons_append, List.cons_append, List.cons.injEq] at heq
  exact hne heq.1

/-- An ARN of another service, such as that of a function. -/
def foreignArn (arn : String) : Bool := !ec2Arn.toList.isPrefixOf arn.toList

theorem arnify_ne_foreign {arn : String} (h : foreignArn arn = true) (typ : String)
    (id : Option String) : api.arnify typ id ≠ arn := by
  rintro rfl
  have hstart : ec2Arn.toList <+: (api.arnify typ id).toList := by
    rw [arnify_toList]
    exact List.prefix_append _ _
  rw [foreignArn, List.isPrefixOf_iff_prefix.mpr hstart] at h
  cases h

end Ids

section Inventory

/-- The pages of functions from a marker on. -/
inductive FunctionPages (api : ComputeAPI) : Option String → List (List LambdaFunction) → Prop where
  | last {marker : Option String} {functions : List LambdaFunction}
      (h : api.listFunctions marker = .ok (functions, none)) :
      FunctionPages api marker [functions]
  | more {marker : Option String} {next : String} {functions : List LambdaFunction}
      {pages : List (List LambdaFunction)}
      (h : api.listFunctions marker = .ok (functions, some next))
      (rest : FunctionPages api (some next) pages) : FunctionPages api marker (functions :: pages)

/-- What the API answers for an account, and what AWS guarantees: ids are unique, and what is
attached to an instance exists. -/
structure ComputeAccount (api : ComputeAPI) where
  volumes : List Ec2Volume
  ifcs : List Ec2NetworkInterface
  reservations : List (List Ec2Instance)
  pages : List (List LambdaFunction)
  volumes_eq : api.describeVolumes = .ok volumes
  ifcs_eq : api.describeNetworkInterfaces = .ok ifcs
  reservations_eq : api.describeInstances = .ok reservations
  pages_eq : FunctionPages api none pages
  volumeIds_nodup : (volumes.map (fun v => v.volumeId.getD "")).Nodup
  ifcIds_nodup : (ifcs.map (fun i => i.networkInterfaceId.getD "")).Nodup
  instanceIds_nodup : (reservations.flatten.map (fun vm => vm.instanceId.getD "")).Nodup
  arns_nodup : (pages.flatten.map (fun f => f.functionArn.getD "")).Nodup
  arns_foreign : ∀ f ∈ pages.flatten, foreignArn (f.functionArn.getD "") = true
  attached : ∀ vm ∈ reservations.flatten, ∀ ebs ∈ vm.blockDeviceMappings,
    ∃ v ∈ volumes, ebs = some v.volumeId
  plugged : ∀ vm ∈ reservations.flatten, ∀ id ∈ vm.networkInterfaces,
    ∃ i ∈ ifcs, i.networkInterfaceId = id

variable {api : ComputeAPI}

theorem discoverFunctions_of_pages {marker : Option String} {pages : List (List LambdaFunction)}
    (h : FunctionPages api marker pages) (calls : ℕ) (hcalls : pages.length ≤ calls) :
    api.discoverFunctions calls marker = some (.ok (api.mapFunctionResources pages.flatten)) := by
  -- on the pages: each takes one of the calls
  induction h generalizing calls with
  | last h =>
    cases calls with
    | zero => simp at hcalls
    | succ n => simp only [ComputeAPI.discoverFunctions, h, List.flatten_cons, List.flatten_nil,
        List.append_nil]
  | more h rest ih =>
    cases calls with
    | zero => simp at hcalls
    | succ n =>
      have hrest := ih n (by simpa using hcalls)
      simp only [ComputeAPI.discoverFunctions, h, hrest, Option.map_some, Except.map,
        ComputeAPI.mapFunctionResources, List.flatten_cons, List.map_append]

theorem mapM_ok {α β : Type} (f : α → Outcome Err β) (g : α → β) (as : List α)
    (h : ∀ a ∈ as, f a = .ok (g a)) : as.mapM f = .ok (as.map g) := by
  induction as with
  | nil => rfl
  | cons a as ih =>
    have hrest := ih (fun b hb => h b (List.mem_cons_of_mem a hb))
    rw [List.mapM_cons, h a List.mem_cons_self, hrest]
    rfl

/-- The volumes of an instance whose devices all have one. -/
def ComputeAPI.volumeIds (api : ComputeAPI) (vm : Ec2Instance) : List String :=
  vm.blockDeviceMappings.map (fun ebs => api.arnify "volume" (ebs.getD none))

theorem mapBlockStorageIDsOfVM_eq (vm : Ec2Instance)
    (h : ∀ ebs ∈ vm.blockDeviceMappings, ebs ≠ none) :
    api.mapBlockStorageIDsOfVM vm = .ok (api.volumeIds vm) := by
  apply mapM_ok
  intro ebs hebs
  obtain ⟨volumeId,rfl⟩ := Option.ne_none_iff_exists'.mp (h ebs hebs)
  rfl

variable (account : ComputeAccount api)

def ComputeAccount.resources : List Ec2Resource :=
  account.volumes.map api.volumeResource ++ account.ifcs.map api.interfaceResource ++
    account.reservations.flatten.map (fun vm => api.instanceResource vm (api.volumeIds vm)) ++
    api.mapFunctionResources account.pages.flatten

theorem blockStorageIds_of_account (vm : Ec2Instance) (hvm : vm ∈ account.reservations.flatten) :
    api.mapBlockStorageIDsOfVM vm = .ok (api.volumeIds vm) := by
  apply mapBlockStorageIDsOfVM_eq
  intro ebs hebs hnone
  obtain ⟨v,_,hv⟩ := account.attached vm hvm ebs hebs
  rw [hnone] at hv
  cases hv

theorem list_of_account (calls : ℕ) (hcalls : account.pages.length ≤ calls) :
    api.list calls = some (.ok account.resources) := by
  have hvolumes : api.discoverVolumes = .ok (account.volumes.map api.volumeResource) := by
    rw [ComputeAPI.discoverVolumes, account.volumes_eq]
    rfl
  have hifcs : api.discoverNetworkInterfaces = .ok (account.ifcs.map api.interfaceResource) := by
    rw [ComputeAPI.discoverNetworkInterfaces, account.ifcs_eq]
    rfl
  have hvms : api.discoverVirtualMachines = .ok (account.reservations.flatten.map
      (fun vm => api.instanceResource vm (api.volumeIds vm))) := by
    rw [ComputeAPI.discoverVirtualMachines, account.reservations_eq]
    apply mapM_ok
    intro vm hvm
    rw [blockStorageIds_of_account account vm hvm]
    rfl
  have hmachines : api.listMachines = .ok (account.volumes.map api.volumeResource ++
      account.ifcs.map api.interfaceResource ++ account.reservations.flatten.map
        (fun vm => api.instanceResource vm (api.volumeIds vm))) := by
    rw [ComputeAPI.listMachines, hvolumes, hifcs, hvms]
    rfl
  have hfunctions := discoverFunctions_of_pages account.pages_eq calls hcalls
  rw [ComputeAPI.list, hmachines, hfunctions]
  rfl

theorem arns_nodup_of_ids {α : Type} (api : ComputeAPI) (typ : String) (id : α → Option String)
    (as : List α) (h : (as.map (fun a => (id a).getD "")).Nodup) :
    (as.map (fun a => api.arnify typ (id a))).Nodup := by
  rw [List.Nodup, List.pairwise_map] at h ⊢
  apply h.imp
  intro a b hne heq
  exact hne ((arnify_inj_iff typ (id a) (id b)).mp heq)

theorem ids_nodup : (account.resources.map Ec2Resource.getId).Nodup := by
  have hvolumes := arns_nodup_of_ids api "volume" Ec2Volume.volumeId account.volumes
    account.volumeIds_nodup
  have hifcs := arns_nodup_of_ids api "network-interface" Ec2NetworkInterface.networkInterfaceId
    account.ifcs account.ifcIds_nodup
  have hvms := arns_nodup_of_ids api "instance" Ec2Instance.instanceId
    account.reservations.flatten account.instanceIds_nodup
  have hids : account.resources.map Ec2Resource.getId =
      account.volumes.map (fun v => api.arnify "volume" v.volumeId) ++
      account.ifcs.map (fun i => api.arnify "network-interface" i.networkInterfaceId) ++
      account.reservations.flatten.map (fun vm => api.arnify "instance" vm.instanceId) ++
      account.pages.flatten.map (fun f => f.functionArn.getD "") := by
    simp only [ComputeAccount.resources, ComputeAPI.mapFunctionResources, List.map_append,
      List.map_map]
    rfl
  rw [hids]
  -- the kinds have different letters behind the common part, and functions another service
  refine List.nodup_append.mpr ⟨List.nodup_append.mpr ⟨List.nodup_append.mpr
    ⟨hvolumes, hifcs, ?_⟩, hvms, ?_⟩, account.arns_nodup, ?_⟩
  · simp only [List.mem_map]
    rintro _ ⟨v,_,rfl⟩ _ ⟨i,_,rfl⟩
    exact arnify_ne "volume" "network-interface" rfl rfl (by decide) _ _
  · simp only [List.mem_append, List.mem_map]
    rintro _ (⟨v,_,rfl⟩ | ⟨i,_,rfl⟩) _ ⟨vm,_,rfl⟩
    · exact arnify_ne "volume" "instance" rfl rfl (by decide) _ _
    · exact arnify_ne "network-interface" "instance" rfl rfl (by decide) _ _
  · intro id hid _ hfunction heq
    obtain ⟨f,hf,rfl⟩ := List.mem_map.mp hfunction
    have hforeign := account.arns_foreign f hf
    simp only [List.mem_append, List.mem_map] at hid
    obtain (⟨v,_,rfl⟩ | ⟨i,_,rfl⟩) | ⟨vm,_,rfl⟩ := hid
    · exact arnify_ne_foreign hforeign _ _ heq
    · exact arnify_ne_foreign hforeign _ _ heq
    · exact arnify_ne_foreign hforeign _ _ heq

theorem find_saved (rows : Keyed.Rows Ec2Resource.getId) (r : Ec2Resource)
    (hr : r ∈ account.resources) : (rows.saveAll account.resources).find r.getId = some r := by
  apply (Keyed.saveAll_keeps_iff rows account.resources).mpr _ r hr
  intro v hv w hw heq
  exact List.inj_on_of_nodup_map (ids_nodup account) hv hw heq

theorem find_saved_volume (rows : Keyed.Rows Ec2Resource.getId) (v : Ec2Volume)
    (hv : v ∈ account.volumes) : (rows.saveAll account.resources).find
      (api.arnify "volume" v.volumeId) = some (api.volumeResource v) := by
  have hmem : api.volumeResource v ∈ account.resources := by
    simp only [ComputeAccount.resources, List.mem_append]
    exact .inl (.inl (.inl (List.mem_map_of_mem hv)))
  exact find_saved account rows _ hmem

theorem find_saved_interface (rows : Keyed.Rows Ec2Resource.getId) (i : Ec2NetworkInterface)
    (hi : i ∈ account.ifcs) : (rows.saveAll account.resources).find
      (api.arnify "network-interface" i.networkInterfaceId) = some (api.interfaceResource i) := by
  have hmem : api.interfaceResource i ∈ account.resources := by
    simp only [ComputeAccount.resources, List.mem_append]
    exact .inl (.inl (.inr (List.mem_map_of_mem hi)))
  exact find_saved account rows _ hmem

/-- Every resource the API answers is listed and kept in a store by its id, and what a virtual
machine refers to is found there. -/
theorem compute_resources_stored (calls : ℕ) (hcalls : account.pages.length ≤ calls)
    (rows : Keyed.Rows Ec2Resource.getId) :
    api.list calls = some (.ok account.resources) ∧
    (∀ r ∈ account.resources, (rows.saveAll account.resources).find r.getId = some r) ∧
    ∀ vm ∈ account.reservations.flatten,
      (∀ id ∈ api.getNetworkInterfacesOfVM vm, ∃ i ∈ account.ifcs,
        (rows.saveAll account.resources).find id = some (api.interfaceResource i)) ∧
      ∃ ids, api.mapBlockStorageIDsOfVM vm = .ok ids ∧ ∀ id ∈ ids, ∃ v ∈ account.volumes,
        (rows.saveAll account.resources).find id = some (api.volumeResource v) := by
  refine ⟨list_of_account account calls hcalls, find_saved account rows, ?_⟩
  intro vm hvm
  refine ⟨?_, api.volumeIds vm, blockStorageIds_of_account account vm hvm, ?_⟩
  · intro id hid
    obtain ⟨ifcId,hifcId,rfl⟩ := List.mem_map.mp hid
    obtain ⟨i,hi,rfl⟩ := account.plugged vm hvm ifcId hifcId
    exact ⟨i, hi, find_saved_interface account rows i hi⟩
  · intro id hid
    obtain ⟨ebs,hebs,rfl⟩ := List.mem_map.mp hid
    obtain ⟨v,hv,rfl⟩ := account.attached vm hvm ebs hebs
    exact ⟨v, hv, find_saved_volume account rows v hv⟩

end Inventory

section Sample

def sampleFunction (name : String) : LambdaFunction :=
  ⟨some ("arn:aws:lambda:eu:1:function:" ++ name), some name⟩

/-- A machine with a volume and an interface, and functions on two pages. -/
def sampleCompute : ComputeAPI where
  describeVolumes := .ok [⟨some "vol-1", some true, none, []⟩, ⟨some "vol-2", none, none, []⟩]
  describeNetworkInterfaces := .ok [⟨some "eni-1", []⟩]
  describeInstances := .ok [[⟨some "i-1", [⟨some "Name", some "web"⟩], [some (some "vol-2")],
    [some "eni-1"]⟩]]
  listFunctions := fun marker => match marker with
    | none => .ok ([sampleFunction "f"], some "next")
    | some _ => .ok ([sampleFunction "g"], none)
  region := "eu"
  accountID := some "1"

def sampleAccount : ComputeAccount sampleCompute where
  volumes := [⟨some "vol-1", some true, none, []⟩, ⟨some "vol-2", none, none, []⟩]
  ifcs := [⟨some "eni-1", []⟩]
  reservations := [[⟨some "i-1", [⟨some "Name", some "web"⟩], [some (some "vol-2")],
    [some "eni-1"]⟩]]
  pages := [[sampleFunction "f"], [sampleFunction "g"]]
  volumes_eq := rfl
  ifcs_eq := rfl
  reservations_eq := rfl
  pages_eq := .more rfl (.last rfl)
  volumeIds_nodup := by decide
  ifcIds_nodup := by decide
  instanceIds_nodup := by decide
  arns_nodup := by decide
  arns_foreign := by
    intro f hf
    simp only [List.flatten_cons, List.flatten_nil, List.mem_append, List.mem_singleton,
      List.not_mem_nil, or_false] at hf
    obtain rfl | rfl := hf
    · decide
    · decide
  attached := by simp
  plugged := by simp

theorem sample_resources_stored : sampleCompute.list 2 = some (.ok sampleAccount.resources) :=
  (compute_resources_stored sampleAccount 2 (by decide) (.empty _)).1

end Sample
end Clouditor
