import Clouditor.ScopedRequests

/-! The resources that the discoverers for AWS S3 and for Kubernetes compute find, and what is
left of them in the resource store after `StartDiscovery`. -/
namespace Clouditor
set_option autoImplicit false

/-- The kinds of volume sources that the discoverer tells apart, and any other. -/
inductive VolumeSource where
  | awsElasticBlockStore
  | azureDisk
  | cinder
  | flexVolume
  | cephFS
  | glusterfs
  | gcePersistentDisk
  | rbd
  | storageOS
  | fc
  | portworxVolume
  | iscsi
  | flocker
  | azureFile
  | emptyDir
  | nfs
  | hostPath
  | secret
  | other (kind : String)
  deriving DecidableEq

/-- A volume of a pod, with the sources that are set. -/
structure Volume where
  name : String
  sources : List VolumeSource
  deriving DecidableEq

structure Pod where
  namespaceName : String
  name : String
  creationTimestamp : Time
  labels : List (String × String)
  volumes : List Volume
  deriving DecidableEq

structure S3Bucket where
  name : String
  creationDate : Time
  deriving DecidableEq

/-- The answer to `GetBucketEncryption`. -/
inductive EncryptionAnswer where
  | notFound
  | failed (e : Err)
  | rule (algorithm kmsMasterKeyId : String)
  deriving DecidableEq

/-- The `Action` of a statement after JSON decoding, where an array is not of type `[]string`. -/
inductive PolicyAction where
  | text (action : String)
  | other
  deriving DecidableEq

structure PolicyStatement where
  action : PolicyAction
  effect : String
  awsSecureTransport : Bool
  deriving DecidableEq

/-- The answer to `GetBucketPolicy`. -/
inductive PolicyAnswer where
  | noSuchBucketPolicy
  | failed (e : Err)
  | unreadable (e : Err)
  | policy (statements : List PolicyStatement)
  deriving DecidableEq

inductive AtRestEncryption where
  | managedKey (algorithm : String)
  | customerKey (keyUrl : String)
  deriving DecidableEq

/-- TLS 1.2 is always enabled; a policy may enforce it. -/
structure TransportEncryption where
  enforced : Bool
  deriving DecidableEq

/-- The JSON text of a `Raw` field stands for what it is made from. -/
inductive RawData where
  | pod (pod : Pod)
  | podVolume (pod : Pod) (volume : Volume)
  | bucket (bucket : S3Bucket) (region : String) (encryption : EncryptionAnswer)
      (policy : PolicyAnswer)
  deriving DecidableEq

/-- The ontology resources the two discoverers make. -/
inductive IsResource where
  | objectStorage (id name : String) (creationTime : Time) (region : String)
      (atRestEncryption : Option AtRestEncryption) (raw : RawData)
  | objectStorageService (id name : String) (creationTime : Time) (region : String)
      (transportEncryption : TransportEncryption) (url : String) (raw : RawData)
  | container (id name : String) (creationTime : Time) (labels : List (String × String))
      (raw : RawData) (networkInterfaceIds : List String)
  | blockStorage (id name : String) (raw : RawData)
  | fileStorage (id name : String) (raw : RawData)
  deriving DecidableEq

section Discoverers

def IsResource.getId : IsResource → String
  | .objectStorage id .. => id
  | .objectStorageService id .. => id
  | .container id .. => id
  | .blockStorage id .. => id
  | .fileStorage id .. => id

def IsResource.getRaw : IsResource → RawData
  | .objectStorage _ _ _ _ _ raw => raw
  | .objectStorageService _ _ _ _ _ _ raw => raw
  | .container _ _ _ _ raw _ => raw
  | .blockStorage _ _ raw => raw
  | .fileStorage _ _ raw => raw

def IsResource.resourceTypes : IsResource → List String
  | .objectStorage .. => ["ObjectStorage", "Storage", "CloudResource", "Resource"]
  | .objectStorageService .. => ["ObjectStorageService", "StorageService", "NetworkService",
      "Networking", "CloudResource", "Resource"]
  | .container .. => ["Container", "Compute", "CloudResource", "Resource"]
  | .blockStorage .. => ["BlockStorage", "Storage", "CloudResource", "Resource"]
  | .fileStorage .. => ["FileStorage", "Storage", "CloudResource", "Resource"]

/-- The storage API of an account, by bucket name, and the settings of the client. -/
structure S3API where
  listBuckets : Except Err (List S3Bucket)
  getBucketLocation : String → Except Err String
  getBucketEncryption : String → EncryptionAnswer
  getBucketPolicy : String → PolicyAnswer
  region : String
  accountID : String

def bucketArn (name : String) : String := "arn:aws:s3:::" ++ name

/-- The buckets in the region of the client, up to the first error. -/
def S3API.bucketsInRegion (api : S3API) : List S3Bucket → Except Err (List S3Bucket)
  | [] => .ok []
  | b :: bs =>
    match api.getBucketLocation b.name with
    | .error e => .error e
    | .ok region =>
      (api.bucketsInRegion bs).map (fun rest => if region = api.region then b :: rest else rest)

def S3API.getBuckets (api : S3API) : Except Err (List S3Bucket) :=
  match api.listBuckets with
  | .error e => .error e
  | .ok buckets => api.bucketsInRegion buckets

def S3API.getEncryptionAtRest (api : S3API) (b : S3Bucket) :
    Except Err (Option AtRestEncryption) :=
  match api.getBucketEncryption b.name with
  | .notFound => .ok none
  | .failed e => .error e
  | .rule algorithm key =>
    if algorithm = "AES256" then .ok (some (.managedKey algorithm))
    else .ok (some (.customerKey
      ("arn:aws:kms:" ++ api.region ++ ":" ++ api.accountID ++ ":key/" ++ key)))

def PolicyStatement.deniesHTTP (s : PolicyStatement) : Bool :=
  s.action = .text "s3:*" && s.effect = "Deny" && !s.awsSecureTransport

def S3API.getTransportEncryption (api : S3API) (b : S3Bucket) : Except Err TransportEncryption :=
  match api.getBucketPolicy b.name with
  | .noSuchBucketPolicy => .ok ⟨false⟩
  | .failed e => .error e
  | .unreadable e =>
    .error ⟨none, "error occurred while unmarshalling the bucket policy: " ++ e.error⟩
  | .policy statements => .ok ⟨statements.any PolicyStatement.deniesHTTP⟩

def S3API.bucketRaw (api : S3API) (b : S3Bucket) : RawData :=
  .bucket b api.region (api.getBucketEncryption b.name) (api.getBucketPolicy b.name)

/-- Both resources of a bucket get its ARN for an id. -/
def S3API.bucketResources (api : S3API) (b : S3Bucket) : Except Err (List IsResource) :=
  match api.getEncryptionAtRest b with
  | .error e => .error e
  | .ok atRest =>
    match api.getTransportEncryption b with
    | .error e => .error e
    | .ok transport => .ok
      [.objectStorage (bucketArn b.name) b.name b.creationDate api.region atRest
          (api.bucketRaw b),
        .objectStorageService (bucketArn b.name) b.name b.creationDate api.region transport
          ("https://" ++ b.name ++ ".s3." ++ api.region ++ ".amazonaws.com") (api.bucketRaw b)]

/-- `List` of the S3 discoverer. -/
def S3API.list (api : S3API) : Except Err (List IsResource) :=
  match api.getBuckets with
  | .error e => .error e
  | .ok buckets => (buckets.mapM api.bucketResources).map List.flatten

def getContainerResourceID (pod : Pod) : String :=
  "/namespaces/" ++ pod.namespaceName ++ "/containers/" ++ pod.name

def handlePod (pod : Pod) : IsResource :=
  .container (getContainerResourceID pod) pod.name pod.creationTimestamp pod.labels (.pod pod)
    [pod.namespaceName]

def Volume.isBlock (v : Volume) : Bool :=
  v.sources.any (fun source => source matches .awsElasticBlockStore | .azureDisk | .cinder |
    .flexVolume | .cephFS | .glusterfs | .gcePersistentDisk | .rbd | .storageOS | .fc |
    .portworxVolume | .iscsi | .flocker)

def Volume.isFile (v : Volume) : Bool :=
  v.sources.any (fun source => source matches .azureFile | .emptyDir | .nfs | .hostPath | .secret)

/-- The resource of a volume, if it is of a kind that is supported. -/
def volumeResource (pod : Pod) (v : Volume) : Option IsResource :=
  if v.isBlock then some (.blockStorage v.name v.name (.podVolume pod v))
  else if v.isFile then some (.fileStorage v.name v.name (.podVolume pod v))
  else none

/-- One turn of the loop over the volumes: the list so far and the variable `v`, which keeps
the last resource when a volume is not supported. -/
def handleVolume (pod : Pod) (acc : List IsResource × Option IsResource) (vol : Volume) :
    List IsResource × Option IsResource :=
  let v := (volumeResource pod vol).or acc.2
  (acc.1 ++ v.toList, v)

def handlePodVolume (pod : Pod) : List IsResource :=
  (pod.volumes.foldl (handleVolume pod) ([], none)).1

def podResources (pods : List Pod) : List IsResource :=
  pods.flatMap (fun pod => handlePod pod :: handlePodVolume pod)

/-- `List` of the compute discoverer. -/
def listCompute (pods : Except Err (List Pod)) : Except Err (List IsResource) :=
  match pods with
  | .error e => .error ⟨none, "could not list ingresses: " ++ e.error⟩
  | .ok pods => .ok (podResources pods)

end Discoverers

section Storing

/-- A row of the resource store, with the message that is packed into its properties. -/
structure StoredResource where
  id : String
  resourceType : String
  cloudServiceId : String
  properties : IsResource
  deriving DecidableEq

def toDiscoveryResource (r : IsResource) (csID : String) : StoredResource :=
  ⟨r.getId, String.intercalate "," r.resourceTypes, csID, r⟩

/-- The loop of `StartDiscovery` over what a discoverer has listed. -/
def startDiscovery (rows : Keyed.Rows StoredResource.id) (csID : String) :
    Except Err (List IsResource) → Keyed.Rows StoredResource.id
  | .error _ => rows
  | .ok list => rows.saveAll (list.map (fun r => toDiscoveryResource r csID))

/-- Each resource of a list has its row, with its own type and properties. -/
def HoldsEach (csID : String) (list : List IsResource) (rows : Keyed.Rows StoredResource.id) :
    Prop :=
  ∀ r ∈ list, rows.find r.getId = some (toDiscoveryResource r csID)

/-- The row as the database keeps it, given how messages are packed. -/
def StoredResource.packed (pack : IsResource → String) (r : StoredResource) : Resource where
  id := r.id
  resourceType := r.resourceType
  properties := some (pack r.properties)
  cloudServiceId := r.cloudServiceId

/-- What the request handler of the whole database does with the same resources. -/
theorem startDiscovery_packed (pack : IsResource → String) (db : Database) (a : Access)
    (csID : String) (list : List IsResource) (rows : Keyed.Rows StoredResource.id)
    (hrows : ∀ id, db.resources.find id = (rows.find id).map (StoredResource.packed pack))
    (db' : Database) (h : db.startDiscovery a csID (.ok ()) (list.map (fun r =>
      ⟨r.getId, String.intercalate "," r.resourceTypes, some (pack r)⟩)) = .ok ((), db'))
    (id : String) : db'.resources.find id =
      ((startDiscovery rows csID (.ok list)).find id).map (StoredResource.packed pack) := by
  obtain ⟨_,h⟩ := checked_ok h
  cases h
  simp only [startDiscovery, Keyed.find_saveAll, hrows, List.map_map, ← List.map_reverse,
    List.find?_map, Option.map_or, Option.map_map]
  rfl

theorem holdsEach_startDiscovery_iff (rows : Keyed.Rows StoredResource.id) (csID : String)
    (list : List IsResource) :
    HoldsEach csID list (startDiscovery rows csID (.ok list)) ↔
      ∀ r ∈ list, ∀ r' ∈ list, r.getId = r'.getId → r = r' := by
  have hkeeps := Keyed.saveAll_keeps_iff rows (list.map (fun r => toDiscoveryResource r csID))
  simp only [List.forall_mem_map] at hkeeps
  refine hkeeps.trans (forall₂_congr fun r _ => forall₂_congr fun r' _ => ?_)
  apply imp_congr_right
  intro _
  constructor
  · intro heq
    exact congrArg StoredResource.properties heq
  · intro heq
    rw [heq]

end Storing

section Kept

theorem mem_bucketsInRegion (api : S3API) (bs found : List S3Bucket)
    (h : api.bucketsInRegion bs = .ok found) (b : S3Bucket) :
    b ∈ found ↔ b ∈ bs ∧ api.getBucketLocation b.name = .ok api.region := by
  induction bs generalizing found with
  | nil =>
    cases h
    simp
  | cons b' bs ih =>
    rw [S3API.bucketsInRegion] at h
    cases hloc : api.getBucketLocation b'.name with
    | error e => simp [hloc] at h
    | ok region =>
      cases hrest : api.bucketsInRegion bs with
      | error e => simp [hloc, hrest, Except.map] at h
      | ok rest =>
        simp only [hloc, hrest, Except.map, Except.ok.injEq] at h
        rw [← h, List.mem_cons]
        by_cases hregion : region = api.region
        · rw [if_pos hregion, List.mem_cons, ih rest hrest]
          constructor
          · rintro (rfl | ⟨hmem,hb⟩)
            · exact ⟨.inl rfl, by rw [hloc, hregion]⟩
            · exact ⟨.inr hmem, hb⟩
          · rintro ⟨rfl | hmem,hb⟩
            · exact .inl rfl
            · exact .inr ⟨hmem, hb⟩
        · rw [if_neg hregion, ih rest hrest]
          constructor
          · rintro ⟨hmem,hb⟩
            exact ⟨.inr hmem, hb⟩
          · rintro ⟨rfl | hmem,hb⟩
            · rw [hloc] at hb
              exact absurd (Except.ok.inj hb) hregion
            · exact ⟨hmem, hb⟩

/-- A bucket has two resources, which share an id. -/
theorem bucketResources_collide (api : S3API) (b : S3Bucket) (rs : List IsResource)
    (h : api.bucketResources b = .ok rs) :
    ∃ r ∈ rs, ∃ r' ∈ rs, r.getId = r'.getId ∧ r ≠ r' := by
  unfold S3API.bucketResources at h
  split at h
  · cases h
  · split at h
    · cases h
    · cases h
      refine ⟨_, List.mem_cons_self, _, List.mem_cons_of_mem _ List.mem_cons_self, rfl, ?_⟩
      intro heq
      cases heq

theorem s3_holdsEach_iff (api : S3API) (buckets : List S3Bucket) (list : List IsResource)
    (hbuckets : api.listBuckets = .ok buckets) (hlist : api.list = .ok list)
    (rows : Keyed.Rows StoredResource.id) (csID : String) :
    HoldsEach csID list (startDiscovery rows csID (.ok list)) ↔
      ∀ b ∈ buckets, api.getBucketLocation b.name ≠ .ok api.region := by
  have hget : api.getBuckets = api.bucketsInRegion buckets := by
    simp only [S3API.getBuckets, hbuckets]
  unfold S3API.list at hlist
  rw [hget] at hlist
  rw [holdsEach_startDiscovery_iff]
  cases hfound : api.bucketsInRegion buckets with
  | error e => simp [hfound] at hlist
  | ok found =>
    have hmem := mem_bucketsInRegion api buckets found hfound
    simp only [hfound] at hlist
    cases hres : found.mapM api.bucketResources with
    | error e => simp [hres, Except.map] at hlist
    | ok groups =>
      simp only [hres, Except.map, Except.ok.injEq] at hlist
      cases found with
      | nil =>
        -- no bucket, no resource
        cases hres
        subst hlist
        refine iff_of_true (by simp) (fun b hb hloc => ?_)
        exact List.not_mem_nil ((hmem b).mpr ⟨hb, hloc⟩)
      | cons b found =>
        obtain ⟨rs,rest,hb,_,rfl⟩ := mapM_cons_ok hres
        obtain ⟨r,hr,r',hr',hid,hne⟩ := bucketResources_collide api b rs hb
        have hin (x : IsResource) (hx : x ∈ rs) : x ∈ list := by
          rw [← hlist]
          exact List.mem_flatten.mpr ⟨rs, List.mem_cons_self, hx⟩
        refine iff_of_false (fun h => hne (h r (hin r hr) r' (hin r' hr') hid)) (fun h => ?_)
        obtain ⟨hbucket,hloc⟩ := (hmem b).mp List.mem_cons_self
        exact h b hbucket hloc

/-- The variable that outlives a turn repeats resources, and adds none. -/
theorem mem_handlePodVolume (pod : Pod) (r : IsResource) :
    r ∈ handlePodVolume pod ↔ ∃ v ∈ pod.volumes, volumeResource pod v = some r := by
  have hloop (vols : List Volume) (acc : List IsResource × Option IsResource)
      (hacc : ∀ x, acc.2 = some x → x ∈ acc.1) : r ∈ (vols.foldl (handleVolume pod) acc).1 ↔
        r ∈ acc.1 ∨ ∃ v ∈ vols, volumeResource pod v = some r := by
    induction vols generalizing acc with
    | nil => simp
    | cons v vols ih =>
      rw [List.foldl_cons, ih]
      · cases hv : volumeResource pod v with
        | none =>
          have hlast : r ∈ acc.2.toList → r ∈ acc.1 := by
            intro hr
            exact hacc r (by simpa using hr)
          simp only [handleVolume, hv, Option.none_or, List.mem_append, List.mem_cons,
            exists_eq_or_imp, reduceCtorEq, false_or]
          tauto
        | some x =>
          simp only [handleVolume, hv, Option.some_or, List.mem_append, List.mem_cons,
            exists_eq_or_imp, Option.toList_some, List.not_mem_nil, or_false, Option.some.injEq]
          rw [or_assoc, eq_comm]
      · intro x hx
        simp only [handleVolume] at hx ⊢
        rw [hx]
        simp
  have hstart := hloop pod.volumes ([], none) (fun x hx => by cases hx)
  simpa [handlePodVolume] using hstart

def Volume.supported (v : Volume) : Bool := v.isBlock || v.isFile

theorem volumeResource_isSome (pod : Pod) (v : Volume) :
    (∃ r, volumeResource pod v = some r) ↔ v.supported = true := by
  unfold volumeResource Volume.supported
  cases v.isBlock <;> cases v.isFile <;> simp

/-- The id of a volume is its name, and its raw data tells which volume of which pod it is. -/
theorem volumeResource_spec (pod : Pod) (v : Volume) (r : IsResource)
    (h : volumeResource pod v = some r) : r.getId = v.name ∧ r.getRaw = .podVolume pod v := by
  unfold volumeResource at h
  split at h
  · cases h
    exact ⟨rfl, rfl⟩
  · split at h <;> cases h
    exact ⟨rfl, rfl⟩

/-- The names in a cluster that keep its resources apart. -/
structure NamesApart (pods : List Pod) : Prop where
  containers : ∀ p ∈ pods, ∀ q ∈ pods, getContainerResourceID p = getContainerResourceID q → p = q
  volumes : ∀ p ∈ pods, ∀ v ∈ p.volumes, ∀ q ∈ pods, ∀ w ∈ q.volumes, v.supported = true →
    w.supported = true → v.name = w.name → p = q ∧ v = w
  mixed : ∀ p ∈ pods, ∀ q ∈ pods, ∀ w ∈ q.volumes, w.supported = true →
    getContainerResourceID p ≠ w.name

theorem mem_podResources (pods : List Pod) (r : IsResource) :
    r ∈ podResources pods ↔ (∃ p ∈ pods, r = handlePod p) ∨
      ∃ p ∈ pods, ∃ v ∈ p.volumes, volumeResource p v = some r := by
  simp only [podResources, List.mem_flatMap, List.mem_cons, mem_handlePodVolume]
  constructor
  · rintro ⟨p,hp,hr | hr⟩
    · exact .inl ⟨p, hp, hr⟩
    · exact .inr ⟨p, hp, hr⟩
  · rintro (⟨p,hp,hr⟩ | ⟨p,hp,hr⟩)
    · exact ⟨p, hp, .inl hr⟩
    · exact ⟨p, hp, .inr hr⟩

theorem compute_holdsEach_iff (pods : List Pod) (rows : Keyed.Rows StoredResource.id)
    (csID : String) :
    HoldsEach csID (podResources pods) (startDiscovery rows csID (listCompute (.ok pods))) ↔
      NamesApart pods := by
  rw [listCompute, holdsEach_startDiscovery_iff]
  constructor
  · intro h
    have hvol (p : Pod) (hp : p ∈ pods) (v : Volume) (hv : v ∈ p.volumes)
        (hs : v.supported = true) :
        ∃ r ∈ podResources pods, r.getId = v.name ∧ r.getRaw = .podVolume p v := by
      obtain ⟨r,hr⟩ := (volumeResource_isSome p v).mpr hs
      exact ⟨r, (mem_podResources pods r).mpr (.inr ⟨p, hp, v, hv, hr⟩),
        volumeResource_spec p v r hr⟩
    have hpod (p : Pod) (hp : p ∈ pods) : handlePod p ∈ podResources pods :=
      (mem_podResources pods _).mpr (.inl ⟨p, hp, rfl⟩)
    -- resources that are the same have the same raw data
    refine ⟨fun p hp q hq hid => ?_, fun p hp v hv q hq w hw hsv hsw hname => ?_,
      fun p hp q hq w hw hsw hname => ?_⟩
    · have hraw := congrArg IsResource.getRaw (h _ (hpod p hp) _ (hpod q hq) hid)
      exact RawData.pod.inj hraw
    · obtain ⟨r,hr,hid,hraw⟩ := hvol p hp v hv hsv
      obtain ⟨r',hr',hid',hraw'⟩ := hvol q hq w hw hsw
      have heq := h r hr r' hr' (by rw [hid, hid', hname])
      rw [← heq, hraw] at hraw'
      exact RawData.podVolume.inj hraw'
    · obtain ⟨r,hr,hid,hraw⟩ := hvol q hq w hw hsw
      have heq := h _ (hpod p hp) r hr (hname.trans hid.symm)
      rw [← heq] at hraw
      cases hraw
  · intro h r hr r' hr' hid
    have hsupported (p : Pod) (v : Volume) (r : IsResource) (hv : volumeResource p v = some r) :
        v.supported = true := (volumeResource_isSome p v).mp ⟨r, hv⟩
    rcases (mem_podResources pods r).mp hr with ⟨p,hp,rfl⟩ | ⟨p,hp,v,hv,hvr⟩
    · rcases (mem_podResources pods r').mp hr' with ⟨q,hq,rfl⟩ | ⟨q,hq,w,hw,hwr⟩
      · rw [h.containers p hp q hq hid]
      · rw [(volumeResource_spec q w r' hwr).1] at hid
        exact absurd hid (h.mixed p hp q hq w hw (hsupported q w r' hwr))
    · rw [(volumeResource_spec p v r hvr).1] at hid
      rcases (mem_podResources pods r').mp hr' with ⟨q,hq,rfl⟩ | ⟨q,hq,w,hw,hwr⟩
      · exact absurd hid.symm (h.mixed q hq p hp v hv (hsupported p v r hvr))
      · rw [(volumeResource_spec q w r' hwr).1] at hid
        obtain ⟨rfl,rfl⟩ := h.volumes p hp v hv q hq w hw (hsupported p v r hvr)
          (hsupported q w r' hwr) hid
        exact Option.some.inj (hvr.symm.trans hwr)

/-- The store keeps all that the S3 discoverer finds only if it finds no bucket in its region,
and all that the compute discoverer finds exactly if the names of the cluster are apart. -/
theorem discovered_resources_kept_iff (rows : Keyed.Rows StoredResource.id) (csID : String)
    (api : S3API) (buckets : List S3Bucket) (list : List IsResource)
    (hbuckets : api.listBuckets = .ok buckets) (hlist : api.list = .ok list) (pods : List Pod) :
    (HoldsEach csID list (startDiscovery rows csID api.list) ↔
      ∀ b ∈ buckets, api.getBucketLocation b.name ≠ .ok api.region) ∧
    (HoldsEach csID (podResources pods) (startDiscovery rows csID (listCompute (.ok pods))) ↔
      NamesApart pods) := by
  refine ⟨?_, compute_holdsEach_iff pods rows csID⟩
  rw [hlist]
  exact s3_holdsEach_iff api buckets list hbuckets hlist rows csID

/-- An account with one bucket. -/
def bucketAPI (region : String) : S3API where
  listBuckets := .ok [⟨"backups", 0⟩]
  getBucketLocation _ := .ok "eu-central-1"
  getBucketEncryption _ := .notFound
  getBucketPolicy _ := .noSuchBucketPolicy
  region := region
  accountID := "123456789012"

/-- A pod with one volume of an empty directory. -/
def cachePod (name : String) : Pod := ⟨"default", name, 0, [], [⟨"cache", [.emptyDir]⟩]⟩

theorem resources_kept_elsewhere :
    (bucketAPI "us-east-1").list = .ok [] ∧
    HoldsEach "11111111-1111-1111-1111-111111111111" []
      (startDiscovery (Keyed.Rows.empty _) "11111111-1111-1111-1111-111111111111"
        (bucketAPI "us-east-1").list) := by
  have hlist : (bucketAPI "us-east-1").list = .ok [] := by decide
  refine ⟨hlist, ?_⟩
  refine (discovered_resources_kept_iff (Keyed.Rows.empty _) _ (bucketAPI "us-east-1")
    [⟨"backups", 0⟩] [] rfl hlist []).1.mpr ?_
  intro b _ hloc
  exact absurd (Except.ok.inj hloc) (by decide)

/-- The object storage of a bucket is replaced by its service, and the volume of one pod by the
volume with the same name of another. -/
theorem resources_overwrite_each_other :
    (∃ list, (bucketAPI "eu-central-1").list = .ok list ∧
      ¬ HoldsEach "11111111-1111-1111-1111-111111111111" list
        (startDiscovery (Keyed.Rows.empty _) "11111111-1111-1111-1111-111111111111"
          (bucketAPI "eu-central-1").list)) ∧
    ¬ HoldsEach "11111111-1111-1111-1111-111111111111"
      (podResources [cachePod "web", cachePod "db"])
      (startDiscovery (Keyed.Rows.empty _) "11111111-1111-1111-1111-111111111111"
        (listCompute (.ok [cachePod "web", cachePod "db"]))) := by
  constructor
  · refine ⟨_, rfl, fun h => ?_⟩
    have hfirst := h _ List.mem_cons_self
    exact absurd hfirst (by decide)
  · intro h
    have hfirst := h (.fileStorage "cache" "cache"
      (.podVolume (cachePod "web") ⟨"cache", [.emptyDir]⟩)) (by decide)
    exact absurd hfirst (by decide)

end Kept
end Clouditor
