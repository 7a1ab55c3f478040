import Clouditor.DiscoveredResources
import Clouditor.PagedCalls

/-! The storage resources that the Kubernetes discoverer makes of the volumes of a pod, and the
load balancers it makes of ingresses. -/
namespace Clouditor
set_option autoImplicit false
open Paged

section PodVolumes

inductive StorageType where
  | block
  | file
  deriving DecidableEq

/-- The type of storage that a source stands for, for the kinds that are supported. -/
def VolumeSource.storageType : VolumeSource → Option StorageType
  | .awsElasticBlockStore | .azureDisk | .cinder | .flexVolume | .cephFS | .glusterfs
  | .gcePersistentDisk | .rbd | .storageOS | .fc | .portworxVolume | .iscsi | .flocker =>
    some .block
  | .azureFile | .emptyDir | .nfs | .hostPath | .secret => some .file
  | .other _ => none

def IsResource.storageType : IsResource → Option StorageType
  | .blockStorage .. => some .block
  | .fileStorage .. => some .file
  | _ => none

def IsResource.getName : IsResource → String
  | .objectStorage _ name .. => name
  | .objectStorageService _ name .. => name
  | .container _ name .. => name
  | .blockStorage _ name _ => name
  | .fileStorage _ name _ => name

def Volume.ofSupportedKind (v : Volume) : Bool :=
  v.sources.any (fun source => source.storageType.isSome)

/-- The resource is a storage for the volume: it has its name and the type of one of the kinds
that are set. -/
structure IsStorageOf (v : Volume) (r : IsResource) : Prop where
  name : r.getName = v.name
  kind : ∃ source ∈ v.sources, source.storageType.isSome ∧ r.storageType = source.storageType

theorem isBlock_iff (v : Volume) :
    v.isBlock = true ↔ ∃ source ∈ v.sources, source.storageType = some .block := by
  simp only [Volume.isBlock, List.any_eq_true]
  apply exists_congr
  intro source
  cases source <;> simp [VolumeSource.storageType]

theorem isFile_iff (v : Volume) :
    v.isFile = true ↔ ∃ source ∈ v.sources, source.storageType = some .file := by
  simp only [Volume.isFile, List.any_eq_true]
  apply exists_congr
  intro source
  cases source <;> simp [VolumeSource.storageType]

/-- Within its own turn a volume yields a storage for it, if it is of a supported kind. -/
theorem volumeResource_cases (pod : Pod) (v : Volume) :
    (v.ofSupportedKind = true ∧ ∃ r, volumeResource pod v = some r ∧ IsStorageOf v r) ∨
      (v.ofSupportedKind = false ∧ volumeResource pod v = none) := by
  have hkinds : v.ofSupportedKind = true ↔ v.isBlock = true ∨ v.isFile = true := by
    rw [isBlock_iff, isFile_iff, ← exists_or]
    simp only [Volume.ofSupportedKind, List.any_eq_true, ← and_or_left]
    apply exists_congr
    intro source
    apply and_congr_right
    intro _
    cases source.storageType with
    | none => simp
    | some t => cases t <;> simp
  by_cases hblock : v.isBlock = true
  · obtain ⟨source, hmem, hsource⟩ := (isBlock_iff v).mp hblock
    have hres : volumeResource pod v = some (.blockStorage v.name v.name (.podVolume pod v)) := by
      rw [volumeResource, if_pos hblock]
    exact .inl ⟨hkinds.mpr (.inl hblock), _, hres, rfl, source, hmem, by simp [hsource],
      hsource.symm⟩
  · by_cases hfile : v.isFile = true
    · obtain ⟨source, hmem, hsource⟩ := (isFile_iff v).mp hfile
      have hres : volumeResource pod v =
          some (.fileStorage v.name v.name (.podVolume pod v)) := by
        rw [volumeResource, if_neg hblock, if_pos hfile]
      exact .inl ⟨hkinds.mpr (.inr hfile), _, hres, rfl, source, hmem, by simp [hsource],
        hsource.symm⟩
    · have hnone : ¬ v.ofSupportedKind = true := by
        rw [hkinds]
        exact not_or.mpr ⟨hblock, hfile⟩
      refine .inr ⟨Bool.not_eq_true _ ▸ hnone, ?_⟩
      rw [volumeResource, if_neg hblock, if_neg hfile]

/-- What the loop appends, given the variable `v` that a turn hands to the next one. -/
def appendedVolumes (pod : Pod) : Option IsResource → List Volume → List IsResource
  | _, [] => []
  | last, vol :: vols =>
    let v := (volumeResource pod vol).or last
    v.toList ++ appendedVolumes pod v vols

theorem foldl_handleVolume (pod : Pod) (vols : List Volume)
    (acc : List IsResource × Option IsResource) :
    (vols.foldl (handleVolume pod) acc).1 = acc.1 ++ appendedVolumes pod acc.2 vols := by
  induction vols generalizing acc with
  | nil => simp [appendedVolumes]
  | cons vol vols ih =>
    rw [List.foldl_cons, ih]
    simp only [handleVolume, appendedVolumes, List.append_assoc]

/-- Once the variable is set, every turn appends a resource. -/
theorem length_appendedVolumes (pod : Pod) (vols : List Volume) (r : IsResource) :
    (appendedVolumes pod (some r) vols).length = vols.length := by
  induction vols generalizing r with
  | nil => rfl
  | cons vol vols ih =>
    cases h : volumeResource pod vol with
    | none => simp [appendedVolumes, h, ih]
    | some r' => simp [appendedVolumes, h, ih]

theorem appended_after_supported_iff (pod : Pod) (vols : List Volume) (r : IsResource) :
    List.Forall₂ IsStorageOf (vols.filter Volume.ofSupportedKind)
        (appendedVolumes pod (some r) vols) ↔ ∀ v ∈ vols, v.ofSupportedKind = true := by
  constructor
  · intro h
    have hlen := h.length_eq
    rw [length_appendedVolumes] at hlen
    exact List.length_filter_eq_length_iff.mp hlen
  · intro hall
    induction vols generalizing r with
    | nil => exact .nil
    | cons vol vols ih =>
      have hvol := hall vol List.mem_cons_self
      obtain ⟨_, r', hr', hstorage⟩ | ⟨hnone, _⟩ := volumeResource_cases pod vol
      · rw [List.filter_cons_of_pos hvol]
        simp only [appendedVolumes, hr', Option.some_or, Option.toList_some,
          List.singleton_append]
        exact .cons hstorage (ih r' (fun v hv => hall v (List.mem_cons_of_mem _ hv)))
      · simp [hvol] at hnone

theorem appended_from_start_iff (pod : Pod) (vols : List Volume) :
    List.Forall₂ IsStorageOf (vols.filter Volume.ofSupportedKind) (appendedVolumes pod none vols)
      ↔ vols.Pairwise (fun v w => v.ofSupportedKind = true → w.ofSupportedKind = true) := by
  induction vols with
  | nil => simp [appendedVolumes]
  | cons vol vols ih =>
    rw [List.pairwise_cons]
    obtain ⟨hvol, r, hr, hstorage⟩ | ⟨hvol, hnone⟩ := volumeResource_cases pod vol
    · rw [List.filter_cons_of_pos hvol]
      simp only [appendedVolumes, hr, Option.some_or, Option.toList_some, List.singleton_append,
        List.forall₂_cons]
      rw [appended_after_supported_iff]
      constructor
      · intro h
        refine ⟨fun w hw _ => h.2 w hw, ?_⟩
        exact List.pairwise_of_forall_mem_list (fun v _ w hw _ => h.2 w hw)
      · intro h
        exact ⟨hstorage, fun w hw => h.1 w hw hvol⟩
    · -- Before the first supported volume the variable is still nil and nothing is appended.
      rw [List.filter_cons_of_neg (by simp [hvol])]
      simp only [appendedVolumes, hnone, Option.none_or, Option.toList_none, List.nil_append]
      rw [ih]
      simp [hvol]

/-- The loop yields one storage per volume of a supported kind, in order and for no other
volume, exactly when no volume of another kind comes after a supported one. -/
theorem handlePodVolume_exact_iff (pod : Pod) :
    List.Forall₂ IsStorageOf (pod.volumes.filter Volume.ofSupportedKind) (handlePodVolume pod) ↔
      pod.volumes.Pairwise (fun v w => v.ofSupportedKind = true → w.ofSupportedKind = true) := by
  rw [handlePodVolume, foldl_handleVolume]
  exact appended_from_start_iff pod pod.volumes

/-- A pod with an empty directory, and a config map after it. -/
def mixedPod : Pod :=
  ⟨"default", "web", 0, [], [⟨"cache", [.emptyDir]⟩, ⟨"settings", [.other "ConfigMap"]⟩]⟩

/-- The config map, which is not supported, repeats the storage of the directory. -/
theorem config_map_repeats_storage :
    (handlePodVolume mixedPod).map IsResource.getName = ["cache", "cache"] ∧
      ¬ List.Forall₂ IsStorageOf (mixedPod.volumes.filter Volume.ofSupportedKind)
        (handlePodVolume mixedPod) := by
  refine ⟨by decide, fun h => ?_⟩
  have hlen := h.length_eq
  revert hlen
  decide

end PodVolumes

section Ingresses

/-- A TLS entry of an ingress. Without hosts it stands for all of them. -/
structure IngressTLS where
  hosts : List String
  secretName : String
  deriving DecidableEq

/-- A rule of an ingress, with the paths of its HTTP section if it has one. -/
structure IngressRule where
  host : String
  http : Option (List String)
  deriving DecidableEq

structure Ingress where
  namespaceName : String
  name : String
  creationTimestamp : Time
  labels : List (String × String)
  tls : Option (List IngressTLS)
  rules : List IngressRule
  deriving DecidableEq

structure EndpointEncryption where
  enforced : Bool
  enabled : Bool
  deriving DecidableEq

structure HttpEndpoint where
  url : String
  transportEncryption : Option EndpointEncryption
  deriving DecidableEq

/-- The text of the `Raw` field stands for the ingress it is made from. -/
structure LoadBalancer where
  id : String
  name : String
  creationTime : Time
  labels : List (String × String)
  raw : Ingress
  ports : List ℕ
  ips : List String
  httpEndpoints : List HttpEndpoint
  deriving DecidableEq

def getLoadBalancerResourceID (ingress : Ingress) : String :=
  "/namespaces/" ++ ingress.namespaceName ++ "/ingresses/" ++ ingress.name

/-- The endpoint of a path, which depends on whether the ingress has a TLS section at all. -/
def pathEndpoint (ingress : Ingress) (rule : IngressRule) (path : String) : HttpEndpoint :=
  let url := rule.host ++ "/" ++ path
  match ingress.tls with
  | none => ⟨"http://" ++ url, none⟩
  | some _ => ⟨"https://" ++ url, some ⟨true, true⟩⟩

/-- One turn of the loop over the rules. The HTTP section is read without a check. -/
def handleRule (ingress : Ingress) (lb : LoadBalancer) (rule : IngressRule) :
    Outcome Err LoadBalancer := do
  let lb := { lb with ips := lb.ips ++ [rule.host] }
  let paths ← deref rule.http
  pure (paths.foldl (fun lb path =>
    { lb with httpEndpoints := lb.httpEndpoints ++ [pathEndpoint ingress rule path] }) lb)

def handleIngress (ingress : Ingress) : Outcome Err LoadBalancer :=
  ingress.rules.foldlM (handleRule ingress)
    ⟨getLoadBalancerResourceID ingress, ingress.name, ingress.creationTimestamp, ingress.labels,
      ingress, [80, 443], [], []⟩

/-- Some TLS entry lists the host or no host at all. -/
def Ingress.covers (ingress : Ingress) (host : String) : Bool :=
  (ingress.tls.getD []).any (fun entry => entry.hosts.contains host || entry.hosts.isEmpty)

/-- The paths of an ingress with their rules, in order. -/
def Ingress.paths (ingress : Ingress) : List (IngressRule × String) :=
  ingress.rules.flatMap (fun rule => (rule.http.getD []).map (rule, ·))

/-- What an endpoint has to say about its path. -/
def coveredEndpoint (ingress : Ingress) (rule : IngressRule) (path : String) : HttpEndpoint :=
  let url := rule.host ++ "/" ++ path
  if ingress.covers rule.host then ⟨"https://" ++ url, some ⟨true, true⟩⟩
  else ⟨"http://" ++ url, none⟩

theorem foldl_httpEndpoints (ingress : Ingress) (rule : IngressRule) (paths : List String)
    (lb : LoadBalancer) :
    paths.foldl (fun lb path =>
        { lb with httpEndpoints := lb.httpEndpoints ++ [pathEndpoint ingress rule path] }) lb =
      { lb with httpEndpoints := lb.httpEndpoints ++ paths.map (pathEndpoint ingress rule) } := by
  induction paths generalizing lb with
  | nil => simp
  | cons path paths ih => simp [ih]

/-- The loop goes through when every rule has an HTTP section, and then appends an endpoint for
each path. -/
theorem foldlM_handleRule_eq_ok_iff (ingress : Ingress) (rules : List IngressRule)
    (lb lb' : LoadBalancer) :
    rules.foldlM (handleRule ingress) lb = .ok lb' ↔
      (∀ rule ∈ rules, rule.http.isSome) ∧
        lb' = { lb with
          ips := lb.ips ++ rules.map IngressRule.host
          httpEndpoints := lb.httpEndpoints ++ rules.flatMap (fun rule =>
            (rule.http.getD []).map (pathEndpoint ingress rule)) } := by
  induction rules generalizing lb with
  | nil =>
    rw [List.foldlM_nil, pure_eq_ok_iff]
    simpa using eq_comm
  | cons rule rules ih =>
    rw [List.foldlM_cons, bind_eq_ok_iff]
    cases hhttp : rule.http with
    | none => simp [handleRule, hhttp, deref, bind, Except.bind]
    | some paths =>
      have hrule : handleRule ingress lb rule = .ok { lb with
          ips := lb.ips ++ [rule.host]
          httpEndpoints := lb.httpEndpoints ++ paths.map (pathEndpoint ingress rule) } := by
        rw [handleRule, hhttp]
        exact congrArg Except.ok (foldl_httpEndpoints ingress rule paths _)
      simp [hrule, ih, hhttp]

theorem handleIngress_eq_ok_iff (ingress : Ingress) (lb : LoadBalancer) :
    handleIngress ingress = .ok lb ↔ (∀ rule ∈ ingress.rules, rule.http.isSome) ∧
      lb = ⟨getLoadBalancerResourceID ingress, ingress.name, ingress.creationTimestamp,
        ingress.labels, ingress, [80, 443], ingress.rules.map IngressRule.host,
        ingress.paths.map (fun p => pathEndpoint ingress p.1 p.2)⟩ := by
  rw [handleIngress, foldlM_handleRule_eq_ok_iff]
  simp only [List.nil_append, Ingress.paths, List.map_flatMap, List.map_map, Function.comp_def]

theorem pathEndpoint_eq_covered_iff (ingress : Ingress) (rule : IngressRule) (path : String) :
    pathEndpoint ingress rule path = coveredEndpoint ingress rule path ↔
      (ingress.tls.isSome = true ↔ ingress.covers rule.host = true) := by
  unfold pathEndpoint coveredEndpoint
  cases ingress.tls with
  | none => cases ingress.covers rule.host <;> simp
  | some entries => cases ingress.covers rule.host <;> simp

/-- An ingress yields the endpoints that its TLS entries call for, and no fault, exactly when
every rule has an HTTP section and, for the rules with paths, having a TLS section and covering
the host is the same. -/
theorem handleIngress_covered_iff (ingress : Ingress) :
    (∃ lb, handleIngress ingress = .ok lb ∧
        lb.httpEndpoints = ingress.paths.map (fun p => coveredEndpoint ingress p.1 p.2)) ↔
      (∀ rule ∈ ingress.rules, rule.http.isSome) ∧
        ∀ rule ∈ ingress.rules, rule.http ≠ some [] →
          (ingress.tls.isSome = true ↔ ingress.covers rule.host = true) := by
  have hpaths (hhttp : ∀ rule ∈ ingress.rules, rule.http.isSome) :
      ingress.paths.map (fun p => pathEndpoint ingress p.1 p.2) =
          ingress.paths.map (fun p => coveredEndpoint ingress p.1 p.2) ↔
        ∀ rule ∈ ingress.rules, rule.http ≠ some [] →
          (ingress.tls.isSome = true ↔ ingress.covers rule.host = true) := by
    rw [List.map_inj_left]
    simp only [pathEndpoint_eq_covered_iff, Ingress.paths, List.mem_flatMap, List.mem_map]
    constructor
    · intro h rule hrule hne
      obtain ⟨paths, hsome⟩ := Option.isSome_iff_exists.mp (hhttp rule hrule)
      obtain ⟨path, hpath⟩ := List.exists_mem_of_ne_nil paths (by simpa [hsome] using hne)
      exact h (rule, path) ⟨rule, hrule, path, by simpa [hsome] using hpath, rfl⟩
    · intro h p ⟨rule, hrule, path, hpath, hp⟩
      subst hp
      apply h rule hrule
      intro hnil
      simp [hnil] at hpath
  constructor
  · intro ⟨lb, hlb, hends⟩
    obtain ⟨hhttp, hlb⟩ := (handleIngress_eq_ok_iff ingress lb).mp hlb
    subst hlb
    exact ⟨hhttp, (hpaths hhttp).mp hends⟩
  · intro ⟨hhttp, hcovers⟩
    exact ⟨_, (handleIngress_eq_ok_iff ingress _).mpr ⟨hhttp, rfl⟩, (hpaths hhttp).mpr hcovers⟩

/-- TLS for one of two hosts. -/
def shopIngress : Ingress :=
  ⟨"default", "shop", 0, [], some [⟨["shop.example"], "shop-tls"⟩],
    [⟨"shop.example", some ["cart"]⟩, ⟨"status.example", some ["up"]⟩]⟩

/-- A rule for a host without an HTTP section. -/
def bareIngress : Ingress := ⟨"default", "bare", 0, [], none, [⟨"bare.example", none⟩]⟩

/-- The host without TLS is reported as https as well, and the rule without an HTTP section ends
the process. -/
theorem uncovered_host_reported_https :
    ((handleIngress shopIngress).toOption.map (fun lb => lb.httpEndpoints.map HttpEndpoint.url)
        = some ["https://shop.example/cart", "https://status.example/up"] ∧
      ¬ ∃ lb, handleIngress shopIngress = .ok lb ∧ lb.httpEndpoints =
        shopIngress.paths.map (fun p => coveredEndpoint shopIngress p.1 p.2)) ∧
    handleIngress bareIngress = .error .fault := by
  refine ⟨⟨by decide, fun ⟨lb, hlb, hends⟩ => ?_⟩, by decide⟩
  obtain ⟨_, hlb⟩ := (handleIngress_eq_ok_iff shopIngress lb).mp hlb
  subst hlb
  revert hends
  decide

end Ingresses
end Clouditor
