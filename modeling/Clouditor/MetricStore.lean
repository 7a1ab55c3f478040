import Clouditor.AssessmentConfiguration
import Clouditor.KeyedRows
import Clouditor.Pagination
import Mathlib.Data.List.Nodup

/-! The metrics of the orchestrator: the tables with their definitions, implementations
and configurations, the requests that change them and the events these emit. -/
namespace Clouditor
set_option autoImplicit false

inductive MetricScale where
  | unspecified
  | nominal
  | ordinal
  | metric
  deriving DecidableEq

inductive MetricRange where
  | allowedValues (values : List String)
  | order (values : List String)
  | minMax (min max : ℤ)
  deriving DecidableEq

structure Metric where
  id : String
  name : String
  description : String
  category : String
  scale : MetricScale
  range : Option MetricRange
  interval : ℤ
  deprecatedSince : Option Time
  deriving DecidableEq

inductive Language where
  | unspecified
  | rego
  deriving DecidableEq

structure MetricImplementation where
  metricId : String
  lang : Language
  code : String
  updatedAt : Option Time
  deriving DecidableEq

/-- The primary key of a configuration. -/
def MetricConfiguration.pair (c : MetricConfiguration) : String × String :=
  (c.metricId, c.cloudServiceId)

/-- The tables of the metrics and the default configurations, which are loaded at the
start. -/
structure MetricStore where
  metrics : List Metric
  implementations : Keyed.Rows MetricImplementation.metricId
  configurations : Keyed.Rows MetricConfiguration.pair
  defaultMetricConfigurations : String → Option MetricConfiguration
  ids_nodup : (metrics.map Metric.id).Nodup

def errMetricNotFound : Err := ⟨some .notFound, "metric not found"⟩

/-! The field constraints that `api.Validate` checks. -/

def Metric.valid (m : Metric) : Bool := m.id ≠ "" && m.name ≠ "" && m.range.isSome

def MetricImplementation.valid (i : MetricImplementation) : Bool := i.metricId ≠ "" && i.code ≠ ""

def MetricConfiguration.valid (c : MetricConfiguration) : Bool :=
  ["", "<", ">", "<=", ">=", "==", "isIn", "allIn"].contains c.operator && c.metricId ≠ "" &&
    isUuid c.cloudServiceId

section Requests

/-- The answer to a request that changed the store, and the events it emitted. -/
structure Change (α : Type) where
  answer : α
  store : MetricStore
  events : List MetricChangeEvent

def MetricStore.getMetric (o : MetricStore) (id : String) : Option Metric :=
  o.metrics.find? (fun m => m.id = id)

theorem getMetric_none (o : MetricStore) (id : String) (h : (o.getMetric id).isSome = false) :
    id ∉ o.metrics.map Metric.id := by
  intro hmem
  obtain ⟨m,hm,rfl⟩ := List.mem_map.mp hmem
  rw [Option.isSome_eq_false_iff, Option.isNone_iff_eq_none, MetricStore.getMetric,
    List.find?_eq_none] at h
  exact h m hm (by simp)

def MetricStore.add (o : MetricStore) (m : Metric) (h : (o.getMetric m.id).isSome = false) :
    MetricStore where
  metrics := o.metrics ++ [m]
  implementations := o.implementations
  configurations := o.configurations
  defaultMetricConfigurations := o.defaultMetricConfigurations
  ids_nodup := by
    rw [List.map_append, List.map_singleton, List.nodup_append]
    refine ⟨o.ids_nodup, by simp, ?_⟩
    intro id hid id' hid' heq
    rw [List.mem_singleton] at hid'
    exact getMetric_none o m.id h (hid' ▸ heq ▸ hid)

/-- Rewrite the row of one metric. -/
def MetricStore.modify (o : MetricStore) (id : String) (f : Metric → Metric)
    (hf : ∀ m, (f m).id = m.id) : MetricStore where
  metrics := o.metrics.map (fun m => if m.id = id then f m else m)
  implementations := o.implementations
  configurations := o.configurations
  defaultMetricConfigurations := o.defaultMetricConfigurations
  ids_nodup := by
    have hids : (o.metrics.map (fun m => if m.id = id then f m else m)).map Metric.id =
        o.metrics.map Metric.id := by
      rw [List.map_map]
      apply List.map_congr_left
      intro m _
      simp only [Function.comp_apply]
      split
      · exact hf m
      · rfl
    rw [hids]
    exact o.ids_nodup

/-- The implementation that may come with a new metric is stored in its own table, where
GORM leaves an existing row alone. -/
def MetricStore.addImplementation (o : MetricStore) (id : String) :
    Option MetricImplementation → MetricStore
  | none => o
  | some impl =>
    if (o.implementations.find id).isSome then o
    else { o with implementations := o.implementations.save { impl with metricId := id } }

def MetricStore.createMetric (o : MetricStore) (m : Metric) (impl : Option MetricImplementation) :
    Except Err (Change Metric) :=
  if !(m.valid && impl.all MetricImplementation.valid) then .error errInvalidRequest
  else if h : (o.getMetric m.id).isSome = false then
    if m.deprecatedSince.isSome then .error ⟨some .failedPrecondition,
      "the metric shouldn't be set to deprecated at creation time"⟩
    else .ok ⟨m, (o.add m h).addImplementation m.id impl, [.metadataChanged m.id]⟩
  else .error ⟨some .alreadyExists, "metric already exists"⟩

/-- The fields of a metric that `UpdateMetric` takes over from the request. -/
def Metric.updated (m req : Metric) : Metric := { m with
  name := req.name
  description := req.description
  category := req.category
  range := req.range
  scale := req.scale
  deprecatedSince := req.deprecatedSince }

def MetricStore.updateMetric (o : MetricStore) (req : Metric) : Except Err (Change Metric) :=
  if !req.valid then .error errInvalidRequest
  else match o.getMetric req.id with
    | none => .error errMetricNotFound
    | some m => .ok ⟨m.updated req, o.modify req.id (fun m => m.updated req) (fun _ => rfl),
        [.metadataChanged req.id]⟩

def MetricStore.updateMetricImplementation (o : MetricStore) (now : Time)
    (req : MetricImplementation) : Except Err (Change MetricImplementation) :=
  if !req.valid then .error errInvalidRequest
  else match o.getMetric req.metricId with
    | none => .error errMetricNotFound
    | some _ =>
      let impl := { req with updatedAt := some now }
      .ok ⟨impl, { o with implementations := o.implementations.save impl },
        [.implementationChanged req.metricId]⟩

def Metric.deprecated (now : Time) (m : Metric) : Metric :=
  { m with deprecatedSince := m.deprecatedSince.or (some now) }

/-- A removed metric stays in its table. No event is emitted. -/
def MetricStore.removeMetric (o : MetricStore) (now : Time) (metricId : String) :
    Except Err (Change Unit) :=
  if metricId = "" then .error errInvalidRequest
  else match o.getMetric metricId with
    | none => .error errMetricNotFound
    | some _ => .ok ⟨(), o.modify metricId (Metric.deprecated now) (fun _ => rfl), []⟩

structure UpdateMetricConfigurationRequest where
  cloudServiceId : String
  metricId : String
  configuration : MetricConfiguration
  deriving DecidableEq

/-- The row is selected by the primary key of the configuration, the event is made from
the ids of the request. -/
def MetricStore.updateMetricConfiguration (o : MetricStore) (a : Access)
    (serviceExists : String → Bool) (now : Time) (req : UpdateMetricConfigurationRequest) :
    Except Err (Change MetricConfiguration) :=
  if h : isUuid req.cloudServiceId = true then
    if !(req.metricId ≠ "" && req.configuration.valid) then .error errInvalidRequest
    else if !a.checkAccess req.cloudServiceId then .error errPermissionDenied
    else
      let config := { req.configuration with updatedAt := some now, isDefault := false }
      if (o.getMetric config.metricId).isNone || !serviceExists config.cloudServiceId then
        .error ⟨some .notFound, "metric or service does not exist"⟩
      else .ok ⟨config, { o with configurations := o.configurations.save config },
        [.configChanged ⟨req.cloudServiceId, h⟩ req.metricId]⟩
  else .error errInvalidRequest

/-- `ListMetrics`. Without an ORDER BY the rows come in the order of the table. -/
def MetricStore.listMetrics (o : MetricStore) (includeDeprecated : Bool) (req : PaginatedRequest) :
    Except Err (List Metric × PageTokenText) :=
  (paginateStorage (SQL.Engine.inTableOrder true (fun _ => none)) req defaultPaginationOpts
    (o.metrics.filter (fun m => includeDeprecated || m.deprecatedSince.isNone))).mapError
      (fun e => ⟨some .internal, "could not paginate metrics: " ++ e.msg⟩)

def MetricStore.getMetricConfiguration (o : MetricStore) (a : Access)
    (cloudServiceId metricId : String) : Except Err MetricConfiguration :=
  checked (isUuid cloudServiceId && metricId ≠ "") a cloudServiceId <|
    match o.configurations.find (metricId, cloudServiceId) with
    | some config => .ok config
    | none =>
      match o.defaultMetricConfigurations metricId with
      | some config => .ok { config with cloudServiceId := cloudServiceId }
      | none => .error ⟨some .notFound,
          "metric configuration not found for metric with id '" ++ metricId ++ "'"⟩

def MetricStore.getMetricImplementation (o : MetricStore) (metricId : String) :
    Except Err MetricImplementation :=
  if metricId = "" then .error errInvalidRequest
  else match o.implementations.find metricId with
    | some impl => .ok impl
    | none => .error ⟨some .notFound, "implementation for metric not found"⟩

end Requests

section Listing

/-- The metrics that are not deprecated, by id. -/
def MetricStore.listed (o : MetricStore) : List String :=
  (o.metrics.filter (fun m => m.deprecatedSince.isNone)).map Metric.id

/-- Over all its pages `ListMetrics` hands out the rows that the filter leaves. -/
theorem listMetrics_pages (o : MetricStore) (includeDeprecated : Bool) :
    listAllPaginated (fun t => o.listMetrics includeDeprecated ⟨0, t, "", false⟩)
      (o.metrics.length + 1) .empty = some (.ok
        (o.metrics.filter (fun m => includeDeprecated || m.deprecatedSince.isNone))) := by
  have hlen := List.length_filter_le
    (fun m : Metric => includeDeprecated || m.deprecatedSince.isNone) o.metrics
  have hpages := paginateStorage_all (SQL.Engine.inTableOrder true (fun _ => none))
    ⟨0, .empty, "", false⟩ defaultPaginationOpts (by decide) (by decide) id rfl
    (o.metrics.filter (fun m => includeDeprecated || m.deprecatedSince.isNone))
    (o.metrics.length + 1) (by omega)
  unfold MetricStore.listMetrics
  rw [listAllPaginated_mapError, hpages]
  rfl

theorem listMetrics_all (o : MetricStore) :
    listAllPaginated (fun t => o.listMetrics false ⟨0, t, "", false⟩) (o.metrics.length + 1)
      .empty = some (.ok (o.metrics.filter (fun m => m.deprecatedSince.isNone))) := by
  rw [listMetrics_pages]
  simp only [Bool.false_or]

/-- Deprecation of one metric says nothing about the others. -/
theorem filter_listed_modify (ms : List Metric) (id : String) (f : Metric → Metric)
    (hf : ∀ m, (f m).id = m.id) (p : String → Bool) (hp : p id = false) :
    (((ms.map (fun m => if m.id = id then f m else m)).filter
        (fun m => m.deprecatedSince.isNone)).map Metric.id).filter p =
      ((ms.filter (fun m => m.deprecatedSince.isNone)).map Metric.id).filter p := by
  induction ms with
  | nil => rfl
  | cons m ms ih =>
    rw [List.map_cons]
    by_cases hm : m.id = id
    · -- the row itself is left out on both sides
      have hpm : p m.id = false := by rw [hm, hp]
      have hpf : p (f m).id = false := by rw [hf, hpm]
      rw [if_pos hm, List.filter_cons, List.filter_cons]
      split <;> split <;> simp [hpm, hpf, ih]
    · rw [if_neg hm, List.filter_cons, List.filter_cons]
      split
      · simp only [List.map_cons, List.filter_cons, ih]
      · exact ih

theorem listed_modify (o : MetricStore) (id : String) (f : Metric → Metric)
    (hf : ∀ m, (f m).id = m.id) (h : id ∈ o.listed) (h' : id ∈ (o.modify id f hf).listed) :
    (o.modify id f hf).listed = o.listed := by
  obtain ⟨x,hx,hxid⟩ := List.mem_map.mp h
  obtain ⟨y,hy,hyid⟩ := List.mem_map.mp h'
  rw [List.mem_filter] at hx hy
  obtain ⟨z,hz,rfl⟩ := List.mem_map.mp hy.1
  -- ids are unique, so both witnesses are the one row that is rewritten
  have hrow (m : Metric) (hm : m ∈ o.metrics) (hid : m.id = id) : m = x :=
    List.inj_on_of_nodup_map o.ids_nodup hm hx.1 (hid.trans hxid.symm)
  have hzid : z.id = id := by
    by_cases hz' : z.id = id
    · exact hz'
    · rw [if_neg hz'] at hyid
      exact hyid
  -- so no row changes sides
  have hstay (m : Metric) (hm : m ∈ o.metrics) :
      (if m.id = id then f m else m).deprecatedSince.isNone = m.deprecatedSince.isNone := by
    by_cases hid : m.id = id
    · have hfz : (f z).deprecatedSince.isNone = true := by simpa [hzid] using hy.2
      rw [if_pos hid, hrow m hm hid, hx.2, ← hrow z hz hzid, hfz]
    · rw [if_neg hid]
  unfold MetricStore.listed MetricStore.modify
  simp only [List.filter_map, List.map_map]
  have hrows : o.metrics.filter ((fun m => m.deprecatedSince.isNone) ∘
      (fun m => if m.id = id then f m else m)) =
      o.metrics.filter (fun m => m.deprecatedSince.isNone) := List.filter_congr hstay
  rw [hrows]
  apply List.map_congr_left
  intro m _
  simp only [Function.comp_apply]
  split
  · exact hf m
  · rfl

end Listing

section Effects

def MetricChangeEvent.metricId : MetricChangeEvent → String
  | .metadataChanged m => m
  | .configChanged _ m => m
  | .implementationChanged m => m

/-- A change that concerns one metric, which may be a new one. What else it changes than
the listing of the metric is announced by an event. -/
structure Touches (created : Bool) (m : String) (o o' : MetricStore)
    (events : List MetricChangeEvent) : Prop where
  only : ∀ ev ∈ events, ev.metricId = m
  implementation : ∀ m', (∀ ev ∈ events, ev.metricId ≠ m') →
    o'.getMetricImplementation m' = o.getMetricImplementation m'
  configuration : ∀ a (s : ServiceId) m', .configChanged s m' ∉ events →
    o'.getMetricConfiguration a s.1 m' = o.getMetricConfiguration a s.1 m'
  listed_same : m ∈ o.listed → m ∈ o'.listed → o'.listed = o.listed
  listed_others : ∀ p : String → Bool, p m = false → o'.listed.filter p = o.listed.filter p
  ids : ∀ x ∈ o'.metrics, (created = true ∧ x.id = m) ∨ ∃ y ∈ o.metrics, y.id = x.id

theorem touches_modify (o : MetricStore) (id : String) (f : Metric → Metric)
    (hf : ∀ m, (f m).id = m.id) (events : List MetricChangeEvent)
    (hev : ∀ ev ∈ events, ev.metricId = id) : Touches false id o (o.modify id f hf) events where
  only := hev
  implementation _ _ := rfl
  configuration _ _ _ _ := rfl
  listed_same := listed_modify o id f hf
  listed_others := filter_listed_modify o.metrics id f hf
  ids := by
    intro x hx
    obtain ⟨y,hy,rfl⟩ := List.mem_map.mp hx
    refine .inr ⟨y, hy, ?_⟩
    split
    · exact (hf y).symm
    · rfl

/-! What an implementation that comes with a metric leaves alone. -/

theorem metrics_addImplementation (o : MetricStore) (id : String)
    (impl : Option MetricImplementation) :
    (o.addImplementation id impl).metrics = o.metrics := by
  cases impl with
  | none => rfl
  | some i =>
    rw [MetricStore.addImplementation]
    split <;> rfl

theorem getMetricConfiguration_addImplementation (o : MetricStore) (id : String)
    (impl : Option MetricImplementation) (a : Access) (s m : String) :
    (o.addImplementation id impl).getMetricConfiguration a s m =
      o.getMetricConfiguration a s m := by
  cases impl with
  | none => rfl
  | some i =>
    rw [MetricStore.addImplementation]
    split <;> rfl

theorem getMetricImplementation_addImplementation (o : MetricStore) (id : String)
    (impl : Option MetricImplementation) (m : String) (hne : m ≠ id) :
    (o.addImplementation id impl).getMetricImplementation m = o.getMetricImplementation m := by
  cases impl with
  | none => rfl
  | some i =>
    rw [MetricStore.addImplementation]
    split
    · rfl
    · simp only [MetricStore.getMetricImplementation, Keyed.find_save, if_neg hne]

theorem createMetric_ok {o : MetricStore} {m : Metric} {impl : Option MetricImplementation}
    {c : Change Metric} (h : o.createMetric m impl = .ok c) :
    ∃ hnew, c = ⟨m, (o.add m hnew).addImplementation m.id impl, [.metadataChanged m.id]⟩ := by
  unfold MetricStore.createMetric at h
  split at h
  · cases h
  · split at h
    · rename_i hnew
      split at h
      · cases h
      · cases h
        exact ⟨hnew, rfl⟩
    · cases h

theorem touches_createMetric (o : MetricStore) (m : Metric) (impl : Option MetricImplementation)
    (c : Change Metric) (h : o.createMetric m impl = .ok c) :
    Touches true m.id o c.store c.events := by
  obtain ⟨hnew,rfl⟩ := createMetric_ok h
  have hmetrics := metrics_addImplementation (o.add m hnew) m.id impl
  constructor
  · simp [MetricChangeEvent.metricId]
  · intro m' hm'
    have hne : m' ≠ m.id := by
      intro heq
      exact hm' _ List.mem_cons_self heq.symm
    rw [getMetricImplementation_addImplementation _ _ _ _ hne]
    rfl
  · intro a s m' _
    rw [getMetricConfiguration_addImplementation]
    rfl
  · -- the id is new, so it cannot have been listed before
    intro hmem
    obtain ⟨x,hx,hid⟩ := List.mem_map.mp hmem
    have hold := List.mem_map_of_mem (f := Metric.id) (List.mem_of_mem_filter hx)
    exact absurd (hid ▸ hold) (getMetric_none o m.id hnew)
  · intro p hp
    unfold MetricStore.listed
    rw [hmetrics]
    simp [MetricStore.add, List.filter_append, List.filter_cons, apply_ite, hp]
  · intro x hx
    rw [hmetrics] at hx
    rcases List.mem_append.mp hx with hx | hx
    · exact .inr ⟨x, hx, rfl⟩
    · exact .inl ⟨rfl, by rw [List.mem_singleton.mp hx]⟩

theorem updateMetric_ok {o : MetricStore} {req : Metric} {c : Change Metric}
    (h : o.updateMetric req = .ok c) : ∃ m, o.getMetric req.id = some m ∧
      c = ⟨m.updated req, o.modify req.id (fun m => m.updated req) (fun _ => rfl),
        [.metadataChanged req.id]⟩ := by
  unfold MetricStore.updateMetric at h
  split at h
  · cases h
  · split at h
    · cases h
    · rename_i m hm
      cases h
      exact ⟨m, hm, rfl⟩

theorem touches_updateMetric (o : MetricStore) (req : Metric) (c : Change Metric)
    (h : o.updateMetric req = .ok c) : Touches false req.id o c.store c.events := by
  obtain ⟨_,_,rfl⟩ := updateMetric_ok h
  refine touches_modify o req.id (fun m => m.updated req) (fun _ => rfl)
    [.metadataChanged req.id] ?_
  simp [MetricChangeEvent.metricId]

theorem removeMetric_ok {o : MetricStore} {now : Time} {metricId : String} {c : Change Unit}
    (h : o.removeMetric now metricId = .ok c) :
    c = ⟨(), o.modify metricId (Metric.deprecated now) (fun _ => rfl), []⟩ := by
  unfold MetricStore.removeMetric at h
  split at h
  · cases h
  · split at h
    · cases h
    · exact (Except.ok.inj h).symm

theorem touches_removeMetric (o : MetricStore) (now : Time) (metricId : String)
    (c : Change Unit) (h : o.removeMetric now metricId = .ok c) :
    Touches false metricId o c.store c.events := by
  rw [removeMetric_ok h]
  exact touches_modify o metricId (Metric.deprecated now) (fun _ => rfl) [] (by simp)

/-- A change of the other tables leaves the listing alone. -/
theorem touches_tables (m : String) (o : MetricStore)
    (implementations : Keyed.Rows MetricImplementation.metricId)
    (configurations : Keyed.Rows MetricConfiguration.pair)
    (events : List MetricChangeEvent) (hev : ∀ ev ∈ events, ev.metricId = m)
    (himpl : ∀ m', (∀ ev ∈ events, ev.metricId ≠ m') →
      implementations.find m' = o.implementations.find m')
    (hconf : ∀ (s : ServiceId) m', .configChanged s m' ∉ events →
      configurations.find (m', s.1) = o.configurations.find (m', s.1)) :
    Touches false m o
      { o with implementations := implementations, configurations := configurations } events where
  only := hev
  implementation m' hm' := by simp only [MetricStore.getMetricImplementation, himpl m' hm']
  configuration a s m' hm' := by simp only [MetricStore.getMetricConfiguration, hconf s m' hm']
  listed_same _ _ := rfl
  listed_others _ _ := rfl
  ids x hx := .inr ⟨x, hx, rfl⟩

theorem updateMetricImplementation_ok {o : MetricStore} {now : Time}
    {req : MetricImplementation} {c : Change MetricImplementation}
    (h : o.updateMetricImplementation now req = .ok c) :
    (o.getMetric req.metricId).isSome = true ∧ c = ⟨{ req with updatedAt := some now },
      { o with implementations := o.implementations.save { req with updatedAt := some now } },
      [.implementationChanged req.metricId]⟩ := by
  unfold MetricStore.updateMetricImplementation at h
  split at h
  · cases h
  · split at h
    · cases h
    · rename_i m hm
      cases h
      exact ⟨by rw [hm]; rfl, rfl⟩

theorem touches_updateMetricImplementation (o : MetricStore) (now : Time)
    (req : MetricImplementation) (c : Change MetricImplementation)
    (h : o.updateMetricImplementation now req = .ok c) :
    Touches false req.metricId o c.store c.events := by
  obtain ⟨_,rfl⟩ := updateMetricImplementation_ok h
  apply touches_tables
  · simp [MetricChangeEvent.metricId]
  · intro m' hm'
    rw [Keyed.find_save, if_neg]
    exact (hm' _ List.mem_cons_self).symm
  · intro s m' _
    rfl

/-- The configuration as `UpdateMetricConfiguration` writes it. -/
def UpdateMetricConfigurationRequest.written (req : UpdateMetricConfigurationRequest)
    (now : Time) : MetricConfiguration :=
  { req.configuration with updatedAt := some now, isDefault := false }

theorem updateMetricConfiguration_ok {o : MetricStore} {a : Access}
    {serviceExists : String → Bool} {now : Time} {req : UpdateMetricConfigurationRequest}
    {c : Change MetricConfiguration}
    (h : o.updateMetricConfiguration a serviceExists now req = .ok c) :
    ∃ huuid, c = ⟨req.written now,
      { o with configurations := o.configurations.save (req.written now) },
      [.configChanged ⟨req.cloudServiceId, huuid⟩ req.metricId]⟩ := by
  unfold MetricStore.updateMetricConfiguration at h
  split at h
  · rename_i huuid
    split at h
    · cases h
    · split at h
      · cases h
      · simp only at h
        split at h
        · cases h
        · cases h
          exact ⟨huuid, rfl⟩
  · cases h

/-- Only if the configuration is about the pair of the request, the event names the row
that is written. -/
theorem touches_updateMetricConfiguration (o : MetricStore) (a : Access)
    (serviceExists : String → Bool) (now : Time) (req : UpdateMetricConfigurationRequest)
    (c : Change MetricConfiguration) (hm : req.configuration.metricId = req.metricId)
    (hs : req.configuration.cloudServiceId = req.cloudServiceId)
    (h : o.updateMetricConfiguration a serviceExists now req = .ok c) :
    Touches false req.metricId o c.store c.events := by
  obtain ⟨huuid,rfl⟩ := updateMetricConfiguration_ok h
  apply touches_tables
  · simp [MetricChangeEvent.metricId]
  · intro m' _
    rfl
  · intro s m' hpair
    rw [Keyed.find_save, if_neg]
    intro hkey
    have hpairs : (m', s.1) = (req.metricId, req.cloudServiceId) := by
      rw [hkey, ← hm, ← hs]
      rfl
    obtain ⟨hmetric,hservice⟩ := Prod.mk.inj hpairs
    have hsid : s = ⟨req.cloudServiceId, huuid⟩ := Subtype.ext hservice
    apply hpair
    rw [hmetric, hsid]
    exact List.mem_cons_self

end Effects
end Clouditor
