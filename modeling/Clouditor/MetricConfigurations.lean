import Clouditor.MetricStore
import Clouditor.Transitions

/-! What `GetMetricConfiguration` and `ListMetricConfigurations` return after updates, and
which of their failures a caller hears about. -/
namespace Clouditor
set_option autoImplicit false

section Sequences

structure ConfigurationUpdate where
  caller : Access
  now : Time
  request : UpdateMetricConfigurationRequest

/-- The pair of ids that the request itself names. -/
def UpdateMetricConfigurationRequest.addressed (req : UpdateMetricConfigurationRequest) :
    String × String :=
  (req.metricId, req.cloudServiceId)

variable (serviceExists : String → Bool)

/-- An accepted update; `none` if the request is refused. -/
def MetricStore.acceptUpdate (o : MetricStore) (u : ConfigurationUpdate) : Option MetricStore :=
  match o.updateMetricConfiguration u.caller serviceExists u.now u.request with
  | .ok c => some c.store
  | .error _ => none

/-- The default configuration of a metric as a service gets it. -/
def MetricStore.defaultConfiguration (o : MetricStore) (cloudServiceId metricId : String) :
    Except Err MetricConfiguration :=
  match o.defaultMetricConfigurations metricId with
  | some config => .ok { config with cloudServiceId := cloudServiceId }
  | none => .error ⟨some .notFound,
      "metric configuration not found for metric with id '" ++ metricId ++ "'"⟩

/-- Every caller with access to a service reads the operator and the target value of the last
request for a pair, and the default if there was no request. -/
def ReadsLast (us : List ConfigurationUpdate) (o : MetricStore) : Prop :=
  ∀ (a : Access) (s m : String), isUuid s = true → m ≠ "" → a.checkAccess s = true →
    match us.reverse.find? (fun u => u.request.addressed = (m, s)) with
    | some u => ∃ config, o.getMetricConfiguration a s m = .ok config ∧
        config.operator = u.request.configuration.operator ∧
        config.targetValue = u.request.configuration.targetValue
    | none => o.getMetricConfiguration a s m = o.defaultConfiguration s m

/-- A request for one pair leaves the configurations of the others alone. -/
def Framed (req : UpdateMetricConfigurationRequest) (o o' : MetricStore) : Prop :=
  ∀ (a : Access) (s m : String), req.addressed ≠ (m, s) →
    o'.getMetricConfiguration a s m = o.getMetricConfiguration a s m

variable {serviceExists}

theorem acceptUpdate_eq_some {o o' : MetricStore} {u : ConfigurationUpdate}
    (h : o.acceptUpdate serviceExists u = some o') :
    o' = { o with configurations := o.configurations.save (u.request.written u.now) } := by
  unfold MetricStore.acceptUpdate at h
  split at h
  · rename_i c hc
    obtain ⟨_,rfl⟩ := updateMetricConfiguration_ok hc
    exact (Option.some.inj h).symm
  · cases h

/-- For a caller with access, only the stored rows and the default matter. -/
theorem getMetricConfiguration_eq (o : MetricStore) (a : Access) (s m : String)
    (hs : isUuid s = true) (hm : m ≠ "") (ha : a.checkAccess s = true) :
    o.getMetricConfiguration a s m =
      (o.configurations.find (m, s)).elim (o.defaultConfiguration s m) .ok := by
  have hvalid : (isUuid s && decide (m ≠ "")) = true := by simp [hs, hm]
  unfold MetricStore.getMetricConfiguration checked
  rw [hvalid, ha]
  cases o.configurations.find (m, s) <;> rfl

/-- The defaults are loaded at the start and stay as they are, and the rows are those of the
embedded configurations, the last one of each pair. -/
theorem find_acceptUpdates (us : List ConfigurationUpdate) (o o' : MetricStore)
    (hrun : Transitions.run (MetricStore.acceptUpdate serviceExists) o us = some o') :
    o'.defaultMetricConfigurations = o.defaultMetricConfigurations ∧
    o'.configurations =
      o.configurations.saveAll (us.map (fun u => u.request.written u.now)) := by
  induction us generalizing o with
  | nil =>
    cases hrun
    exact ⟨rfl, rfl⟩
  | cons u us ih =>
    obtain ⟨o₁,hstep,hrest⟩ := (Transitions.run_cons_eq_some _ _ _ _ _).mp hrun
    have hstore := acceptUpdate_eq_some hstep
    obtain ⟨hdefault,hrows⟩ := ih o₁ hrest
    rw [hstore] at hdefault hrows
    exact ⟨hdefault, hrows⟩

theorem framed_acceptUpdate (o o' : MetricStore) (u : ConfigurationUpdate)
    (hown : u.request.configuration.pair = u.request.addressed)
    (hstep : o.acceptUpdate serviceExists u = some o') : Framed u.request o o' := by
  intro a s m hne
  rw [acceptUpdate_eq_some hstep]
  have hkey : (m, s) ≠ (u.request.written u.now).pair := by
    intro heq
    exact hne (hown.symm.trans heq.symm)
  unfold MetricStore.getMetricConfiguration
  simp only [Keyed.find_save, if_neg hkey]

/-- As long as each request embeds a configuration of the pair that it is about, reading
follows the requests. -/
theorem configurations_follow_requests (o o' : MetricStore) (us : List ConfigurationUpdate)
    (hstart : ∀ pair, o.configurations.find pair = none)
    (hown : ∀ u ∈ us, u.request.configuration.pair = u.request.addressed)
    (hrun : Transitions.run (MetricStore.acceptUpdate serviceExists) o us = some o') :
    ReadsLast us o' ∧
    ∀ pre u post o₁ o₂, us = pre ++ u :: post →
      Transitions.run (MetricStore.acceptUpdate serviceExists) o pre = some o₁ →
      o₁.acceptUpdate serviceExists u = some o₂ → Framed u.request o₁ o₂ := by
  constructor
  · intro a s m hs hm ha
    obtain ⟨_,hrows⟩ := find_acceptUpdates us o o' hrun
    -- the last row of a pair comes from the last request for it
    have hfind : o'.configurations.find (m, s) =
        (us.reverse.find? (fun u => u.request.addressed = (m, s))).map
          (fun u => u.request.written u.now) := by
      rw [hrows, Keyed.find_saveAll, hstart, Option.or_none, ← List.map_reverse, List.find?_map,
        ← List.head?_filter, ← List.head?_filter]
      congr 2
      apply List.filter_congr
      intro u hu
      rw [← hown u (List.mem_reverse.mp hu)]
      rfl
    rw [getMetricConfiguration_eq o' a s m hs hm ha, hfind]
    cases us.reverse.find? (fun u => u.request.addressed = (m, s)) with
    | none => rfl
    | some u => exact ⟨u.request.written u.now, rfl, rfl, rfl⟩
  · intro pre u post o₁ o₂ hus _ hstep
    apply framed_acceptUpdate o₁ o₂ u (hown u ?_) hstep
    rw [hus]
    exact List.mem_append_right pre List.mem_cons_self

/-- A store with two metrics, of which only the first has a default configuration. -/
def twoMetrics : MetricStore where
  metrics := [⟨"TransportEncryption", "Transport encryption", "", "", .nominal,
      some (.allowedValues ["none", "TLS"]), 0, none⟩,
    ⟨"TLSVersion", "TLS version", "", "", .ordinal, some (.order ["1.2", "1.3"]), 0, none⟩]
  implementations := Keyed.Rows.empty _
  configurations := Keyed.Rows.empty _
  defaultMetricConfigurations m :=
    if m = "TransportEncryption" then some ⟨"==", "TLS", true, none, m, ""⟩ else none
  ids_nodup := by decide

/-- A request about `metricId` with a configuration that says it is about `embedded`. -/
def updateFor (metricId embedded : String) : ConfigurationUpdate where
  caller := .allowAll
  now := 7
  request := ⟨"11111111-1111-1111-1111-111111111111", metricId,
    ⟨">=", "1.3", false, none, embedded, "11111111-1111-1111-1111-111111111111"⟩⟩

theorem follows_own_request :
    ∃ o', Transitions.run (MetricStore.acceptUpdate (fun _ => true)) twoMetrics
        [updateFor "TLSVersion" "TLSVersion"] = some o' ∧
      ReadsLast [updateFor "TLSVersion" "TLSVersion"] o' := by
  obtain ⟨o',hrun⟩ : ∃ o', Transitions.run (MetricStore.acceptUpdate (fun _ => true)) twoMetrics
      [updateFor "TLSVersion" "TLSVersion"] = some o' := ⟨_, rfl⟩
  have hown (u : ConfigurationUpdate) (hu : u ∈ [updateFor "TLSVersion" "TLSVersion"]) :
      u.request.configuration.pair = u.request.addressed := by
    rw [List.mem_singleton.mp hu]
    rfl
  exact ⟨o', hrun, (configurations_follow_requests twoMetrics o' _ (fun _ => rfl) hown hrun).1⟩

/-- A request about the version of TLS that embeds a configuration of the other metric: the
version still has no configuration, and that of the other metric is replaced. -/
theorem foreign_configuration_is_written :
    ∃ o', twoMetrics.acceptUpdate (fun _ => true) (updateFor "TLSVersion" "TransportEncryption") =
        some o' ∧
      ¬ ReadsLast [updateFor "TLSVersion" "TransportEncryption"] o' ∧
      ¬ Framed (updateFor "TLSVersion" "TransportEncryption").request twoMetrics o' := by
  refine ⟨_, rfl, ?_, ?_⟩
  · intro h
    obtain ⟨config,hget,_⟩ := h .allowAll "11111111-1111-1111-1111-111111111111" "TLSVersion"
      (by decide) (by decide) rfl
    cases hget
  · intro h
    have hsame := h .allowAll "11111111-1111-1111-1111-111111111111" "TransportEncryption"
      (by decide)
    have hop := congrArg (fun r => r.toOption.map MetricConfiguration.operator) hsame
    exact absurd hop (by decide)

end Sequences

section Listing

def databaseError (e : Err) : Err := ⟨some .internal, "database error: " ++ e.msg⟩

/-- `GetMetricConfiguration` over a database that may fail. -/
def MetricStore.readMetricConfiguration (o : MetricStore) (a : Access) (failure : Option Err)
    (cloudServiceId metricId : String) : Except Err MetricConfiguration :=
  checked (isUuid cloudServiceId && metricId ≠ "") a cloudServiceId <|
    match failure with
    | some e => .error (databaseError e)
    | none => o.getMetricConfiguration a cloudServiceId metricId

/-- One turn of the loop: a configuration that cannot be read is left out. -/
def addConfiguration (get : String → Except Err MetricConfiguration)
    (response : AList (fun _ : String => MetricConfiguration)) (metric : Metric) :
    AList (fun _ : String => MetricConfiguration) :=
  match get metric.id with
  | .ok config => response.insert metric.id config
  | .error _ => response

/-- How the database answers the queries of one call: that for the metrics, and that for the
configuration of each metric. -/
structure QueryFailures where
  metrics : Option Err
  configuration : String → Option Err

def MetricStore.listMetricConfigurations (o : MetricStore) (a : Access) (failures : QueryFailures)
    (cloudServiceId : String) : Except Err (AList (fun _ : String => MetricConfiguration)) :=
  checked (isUuid cloudServiceId) a cloudServiceId <|
    match failures.metrics with
    | some e => .error (databaseError e)
    | none => .ok (o.metrics.foldl (addConfiguration (fun m =>
        o.readMetricConfiguration a (failures.configuration m) cloudServiceId m)) ∅)

/-- A response has the configuration of every metric, and there is no response if one of them
cannot be read. -/
def ListsEvery (o : MetricStore) (get : String → Except Err MetricConfiguration)
    (response : Except Err (AList (fun _ : String => MetricConfiguration))) : Prop :=
  (∀ table, response = .ok table → ∀ metric ∈ o.metrics,
    ∃ config, table.lookup metric.id = some config ∧ get metric.id = .ok config) ∧
  ((∃ metric ∈ o.metrics, ∃ e, get metric.id = .error e) → ∃ e, response = .error e)

theorem lookup_addConfigurations (get : String → Except Err MetricConfiguration)
    (metrics : List Metric) (response : AList (fun _ : String => MetricConfiguration))
    (metric : Metric) (config : MetricConfiguration) (hmem : metric ∈ metrics)
    (hget : get metric.id = .ok config) :
    (metrics.foldl (addConfiguration get) response).lookup metric.id = some config := by
  -- once it is there it stays, since every later turn for the same id reads the same
  have hstay (ms : List Metric) (t : AList (fun _ : String => MetricConfiguration))
      (ht : t.lookup metric.id = some config) :
      (ms.foldl (addConfiguration get) t).lookup metric.id = some config := by
    induction ms generalizing t with
    | nil => exact ht
    | cons m ms ih =>
      apply ih
      unfold addConfiguration
      by_cases hid : m.id = metric.id
      · rw [hid, hget]
        exact AList.lookup_insert _
      · cases get m.id with
        | error e => exact ht
        | ok c => exact (AList.lookup_insert_ne (Ne.symm hid)).trans ht
  induction metrics generalizing response with
  | nil => cases hmem
  | cons m ms ih =>
    rcases List.mem_cons.mp hmem with rfl | hmem
    · refine hstay ms (addConfiguration get response _) ?_
      unfold addConfiguration
      rw [hget]
      exact AList.lookup_insert _
    · exact ih (addConfiguration get response m) hmem

theorem readMetricConfiguration_ok_iff (o : MetricStore) (a : Access) (failure : Option Err)
    (s m : String) (hs : isUuid s = true) (ha : a.checkAccess s = true) :
    (∃ config, o.readMetricConfiguration a failure s m = .ok config) ↔
      m ≠ "" ∧ failure = none ∧ ((o.configurations.find (m, s)).isSome = true ∨
        (o.defaultMetricConfigurations m).isSome = true) := by
  unfold MetricStore.readMetricConfiguration checked
  by_cases hm : m = ""
  · simp [hm]
  · cases failure with
    | some e => simp [hs, hm, ha]
    | none =>
      simp only [hs, ha, getMetricConfiguration_eq o a s m hs hm ha,
        MetricStore.defaultConfiguration]
      cases o.configurations.find (m, s) with
      | some c => simp [hm]
      | none => cases o.defaultMetricConfigurations m <;> simp [hm]

/-- Only if every metric has a configuration of its own or a default, and no query fails, the
list is what it is documented to be. -/
theorem list_is_complete_iff (o : MetricStore) (a : Access) (failures : QueryFailures)
    (s : String) :
    ListsEvery o (fun m => o.readMetricConfiguration a (failures.configuration m) s m)
        (o.listMetricConfigurations a failures s) ↔
      (isUuid s = true → a.checkAccess s = true → failures.metrics = none →
        ∀ metric ∈ o.metrics, metric.id ≠ "" ∧ failures.configuration metric.id = none ∧
          ((o.configurations.find (metric.id, s)).isSome = true ∨
            (o.defaultMetricConfigurations metric.id).isSome = true)) := by
  -- a call that fails before the loop reports its error
  have hearly (e : Err) (he : o.listMetricConfigurations a failures s = .error e) :
      ListsEvery o (fun m => o.readMetricConfiguration a (failures.configuration m) s m)
        (o.listMetricConfigurations a failures s) := by
    rw [he]
    refine ⟨?_, fun _ => ⟨e, rfl⟩⟩
    intro table htable
    cases htable
  by_cases hs : isUuid s = true
  · by_cases ha : a.checkAccess s = true
    · cases hf : failures.metrics with
      | some e =>
        refine iff_of_true (hearly (databaseError e) ?_) (fun _ _ h => absurd h (by simp))
        simp [MetricStore.listMetricConfigurations, checked, hs, ha, hf]
      | none =>
        have hlist : o.listMetricConfigurations a failures s = .ok (o.metrics.foldl
            (addConfiguration (fun m =>
              o.readMetricConfiguration a (failures.configuration m) s m)) ∅) := by
          simp [MetricStore.listMetricConfigurations, checked, hs, ha, hf]
        have hread (metric : Metric) := readMetricConfiguration_ok_iff o a
          (failures.configuration metric.id) s metric.id hs ha
        constructor
        · intro h _ _ _ metric hmem
          obtain ⟨config,_,hget⟩ := h.1 _ hlist metric hmem
          exact (hread metric).mp ⟨config, hget⟩
        · intro h
          constructor
          · intro table htable metric hmem
            obtain ⟨config,hget⟩ := (hread metric).mpr (h hs ha rfl metric hmem)
            rw [hlist] at htable
            cases htable
            exact ⟨config, lookup_addConfigurations _ _ _ metric config hmem hget, hget⟩
          · rintro ⟨metric,hmem,e,hget⟩
            obtain ⟨config,hok⟩ := (hread metric).mpr (h hs ha rfl metric hmem)
            cases hok.symm.trans hget
    · refine iff_of_true (hearly errPermissionDenied ?_) (fun _ h => absurd h ha)
      simp [MetricStore.listMetricConfigurations, checked, hs, ha]
  · refine iff_of_true (hearly errInvalidRequest ?_) (fun h => absurd h hs)
    simp [MetricStore.listMetricConfigurations, checked, hs]

/-- The version of TLS has no configuration, and the response does not say so. -/
theorem unconfigured_metric_is_omitted :
    ∃ table, twoMetrics.listMetricConfigurations .allowAll ⟨none, fun _ => none⟩
        "11111111-1111-1111-1111-111111111111" = .ok table ∧
      table.lookup "TLSVersion" = none ∧
      ∃ e, twoMetrics.readMetricConfiguration .allowAll none
        "11111111-1111-1111-1111-111111111111" "TLSVersion" = .error e := by
  exact ⟨_, rfl, rfl, _, rfl⟩

end Listing
end Clouditor
