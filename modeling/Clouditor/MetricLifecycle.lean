import Clouditor.MetricStore
import Clouditor.Transitions

/-! The metrics of one database over the life of the orchestrator: the requests that change
them, and the restarts, at which the metrics that come with the orchestrator are loaded. -/
namespace Clouditor
set_option autoImplicit false

/-- A metric that comes with the orchestrator, the files that belong to it, of which the second
has to be read and decoded, and how the database takes its records. -/
structure ShippedMetric where
  metric : Metric
  code : Except Err String
  configuration : Except Err (Except Err MetricConfiguration)
  metricFailure : Option Err
  implementationFailure : Option Err

section Loading

/-- `Save` of a metric writes all its fields, over the row with its id or as a new one. -/
def MetricStore.saveMetric (o : MetricStore) (m : Metric) : MetricStore :=
  if h : (o.getMetric m.id).isSome = false then o.add m h
  else o.modify m.id (fun old => { m with id := old.id }) (fun _ => rfl)

def loadMetricImplementation (metricId code : String) (now : Time) : MetricImplementation :=
  ⟨metricId, .rego, code, some now⟩

/-- `prepareMetric`: the implementation and the default configuration of a metric. -/
def ShippedMetric.prepareMetric (m : ShippedMetric) (now : Time) :
    Except Err (MetricImplementation × MetricConfiguration) :=
  match m.code with
  | .error e => .error (e.wrap "could not load metric implementation")
  | .ok code =>
    match m.configuration with
    | .error e => .error
        (e.wrap ("could not retrieve default configuration for metric " ++ m.metric.id))
    | .ok (.error e) => .error
        (e.wrap ("error in reading default configuration for metric " ++ m.metric.id))
    | .ok (.ok config) => .ok (loadMetricImplementation m.metric.id code now,
        { config with isDefault := true, metricId := m.metric.id })

/-- One turn of the loop in `loadMetrics`. An error only ends the turn. -/
def MetricStore.loadMetric (now : Time) (o : MetricStore) (m : ShippedMetric) : MetricStore :=
  match m.metricFailure with
  | some _ => o
  | none =>
    -- the metric is saved before anything is known about its files
    let o := o.saveMetric m.metric
    match m.prepareMetric now with
    | .error _ => o
    | .ok (impl, config) =>
      let o := { o with
        defaultMetricConfigurations :=
          Function.update o.defaultMetricConfigurations m.metric.id (some config) }
      match m.implementationFailure with
      | some _ => o
      | none => { o with implementations := o.implementations.save impl }

/-- A new process starts on the same database. The default configurations are not in it. -/
def MetricStore.restart (o : MetricStore) (now : Time)
    (shipped : Except Err (List ShippedMetric)) : MetricStore :=
  let o := { o with defaultMetricConfigurations := fun _ => none }
  match shipped with
  | .error _ => o
  | .ok metrics => metrics.foldl (MetricStore.loadMetric now) o

inductive MetricOp where
  | createMetric (m : Metric) (impl : Option MetricImplementation)
  | updateMetric (m : Metric)
  | removeMetric (now : Time) (metricId : String)
  | updateMetricImplementation (now : Time) (impl : MetricImplementation)
  | restart (now : Time) (shipped : Except Err (List ShippedMetric))

/-- The store after an operation, or the error of a request. -/
def MetricStore.perform (o : MetricStore) : MetricOp → Except Err MetricStore
  | .createMetric m impl => (o.createMetric m impl).map Change.store
  | .updateMetric m => (o.updateMetric m).map Change.store
  | .removeMetric now metricId => (o.removeMetric now metricId).map Change.store
  | .updateMetricImplementation now impl =>
    (o.updateMetricImplementation now impl).map Change.store
  | .restart now shipped => .ok (o.restart now shipped)

end Loading

section Ledger

/-- What a metric says about itself, with the fact of its deprecation for the time of it. -/
structure MetricMetadata where
  name : String
  description : String
  category : String
  scale : MetricScale
  range : Option MetricRange
  interval : ℤ
  deprecated : Bool
  deriving DecidableEq

def Metric.metadata (m : Metric) : MetricMetadata :=
  ⟨m.name, m.description, m.category, m.scale, m.range, m.interval, m.deprecatedSince.isSome⟩

/-- The last that was written about each metric, by its id. -/
structure Ledger where
  metrics : String → Option MetricMetadata
  implementations : String → Option MetricImplementation

/-- The operation as it is meant: a request replaces what it sends, and a restart nothing. -/
def Ledger.write (x : Ledger) : MetricOp → Ledger
  | .createMetric m impl =>
    ⟨Function.update x.metrics m.id (some m.metadata),
      impl.elim x.implementations
        (fun i => Function.update x.implementations m.id (some { i with metricId := m.id }))⟩
  | .updateMetric m => { x with metrics := Function.update x.metrics m.id (some m.metadata) }
  | .removeMetric _ id => { x with
      metrics := Function.update x.metrics id
        ((x.metrics id).map (fun d => { d with deprecated := true })) }
  | .updateMetricImplementation now impl => { x with
      implementations := Function.update x.implementations impl.metricId
        (some { impl with updatedAt := some now }) }
  | .restart _ _ => x

def MetricStore.ledger (o : MetricStore) : Ledger :=
  ⟨fun id => (o.getMetric id).map Metric.metadata, o.implementations.find⟩

/-- The three calls that read metrics show what the ledger says. -/
structure Reflects (x : Ledger) (o : MetricStore) : Prop where
  getMetric : ∀ id, (o.getMetric id).map Metric.metadata = x.metrics id
  listMetrics : ∀ includeDeprecated, ∃ ms, listAllPaginated
      (fun t => o.listMetrics includeDeprecated ⟨0, t, "", false⟩) (o.metrics.length + 1) .empty =
        some (.ok ms) ∧ (ms.map Metric.id).Nodup ∧
      ∀ id d, (∃ m ∈ ms, m.id = id ∧ m.metadata = d) ↔
        x.metrics id = some d ∧ (includeDeprecated = true ∨ d.deprecated = false)
  getMetricImplementation : ∀ id, id ≠ "" → o.getMetricImplementation id =
    (x.implementations id).elim (.error ⟨some .notFound, "implementation for metric not found"⟩) .ok

/-- A store next to the ledger of what was written to it. -/
def recordStep (s : MetricStore × Ledger) (op : MetricOp) : Option (MetricStore × Ledger) :=
  match s.1.perform op with
  | .error _ => some s
  | .ok o => some (o, s.2.write op)

/-- An update leaves the interval as it is, and a restart finds the metrics it comes with as
it would write them. -/
def Unspoiled (s : MetricStore × Ledger) : MetricOp → Prop
  | .updateMetric m => ∀ old, s.1.getMetric m.id = some old → m.interval = old.interval
  | .restart now shipped => ∀ ms, shipped = .ok ms → ∀ m ∈ ms, m.metricFailure = none →
      s.1.getMetric m.metric.id = some m.metric ∧
      ∀ p, m.prepareMetric now = .ok p → m.implementationFailure = none →
        s.1.implementations.find m.metric.id = some p.1
  | _ => True

end Ledger

section Rows

theorem getMetric_eq_some (o : MetricStore) (id : String) (m : Metric) :
    o.getMetric id = some m ↔ m ∈ o.metrics ∧ m.id = id := by
  constructor
  · intro h
    have hid := List.find?_some h
    exact ⟨List.mem_of_find?_eq_some h, by simpa using hid⟩
  · rintro ⟨hm,rfl⟩
    cases hfind : o.getMetric m.id with
    | none =>
      have hnone := getMetric_none o m.id (by rw [hfind]; rfl)
      exact absurd (List.mem_map_of_mem hm) hnone
    | some m' =>
      have hid := List.find?_some hfind
      have hmem := List.mem_of_find?_eq_some hfind
      rw [List.inj_on_of_nodup_map o.ids_nodup hmem hm (by simpa using hid)]

theorem getMetric_add (o : MetricStore) (m : Metric) (h : (o.getMetric m.id).isSome = false)
    (id : String) :
    (o.add m h).getMetric id = if id = m.id then some m else o.getMetric id := by
  apply Option.ext
  intro m'
  rw [getMetric_eq_some]
  have hmem : m' ∈ (o.add m h).metrics ↔ m' ∈ o.metrics ∨ m' = m := by simp [MetricStore.add]
  rw [hmem]
  by_cases hid : id = m.id
  · have hnew := getMetric_none o m.id h
    rw [if_pos hid, Option.some.injEq]
    constructor
    · rintro ⟨hm | rfl,heq⟩
      · exact absurd (List.mem_map.mpr ⟨m', hm, heq.trans hid⟩) hnew
      · rfl
    · rintro rfl
      exact ⟨.inr rfl, hid.symm⟩
  · rw [if_neg hid, getMetric_eq_some]
    constructor
    · rintro ⟨hm | rfl,heq⟩
      · exact ⟨hm, heq⟩
      · exact absurd heq.symm hid
    · rintro ⟨hm,heq⟩
      exact ⟨.inl hm, heq⟩

theorem getMetric_modify (o : MetricStore) (id : String) (f : Metric → Metric)
    (hf : ∀ m, (f m).id = m.id) (id' : String) :
    (o.modify id f hf).getMetric id' =
      (o.getMetric id').map (fun m => if id' = id then f m else m) := by
  have hkeep (m : Metric) : (if m.id = id then f m else m).id = m.id := by
    split
    · exact hf m
    · rfl
  unfold MetricStore.getMetric MetricStore.modify
  rw [List.find?_map]
  simp only [Function.comp_def, hkeep]
  apply Option.map_congr
  intro m hm
  have hid := List.find?_some hm
  rw [show m.id = id' by simpa using hid]

theorem getMetric_saveMetric (o : MetricStore) (m : Metric) (id : String) :
    (o.saveMetric m).getMetric id = if id = m.id then some m else o.getMetric id := by
  unfold MetricStore.saveMetric
  split
  · rename_i hnew
    exact getMetric_add o m hnew id
  · rename_i hold
    rw [getMetric_modify]
    by_cases hid : id = m.id
    · obtain ⟨old,hget⟩ := Option.isSome_iff_exists.mp (Bool.eq_true_of_not_eq_false hold)
      have hidold : old.id = m.id := ((getMetric_eq_some o m.id old).mp hget).2
      simp [hid, hget, hidold]
    · simp [hid]

theorem getMetric_addImplementation (o : MetricStore) (id : String)
    (impl : Option MetricImplementation) (id' : String) :
    (o.addImplementation id impl).getMetric id' = o.getMetric id' := by
  unfold MetricStore.getMetric
  rw [metrics_addImplementation]

/-- An implementation that comes with a metric is written if there is none yet. -/
theorem find_addImplementation (o : MetricStore) (id : String)
    (impl : Option MetricImplementation) (h : o.implementations.find id = none) (id' : String) :
    (o.addImplementation id impl).implementations.find id' =
      impl.elim (o.implementations.find id')
        (fun i => if id' = id then some { i with metricId := id }
          else o.implementations.find id') := by
  cases impl with
  | none => rfl
  | some i =>
    rw [MetricStore.addImplementation, h]
    exact Keyed.find_save _ _ _

end Rows
section Steps

/-- Every implementation belongs to a metric of the table, as the foreign key demands. -/
def MetricStore.ImplementationsOwned (o : MetricStore) : Prop :=
  ∀ id, (o.implementations.find id).isSome = true → (o.getMetric id).isSome = true

/-- The ledger says what is in the store. -/
structure Ledgered (s : MetricStore × Ledger) : Prop where
  metrics : ∀ id, (s.1.getMetric id).map Metric.metadata = s.2.metrics id
  implementations : ∀ id, s.1.implementations.find id = s.2.implementations id
  owned : s.1.ImplementationsOwned

/-- Two stores with the same metrics and implementations. -/
def SameRows (o o' : MetricStore) : Prop :=
  (∀ id, o'.getMetric id = o.getMetric id) ∧
  ∀ id, o'.implementations.find id = o.implementations.find id

/-- A metric that is stored as it is shipped is loaded without a trace. -/
theorem sameRows_loadMetric (now : Time) (o : MetricStore) (m : ShippedMetric)
    (h : m.metricFailure = none → o.getMetric m.metric.id = some m.metric ∧
      ∀ p, m.prepareMetric now = .ok p → m.implementationFailure = none →
        o.implementations.find m.metric.id = some p.1) :
    SameRows o (o.loadMetric now m) := by
  unfold MetricStore.loadMetric
  cases hfail : m.metricFailure with
  | some e => exact ⟨fun _ => rfl, fun _ => rfl⟩
  | none =>
    obtain ⟨hmetric,himpl⟩ := h hfail
    have hsame (id : String) : (o.saveMetric m.metric).getMetric id = o.getMetric id := by
      rw [getMetric_saveMetric]
      split
      · rename_i hid
        rw [hid, hmetric]
      · rfl
    have hrows : (o.saveMetric m.metric).implementations = o.implementations := by
      unfold MetricStore.saveMetric
      split <;> rfl
    cases hprep : m.prepareMetric now with
    | error e => exact ⟨hsame, fun id => by rw [hrows]⟩
    | ok p =>
      obtain ⟨impl,config⟩ := p
      -- the implementation stands under the id of its metric
      have hkey : impl.metricId = m.metric.id := by
        unfold ShippedMetric.prepareMetric at hprep
        split at hprep
        · cases hprep
        · split at hprep <;> cases hprep
          rfl
      cases hifail : m.implementationFailure with
      | some e => exact ⟨hsame, fun id => by rw [← hrows]⟩
      | none =>
        refine ⟨hsame, fun id => ?_⟩
        have hstored := himpl (impl, config) hprep hifail
        simp only
        rw [Keyed.find_save, hrows]
        split
        · rename_i hid
          rw [hid, hkey, hstored]
        · rfl

theorem sameRows_restart (now : Time) (o : MetricStore)
    (shipped : Except Err (List ShippedMetric))
    (h : ∀ ms, shipped = .ok ms → ∀ m ∈ ms, m.metricFailure = none →
      o.getMetric m.metric.id = some m.metric ∧
      ∀ p, m.prepareMetric now = .ok p → m.implementationFailure = none →
        o.implementations.find m.metric.id = some p.1) :
    SameRows o (o.restart now shipped) := by
  unfold MetricStore.restart
  cases shipped with
  | error e => exact ⟨fun _ => rfl, fun _ => rfl⟩
  | ok ms =>
    -- the rows are those of the start in every turn
    have hloop (ms' : List ShippedMetric) (hms : ∀ m ∈ ms', m ∈ ms) (o' : MetricStore)
        (hsame : SameRows o o') : SameRows o (ms'.foldl (MetricStore.loadMetric now) o') := by
      induction ms' generalizing o' with
      | nil => exact hsame
      | cons m ms' ih =>
        apply ih (fun m' hm' => hms m' (List.mem_cons_of_mem m hm'))
        have hturn := sameRows_loadMetric now o' m (by
          rw [hsame.1, hsame.2]
          exact h ms rfl m (hms m List.mem_cons_self))
        exact ⟨fun id => (hturn.1 id).trans (hsame.1 id), fun id => (hturn.2 id).trans (hsame.2 id)⟩
    exact hloop ms (fun _ hm => hm) _ ⟨fun _ => rfl, fun _ => rfl⟩

theorem store_of_map {α : Type} {r : Except Err (Change α)} {o : MetricStore}
    (h : r.map Change.store = .ok o) : ∃ c, r = .ok c ∧ c.store = o := by
  cases r with
  | error e => cases h
  | ok c => exact ⟨c, rfl, Except.ok.inj h⟩

theorem ledgered_createMetric (o o' : MetricStore) (x : Ledger) (m : Metric)
    (impl : Option MetricImplementation) (h : Ledgered (o, x))
    (hop : o.perform (.createMetric m impl) = .ok o') :
    Ledgered (o', x.write (.createMetric m impl)) := by
  obtain ⟨c,hc,rfl⟩ := store_of_map hop
  obtain ⟨hnew,rfl⟩ := createMetric_ok hc
  -- a metric that is not there has no implementation
  have hfree : (o.add m hnew).implementations.find m.id = none := by
    by_contra hsome
    have hget := h.owned m.id (Option.isSome_iff_ne_none.mpr hsome)
    exact Bool.false_ne_true (hnew.symm.trans hget)
  have hfind := find_addImplementation (o.add m hnew) m.id impl hfree
  refine ⟨fun id => ?_, fun id => ?_, fun id hid => ?_⟩
  · simp only [getMetric_addImplementation, getMetric_add, Ledger.write, Function.update_apply]
    split
    · rfl
    · exact h.metrics id
  · rw [hfind id]
    cases impl with
    | none => exact h.implementations id
    | some i =>
      simp only [Option.elim_some, Ledger.write, Function.update_apply]
      split
      · rfl
      · exact h.implementations id
  · simp only [getMetric_addImplementation, getMetric_add]
    by_cases heq : id = m.id
    · rw [if_pos heq]
      rfl
    · rw [if_neg heq]
      apply h.owned
      rw [hfind id] at hid
      cases impl with
      | none => exact hid
      | some i => rwa [Option.elim_some, if_neg heq] at hid

/-- Rewriting a row of the metrics changes one entry of the ledger. -/
theorem ledgered_modify (o : MetricStore) (x : Ledger) (id : String) (f : Metric → Metric)
    (hf : ∀ m, (f m).id = m.id) (d : Option MetricMetadata) (h : Ledgered (o, x))
    (hd : (o.getMetric id).map (fun m => (f m).metadata) = d) :
    Ledgered (o.modify id f hf, { x with metrics := Function.update x.metrics id d }) := by
  refine ⟨fun id' => ?_, h.implementations, fun id' hid' => ?_⟩
  · simp only [getMetric_modify, Function.update_apply, Option.map_map]
    by_cases heq : id' = id
    · rw [if_pos heq, heq, ← hd]
      simp [Function.comp_def]
    · rw [if_neg heq, ← h.metrics id']
      simp [heq, Function.comp_def]
  · simp only [getMetric_modify, Option.isSome_map]
    exact h.owned id' hid'

theorem ledgered_updateMetricImplementation (o o' : MetricStore) (x : Ledger) (now : Time)
    (impl : MetricImplementation) (h : Ledgered (o, x))
    (hop : o.perform (.updateMetricImplementation now impl) = .ok o') :
    Ledgered (o', x.write (.updateMetricImplementation now impl)) := by
  obtain ⟨c,hc,rfl⟩ := store_of_map hop
  obtain ⟨hmetric,rfl⟩ := updateMetricImplementation_ok hc
  refine ⟨h.metrics, fun id => ?_, fun id hid => ?_⟩
  · simp only [Keyed.find_save, Ledger.write, Function.update_apply]
    split
    · rfl
    · exact h.implementations id
  · rw [Keyed.find_save] at hid
    split at hid
    · rename_i heq
      rw [heq]
      exact hmetric
    · exact h.owned id hid

/-- A ledger only speaks of the rows. -/
theorem Ledgered.sameRows {o o' : MetricStore} {x : Ledger} (h : Ledgered (o, x))
    (hsame : SameRows o o') : Ledgered (o', x) := by
  obtain ⟨hmetrics,himpls⟩ := hsame
  refine ⟨fun id => ?_, fun id => ?_, fun id hid => ?_⟩
  · rw [hmetrics id]
    exact h.metrics id
  · rw [himpls id]
    exact h.implementations id
  · rw [himpls id] at hid
    rw [hmetrics id]
    exact h.owned id hid

theorem ledgered_perform (s : MetricStore × Ledger) (op : MetricOp) (o' : MetricStore)
    (h : Ledgered s) (hop : Unspoiled s op) (hperform : s.1.perform op = .ok o') :
    Ledgered (o', s.2.write op) := by
  obtain ⟨o,x⟩ := s
  cases op with
  | createMetric m impl => exact ledgered_createMetric o o' x m impl h hperform
  | updateMetric m =>
    obtain ⟨c,hc,rfl⟩ := store_of_map hperform
    obtain ⟨old,hold,rfl⟩ := updateMetric_ok hc
    apply ledgered_modify o x m.id (fun old => old.updated m) (fun _ => rfl) _ h
    rw [hold, Option.map_some]
    simp only [Metric.metadata, Metric.updated, hop old hold]
  | removeMetric now id =>
    obtain ⟨c,hc,rfl⟩ := store_of_map hperform
    rw [removeMetric_ok hc]
    apply ledgered_modify o x id (Metric.deprecated now) (fun _ => rfl) _ h
    rw [← h.metrics id, Option.map_map]
    congr 1
    funext m
    simp [Metric.metadata, Metric.deprecated]
  | updateMetricImplementation now impl =>
    exact ledgered_updateMetricImplementation o o' x now impl h hperform
  | restart now shipped =>
    cases hperform
    exact h.sameRows (sameRows_restart now o shipped hop)

/-- What a ledger says about a store is what its callers read. -/
theorem reflects_of_ledgered (s : MetricStore × Ledger) (h : Ledgered s) : Reflects s.2 s.1 := by
  obtain ⟨o,x⟩ := s
  refine ⟨h.metrics, fun includeDeprecated => ?_, fun id hid => ?_⟩
  · refine ⟨_, listMetrics_pages o includeDeprecated, ?_, fun id d => ?_⟩
    · exact o.ids_nodup.sublist (List.filter_sublist.map Metric.id)
    · have hrow (m : Metric) : m ∈ o.metrics ∧ m.id = id ↔ o.getMetric id = some m :=
        (getMetric_eq_some o id m).symm
      have hd : x.metrics id = some d ↔ ∃ m, o.getMetric id = some m ∧ m.metadata = d := by
        rw [← h.metrics id]
        exact Option.map_eq_some_iff
      rw [hd]
      constructor
      · rintro ⟨m,hm,rfl,rfl⟩
        obtain ⟨hmem,hfilter⟩ := List.mem_filter.mp hm
        refine ⟨⟨m, (hrow m).mp ⟨hmem, rfl⟩, rfl⟩, ?_⟩
        simpa [Metric.metadata] using hfilter
      · rintro ⟨⟨m,hm,rfl⟩,hlisted⟩
        obtain ⟨hmem,hid⟩ := (hrow m).mpr hm
        refine ⟨m, List.mem_filter.mpr ⟨hmem, ?_⟩, hid, rfl⟩
        simpa [Metric.metadata] using hlisted
  · unfold MetricStore.getMetricImplementation
    rw [if_neg hid, h.implementations id]
    cases x.implementations id <;> rfl

theorem ledgered_step (s : MetricStore × Ledger) (op : MetricOp) (s' : MetricStore × Ledger)
    (h : Ledgered s) (hop : Unspoiled s op) (hstep : recordStep s op = some s') :
    Ledgered s' := by
  unfold recordStep at hstep
  split at hstep
  · cases hstep
    exact h
  · rename_i o' hperform
    cases hstep
    exact ledgered_perform s op o' h hop hperform

/-- As long as updates do not touch the interval and restarts find their metrics as they are
shipped, every read shows the last write. -/
theorem reads_show_last_write (o : MetricStore) (howned : o.ImplementationsOwned)
    (ops : List MetricOp) (s : MetricStore × Ledger)
    (hops : Transitions.Allowed recordStep Unspoiled (o, o.ledger) ops)
    (hrun : Transitions.run recordStep (o, o.ledger) ops = some s) : Reflects s.2 s.1 := by
  have hstart : Ledgered (o, o.ledger) := ⟨fun _ => rfl, fun _ => rfl, howned⟩
  exact reflects_of_ledgered s (Transitions.invariant_run ledgered_step ops _ s hstart hops hrun)

end Steps

section Samples

def bootLogging : Metric :=
  ⟨"BootLoggingEnabled", "Boot logging", "", "", .ordinal, some (.allowedValues []), 3600, none⟩

/-- The metric as it is shipped, without a file for its implementation. -/
def shippedBootLogging : ShippedMetric where
  metric := bootLogging
  code := .error ⟨none, "no such file or directory"⟩
  configuration := .error ⟨none, "no such file or directory"⟩
  metricFailure := none
  implementationFailure := none

def bootStore : MetricStore where
  metrics := [bootLogging]
  implementations := Keyed.Rows.empty _
  configurations := Keyed.Rows.empty _
  defaultMetricConfigurations := fun _ => none
  ids_nodup := by decide

/-- An implementation is uploaded before the orchestrator is restarted. -/
def uploadAndRestart : List MetricOp :=
  [.updateMetricImplementation 1 ⟨"BootLoggingEnabled", .rego, "package boot", none⟩,
    .restart 2 (.ok [shippedBootLogging])]

theorem upload_survives_restart :
    ∃ s, Transitions.run recordStep (bootStore, bootStore.ledger) uploadAndRestart = some s ∧
      Reflects s.2 s.1 := by
  obtain ⟨s,hrun⟩ : ∃ s, Transitions.run recordStep (bootStore, bootStore.ledger)
      uploadAndRestart = some s := ⟨_, rfl⟩
  have howned : bootStore.ImplementationsOwned := by
    intro id hid
    cases hid
  refine ⟨s, hrun, reads_show_last_write bootStore howned uploadAndRestart s ?_ hrun⟩
  refine ⟨trivial, fun s₁ h₁ => ⟨?_, fun _ _ => trivial⟩⟩
  cases h₁
  intro ms hms m hm _
  cases hms
  rw [List.mem_singleton.mp hm]
  refine ⟨rfl, fun p hp => ?_⟩
  cases hp

/-- A metric is removed, and the next restart takes that back. An update to another interval
is not taken over at all. -/
theorem restart_restores_removed_metric :
    (∃ s, Transitions.run recordStep (bootStore, bootStore.ledger)
        [.removeMetric 1 "BootLoggingEnabled", .restart 2 (.ok [shippedBootLogging])] = some s ∧
      (s.2.metrics "BootLoggingEnabled").map MetricMetadata.deprecated = some true ∧
      s.1.getMetric "BootLoggingEnabled" = some bootLogging) ∧
    ∃ s, Transitions.run recordStep (bootStore, bootStore.ledger)
        [.updateMetric { bootLogging with interval := 60 }] = some s ∧
      (s.2.metrics "BootLoggingEnabled").map MetricMetadata.interval = some 60 ∧
      s.1.getMetric "BootLoggingEnabled" = some bootLogging := by
  exact ⟨⟨_, rfl, rfl, rfl⟩, _, rfl, rfl, rfl⟩

end Samples
end Clouditor
