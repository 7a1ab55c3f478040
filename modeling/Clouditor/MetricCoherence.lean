import Clouditor.MetricStore
import Clouditor.RegoHistory

/-! The orchestrator and the assessment service together: requests that change metrics,
the events they emit, and evaluations that go through three caches. -/
namespace Clouditor
set_option autoImplicit false

/-- Where the assessment service gets its metrics from: the orchestrator, and the
configurations it has kept. -/
structure AssessmentState where
  store : MetricStore
  conf : ConfigurationCache
  now : ℤ

/-- `Metrics`; the loop over the pages has as many calls as it needs. -/
def AssessmentState.metrics (x : AssessmentState) : Except Err (List String) :=
  match listAllPaginated (fun t => x.store.listMetrics false ⟨0, t, "", false⟩)
      (x.store.metrics.length + 1) .empty with
  | some (.ok ms) => .ok (ms.map Metric.id)
  | some (.error e) => .error (e.wrap "could not retrieve metric list from orchestrator")
  | none => .ok []

def MetricStore.implementationCode (o : MetricStore) (m : String) : Except Err String :=
  match o.getMetricImplementation m with
  | .error e =>
    .error (e.wrap ("could not retrieve metric implementation for " ++ m ++ " from orchestrator"))
  | .ok impl => .ok impl.code

/-- The assessment service as a metrics source, with its access rights at the
orchestrator. -/
def assessmentSource (a : Access) : Source AssessmentState where
  metrics := AssessmentState.metrics
  metricConfiguration x s m :=
    let answer := metricConfiguration x.conf x.now (x.store.getMetricConfiguration a s m) s m
    (answer.1, { x with conf := answer.2 })
  metricImplementation x m := x.store.implementationCode m

/-- The metrics of the orchestrator as they are, without any cache. -/
def MetricStore.view (o : MetricStore) (a : Access) : MetricsSource where
  metrics := .ok o.listed
  metricConfiguration s m := (o.getMetricConfiguration a s m).mapError
    (Err.wrap ("could not retrieve metric configuration for " ++ m))
  metricImplementation := o.implementationCode

/-- `handleMetricEvent` of the assessment service and of the policy evaluation. -/
def handleMetricEvent {Q : Type} (rego : RegoState AssessmentState Q) (ev : MetricChangeEvent) :
    RegoState AssessmentState Q :=
  { rego with
    source := { rego.source with conf := evictConfiguration rego.source.conf ev }
    qc := Memo.evict (fun k => ev.metricId.toList.isPrefixOf k.toList) rego.qc }

/-- Both services, and the events that are under way between them. -/
structure System (Q : Type) where
  rego : RegoState AssessmentState Q
  pending : List MetricChangeEvent

inductive SystemOp (I : Type) where
  | eval (e : Evidence I)
  | createMetric (m : Metric) (impl : Option MetricImplementation)
  | updateMetric (m : Metric)
  | updateMetricImplementation (impl : MetricImplementation)
  | updateMetricConfiguration (caller : Access) (req : UpdateMetricConfigurationRequest)
  | removeMetric (metricId : String)
  | deliver (i : ℕ)
  | advance (duration : ℕ)

section Steps
variable {I : Type} (opa : OPA I) (a : Access) (serviceExists : String → Bool)

def System.store {Q : Type} (st : System Q) : MetricStore := st.rego.source.store

def System.start {Q : Type} (o : MetricStore) (now : ℤ) : System Q :=
  ⟨RegoState.fresh ⟨o, ∅, now⟩, []⟩

/-- The state after a request; one that failed changes nothing. -/
def System.changed {Q α : Type} (st : System Q) : Except Err (Change α) → System Q
  | .error _ => st
  | .ok c => ⟨{ st.rego with source := { st.rego.source with store := c.store } },
      st.pending ++ c.events⟩

/-- Events are sent by goroutines of their own, so they arrive in any order. The result
is `none` if the evaluation panics. -/
def System.step (st : System opa.Query) : SystemOp I → Option (System opa.Query)
  | .eval e => (Clouditor.eval opa (assessmentSource a) st.rego e).map
      (fun p => { st with rego := p.2 })
  | .createMetric m impl => some (st.changed (st.store.createMetric m impl))
  | .updateMetric m => some (st.changed (st.store.updateMetric m))
  | .updateMetricImplementation impl =>
    some (st.changed (st.store.updateMetricImplementation st.rego.source.now impl))
  | .updateMetricConfiguration caller req => some (st.changed
      (st.store.updateMetricConfiguration caller serviceExists st.rego.source.now req))
  | .removeMetric metricId =>
    some (st.changed (st.store.removeMetric st.rego.source.now metricId))
  -- any of the events that are under way may be the next to arrive
  | .deliver i =>
    match st.pending[i]? with
    | none => some st
    | some ev => some ⟨handleMetricEvent st.rego ev, st.pending.eraseIdx i⟩
  | .advance d =>
    let source := { st.rego.source with now := st.rego.source.now + d }
    some { st with rego := { st.rego with source := source } }

def System.run (st : System opa.Query) : List (SystemOp I) → Option (System opa.Query)
  | [] => some st
  | op :: ops => (System.step opa a serviceExists st op).bind (fun st => System.run st ops)

end Steps
section Caches
variable {I : Type} {opa : OPA I} {a : Access}

/-- No event about the metric is under way. -/
def Unannounced (pending : List MetricChangeEvent) (m : String) : Prop :=
  ∀ ev ∈ pending, ev.metricId ≠ m

/-- The configuration that belongs under a key, unless its change is under way. -/
def ConfigurationFor (a : Access) (o : MetricStore) (pending : List MetricChangeEvent)
    (k : String) (entry : CachedConfiguration) : Prop :=
  ∀ (s : ServiceId) m, configurationKey s.1 m = k → .configChanged s m ∉ pending →
    o.getMetricConfiguration a s.1 m = .ok entry.config

theorem getElem?_of_mem_not_mem_eraseIdx {α : Type} (l : List α) (i : ℕ) (x : α) (h : x ∈ l)
    (h' : x ∉ l.eraseIdx i) : l[i]? = some x := by
  obtain ⟨j,hj⟩ := List.mem_iff_getElem?.mp h
  by_contra hne
  have hij : j ≠ i := fun hji => hne (hji ▸ hj)
  exact h' (List.mem_eraseIdx_iff_getElem?.mpr ⟨j, hij, hj⟩)

theorem ConfigurationFor.changed {α : Type} {o : MetricStore} {pending : List MetricChangeEvent}
    {k : String} {entry : CachedConfiguration} {m : String} {created : Bool} {c : Change α}
    (ht : Touches created m o c.store c.events) (h : ConfigurationFor a o pending k entry) :
    ConfigurationFor a c.store (pending ++ c.events) k entry := by
  intro s m' hkey hpending
  rw [List.mem_append, not_or] at hpending
  rw [ht.configuration a s m' hpending.2]
  exact h s m' hkey hpending.1

/-- The arrival of an event about something else says nothing about an entry. -/
theorem ConfigurationFor.arrived {o : MetricStore} {pending : List MetricChangeEvent}
    {k : String} {entry : CachedConfiguration} {i : ℕ} {ev : MetricChangeEvent}
    (h : ConfigurationFor a o pending k entry) (hev : pending[i]? = some ev)
    (hne : ∀ (s : ServiceId) m, configurationKey s.1 m = k → ev ≠ .configChanged s m) :
    ConfigurationFor a o (pending.eraseIdx i) k entry := by
  intro s m hkey hpending
  refine h s m hkey (fun hmem => hne s m hkey ?_)
  have hi := getElem?_of_mem_not_mem_eraseIdx _ i _ hmem hpending
  rw [hev] at hi
  exact Option.some.inj hi

/-- Handling an event evicts the configuration that the event was about. -/
theorem holds_evictConfiguration {o : MetricStore} {pending : List MetricChangeEvent}
    {conf : ConfigurationCache} {i : ℕ} {ev : MetricChangeEvent}
    (h : Memo.Holds (ConfigurationFor a o pending) conf) (hev : pending[i]? = some ev) :
    Memo.Holds (ConfigurationFor a o (pending.eraseIdx i)) (evictConfiguration conf ev) := by
  intro k entry hl
  have hkept : conf.lookup k = some entry ∧
      ∀ (s : ServiceId) m, configurationKey s.1 m = k → ev ≠ .configChanged s m := by
    cases ev with
    | metadataChanged m' => exact ⟨hl, fun _ _ _ => nofun⟩
    | implementationChanged m' => exact ⟨hl, fun _ _ _ => nofun⟩
    | configChanged s' m' =>
      by_cases hk : k = configurationKey s'.1 m'
      · rw [hk, evictConfiguration, AList.lookup_erase] at hl
        cases hl
      · rw [evictConfiguration, AList.lookup_erase_ne hk] at hl
        refine ⟨hl, fun s m hkey heq => ?_⟩
        cases heq
        exact hk hkey.symm
  exact (h k entry hkept.1).arrived hev hkept.2

def Tracks (a : Access) (o : MetricStore) (pending : List MetricChangeEvent)
    (x : AssessmentState) : Prop :=
  x.store = o ∧ Memo.Holds (ConfigurationFor a o pending) x.conf

theorem Unannounced.config {pending : List MetricChangeEvent} {m : String}
    (h : Unannounced pending m) (s : ServiceId) : .configChanged s m ∉ pending :=
  fun hmem => h _ hmem rfl

theorem assessment_reads (a : Access) (o : MetricStore) (pending : List MetricChangeEvent) :
    Reads (assessmentSource a) (Tracks a o pending) (o.view a) (Unannounced pending) where
  metrics := by
    rintro x ⟨rfl,_⟩
    change AssessmentState.metrics x = _
    rw [AssessmentState.metrics, listMetrics_all]
    rfl
  configuration := by
    rintro x s m ⟨rfl,hconf⟩ hs hcur
    exact metricConfiguration_eq hconf x.now _ s m
      (fun entry hentry => hentry ⟨s, hs⟩ m rfl (hcur.config ⟨s, hs⟩))
  configuration_good := by
    rintro x s m ⟨rfl,hconf⟩ hs
    refine ⟨rfl, holds_metricConfiguration hconf x.now _ s m ?_⟩
    intro config hfetched s' m' hkey _
    obtain ⟨rfl,rfl⟩ := configurationKey_inj s' ⟨s, hs⟩ m' m hkey
    exact hfetched
  implementation := by
    rintro x m ⟨rfl,_⟩
    rfl

/-- The caches agree with the orchestrator about every metric without pending events. -/
abbrev CachesAgree (a : Access) (Names : String → Prop) (st : System opa.Query) : Prop :=
  Coherent (Tracks a st.store st.pending) (st.store.view a) Names (Unannounced st.pending) st.rego

theorem agrees_changed {Names : String → Prop} {α : Type} (st : System opa.Query) (m : String)
    (c : Change α) {created : Bool} (ht : Touches created m st.store c.store c.events)
    (h : CachesAgree a Names st) :
    CachesAgree a Names (st.changed (.ok c)) := by
  have hconf (s : ServiceId) (m' : String) (hm' : Unannounced c.events m') :
      (c.store.view a).metricConfiguration s.1 m' =
        (st.store.view a).metricConfiguration s.1 m' := by
    simp only [MetricStore.view, ht.configuration a s m' (hm'.config s)]
  have himpl (m' : String) (hm' : Unannounced c.events m') :
      (c.store.view a).metricImplementation m' = (st.store.view a).metricImplementation m' := by
    simp only [MetricStore.view, MetricStore.implementationCode, ht.implementation m' hm']
  have hsplit (m' : String) (hm' : Unannounced (st.pending ++ c.events) m') :
      Unannounced st.pending m' ∧ Unannounced c.events m' :=
    ⟨fun ev hev => hm' ev (List.mem_append_left _ hev),
      fun ev hev => hm' ev (List.mem_append_right _ hev)⟩
  constructor
  · exact ⟨rfl, h.good.2.mono (fun _ _ hentry => hentry.changed ht)⟩
  · refine h.queries.mono ?_
    intro k q hq s m' config hs hm' hcur hc hkey
    obtain ⟨hold,hnew⟩ := hsplit m' hcur
    change (c.store.view a).metricConfiguration s m' = _ at hc
    change prepareQuery opa m' config ((c.store.view a).metricImplementation m') = _
    rw [hconf ⟨s, hs⟩ m' hnew] at hc
    rw [himpl m' hnew]
    exact hq s m' config hs hm' hold hc hkey
  · exact h.names

/-- Handling an event evicts all that the event was about. -/
theorem agrees_deliver {Names : String → Prop} (st : System opa.Query) (i : ℕ)
    (ev : MetricChangeEvent) (hev : st.pending[i]? = some ev) (h : CachesAgree a Names st) :
    CachesAgree a Names ⟨handleMetricEvent st.rego ev, st.pending.eraseIdx i⟩ := by
  constructor
  · exact ⟨rfl, holds_evictConfiguration h.good.2 hev⟩
  · refine Memo.holds_evict _ h.queries ?_
    intro k q hprefix hq s m config hs hm hcur hc hkey
    refine hq s m config hs hm (fun ev' hev' hm' => ?_) hc hkey
    by_cases hstill : ev' ∈ st.pending.eraseIdx i
    -- an event that is still under way is ruled out
    · exact hcur ev' hstill hm'
    · -- the event is the one that is handled, so the key begins with its metric
      have hi := getElem?_of_mem_not_mem_eraseIdx _ i _ hev' hstill
      rw [hev] at hi
      cases Option.some.inj hi
      have hp : ev.metricId.toList.isPrefixOf k.toList = true := by
        rw [hm', ← hkey, List.isPrefixOf_iff_prefix, queryKey, String.toList_append,
          String.toList_append, String.toList_append, String.toList_append]
        simp only [List.append_assoc]
        exact List.prefix_append _ _
      rw [hp] at hprefix
      cases hprefix
  · exact h.names

end Caches
section Lists
variable {I : Type} {opa : OPA I}

/-- A metric that is on the list must not be one to be ignored, and one that is not must
not matter. -/
def Fits (onList : Bool) (v : Verdict) : Prop :=
  if onList then stopOf v = hardStopOf v else hardStopOf v = none ∧ resultOf v = none

/-- The list under a key of the metrics cache is right for every evidence of that key. -/
structure Settled (opa : OPA I) (src : MetricsSource) (ms : List String) (k : String)
    (l : List String) : Prop where
  listed : ms.filter (fun m => l.contains m) = l
  verdicts : ∀ e : Evidence I, createKey e = k → ∀ input, e.input = .ok input →
    ∀ m ∈ ms, Fits (l.contains m) (src.verdict opa e.cloudServiceId input m)

theorem findSome?_filter {α β : Type} (p : α → Bool) (f g : α → Option β) (l : List α)
    (hpos : ∀ x ∈ l, p x = true → f x = g x) (hneg : ∀ x ∈ l, p x = false → g x = none) :
    (l.filter p).findSome? f = l.findSome? g := by
  induction l with
  | nil => rfl
  | cons x l ih =>
    obtain ⟨hposx,hposl⟩ := List.forall_mem_cons.mp hpos
    obtain ⟨hnegx,hnegl⟩ := List.forall_mem_cons.mp hneg
    rw [List.findSome?_cons, ← ih hposl hnegl]
    cases hp : p x with
    | true => rw [List.filter_cons_of_pos hp, List.findSome?_cons, hposx hp]
    | false => rw [List.filter_cons_of_neg (by simp [hp]), hnegx hp]

/-- Over a settled list an evaluation ends and finds what it does over all metrics. -/
theorem Settled.evalWith {src : MetricsSource} {ms l : List String} {e : Evidence I}
    (h : Settled opa src ms (createKey e) l) (hms : src.metrics = .ok ms) :
    src.evalWith opa (some l) e = src.evalWith opa none e := by
  unfold MetricsSource.evalWith
  cases hin : e.input with
  | error err => rfl
  | ok input =>
    let v := src.verdict opa e.cloudServiceId input
    have hfits (m : String) (hm : m ∈ ms) : Fits (l.contains m) (v m) :=
      h.verdicts e rfl input hin m hm
    have hon (m : String) (hm : m ∈ ms) (hl : l.contains m = true) :
        stopOf (v m) = hardStopOf (v m) := by
      have hm := hfits m hm
      rwa [Fits, if_pos hl] at hm
    have hoff (m : String) (hm : m ∈ ms) (hl : l.contains m = false) :
        hardStopOf (v m) = none ∧ resultOf (v m) = none := by
      have hm := hfits m hm
      rwa [Fits, if_neg (by rw [hl]; decide)] at hm
    have hstop := findSome?_filter (fun m => l.contains m) (fun m => stopOf (v m))
      (fun m => hardStopOf (v m)) ms hon (fun m hm hl => (hoff m hm hl).1)
    have hdata := (filter_filterMap_iff (fun m => l.contains m) (fun m => resultOf (v m)) ms).mpr
      (by
        intro m hm hsome
        by_contra hl
        rw [(hoff m hm (by simpa using hl)).2] at hsome
        cases hsome)
    rw [h.listed] at hstop hdata
    simp only [hms, loopWith_eq]
    rw [hstop, hdata]

/-- The evidence that fills the cache finds the same metrics applicable as every other
evidence of its types and tool. -/
def Representative (opa : OPA I) (src : MetricsSource) (ms : List String) (e : Evidence I) :
    Prop :=
  ∀ e' : Evidence I, createKey e' = createKey e → ∀ input input', e.input = .ok input →
    e'.input = .ok input' → ∀ m ∈ ms, Fits (applicable opa src e.cloudServiceId input m)
      (src.verdict opa e'.cloudServiceId input' m)

theorem Representative.settled {src : MetricsSource} {ms l : List String} {e : Evidence I}
    (h : Representative opa src ms e) (hms : src.metrics = .ok ms)
    (hl : src.fills opa e = some l) : Settled opa src ms (createKey e) l := by
  obtain ⟨input,ms',hin,hms',rfl⟩ := fills_eq e l hl
  cases hms.symm.trans hms'
  have hcontains (m : String) (hm : m ∈ ms) :
      (ms.filter (applicable opa src e.cloudServiceId input)).contains m =
        applicable opa src e.cloudServiceId input m := by
    rw [Bool.eq_iff_iff, List.contains_iff_mem, List.mem_filter]
    exact ⟨fun h => h.2, fun h => ⟨hm, h⟩⟩
  constructor
  · exact List.filter_congr hcontains
  · intro e' hkey input' hin' m hm
    rw [hcontains m hm]
    exact h e' hkey input input' hin hin' m hm

/-- After a change of one metric only this metric can make a list wrong. -/
theorem Settled.changed {a : Access} {m : String} {o o' : MetricStore}
    {events : List MetricChangeEvent} {k : String} {l : List String} {created : Bool}
    (ht : Touches created m o o' events) (h : Settled opa (o.view a) o.listed k l)
    (hstays : m ∈ l → m ∈ o'.listed)
    (hfits : m ∈ o'.listed → ∀ e : Evidence I, createKey e = k → ∀ input, e.input = .ok input →
      Fits (l.contains m) ((o'.view a).verdict opa e.cloudServiceId input m)) :
    Settled opa (o'.view a) o'.listed k l := by
  -- a verdict depends on the configuration and the implementation of its metric alone
  have hother (m' : String) (hne : m' ≠ m) (e : Evidence I) (input : I) :
      (o'.view a).verdict opa e.cloudServiceId input m' =
        (o.view a).verdict opa e.cloudServiceId input m' := by
    have hquiet : Unannounced events m' := fun ev hev heq => hne (heq.symm.trans (ht.only ev hev))
    have hconf := ht.configuration a ⟨e.cloudServiceId, e.service_uuid⟩ m' (hquiet.config _)
    simp only [MetricsSource.verdict, MetricStore.view, hconf, MetricStore.implementationCode,
      ht.implementation m' hquiet]
  have hmem (m' : String) (hne : m' ≠ m) (hm' : m' ∈ o'.listed) : m' ∈ o.listed := by
    have hp := ht.listed_others (fun x => x = m') (by simpa using hne.symm)
    have hin : m' ∈ o'.listed.filter (fun x => x = m') := List.mem_filter.mpr ⟨hm', by simp⟩
    rw [hp] at hin
    exact List.mem_of_mem_filter hin
  constructor
  -- a metric on the list stays listed, one that is not is filtered out anyway
  · by_cases hm : m ∈ l
    · have hold : m ∈ o.listed := by
        rw [← h.listed] at hm
        exact List.mem_of_mem_filter hm
      rw [ht.listed_same hold (hstays hm)]
      exact h.listed
    · rw [ht.listed_others _ (by simpa using hm)]
      exact h.listed
  · intro e hkey input hin m' hm'
    by_cases hne : m' = m
    · subst hne
      exact hfits hm' e hkey input hin
    · rw [hother m' hne]
      exact h.verdicts e hkey input hin m' (hmem m' hne hm')

end Lists
section Coherence
variable {I : Type} {opa : OPA I} {a : Access} {serviceExists : String → Bool}
  {Names : String → Prop}

/-- Wherever the request changes a metric, the lists of the metrics cache stay right
without being touched. -/
def RequestOk (opa : OPA I) (a : Access) (st : System opa.Query) (m : String) {α : Type}
    (answer : Except Err (Change α)) : Prop :=
  ∀ c, answer = .ok c → ∀ k l, st.rego.mrtc.lookup k = some l →
    (m ∈ l → m ∈ c.store.listed) ∧
    (m ∈ c.store.listed → ∀ e : Evidence I, createKey e = k → ∀ input, e.input = .ok input →
      Fits (l.contains m) ((c.store.view a).verdict opa e.cloudServiceId input m))

/-- The steps that do not break the coherence of the caches. An evaluation that fills the
metrics cache comes after the events about the listed metrics and is representative, and
a change of a configuration is one of the row the request names. -/
def StepOk (opa : OPA I) (a : Access) (serviceExists : String → Bool) (Names : String → Prop)
    (st : System opa.Query) : SystemOp I → Prop
  | .eval e => st.rego.mrtc.lookup (createKey e) = none →
      (∀ m ∈ st.store.listed, Unannounced st.pending m) ∧
        Representative opa (st.store.view a) st.store.listed e
  | .createMetric m impl => Names m.id ∧ RequestOk opa a st m.id (st.store.createMetric m impl)
  | .updateMetric m => RequestOk opa a st m.id (st.store.updateMetric m)
  | .updateMetricImplementation impl => RequestOk opa a st impl.metricId
      (st.store.updateMetricImplementation st.rego.source.now impl)
  | .updateMetricConfiguration caller req =>
      req.configuration.metricId = req.metricId ∧
      req.configuration.cloudServiceId = req.cloudServiceId ∧
      RequestOk opa a st req.metricId
        (st.store.updateMetricConfiguration caller serviceExists st.rego.source.now req)
  | .removeMetric metricId => RequestOk opa a st metricId
      (st.store.removeMetric st.rego.source.now metricId)
  | .deliver _ => True
  | .advance _ => True

def RunOk (opa : OPA I) (a : Access) (serviceExists : String → Bool) (Names : String → Prop)
    (st : System opa.Query) : List (SystemOp I) → Prop
  | [] => True
  | op :: ops => StepOk opa a serviceExists Names st op ∧
      ∀ st', System.step opa a serviceExists st op = some st' →
        RunOk opa a serviceExists Names st' ops

structure Sound (a : Access) (Names : String → Prop) (st : System opa.Query) : Prop where
  names : ∀ m ∈ st.store.metrics, Names m.id
  agrees : CachesAgree a Names st
  settled : Memo.Holds (Settled opa (st.store.view a) st.store.listed) st.rego.mrtc

theorem Sound.listed {st : System opa.Query} (h : Sound a Names st) (m : String)
    (hm : (st.store.view a).Listed m) : Names m := by
  obtain ⟨ms,hms,hm⟩ := hm
  cases hms
  obtain ⟨x,hx,rfl⟩ := List.mem_map.mp hm
  exact h.names x (List.mem_of_mem_filter hx)

theorem sound_start (o : MetricStore) (now : ℤ) (hnames : ∀ m ∈ o.metrics, Names m.id) :
    Sound a Names (System.start o now : System opa.Query) where
  names := hnames
  agrees := ⟨⟨rfl, Memo.holds_empty _⟩, Memo.holds_empty _, Memo.holds_empty _⟩
  settled := Memo.holds_empty _

theorem sound_changed {α : Type} {st : System opa.Query} (h : Sound a Names st) (m : String)
    (answer : Except Err (Change α)) (created : Bool) (hnew : created = true → Names m)
    (ht : ∀ c, answer = .ok c → Touches created m st.store c.store c.events)
    (hok : RequestOk opa a st m answer) : Sound a Names (st.changed answer) := by
  cases answer with
  | error e => exact h
  | ok c =>
    have htouch := ht c rfl
    refine ⟨?_, agrees_changed st m c htouch h.agrees, ?_⟩
    · intro x hx
      rcases htouch.ids x hx with ⟨hc,hid⟩ | ⟨y,hy,hid⟩
      · exact hid ▸ hnew hc
      · exact hid ▸ h.names y hy
    · intro k l hl
      obtain ⟨hstays,hfits⟩ := hok c rfl k l hl
      exact (h.settled k l hl).changed htouch hstays hfits

theorem sound_eval {st st' : System opa.Query} (hnames : Unextended Names)
    (h : Sound a Names st) (e : Evidence I)
    (hok : StepOk opa a serviceExists Names st (.eval e))
    (hstep : System.step opa a serviceExists st (.eval e) = some st') : Sound a Names st' := by
  have hlisted (m : String) (hm : (st.store.view a).Listed m) : m ∈ st.store.listed := by
    obtain ⟨ms,hms,hm⟩ := hm
    cases hms
    exact hm
  obtain ⟨v,rego,heval,hco,_,hlook⟩ := eval_answers (assessment_reads a st.store st.pending)
    hnames h.listed st.rego h.agrees e (fun hnone m hm => (hok hnone).1 m (hlisted m hm))
  rw [System.step, heval] at hstep
  cases v with
  | none => cases hstep
  | some out =>
    cases hstep
    have hstore : rego.source.store = st.store := hco.good.1
    -- a list is either new and representative or was there before
    have hall : Memo.Holds (Settled opa (st.store.view a) st.store.listed) rego.mrtc := by
      intro k l hl
      rw [hlook rfl k] at hl
      split at hl
      · rename_i hfilled
        obtain ⟨rfl,hnone⟩ := hfilled
        exact (hok hnone).2.settled rfl hl
      · exact h.settled k l hl
    constructor
    · change ∀ m ∈ rego.source.store.metrics, _
      rw [hstore]
      exact h.names
    · change Coherent (Tracks a rego.source.store _) (rego.source.store.view a) _ _ _
      rw [hstore]
      exact hco
    · change Memo.Holds (Settled opa (rego.source.store.view a) rego.source.store.listed) _
      rw [hstore]
      exact hall

theorem sound_step {st st' : System opa.Query} (hnames : Unextended Names)
    (h : Sound a Names st) (op : SystemOp I) (hok : StepOk opa a serviceExists Names st op)
    (hstep : System.step opa a serviceExists st op = some st') : Sound a Names st' := by
  cases op with
  | eval e => exact sound_eval hnames h e hok hstep
  | createMetric m impl =>
    cases hstep
    exact sound_changed h m.id _ true (fun _ => hok.1)
      (fun c hc => touches_createMetric _ m impl c hc) hok.2
  | updateMetric m =>
    cases hstep
    exact sound_changed h m.id _ false nofun (fun c hc => touches_updateMetric _ m c hc) hok
  | updateMetricImplementation impl =>
    cases hstep
    exact sound_changed h impl.metricId _ false nofun
      (fun c hc => touches_updateMetricImplementation _ _ impl c hc) hok
  | updateMetricConfiguration caller req =>
    cases hstep
    obtain ⟨hm,hs,hok⟩ := hok
    exact sound_changed h req.metricId _ false nofun
      (fun c hc => touches_updateMetricConfiguration _ caller serviceExists _ req c hm hs hc) hok
  | removeMetric metricId =>
    cases hstep
    exact sound_changed h metricId _ false nofun
      (fun c hc => touches_removeMetric _ _ metricId c hc) hok
  | deliver i =>
    rw [System.step] at hstep
    cases hev : st.pending[i]? with
    | none =>
      rw [hev] at hstep
      cases hstep
      exact h
    | some ev =>
      rw [hev] at hstep
      cases hstep
      exact ⟨h.names, agrees_deliver st i ev hev h.agrees, h.settled⟩
  | advance d =>
    cases hstep
    exact ⟨h.names, ⟨h.agrees.good, h.agrees.queries, h.agrees.names⟩, h.settled⟩

theorem sound_run {st st' : System opa.Query} (hnames : Unextended Names)
    (h : Sound a Names st) (ops : List (SystemOp I))
    (hok : RunOk opa a serviceExists Names st ops)
    (hrun : System.run opa a serviceExists st ops = some st') : Sound a Names st' := by
  induction ops generalizing st with
  | nil =>
    cases hrun
    exact h
  | cons op ops ih =>
    rw [System.run] at hrun
    obtain ⟨st1,hstep,hrest⟩ := Option.bind_eq_some_iff.mp hrun
    exact ih (sound_step hnames h op hok.1 hstep) (hok.2 st1 hstep) hrest

/-- In every run of such steps, whenever no event is under way, an evaluation of any
evidence ends as it would with empty caches. -/
theorem eval_coherent (hnames : Unextended Names) (o : MetricStore) (now : ℤ)
    (hstart : ∀ m ∈ o.metrics, Names m.id) (ops : List (SystemOp I))
    (hok : RunOk opa a serviceExists Names (System.start o now) ops) (st : System opa.Query)
    (hrun : System.run opa a serviceExists (System.start o now) ops = some st)
    (hquiet : st.pending = []) (e : Evidence I) :
    (eval opa (assessmentSource a) st.rego e).map Prod.fst =
      (eval opa (assessmentSource a)
        (RegoState.fresh ⟨st.store, ∅, st.rego.source.now⟩) e).map Prod.fst := by
  have h := sound_run hnames (sound_start o now hstart) ops hok hrun
  have hfresh : Sound a Names (System.start st.store st.rego.source.now : System opa.Query) :=
    sound_start st.store st.rego.source.now h.names
  have hcur (m : String) : Unannounced st.pending m := by
    rw [hquiet]
    exact nofun
  obtain ⟨v,_,heval,_,hv,_⟩ := eval_answers (assessment_reads a st.store st.pending)
    hnames h.listed st.rego h.agrees e (fun _ m _ => hcur m)
  obtain ⟨v0,_,heval0,_,hv0,_⟩ := eval_answers (assessment_reads a st.store [])
    hnames hfresh.listed _ hfresh.agrees e (fun _ m _ => nofun)
  -- with nothing under way both answers are those of the verdicts
  have hsame : v = v0 := by
    rw [hv hcur, hv0 (fun m => nofun)]
    cases hl : st.rego.mrtc.lookup (createKey e) with
    | none => rfl
    | some l => exact (h.settled _ l hl).evalWith rfl
  rw [heval]
  change _ = (eval opa (assessmentSource a) (System.start st.store _).rego e).map Prod.fst
  rw [heval0, hsame, Option.map_map, Option.map_map]
  rfl

/-- A policy engine whose one policy applies to every resource. -/
def encryptionOPA : OPA (List String) where
  Query := MetricConfiguration
  prepare _ config _ := .ok config
  eval config input := .ok [{
    applicable := some true
    compliant := some (input.contains config.targetValue)
    operator := some config.operator
    targetValue := config.targetValue
    config := .ok config }]

def encryptionStore : MetricStore where
  metrics := [⟨"TransportEncryption", "Transport encryption", "", "", .nominal,
    some (.allowedValues ["none", "TLS"]), 0, none⟩]
  implementations := (Keyed.Rows.empty _).save
    ⟨"TransportEncryption", .rego, "package clouditor.metrics.transport_encryption", none⟩
  configurations := Keyed.Rows.empty _
  defaultMetricConfigurations m :=
    if m = "TransportEncryption" then some ⟨"==", "TLS", true, none, m, ""⟩ else none
  ids_nodup := by decide

/-- A request to accept another transport encryption for the service of `machine`. -/
def encryptionRequest : UpdateMetricConfigurationRequest where
  cloudServiceId := "11111111-1111-1111-1111-111111111111"
  metricId := "TransportEncryption"
  configuration := ⟨"==", "none", false, none, "TransportEncryption",
    "11111111-1111-1111-1111-111111111111"⟩

/-- An evaluation, a change of the configuration, and the arrival of its event. -/
def encryptionOps : List (SystemOp (List String)) :=
  [.eval (machine ["TLS"]), .updateMetricConfiguration .allowAll encryptionRequest, .deliver 0]

theorem encryption_verdict (o : MetricStore) (e : Evidence (List String)) (input : List String)
    (himpl : o.implementations = encryptionStore.implementations)
    (hdefault : o.defaultMetricConfigurations = encryptionStore.defaultMetricConfigurations) :
    ∃ r, (o.view .allowAll).verdict encryptionOPA e.cloudServiceId input "TransportEncryption" =
      some (.ok (some r)) := by
  have hcode : o.implementationCode "TransportEncryption" =
      .ok "package clouditor.metrics.transport_encryption" := by
    rw [MetricStore.implementationCode, MetricStore.getMetricImplementation, himpl]
    rfl
  have hconf : ∃ c, o.getMetricConfiguration .allowAll e.cloudServiceId "TransportEncryption" =
      .ok c := by
    rw [MetricStore.getMetricConfiguration, e.service_uuid, hdefault]
    cases hl : o.configurations.find ("TransportEncryption", e.cloudServiceId) with
    | some c => exact ⟨c, rfl⟩
    | none => exact ⟨_, rfl⟩
  obtain ⟨c,hc⟩ := hconf
  simp only [MetricsSource.verdict, MetricStore.view, hc, hcode]
  exact ⟨_, rfl⟩

theorem eval_coherent_encryption :
    ∃ st, System.run encryptionOPA .allowAll (fun _ => true) (System.start encryptionStore 0)
        encryptionOps = some st ∧ st.pending = [] ∧
      ∀ e, (eval encryptionOPA (assessmentSource .allowAll) st.rego e).map Prod.fst =
        (eval encryptionOPA (assessmentSource .allowAll)
          (RegoState.fresh ⟨st.store, ∅, st.rego.source.now⟩) e).map Prod.fst := by
  have hnames : Unextended (fun m => m = "TransportEncryption") := unextended_singleton _
  have hstart (m : Metric) (hm : m ∈ encryptionStore.metrics) : m.id = "TransportEncryption" := by
    rw [List.mem_singleton.mp hm]
  have hfits (o : MetricStore) (himpl : o.implementations = encryptionStore.implementations)
      (hdefault : o.defaultMetricConfigurations = encryptionStore.defaultMetricConfigurations)
      (e : Evidence (List String)) (input : List String) :
      Fits true ((o.view .allowAll).verdict encryptionOPA e.cloudServiceId input
        "TransportEncryption") := by
    obtain ⟨r,hr⟩ := encryption_verdict o e input himpl hdefault
    rw [hr]
    rfl
  have hok : RunOk encryptionOPA .allowAll (fun _ => true) (fun m => m = "TransportEncryption")
      (System.start encryptionStore 0) encryptionOps := by
    refine ⟨?_, ?_⟩
    · intro _
      refine ⟨fun m _ => nofun, ?_⟩
      intro e' _ input input' hin _ m hm
      rw [List.mem_singleton.mp hm]
      cases hin
      exact hfits encryptionStore rfl rfl e' input'
    · intro st hst
      cases hst
      refine ⟨⟨rfl, rfl, ?_⟩, fun _ _ => ⟨trivial, fun _ _ => trivial⟩⟩
      intro c hc k l hl
      have himpl : c.store.implementations = encryptionStore.implementations := by
        cases hc
        rfl
      have hdefault : c.store.defaultMetricConfigurations =
          encryptionStore.defaultMetricConfigurations := by
        cases hc
        rfl
      have hlisted : "TransportEncryption" ∈ c.store.listed := by
        cases hc
        exact List.mem_singleton.mpr rfl
      have hlist : l = ["TransportEncryption"] := by
        change ((∅ : Memo.Table String (List String)).insert (createKey (machine ["TLS"]))
          ["TransportEncryption"]).lookup k = some l at hl
        by_cases hk : k = createKey (machine ["TLS"])
        · rw [hk, AList.lookup_insert] at hl
          exact (Option.some.inj hl).symm
        · rw [AList.lookup_insert_ne hk] at hl
          cases hl
      subst hlist
      exact ⟨fun _ => hlisted, fun _ e _ input _ => hfits c.store himpl hdefault e input⟩
  exact ⟨_, rfl, rfl,
    fun e => eval_coherent hnames encryptionStore 0 hstart encryptionOps hok _ rfl rfl e⟩

/-- A removed metric is still assessed: no event tells the evaluation, and the list of
metrics for the types of the resource stays. -/
theorem eval_coherent_removed :
    ∃ st, System.run encryptionOPA .allowAll (fun _ => true) (System.start encryptionStore 0)
        [.eval (machine ["TLS"]), .removeMetric "TransportEncryption"] = some st ∧
      st.pending = [] ∧
      (eval encryptionOPA (assessmentSource .allowAll) st.rego (machine ["TLS"])).map
          (fun p => answer p.1) ≠
        (eval encryptionOPA (assessmentSource .allowAll)
          (RegoState.fresh ⟨st.store, ∅, st.rego.source.now⟩) (machine ["TLS"])).map
          (fun p => answer p.1) :=
  ⟨_, rfl, rfl, by decide +kernel⟩

end Coherence
end Clouditor
