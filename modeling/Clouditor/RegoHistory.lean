import Clouditor.RegoEval

/-! What the caches of `regoEval` may change: an evaluation compared with the same
evaluation by an evaluator that has seen nothing yet. -/
namespace Clouditor
set_option autoImplicit false

section Keys

/-- No name continues another one with a dash and the id of a cloud service, so that names
can be told from what follows them in a query key. -/
def Unextended (Named : String → Prop) : Prop :=
  ∀ m m' s, Named m → Named m' → isUuid s = true → ¬ m.toList ++ '-' :: s.toList <+: m'.toList

theorem unextended_singleton (m : String) : Unextended (fun m' => m' = m) := by
  rintro _ _ s rfl rfl _ hprefix
  have hlen := hprefix.length_le
  simp only [List.length_append, List.length_cons] at hlen
  omega

/-- The dash in front of an id of a service is none of the dashes of another such id. -/
theorem uuid_isPrefix (s s' : String) (hs : isUuid s = true) (hs' : isUuid s' = true)
    (a u v : List Char) (h : s.toList ++ '-' :: u = a ++ '-' :: (s'.toList ++ '-' :: v)) :
    s.toList <+: a := by
  have hlen := isUuid_length s hs
  have hlen' := isUuid_length s' hs'
  rcases List.append_eq_append_iff.mp h with ⟨b,ha,_⟩ | ⟨b,hb,hrest⟩
  · exact ⟨b, ha.symm⟩
  · cases b with
    | nil =>
      rw [List.append_nil] at hb
      exact ⟨[], by rw [hb, List.append_nil]⟩
    | cons c b =>
      obtain ⟨rfl,htail⟩ := List.cons.inj hrest
      -- `s` has a dash after `a`, and what is left of it is followed by one in `s'`
      have hat : s.toList[a.length]? = some '-' := by rw [hb]; simp
      have hat' : s'.toList[b.length]? = some '-' := by
        have hlt : b.length < s'.toList.length := by
          rw [hb, List.length_append, List.length_cons] at hlen
          omega
        rw [← List.getElem?_append_left hlt, htail]
        simp
      have hpos := isUuid_dash s hs _ hat
      have hpos' := isUuid_dash s' hs' _ hat'
      rw [hb, List.length_append, List.length_cons] at hlen
      omega

/-- Metric and service can be read off a query key. -/
theorem queryKey_inj {Named : String → Prop} (hnames : Unextended Named) (m m' s s' : String)
    (c c' : MetricConfiguration) (hm : Named m) (hm' : Named m') (hs : isUuid s = true)
    (hs' : isUuid s' = true) (h : queryKey m s c = queryKey m' s' c') : m = m' ∧ s = s' := by
  have hl (m s : String) (c : MetricConfiguration) : (queryKey m s c).toList =
      m.toList ++ '-' :: (s.toList ++ '-' :: c.hash.toList) := by
    simp [queryKey, String.toList_append]
  have hlen : s.toList.length = s'.toList.length := by
    rw [isUuid_length s hs, isUuid_length s' hs']
  -- the longer name would continue the shorter one with the id of its service
  have hshort (m m' s s' : String) (u v a : List Char) (hm : Named m) (hm' : Named m')
      (hs : isUuid s = true) (hs' : isUuid s' = true) (ha : m'.toList = m.toList ++ a)
      (hrest : '-' :: (s.toList ++ '-' :: u) = a ++ '-' :: (s'.toList ++ '-' :: v)) : a = [] := by
    cases a with
    | nil => rfl
    | cons b a =>
      obtain ⟨rfl,htail⟩ := List.cons.inj hrest
      obtain ⟨w,hw⟩ := uuid_isPrefix s s' hs hs' a u v htail
      refine absurd ⟨w, ?_⟩ (hnames m m' s hm hm' hs)
      rw [ha, ← hw, List.append_assoc, List.cons_append]
  have heq := congrArg String.toList h
  rw [hl, hl] at heq
  have hmm : m.toList = m'.toList := by
    rcases List.append_eq_append_iff.mp heq with ⟨a,ha,hrest⟩ | ⟨a,ha,hrest⟩
    · rw [hshort m m' s s' _ _ a hm hm' hs hs' ha hrest, List.append_nil] at ha
      exact ha.symm
    · rw [hshort m' m s' s _ _ a hm' hm hs' hs ha hrest, List.append_nil] at ha
      exact ha
  rw [hmm, List.append_cancel_left_eq, List.cons.injEq] at heq
  exact ⟨String.toList_inj.mp hmm, String.toList_inj.mp (List.append_inj heq.2 hlen).1⟩

end Keys

section Verdicts
variable {I : Type} (opa : OPA I) (src : MetricsSource)

/-- One metric against one resource, with the policy and the configuration of the
source as they are. -/
def MetricsSource.verdict (serviceId : String) (input : I) (metricId : String) : Verdict :=
  match src.metricConfiguration serviceId metricId with
  | .error e => some
      (.error (e.wrap ("could not fetch metric configuration for metric " ++ metricId)))
  | .ok config =>
    match prepareQuery opa metricId config (src.metricImplementation metricId) with
    | .error e => some (.error (e.wrap ("could not fetch cached query for metric " ++ metricId)))
    | .ok query => runQuery opa metricId query input

/-- How a loop over metrics can end before its last metric. -/
inductive Stop where
  | panic
  | error (e : Err)
  deriving DecidableEq

def stopWith (skip : Err → Bool) : Verdict → Option Stop
  | none => some .panic
  | some (.error e) => if skip e then none else some (.error e)
  | some (.ok _) => none

/-- Where the loop over cached metrics stops. -/
abbrev stopOf : Verdict → Option Stop := stopWith (fun _ => false)

/-- Where the filling loop stops. -/
abbrev hardStopOf : Verdict → Option Stop := stopWith ignorable

def resultOf : Verdict → Option PolicyResult
  | some (.ok r) => r
  | _ => none

/-- What a loop returns that ends at `stop`, or runs through and collects `data`. -/
def outcomeOf (stop : Option Stop) (data : List PolicyResult) :
    Option (Except Err (List PolicyResult)) :=
  match stop with
  | some .panic => none
  | some (.error e) => some (.error e)
  | none => some (.ok data)

def Stop.isPanic : Stop → Bool
  | .panic => true
  | .error _ => false

/-- An answer up to the text of its error. -/
def answer (v : Except Err (List PolicyResult)) : Option (List PolicyResult) := v.toOption

theorem outcomeOf_answer_iff (a b : Option Stop) (d d' : List PolicyResult) :
    (outcomeOf a d).map answer = (outcomeOf b d').map answer ↔
      a.map Stop.isPanic = b.map Stop.isPanic ∧ (b = none → d = d') := by
  rcases a with _ | _ | e <;> rcases b with _ | _ | e' <;>
    simp [outcomeOf, answer, Except.toOption, Stop.isPanic]

theorem resultOf_metricId (serviceId : String) (input : I) (m : String) (r : PolicyResult)
    (h : resultOf (src.verdict opa serviceId input m) = some r) : r.metricId = m := by
  unfold MetricsSource.verdict at h
  split at h
  · simp [resultOf] at h
  · split at h
    · simp [resultOf] at h
    · rename_i query _
      have hrun : runQuery opa m query input = some (.ok (some r)) := by
        cases hv : runQuery opa m query input with
        | none => simp [hv, resultOf] at h
        | some v => cases v <;> simp_all [resultOf]
      exact runQuery_metricId opa m query input r hrun

/-- The loop over metrics, on verdicts alone. -/
def loopWith (skip : Err → Bool) (v : String → Verdict) :
    List String → Option (Except Err (List PolicyResult))
  | [] => some (.ok [])
  | m :: ms =>
    match v m with
    | none => none
    | some (.error e) => if skip e then loopWith skip v ms else some (.error e)
    | some (.ok none) => loopWith skip v ms
    | some (.ok (some r)) => (loopWith skip v ms).map (Except.map (r :: ·))

theorem outcomeOf_cons (stop : Option Stop) (r : PolicyResult) (data : List PolicyResult) :
    (outcomeOf stop data).map (Except.map (r :: ·)) = outcomeOf stop (r :: data) := by
  rcases stop with _ | _ | e <;> rfl

/-- A loop ends at the first verdict that stops it, or collects all results. -/
theorem loopWith_eq (skip : Err → Bool) (v : String → Verdict) (ms : List String) :
    loopWith skip v ms = outcomeOf (ms.findSome? (fun m => stopWith skip (v m)))
      (ms.filterMap (fun m => resultOf (v m))) := by
  induction ms with
  | nil => rfl
  | cons m ms ih =>
    rw [loopWith, List.findSome?_cons, List.filterMap_cons]
    rcases hv : v m with _ | e | _ | r
    · rfl
    · cases hi : skip e <;> simp [hi, stopWith, resultOf, ih, outcomeOf]
    · exact ih
    · simp only [ih, stopWith, resultOf, outcomeOf_cons]

end Verdicts
/-- In its good states the stateful source answers like `src` about the current metrics,
and answering keeps it good. -/
structure Reads {σ : Type} (source : Source σ) (Good : σ → Prop) (src : MetricsSource)
    (Current : String → Prop) : Prop where
  metrics : ∀ x, Good x → source.metrics x = src.metrics
  configuration : ∀ x s m, Good x → isUuid s = true → Current m →
    (source.metricConfiguration x s m).1 = src.metricConfiguration s m
  configuration_good : ∀ x s m, Good x → isUuid s = true →
    Good (source.metricConfiguration x s m).2
  implementation : ∀ x m, Good x → source.metricImplementation x m = src.metricImplementation m

theorem static_reads (src : MetricsSource) :
    Reads src.static (fun _ => True) src (fun _ => True) where
  metrics _ _ := rfl
  configuration _ _ _ _ _ _ := rfl
  configuration_good _ _ _ _ _ := trivial
  implementation _ _ _ := rfl

section Refinement
variable {I σ : Type} {opa : OPA I} {source : Source σ} {Good : σ → Prop} {src : MetricsSource}
  {Named Current : String → Prop}

/-- The query that belongs under the key of a current metric. -/
def QueryFor (opa : OPA I) (src : MetricsSource) (Named Current : String → Prop) (k : String)
    (q : opa.Query) : Prop :=
  ∀ s m c, isUuid s = true → Named m → Current m → src.metricConfiguration s m = .ok c →
    queryKey m s c = k → prepareQuery opa m c (src.metricImplementation m) = .ok q

/-- The source is good and every cached query of a current metric is the one that would
be prepared now. -/
structure Coherent (Good : σ → Prop) (src : MetricsSource) (Named Current : String → Prop)
    (st : RegoState σ opa.Query) : Prop where
  good : Good st.source
  queries : Memo.Holds (QueryFor opa src Named Current) st.qc
  names : Memo.Holds (fun _ ms => ∀ m ∈ ms, Named m) st.mrtc

/-- A computation that answers `v` and leaves the caches coherent, the metrics cache as
it was. -/
def Answers {α : Type} (Good : σ → Prop) (src : MetricsSource) (Named Current : String → Prop)
    (st : RegoState σ opa.Query) (run : Option (α × RegoState σ opa.Query)) (v : Option α) :
    Prop :=
  ∃ st', Coherent Good src Named Current st' ∧ st'.mrtc = st.mrtc ∧
    run = v.map (fun x => (x, st'))

theorem evalMap_answers (hreads : Reads source Good src Current) (hnames : Unextended Named)
    (st : RegoState σ opa.Query) (hst : Coherent Good src Named Current st) (s m : String)
    (input : I) (hs : isUuid s = true) (hm : Named m) :
    ∃ v, Answers Good src Named Current st (evalMap opa source st s m input) v ∧
      (Current m → v = src.verdict opa s input m) := by
  have hconf := hreads.configuration st.source s m hst.good hs
  have hgood := hreads.configuration_good st.source s m hst.good hs
  unfold evalMap MetricsSource.verdict
  rcases hc : source.metricConfiguration st.source s m with ⟨answer,x⟩
  rw [hc] at hconf hgood
  cases answer with
  | error e =>
    refine ⟨some (.error (e.wrap ("could not fetch metric configuration for metric " ++ m))),
      ⟨{ st with source := x }, ⟨hgood, hst.queries, hst.names⟩, rfl, rfl⟩, ?_⟩
    intro hcur
    rw [← hconf hcur]
  | ok config =>
    -- the value `Get` computes if nothing is cached
    let prepared := prepareQuery opa m config (src.metricImplementation m)
    let got := Memo.getOr st.qc (queryKey m s config) prepared
    -- what is remembered under this key can only be asked for by the same metric
    have hqueries : Memo.Holds (QueryFor opa src Named Current) got.2 := by
      refine Memo.holds_getOr hst.queries _ _ ?_
      intro q hq s' m' c' hs' hm' hcur hc' hkey
      obtain ⟨rfl,rfl⟩ := queryKey_inj hnames m' m s' s c' config hm' hm hs' hs hkey
      rw [← hconf hcur, Except.ok.injEq] at hc'
      rw [← hc']
      exact hq
    have hget (hcur : Current m) : got.1 = prepared := by
      refine Memo.getOr_eq hst.queries _ _ ?_
      intro q hq
      exact hq s m config hs hm hcur (hconf hcur).symm rfl
    refine ⟨match got.1 with
      | .error e => some
          (.error (e.wrap ("could not fetch cached query for metric " ++ m)))
      | .ok query => runQuery opa m query input,
      ⟨{ st with source := x, qc := got.2 }, ⟨hgood, hqueries, hst.names⟩, rfl, ?_⟩, ?_⟩
    · simp only [hreads.implementation x m hgood]
      change (match got.1 with
        | .error e => _
        | .ok query => _) = _
      cases got.1 <;> rfl
    · intro hcur
      rw [hget hcur, ← hconf hcur]

theorem Answers.trans_mrtc {α : Type} {st st' : RegoState σ opa.Query}
    {run : Option (α × RegoState σ opa.Query)} {v : Option α} (h : st'.mrtc = st.mrtc)
    (ha : Answers Good src Named Current st' run v) :
    Answers Good src Named Current st run v := by
  obtain ⟨st'',hco,hm,hrun⟩ := ha
  exact ⟨st'', hco, hm.trans h, hrun⟩

theorem Answers.map {α β : Type} {st : RegoState σ opa.Query}
    {run : Option (α × RegoState σ opa.Query)} {v : Option α} (f : α → β)
    (ha : Answers Good src Named Current st run v) :
    Answers Good src Named Current st (run.map (fun p => (f p.1, p.2))) (v.map f) := by
  obtain ⟨st',hco,hm,rfl⟩ := ha
  exact ⟨st', hco, hm, by simp [Option.map_map, Function.comp_def]⟩

/-- The loop over metrics keeps the caches coherent, and over current metrics it does what
the loop over their verdicts does. -/
theorem metricLoop_answers (hreads : Reads source Good src Current) (hnames : Unextended Named)
    (skip : Err → Bool) (s : String) (input : I) (hs : isUuid s = true) (ms : List String)
    (hms : ∀ m ∈ ms, Named m) (st : RegoState σ opa.Query)
    (hst : Coherent Good src Named Current st) :
    ∃ v, Answers Good src Named Current st (metricLoop opa source skip s input ms st) v ∧
      ((∀ m ∈ ms, Current m) → v = loopWith skip (src.verdict opa s input) ms) := by
  induction ms generalizing st with
  | nil => exact ⟨_, ⟨st, hst, rfl, rfl⟩, fun _ => rfl⟩
  | cons m ms ih =>
    obtain ⟨v,⟨st',hst',hmrtc,hrun⟩,hv⟩ := evalMap_answers hreads hnames st hst s m input hs
      (hms m List.mem_cons_self)
    obtain ⟨vs,hrest,hvs⟩ := ih (fun x hx => hms x (List.mem_cons_of_mem m hx)) st' hst'
    simp only [List.forall_mem_cons]
    rw [metricLoop, loopWith, hrun]
    -- a panic, an error, a metric that does not apply and one with a result
    rcases v with _ | e | _ | r
    · refine ⟨none, ⟨st', hst', hmrtc, rfl⟩, ?_⟩
      rintro ⟨hcur,_⟩
      rw [← hv hcur]
    · simp only [Option.map_some]
      split
      · refine ⟨vs, hrest.trans_mrtc hmrtc, ?_⟩
        rintro ⟨hcur,hcurs⟩
        simp only [← hv hcur, if_pos ‹skip e = true›]
        exact hvs hcurs
      · refine ⟨some (.error e), ⟨st', hst', hmrtc, rfl⟩, ?_⟩
        rintro ⟨hcur,_⟩
        simp only [← hv hcur, if_neg ‹¬ skip e = true›]
    · refine ⟨vs, hrest.trans_mrtc hmrtc, ?_⟩
      rintro ⟨hcur,hcurs⟩
      simp only [← hv hcur]
      exact hvs hcurs
    · refine ⟨_, (hrest.map _).trans_mrtc hmrtc, ?_⟩
      rintro ⟨hcur,hcurs⟩
      simp only [← hv hcur, ← hvs hcurs]

/-- An evaluation on verdicts alone, given the cached metrics for the key, if any. -/
def MetricsSource.evalWith (opa : OPA I) (src : MetricsSource) (cached : Option (List String))
    (e : Evidence I) : Option (Except Err (List PolicyResult)) :=
  match e.input with
  | .error err => some (.error err)
  | .ok input =>
    match cached with
    | some ms => loopWith (fun _ => false) (src.verdict opa e.cloudServiceId input) ms
    | none =>
      match src.metrics with
      | .error err => some (.error (err.wrap "could not retrieve metric definitions"))
      | .ok ms => loopWith ignorable (src.verdict opa e.cloudServiceId input) ms

/-- The metrics an evaluation leaves in the cache when it finds nothing there. -/
def MetricsSource.fills (opa : OPA I) (src : MetricsSource) (e : Evidence I) :
    Option (List String) :=
  match src.evalWith opa none e with
  | some (.ok data) => some (data.map PolicyResult.metricId)
  | _ => none

def MetricsSource.Listed (src : MetricsSource) (m : String) : Prop :=
  ∃ ms, src.metrics = .ok ms ∧ m ∈ ms

/-- The metrics of a source that give the evidence a result. -/
def applicable (opa : OPA I) (src : MetricsSource) (s : String) (input : I) (m : String) : Bool :=
  (resultOf (src.verdict opa s input m)).isSome

theorem filterMap_metricId (s : String) (input : I) (ms : List String) :
    (ms.filterMap (fun m => resultOf (src.verdict opa s input m))).map PolicyResult.metricId =
      ms.filter (applicable opa src s input) := by
  induction ms with
  | nil => rfl
  | cons m ms ih =>
    cases hr : resultOf (src.verdict opa s input m) with
    | none => simpa [applicable, hr] using ih
    | some r =>
      have hid := resultOf_metricId opa src s input m r hr
      simpa [applicable, hr, hid] using ih

theorem fills_eq (e : Evidence I) (l : List String) (h : src.fills opa e = some l) :
    ∃ input ms, e.input = .ok input ∧ src.metrics = .ok ms ∧
      l = ms.filter (applicable opa src e.cloudServiceId input) := by
  unfold MetricsSource.fills MetricsSource.evalWith at h
  cases hin : e.input with
  | error err => simp [hin] at h
  | ok input =>
    cases hms : src.metrics with
    | error err => simp [hin, hms] at h
    | ok ms =>
      refine ⟨input, ms, rfl, rfl, ?_⟩
      simp only [hin, hms, loopWith_eq] at h
      rcases hstop : ms.findSome?
          (fun m => hardStopOf (src.verdict opa e.cloudServiceId input m)) with _ | _ | err
      · simp only [hstop, outcomeOf, Option.some.injEq] at h
        rw [← h, filterMap_metricId]
      · simp [hstop, outcomeOf] at h
      · simp [hstop, outcomeOf] at h

/-- The metrics that an evaluation remembers are named by the source. -/
theorem fills_named {Named : String → Prop} (hlisted : ∀ m, src.Listed m → Named m)
    {e : Evidence I} {l : List String} (h : src.fills opa e = some l) : ∀ m ∈ l, Named m := by
  obtain ⟨_,ms,_,hms,hl⟩ := fills_eq e l h
  intro m hm
  rw [hl] at hm
  exact hlisted m ⟨ms, hms, List.mem_of_mem_filter hm⟩

/-- The metrics cache after an evaluation: a missing entry may have been filled, and
nothing else has changed. -/
def Filled (opa : OPA I) (src : MetricsSource) (e : Evidence I)
    (mrtc mrtc' : Memo.Table String (List String)) : Prop :=
  ∀ k, mrtc'.lookup k = if k = createKey e ∧ mrtc.lookup k = none then src.fills opa e
    else mrtc.lookup k

section Filled
variable {e : Evidence I} {mrtc : Memo.Table String (List String)}

theorem filled_refl (h : mrtc.lookup (createKey e) = none → src.fills opa e = none) :
    Filled opa src e mrtc mrtc := by
  intro k
  split_ifs with hk
  · rw [hk.2, h (hk.1 ▸ hk.2)]
  · rfl

theorem filled_erase (hnone : mrtc.lookup (createKey e) = none) (h : src.fills opa e = none) :
    Filled opa src e mrtc (mrtc.erase (createKey e)) := by
  intro k
  by_cases hk : k = createKey e
  · subst hk
    simp [hnone, h]
  · simp [AList.lookup_erase_ne hk, hk]

theorem filled_insert {l : List String} (hnone : mrtc.lookup (createKey e) = none)
    (h : src.fills opa e = some l) : Filled opa src e mrtc (mrtc.insert (createKey e) l) := by
  intro k
  by_cases hk : k = createKey e
  · subst hk
    simp [hnone, h]
  · simp [AList.lookup_insert_ne hk, hk]

end Filled

/-- An evaluation leaves the caches coherent and changes the metrics cache only to fill a
missing entry. If every metric is current it answers as the verdicts say. -/
theorem eval_answers (hreads : Reads source Good src Current) (hnames : Unextended Named)
    (hlisted : ∀ m, src.Listed m → Named m) (st : RegoState σ opa.Query)
    (hst : Coherent Good src Named Current st) (e : Evidence I)
    (hfill : st.mrtc.lookup (createKey e) = none → ∀ m, src.Listed m → Current m) :
    ∃ v st', eval opa source st e = v.map (fun x => (x, st')) ∧
      Coherent Good src Named Current st' ∧
      ((∀ m, Current m) → v = src.evalWith opa (st.mrtc.lookup (createKey e)) e) ∧
      (v.isSome = true → Filled opa src e st.mrtc st'.mrtc) := by
  unfold eval cachedLoop fillLoop
  cases hin : e.input with
  | error err =>
    refine ⟨some (.error err), st, rfl, hst, fun _ => ?_, fun _ => filled_refl ?_⟩
    · simp [MetricsSource.evalWith, hin]
    · simp [MetricsSource.fills, MetricsSource.evalWith, hin]
  | ok input =>
    cases hl : st.mrtc.lookup (createKey e) with
    | some cached =>
      obtain ⟨v,⟨st',hst',hm,hrun⟩,hv⟩ := metricLoop_answers hreads hnames (fun _ => false)
        e.cloudServiceId input e.service_uuid cached (hst.names _ _ hl) st hst
      refine ⟨v, st', by simp only [hl, hrun], hst', fun hcur => ?_, fun _ => ?_⟩
      · simp [MetricsSource.evalWith, hin, hv (fun m _ => hcur m)]
      · rw [hm]
        exact filled_refl (by simp [hl])
    | none =>
      simp only [hl, hreads.metrics st.source hst.good]
      cases hms : src.metrics with
      | error err =>
        refine ⟨some (.error (err.wrap "could not retrieve metric definitions")), st, rfl, hst,
          fun _ => ?_, fun _ => filled_refl ?_⟩
        · simp [MetricsSource.evalWith, hin, hms]
        · simp [MetricsSource.fills, MetricsSource.evalWith, hin, hms]
      | ok ms =>
        have hmem (m : String) (hm : m ∈ ms) : src.Listed m := ⟨ms, hms, hm⟩
        obtain ⟨v,⟨st',hst',hm,hrun⟩,hv⟩ := metricLoop_answers hreads hnames ignorable
          e.cloudServiceId input e.service_uuid ms (fun m h => hlisted m (hmem m h)) st hst
        have hwith : src.evalWith opa none e = v := by
          rw [hv (fun m h => hfill hl m (hmem m h))]
          simp [MetricsSource.evalWith, hin, hms]
        simp only [hrun]
        refine ⟨v, ?_⟩
        -- a panic, an error, which leaves the key without an entry, or results to remember
        rcases v with _ | err | data
        · exact ⟨st', rfl, hst', fun _ => hwith.symm, by simp⟩
        · have hfills : src.fills opa e = none := by rw [MetricsSource.fills, hwith]
          refine ⟨{ st' with mrtc := st'.mrtc.erase (createKey e) }, rfl,
            ⟨hst'.good, hst'.queries, Memo.holds_erase hst'.names _⟩, fun _ => hwith.symm,
            fun _ => ?_⟩
          rw [hm]
          exact filled_erase hl hfills
        · have hfills : src.fills opa e = some (data.map PolicyResult.metricId) := by
            rw [MetricsSource.fills, hwith]
          have hnamed := fills_named hlisted hfills
          let filled := st'.mrtc.insert (createKey e) (data.map PolicyResult.metricId)
          refine ⟨{ st' with mrtc := filled }, rfl, ⟨hst'.good, hst'.queries,
            Memo.holds_insert hst'.names _ _ hnamed⟩, fun _ => hwith.symm, fun _ => ?_⟩
          simp only [filled, hm]
          exact filled_insert hl hfills

end Refinement

section History
variable {I : Type} {opa : OPA I} {src : MetricsSource}

/-- A sequence of evaluations by one evaluator; `none` if one of them panics. -/
def runEvals (opa : OPA I) (src : MetricsSource) : List (Evidence I) →
    RegoState Unit opa.Query → Option (RegoState Unit opa.Query)
  | [], st => some st
  | e :: es, st =>
    match eval opa src.static st e with
    | none => none
    | some (_, st) => runEvals opa src es st

/-- The first evidence of the same types and tool that was evaluated without error. -/
def filler (opa : OPA I) (src : MetricsSource) (history : List (Evidence I)) (key : String) :
    Option (Evidence I) :=
  history.find? (fun h => createKey h = key && (src.fills opa h).isSome)

/-- The static source never changes, so every metric is current. -/
abbrev Steady (src : MetricsSource) (st : RegoState Unit opa.Query) : Prop :=
  Coherent (fun _ => True) src src.Listed (fun _ => True) st

theorem fresh_steady (opa : OPA I) (src : MetricsSource) :
    Steady src (RegoState.fresh () : RegoState Unit opa.Query) :=
  ⟨trivial, Memo.holds_empty _, Memo.holds_empty _⟩

theorem eval_static (hnames : Unextended src.Listed) (st : RegoState Unit opa.Query)
    (hst : Steady src st) (e : Evidence I) :
    ∃ st', eval opa src.static st e =
        (src.evalWith opa (st.mrtc.lookup (createKey e)) e).map (fun x => (x, st')) ∧
      Steady src st' ∧
      ((src.evalWith opa (st.mrtc.lookup (createKey e)) e).isSome = true →
        Filled opa src e st.mrtc st'.mrtc) := by
  obtain ⟨v,st',heval,hst',hv,hlook⟩ := eval_answers (static_reads src) hnames
    (fun _ h => h) st hst e (fun _ _ _ => trivial)
  rw [← hv (fun _ => trivial)]
  exact ⟨st', heval, hst', hlook⟩

/-- After a history the cache holds, for each key, what its first filler found. -/
theorem runEvals_mrtc (hnames : Unextended src.Listed) (history : List (Evidence I))
    (st st' : RegoState Unit opa.Query) (hst : Steady src st)
    (hrun : runEvals opa src history st = some st') :
    Steady src st' ∧ ∀ k, st'.mrtc.lookup k =
      (st.mrtc.lookup k).or ((filler opa src history k).bind (src.fills opa)) := by
  induction history generalizing st with
  | nil =>
    cases hrun
    exact ⟨hst, fun k => by simp [filler]⟩
  | cons e history ih =>
    obtain ⟨st1,heval,hst1,hlook⟩ := eval_static hnames st hst e
    rw [runEvals, heval] at hrun
    cases hout : src.evalWith opa (st.mrtc.lookup (createKey e)) e with
    | none => simp [hout] at hrun
    | some v =>
      simp only [hout, Option.map_some] at hrun
      obtain ⟨hst',hlook'⟩ := ih st1 hst1 hrun
      refine ⟨hst', fun k => ?_⟩
      -- an earlier entry stays, and a missing one is filled by the first that can
      have hcons : filler opa src (e :: history) k =
          if createKey e = k ∧ (src.fills opa e).isSome = true then some e
          else filler opa src history k := by
        by_cases hk : createKey e = k <;> cases hf : (src.fills opa e).isSome <;>
          simp [filler, hk, hf]
      rw [hlook', hlook (by rw [hout]; rfl), hcons]
      by_cases hk : createKey e = k
      · subst hk
        cases st.mrtc.lookup (createKey e) <;> cases hf : src.fills opa e <;> simp [hf]
      · rw [if_neg (fun h => hk h.1.symm), if_neg (fun h => hk h.1)]

theorem filter_filterMap_iff {α β : Type} (p : α → Bool) (f : α → Option β) (l : List α) :
    (l.filter p).filterMap f = l.filterMap f ↔ ∀ x ∈ l, (f x).isSome = true → p x = true := by
  induction l with
  | nil => simp
  | cons x l ih =>
    have hle : ((l.filter p).filterMap f).length ≤ (l.filterMap f).length :=
      (List.filter_sublist.filterMap f).length_le
    simp only [List.forall_mem_cons, ← ih]
    cases hp : p x with
    | true => cases hf : f x <;> simp [hp, hf]
    | false =>
      cases hf : f x with
      | none => simp [hp, hf]
      | some y =>
        -- a result outside the filter makes the right side longer
        refine iff_of_false (fun h => ?_) (by simp)
        have hlen := congrArg List.length h
        simp only [hp, hf, List.filter_cons, List.filterMap_cons, List.length_cons,
          Bool.false_eq_true, if_false] at hlen
        omega

/-- The metrics that were applicable to `h` do for `e` what all metrics do: they make the
evaluation stop in the same way, and if it does not stop none that applies is missing. -/
def StandsFor (opa : OPA I) (src : MetricsSource) (h e : Evidence I) : Prop :=
  ∀ input first ms, e.input = .ok input → h.input = .ok first → src.metrics = .ok ms →
    ((ms.filter (applicable opa src h.cloudServiceId first)).findSome?
      (fun m => stopOf (src.verdict opa e.cloudServiceId input m))).map Stop.isPanic =
    (ms.findSome?
      (fun m => hardStopOf (src.verdict opa e.cloudServiceId input m))).map Stop.isPanic ∧
    (ms.findSome? (fun m => hardStopOf (src.verdict opa e.cloudServiceId input m)) = none →
      ∀ m ∈ ms, applicable opa src e.cloudServiceId input m = true →
        applicable opa src h.cloudServiceId first m = true)

theorem evalWith_answer_iff (h e : Evidence I) (l : List String) (hl : src.fills opa h = some l) :
    (src.evalWith opa (some l) e).map answer = (src.evalWith opa none e).map answer ↔
      StandsFor opa src h e := by
  obtain ⟨first,ms,hfirst,hms,rfl⟩ := fills_eq h l hl
  cases hin : e.input with
  | error err =>
    refine iff_of_true (by simp [MetricsSource.evalWith, hin]) ?_
    intro input _ _ hin'
    rw [hin] at hin'
    cases hin'
  | ok input =>
    simp only [MetricsSource.evalWith, hin, hms, loopWith_eq,
      outcomeOf_answer_iff, filter_filterMap_iff]
    constructor
    · rintro hboth input' first' ms' hi hf hm
      cases hin.symm.trans hi
      cases hfirst.symm.trans hf
      cases hms.symm.trans hm
      exact hboth
    · intro hstands
      exact hstands input first ms hin hfirst hms

/-- A policy engine for one policy, which applies to resources whose malware protection
has an `applicationLogging` and looks at its `loggingServiceIds`. A resource is given by
the properties it has. -/
def malwareOPA : OPA (List String) where
  Query := MetricConfiguration
  prepare _ config _ := .ok config
  eval config input := .ok [{
    applicable := some (input.contains "applicationLogging")
    compliant := some (input.contains "loggingServiceIds")
    operator := some config.operator
    targetValue := config.targetValue
    config := .ok config }]

def malwareSource : MetricsSource where
  metrics := .ok ["MalwareProtectionOutput"]
  metricConfiguration s m := .ok ⟨"==", "true", true, none, m, s⟩
  metricImplementation _ := .ok "package clouditor.metrics.malware_protection_output"

/-- A virtual machine with the given properties. -/
def machine (properties : List String) : Evidence (List String) where
  cloudServiceId := "11111111-1111-1111-1111-111111111111"
  toolId := "Azure Discovery"
  types := ["VirtualMachine", "Compute", "Resource"]
  input := .ok properties
  service_uuid := by decide

end History
end Clouditor
