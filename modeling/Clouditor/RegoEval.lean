import Clouditor.MemoTable
import Clouditor.Requests
import Clouditor.Transitions
import Mathlib.Data.List.Infix

/-! The policy evaluation of `regoEval`: one metric against one resource, the loop over
the metrics of a source, and the two caches between them. -/
namespace Clouditor
set_option autoImplicit false

structure MetricConfiguration where
  operator : String
  targetValue : String
  isDefault : Bool
  updatedAt : Option Time
  metricId : String
  cloudServiceId : String
  deriving DecidableEq

def base64Char (n : ℕ) : Char :=
  "ABCDEFGHIJKLMNOPQRSTUVWXYZabcdefghijklmnopqrstuvwxyz0123456789-_".toList.getD n 'A'

/-- `base64.RawURLEncoding`: three bytes become four characters, without padding. -/
def rawURLEncoding : List ℕ → List Char
  | [] => []
  | [a] => [base64Char (a / 4), base64Char (a % 4 * 16)]
  | [a, b] => [base64Char (a / 4), base64Char (a % 4 * 16 + b / 16), base64Char (b % 16 * 4)]
  | a :: b :: c :: rest =>
    base64Char (a / 4) :: base64Char (a % 4 * 16 + b / 16) ::
      base64Char (b % 16 * 4 + c / 64) :: base64Char (c % 64) :: rawURLEncoding rest

def utf8Bytes (s : String) : List ℕ :=
  s.toList.flatMap (fun c => (String.utf8EncodeChar c).map UInt8.toNat)

def MetricConfiguration.hash (c : MetricConfiguration) : String :=
  String.ofList (rawURLEncoding (utf8Bytes (c.operator ++ "-" ++ c.targetValue)))

/-- What a query binds. A binding of another type than asserted is `none`. -/
structure Bindings where
  applicable : Option Bool
  compliant : Option Bool
  operator : Option String
  targetValue : String
  config : Except Err MetricConfiguration

/-- The policy engine: it prepares a query from a metric, its configuration and its
Rego code, and evaluates it on the properties of a resource. -/
structure OPA (I : Type) where
  Query : Type
  prepare : String → MetricConfiguration → String → Except Err Query
  eval : Query → I → Except Err (List Bindings)

structure PolicyResult where
  compliant : Bool
  targetValue : String
  operator : String
  metricId : String
  config : MetricConfiguration
  deriving DecidableEq

/-- The outcome of looking at one metric: `none` if the process panics, and a missing
result if the metric is not applicable. -/
abbrev Verdict := Option (Except Err (Option PolicyResult))

def readBindings (metricId : String) (b : Bindings) : Verdict :=
  match b.applicable, b.compliant, b.operator with
  | some applicable, some compliant, some operator =>
    -- the configuration is decoded before anyone asks whether the metric applies
    match b.config with
    | .error e => some (.error e)
    | .ok config =>
      if !applicable then some (.ok none)
      else some (.ok (some ⟨compliant, b.targetValue, operator, metricId, config⟩))
  | _, _, _ => none

/-- A metrics source that does not change. -/
structure MetricsSource where
  metrics : Except Err (List String)
  metricConfiguration : String → String → Except Err MetricConfiguration
  metricImplementation : String → Except Err String

/-- A metrics source with a state of its own, such as the assessment service. -/
structure Source (σ : Type) where
  metrics : σ → Except Err (List String)
  metricConfiguration : σ → String → String → Except Err MetricConfiguration × σ
  metricImplementation : σ → String → Except Err String

def MetricsSource.static (src : MetricsSource) : Source Unit where
  metrics _ := src.metrics
  metricConfiguration _ s m := (src.metricConfiguration s m, ())
  metricImplementation _ m := src.metricImplementation m

/-- The caches, next to the state of the source they read from. -/
structure RegoState (σ Q : Type) where
  source : σ
  qc : Memo.Table String Q
  mrtc : Memo.Table String (List String)

def RegoState.fresh {σ Q : Type} (source : σ) : RegoState σ Q := ⟨source, ∅, ∅⟩

def queryKey (metricId serviceId : String) (config : MetricConfiguration) : String :=
  metricId ++ "-" ++ serviceId ++ "-" ++ config.hash

section Evaluation
variable {I σ : Type} (opa : OPA I) (source : Source σ)

def prepareQuery (metricId : String) (config : MetricConfiguration) (impl : Except Err String) :
    Except Err opa.Query :=
  match impl with
  | .error e => .error (e.wrap ("could not fetch policy for metric " ++ metricId))
  | .ok code =>
    match opa.prepare metricId config code with
    | .error e => .error (e.wrap ("could not prepare rego evaluation for metric " ++ metricId))
    | .ok query => .ok query

def runQuery (metricId : String) (query : opa.Query) (input : I) : Verdict :=
  match opa.eval query input with
  | .error e => some (.error (e.wrap "could not evaluate rego policy"))
  | .ok [] => some (.error
      ⟨none, "no results. probably the package name of metric " ++ metricId ++ " is wrong"⟩)
  | .ok (b :: _) => readBindings metricId b

def evalMap (st : RegoState σ opa.Query) (serviceId metricId : String) (input : I) :
    Option (Except Err (Option PolicyResult) × RegoState σ opa.Query) :=
  match source.metricConfiguration st.source serviceId metricId with
  | (.error e, s) => some
      (.error (e.wrap ("could not fetch metric configuration for metric " ++ metricId)),
        { st with source := s })
  | (.ok config, s) =>
    -- only the query is remembered; the configuration is fetched for every evaluation
    let got := Memo.getOr st.qc (queryKey metricId serviceId config)
      (prepareQuery opa metricId config (source.metricImplementation s metricId))
    let st := { st with source := s, qc := got.2 }
    match got.1 with
    | .error e => some
        (.error (e.wrap ("could not fetch cached query for metric " ++ metricId)), st)
    | .ok query => (runQuery opa metricId query input).map (fun v => (v, st))

/-- `strings.Contains`. -/
def stringContains (s part : String) : Bool :=
  s.toList.tails.any (fun rest => part.toList.isPrefixOf rest)

/-- A metric without an implementation or a configuration is left to other tools. -/
def ignorable (e : Err) : Bool :=
  e.code = some .notFound &&
    (stringContains e.msg "implementation for metric not found" ||
      stringContains e.msg "metric configuration not found for metric")

/-- The loop over metrics. It goes on after an error only if that one may be skipped. -/
def metricLoop (skip : Err → Bool) (serviceId : String) (input : I) :
    List String → RegoState σ opa.Query →
      Option (Except Err (List PolicyResult) × RegoState σ opa.Query)
  | [], st => some (.ok [], st)
  | m :: ms, st =>
    match evalMap opa source st serviceId m input with
    | none => none
    | some (.error e, st) =>
      if skip e then metricLoop skip serviceId input ms st else some (.error e, st)
    -- not applicable, so neither a result nor a metric to remember
    | some (.ok none, st) => metricLoop skip serviceId input ms st
    | some (.ok (some r), st) =>
      (metricLoop skip serviceId input ms st).map (fun p => (p.1.map (r :: ·), p.2))

/-- The loop over all metrics when nothing is cached for the resource types yet. -/
def fillLoop (serviceId : String) (input : I) (metrics : List String)
    (st : RegoState σ opa.Query) :
    Option (Except Err (List PolicyResult) × RegoState σ opa.Query) :=
  metricLoop opa source ignorable serviceId input metrics st

/-- The loop over the cached metrics, which stops at every error. -/
def cachedLoop (serviceId : String) (input : I) (cached : List String)
    (st : RegoState σ opa.Query) :
    Option (Except Err (List PolicyResult) × RegoState σ opa.Query) :=
  metricLoop opa source (fun _ => false) serviceId input cached st

/-- An evidence with its resource: the types of the resource, and its properties as
`ResourceMap` reads them. The service id has passed the validation of evidences. -/
structure Evidence (I : Type) where
  cloudServiceId : String
  toolId : String
  types : List String
  input : Except Err I
  service_uuid : isUuid cloudServiceId = true

def joinDash : List String → String
  | [] => ""
  | [s] => s
  | s :: ss => s ++ "-" ++ joinDash ss

def createKey (e : Evidence I) : String :=
  String.ofList ((joinDash (e.types ++ [e.toolId])).toList.filter (· ≠ ' '))

def eval (st : RegoState σ opa.Query) (e : Evidence I) :
    Option (Except Err (List PolicyResult) × RegoState σ opa.Query) :=
  match e.input with
  | .error err => some (.error err, st)
  | .ok input =>
    let key := createKey e
    match st.mrtc.lookup key with
    | some cached => cachedLoop opa source e.cloudServiceId input cached st
    | none =>
      match source.metrics st.source with
      | .error err => some (.error (err.wrap "could not retrieve metric definitions"), st)
      | .ok metrics =>
        match fillLoop opa source e.cloudServiceId input metrics st with
        | none => none
        -- after an error the key is marked as not cached at all
        | some (.error err, st) => some (.error err, { st with mrtc := st.mrtc.erase key })
        | some (.ok data, st) => some (.ok data,
            { st with mrtc := st.mrtc.insert key (data.map PolicyResult.metricId) })

end Evaluation

section Panics
variable {I σ : Type} (opa : OPA I) (source : Source σ)

/-- The three values that are asserted to be of their types without a check. -/
def Bindings.Complete (b : Bindings) : Prop :=
  b.applicable.isSome = true ∧ b.compliant.isSome = true ∧ b.operator.isSome = true

/-- If a metric gets as far as its policy, the first result of that is complete. -/
def PolicyComplete (serviceId : String) (input : I) (st : RegoState σ opa.Query)
    (metricId : String) : Prop :=
  ∀ config s query b rest,
    source.metricConfiguration st.source serviceId metricId = (.ok config, s) →
    (Memo.getOr st.qc (queryKey metricId serviceId config)
      (prepareQuery opa metricId config (source.metricImplementation s metricId))).1 = .ok query →
    opa.eval query input = .ok (b :: rest) → b.Complete

/-- The state in which the loop turns to the next metric, `none` if it does not. -/
def nextMetric (skip : Err → Bool) (serviceId : String) (input : I) (st : RegoState σ opa.Query)
    (metricId : String) : Option (RegoState σ opa.Query) :=
  match evalMap opa source st serviceId metricId input with
  | none => none
  | some (.error e, st) => if skip e then some st else none
  | some (.ok _, st) => some st

/-- Every policy the evaluation of an evidence gets to is complete. -/
def PoliciesComplete (st : RegoState σ opa.Query) (e : Evidence I) : Prop :=
  ∀ input, e.input = .ok input →
    match st.mrtc.lookup (createKey e) with
    | some cached => Transitions.Allowed
        (nextMetric opa source (fun _ => false) e.cloudServiceId input)
        (PolicyComplete opa source e.cloudServiceId input) st cached
    | none => ∀ metrics, source.metrics st.source = .ok metrics →
        Transitions.Allowed (nextMetric opa source ignorable e.cloudServiceId input)
          (PolicyComplete opa source e.cloudServiceId input) st metrics

theorem readBindings_panics_iff (metricId : String) (b : Bindings) :
    readBindings metricId b = none ↔ ¬b.Complete := by
  unfold readBindings Bindings.Complete
  cases b.applicable with
  | none => simp
  | some applicable =>
    cases b.compliant <;> cases b.operator <;> cases b.config <;> cases applicable <;> simp

theorem runQuery_panics_iff (metricId : String) (query : opa.Query) (input : I) :
    runQuery opa metricId query input = none ↔
      ∃ b rest, opa.eval query input = .ok (b :: rest) ∧ ¬b.Complete := by
  unfold runQuery
  cases opa.eval query input with
  | error e => simp
  | ok results =>
    cases results with
    | nil => simp
    | cons b rest =>
      rw [readBindings_panics_iff]
      constructor
      · intro h
        exact ⟨b, rest, rfl, h⟩
      · rintro ⟨_,_,⟨⟩,h⟩
        exact h

theorem evalMap_panics_iff (serviceId : String) (input : I) (st : RegoState σ opa.Query)
    (metricId : String) : evalMap opa source st serviceId metricId input = none ↔
      ¬PolicyComplete opa source serviceId input st metricId := by
  unfold evalMap PolicyComplete
  rcases source.metricConfiguration st.source serviceId metricId with ⟨_ | config,s⟩
  · simp
  · simp only [Prod.mk.injEq, Except.ok.injEq]
    cases hquery : (Memo.getOr st.qc (queryKey metricId serviceId config)
      (prepareQuery opa metricId config (source.metricImplementation s metricId))).1 with
    | error e =>
      refine iff_of_false nofun (not_not.mpr ?_)
      rintro _ _ _ _ _ ⟨rfl,rfl⟩ hq
      rw [hquery] at hq
      cases hq
    | ok query =>
      simp only [Option.map_eq_none_iff, runQuery_panics_iff]
      constructor
      · rintro ⟨b,rest,hb,hno⟩ h
        exact hno (h config s query b rest ⟨rfl, rfl⟩ hquery hb)
      · intro h
        by_contra hno
        push Not at hno
        refine h ?_
        rintro _ _ query' b rest ⟨rfl,rfl⟩ hq hb
        cases hquery.symm.trans hq
        exact hno b rest hb

theorem metricLoop_panics_iff (skip : Err → Bool) (serviceId : String) (input : I)
    (metrics : List String) (st : RegoState σ opa.Query) :
    metricLoop opa source skip serviceId input metrics st = none ↔
      ¬Transitions.Allowed (nextMetric opa source skip serviceId input)
        (PolicyComplete opa source serviceId input) st metrics := by
  induction metrics generalizing st with
  | nil => simp [metricLoop, Transitions.Allowed]
  | cons m metrics ih =>
    have hpanic := evalMap_panics_iff opa source serviceId input st m
    simp only [metricLoop, Transitions.Allowed, nextMetric]
    cases hm : evalMap opa source st serviceId m input with
    | none => simp [hpanic.mp hm]
    | some p =>
      -- whether the loop goes on or ends here, this metric is not what it faults on
      have hcomplete : PolicyComplete opa source serviceId input st m := by
        by_contra hno
        rw [hpanic.mpr hno] at hm
        cases hm
      obtain ⟨e | (_ | r),st'⟩ := p
      · by_cases hskip : skip e = true
        · simp [hskip, hcomplete, ih]
        · simp [hskip, hcomplete]
      · simp [hcomplete, ih]
      · simp [hcomplete, ih]

theorem eval_panics_iff (st : RegoState σ opa.Query) (e : Evidence I) :
    eval opa source st e = none ↔ ¬PoliciesComplete opa source st e := by
  unfold eval PoliciesComplete
  cases e.input with
  | error err => simp
  | ok input =>
    simp only [Except.ok.injEq, forall_eq']
    cases st.mrtc.lookup (createKey e) with
    | some cached => exact metricLoop_panics_iff opa source _ e.cloudServiceId input cached st
    | none =>
      cases source.metrics st.source with
      | error err => simp
      | ok metrics =>
        have hloop := metricLoop_panics_iff opa source ignorable e.cloudServiceId input metrics st
        simp only [Except.ok.injEq, forall_eq', ← hloop, fillLoop]
        rcases metricLoop opa source ignorable e.cloudServiceId input metrics st with
          _ | ⟨_ | _,_⟩ <;> simp

end Panics

section Results
variable {I σ : Type}

/-- The metrics that an evaluation goes through. -/
def consideredMetrics (opa : OPA I) (source : Source σ) (st : RegoState σ opa.Query)
    (e : Evidence I) : List String :=
  match st.mrtc.lookup (createKey e), source.metrics st.source with
  | some cached, _ => cached
  | none, .ok metrics => metrics
  | none, .error _ => []

theorem runQuery_metricId (opa : OPA I) (m : String) (query : opa.Query) (input : I)
    (r : PolicyResult) (h : runQuery opa m query input = some (.ok (some r))) :
    r.metricId = m := by
  unfold runQuery at h
  split at h
  · cases h
  · cases h
  · unfold readBindings at h
    split at h
    · split at h
      · cases h
      · split at h
        · cases h
        · cases h
          rfl
    · cases h

theorem evalMap_metricId (opa : OPA I) (source : Source σ) (st st' : RegoState σ opa.Query)
    (serviceId m : String) (input : I) (r : PolicyResult)
    (h : evalMap opa source st serviceId m input = some (.ok (some r), st')) : r.metricId = m := by
  unfold evalMap at h
  split at h
  · cases h
  · simp only at h
    split at h
    · cases h
    · obtain ⟨v,hv,heq⟩ := Option.map_eq_some_iff.mp h
      cases heq
      exact runQuery_metricId opa m _ input r hv

/-- A metric has at most one result, in the order of the metrics. -/
theorem metricLoop_sublist (opa : OPA I) (source : Source σ) (skip : Err → Bool)
    (serviceId : String) (input : I) (ms : List String) (st st' : RegoState σ opa.Query)
    (data : List PolicyResult)
    (h : metricLoop opa source skip serviceId input ms st = some (.ok data, st')) :
    (data.map PolicyResult.metricId).Sublist ms := by
  induction ms generalizing st data with
  | nil =>
    cases h
    exact List.Sublist.refl _
  | cons m ms ih =>
    rw [metricLoop] at h
    split at h
    · cases h
    · split at h
      · exact (ih _ _ h).trans (List.sublist_cons_self m ms)
      · cases h
    · exact (ih _ _ h).trans (List.sublist_cons_self m ms)
    · rename_i r st₁ hr
      obtain ⟨⟨rest,st₂⟩,hrest,heq⟩ := Option.map_eq_some_iff.mp h
      cases rest with
      | error e => cases heq
      | ok rest =>
        cases heq
        rw [List.map_cons, evalMap_metricId opa source st st₁ serviceId m input r hr]
        exact (ih _ _ hrest).cons_cons m

theorem eval_sublist (opa : OPA I) (source : Source σ) (st st' : RegoState σ opa.Query)
    (e : Evidence I) (data : List PolicyResult)
    (h : eval opa source st e = some (.ok data, st')) :
    (data.map PolicyResult.metricId).Sublist (consideredMetrics opa source st e) := by
  unfold eval at h
  unfold consideredMetrics
  split at h
  · cases h
  · simp only at h
    cases hc : st.mrtc.lookup (createKey e) with
    | some cached =>
      rw [hc] at h
      exact metricLoop_sublist opa source _ _ _ cached st st' data h
    | none =>
      rw [hc] at h
      cases hm : source.metrics st.source with
      | error err =>
        rw [hm] at h
        cases h
      | ok metrics =>
        simp only [hm] at h
        split at h
        · cases h
        · cases h
        · rename_i data' st₁ hloop
          cases h
          exact metricLoop_sublist opa source _ _ _ metrics st st₁ data hloop

end Results
end Clouditor
