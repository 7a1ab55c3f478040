import Clouditor.MetricCoverage
import Clouditor.RegoHistory

/-! Evaluations of evidences with the policies that come with the program, one after the other,
while metrics, configurations and caches change in between: which results there can be. -/
namespace Clouditor
set_option autoImplicit false

open Rego

section Ids

/-- A metric has the name of its bundle. -/
def BundledMetric.id : BundledMetric → String
  | .adminMFAEnabled => "AdminMFAEnabled"
  | .adminMixedDuties => "AdminMixedDuties"
  | .anomalyDetectionEnabled => "AnomalyDetectionEnabled"
  | .anomalyDetectionOutput => "AnomalyDetectionOutput"
  | .anonymousAuthentication => "AnonymousAuthentication"
  | .approvedCommitAuthor => "ApprovedCommitAuthor"
  | .atRestEncryptionAlgorithm => "AtRestEncryptionAlgorithm"
  | .atRestEncryptionEnabled => "AtRestEncryptionEnabled"
  | .automaticUpdatesEnabled => "AutomaticUpdatesEnabled"
  | .automaticUpdatesInterval => "AutomaticUpdatesInterval"
  | .automaticUpdatesSecurityOnly => "AutomaticUpdatesSecurityOnly"
  | .bootLoggingEnabled => "BootLoggingEnabled"
  | .bootLoggingOutput => "BootLoggingOutput"
  | .bootLoggingRetention => "BootLoggingRetention"
  | .codeSignoff => "CodeSignoff"
  | .customerKeyEncryption => "CustomerKeyEncryption"
  | .identityPasswordPolicy => "IdentityPasswordPolicy"
  | .identityRecentActivity => "IdentityRecentActivity"
  | .l3FirewallEnabled => "L3FirewallEnabled"
  | .l3FirewallRestrictedPorts => "L3FirewallRestrictedPorts"
  | .malwareProtectionEnabled => "MalwareProtectionEnabled"
  | .malwareProtectionOutput => "MalwareProtectionOutput"
  | .mutualAuthentication => "MutualAuthentication"
  | .noKnownVulnerabilities => "NoKnownVulnerabilities"
  | .osLoggingEnabled => "OSLoggingEnabled"
  | .osLoggingOutput => "OSLoggingOutput"
  | .osLoggingRetention => "OSLoggingRetention"
  | .objectStoragePublicAccessDisabled => "ObjectStoragePublicAccessDisabled"
  | .resourceInventory => "ResourceInventory"
  | .roleBroadAssignments => "RoleBroadAssignments"
  | .runtimeVersion => "RuntimeVersion"
  | .signedCommits => "SignedCommits"
  | .signedSignoff => "SignedSignoff"
  | .singleSignOnEnabled => "SingleSignOnEnabled"
  | .tlsCipherSuites => "TlsCipherSuites"
  | .tlsDHGroups => "TlsDHGroups"
  | .tlsSignatureAlgorithms => "TlsSignatureAlgorithms"
  | .transportEncryptionEnabled => "TransportEncryptionEnabled"
  | .transportEncryptionEnforced => "TransportEncryptionEnforced"
  | .transportEncryptionProtocol => "TransportEncryptionProtocol"
  | .webApplicationFirewallEnabled => "WebApplicationFirewallEnabled"

def BundledMetric.all : List BundledMetric :=
  [.adminMFAEnabled, .adminMixedDuties, .anomalyDetectionEnabled, .anomalyDetectionOutput,
  .anonymousAuthentication, .approvedCommitAuthor, .atRestEncryptionAlgorithm,
  .atRestEncryptionEnabled, .automaticUpdatesEnabled, .automaticUpdatesInterval,
  .automaticUpdatesSecurityOnly, .bootLoggingEnabled, .bootLoggingOutput, .bootLoggingRetention,
  .codeSignoff, .customerKeyEncryption, .identityPasswordPolicy, .identityRecentActivity,
  .l3FirewallEnabled, .l3FirewallRestrictedPorts, .malwareProtectionEnabled,
  .malwareProtectionOutput, .mutualAuthentication, .noKnownVulnerabilities, .osLoggingEnabled,
  .osLoggingOutput, .osLoggingRetention, .objectStoragePublicAccessDisabled, .resourceInventory,
  .roleBroadAssignments, .runtimeVersion, .signedCommits, .signedSignoff, .singleSignOnEnabled,
  .tlsCipherSuites, .tlsDHGroups, .tlsSignatureAlgorithms, .transportEncryptionEnabled,
  .transportEncryptionEnforced, .transportEncryptionProtocol, .webApplicationFirewallEnabled]

variable (texts : TimeTexts)

def bundledPolicies (metricId : String) : Option Policy :=
  (BundledMetric.all.find? (fun m => m.id = metricId)).map (BundledMetric.policy texts)

theorem mem_allMetrics (m : BundledMetric) : m ∈ BundledMetric.all := by
  cases m <;> decide

/-- Different metrics have different names. -/
theorem metricIds_nodup : (BundledMetric.all.map BundledMetric.id).Nodup := by
  decide

theorem id_injective (m m' : BundledMetric) (h : m.id = m'.id) : m = m' :=
  List.inj_on_of_nodup_map metricIds_nodup (mem_allMetrics m) (mem_allMetrics m') h

theorem find_id (m : BundledMetric) :
    BundledMetric.all.find? (fun m' => m'.id = m.id) = some m := by
  cases hfind : BundledMetric.all.find? (fun m' => m'.id = m.id) with
  | none =>
    have habsent := List.find?_eq_none.mp hfind m (mem_allMetrics m)
    exact absurd (decide_eq_true rfl) habsent
  | some m' =>
    have hid := List.find?_some hfind
    rw [decide_eq_true_iff] at hid
    rw [id_injective m' m hid]

theorem bundledPolicies_id (m : BundledMetric) :
    bundledPolicies texts m.id = some (m.policy texts) := by
  rw [bundledPolicies, find_id, Option.map_some]

/-- The names have no dash, so none goes on with the id of a service. -/
theorem unextended_ids : Unextended (fun id => ∃ m : BundledMetric, m.id = id) := by
  have hchars (m : BundledMetric) : ∃ cs, m.id = String.ofList cs ∧ '-' ∉ cs := by
    cases m <;> exact ⟨_, rfl, by decide⟩
  have hdash (m : BundledMetric) : '-' ∉ m.id.toList := by
    obtain ⟨cs,hid,hcs⟩ := hchars m
    rw [hid, String.toList_ofList]
    exact hcs
  rintro _ _ s ⟨m,rfl⟩ ⟨m',rfl⟩ _ hextends
  apply hdash m'
  apply hextends.subset
  exact List.mem_append_right _ List.mem_cons_self

theorem queryKey_id_inj (m m' : BundledMetric) (s s' : String) (c c' : MetricConfiguration)
    (hs : isUuid s = true) (hs' : isUuid s' = true)
    (h : queryKey m.id s c = queryKey m'.id s' c') : m = m' := by
  have hids := queryKey_inj unextended_ids m.id m'.id s s' c c' ⟨m, rfl⟩ ⟨m', rfl⟩ hs hs' h
  exact id_injective m m' hids.1

end Ids

section Runs
variable (texts : TimeTexts) (value : String → Json) {σ : Type} (source : Source σ)

/-- What an evaluation keeps in its caches. -/
abbrev BundledState (σ : Type) := RegoState σ (Policy × MetricConfiguration)

def bundledEval (now : ℤ) (st : BundledState σ) (e : Evidence Json) :
    Option (Except Err (List PolicyResult) × BundledState σ) :=
  eval (policyEngine (bundledPolicies texts) value now) source st e

inductive EngineOp (σ : Type) where
  | evaluate (e : Evidence Json) (now : ℤ)
  /-- After an event, the queries of a metric are prepared again. -/
  | evict (p : String → Bool)
  /-- The source of the metrics has changed. -/
  | change (x : σ)

def engineStep (st : BundledState σ) : EngineOp σ → Option (BundledState σ)
  | .evaluate e now => (bundledEval texts value source now st e).map Prod.snd
  | .evict p => some { st with qc := Memo.evict p st.qc }
  | .change x => some { st with source := x }

/-- A cached query is that of its own metric, and cached names are names of metrics. -/
structure OwnQueries (st : BundledState σ) : Prop where
  queries : Memo.Holds (fun k q => ∀ (m : BundledMetric) s c, isUuid s = true →
    queryKey m.id s c = k → q.1 = m.policy texts) st.qc
  names : Memo.Holds (fun _ ids => ∀ id ∈ ids, ∃ m : BundledMetric, m.id = id) st.mrtc

/-- A result that the policy of a bundled metric gives. -/
def Judged (input : Json) (now : ℤ) (r : PolicyResult) : Prop :=
  ∃ m : BundledMetric, m.id = r.metricId ∧ ∃ operator target,
    (m.policy texts).judge ⟨operator, target, input, now⟩ = some r.compliant

theorem prepareQuery_bundled (now : ℤ) (m : BundledMetric) (config : MetricConfiguration)
    (impl : Except Err String) (q : Policy × MetricConfiguration)
    (h : prepareQuery (policyEngine (bundledPolicies texts) value now) m.id config impl = .ok q) :
    q.1 = m.policy texts := by
  cases impl with
  | error e => cases h
  | ok code =>
    simp only [prepareQuery, policyEngine, bundledPolicies_id] at h
    cases h
    rfl

/-- A query for a metric runs its policy, whether it was cached or not. -/
theorem evalMap_bundled (now : ℤ) (m : BundledMetric) (s : String) (hs : isUuid s = true)
    (input : Json) (st st' : BundledState σ) (hst : OwnQueries texts st)
    (res : Except Err (Option PolicyResult))
    (h : evalMap (policyEngine (bundledPolicies texts) value now) source st s m.id input =
      some (res, st')) :
    OwnQueries texts st' ∧ ∀ r, res = .ok (some r) → Judged texts input now r := by
  unfold evalMap at h
  cases hconfig : source.metricConfiguration st.source s m.id with
  | mk answer x =>
  rw [hconfig] at h
  cases answer with
  | error e =>
    cases h
    refine ⟨⟨hst.queries, hst.names⟩, ?_⟩
    intro r hr
    cases hr
  | ok config =>
    have hnew (q : Policy × MetricConfiguration)
        (hq : prepareQuery (policyEngine (bundledPolicies texts) value now) m.id config
          (source.metricImplementation x m.id) = .ok q) (m' : BundledMetric) (s' : String)
        (c' : MetricConfiguration) (hs' : isUuid s' = true)
        (hkey : queryKey m'.id s' c' = queryKey m.id s config) : q.1 = m'.policy texts := by
      rw [queryKey_id_inj m' m s' s c' config hs' hs hkey]
      exact prepareQuery_bundled texts value now m config _ q hq
    have hqueries := Memo.holds_getOr hst.queries (queryKey m.id s config) _ hnew
    have hquery := Memo.getOr_fst hst.queries (queryKey m.id s config) _ hnew
    simp only at h
    split at h
    · cases h
      refine ⟨⟨hqueries, hst.names⟩, ?_⟩
      intro r hr
      cases hr
    · rename_i q hgot
      obtain ⟨p,c⟩ := q
      have hp : p = m.policy texts := hquery (p, c) hgot m s config hs rfl
      rw [runQuery_judge, Option.map_some] at h
      cases h
      refine ⟨⟨hqueries, hst.names⟩, ?_⟩
      intro r hr
      rw [Except.ok.injEq, Option.map_eq_some_iff] at hr
      obtain ⟨met,hjudge,rfl⟩ := hr
      rw [hp] at hjudge
      exact ⟨m, rfl, c.operator, value c.targetValue, hjudge⟩

/-- So do all turns of the loop over metrics. -/
theorem metricLoop_bundled (now : ℤ) (skip : Err → Bool) (s : String) (hs : isUuid s = true)
    (input : Json) (ids : List String) (hids : ∀ id ∈ ids, ∃ m : BundledMetric, m.id = id)
    (st st' : RegoState σ (policyEngine (bundledPolicies texts) value now).Query)
    (hst : OwnQueries texts st) (res : Except Err (List PolicyResult))
    (h : metricLoop (policyEngine (bundledPolicies texts) value now) source skip s input ids st =
      some (res, st')) :
    OwnQueries texts st' ∧ ∀ data, res = .ok data → ∀ r ∈ data, Judged texts input now r := by
  induction ids generalizing st res with
  | nil =>
    cases h
    refine ⟨hst, ?_⟩
    intro data hdata r hr
    cases hdata
    cases hr
  | cons id ids ih =>
    obtain ⟨m,rfl⟩ := hids id List.mem_cons_self
    have hrest (id : String) (hid : id ∈ ids) := hids id (List.mem_cons_of_mem m.id hid)
    rw [metricLoop] at h
    split at h
    · cases h
    · rename_i e st₁ he
      have hst₁ := (evalMap_bundled texts value source now m s hs input st st₁ hst _ he).1
      split at h
      · exact ih hrest st₁ hst₁ res h
      · cases h
        refine ⟨hst₁, ?_⟩
        intro data hdata
        cases hdata
    · rename_i st₁ he
      have hst₁ := (evalMap_bundled texts value source now m s hs input st st₁ hst _ he).1
      exact ih hrest st₁ hst₁ res h
    · rename_i r st₁ he
      obtain ⟨hst₁,hjudged⟩ := evalMap_bundled texts value source now m s hs input st st₁ hst _ he
      obtain ⟨⟨rest,st₂⟩,hloop,heq⟩ := Option.map_eq_some_iff.mp h
      cases heq
      obtain ⟨hst₂,hresults⟩ := ih hrest st₁ hst₁ rest hloop
      refine ⟨hst₂, ?_⟩
      intro data hdata r' hr'
      cases rest with
      | error e => cases hdata
      | ok rest =>
        cases hdata
        rcases List.mem_cons.mp hr' with rfl | hr'
        · exact hjudged r' rfl
        · exact hresults rest rfl r' hr'

variable (hlisted : ∀ x ids, source.metrics x = .ok ids →
  ∀ id ∈ ids, ∃ m : BundledMetric, m.id = id)
include hlisted

theorem eval_bundled (now : ℤ) (st st' : BundledState σ) (hst : OwnQueries texts st)
    (e : Evidence Json) (res : Except Err (List PolicyResult))
    (h : bundledEval texts value source now st e = some (res, st')) :
    OwnQueries texts st' ∧ ∀ input data, e.input = .ok input → res = .ok data →
      ∀ r ∈ data, Judged texts input now r := by
  unfold bundledEval eval at h
  cases hinput : e.input with
  | error err =>
    rw [hinput] at h
    cases h
    refine ⟨hst, ?_⟩
    intro input data hin
    cases hin
  | ok input =>
    rw [hinput] at h
    simp only at h
    have hservice := e.service_uuid
    split at h
    · rename_i cached hcached
      obtain ⟨hst',hresults⟩ := metricLoop_bundled texts value source now _ _ hservice input cached
        (hst.names _ cached hcached) st st' hst res h
      refine ⟨hst', ?_⟩
      intro _ data hin
      cases hin
      exact hresults data
    · split at h
      · cases h
        refine ⟨hst, ?_⟩
        intro _ data _ hdata
        cases hdata
      · rename_i ids hids
        split at h
        · cases h
        · rename_i err st₁ hloop
          have hst₁ := (metricLoop_bundled texts value source now _ _ hservice input ids
            (hlisted _ ids hids) st st₁ hst _ hloop).1
          cases h
          refine ⟨⟨hst₁.queries, Memo.holds_erase hst₁.names _⟩, ?_⟩
          intro _ data _ hdata
          cases hdata
        · rename_i data st₁ hloop
          obtain ⟨hst₁,hresults⟩ := metricLoop_bundled texts value source now _ _ hservice input ids
            (hlisted _ ids hids) st st₁ hst _ hloop
          cases h
          refine ⟨⟨hst₁.queries, Memo.holds_insert hst₁.names _ _ ?_⟩, ?_⟩
          · -- only metrics with a result are remembered
            intro id hid
            obtain ⟨r,hr,rfl⟩ := List.mem_map.mp hid
            obtain ⟨m,hm,_⟩ := hresults data rfl r hr
            exact ⟨m, hm⟩
          · intro _ data' hin hdata
            cases hin
            cases hdata
            exact hresults data rfl

theorem ownQueries_step (st st' : BundledState σ) (op : EngineOp σ) (hst : OwnQueries texts st)
    (h : engineStep texts value source st op = some st') : OwnQueries texts st' := by
  cases op with
  | evaluate e now =>
    obtain ⟨⟨res,st₁⟩,heval,rfl⟩ := Option.map_eq_some_iff.mp h
    exact (eval_bundled texts value source hlisted now st st₁ hst e res heval).1
  | evict p =>
    cases h
    exact ⟨Memo.holds_evict p hst.queries (fun _ _ _ hq => hq), hst.names⟩
  | change x =>
    cases h
    exact ⟨hst.queries, hst.names⟩

theorem ownQueries_run (x : σ) (ops : List (EngineOp σ)) (st : BundledState σ)
    (h : Transitions.run (engineStep texts value source) (RegoState.fresh x) ops = some st) :
    OwnQueries texts st := by
  have hfresh : OwnQueries texts (RegoState.fresh x : BundledState σ) :=
    ⟨Memo.holds_empty _, Memo.holds_empty _⟩
  have hstep (st : BundledState σ) (op : EngineOp σ) (st' : BundledState σ)
      (hst : OwnQueries texts st) (_ : True) :=
    ownQueries_step texts value source hlisted st st' op hst
  exact Transitions.invariant_run hstep ops _ st hfresh
    (Transitions.allowed_of_forall ops _ (fun _ _ _ => trivial)) h

/-- After any evaluations, evictions and changes, whatever the metrics and configurations are: a
resource of the ontology never gets a result for a silent metric, and a compliant one only if the
feature that the metric is about is set. -/
theorem results_of_resources (x : σ) (ops : List (EngineOp σ)) (st st' : BundledState σ)
    (hrun : Transitions.run (engineStep texts value source) (RegoState.fresh x) ops = some st)
    (o : ResourceObject) (e : Evidence Json) (he : e.input = .ok o.input) (now : ℤ)
    (data : List PolicyResult)
    (heval : bundledEval texts value source now st e = some (.ok data, st')) :
    ∀ r ∈ data, ∃ m : BundledMetric, m.id = r.metricId ∧ m ∉ silentMetrics ∧
      (r.compliant = true → m ≠ .adminMixedDuties ∧ m ≠ .transportEncryptionProtocol ∧
        ∀ key ∈ m.feature, o.input.field key.jsonName ≠ some .null) := by
  have hst := ownQueries_run texts value source hlisted x ops st hrun
  have hresults := (eval_bundled texts value source hlisted now st st' hst e _ heval).2 o.input data
    he rfl
  intro r hr
  obtain ⟨m,hid,operator,target,hjudge⟩ := hresults r hr
  change m.judge texts operator target o now = some r.compliant at hjudge
  refine ⟨m, hid, ?_, ?_⟩
  · intro hsilent
    rw [judge_silent texts m hsilent] at hjudge
    cases hjudge
  · intro hmet
    rw [hmet] at hjudge
    refine ⟨?_, ?_, ?_⟩
    · rintro rfl
      exact judge_unmet texts _ (by decide) operator target o now hjudge
    · rintro rfl
      exact judge_unmet texts _ (by decide) operator target o now hjudge
    · intro key hkey hunset
      exact judge_ne_true texts (compliant_unset texts m key hkey o hunset operator target now)
        hjudge

end Runs

section Sample

def inventoryConfiguration : MetricConfiguration :=
  ⟨"==", "true", true, none, "ResourceInventory", "00000000-0000-0000-0000-000000000000"⟩

def inventorySource : Source Unit where
  metrics _ := .ok ["ResourceInventory"]
  metricConfiguration _ _ _ := (.ok inventoryConfiguration, ())
  metricImplementation _ _ := .ok ""

theorem isUuid_zeros : isUuid "00000000-0000-0000-0000-000000000000" = true := by decide

def machineEvidence : Evidence Json :=
  ⟨"00000000-0000-0000-0000-000000000000", "tool", ["VirtualMachine"], .ok bareMachine.input,
    isUuid_zeros⟩

theorem machine_results : ∃ (st st' : BundledState Unit) (data : List PolicyResult),
    Transitions.run (engineStep decimalTexts (fun _ => .bool true) inventorySource)
        (RegoState.fresh ()) [.evaluate machineEvidence 0, .evict (fun _ => true)] = some st ∧
      bundledEval decimalTexts (fun _ => .bool true) inventorySource 1 st machineEvidence =
        some (.ok data, st') ∧
      data.map PolicyResult.metricId = ["ResourceInventory"] ∧
      ∀ r ∈ data, ∃ m : BundledMetric, m.id = r.metricId ∧ m ∉ silentMetrics ∧
        (r.compliant = true → m ≠ .adminMixedDuties ∧ m ≠ .transportEncryptionProtocol ∧
          ∀ key ∈ m.feature, bareMachine.input.field key.jsonName ≠ some .null) := by
  have hlisted (x : Unit) (ids : List String) (hids : inventorySource.metrics x = .ok ids)
      (id : String) (hid : id ∈ ids) : ∃ m : BundledMetric, m.id = id := by
    cases hids
    cases List.mem_singleton.mp hid
    exact ⟨.resourceInventory, rfl⟩
  have hsecond : ∃ st : BundledState Unit,
      Transitions.run (engineStep decimalTexts (fun _ => .bool true) inventorySource)
        (RegoState.fresh ()) [.evaluate machineEvidence 0, .evict (fun _ => true)] = some st ∧
      ∃ st', bundledEval decimalTexts (fun _ => .bool true) inventorySource 1 st machineEvidence =
        some (.ok [⟨true, "true", "==", "ResourceInventory", inventoryConfiguration⟩], st') :=
    ⟨_, rfl, _, rfl⟩
  obtain ⟨st,hrun,st',heval⟩ := hsecond
  refine ⟨st, st', _, hrun, heval, rfl, ?_⟩
  exact results_of_resources decimalTexts (fun _ => .bool true) inventorySource hlisted () _ st st'
    hrun bareMachine machineEvidence rfl 1 _ heval

end Sample
end Clouditor
