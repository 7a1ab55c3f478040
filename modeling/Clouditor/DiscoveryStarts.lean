import Clouditor.AppendLoops
import Clouditor.Requests
import Clouditor.Transitions
import Mathlib.Tactic.SplitIfs

/-! `Start` of the discovery service: the discoverers it adds for the configured providers, the
jobs it schedules for them, and what calls that fail leave behind. -/
namespace Clouditor
set_option autoImplicit false

section Starting

/-- What is looked at of a discoverer. The resource group is an option of the one for Azure. -/
structure Discoverer where
  name : String
  csID : String
  resourceGroup : Option String
  deriving DecidableEq

/-- The fixed parts of the service. -/
structure DiscoveryConfig where
  csID : String
  providers : List String

/-- The fields that `Start` extends. The tag of a job is the name of its discoverer. -/
@[ext]
structure Scheduling where
  discoverers : List Discoverer
  jobs : List Discoverer
  deriving DecidableEq

/-- A call with what it meets: the answers to the authentications by the position of the provider,
and to the scheduling by the position of the discoverer, used tags apart. -/
structure DiscoveryCall where
  valid : Bool
  access : Access
  resourceGroup : String
  authentication : ℕ → Option Err
  scheduling : ℕ → Option Err

variable (csID : String) (call : DiscoveryCall)

/-- The discoverers for a provider, and its name in errors. -/
def providerDiscoverers (provider : String) : Option (String × List Discoverer) :=
  if provider = "azure" then
    some ("Azure", [⟨"Azure", csID,
      if call.resourceGroup = "" then none else some call.resourceGroup⟩])
  else if provider = "k8s" then
    some ("Kubernetes", [⟨"Kubernetes Compute", csID, none⟩, ⟨"Kubernetes Network", csID, none⟩,
      ⟨"Kubernetes Storage", csID, none⟩])
  else if provider = "aws" then
    some ("AWS", [⟨"AWS Blob Storage", csID, none⟩, ⟨"AWS Compute", csID, none⟩])
  else none

/-- Why `Start` returns at a provider. -/
def providerError (i : ℕ) (provider : String) : Option Err :=
  match providerDiscoverers csID call provider with
  | none => some ⟨some .invalidArgument, "provider " ++ provider ++ " not known"⟩
  | some (label, _) => (call.authentication i).map (fun e =>
    ⟨some .failedPrecondition, "could not authenticate to " ++ label ++ ": " ++ e.error⟩)

def discoverersOf (provider : String) : List Discoverer :=
  ((providerDiscoverers csID call provider).map Prod.snd).getD []

/-- The loop over the providers. -/
def addProviders (providers : List String) (ds : List Discoverer) :
    List Discoverer × Option Err :=
  AppendLoop.run (fun i provider _ => providerError csID call i provider)
    (discoverersOf csID call) 0 providers ds

def errSchedule (d : Discoverer) (e : Err) : Err :=
  ⟨some .aborted, "could not schedule job for \x7b" ++ d.name ++ "\x7d: " ++ e.error⟩

def errTagsUnique (tag : String) : Err :=
  ⟨none, "a non-unique tag was set on the job: " ++ tag⟩

/-- Why `Start` returns at a discoverer. A job whose tag is used is not added. -/
def jobError (i : ℕ) (d : Discoverer) (jobs : List Discoverer) : Option Err :=
  if d.name ∈ jobs.map Discoverer.name then some (errSchedule d (errTagsUnique d.name))
  else (call.scheduling i).map (errSchedule d)

/-- The loop over the discoverers. -/
def scheduleJobs (ds jobs : List Discoverer) : List Discoverer × Option Err :=
  AppendLoop.run (jobError call) (fun d => [d]) 0 ds jobs

/-- `Start`: the state it leaves, and the error if it fails. -/
def DiscoveryConfig.start (svc : DiscoveryConfig) (st : Scheduling) (call : DiscoveryCall) :
    Scheduling × Option Err :=
  if !call.valid then (st, some errInvalidRequest)
  else if !call.access.checkAccess svc.csID then (st, some errPermissionDenied)
  else
    match addProviders svc.csID call svc.providers st.discoverers with
    | (ds, some e) => ({ st with discoverers := ds }, some e)
    | (ds, none) =>
      let scheduled := scheduleJobs call ds st.jobs
      (⟨ds, scheduled.1⟩, scheduled.2)

end Starting

section Loops
variable (csID : String) (call : DiscoveryCall)

/-- The discoverers of all providers. -/
def provided (providers : List String) : List Discoverer :=
  providers.flatMap (discoverersOf csID call)

theorem discoverersOf_ne_nil (i : ℕ) (provider : String)
    (h : providerError csID call i provider = none) : discoverersOf csID call provider ≠ [] := by
  unfold providerError at h
  unfold discoverersOf
  split at h
  · cases h
  · rename_i label new hnew
    rw [hnew]
    unfold providerDiscoverers at hnew
    split_ifs at hnew <;> (cases hnew; simp)

/-- A provider that is not known, or that cannot be authenticated to. -/
def ProviderFails (i : ℕ) (provider : String) : Prop :=
  provider ∉ ["azure", "k8s", "aws"] ∨ call.authentication i ≠ none

/-- A discoverer whose tag is used, or whose job the scheduler does not take. -/
def JobFails (jobs : List Discoverer) (i : ℕ) (d : Discoverer) : Prop :=
  d.name ∈ jobs.map Discoverer.name ∨ call.scheduling i ≠ none

theorem providerError_eq_none_iff (i : ℕ) (provider : String) :
    providerError csID call i provider = none ↔ ¬ ProviderFails call i provider := by
  have hknown : providerDiscoverers csID call provider = none ↔
      provider ∉ ["azure", "k8s", "aws"] := by
    unfold providerDiscoverers
    split_ifs <;> simp_all
  unfold providerError ProviderFails
  rw [← hknown]
  cases providerDiscoverers csID call provider <;> simp

theorem jobError_eq_none_iff (i : ℕ) (d : Discoverer) (jobs : List Discoverer) :
    jobError call i d jobs = none ↔ ¬ JobFails call jobs i d := by
  unfold jobError JobFails
  split_ifs with htag <;> simp [htag]

theorem flatMap_singleton_self (ds : List Discoverer) : ds.flatMap (fun d => [d]) = ds := by
  simp

theorem addProviders_none_iff (providers : List String) (ds : List Discoverer) :
    (addProviders csID call providers ds).2 = none ↔
      ∀ k p, providers[k]? = some p → ¬ ProviderFails call k p := by
  rw [addProviders, AppendLoop.run_none_iff]
  simp only [Nat.zero_add, providerError_eq_none_iff]

theorem scheduleJobs_none_iff (ds jobs : List Discoverer) :
    (scheduleJobs call ds jobs).2 = none ↔
      ∀ k d, ds[k]? = some d → ¬ JobFails call (jobs ++ ds.take k) k d := by
  rw [scheduleJobs, AppendLoop.run_none_iff]
  simp only [flatMap_singleton_self, Nat.zero_add, jobError_eq_none_iff]

/-- Names of discoverers that can all be scheduled are different. -/
theorem names_nodup (ds jobs : List Discoverer) (hjobs : (jobs.map Discoverer.name).Nodup)
    (h : (scheduleJobs call ds jobs).2 = none) : ((jobs ++ ds).map Discoverer.name).Nodup := by
  rw [scheduleJobs_none_iff] at h
  have htags (k : ℕ) (d : Discoverer) (hd : ds[k]? = some d) :
      d.name ∉ (jobs ++ ds.take k).map Discoverer.name :=
    fun htag => h k d hd (.inl htag)
  clear h
  -- the last discoverer is the one that meets all other tags
  induction ds using List.reverseRecOn with
  | nil => simpa using hjobs
  | append_singleton ds d ih =>
    have hlast := htags ds.length d (by simp)
    rw [List.take_left] at hlast
    have hrest : ((jobs ++ ds).map Discoverer.name).Nodup := by
      apply ih
      intro k d' hd'
      have hlt : k < ds.length := (List.getElem?_eq_some_iff.mp hd').1
      have hk := htags k d' (by rw [List.getElem?_append_left hlt, hd'])
      rwa [List.take_append_of_le_length hlt.le] at hk
    rw [← List.append_assoc, List.map_append, List.map_singleton, List.nodup_append]
    refine ⟨hrest, List.nodup_cons.mpr ⟨by simp, List.nodup_nil⟩, ?_⟩
    intro a ha b hb hab
    rw [List.mem_singleton.mp hb] at hab
    exact hlast (hab ▸ ha)

theorem scheduleJobs_eq (ds jobs : List Discoverer) (h : (scheduleJobs call ds jobs).2 = none) :
    (scheduleJobs call ds jobs).1 = jobs ++ ds := by
  rw [scheduleJobs, AppendLoop.run_eq_append _ _ _ _ _ h, flatMap_singleton_self]

end Loops

section Traces
variable (svc : DiscoveryConfig)

/-- A call that fails behind a provider that was added or, where no providers are configured,
behind a job that was scheduled. -/
def DiscoveryConfig.FailsLate (st : Scheduling) (call : DiscoveryCall) : Prop :=
  call.valid = true ∧ call.access.checkAccess svc.csID = true ∧
  match svc.providers with
  | provider :: providers =>
    let ds := st.discoverers ++ provided svc.csID call (provider :: providers)
    ¬ ProviderFails call 0 provider ∧
      ((∃ k p, providers[k]? = some p ∧ ProviderFails call (k + 1) p) ∨
        ∃ k d, ds[k]? = some d ∧ JobFails call (st.jobs ++ ds.take k) k d)
  | [] => ∃ d ds, st.discoverers = d :: ds ∧ ¬ JobFails call st.jobs 0 d ∧
    ∃ k d', ds[k]? = some d' ∧ JobFails call (st.jobs ++ d :: ds.take k) (k + 1) d'

/-- A call that fails leaves the discoverers and the jobs as they were. -/
def DiscoveryConfig.Unchanged (st : Scheduling) (call : DiscoveryCall) : Prop :=
  (svc.start st call).2 ≠ none → (svc.start st call).1 = st

variable (st : Scheduling) (call : DiscoveryCall)

theorem start_refused (h : ¬ (call.valid = true ∧ call.access.checkAccess svc.csID = true)) :
    (svc.start st call).1 = st ∧ (svc.start st call).2 ≠ none := by
  unfold DiscoveryConfig.start
  cases hv : call.valid
  · simp
  · cases ha : call.access.checkAccess svc.csID
    · simp
    · exact absurd ⟨hv, ha⟩ h

theorem start_discoverers (hv : call.valid = true)
    (ha : call.access.checkAccess svc.csID = true) : (svc.start st call).1.discoverers =
      (addProviders svc.csID call svc.providers st.discoverers).1 := by
  unfold DiscoveryConfig.start
  rcases addProviders svc.csID call svc.providers st.discoverers with ⟨ds,_ | e⟩ <;> simp [hv, ha]

/-- Past the providers a call is the loop over the discoverers. -/
theorem start_scheduled (hv : call.valid = true) (ha : call.access.checkAccess svc.csID = true)
    (hadd : (addProviders svc.csID call svc.providers st.discoverers).2 = none) :
    svc.start st call =
      (⟨st.discoverers ++ provided svc.csID call svc.providers,
        (scheduleJobs call (st.discoverers ++ provided svc.csID call svc.providers) st.jobs).1⟩,
      (scheduleJobs call (st.discoverers ++ provided svc.csID call svc.providers) st.jobs).2) := by
  have hds : (addProviders svc.csID call svc.providers st.discoverers).1 =
      st.discoverers ++ provided svc.csID call svc.providers :=
    AppendLoop.run_eq_append _ _ _ _ _ hadd
  unfold DiscoveryConfig.start
  rcases hloop : addProviders svc.csID call svc.providers st.discoverers with ⟨ds,e⟩
  rw [hloop] at hadd hds
  cases hadd
  cases hds
  simp [hv, ha]

/-- A call succeeds when it is allowed and both loops reach their end. -/
theorem start_none_iff : (svc.start st call).2 = none ↔
    call.valid = true ∧ call.access.checkAccess svc.csID = true ∧
      (∀ k p, svc.providers[k]? = some p → ¬ ProviderFails call k p) ∧
      ∀ k d, (st.discoverers ++ provided svc.csID call svc.providers)[k]? = some d →
        ¬ JobFails call (st.jobs ++
          (st.discoverers ++ provided svc.csID call svc.providers).take k) k d := by
  rw [← scheduleJobs_none_iff, ← addProviders_none_iff svc.csID call svc.providers st.discoverers]
  by_cases hchecks : call.valid = true ∧ call.access.checkAccess svc.csID = true
  · by_cases hadd : (addProviders svc.csID call svc.providers st.discoverers).2 = none
    · rw [start_scheduled svc st call hchecks.1 hchecks.2 hadd]
      simp [hchecks.1, hchecks.2, hadd]
    · obtain ⟨e,he⟩ := Option.ne_none_iff_exists'.mp hadd
      have herr : (svc.start st call).2 = some e := by
        unfold DiscoveryConfig.start
        rcases hloop : addProviders svc.csID call svc.providers st.discoverers with ⟨ds,_⟩
        rw [hloop] at he
        cases he
        simp [hchecks.1, hchecks.2]
      simp [herr, hadd]
  · have herr := (start_refused svc st call hchecks).2
    constructor
    · intro h
      exact absurd h herr
    · intro h
      exact absurd ⟨h.1, h.2.1⟩ hchecks

/-- Where the first element is fine, what fails is behind it. -/
theorem exists_behind_first {α : Type} (x : α) (xs : List α) (P : ℕ → α → Prop) (h : ¬ P 0 x) :
    (¬ ∀ k y, (x :: xs)[k]? = some y → ¬ P k y) ↔ ∃ k y, xs[k]? = some y ∧ P (k + 1) y := by
  simp only [not_forall, not_not, exists_prop]
  constructor
  · intro hall
    obtain ⟨k,y,hy,hP⟩ := hall
    cases k with
    | zero =>
      cases hy
      exact absurd hP h
    | succ k => exact ⟨k, y, by simpa using hy, hP⟩
  · intro hall
    obtain ⟨k,y,hy,hP⟩ := hall
    exact ⟨k + 1, y, by simpa using hy, hP⟩

/-- Without providers the discoverers stay, and the jobs stay if the first of them fails. -/
theorem unchanged_iff_of_no_providers (hp : svc.providers = []) (hv : call.valid = true)
    (ha : call.access.checkAccess svc.csID = true) :
    svc.Unchanged st call ↔ ¬ svc.FailsLate st call := by
  have hstart : svc.start st call =
      (⟨st.discoverers, (scheduleJobs call st.discoverers st.jobs).1⟩,
        (scheduleJobs call st.discoverers st.jobs).2) := by
    simp [DiscoveryConfig.start, hv, ha, hp, addProviders, AppendLoop.run]
  simp only [DiscoveryConfig.Unchanged, DiscoveryConfig.FailsLate, hstart, hv, ha, hp, true_and]
  obtain ⟨discoverers,jobs⟩ := st
  cases discoverers with
  | nil => simp [scheduleJobs, AppendLoop.run]
  | cons d ds =>
    simp only [List.cons.injEq, Scheduling.mk.injEq, true_and]
    by_cases hd : JobFails call jobs 0 d
    · obtain ⟨e,he⟩ := Option.ne_none_iff_exists'.mp
        (mt (jobError_eq_none_iff call 0 d jobs).mp (not_not.mpr hd))
      rw [scheduleJobs, AppendLoop.run_cons_fails _ _ he]
      simp only [implies_true, true_iff]
      rintro ⟨d',_,⟨rfl,_⟩,hok,_⟩
      exact hok hd
    · have hne : (scheduleJobs call (d :: ds) jobs).1 ≠ jobs :=
        AppendLoop.run_cons_ne (jobError call) (fun d => [d]) 0 d ds jobs
          ((jobError_eq_none_iff call 0 d jobs).mpr hd) (by simp)
      have hlate := exists_behind_first d ds
        (fun k d' => JobFails call (jobs ++ (d :: ds).take k) k d') (by simpa using hd)
      rw [← scheduleJobs_none_iff] at hlate
      simp only [List.take_succ_cons] at hlate
      simp only [hne, imp_false, not_not]
      rw [← not_iff_not, hlate, not_not]
      constructor
      · intro hex
        exact ⟨d, ds, ⟨rfl, rfl⟩, hd, hex⟩
      · rintro ⟨_,_,⟨rfl,rfl⟩,_,hex⟩
        exact hex

/-- With providers the first one decides whether anything is added. -/
theorem unchanged_iff_of_providers (provider : String) (providers : List String)
    (hp : svc.providers = provider :: providers) (hv : call.valid = true)
    (ha : call.access.checkAccess svc.csID = true) :
    svc.Unchanged st call ↔ ¬ svc.FailsLate st call := by
  by_cases h0 : ProviderFails call 0 provider
  · obtain ⟨e,he⟩ := Option.ne_none_iff_exists'.mp
      (mt (providerError_eq_none_iff svc.csID call 0 provider).mp (not_not.mpr h0))
    have hsame : addProviders svc.csID call svc.providers st.discoverers =
        (st.discoverers, some e) := by
      rw [hp]
      exact AppendLoop.run_cons_fails _ _ he _
    have hstart : (svc.start st call).1 = st := by
      simp [DiscoveryConfig.start, hv, ha, hsame]
    simp [DiscoveryConfig.Unchanged, DiscoveryConfig.FailsLate, hp, hstart, h0]
  · have hne : (svc.start st call).1 ≠ st := by
      intro heq
      have h0' := (providerError_eq_none_iff svc.csID call 0 provider).mpr h0
      have hadded : (addProviders svc.csID call svc.providers st.discoverers).1 ≠
          st.discoverers := by
        rw [hp]
        exact AppendLoop.run_cons_ne _ _ 0 provider providers st.discoverers h0'
          (discoverersOf_ne_nil svc.csID call 0 provider h0')
      apply hadded
      rw [← start_discoverers svc st call hv ha, heq]
    have hlate := exists_behind_first provider providers (ProviderFails call) h0
    simp only [DiscoveryConfig.Unchanged, hne, imp_false, not_not, start_none_iff,
      DiscoveryConfig.FailsLate, hv, ha, hp, true_and, h0, not_false_eq_true]
    rw [← hlate]
    simp only [not_or, not_not, not_exists, not_and]

theorem unchanged_iff : svc.Unchanged st call ↔ ¬ svc.FailsLate st call := by
  by_cases hchecks : call.valid = true ∧ call.access.checkAccess svc.csID = true
  · cases hp : svc.providers with
    | nil => exact unchanged_iff_of_no_providers svc st call hp hchecks.1 hchecks.2
    | cons provider providers =>
      exact unchanged_iff_of_providers svc st call provider providers hp hchecks.1 hchecks.2
  · constructor
    · intro _ hlate
      exact hchecks ⟨hlate.1, hlate.2.1⟩
    · intro _ _
      exact (start_refused svc st call hchecks).1

end Traces

section Sequences
variable (svc : DiscoveryConfig) (extra : List Discoverer)

/-- A new service, with its additional discoverers. -/
def freshScheduling : Scheduling := ⟨extra, []⟩

/-- One call of a sequence. -/
def DiscoveryConfig.step (st : Scheduling) (call : DiscoveryCall) : Option Scheduling :=
  some (svc.start st call).1

/-- The names of all configured discoverers. They are the same for every call. -/
def DiscoveryConfig.configured (st : Scheduling) (call : DiscoveryCall) : List String :=
  (st.discoverers ++ provided svc.csID call svc.providers).map Discoverer.name

/-- After a successful call there is one job for each configured discoverer. -/
def DiscoveryConfig.SchedulesOnce (st : Scheduling) (call : DiscoveryCall) : Prop :=
  (svc.start st call).2 = none →
    ((svc.start st call).1.jobs.map Discoverer.name).Nodup ∧
      (svc.start st call).1.jobs.map Discoverer.name =
        svc.configured (freshScheduling extra) call

/-- What is expected of a sequence of calls: those that fail change nothing, so that after failed
calls only, a call succeeds that would have on a new service, and those that succeed schedule
each discoverer once. -/
structure DiscoveryConfig.Atomic (calls : List DiscoveryCall) : Prop where
  unchanged : Transitions.Allowed svc.step svc.Unchanged (freshScheduling extra) calls
  retry : ∀ st call, Transitions.Allowed svc.step (fun s c => (svc.start s c).2 ≠ none)
      (freshScheduling extra) calls →
    Transitions.run svc.step (freshScheduling extra) calls = some st →
    (svc.start (freshScheduling extra) call).2 = none → (svc.start st call).2 = none
  once : Transitions.Allowed svc.step (svc.SchedulesOnce extra) (freshScheduling extra) calls

theorem provided_names (call call' : DiscoveryCall) (providers : List String) :
    (provided svc.csID call providers).map Discoverer.name =
      (provided svc.csID call' providers).map Discoverer.name := by
  simp only [provided, List.map_flatMap]
  apply List.flatMap_congr
  intro provider _
  unfold discoverersOf providerDiscoverers
  split_ifs <;> rfl

/-- The state after a success: each discoverer has its job. -/
structure DiscoveryConfig.Scheduled (st : Scheduling) : Prop where
  jobs_eq : st.jobs = st.discoverers
  nodup : (st.jobs.map Discoverer.name).Nodup
  names_eq : ∀ call, st.jobs.map Discoverer.name = svc.configured (freshScheduling extra) call

theorem start_success (st : Scheduling) (call : DiscoveryCall)
    (hst : st = freshScheduling extra ∨ svc.Scheduled extra st)
    (h : (svc.start st call).2 = none) : svc.Scheduled extra (svc.start st call).1 := by
  obtain ⟨hv,ha,hadd,hjobs⟩ := (start_none_iff svc st call).mp h
  rw [← addProviders_none_iff svc.csID call svc.providers st.discoverers] at hadd
  rw [← scheduleJobs_none_iff] at hjobs
  rw [start_scheduled svc st call hv ha hadd, scheduleJobs_eq call _ _ hjobs]
  rcases hst with rfl | hst
  · refine ⟨rfl, names_nodup call _ _ List.nodup_nil hjobs, fun call' => ?_⟩
    simp only [freshScheduling, DiscoveryConfig.configured, List.nil_append, List.map_append,
      provided_names svc call call']
  · -- a job that exists already would have been refused, so there is none
    have hnodup := names_nodup call _ _ hst.nodup hjobs
    have hnone : st.jobs = [] := by
      rw [← hst.jobs_eq, ← List.append_assoc, List.map_append, List.map_append,
        List.nodup_append] at hnodup
      have hdisjoint := (List.nodup_append.mp hnodup.1).2.2
      cases hj : st.jobs with
      | nil => rfl
      | cons d ds =>
        rw [hj] at hdisjoint
        exact absurd rfl (hdisjoint d.name List.mem_cons_self d.name List.mem_cons_self)
    have hprovided : provided svc.csID call svc.providers = [] := by
      have hnames := hst.names_eq call
      rw [hnone, DiscoveryConfig.configured, List.map_append] at hnames
      have hempty := (List.append_eq_nil_iff.mp hnames.symm).2
      exact List.map_eq_nil_iff.mp hempty
    rw [hprovided, List.append_nil, ← hst.jobs_eq, hnone, List.append_nil]
    refine ⟨rfl, List.nodup_nil, fun call' => ?_⟩
    rw [← hst.names_eq call', hnone]

theorem step_keeps (st : Scheduling) (call : DiscoveryCall) (st' : Scheduling)
    (hst : st = freshScheduling extra ∨ svc.Scheduled extra st) (hsame : svc.Unchanged st call)
    (h : svc.step st call = some st') :
    st' = freshScheduling extra ∨ svc.Scheduled extra st' := by
  cases h
  by_cases hok : (svc.start st call).2 = none
  · exact .inr (start_success svc extra st call hst hok)
  · rw [hsame hok]
    exact hst

/-- A sequence of calls is as expected exactly if none of them fails behind something it has
added. -/
theorem starts_atomic_iff (calls : List DiscoveryCall) : svc.Atomic extra calls ↔
    Transitions.Allowed svc.step (fun st call => ¬ svc.FailsLate st call)
      (freshScheduling extra) calls := by
  rw [← Transitions.allowed_congr (unchanged_iff svc)]
  constructor
  · intro h
    exact h.unchanged
  · intro h
    refine ⟨h, ?_, ?_⟩
    · intro st call hfail hrun hfresh
      have hstays (s : Scheduling) (c : DiscoveryCall) (s' : Scheduling)
          (hs : s = freshScheduling extra)
          (hP : svc.Unchanged s c ∧ (svc.start s c).2 ≠ none) (hs' : svc.step s c = some s') :
          s' = freshScheduling extra := by
        cases hs'
        rw [hP.1 hP.2, hs]
      have hst := Transitions.invariant_run hstays calls _ st rfl
        (Transitions.allowed_and calls _ h hfail) hrun
      rw [hst]
      exact hfresh
    · apply Transitions.allowed_imp (step_keeps svc extra) _ calls _ (.inl rfl) h
      intro st call hst _ hok
      have hdone := start_success svc extra st call hst hok
      exact ⟨hdone.nodup, hdone.names_eq call⟩

/-- A call for which everything works but the authentication at some position. -/
def callFailingAt (position : Option ℕ) : DiscoveryCall :=
  ⟨true, .allowAll, "",
    fun i => if some i = position then some ⟨none, "no credentials"⟩ else none, fun _ => none⟩

/-- One failed authentication to Kubernetes, and no further call succeeds. -/
theorem start_never_recovers :
    ((⟨"service", ["azure", "k8s"]⟩ : DiscoveryConfig).start ⟨[], []⟩
      (callFailingAt none)).2 = none ∧
    ¬ (⟨"service", ["azure", "k8s"]⟩ : DiscoveryConfig).Atomic []
      [callFailingAt (some 1)] ∧
    ((⟨"service", ["azure", "k8s"]⟩ : DiscoveryConfig).start
      ((⟨"service", ["azure", "k8s"]⟩ : DiscoveryConfig).start ⟨[], []⟩
        (callFailingAt (some 1))).1 (callFailingAt none)).2 =
      some (errSchedule ⟨"Azure", "service", none⟩ (errTagsUnique "Azure")) := by
  refine ⟨by decide, ?_, by decide⟩
  intro h
  have hsame := h.unchanged.1 (by decide)
  exact absurd hsame (by decide)

end Sequences
end Clouditor
