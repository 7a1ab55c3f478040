import Clouditor.MetricCoherence

/-! Calls of `MetricConfiguration` that overlap with each other, with changes of configurations
and with the arrival of the events about these. -/
namespace Clouditor
set_option autoImplicit false

/-- How far a call of `MetricConfiguration` has got: it has found no valid entry, or it has the
answer of the orchestrator and is about to store it. -/
inductive ConfigurationCall where
  | notCalled
  | missing (cloudServiceId : ServiceId) (metricId : String)
  | fetched (cloudServiceId : ServiceId) (metricId : String) (config : MetricConfiguration)
  | returned (answer : Except Err MetricConfiguration)

/-- Both services, the events under way and the calls. -/
structure RaceState where
  store : MetricStore
  cache : ConfigurationCache
  now : ℤ
  pending : List MetricChangeEvent
  calls : ℕ → ConfigurationCall

inductive RaceOp where
  | lookup (i : ℕ) (cloudServiceId : ServiceId) (metricId : String)
  | fetch (i : ℕ)
  | keep (i : ℕ)
  | updateMetricConfiguration (caller : Access) (req : UpdateMetricConfigurationRequest)
  | deliver (k : ℕ)
  | advance (duration : ℕ)

section Steps
variable (a : Access) (serviceExists : String → Bool)

def RaceState.goto (st : RaceState) (i : ℕ) (call : ConfigurationCall) : RaceState :=
  { st with calls := Function.update st.calls i call }

def RaceState.step (st : RaceState) : RaceOp → Option RaceState
  | .lookup i s m =>
    match st.calls i with
    | .notCalled =>
      match validEntry st.cache st.now s.1 m with
      | some entry => some (st.goto i (.returned (.ok entry.config)))
      -- the lock of the cache is given back before the orchestrator is asked
      | none => some (st.goto i (.missing s m))
    | _ => none
  | .fetch i =>
    match st.calls i with
    | .missing s m =>
      match st.store.getMetricConfiguration a s.1 m with
      | .error e => some (st.goto i (.returned
          (.error (e.wrap ("could not retrieve metric configuration for " ++ m)))))
      | .ok config => some (st.goto i (.fetched s m config))
    | _ => none
  -- the answer is stored, whatever has arrived since it was fetched
  | .keep i =>
    match st.calls i with
    | .fetched s m config => some { st.goto i (.returned (.ok config)) with
        cache := st.cache.insert (configurationKey s.1 m) ⟨st.now, config⟩ }
    | _ => none
  | .updateMetricConfiguration caller req =>
    match st.store.updateMetricConfiguration caller serviceExists st.now req with
    | .error _ => some st
    | .ok c => some { st with store := c.store, pending := st.pending ++ c.events }
  -- any of the events that are under way may be the next to arrive
  | .deliver k =>
    match st.pending[k]? with
    | none => none
    | some ev => some { st with
        cache := evictConfiguration st.cache ev
        pending := st.pending.eraseIdx k }
  | .advance d => some { st with now := st.now + d }

def RaceState.start (o : MetricStore) (now : ℤ) : RaceState :=
  ⟨o, ∅, now, [], fun _ => .notCalled⟩

/-- No event is under way, and no call waits for the orchestrator or with its answer. -/
def RaceState.Quiet (st : RaceState) : Prop :=
  st.pending = [] ∧ ∀ i, (∀ s m, st.calls i ≠ .missing s m) ∧
    ∀ s m config, st.calls i ≠ .fetched s m config

/-- Every entry of the cache is what the orchestrator would answer. -/
def RaceState.Converged (st : RaceState) : Prop :=
  ∀ k entry, st.cache.lookup k = some entry → ∃ (s : ServiceId) (m : String),
    k = configurationKey s.1 m ∧ st.store.getMetricConfiguration a s.1 m = .ok entry.config

/-- An update is about the pair that its configuration names, and no event arrives while a call
still has to store an answer for the pair of the event. -/
def RaceFree (st : RaceState) : RaceOp → Prop
  | .updateMetricConfiguration _ req => req.configuration.metricId = req.metricId ∧
      req.configuration.cloudServiceId = req.cloudServiceId
  | .deliver k => ∀ i s m config, st.calls i = .fetched s m config →
      st.pending[k]? ≠ some (.configChanged s m)
  | _ => True

/-- Entries and answers are those of the orchestrator, unless their change is under way. -/
structure Traced (st : RaceState) : Prop where
  keys : ∀ k entry, st.cache.lookup k = some entry →
    ∃ (s : ServiceId) (m : String), k = configurationKey s.1 m
  cached : Memo.Holds (ConfigurationFor a st.store st.pending) st.cache
  fetched : ∀ i s m config, st.calls i = .fetched s m config →
    ∀ t, ConfigurationFor a st.store st.pending (configurationKey s.1 m) ⟨t, config⟩

variable {a serviceExists}

/-- A call may move on if what it has fetched is right. -/
theorem Traced.goto {st : RaceState} (h : Traced a st) (i : ℕ) (call : ConfigurationCall)
    (hcall : ∀ s m config, call = .fetched s m config →
      ∀ t, ConfigurationFor a st.store st.pending (configurationKey s.1 m) ⟨t, config⟩) :
    Traced a (st.goto i call) := by
  refine ⟨h.keys, h.cached, fun j s m config hj => ?_⟩
  rcases Transitions.update_eq_cases hj with ⟨_,hnew⟩ | ⟨_,hold⟩
  · exact hcall s m config hnew
  · exact h.fetched j s m config hold

theorem traced_keep (st st' : RaceState) (i : ℕ) (h : Traced a st)
    (hstep : st.step a serviceExists (.keep i) = some st') : Traced a st' := by
  unfold RaceState.step at hstep
  dsimp only at hstep
  split at hstep
  · rename_i s m config hi
    cases hstep
    have hentry := h.fetched i s m config hi st.now
    have hgoto := h.goto i (.returned (.ok config)) (fun _ _ _ heq => by cases heq)
    refine ⟨fun k entry hl => ?_, Memo.holds_insert h.cached _ _ hentry, hgoto.fetched⟩
    by_cases hk : k = configurationKey s.1 m
    · exact ⟨s, m, hk⟩
    · simp only [AList.lookup_insert_ne hk] at hl
      exact h.keys k entry hl
  · cases hstep

theorem traced_update (st st' : RaceState) (caller : Access)
    (req : UpdateMetricConfigurationRequest) (h : Traced a st)
    (hfree : RaceFree st (.updateMetricConfiguration caller req))
    (hstep : st.step a serviceExists (.updateMetricConfiguration caller req) = some st') :
    Traced a st' := by
  unfold RaceState.step at hstep
  dsimp only at hstep
  split at hstep
  · cases hstep
    exact h
  · rename_i c hc
    cases hstep
    have ht := touches_updateMetricConfiguration st.store caller serviceExists st.now req c
      hfree.1 hfree.2 hc
    refine ⟨h.keys, h.cached.mono (fun _ _ hentry => hentry.changed ht), ?_⟩
    intro i s m config hi t
    exact (h.fetched i s m config hi t).changed ht

theorem traced_deliver (st st' : RaceState) (k : ℕ) (h : Traced a st)
    (hfree : RaceFree st (.deliver k))
    (hstep : st.step a serviceExists (.deliver k) = some st') : Traced a st' := by
  unfold RaceState.step at hstep
  dsimp only at hstep
  split at hstep
  · cases hstep
  · rename_i ev hev
    cases hstep
    refine ⟨fun key entry hl => ?_, holds_evictConfiguration h.cached hev, ?_⟩
    · -- what is left after an eviction was there before
      have hholds : Memo.Holds (fun key _ => ∃ (s : ServiceId) (m : String),
          key = configurationKey s.1 m) st.cache := h.keys
      cases ev with
      | configChanged s m => exact Memo.holds_erase hholds _ key entry hl
      | metadataChanged m => exact h.keys key entry hl
      | implementationChanged m => exact h.keys key entry hl
    · intro i s m config hi t
      refine (h.fetched i s m config hi t).arrived hev (fun s' m' hkey heq => ?_)
      obtain ⟨rfl,rfl⟩ := configurationKey_inj s' s m' m hkey
      exact hfree i s' m' config hi (by rw [hev, heq])

theorem traced_step (st : RaceState) (op : RaceOp) (st' : RaceState) (h : Traced a st)
    (hfree : RaceFree st op) (hstep : st.step a serviceExists op = some st') : Traced a st' := by
  cases op with
  | lookup i s m =>
    unfold RaceState.step at hstep
    dsimp only at hstep
    split at hstep
    · split at hstep <;> cases hstep <;> exact h.goto i _ (fun _ _ _ heq => by cases heq)
    · cases hstep
  | fetch i =>
    unfold RaceState.step at hstep
    dsimp only at hstep
    split at hstep
    · rename_i s m _
      split at hstep
      · cases hstep
        exact h.goto i _ (fun _ _ _ heq => by cases heq)
      · rename_i config hget
        cases hstep
        -- the answer is the one of this moment
        refine h.goto i _ (fun s' m' config' heq t => ?_)
        cases heq
        intro s' m' hkey _
        obtain ⟨rfl,rfl⟩ := configurationKey_inj s' s m' m hkey
        exact hget
    · cases hstep
  | keep i => exact traced_keep st st' i h hstep
  | updateMetricConfiguration caller req => exact traced_update st st' caller req h hfree hstep
  | deliver k => exact traced_deliver st st' k h hfree hstep
  | advance d =>
    cases hstep
    exact ⟨h.keys, h.cached, h.fetched⟩

/-- Without races between the arrival of an event and an answer for the same pair, the cache
agrees with the orchestrator whenever nothing is under way. -/
theorem configurations_converge (o : MetricStore) (now : ℤ) (ops : List RaceOp) (st : RaceState)
    (hfree : Transitions.Allowed (RaceState.step a serviceExists) RaceFree (.start o now) ops)
    (hrun : Transitions.run (RaceState.step a serviceExists) (.start o now) ops = some st)
    (hquiet : st.Quiet) : st.Converged a := by
  have hstart : Traced a (RaceState.start o now) := by
    refine ⟨fun k entry hl => ?_, Memo.holds_empty _, fun i s m config hi => ?_⟩
    · simp [RaceState.start] at hl
    · cases hi
  have h := Transitions.invariant_run traced_step ops _ st hstart hfree hrun
  intro k entry hl
  obtain ⟨s,m,hk⟩ := h.keys k entry hl
  refine ⟨s, m, hk, h.cached k entry hl s m hk.symm ?_⟩
  rw [hquiet.1]
  exact List.not_mem_nil

end Steps

section Samples

theorem raceService_valid : isUuid "11111111-1111-1111-1111-111111111111" = true := by
  decide

def raceService : ServiceId := ⟨"11111111-1111-1111-1111-111111111111", raceService_valid⟩

/-- A call that is through before the configuration is changed. -/
def orderlyRun : List RaceOp :=
  [.lookup 0 raceService "TransportEncryption", .fetch 0, .keep 0,
    .updateMetricConfiguration .allowAll encryptionRequest, .deliver 0]

theorem quiet_of_returned {st : RaceState} {answer : Except Err MetricConfiguration}
    (hpending : st.pending = []) (hzero : st.calls 0 = .returned answer)
    (hother : ∀ i, i ≠ 0 → st.calls i = .notCalled) : st.Quiet := by
  refine ⟨hpending, fun i => ?_⟩
  by_cases hi : i = 0
  · simp [hi, hzero]
  · simp [hother i hi]

theorem configurations_converge_orderly :
    ∃ st, Transitions.run (RaceState.step .allowAll (fun _ => true))
        (.start encryptionStore 0) orderlyRun = some st ∧ st.Quiet ∧ st.Converged .allowAll := by
  obtain ⟨st,hrun,hquiet⟩ : ∃ st, Transitions.run (RaceState.step .allowAll (fun _ => true))
      (.start encryptionStore 0) orderlyRun = some st ∧ st.Quiet := by
    refine ⟨_, rfl, quiet_of_returned rfl rfl (fun i hi => ?_)⟩
    simp [RaceState.goto, RaceState.start, hi]
  refine ⟨st, hrun, hquiet, configurations_converge encryptionStore 0 orderlyRun st ?_ hrun hquiet⟩
  refine ⟨trivial, fun s₁ h₁ => ⟨trivial, fun s₂ h₂ => ⟨trivial, fun s₃ h₃ => ⟨⟨rfl, rfl⟩,
    fun s₄ h₄ => ⟨?_, fun _ _ => trivial⟩⟩⟩⟩⟩
  cases h₁
  cases h₂
  cases h₃
  cases h₄
  -- the only call has returned when the event arrives
  intro i s m config hi
  by_cases h0 : i = 0
  · subst h0
    cases hi
  · simp [RaceState.goto, RaceState.start, h0] at hi

/-- The event arrives between the answer of the orchestrator and its storing: nothing is under
way any more, and the old configuration stays. -/
theorem stale_answer_is_kept :
    ∃ st, Transitions.run (RaceState.step .allowAll (fun _ => true)) (.start encryptionStore 0)
        [.lookup 0 raceService "TransportEncryption", .fetch 0,
          .updateMetricConfiguration .allowAll encryptionRequest, .deliver 0, .keep 0] = some st ∧
      st.Quiet ∧
      (st.cache.lookup (configurationKey raceService.1 "TransportEncryption")).map
        (fun entry => entry.config.targetValue) = some "TLS" ∧
      (st.store.getMetricConfiguration .allowAll raceService.1 "TransportEncryption").toOption.map
        MetricConfiguration.targetValue = some "none" := by
  refine ⟨_, rfl, quiet_of_returned rfl rfl (fun i hi => ?_), rfl, rfl⟩
  simp [RaceState.goto, RaceState.start, hi]

end Samples
end Clouditor
