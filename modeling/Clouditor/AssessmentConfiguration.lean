import Clouditor.RegoEval
import Mathlib.Algebra.Ring.Nat

/-! The metric configurations that the assessment service keeps: when it asks the
orchestrator for one, and how old a configuration may get before it does so again. -/
namespace Clouditor
set_option autoImplicit false

/-- The id of a cloud service that has passed the validation of a request. -/
abbrev ServiceId := { s : String // isUuid s = true }

inductive MetricChangeEvent where
  | metadataChanged (metricId : String)
  | configChanged (cloudServiceId : ServiceId) (metricId : String)
  | implementationChanged (metricId : String)
  deriving DecidableEq

structure CachedConfiguration where
  cachedAt : ℤ
  config : MetricConfiguration

/-- One hour, in the nanoseconds of `time.Duration`. -/
def EvictionTime : ℤ := 3600 * 1000000000

abbrev ConfigurationCache := Memo.Table String CachedConfiguration

def configurationKey (cloudServiceId metricId : String) : String :=
  cloudServiceId ++ "-" ++ metricId

theorem configurationKey_inj (s s' : ServiceId) (m m' : String)
    (h : configurationKey s.1 m = configurationKey s'.1 m') : s = s' ∧ m = m' := by
  have hl := congrArg String.toList h
  simp only [configurationKey, String.toList_append, List.append_assoc] at hl
  have hlen : s.1.toList.length = s'.1.toList.length := by
    rw [isUuid_length s.1 s.2, isUuid_length s'.1 s'.2]
  obtain ⟨hs,hm⟩ := List.append_inj hl hlen
  exact ⟨Subtype.ext (String.toList_inj.mp hs),
    String.toList_inj.mp (List.append_cancel_left hm)⟩

/-- `cachedAt.After(now.Add(EvictionTime))`, which asks for a time in the future. -/
def CachedConfiguration.expired (entry : CachedConfiguration) (now : ℤ) : Bool :=
  now + EvictionTime < entry.cachedAt

/-- The entry that answers without a request to the orchestrator. -/
def validEntry (cache : ConfigurationCache) (now : ℤ) (cloudServiceId metricId : String) :
    Option CachedConfiguration :=
  (cache.lookup (configurationKey cloudServiceId metricId)).filter
    (fun entry => !entry.expired now)

/-- `MetricConfiguration`, where `fetched` is what the orchestrator answers now. -/
def metricConfiguration (cache : ConfigurationCache) (now : ℤ)
    (fetched : Except Err MetricConfiguration) (cloudServiceId metricId : String) :
    Except Err MetricConfiguration × ConfigurationCache :=
  match validEntry cache now cloudServiceId metricId with
  | some entry => (.ok entry.config, cache)
  | none =>
    match fetched with
    | .error e =>
      (.error (e.wrap ("could not retrieve metric configuration for " ++ metricId)), cache)
    | .ok config =>
      (.ok config, cache.insert (configurationKey cloudServiceId metricId) ⟨now, config⟩)

theorem metricConfiguration_eq {P : String → CachedConfiguration → Prop}
    {cache : ConfigurationCache} (hcache : Memo.Holds P cache) (now : ℤ)
    (fetched : Except Err MetricConfiguration) (s m : String)
    (hP : ∀ entry, P (configurationKey s m) entry → fetched = .ok entry.config) :
    (metricConfiguration cache now fetched s m).1 =
      fetched.mapError (Err.wrap ("could not retrieve metric configuration for " ++ m)) := by
  unfold metricConfiguration
  cases hv : validEntry cache now s m with
  | some entry =>
    have hl := (Option.filter_eq_some_iff.mp hv).1
    rw [hP entry (hcache _ entry hl)]
    rfl
  | none => cases fetched <;> rfl

theorem holds_metricConfiguration {P : String → CachedConfiguration → Prop}
    {cache : ConfigurationCache} (hcache : Memo.Holds P cache) (now : ℤ)
    (fetched : Except Err MetricConfiguration) (s m : String)
    (hP : ∀ config, fetched = .ok config → P (configurationKey s m) ⟨now, config⟩) :
    Memo.Holds P (metricConfiguration cache now fetched s m).2 := by
  unfold metricConfiguration
  cases validEntry cache now s m with
  | some entry => exact hcache
  | none =>
    cases hf : fetched with
    | error e => exact hcache
    | ok config => exact Memo.holds_insert hcache _ _ (hP config hf)

/-- The part of `handleMetricEvent` that concerns the configurations. -/
def evictConfiguration (cache : ConfigurationCache) : MetricChangeEvent → ConfigurationCache
  | .configChanged s m => cache.erase (configurationKey s.1 m)
  | .metadataChanged _ => cache
  | .implementationChanged _ => cache

section Timed

/-- A request for a configuration that the orchestrator has answered. -/
structure Served where
  servedAt : ℤ
  cloudServiceId : ServiceId
  metricId : String
  config : MetricConfiguration

/-- The service, the clock, what the orchestrator answers at the moment and what it has
answered so far. -/
structure TimedState where
  cache : ConfigurationCache
  now : ℤ
  answers : ServiceId → String → Except Err MetricConfiguration
  served : List Served

def TimedState.start (now : ℤ)
    (answers : ServiceId → String → Except Err MetricConfiguration) : TimedState :=
  ⟨∅, now, answers, []⟩

inductive TimedOp where
  | call (cloudServiceId : ServiceId) (metricId : String)
  | change (answers : ServiceId → String → Except Err MetricConfiguration)
  | handle (event : MetricChangeEvent)
  | advance (duration : ℕ)

/-- What a call of `MetricConfiguration` returns in this state. -/
def TimedState.answer (st : TimedState) (s : ServiceId) (m : String) :
    Except Err MetricConfiguration :=
  (metricConfiguration st.cache st.now (st.answers s m) s.1 m).1

def TimedState.serve (st : TimedState) (s : ServiceId) (m : String) : List Served :=
  match validEntry st.cache st.now s.1 m, st.answers s m with
  -- only a call without a valid entry gets through to the orchestrator
  | none, .ok config => ⟨st.now, s, m, config⟩ :: st.served
  | _, _ => st.served

def TimedState.step (st : TimedState) : TimedOp → TimedState
  | .call s m => { st with
      cache := (metricConfiguration st.cache st.now (st.answers s m) s.1 m).2
      served := st.serve s m }
  | .change answers => { st with answers := answers }
  | .handle event => { st with cache := evictConfiguration st.cache event }
  | .advance d => { st with now := st.now + d }

def TimedState.run (st : TimedState) (ops : List TimedOp) : TimedState :=
  ops.foldl TimedState.step st

def TimedOp.duration : TimedOp → ℕ
  | .advance d => d
  | _ => 0

def elapsed (ops : List TimedOp) : ℕ := (ops.map TimedOp.duration).sum

theorem run_snoc (st : TimedState) (ops : List TimedOp) (op : TimedOp) :
    st.run (ops ++ [op]) = (st.run ops).step op := by
  simp [TimedState.run]

theorem run_now (st : TimedState) (ops : List TimedOp) :
    (st.run ops).now = st.now + elapsed ops := by
  induction ops generalizing st with
  | nil => simp [TimedState.run, elapsed]
  | cons op ops ih =>
    have hstep : (st.step op).now = st.now + op.duration := by
      cases op <;> simp [TimedState.step, TimedOp.duration]
    change ((st.step op).run ops).now = _
    rw [ih, hstep, elapsed, elapsed, List.map_cons, List.sum_cons, Int.natCast_add, Int.add_assoc]

theorem run_now_append (st : TimedState) (p q : List TimedOp) :
    (st.run (p ++ q)).now = (st.run p).now + elapsed q := by
  rw [← run_now (st.run p) q, TimedState.run, List.foldl_append]
  rfl

/-- The pair was requested after `p`, the orchestrator answered, and the entry was not
evicted in `q`, which comes next. -/
structure Kept (start : TimedState) (s : ServiceId) (m : String) (ops p q : List TimedOp) :
    Prop where
  split : ops = p ++ .call s m :: q
  answered : ((start.run p).answers s m).isOk = true
  not_evicted : .handle (.configChanged s m) ∉ q

theorem snoc_eq_split {α : Type} (l p q : List α) (x a : α) :
    l ++ [x] = p ++ a :: q ↔
      (q = [] ∧ p = l ∧ a = x) ∨ ∃ q', q = q' ++ [x] ∧ l = p ++ a :: q' := by
  rcases q.eq_nil_or_concat with rfl | ⟨q',y,rfl⟩
  · constructor
    · intro h
      obtain ⟨h1,h2⟩ := List.append_inj' h rfl
      exact .inl ⟨rfl, h1.symm, (List.singleton_inj.mp h2).symm⟩
    · rintro (⟨_,rfl,rfl⟩ | ⟨q',h,_⟩)
      · rfl
      · exact absurd h (by simp)
  · have hassoc : p ++ a :: (q' ++ [y]) = (p ++ a :: q') ++ [y] := by simp
    simp only [List.concat_eq_append, hassoc, List.append_eq_nil_iff, List.cons_ne_nil]
    constructor
    · intro h
      obtain ⟨h1,h2⟩ := List.append_inj' h rfl
      exact .inr ⟨q', by rw [List.singleton_inj.mp h2], h1⟩
    · rintro (⟨⟨_,h⟩,_⟩ | ⟨q'',h,rfl⟩)
      · exact h.elim
      · obtain ⟨rfl,h2⟩ := List.append_inj' h rfl
        rw [h2]

theorem kept_snoc (start : TimedState) (s : ServiceId) (m : String) (ops : List TimedOp)
    (op : TimedOp) (p q : List TimedOp) :
    Kept start s m (ops ++ [op]) p q ↔
      (q = [] ∧ p = ops ∧ op = .call s m ∧ ((start.run ops).answers s m).isOk = true) ∨
      ∃ q', q = q' ++ [op] ∧ Kept start s m ops p q' ∧ op ≠ .handle (.configChanged s m) := by
  constructor
  · rintro ⟨hsplit,hok,hev⟩
    rcases (snoc_eq_split _ _ _ _ _).mp hsplit with ⟨rfl,rfl,hop⟩ | ⟨q',rfl,hops⟩
    · exact .inl ⟨rfl, rfl, hop.symm, hok⟩
    · rw [List.mem_append, List.mem_singleton, not_or] at hev
      exact .inr ⟨q', rfl, ⟨hops, hok, hev.1⟩, fun h => hev.2 h.symm⟩
  · rintro (⟨rfl,rfl,rfl,hok⟩ | ⟨q',rfl,⟨rfl,hok,hev⟩,hop⟩)
    · exact ⟨rfl, hok, List.not_mem_nil⟩
    · refine ⟨by simp, hok, ?_⟩
      rw [List.mem_append, List.mem_singleton, not_or]
      exact ⟨hev, hop.symm⟩

/-- What the cache and the log of the orchestrator say about each other and about the
operations so far. -/
structure Remembered (start : TimedState) (ops : List TimedOp) : Prop where
  entry : ∀ s m entry, (start.run ops).cache.lookup (configurationKey s.1 m) = some entry →
    ⟨entry.cachedAt, s, m, entry.config⟩ ∈ (start.run ops).served ∧
    ∃ p q, Kept start s m ops p q ∧ entry.cachedAt = (start.run p).now
  kept : ∀ s m p q, Kept start s m ops p q →
    ∃ entry, (start.run ops).cache.lookup (configurationKey s.1 m) = some entry ∧
      entry.cachedAt ≤ (start.run p).now
  latest : ∀ f ∈ (start.run ops).served, f.servedAt ≤ (start.run ops).now ∧
    ∀ entry, (start.run ops).cache.lookup (configurationKey f.cloudServiceId.1 f.metricId) =
      some entry → f.servedAt ≤ entry.cachedAt

theorem Kept.now_eq {start : TimedState} {s : ServiceId} {m : String} {ops p q : List TimedOp}
    (h : Kept start s m ops p q) : (start.run ops).now = (start.run p).now + elapsed q := by
  rw [h.split, run_now_append]
  simp [elapsed, TimedOp.duration]

/-- The clock does not go back, so no entry is ever from the future. -/
theorem Remembered.valid {start : TimedState} {ops : List TimedOp} (h : Remembered start ops)
    (s : ServiceId) (m : String) :
    validEntry (start.run ops).cache (start.run ops).now s.1 m =
      (start.run ops).cache.lookup (configurationKey s.1 m) := by
  unfold validEntry
  cases hl : (start.run ops).cache.lookup (configurationKey s.1 m) with
  | none => rfl
  | some entry =>
    obtain ⟨_,p,q,hkept,hat⟩ := h.entry s m entry hl
    have hnow := hkept.now_eq
    have hpast : ¬ (start.run ops).now + EvictionTime < entry.cachedAt := by
      rw [hat, hnow, EvictionTime]
      omega
    simp [CachedConfiguration.expired, hpast]

/-- An operation that does not evict the pair leaves its entry as it came about. -/
theorem Remembered.entry_snoc {start : TimedState} {ops : List TimedOp}
    (h : Remembered start ops) {s : ServiceId} {m : String} {entry : CachedConfiguration}
    (hl : (start.run ops).cache.lookup (configurationKey s.1 m) = some entry) (op : TimedOp)
    (hop : op ≠ .handle (.configChanged s m)) :
    ⟨entry.cachedAt, s, m, entry.config⟩ ∈ (start.run ops).served ∧
      ∃ p q, Kept start s m (ops ++ [op]) p q ∧ entry.cachedAt = (start.run p).now := by
  obtain ⟨hmem,p,q,hkept,hat⟩ := h.entry s m entry hl
  exact ⟨hmem, p, q ++ [op], (kept_snoc ..).mpr (.inr ⟨q, rfl, hkept, hop⟩), hat⟩

/-- An operation that neither fetches nor evicts. -/
theorem Remembered.frame {start : TimedState} {ops : List TimedOp} (h : Remembered start ops)
    (op : TimedOp) (hcache : ((start.run ops).step op).cache = (start.run ops).cache)
    (hserved : ((start.run ops).step op).served = (start.run ops).served)
    (hevict : ∀ s m, op ≠ .handle (.configChanged s m))
    (hcall : ∀ s m, op = .call s m → ((start.run ops).answers s m).isOk = true →
      ((start.run ops).cache.lookup (configurationKey s.1 m)).isSome = true) :
    Remembered start (ops ++ [op]) := by
  have hnow : (start.run ops).now ≤ (start.run (ops ++ [op])).now := by
    rw [run_now_append]
    omega
  constructor
  · intro s m entry hl
    rw [run_snoc, hcache] at hl
    rw [run_snoc, hserved]
    exact h.entry_snoc hl op (hevict s m)
  · intro s m p q hkept
    rw [run_snoc, hcache]
    rcases (kept_snoc ..).mp hkept with ⟨rfl,rfl,hop,hok⟩ | ⟨q',rfl,hkept',_⟩
    · obtain ⟨entry,hl⟩ := Option.isSome_iff_exists.mp (hcall s m hop hok)
      obtain ⟨hmem,_⟩ := h.entry s m entry hl
      exact ⟨entry, hl, (h.latest _ hmem).1⟩
    · exact h.kept s m p q' hkept'
  · intro f hf
    rw [run_snoc, hserved] at hf
    obtain ⟨hpast,hlast⟩ := h.latest f hf
    refine ⟨Int.le_trans hpast hnow, ?_⟩
    rw [run_snoc, hcache]
    exact hlast

/-- A call for a pair that is not cached, which the orchestrator answers. -/
theorem Remembered.fetch {start : TimedState} {ops : List TimedOp} (h : Remembered start ops)
    (s : ServiceId) (m : String) (c : MetricConfiguration)
    (hnone : (start.run ops).cache.lookup (configurationKey s.1 m) = none)
    (hok : (start.run ops).answers s m = .ok c) : Remembered start (ops ++ [.call s m]) := by
  have hvalid : validEntry (start.run ops).cache (start.run ops).now s.1 m = none := by
    rw [h.valid, hnone]
  have hcache : ((start.run ops).step (.call s m)).cache =
      (start.run ops).cache.insert (configurationKey s.1 m) ⟨(start.run ops).now, c⟩ := by
    simp [TimedState.step, metricConfiguration, hvalid, hok]
  have hserved : ((start.run ops).step (.call s m)).served =
      ⟨(start.run ops).now, s, m, c⟩ :: (start.run ops).served := by
    simp [TimedState.step, TimedState.serve, hvalid, hok]
  have hother (s' : ServiceId) (m' : String) (hne : ¬ (s' = s ∧ m' = m)) :
      ((start.run ops).step (.call s m)).cache.lookup (configurationKey s'.1 m') =
        (start.run ops).cache.lookup (configurationKey s'.1 m') := by
    rw [hcache, AList.lookup_insert_ne (fun hk => hne (configurationKey_inj _ _ _ _ hk))]
  have hself : ((start.run ops).step (.call s m)).cache.lookup (configurationKey s.1 m) =
      some ⟨(start.run ops).now, c⟩ := by
    rw [hcache, AList.lookup_insert]
  constructor
  · intro s' m' entry hl
    rw [run_snoc] at hl ⊢
    by_cases hsame : s' = s ∧ m' = m
    · obtain ⟨rfl,rfl⟩ := hsame
      -- the entry of the call is new, all others are as old as before
      cases Option.some.inj (hself.symm.trans hl)
      rw [hserved]
      exact ⟨List.mem_cons_self, ops, [],
        (kept_snoc ..).mpr (.inl ⟨rfl, rfl, rfl, by rw [hok]; rfl⟩), rfl⟩
    · rw [hother s' m' hsame] at hl
      obtain ⟨hmem,hkept⟩ := h.entry_snoc hl (.call s m) (by simp)
      rw [hserved]
      exact ⟨List.mem_cons_of_mem _ hmem, hkept⟩
  · intro s' m' p q hkept
    rw [run_snoc]
    rcases (kept_snoc ..).mp hkept with ⟨rfl,rfl,hop,_⟩ | ⟨q',rfl,hkept',_⟩
    · cases hop
      exact ⟨_, hself, Int.le_refl _⟩
    · obtain ⟨entry,hl,hle⟩ := h.kept s' m' p q' hkept'
      -- the pair of the call has no entry, so it is another pair that was kept
      have hne : ¬ (s' = s ∧ m' = m) := by
        rintro ⟨rfl,rfl⟩
        rw [hnone] at hl
        cases hl
      exact ⟨entry, (hother s' m' hne).trans hl, hle⟩
  · intro f hf
    rw [run_snoc] at hf ⊢
    rw [hserved, List.mem_cons] at hf
    rcases hf with rfl | hf
    · refine ⟨Int.le_refl _, fun entry hl => ?_⟩
      cases Option.some.inj (hself.symm.trans hl)
      exact Int.le_refl _
    · obtain ⟨hpast,hlast⟩ := h.latest f hf
      refine ⟨hpast, fun entry hl => ?_⟩
      by_cases hsame : f.cloudServiceId = s ∧ f.metricId = m
      · rw [hsame.1, hsame.2] at hl
        cases Option.some.inj (hself.symm.trans hl)
        exact hpast
      · exact hlast entry ((hother _ _ hsame).symm.trans hl)

theorem Remembered.evict {start : TimedState} {ops : List TimedOp} (h : Remembered start ops)
    (s : ServiceId) (m : String) :
    Remembered start (ops ++ [.handle (.configChanged s m)]) := by
  have hlook (s' : ServiceId) (m' : String) (entry : CachedConfiguration)
      (hl : ((start.run ops).step (.handle (.configChanged s m))).cache.lookup
        (configurationKey s'.1 m') = some entry) :
      ¬ (s' = s ∧ m' = m) ∧
        (start.run ops).cache.lookup (configurationKey s'.1 m') = some entry := by
    change ((start.run ops).cache.erase (configurationKey s.1 m)).lookup _ = _ at hl
    by_cases hkey : configurationKey s'.1 m' = configurationKey s.1 m
    · rw [hkey, AList.lookup_erase] at hl
      cases hl
    · rw [AList.lookup_erase_ne hkey] at hl
      exact ⟨fun hsame => hkey (by rw [hsame.1, hsame.2]), hl⟩
  constructor
  · intro s' m' entry hl
    rw [run_snoc] at hl ⊢
    obtain ⟨hne,hl⟩ := hlook s' m' entry hl
    refine h.entry_snoc hl _ fun hop => ?_
    cases hop
    exact hne ⟨rfl, rfl⟩
  · intro s' m' p q hkept
    rcases (kept_snoc ..).mp hkept with ⟨_,_,hop,_⟩ | ⟨q',rfl,hkept',hop⟩
    · cases hop
    · obtain ⟨entry,hl,hle⟩ := h.kept s' m' p q' hkept'
      refine ⟨entry, ?_, hle⟩
      rw [run_snoc]
      change ((start.run ops).cache.erase (configurationKey s.1 m)).lookup _ = _
      rw [AList.lookup_erase_ne, hl]
      intro hkey
      obtain ⟨rfl,rfl⟩ := configurationKey_inj _ _ _ _ hkey
      exact hop rfl
  · intro f hf
    rw [run_snoc] at hf ⊢
    obtain ⟨hpast,hlast⟩ := h.latest f hf
    exact ⟨hpast, fun entry hl => hlast entry (hlook _ _ entry hl).2⟩

theorem remembered_start (now : ℤ)
    (answers : ServiceId → String → Except Err MetricConfiguration) :
    Remembered (TimedState.start now answers) [] := by
  constructor
  · intro s m entry hl
    simp [TimedState.run, TimedState.start] at hl
  · intro s m p q hkept
    exact absurd hkept.split (by simp)
  · intro f hf
    simp [TimedState.run, TimedState.start] at hf

theorem remembered_run (now : ℤ)
    (answers : ServiceId → String → Except Err MetricConfiguration) (ops : List TimedOp) :
    Remembered (TimedState.start now answers) ops := by
  -- on the last operation: an entry can only be added, taken away or left alone
  induction ops using List.reverseRecOn with
  | nil => exact remembered_start now answers
  | append_singleton ops op h =>
    cases op with
    | change answers' => exact h.frame _ rfl rfl nofun nofun
    | advance d => exact h.frame _ rfl rfl nofun nofun
    | handle event =>
      cases event with
      | configChanged s m => exact h.evict s m
      | metadataChanged m => exact h.frame _ rfl rfl nofun nofun
      | implementationChanged m => exact h.frame _ rfl rfl nofun nofun
    | call s m =>
      have hvalid := h.valid s m
      cases hl : ((TimedState.start now answers).run ops).cache.lookup
          (configurationKey s.1 m) with
      | some entry =>
        rw [hl] at hvalid
        refine h.frame _ ?_ ?_ nofun ?_
        · simp [TimedState.step, metricConfiguration, hvalid]
        · simp [TimedState.step, TimedState.serve, hvalid]
        · intro s' m' hop _
          cases hop
          rw [hl]
          rfl
      | none =>
        rw [hl] at hvalid
        cases ha : ((TimedState.start now answers).run ops).answers s m with
        | ok c => exact h.fetch s m c hl ha
        | error e =>
          refine h.frame _ ?_ ?_ nofun ?_
          · simp [TimedState.step, metricConfiguration, hvalid, ha]
          · simp [TimedState.step, TimedState.serve, hvalid, ha]
          · intro s' m' hop hok
            cases hop
            rw [ha] at hok
            cases hok

/-- The orchestrator has answered the pair with `c` at most the eviction time ago. -/
def FetchedRecently (st : TimedState) (s : ServiceId) (m : String) (c : MetricConfiguration) :
    Prop :=
  ∃ f ∈ (st.step (.call s m)).served, f.cloudServiceId = s ∧ f.metricId = m ∧ f.config = c ∧
    st.now - f.servedAt ≤ EvictionTime

/-- Every call of a trace returns a configuration that was fetched recently. -/
def AlwaysRecent (start : TimedState) (trace : List TimedOp) : Prop :=
  ∀ pre s m post, trace = pre ++ .call s m :: post →
    ∀ c, (start.run pre).answer s m = .ok c → FetchedRecently (start.run pre) s m c

/-- Whenever a configuration is asked for that was kept since an earlier call, the
earlier call is at most the eviction time ago. -/
def AskedInTime (start : TimedState) (trace : List TimedOp) : Prop :=
  ∀ s m p q post, trace = p ++ .call s m :: (q ++ .call s m :: post) →
    ((start.run p).answers s m).isOk = true → .handle (.configChanged s m) ∉ q →
    (elapsed q : ℤ) ≤ EvictionTime

/-- The comparison with the eviction time never makes an entry invalid, so what is
returned is recent exactly when no call comes too long after the one that fetched. -/
theorem metricConfiguration_recent_iff (now : ℤ)
    (answers : ServiceId → String → Except Err MetricConfiguration) (trace : List TimedOp) :
    AlwaysRecent (TimedState.start now answers) trace ↔
      AskedInTime (TimedState.start now answers) trace := by
  constructor
  · intro hrecent s m p q post htrace hok hev
    have hrem := remembered_run now answers (p ++ .call s m :: q)
    have hkept : Kept _ s m _ p q := ⟨rfl, hok, hev⟩
    obtain ⟨entry,hl,hle⟩ := hrem.kept s m p q hkept
    have hvalid := (hrem.valid s m).trans hl
    have hans : ((TimedState.start now answers).run (p ++ .call s m :: q)).answer s m =
        .ok entry.config := by
      simp [TimedState.answer, metricConfiguration, hvalid]
    obtain ⟨f,hf,hs,hm,_,hage⟩ := hrecent (p ++ .call s m :: q) s m post
      (by rw [htrace]; simp) _ hans
    have hserved : f ∈ ((TimedState.start now answers).run (p ++ .call s m :: q)).served := by
      simpa [TimedState.step, TimedState.serve, hvalid] using hf
    -- what was served before the call is no newer than the entry
    have hlast := (hrem.latest f hserved).2 entry (by rw [hs, hm]; exact hl)
    have hnow := hkept.now_eq
    omega
  · intro htime pre s m post htrace c hans
    have hrem := remembered_run now answers pre
    have hvalid := hrem.valid s m
    unfold FetchedRecently
    cases hl : ((TimedState.start now answers).run pre).cache.lookup (configurationKey s.1 m) with
    | some entry =>
      rw [hl] at hvalid
      obtain ⟨hmem,p,q,hkept,hat⟩ := hrem.entry s m entry hl
      have hc : entry.config = c := by
        simpa [TimedState.answer, metricConfiguration, hvalid] using hans
      -- the entry was kept since the call that fetched it
      have hq := htime s m p q post (by rw [htrace, hkept.split]; simp) hkept.answered
        hkept.not_evicted
      refine ⟨⟨entry.cachedAt, s, m, entry.config⟩, ?_, rfl, rfl, hc, ?_⟩
      · simpa [TimedState.step, TimedState.serve, hvalid] using hmem
      · have hnow := hkept.now_eq
        simp only [hat]
        omega
    | none =>
      rw [hl] at hvalid
      cases ha : ((TimedState.start now answers).run pre).answers s m with
      | error e => simp [TimedState.answer, metricConfiguration, hvalid, ha] at hans
      | ok config =>
        have hc : config = c := by
          simpa [TimedState.answer, metricConfiguration, hvalid, ha] using hans
        refine ⟨⟨((TimedState.start now answers).run pre).now, s, m, config⟩, ?_, rfl, rfl, hc, ?_⟩
        · simp [TimedState.step, TimedState.serve, hvalid, ha]
        · simp [EvictionTime]

def sampleService : ServiceId := ⟨"00000000-0000-0000-0000-000000000000", by decide⟩

def sampleAnswers (target : String) : ServiceId → String → Except Err MetricConfiguration :=
  fun s m => .ok ⟨"==", target, false, some 0, m, s.1⟩

/-- A configuration that is asked for again after two hours, when the orchestrator has
another one, is still the old one. -/
theorem metricConfiguration_two_hours :
    ¬ AlwaysRecent (TimedState.start 0 (sampleAnswers "true"))
      [.call sampleService "TransportEncryptionEnabled", .change (sampleAnswers "false"),
        .advance 7200000000000, .call sampleService "TransportEncryptionEnabled"] := by
  intro h
  obtain ⟨f,hf,_,_,_,hage⟩ := h
    [.call sampleService "TransportEncryptionEnabled", .change (sampleAnswers "false"),
      .advance 7200000000000] sampleService "TransportEncryptionEnabled" [] rfl _ rfl
  rw [List.mem_singleton.mp hf] at hage
  exact absurd hage (by decide)

end Timed
end Clouditor
