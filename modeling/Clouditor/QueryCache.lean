import Clouditor.ProtoText
import Clouditor.RegoHistory
import Mathlib.Data.List.Induction

/-! The cache of prepared queries over whole histories of lookups and evictions. Its keys are
strings, and still each query is the one of its metric, service, operator and target value. -/
namespace Clouditor
set_option autoImplicit false

section Hashes

theorem base64Char_inj {n n' : ℕ} (h : base64Char n = base64Char n') (hn : n < 64)
    (hn' : n' < 64) : n = n' := by
  have hindex : ∀ n < 64, List.idxOf (base64Char n)
      "ABCDEFGHIJKLMNOPQRSTUVWXYZabcdefghijklmnopqrstuvwxyz0123456789-_".toList = n := by
    decide +kernel
  rw [← hindex n hn, ← hindex n' hn', h]

theorem rawURLEncoding_inj (bs bs' : List ℕ) (hbs : ∀ b ∈ bs, b < 256)
    (hbs' : ∀ b ∈ bs', b < 256) (h : rawURLEncoding bs = rawURLEncoding bs') : bs = bs' := by
  -- three bytes make four characters, and the length tells how many are left at the end
  induction bs using rawURLEncoding.induct generalizing bs' with
  | case1 =>
    rcases bs' with _ | ⟨a',_ | ⟨b',_ | ⟨c',rest'⟩⟩⟩
    · rfl
    all_goals simp [rawURLEncoding] at h
  | case2 a =>
    rcases bs' with _ | ⟨a',_ | ⟨b',_ | ⟨c',rest'⟩⟩⟩
    all_goals simp only [rawURLEncoding, List.cons.injEq, reduceCtorEq, and_true, and_false] at h
    simp only [List.forall_mem_cons] at hbs hbs'
    have h1 := base64Char_inj h.1 (by omega) (by omega)
    have h2 := base64Char_inj h.2 (by omega) (by omega)
    rw [show a = a' by omega]
  | case3 a b =>
    rcases bs' with _ | ⟨a',_ | ⟨b',_ | ⟨c',rest'⟩⟩⟩
    all_goals simp only [rawURLEncoding, List.cons.injEq, reduceCtorEq, and_true, and_false] at h
    simp only [List.forall_mem_cons] at hbs hbs'
    have h1 := base64Char_inj h.1 (by omega) (by omega)
    have h2 := base64Char_inj h.2.1 (by omega) (by omega)
    have h3 := base64Char_inj h.2.2 (by omega) (by omega)
    rw [show a = a' by omega, show b = b' by omega]
  | case4 a b c rest ih =>
    rcases bs' with _ | ⟨a',_ | ⟨b',_ | ⟨c',rest'⟩⟩⟩
    all_goals simp only [rawURLEncoding, List.cons.injEq, reduceCtorEq, and_false] at h
    simp only [List.forall_mem_cons] at hbs hbs'
    have h1 := base64Char_inj h.1 (by omega) (by omega)
    have h2 := base64Char_inj h.2.1 (by omega) (by omega)
    have h3 := base64Char_inj h.2.2.1 (by omega) (by omega)
    have h4 := base64Char_inj h.2.2.2.1 (by omega) (by omega)
    rw [show a = a' by omega, show b = b' by omega, show c = c' by omega,
      ih rest' hbs.2.2.2 hbs'.2.2.2 h.2.2.2.2]

theorem utf8Bytes_lt (s : String) : ∀ b ∈ utf8Bytes s, b < 256 := by
  intro b hb
  simp only [utf8Bytes, List.mem_flatMap, List.mem_map] at hb
  obtain ⟨_,_,byte,_,rfl⟩ := hb
  exact byte.toNat_lt

theorem utf8Bytes_inj (s s' : String) (h : utf8Bytes s = utf8Bytes s') : s = s' := by
  have hmap (s : String) :
      utf8Bytes s = (s.toList.flatMap String.utf8EncodeChar).map UInt8.toNat := by
    rw [utf8Bytes, List.map_flatMap]
  rw [hmap, hmap, List.map_inj_right (fun _ _ h => UInt8.toNat_inj.mp h)] at h
  have hbytes := congrArg List.toByteArray h
  change s.toList.utf8Encode = s'.toList.utf8Encode at hbytes
  rw [String.utf8Encode_toList, String.utf8Encode_toList] at hbytes
  exact String.toByteArray_inj.mp hbytes

theorem hash_inj (c c' : MetricConfiguration) (h : c.hash = c'.hash) :
    c.operator ++ "-" ++ c.targetValue = c'.operator ++ "-" ++ c'.targetValue := by
  apply utf8Bytes_inj
  apply rawURLEncoding_inj _ _ (utf8Bytes_lt _) (utf8Bytes_lt _)
  exact String.ofList_injective h

end Hashes

section Configurations

/-- A metric configuration with its target value as a message. -/
structure TargetConfiguration where
  operator : String
  targetValue : Option ProtoText.Value
  isDefault : Bool
  updatedAt : Option Time
  metricId : String
  cloudServiceId : String

/-- The target value is printed with as many spaces between fields as the library uses. -/
def TargetConfiguration.printed (spaces : ℕ) (c : TargetConfiguration) : MetricConfiguration where
  operator := c.operator
  targetValue := String.ofList (ProtoText.messageText spaces c.targetValue)
  isDefault := c.isDefault
  updatedAt := c.updatedAt
  metricId := c.metricId
  cloudServiceId := c.cloudServiceId

variable (spaces : ℕ)

theorem printed_hash_inj (c c' : TargetConfiguration)
    (h : (c.printed spaces).hash = (c'.printed spaces).hash) :
    c.operator = c'.operator ∧ c.targetValue = c'.targetValue := by
  have htext := congrArg String.toList (hash_inj _ _ h)
  simp only [TargetConfiguration.printed, String.toList_append, String.toList_ofList,
    List.append_assoc] at htext
  obtain ⟨hop,hvalue⟩ := ProtoText.dash_messageText_inj spaces _ _ _ _ htext
  exact ⟨String.toList_inj.mp hop, hvalue⟩

/-- Names without a dash do not continue each other with one. -/
theorem unextended_dashless : Unextended (fun m => '-' ∉ m.toList) := by
  intro m m' s _ hm' _ hstart
  exact hm' (hstart.subset (by simp))

/-- A key of the cache determines all that a query is prepared from but the implementation. -/
theorem queryKey_printed_inj (m m' s s' : String) (c c' : TargetConfiguration)
    (hm : '-' ∉ m.toList) (hm' : '-' ∉ m'.toList) (hs : isUuid s = true) (hs' : isUuid s' = true)
    (h : queryKey m s (c.printed spaces) = queryKey m' s' (c'.printed spaces)) :
    m = m' ∧ s = s' ∧ c.operator = c'.operator ∧ c.targetValue = c'.targetValue := by
  obtain ⟨rfl,rfl⟩ := queryKey_inj unextended_dashless m m' s s' _ _ hm hm' hs hs' h
  refine ⟨rfl, rfl, printed_hash_inj spaces c c' ?_⟩
  have hlist := congrArg String.toList h
  simp only [queryKey, String.toList_append, List.append_assoc, List.append_cancel_left_eq] at hlist
  exact String.toList_inj.mp hlist

end Configurations

section Histories
variable {I : Type} (opa : OPA I)

/-- The query that `evalMap` uses, and the cache after it. -/
def lookupQuery (qc : Memo.Table String opa.Query) (metricId serviceId : String)
    (config : MetricConfiguration) (impl : Except Err String) :
    Except Err opa.Query × Memo.Table String opa.Query :=
  Memo.getOr qc (queryKey metricId serviceId config) (prepareQuery opa metricId config impl)

theorem evalMap_lookupQuery {σ : Type} (source : Source σ) (st : RegoState σ opa.Query)
    (serviceId metricId : String) (input : I) (config : MetricConfiguration) (s : σ)
    (h : source.metricConfiguration st.source serviceId metricId = (.ok config, s)) :
    evalMap opa source st serviceId metricId input =
      match lookupQuery opa st.qc metricId serviceId config
        (source.metricImplementation s metricId) with
      | (.error e, qc) => some
          (.error (e.wrap ("could not fetch cached query for metric " ++ metricId)),
            { st with source := s, qc := qc })
      | (.ok query, qc) => (runQuery opa metricId query input).map
          (fun v => (v, { st with source := s, qc := qc })) := by
  unfold evalMap lookupQuery
  rw [h]
  simp only
  rcases Memo.getOr st.qc (queryKey metricId serviceId config)
    (prepareQuery opa metricId config (source.metricImplementation s metricId)) with ⟨_ | _,_⟩
  · rfl
  · rfl

/-- An operation on the cache. A lookup comes with what the source of the metrics answers. -/
inductive CacheOp where
  | lookup (metricId serviceId : String) (config : TargetConfiguration)
      (impl : Except Err String)
  | evict (metricId : String)

def CacheOp.WellNamed : CacheOp → Prop
  | .lookup metricId serviceId _ _ => '-' ∉ metricId.toList ∧ isUuid serviceId = true
  | .evict metricId => '-' ∉ metricId.toList

variable (spaces : ℕ)

def CacheOp.apply (qc : Memo.Table String opa.Query) : CacheOp → Memo.Table String opa.Query
  | .lookup metricId serviceId config impl =>
    (lookupQuery opa qc metricId serviceId (config.printed spaces) impl).2
  | .evict metricId => Memo.evict (fun key => metricId.toList.isPrefixOf key.toList) qc

def cacheAfter (ops : List CacheOp) : Memo.Table String opa.Query :=
  ops.foldl (CacheOp.apply opa spaces) ∅

/-- In the history there is a lookup that finds nothing and prepares the query, and the metric is
not evicted afterwards. -/
def PreparedIn (ops : List CacheOp) (metricId serviceId : String) (config : TargetConfiguration)
    (query : opa.Query) : Prop :=
  ∃ before after impl, ops = before ++ .lookup metricId serviceId config impl :: after ∧
    (cacheAfter opa spaces before).lookup (queryKey metricId serviceId (config.printed spaces)) =
      none ∧
    prepareQuery opa metricId (config.printed spaces) impl = .ok query ∧
    .evict metricId ∉ after

variable {opa spaces}

theorem PreparedIn.append {ops : List CacheOp} {metricId serviceId : String}
    {config : TargetConfiguration} {query : opa.Query} {op : CacheOp}
    (h : PreparedIn opa spaces ops metricId serviceId config query)
    (hop : op ≠ .evict metricId) :
    PreparedIn opa spaces (ops ++ [op]) metricId serviceId config query := by
  obtain ⟨before,after,impl,rfl,hnone,hprepare,hkept⟩ := h
  refine ⟨before, after ++ [op], impl, by simp, hnone, hprepare, ?_⟩
  intro hmem
  rcases List.mem_append.mp hmem with hmem | hmem
  · exact hkept hmem
  · exact hop (List.mem_singleton.mp hmem).symm

theorem cacheAfter_append (ops : List CacheOp) (op : CacheOp) :
    cacheAfter opa spaces (ops ++ [op]) = op.apply opa spaces (cacheAfter opa spaces ops) := by
  rw [cacheAfter, List.foldl_append]
  rfl

/-- A lookup that finds nothing is the one that prepares the query. -/
theorem preparedIn_now (ops : List CacheOp) (metricId serviceId : String)
    (config : TargetConfiguration) (impl : Except Err String) (query : opa.Query)
    (hnone : (cacheAfter opa spaces ops).lookup
      (queryKey metricId serviceId (config.printed spaces)) = none)
    (hprepare : prepareQuery opa metricId (config.printed spaces) impl = .ok query) :
    PreparedIn opa spaces (ops ++ [.lookup metricId serviceId config impl]) metricId serviceId
      config query :=
  ⟨ops, [], impl, rfl, hnone, hprepare, by simp⟩

/-- Where the queries in the cache come from. -/
theorem cached_preparedIn (ops : List CacheOp) : Memo.Holds (fun key query =>
    ∃ m s c, key = queryKey m s (c.printed spaces) ∧ PreparedIn opa spaces ops m s c query)
    (cacheAfter opa spaces ops) := by
  induction ops using List.reverseRecOn with
  | nil => exact Memo.holds_empty _
  | append_singleton ops op ih =>
    rw [cacheAfter_append]
    cases op with
    | lookup m s c impl =>
      -- what is in the cache stays there
      have hkept : Memo.Holds (fun key query => ∃ m' s' c',
          key = queryKey m' s' (c'.printed spaces) ∧
            PreparedIn opa spaces (ops ++ [.lookup m s c impl]) m' s' c' query)
          (cacheAfter opa spaces ops) := by
        refine ih.mono fun key query hkey => ?_
        obtain ⟨m',s',c',hkey,hprepared⟩ := hkey
        exact ⟨m', s', c', hkey, hprepared.append (fun heq => by cases heq)⟩
      show Memo.Holds _ (lookupQuery opa _ m s (c.printed spaces) impl).2
      unfold lookupQuery Memo.getOr
      cases hfound : (cacheAfter opa spaces ops).lookup (queryKey m s (c.printed spaces)) with
      | some query => exact hkept
      | none =>
        cases hprepare : prepareQuery opa m (c.printed spaces) impl with
        | error e => exact hkept
        | ok query =>
          exact Memo.holds_insert hkept _ query
            ⟨m, s, c, rfl, preparedIn_now ops m s c impl query hfound hprepare⟩
    | evict m =>
      refine Memo.holds_evict _ ih fun key query hkey hfrom => ?_
      obtain ⟨m',s',c',rfl,hprepared⟩ := hfrom
      refine ⟨m', s', c', rfl, hprepared.append fun heq => ?_⟩
      -- all keys of the metric are gone
      cases heq
      rw [← Bool.not_eq_true, List.isPrefixOf_iff_prefix] at hkey
      refine hkey ⟨'-' :: (s'.toList ++ '-' :: (c'.printed spaces).hash.toList), ?_⟩
      simp [queryKey, String.toList_append]

/-- The query for a metric, a service and a configuration was prepared for them, with the
operator and the target value of the configuration, and not before the metric was last evicted. -/
theorem cached_query_prepared (opa : OPA I) (spaces : ℕ) (before after : List CacheOp)
    (m s : String) (c : TargetConfiguration) (impl : Except Err String)
    (hnamed : ∀ op ∈ before ++ .lookup m s c impl :: after, op.WellNamed) (query : opa.Query)
    (h : (lookupQuery opa (cacheAfter opa spaces before) m s (c.printed spaces) impl).1 =
      .ok query) :
    ∃ c', c'.operator = c.operator ∧ c'.targetValue = c.targetValue ∧
      PreparedIn opa spaces (before ++ [.lookup m s c impl]) m s c' query := by
  unfold lookupQuery at h
  cases hfound : (cacheAfter opa spaces before).lookup (queryKey m s (c.printed spaces)) with
  | some cached =>
    rw [Memo.getOr_of_lookup hfound] at h
    cases h
    obtain ⟨m',s',c',hkey,hprepared⟩ := cached_preparedIn before _ _ hfound
    have hthis := hnamed (.lookup m s c impl) (by simp)
    have hthat : '-' ∉ m'.toList ∧ isUuid s' = true := by
      obtain ⟨before',after',impl',rfl,_⟩ := hprepared
      exact hnamed (.lookup m' s' c' impl') (by simp)
    obtain ⟨rfl,rfl,hop,hvalue⟩ :=
      queryKey_printed_inj spaces m m' s s' c c' hthis.1 hthat.1 hthis.2 hthat.2 hkey
    exact ⟨c', hop.symm, hvalue.symm, hprepared.append (fun heq => by cases heq)⟩
  | none =>
    simp only [Memo.getOr, hfound] at h
    cases hprepare : prepareQuery opa m (c.printed spaces) impl with
    | error e => simp [hprepare] at h
    | ok query' =>
      simp only [hprepare, Except.ok.injEq] at h
      subst h
      exact ⟨c, rfl, rfl, preparedIn_now before m s c impl query' hfound hprepare⟩

/-- A policy engine whose queries are the configurations they were prepared with. -/
def echoOPA : OPA Unit where
  Query := MetricConfiguration
  prepare _ config _ := .ok config
  eval _ _ := .ok []

/-- A password length of at least eight, as configured at some time. -/
def lengthConfiguration (updatedAt : Time) : TargetConfiguration where
  operator := ">="
  targetValue := some (.list [.string "8".toList, .bool true])
  isDefault := false
  updatedAt := some updatedAt
  metricId := "PasswordLength"
  cloudServiceId := "11111111-1111-1111-1111-111111111111"

def lengthLookup (updatedAt : Time) : CacheOp :=
  .lookup "PasswordLength" "11111111-1111-1111-1111-111111111111" (lengthConfiguration updatedAt)
    (.ok "package clouditor.metrics.password_length")

theorem cached_query_prepared_again :
    (lookupQuery echoOPA (cacheAfter echoOPA 1 [lengthLookup 0]) "PasswordLength"
        "11111111-1111-1111-1111-111111111111" ((lengthConfiguration 5).printed 1)
        (.ok "package clouditor.metrics.password_length")).1 =
      .ok ((lengthConfiguration 0).printed 1) ∧
    ∃ c', c'.operator = ">=" ∧ c'.targetValue = (lengthConfiguration 5).targetValue ∧
      PreparedIn echoOPA 1 ([lengthLookup 0] ++ [lengthLookup 5]) "PasswordLength"
        "11111111-1111-1111-1111-111111111111" c' ((lengthConfiguration 0).printed 1) := by
  have hnamed : ∀ op ∈ [lengthLookup 0] ++ lengthLookup 5 :: [], op.WellNamed := by
    intro op hop
    rcases List.mem_cons.mp hop with rfl | hop
    · exact ⟨by decide, by decide⟩
    · obtain rfl := List.mem_singleton.mp hop
      exact ⟨by decide, by decide⟩
  -- the time of the configuration is not in the key
  have hhash : ((lengthConfiguration 5).printed 1).hash =
      ((lengthConfiguration 0).printed 1).hash := by
    simp only [MetricConfiguration.hash, TargetConfiguration.printed, lengthConfiguration]
  have hlookup : (cacheAfter echoOPA 1 [lengthLookup 0]).lookup (queryKey "PasswordLength"
      "11111111-1111-1111-1111-111111111111" ((lengthConfiguration 5).printed 1)) =
        some ((lengthConfiguration 0).printed 1) := by
    rw [queryKey, hhash]
    exact AList.lookup_insert (∅ : Memo.Table String MetricConfiguration)
  have hfound := congrArg Prod.fst (Memo.getOr_of_lookup hlookup
    (prepareQuery echoOPA "PasswordLength" ((lengthConfiguration 5).printed 1)
      (.ok "package clouditor.metrics.password_length")))
  exact ⟨hfound, cached_query_prepared echoOPA 1 [lengthLookup 0] [] _ _ _ _ hnamed _ hfound⟩

end Histories
end Clouditor
