import Clouditor.BundledPolicies

/-! What the metrics that come with the program can say about the resources of the ontology: which
of them never apply, which are never met, and resources that meet all others. -/
namespace Clouditor
set_option autoImplicit false

open Rego

section Never

/-- What the documents of a policy are, for resources of a class where a field may be unset. -/
def resourceDocs (c : ResourceClass) (unset : Option OntologyKey) :
    PolicyDocument → List OntologyKind
  | .input => [.resource c unset]
  | _ => [.unknown]

variable (texts : TimeTexts)

theorem oneOf_resourceDocs {operator : String} {target : Json} {now : ℤ} (r : ResourceObject)
    (unset : Option OntologyKey) (hunset : ∀ key ∈ unset, r.input.field key.jsonName = some .null)
    (d : PolicyDocument) (v : Json)
    (hv : (policyInterpretation texts ⟨operator, target, r.input, now⟩).doc d = some v) :
    OneOf ontologyKinds (resourceDocs r.cls unset d) v := by
  cases d with
  | input =>
    cases hv
    exact ⟨.resource r.cls unset, List.mem_singleton_self _, r.fields, r.encodes, rfl, hunset⟩
  | _ => exact ⟨.unknown, List.mem_singleton_self _, trivial⟩

def mayHold (unset : Option OntologyKey) (rule : List PolicyBody) : Bool :=
  ResourceClass.all.any (fun c => ruleMay ontologyKinds (resourceDocs c unset) rule)

/-- A rule that may not hold for any class of resources does not hold for any resource. -/
theorem ruleHolds_resource (unset : Option OntologyKey) (rule : List PolicyBody)
    (hrule : mayHold unset rule = false) (operator : String) (target : Json) (now : ℤ)
    (r : ResourceObject) (hunset : ∀ key ∈ unset, r.input.field key.jsonName = some .null) :
    ruleHolds (policyInterpretation texts ⟨operator, target, r.input, now⟩) rule = false := by
  have hclass : ruleMay ontologyKinds (resourceDocs r.cls unset) rule = false :=
    Bool.eq_false_iff.mpr (List.any_eq_false.mp hrule r.cls (mem_allClasses r.cls))
  exact ruleHolds_eq_false (oneOf_resourceDocs texts r unset hunset) rule hclass

/-- The metrics without rules, and those that look for fields where no resource has them. -/
def silentMetrics : List BundledMetric :=
  [.anomalyDetectionEnabled, .anomalyDetectionOutput, .anonymousAuthentication,
  .approvedCommitAuthor, .codeSignoff, .l3FirewallEnabled, .l3FirewallRestrictedPorts,
  .mutualAuthentication, .noKnownVulnerabilities, .roleBroadAssignments, .signedCommits,
  .signedSignoff, .singleSignOnEnabled, .tlsCipherSuites, .tlsDHGroups, .tlsSignatureAlgorithms,
  .webApplicationFirewallEnabled]

theorem judge_silent (m : BundledMetric) (hm : m ∈ silentMetrics) (operator : String)
    (target : Json) (r : ResourceObject) (now : ℤ) :
    m.judge texts operator target r now = none := by
  have hrules : ∀ m ∈ silentMetrics, mayHold none m.rules.applicable = false := by
    decide
  have happlicable : (m.policy texts).applicable ⟨operator, target, r.input, now⟩ = false :=
    ruleHolds_resource texts none _ (hrules m hm) operator target now r
      (fun key hkey => nomatch hkey)
  rw [BundledMetric.judge, Policy.judge, happlicable, if_neg Bool.false_ne_true]

theorem judge_ne_true {m : BundledMetric} {operator : String} {target : Json}
    {r : ResourceObject} {now : ℤ}
    (h : (m.policy texts).compliant ⟨operator, target, r.input, now⟩ = false) :
    m.judge texts operator target r now ≠ some true := by
  rw [BundledMetric.judge, Policy.judge, h]
  split_ifs <;> simp

theorem judge_eq_some {m : BundledMetric} {operator : String} {target : Json}
    {r : ResourceObject} {now : ℤ} {met : Bool}
    (happlicable : ruleHolds (policyInterpretation texts ⟨operator, target, r.input, now⟩)
      m.rules.applicable = true)
    (hcompliant : ruleHolds (policyInterpretation texts ⟨operator, target, r.input, now⟩)
      m.rules.compliant = met) : m.judge texts operator target r now = some met := by
  have happ : (m.policy texts).applicable ⟨operator, target, r.input, now⟩ = true := happlicable
  have hcomp : (m.policy texts).compliant ⟨operator, target, r.input, now⟩ = met := hcompliant
  rw [BundledMetric.judge, Policy.judge, happ, hcomp, if_pos rfl]

theorem judge_unmet (m : BundledMetric)
    (hm : m ∈ [BundledMetric.adminMixedDuties, .transportEncryptionProtocol]) (operator : String)
    (target : Json) (r : ResourceObject) (now : ℤ) :
    m.judge texts operator target r now ≠ some true := by
  have hrules : ∀ m ∈ [BundledMetric.adminMixedDuties, .transportEncryptionProtocol],
      mayHold none m.rules.compliant = false := by
    decide
  exact judge_ne_true texts (ruleHolds_resource texts none _ (hrules m hm) operator target now r
    (fun key hkey => nomatch hkey))

/-- An object of an abstract class has one field at most. -/
theorem Encodes.length_le_one {c : FeatureClass} (hc : c.abstract = true) {v : Json}
    (h : Encodes (.message c) v) : ∃ fields, v = .object fields ∧ fields.length ≤ 1 := by
  cases h with
  | message hconcrete h =>
    rw [hc] at hconcrete
    cases hconcrete
  | nothing hc => exact ⟨[], rfl, Nat.zero_le 1⟩
  | subclass hc hf h => exact ⟨_, rfl, le_rfl⟩

/-- The factors of an authentication are one at most, as far as they are counted. -/
theorem count_authenticity (r : ResourceObject) (v : Json)
    (hv : r.input.field (OntologyKey.jsonName .authenticity) = some v) (q : Json)
    (hq : countOf v = some q) : ∃ n ≤ 1, q = .number (n : ℕ) := by
  have hkinds : ∀ c ∈ ResourceClass.all, ∀ k ∈ (OntologyKind.resource c none).field .authenticity,
      k = .value (.message .authenticity) ∨ k = .null := by
    decide
  have hfits : (OntologyKind.resource r.cls none).Fits r.input :=
    ⟨r.fields, r.encodes, rfl, fun key hkey => nomatch hkey⟩
  obtain ⟨k,hk,hkfits⟩ := resource_fits_field hfits hv
  rcases hkinds r.cls (mem_allClasses r.cls) k hk with rfl | rfl
  · obtain ⟨fields,rfl,hlength⟩ := Encodes.length_le_one rfl hkfits
    cases hq
    exact ⟨fields.length, hlength, rfl⟩
  · cases hkfits
    cases hq

/-- Two factors are never found. -/
theorem judge_adminMFA (r : ResourceObject) (now : ℤ) :
    BundledMetric.judge texts .adminMFAEnabled ">=" (.number 2) r now ≠ some true := by
  apply judge_ne_true
  rw [Bool.eq_false_iff]
  intro hcompliant
  have hcount := values_call_of texts ⟨">=", .number 2, r.input, now⟩ (fun _ => none) .count
    (values_inputField texts _ _ .authenticity)
  have hcompares := holds_compares texts _ _ hcount
  obtain ⟨b,hb,hbody⟩ := List.any_eq_true.mp hcompliant
  cases List.mem_singleton.mp hb
  rw [(Bool.and_eq_true_iff.mp hbody).1] at hcompares
  cases hq : (r.input.field (OntologyKey.jsonName .authenticity)).bind countOf with
  | none =>
    have hnone : compareDefined ">=" (some (.number 2)) none = true := by
      rw [hcompares, ← hq]
      rfl
    cases hnone
  | some q =>
    have hmet : compareRule ">=" (.number 2) q = true := by
      rw [hcompares]
      exact congrArg (compareDefined ">=" (some (.number 2))) hq.symm
    obtain ⟨v,hv,hcountOf⟩ := Option.bind_eq_some_iff.mp hq
    obtain ⟨n,hn,rfl⟩ := count_authenticity r v hv q hcountOf
    rw [compareRule_ge, cmp_number, isGE_compare, decide_eq_true_iff] at hmet
    have htwo : 2 ≤ n := by exact_mod_cast hmet
    omega

end Never

section Unset
variable (texts : TimeTexts)

/-- The feature of a resource that a metric is about, for those that apply to all resources with
a field for the feature. -/
def BundledMetric.feature : BundledMetric → Option OntologyKey
  | .atRestEncryptionAlgorithm => some .atRestEncryption
  | .atRestEncryptionEnabled => some .atRestEncryption
  | .automaticUpdatesEnabled => some .automaticUpdates
  | .automaticUpdatesInterval => some .automaticUpdates
  | .automaticUpdatesSecurityOnly => some .automaticUpdates
  | .bootLoggingEnabled => some .bootLogging
  | .bootLoggingOutput => some .bootLogging
  | .bootLoggingRetention => some .bootLogging
  | .malwareProtectionEnabled => some .malwareProtection
  | .osLoggingEnabled => some .osLogging
  | .osLoggingOutput => some .osLogging
  | .osLoggingRetention => some .osLogging
  | .transportEncryptionEnabled => some .transportEncryption
  | .transportEncryptionEnforced => some .transportEncryption
  | .transportEncryptionProtocol => some .transportEncryption
  | _ => none

theorem feature_applicable (m : BundledMetric) (key : OntologyKey) (hm : m.feature = some key) :
    m.rules.applicable = body [.truth (inputField key)] := by
  cases m <;> cases hm <;> rfl

theorem feature_mayHold (m : BundledMetric) (key : OntologyKey) (hm : m.feature = some key) :
    mayHold (some key) m.rules.compliant = false := by
  cases m <;> cases hm <;> decide

theorem compliant_unset (m : BundledMetric) (key : OntologyKey) (hm : m.feature = some key)
    (r : ResourceObject) (hunset : r.input.field key.jsonName = some .null) (operator : String)
    (target : Json) (now : ℤ) :
    (m.policy texts).compliant ⟨operator, target, r.input, now⟩ = false := by
  apply ruleHolds_resource texts (some key) _ (feature_mayHold m key hm) operator target now r
  intro key' hkey'
  cases hkey'
  exact hunset

/-- A feature that a resource does not have, or that was not found out about, counts as one that
does not meet the metric, whatever the metric asks for. -/
theorem unset_feature_unmet (m : BundledMetric) (key : OntologyKey) (hm : m.feature = some key)
    (r : ResourceObject) (hunset : r.input.field key.jsonName = some .null) (operator : String)
    (target : Json) (now : ℤ) : m.judge texts operator target r now = some false := by
  apply judge_eq_some texts
  · have hvalues := values_inputField texts ⟨operator, target, r.input, now⟩ (fun _ => none) key
    rw [feature_applicable m key hm, ruleHolds_one, holds_truth texts _ _ hvalues, hunset]
    rfl
  · exact compliant_unset texts m key hm r hunset operator target now

/-- A machine of which nothing is known. -/
def bareMachine : ResourceObject := resourceObject [] .virtualMachine .nil

theorem bareMachine_updates :
    bareMachine.input.field (OntologyKey.jsonName .automaticUpdates) = some .null ∧
      BundledMetric.judge decimalTexts .automaticUpdatesEnabled "==" (.bool true) bareMachine 0 =
        some false := by
  have hunset : bareMachine.input.field (OntologyKey.jsonName .automaticUpdates) = some .null :=
    field_resourceObject _ _ _ .automaticUpdates (by decide)
  exact ⟨hunset, unset_feature_unmet decimalTexts .automaticUpdatesEnabled .automaticUpdates rfl
    bareMachine hunset "==" (.bool true) 0⟩

end Unset

section Samples
variable (texts : TimeTexts)

def sampleLog : List (OntologyKey × Json) :=
  [(.enabled, .bool true), (.retentionPeriod, .string (texts.durationText (35 * nsPerHour))),
  (.loggingServiceIds, .array [.string "?"])]

theorem populates_sampleLog : Populates (sampleLog texts) loggingFields := by
  refine .cons rfl (.single (.bool true)) (.cons rfl (.single (.duration _)) (.cons rfl ?_ .nil))
  refine .repeated ?_
  intro v hv
  cases List.mem_singleton.mp hv
  exact .text "?"

def sampleUpdates : List (OntologyKey × Json) :=
  [(.enabled, .bool true), (.interval, .string (texts.durationText nsPerDay)),
  (.securityOnly, .bool true)]

theorem populates_sampleUpdates :
    Populates (sampleUpdates texts) FeatureClass.automaticUpdates.fields :=
  .cons rfl (.single (.bool true)) (.cons rfl (.single (.duration _))
    (.cons rfl (.single (.bool true)) .nil))

def sampleProtection : List (OntologyKey × Json) :=
  [(.enabled, .bool true),
  (.applicationLogging, featureObject (sampleLog texts) .applicationLogging)]

theorem populates_sampleProtection :
    Populates (sampleProtection texts) FeatureClass.malwareProtection.fields :=
  .cons rfl (.single (.bool true)) (.cons rfl (.part _ rfl (populates_sampleLog texts)) .nil)

def sampleMachine : ResourceObject :=
  resourceObject
    [(.automaticUpdates, featureObject (sampleUpdates texts) .automaticUpdates),
    (.bootLogging, featureObject (sampleLog texts) .bootLogging),
    (.osLogging, featureObject (sampleLog texts) .osLogging),
    (.malwareProtection, featureObject (sampleProtection texts) .malwareProtection)]
    .virtualMachine
    (.cons rfl (.part _ rfl (populates_sampleUpdates texts))
      (.cons rfl (.part _ rfl (populates_sampleLog texts))
      (.cons rfl (.part _ rfl (populates_sampleLog texts))
      (.cons rfl (.part _ rfl (populates_sampleProtection texts)) .nil))))

def sampleKeyEncryption : List (OntologyKey × Json) :=
  [(.algorithm, .string "AES256"), (.enabled, .bool true), (.keyUrl, .string "key")]

theorem populates_sampleKeyEncryption : Populates sampleKeyEncryption keyEncryptionFields :=
  .cons rfl (.single (.text _)) (.cons rfl (.single (.bool true))
    (.cons rfl (.single (.text _)) .nil))

def sampleAtRest : Json :=
  .object [(OntologyKey.jsonName .customerKeyEncryption,
    featureObject sampleKeyEncryption .customerKeyEncryption)]

theorem encodes_sampleAtRest : Encodes (.message .atRestEncryption) sampleAtRest :=
  .subclass rfl List.mem_cons_self (.message rfl (encodesFields_emit populates_sampleKeyEncryption))

def sampleStorage : ResourceObject :=
  resourceObject [(.atRestEncryption, sampleAtRest)] .objectStorage
    (.cons rfl (.single encodes_sampleAtRest) .nil)

theorem field_sampleStorage : sampleStorage.input.field (OntologyKey.jsonName .atRestEncryption) =
    some sampleAtRest :=
  field_resourceObject _ _ _ .atRestEncryption (by decide)

def sampleIdentity : ResourceObject :=
  resourceObject [(.privileged, .bool true), (.activated, .bool true),
    (.lastActivity, .string (texts.timestampText 0))] .identity
    (.cons rfl (.single (.bool true)) (.cons rfl (.single (.bool true))
      (.cons rfl (.single (.timestamp _)) .nil)))

def javaFunction : ResourceObject :=
  resourceObject [(.runtimeLanguage, .string "Java"), (.runtimeVersion, .string "11")] .function
    (.cons rfl (.single (.text _)) (.cons rfl (.single (.text _)) .nil))

def sampleEncryption : List (OntologyKey × Json) :=
  [(.enabled, .bool true), (.enforced, .bool true)]

def encryptedService : ResourceObject :=
  resourceObject [(.transportEncryption, featureObject sampleEncryption .transportEncryption)]
    .genericNetworkService
    (.cons rfl (.part _ rfl (.cons rfl (.single (.bool true))
      (.cons rfl (.single (.bool true)) .nil))) .nil)

theorem field_encryptedService :
    encryptedService.input.field (OntologyKey.jsonName .transportEncryption) =
      some (featureObject sampleEncryption .transportEncryption) :=
  field_resourceObject _ _ _ .transportEncryption (by decide)

end Samples

section Met
variable (texts : TimeTexts) {m : BundledMetric} {operator : String} {target : Json}
  {r : ResourceObject} {now : ℤ}

theorem feature_met {feature actual : PolicyTerm} (hm : m.rules = featureRules feature actual)
    {v w : Json} (hv : feature.values (policyInterpretation texts ⟨operator, target, r.input, now⟩)
      (fun _ => none) = (some v).toList) (hholds : Rego.holds (some v) = true)
    (hw : actual.values (policyInterpretation texts ⟨operator, target, r.input, now⟩)
      (fun _ => none) = (some w).toList) (hcompare : compareRule operator target w = true) :
    m.judge texts operator target r now = some true := by
  apply judge_eq_some texts
  · rw [hm, featureRules, ruleHolds_one, holds_truth texts _ _ hv, hholds]
  · rw [hm, featureRules, ruleHolds_one, holds_compares texts _ _ hw]
    exact hcompare

variable (operator target now) in
theorem values_input_some {key : OntologyKey} {v : Json}
    (h : r.input.field key.jsonName = some v) :
    (inputField key).values (policyInterpretation texts ⟨operator, target, r.input, now⟩)
      (fun _ => none) = (some v).toList := by
  rw [values_inputField, h]

/-- A flag of a feature is set and asked for. -/
theorem flag_met {key property : OntologyKey} {set : List (OntologyKey × Json)} {c : FeatureClass}
    (hm : m.rules = featureRules (inputField key) (.field (inputField key) property))
    (hfeature : r.input.field key.jsonName = some (featureObject set c))
    (hflag : (featureObject set c).field property.jsonName = some (.bool true)) :
    m.judge texts "==" (.bool true) r now = some true := by
  have hvalues := values_input_some texts "==" (.bool true) now hfeature
  refine feature_met texts hm hvalues rfl (values_field_some texts _ _ hvalues hflag) ?_
  rw [compareRule_eq, eqv_bool]

theorem output_met {key : OntologyKey} {set : List (OntologyKey × Json)} {c : FeatureClass}
    (hm : m.rules = featureRules (inputField key)
      (.call .count (.field (inputField key) .loggingServiceIds)))
    (hlog : r.input.field key.jsonName = some (featureObject set c))
    (hids : (featureObject set c).field (OntologyKey.jsonName .loggingServiceIds) =
      some (.array [.string "?"])) :
    m.judge texts ">" (.number 0) r now = some true := by
  have hvalues := values_input_some texts ">" (.number 0) now hlog
  have hcount := values_call_of texts _ _ .count (values_field_some texts _ _ hvalues hids)
  refine feature_met texts hm hvalues rfl hcount ?_
  have hone : compare (1 : ℚ) 0 = .gt := compare_gt_iff_gt.mpr one_pos
  simp [compareRule, hone]

theorem retention_met {key : OntologyKey} (hm : m.rules = retentionRules key) (l : Logging)
    (hlog : r.input.field key.jsonName = some (Logging.json texts
      (some { l with retentionPeriod := some (35 * nsPerHour) }))) :
    m.judge texts ">=" (.number 35) r now = some true := by
  rw [BundledMetric.judge, BundledMetric.policy, hm, retentionRules_policy,
    loggingRetention_judge texts _ _ l (35 * nsPerHour) 35 now hlog, Option.some.injEq,
    decide_eq_true_iff]
  refine ⟨by decide, ?_⟩
  exact_mod_cast le_rfl

/-- Updates once a day. -/
theorem interval_met {set : List (OntologyKey × Json)} {c : FeatureClass}
    (hupdates : r.input.field (OntologyKey.jsonName .automaticUpdates) =
      some (featureObject set c))
    (hday : (featureObject set c).field (OntologyKey.jsonName .interval) =
      some (.string (texts.durationText nsPerDay))) :
    BundledMetric.judge texts .automaticUpdatesInterval "<=" (.number 720) r now = some true := by
  have hvalues := values_input_some texts "<=" (.number 720) now hupdates
  have hns : PolicyBuiltin.call texts .parseDurationNs (.string (texts.durationText nsPerDay)) =
      some (.number nsPerDay) := by
    rw [PolicyBuiltin.call, texts.parse_durationText, if_pos (by decide)]
    rfl
  have hperiod := values_call_of texts _ _ .parseDurationNs
    (values_field_some texts _ _ hvalues hday)
  rw [Option.bind_some, hns] at hperiod
  have hdivisor : Term.values (policyInterpretation texts ⟨"<=", .number 720, r.input, now⟩)
      (fun _ => none) (.arith .mul (numeral 1000000000) (numeral 86400)) =
        (some (.number (1000000000 * 86400))).toList := rfl
  have hone : (nsPerDay : ℚ) / (1000000000 * 86400) = 1 := by norm_num [nsPerDay, nsPerHour]
  have hinterval := values_arith_of texts _ _ .div hperiod hdivisor
  rw [Option.bind_some, Option.bind_some, Arith.eval, if_neg (by norm_num), hone] at hinterval
  apply judge_eq_some texts
  · show ruleHolds _ automaticUpdatesIntervalRules.applicable = true
    rw [automaticUpdatesIntervalRules, ruleHolds_one, holds_truth texts _ _ hvalues]
    rfl
  · have hpositive : compare (1 : ℚ) 0 = .gt := compare_gt_iff_gt.mpr one_pos
    have hnumeral : (numeral 0).values (policyInterpretation texts
      ⟨"<=", .number 720, r.input, now⟩) (fun _ => none) = (some (.number 0)).toList := rfl
    change updateInterval.values _ _ = _ at hinterval
    show ruleHolds _ automaticUpdatesIntervalRules.compliant = true
    rw [automaticUpdatesIntervalRules, ruleHolds_body, List.all_cons, List.all_cons, List.all_nil,
      Bool.and_true, holds_comparesBy texts _ _ hnumeral hinterval,
      holds_compares texts _ _ hinterval]
    simp only [compareDefined, compareRule_le, cmp_number, isLE_compare]
    norm_num [compareRule, hpositive]

def machineMetrics : List BundledMetric :=
  [.automaticUpdatesEnabled, .automaticUpdatesInterval, .automaticUpdatesSecurityOnly,
  .bootLoggingEnabled, .bootLoggingOutput, .bootLoggingRetention, .malwareProtectionEnabled,
  .malwareProtectionOutput, .osLoggingEnabled, .osLoggingOutput, .osLoggingRetention]

theorem machine_meets (m : BundledMetric) (hm : m ∈ machineMetrics) :
    m.judge texts m.defaults.1 m.defaults.2 (sampleMachine texts) 0 = some true := by
  have hupdates : (sampleMachine texts).input.field (OntologyKey.jsonName .automaticUpdates) =
      some (featureObject (sampleUpdates texts) .automaticUpdates) :=
    field_resourceObject _ _ _ .automaticUpdates (by decide)
  have hboot : (sampleMachine texts).input.field (OntologyKey.jsonName .bootLogging) =
      some (featureObject (sampleLog texts) .bootLogging) :=
    field_resourceObject _ _ _ .bootLogging (by decide)
  have hos : (sampleMachine texts).input.field (OntologyKey.jsonName .osLogging) =
      some (featureObject (sampleLog texts) .osLogging) :=
    field_resourceObject _ _ _ .osLogging (by decide)
  have hprotection : (sampleMachine texts).input.field (OntologyKey.jsonName .malwareProtection) =
      some (featureObject (sampleProtection texts) .malwareProtection) :=
    field_resourceObject _ _ _ .malwareProtection (by decide)
  simp only [machineMetrics, List.mem_cons, List.not_mem_nil, or_false] at hm
  rcases hm with rfl | rfl | rfl | rfl | rfl | rfl | rfl | rfl | rfl | rfl | rfl
  · exact flag_met texts rfl hupdates (field_featureObject _ _ .enabled)
  · exact interval_met texts hupdates (field_featureObject _ _ .interval)
  · exact flag_met texts rfl hupdates (field_featureObject _ _ .securityOnly)
  · exact flag_met texts rfl hboot (field_featureObject _ _ .enabled)
  · exact output_met texts rfl hboot (field_featureObject _ _ .loggingServiceIds)
  · exact retention_met texts rfl ⟨true, false, none, false, ["?"]⟩ hboot
  · exact flag_met texts rfl hprotection (field_featureObject _ _ .enabled)
  · have hvalues := values_input_some texts "isIn"
      BundledMetric.malwareProtectionOutput.defaults.2 0 hprotection
    have hlog := values_field_some texts _ _ hvalues
      (field_featureObject (sampleProtection texts) .malwareProtection .applicationLogging)
    refine feature_met texts rfl hlog rfl (values_field_some texts _ _ hlog
      (field_featureObject (sampleLog texts) .applicationLogging .loggingServiceIds)) ?_
    rw [BundledMetric.defaults, compareRule_isIn, isIn_array_iff]
    exact ⟨.string "?", List.mem_cons_self, by simp⟩
  · exact flag_met texts rfl hos (field_featureObject _ _ .enabled)
  · exact output_met texts rfl hos (field_featureObject _ _ .loggingServiceIds)
  · exact retention_met texts rfl ⟨true, false, none, false, ["?"]⟩ hos

theorem values_each_atRest (property : OntologyKey) (v : Json)
    (hv : (featureObject sampleKeyEncryption .customerKeyEncryption).field property.jsonName =
      some v) :
    Term.values (policyInterpretation texts ⟨operator, target, sampleStorage.input, now⟩)
      (fun _ => none) (.field (.each (inputField .atRestEncryption)) property) =
        (some v).toList := by
  have hitems : sampleAtRest.items =
      [featureObject sampleKeyEncryption .customerKeyEncryption] := rfl
  have heach : Term.values (policyInterpretation texts ⟨operator, target, sampleStorage.input, now⟩)
      (fun _ => none) (.each (inputField .atRestEncryption)) =
        (some (featureObject sampleKeyEncryption .customerKeyEncryption)).toList := by
    rw [Term.values, values_input_some texts operator target now field_sampleStorage]
    simp [hitems]
  exact values_field_some texts _ _ heach hv

/-- The type of a resource is among the names of its class. -/
theorem holds_hasType (name : String) (hname : name ∈ r.cls.typeNames) :
    (hasType name).holds (policyInterpretation texts ⟨operator, target, r.input, now⟩)
      (fun _ => none) = true := by
  have htypes := values_inputField texts ⟨operator, target, r.input, now⟩ (fun _ => none) .type
  have hfield : r.input.field (OntologyKey.jsonName .type) =
      some (.array (r.cls.typeNames.map .string)) := field_type_resourceMap ..
  rw [hfield] at htypes
  have heach : Term.values (policyInterpretation texts ⟨operator, target, r.input, now⟩)
      (fun _ => none) (.each (inputField .type)) = r.cls.typeNames.map .string := by
    rw [Term.values, htypes]
    simp [Json.items]
  have hequal : [Json.string name].any (Json.string name).eqv = true := by
    simp [(eqv_iff (.string name) (.string name)).mpr rfl]
  rw [hasType, Atom.holds, heach]
  exact List.any_eq_true.mpr ⟨.string name, List.mem_map_of_mem hname, hequal⟩

/-- A resource of the type that the metric is about has the property that is asked for. -/
theorem typed_met {name : String} {key : OntologyKey}
    (hm : m.rules = ⟨body [hasType name], body [compares (inputField key)]⟩)
    (hname : name ∈ r.cls.typeNames) {v : Json} (hv : r.input.field key.jsonName = some v)
    (hcompare : compareRule operator target v = true) :
    m.judge texts operator target r now = some true := by
  apply judge_eq_some texts
  · rw [hm, ruleHolds_one, holds_hasType texts name hname]
  · rw [hm, ruleHolds_one,
      holds_compares texts _ _ (values_input_some texts operator target now hv)]
    exact hcompare

/-- The key of an encryption is with the customer. -/
theorem customerKey_met {encryption : Json} {set : List (OntologyKey × Json)} {c : FeatureClass}
    (hencryption : r.input.field (OntologyKey.jsonName .atRestEncryption) = some encryption)
    (hcustomer : encryption.field (OntologyKey.jsonName .customerKeyEncryption) =
      some (featureObject set c)) {url : String} (hset : url ≠ "")
    (hurl : (featureObject set c).field (OntologyKey.jsonName .keyUrl) = some (.string url)) :
    BundledMetric.judge texts .customerKeyEncryption operator target r now = some true := by
  have hvalues := values_field_some texts _ _
    (values_input_some texts operator target now hencryption) hcustomer
  have hkey := values_field_some texts _ _ hvalues hurl
  apply judge_eq_some texts
  · show ruleHolds _ customerKeyEncryptionRules.applicable = true
    rw [customerKeyEncryptionRules, ruleHolds_one]
    exact holds_truth texts _ _ hvalues
  · have hne : (Json.string url).eqv (.string "") = false := by
      rw [← Bool.not_eq_true, eqv_string]
      exact hset
    show ruleHolds _ customerKeyEncryptionRules.compliant = true
    rw [customerKeyEncryptionRules, ruleHolds_one, Atom.holds, hkey]
    simp [Term.values, hne]

def storageMetrics : List BundledMetric :=
  [.atRestEncryptionAlgorithm, .atRestEncryptionEnabled, .customerKeyEncryption,
  .objectStoragePublicAccessDisabled]

theorem storage_meets (m : BundledMetric) (hm : m ∈ storageMetrics) :
    m.judge texts m.defaults.1 m.defaults.2 sampleStorage 0 = some true := by
  have hcustomer : sampleAtRest.field (OntologyKey.jsonName .customerKeyEncryption) =
      some (featureObject sampleKeyEncryption .customerKeyEncryption) := by
    simp [sampleAtRest, Json.field]
  simp only [storageMetrics, List.mem_cons, List.not_mem_nil, or_false] at hm
  rcases hm with rfl | rfl | rfl | rfl
  · refine feature_met texts rfl (values_input_some texts _ _ _ field_sampleStorage) rfl
      (values_each_atRest texts .algorithm (.string "AES256")
        (field_featureObject _ _ .algorithm)) ?_
    simp [BundledMetric.defaults, compareRule_eq, eqv_string]
  · refine feature_met texts rfl (values_input_some texts _ _ _ field_sampleStorage) rfl
      (values_each_atRest texts .enabled (.bool true) (field_featureObject _ _ .enabled)) ?_
    simp [BundledMetric.defaults, compareRule_eq, eqv_bool]
  · exact customerKey_met texts field_sampleStorage hcustomer (by decide)
      (field_featureObject _ _ .keyUrl)
  · refine typed_met texts rfl List.mem_cons_self
      (field_resourceObject _ _ _ .publicAccess (by decide)) ?_
    simp [BundledMetric.defaults, compareRule_eq, eqv_bool]

/-- The policy asks for an activity that is at least 90 days ago. -/
theorem activity_met (hprivileged : Rego.holds (r.input.field "privileged") = true)
    (hactivated : Rego.holds (r.input.field "activated") = true)
    (hlast : r.input.field "lastActivity" = some (.string (texts.timestampText 0))) :
    BundledMetric.judge texts .identityRecentActivity "<=" (.number 90) r (90 * nsPerDay) =
      some true := by
  have hpolicy : BundledMetric.policy texts .identityRecentActivity =
      identityRecentActivity texts := identityRecentActivityRules_policy texts
  have happlicable : (identityRecentActivity texts).applicable
      ⟨"<=", .number 90, r.input, 90 * nsPerDay⟩ = true := by
    simp only [identityRecentActivity, hprivileged, hactivated, Bool.and_self]
  have hcompliant : (identityRecentActivity texts).compliant
      ⟨"<=", .number 90, r.input, 90 * nsPerDay⟩ = true := by
    simp only [identityRecentActivity, hlast, texts.parse_timestampText, compareRule_le, cmp_number,
      isLE_compare]
    rw [if_pos (by decide)]
    norm_num [nsPerDay, nsPerHour]
  rw [BundledMetric.judge, hpolicy, Policy.judge, happlicable, hcompliant, if_pos rfl]

def identityMetrics : List BundledMetric :=
  [.identityPasswordPolicy, .identityRecentActivity]

theorem identity_meets (m : BundledMetric) (hm : m ∈ identityMetrics) :
    m.judge texts m.defaults.1 m.defaults.2 (sampleIdentity texts) (90 * nsPerDay) = some true := by
  simp only [identityMetrics, List.mem_cons, List.not_mem_nil, or_false] at hm
  rcases hm with rfl | rfl
  · refine typed_met texts rfl List.mem_cons_self
      (field_resourceObject _ _ _ .disablePasswordPolicy (by decide)) ?_
    simp [BundledMetric.defaults, compareRule_eq, eqv_bool]
  · apply activity_met texts
    · exact congrArg Rego.holds (field_resourceObject _ _ _ .privileged (by decide))
    · exact congrArg Rego.holds (field_resourceObject _ _ _ .activated (by decide))
    · exact field_resourceObject _ _ _ .lastActivity (by decide)

theorem function_meets (now : ℤ) : BundledMetric.judge texts .runtimeVersion ">="
    (.array (defaultTargets.map RuntimeTarget.json)) javaFunction now = some true := by
  have hpolicy : BundledMetric.policy texts .runtimeVersion = runtimeVersion :=
    runtimeVersionRules_policy texts
  have htypes : javaFunction.input.field "type" =
      some (.array (javaFunction.cls.typeNames.map .string)) := field_type_resourceMap ..
  have hlanguage : javaFunction.input.field "runtimeLanguage" = some (.string "Java") :=
    field_resourceObject _ _ _ .runtimeLanguage (by decide)
  have hversion : javaFunction.input.field "runtimeVersion" = some (.string "11") :=
    field_resourceObject _ _ _ .runtimeVersion (by decide)
  have happlicable : runtimeVersion.applicable
      ⟨">=", .array (defaultTargets.map RuntimeTarget.json), javaFunction.input, now⟩ = true := by
    simp only [runtimeVersion, htypes, Json.items]
    exact List.any_eq_true.mpr ⟨.string "Function", List.mem_cons_self, (eqv_iff _ _).mpr rfl⟩
  have hcompliant : runtimeVersion.compliant
      ⟨">=", .array (defaultTargets.map RuntimeTarget.json), javaFunction.input, now⟩ = true := by
    simp only [runtimeVersion, hlanguage, hversion, Json.items]
    have hentry (t : RuntimeTarget) :
        t.json.field "runtimeLanguage" = some (.string t.runtimeLanguage) ∧
        t.json.field "runtimeVersion" = some t.runtimeVersion.json := ⟨rfl, rfl⟩
    refine List.any_eq_true.mpr ⟨RuntimeTarget.json ⟨"Java", .number 11 []⟩, List.mem_cons_self, ?_⟩
    -- every text is greater than a number
    simp [(hentry _).1, (hentry _).2, Minimum.json, compareDefined, compareRule_eq,
      compareRule_ge, eqv_string]
  rw [BundledMetric.judge, hpolicy, Policy.judge, happlicable, hcompliant, if_pos rfl]

def serviceMetrics : List BundledMetric :=
  [.transportEncryptionEnabled, .transportEncryptionEnforced]

theorem service_meets (m : BundledMetric) (hm : m ∈ serviceMetrics) :
    m.judge texts m.defaults.1 m.defaults.2 encryptedService 0 = some true := by
  simp only [serviceMetrics, List.mem_cons, List.not_mem_nil, or_false] at hm
  rcases hm with rfl | rfl
  · exact flag_met texts rfl field_encryptedService (field_featureObject _ _ .enabled)
  · exact flag_met texts rfl field_encryptedService (field_featureObject _ _ .enforced)

end Met

section Coverage
variable (texts : TimeTexts)

/-- The metrics that apply to some resource, and that no resource meets. -/
def unmetMetrics : List BundledMetric :=
  [.adminMFAEnabled, .adminMixedDuties, .transportEncryptionProtocol]

theorem exists_met (m : BundledMetric) (hsilent : m ∉ silentMetrics) (hunmet : m ∉ unmetMetrics) :
    ∃ r now, m.judge texts m.defaults.1 m.defaults.2 r now = some true := by
  by_cases hmachine : m ∈ machineMetrics
  · exact ⟨_, _, machine_meets texts m hmachine⟩
  by_cases hstorage : m ∈ storageMetrics
  · exact ⟨_, _, storage_meets texts m hstorage⟩
  by_cases hidentity : m ∈ identityMetrics
  · exact ⟨_, _, identity_meets texts m hidentity⟩
  by_cases hservice : m ∈ serviceMetrics
  · exact ⟨_, _, service_meets texts m hservice⟩
  -- what is left
  have hrest : m = .runtimeVersion ∨ m = .resourceInventory := by
    revert hsilent hunmet hmachine hstorage hidentity hservice
    cases m <;> decide
  rcases hrest with rfl | rfl
  · exact ⟨_, 0, function_meets texts 0⟩
  · exact ⟨encryptedService, 0, judge_eq_some texts rfl rfl⟩

/-- A metric about a field that holds applies. -/
theorem judge_ne_none_of_field {m : BundledMetric} {key : OntologyKey}
    (hm : m.rules.applicable = body [.truth (inputField key)]) {r : ResourceObject} {v : Json}
    (hv : r.input.field key.jsonName = some v) (hholds : Rego.holds (some v) = true)
    (operator : String) (target : Json) (now : ℤ) : m.judge texts operator target r now ≠ none := by
  have happlicable : ruleHolds (policyInterpretation texts ⟨operator, target, r.input, now⟩)
      m.rules.applicable = true := by
    rw [hm, ruleHolds_one, holds_truth texts _ _ (values_input_some texts operator target now hv),
      hholds]
  rw [judge_eq_some texts happlicable rfl]
  exact Option.some_ne_none _

theorem exists_applies (m : BundledMetric) (hm : m ∈ unmetMetrics) :
    ∃ r operator target now, m.judge texts operator target r now ≠ none := by
  have hprivileged : (sampleIdentity texts).input.field (OntologyKey.jsonName .privileged) =
      some (.bool true) := field_resourceObject _ _ _ .privileged (by decide)
  simp only [unmetMetrics, List.mem_cons, List.not_mem_nil, or_false] at hm
  rcases hm with rfl | rfl | rfl
  · exact ⟨_, "", .null, 0, judge_ne_none_of_field texts rfl hprivileged rfl _ _ _⟩
  · exact ⟨_, "", .null, 0, judge_ne_none_of_field texts rfl hprivileged rfl _ _ _⟩
  · exact ⟨_, "", .null, 0, judge_ne_none_of_field texts rfl field_encryptedService rfl _ _ _⟩

/-- A metric applies to some resource exactly if it is not one of the silent ones. -/
theorem metric_applies_iff (m : BundledMetric) :
    (∃ r operator target now, m.judge texts operator target r now ≠ none) ↔
      m ∉ silentMetrics := by
  constructor
  · rintro ⟨r,operator,target,now,hjudge⟩ hm
    exact hjudge (judge_silent texts m hm operator target r now)
  intro hm
  by_cases hunmet : m ∈ unmetMetrics
  · exact exists_applies texts m hunmet
  · obtain ⟨r,now,hmet⟩ := exists_met texts m hm hunmet
    refine ⟨r, m.defaults.1, m.defaults.2, now, ?_⟩
    rw [hmet]
    exact Option.some_ne_none true

/-- Some resource meets a metric as it is shipped exactly if the metric is neither silent nor one
of the three. -/
theorem metric_passes_iff (m : BundledMetric) :
    (∃ r now, m.judge texts m.defaults.1 m.defaults.2 r now = some true) ↔
      m ∉ silentMetrics ∧ m ∉ unmetMetrics := by
  constructor
  · rintro ⟨r,now,hmet⟩
    constructor
    · intro hm
      rw [judge_silent texts m hm] at hmet
      cases hmet
    · intro hm
      simp only [unmetMetrics, List.mem_cons, List.not_mem_nil, or_false] at hm
      rcases hm with rfl | rfl | rfl
      · exact judge_adminMFA texts r now hmet
      · exact judge_unmet texts _ (by decide) _ _ r now hmet
      · exact judge_unmet texts _ (by decide) _ _ r now hmet
  · rintro ⟨hsilent,hunmet⟩
    exact exists_met texts m hsilent hunmet

end Coverage

end Clouditor
