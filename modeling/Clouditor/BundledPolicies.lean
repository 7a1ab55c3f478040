import Clouditor.OntologyClasses
import Clouditor.PolicyTimes
import Clouditor.RuntimeVersions

/-! The policies that come with the program as rules, what of a resource they depend on, and that
they mean the same as the functions that stand for some of them elsewhere. -/
namespace Clouditor
set_option autoImplicit false

open Rego

section Rules

inductive PolicyDocument where
  | input
  | operator
  | targetValue
  /-- The time in nanoseconds. -/
  | now
  deriving DecidableEq

inductive PolicyBuiltin where
  | count
  | parseDurationNs
  | parseRFC3339Ns

abbrev PolicyTerm := Term PolicyDocument OntologyKey PolicyBuiltin

/-- The only function of other rules is `compare`. -/
abbrev PolicyAtom := Atom PolicyDocument OntologyKey PolicyBuiltin Unit

abbrev PolicyBody := Body PolicyDocument OntologyKey PolicyBuiltin Unit

/-- The bodies of the two rules, besides the defaults. -/
structure PolicyRules where
  applicable : List PolicyBody
  compliant : List PolicyBody

def countOf : Json → Option Json
  | .array items => some (.number items.length)
  | .object fields => some (.number fields.length)
  | .string s => some (.number s.length)
  | _ => none

variable (texts : TimeTexts)

def PolicyBuiltin.call : PolicyBuiltin → Json → Option Json
  | .count, v => countOf v
  | .parseDurationNs, .string s => (texts.parseDurationNs s).map (fun ns : ℤ => .number ns)
  | .parseRFC3339Ns, .string s => (texts.parseRFC3339Ns s).map (fun ns : ℤ => .number ns)
  | _, _ => none

def compareTest : Json → Json → Json → Bool
  | .string operator, target, actual => compareRule operator target actual
  | _, _, _ => false

def PolicyEnv.docs (env : PolicyEnv) : PolicyDocument → Option Json
  | .input => some env.input
  | .operator => some (.string env.operator)
  | .targetValue => some env.targetValue
  | .now => some (.number env.now)

def policyInterpretation (env : PolicyEnv) :
    Interpretation PolicyDocument OntologyKey PolicyBuiltin Unit where
  doc := env.docs
  name := OntologyKey.jsonName
  call := PolicyBuiltin.call texts
  test _ := compareTest

def PolicyRules.policy (p : PolicyRules) : Policy where
  applicable env := ruleHolds (policyInterpretation texts env) p.applicable
  compliant env := ruleHolds (policyInterpretation texts env) p.compliant

end Rules

section Bundles

def body (atoms : List PolicyAtom) : List PolicyBody := [atoms.foldr .also .done]

def inputField (key : OntologyKey) : PolicyTerm := .field (.doc .input) key

def numeral (q : ℚ) : PolicyTerm := .const (.number q)

/-- The expression `compare(data.operator, target, actual)`. -/
def comparesTo (target actual : PolicyTerm) : PolicyAtom :=
  .test () (.doc .operator) target actual

def compares (actual : PolicyTerm) : PolicyAtom := comparesTo (.doc .targetValue) actual

/-- The expression `compare` with an operator of its own. -/
def comparesBy (operator : String) (target actual : PolicyTerm) : PolicyAtom :=
  .test () (.const (.string operator)) target actual

/-- The expression `t[_] == "name"` for the types of the resource. -/
def hasType (name : String) : PolicyAtom :=
  .eq (.each (inputField .type)) (.const (.string name))

/-- The metric applies where there is a feature, and compares something of it. -/
def featureRules (feature actual : PolicyTerm) : PolicyRules where
  applicable := body [.truth feature]
  compliant := body [compares actual]

/-- The metric applies where a property is defined and not `null`. -/
def propertyRules (property : PolicyTerm) : PolicyRules where
  applicable := body [.ne property (.const .null)]
  compliant := body [compares property]

def firewallRules (resourceType : String) : PolicyRules where
  applicable := body [.ne (.field (inputField .accessRestriction) .enabled) (.const .null),
    comparesBy "isIn" (.const (.string resourceType)) (inputField .type)]
  compliant := body [compares (.field (inputField .accessRestriction) .enabled)]

/-- The period in nanoseconds over those of an hour. -/
def retentionRules (log : OntologyKey) : PolicyRules where
  applicable := body [.truth (inputField log)]
  compliant := [.bind "days" (.arith .div
      (.call .parseDurationNs (.field (inputField log) .retentionPeriod))
      (.arith .mul (.arith .mul (.arith .mul (numeral 1000) (numeral 1000)) (numeral 1000))
        (numeral 3600)))
    (.also (compares (.var "days")) .done)]

/-- Only the defaults. -/
def noRules : PolicyRules := ⟨[], []⟩

inductive BundledMetric where
  | adminMFAEnabled
  | adminMixedDuties
  | anomalyDetectionEnabled
  | anomalyDetectionOutput
  | anonymousAuthentication
  | approvedCommitAuthor
  | atRestEncryptionAlgorithm
  | atRestEncryptionEnabled
  | automaticUpdatesEnabled
  | automaticUpdatesInterval
  | automaticUpdatesSecurityOnly
  | bootLoggingEnabled
  | bootLoggingOutput
  | bootLoggingRetention
  | codeSignoff
  | customerKeyEncryption
  | identityPasswordPolicy
  | identityRecentActivity
  | l3FirewallEnabled
  | l3FirewallRestrictedPorts
  | malwareProtectionEnabled
  | malwareProtectionOutput
  | mutualAuthentication
  | noKnownVulnerabilities
  | osLoggingEnabled
  | osLoggingOutput
  | osLoggingRetention
  | objectStoragePublicAccessDisabled
  | resourceInventory
  | roleBroadAssignments
  | runtimeVersion
  | signedCommits
  | signedSignoff
  | singleSignOnEnabled
  | tlsCipherSuites
  | tlsDHGroups
  | tlsSignatureAlgorithms
  | transportEncryptionEnabled
  | transportEncryptionEnforced
  | transportEncryptionProtocol
  | webApplicationFirewallEnabled
  deriving DecidableEq

def adminMFAEnabledRules : PolicyRules where
  applicable := body [.truth (inputField .privileged)]
  compliant := [.also (compares (.call .count (inputField .authenticity)))
    (.every "factor" (inputField .authenticity)
      (.fails (.eq (.field (.var "factor") .type) (.const (.string "NoAuthentication")))
        (.also (.eq (.field (.var "factor") .activated) (.const (.bool true))) .done))
      .done)]

/-- The interval in days. -/
def updateInterval : PolicyTerm :=
  .arith .div (.call .parseDurationNs (.field (inputField .automaticUpdates) .interval))
    (.arith .mul (numeral 1000000000) (numeral 86400))

def automaticUpdatesIntervalRules : PolicyRules where
  applicable := body [.truth (inputField .automaticUpdates)]
  compliant := body [comparesBy ">" (numeral 0) updateInterval, compares updateInterval]

def customerKeyEncryptionRules : PolicyRules where
  applicable := body [.truth (.field (inputField .atRestEncryption) .customerKeyEncryption)]
  compliant := body [.ne
    (.field (.field (inputField .atRestEncryption) .customerKeyEncryption) .keyUrl)
    (.const (.string ""))]

/-- The days of the target value in nanoseconds. -/
def activityWindow : PolicyTerm :=
  .arith .mul (.arith .mul (.arith .mul (.arith .mul (.arith .mul (.doc .targetValue)
    (numeral 24)) (numeral 3600)) (numeral 1000)) (numeral 1000)) (numeral 1000)

/-- The age comes as the target value of the comparison, and the window as the actual one. -/
def identityRecentActivityRules : PolicyRules where
  applicable := body [.truth (inputField .privileged), .truth (inputField .activated)]
  compliant := [.bind "ts" (.call .parseRFC3339Ns (inputField .lastActivity))
    (.bind "now" (.doc .now)
      (.bind "window" activityWindow
        (.also (comparesTo (.arith .sub (.var "now") (.var "ts")) (.var "window")) .done)))]

def mutualAuthenticationRules : PolicyRules where
  applicable := body
    [.ne (.field (inputField .certificateBasedAuthentication) .enabled) (.const .null),
    .ne (.field (.field (inputField .httpEndpoint) .transportEncryption) .enabled) (.const .null)]
  compliant := body
    [compares (.field (inputField .certificateBasedAuthentication) .enabled),
    compares (.field (.field (inputField .httpEndpoint) .transportEncryption) .enabled)]

/-- Both comparisons are about one and the same entry of the target value. -/
def runtimeVersionRules : PolicyRules where
  applicable := body [hasType "Function"]
  compliant := [.bind "entry" (.each (.doc .targetValue))
    (.also (comparesBy "==" (.field (.var "entry") .runtimeLanguage)
        (inputField .runtimeLanguage))
      (.also (comparesTo (.field (.var "entry") .runtimeVersion) (inputField .runtimeVersion))
        .done))]

def BundledMetric.rules : BundledMetric → PolicyRules
  | .adminMFAEnabled => adminMFAEnabledRules
  | .adminMixedDuties =>
    featureRules (inputField .privileged) (.field (inputField .authorization) .mixedDuties)
  | .anomalyDetectionEnabled => propertyRules (.field (inputField .anomalyDetection) .enabled)
  | .anomalyDetectionOutput => propertyRules
    (.field (.field (inputField .anomalyDetection) .applicationLogging) .loggingService)
  | .anonymousAuthentication =>
    propertyRules (.field (inputField .certificateBasedAuthentication) .enabled)
  | .approvedCommitAuthor => noRules
  | .atRestEncryptionAlgorithm => featureRules (inputField .atRestEncryption)
    (.field (.each (inputField .atRestEncryption)) .algorithm)
  | .atRestEncryptionEnabled => featureRules (inputField .atRestEncryption)
    (.field (.each (inputField .atRestEncryption)) .enabled)
  | .automaticUpdatesEnabled =>
    featureRules (inputField .automaticUpdates) (.field (inputField .automaticUpdates) .enabled)
  | .automaticUpdatesInterval => automaticUpdatesIntervalRules
  | .automaticUpdatesSecurityOnly => featureRules (inputField .automaticUpdates)
    (.field (inputField .automaticUpdates) .securityOnly)
  | .bootLoggingEnabled =>
    featureRules (inputField .bootLogging) (.field (inputField .bootLogging) .enabled)
  | .bootLoggingOutput => featureRules (inputField .bootLogging)
    (.call .count (.field (inputField .bootLogging) .loggingServiceIds))
  | .bootLoggingRetention => retentionRules .bootLogging
  | .codeSignoff => noRules
  | .customerKeyEncryption => customerKeyEncryptionRules
  | .identityPasswordPolicy =>
    ⟨body [hasType "Identity"], body [compares (inputField .disablePasswordPolicy)]⟩
  | .identityRecentActivity => identityRecentActivityRules
  | .l3FirewallEnabled => firewallRules "NetworkInterface"
  | .l3FirewallRestrictedPorts =>
    propertyRules (.field (inputField .accessRestriction) .restrictedPorts)
  | .malwareProtectionEnabled =>
    featureRules (inputField .malwareProtection) (.field (inputField .malwareProtection) .enabled)
  | .malwareProtectionOutput =>
    featureRules (.field (inputField .malwareProtection) .applicationLogging)
      (.field (.field (inputField .malwareProtection) .applicationLogging) .loggingServiceIds)
  | .mutualAuthentication => mutualAuthenticationRules
  | .noKnownVulnerabilities =>
    featureRules (inputField .vulnerabilities) (inputField .vulnerabilities)
  | .osLoggingEnabled =>
    featureRules (inputField .osLogging) (.field (inputField .osLogging) .enabled)
  | .osLoggingOutput => featureRules (inputField .osLogging)
    (.call .count (.field (inputField .osLogging) .loggingServiceIds))
  | .osLoggingRetention => retentionRules .osLogging
  | .objectStoragePublicAccessDisabled =>
    ⟨body [hasType "ObjectStorage"], body [compares (inputField .publicAccess)]⟩
  | .resourceInventory => ⟨body [], body []⟩
  | .roleBroadAssignments => featureRules (.field (inputField .rBAC) .broadAssignments)
    (.field (inputField .rBAC) .broadAssignments)
  | .runtimeVersion => runtimeVersionRules
  | .signedCommits => noRules
  | .signedSignoff => noRules
  | .singleSignOnEnabled => propertyRules (.field (inputField .singleSignOn) .enabled)
  | .tlsCipherSuites => noRules
  | .tlsDHGroups => noRules
  | .tlsSignatureAlgorithms => noRules
  | .transportEncryptionEnabled => featureRules (inputField .transportEncryption)
    (.field (inputField .transportEncryption) .enabled)
  | .transportEncryptionEnforced => featureRules (inputField .transportEncryption)
    (.field (inputField .transportEncryption) .enforced)
  | .transportEncryptionProtocol => featureRules (inputField .transportEncryption)
    (.field (inputField .transportEncryption) .tlsVersion)
  | .webApplicationFirewallEnabled => firewallRules "LoadBalancer"

/-- The operator and the target value that come with a metric. -/
def BundledMetric.defaults : BundledMetric → String × Json
  | .adminMFAEnabled => (">=", .number 2)
  | .adminMixedDuties => ("<=", .number (2 / 5))
  | .anomalyDetectionOutput => ("isIn", .array [.string "?"])
  | .anonymousAuthentication => ("==", .bool false)
  | .atRestEncryptionAlgorithm => ("==", .string "AES256")
  | .automaticUpdatesInterval => ("<=", .number 720)
  | .bootLoggingOutput => (">", .number 0)
  | .bootLoggingRetention => (">=", .number 35)
  | .identityPasswordPolicy => ("==", .bool false)
  | .identityRecentActivity => ("<=", .number 90)
  | .l3FirewallRestrictedPorts => ("==", .string "22")
  | .malwareProtectionOutput => ("isIn", .array [.string "SomeAnalyticsService?", .string "?"])
  | .noKnownVulnerabilities => ("==", .array [])
  | .osLoggingOutput => (">", .number 0)
  | .osLoggingRetention => (">=", .number 35)
  | .objectStoragePublicAccessDisabled => ("==", .bool false)
  | .roleBroadAssignments => ("<=", .number (1 / 5))
  | .runtimeVersion => (">=", .array (defaultTargets.map RuntimeTarget.json))
  | .tlsCipherSuites => ("==", .string "")
  | .tlsDHGroups => ("==", .string "")
  | .tlsSignatureAlgorithms => ("==", .string "")
  | .transportEncryptionProtocol => ("==", .string "TLS1_2")
  -- all others ask for a flag
  | _ => ("==", .bool true)

variable (texts : TimeTexts)

def BundledMetric.policy (m : BundledMetric) : Policy := m.rules.policy texts

/-- The verdict on a resource. -/
def BundledMetric.judge (m : BundledMetric) (operator : String) (target : Json)
    (r : ResourceObject) (now : ℤ) : Option Bool :=
  (m.policy texts).judge ⟨operator, target, r.input, now⟩

end Bundles

section Locality
variable (texts : TimeTexts)

def PolicyRules.reads (p : PolicyRules) : List (PolicyDocument × Option OntologyKey) :=
  (p.applicable ++ p.compliant).flatMap Body.reads

/-- The fields of the resource that a metric looks at. -/
def BundledMetric.inputFields (m : BundledMetric) : List OntologyKey :=
  m.rules.reads.filterMap (fun r => if r.1 = .input then r.2 else none)

/-- No policy looks at the resource as a whole. -/
theorem reads_input (m : BundledMetric) : (.input, none) ∉ m.rules.reads := by
  cases m <;> decide

theorem agreeOn_reads (m : BundledMetric) (env : PolicyEnv) (input : Json)
    (h : ∀ key ∈ m.inputFields, env.input.field key.jsonName = input.field key.jsonName)
    (r : PolicyDocument × Option OntologyKey) (hr : r ∈ m.rules.reads) :
    AgreeOn (policyInterpretation texts env) env.docs { env with input := input }.docs r := by
  obtain ⟨d,key⟩ := r
  cases key with
  | none =>
    cases d with
    | input => exact absurd hr (reads_input m)
    | _ => rfl
  | some key =>
    cases d with
    | input =>
      apply h key
      exact List.mem_filterMap.mpr ⟨(.input, some key), hr, if_pos rfl⟩
    | _ => rfl

/-- The verdict of a metric depends on nothing in the resource but the fields that its policy
names. -/
theorem verdict_of_fields (m : BundledMetric) (env : PolicyEnv) (input : Json)
    (h : ∀ key ∈ m.inputFields, env.input.field key.jsonName = input.field key.jsonName) :
    (m.policy texts).judge env = (m.policy texts).judge { env with input := input } := by
  have hagree := agreeOn_reads texts m env input h
  simp only [PolicyRules.reads, List.flatMap_append, List.mem_append] at hagree
  have happlicable := ruleHolds_congr m.rules.applicable (fun r hr => hagree r (.inl hr))
  have hcompliant := ruleHolds_congr m.rules.compliant (fun r hr => hagree r (.inr hr))
  have happ : (m.policy texts).applicable env =
      (m.policy texts).applicable { env with input := input } := happlicable
  have hcomp : (m.policy texts).compliant env =
      (m.policy texts).compliant { env with input := input } := hcompliant
  rw [Policy.judge, Policy.judge, happ, hcomp]

/-- A metric about updates does not see the labels. -/
theorem updates_verdict_without_labels :
    (BundledMetric.policy decimalTexts .automaticUpdatesEnabled).judge
        ⟨"==", .bool true, .object [("automaticUpdates", .object [("enabled", .bool true)]),
          ("labels", .object [("owner", .string "a")])], 0⟩ =
      (BundledMetric.policy decimalTexts .automaticUpdatesEnabled).judge
        ⟨"==", .bool true, .object [("automaticUpdates", .object [("enabled", .bool true)])],
          0⟩ := by
  apply verdict_of_fields decimalTexts .automaticUpdatesEnabled ⟨"==", .bool true, _, 0⟩
  intro key hkey
  have hupdates : key = .automaticUpdates := by
    revert key
    decide
  rw [hupdates]
  rfl

end Locality

section Functions
variable (texts : TimeTexts) (env : PolicyEnv) (vars : String → Option Json)

@[simp] theorem values_doc (d : PolicyDocument) :
    Term.values (policyInterpretation texts env) vars (.doc d) = (env.docs d).toList := rfl

@[simp] theorem values_inputField (key : OntologyKey) :
    (inputField key).values (policyInterpretation texts env) vars =
      (env.input.field key.jsonName).toList :=
  filterMap_toList ..

theorem values_field_of {t : PolicyTerm} {o : Option Json} (key : OntologyKey)
    (h : t.values (policyInterpretation texts env) vars = o.toList) :
    Term.values (policyInterpretation texts env) vars (.field t key) =
      (o.bind (Json.field key.jsonName)).toList := by
  rw [Term.values, h]
  exact filterMap_toList ..

theorem values_field_some {t : PolicyTerm} {v w : Json} {key : OntologyKey}
    (ht : t.values (policyInterpretation texts env) vars = (some v).toList)
    (hw : v.field key.jsonName = some w) :
    Term.values (policyInterpretation texts env) vars (.field t key) = (some w).toList := by
  rw [values_field_of texts env vars key ht, Option.bind_some, hw]

theorem values_call_of {t : PolicyTerm} {o : Option Json} (f : PolicyBuiltin)
    (h : t.values (policyInterpretation texts env) vars = o.toList) :
    Term.values (policyInterpretation texts env) vars (.call f t) =
      (o.bind (f.call texts)).toList := by
  rw [Term.values, h]
  exact filterMap_toList ..

theorem values_arith_of {t u : PolicyTerm} {o o' : Option Json} (op : Arith)
    (ht : t.values (policyInterpretation texts env) vars = o.toList)
    (hu : u.values (policyInterpretation texts env) vars = o'.toList) :
    Term.values (policyInterpretation texts env) vars (.arith op t u) =
      (o.bind (fun a => o'.bind (op.eval a))).toList := by
  rw [Term.values, ht, hu]
  simp only [filterMap_toList]
  cases o <;> simp

theorem holds_truth {t : PolicyTerm} {o : Option Json}
    (h : t.values (policyInterpretation texts env) vars = o.toList) :
    Atom.holds (policyInterpretation texts env) vars (.truth t) = Rego.holds o := by
  rw [Atom.holds, h]
  cases o <;> simp [Rego.holds]

theorem holds_comparesTo {t u : PolicyTerm} {o o' : Option Json}
    (ht : t.values (policyInterpretation texts env) vars = o.toList)
    (hu : u.values (policyInterpretation texts env) vars = o'.toList) :
    (comparesTo t u).holds (policyInterpretation texts env) vars =
      compareDefined env.operator o o' := by
  simp only [comparesTo, Atom.holds, values_doc, PolicyEnv.docs, ht, hu]
  cases o <;> cases o' <;> simp [compareDefined, policyInterpretation, compareTest]

theorem holds_compares {t : PolicyTerm} {o : Option Json}
    (h : t.values (policyInterpretation texts env) vars = o.toList) :
    (compares t).holds (policyInterpretation texts env) vars =
      compareDefined env.operator (some env.targetValue) o :=
  holds_comparesTo texts env vars (values_doc texts env vars .targetValue) h

theorem holds_comparesBy {operator : String} {t u : PolicyTerm} {o o' : Option Json}
    (ht : t.values (policyInterpretation texts env) vars = o.toList)
    (hu : u.values (policyInterpretation texts env) vars = o'.toList) :
    (comparesBy operator t u).holds (policyInterpretation texts env) vars =
      compareDefined operator o o' := by
  simp only [comparesBy, Atom.holds, Term.values, ht, hu]
  cases o <;> cases o' <;> simp [compareDefined, policyInterpretation, compareTest]

theorem holds_notNull {t : PolicyTerm} {o : Option Json}
    (h : t.values (policyInterpretation texts env) vars = o.toList) :
    Atom.holds (policyInterpretation texts env) vars (.ne t (.const .null)) =
      o.any (fun v => !v.eqv .null) := by
  simp only [Atom.holds, Term.values, h]
  cases o <;> simp

theorem ruleHolds_body (atoms : List PolicyAtom) :
    ruleHolds (policyInterpretation texts env) (body atoms) =
      atoms.all (Atom.holds (policyInterpretation texts env) (fun _ => none)) := by
  rw [ruleHolds, body, List.any_cons, List.any_nil, Bool.or_false]
  induction atoms with
  | nil => rfl
  | cons a atoms ih => rw [List.foldr_cons, Body.holds, ih, List.all_cons]

theorem ruleHolds_one (a : PolicyAtom) :
    ruleHolds (policyInterpretation texts env) (body [a]) =
      a.holds (policyInterpretation texts env) (fun _ => none) := by
  rw [ruleHolds_body, List.all_cons, List.all_nil, Bool.and_true]

theorem values_restrictionEnabled :
    Term.values (policyInterpretation texts env) vars
      (.field (inputField .accessRestriction) .enabled) =
        (restrictionEnabled env.input).toList :=
  values_field_of texts env vars .enabled (values_inputField texts env vars .accessRestriction)

theorem firewallRules_policy (resourceType : String) :
    (firewallRules resourceType).policy texts = firewallEnabled resourceType := by
  have happlicable (env : PolicyEnv) : ruleHolds (policyInterpretation texts env)
      (firewallRules resourceType).applicable = (firewallEnabled resourceType).applicable env := by
    have htype : Term.values (policyInterpretation texts env) (fun _ => none)
        (.const (.string resourceType)) = (some (Json.string resourceType)).toList := rfl
    have hfunction : (firewallEnabled resourceType).applicable env =
        ((restrictionEnabled env.input).any (fun v => !v.eqv .null) &&
          compareDefined "isIn" (some (.string resourceType)) (env.input.field "type")) := by
      simp only [firewallEnabled]
      cases restrictionEnabled env.input <;> rfl
    rw [firewallRules, ruleHolds_body, List.all_cons, List.all_cons, List.all_nil, Bool.and_true,
      holds_notNull texts env _ (values_restrictionEnabled texts env _),
      holds_comparesBy texts env _ htype (values_inputField texts env _ .type), hfunction]
    rfl
  have hcompliant (env : PolicyEnv) : ruleHolds (policyInterpretation texts env)
      (firewallRules resourceType).compliant = (firewallEnabled resourceType).compliant env := by
    rw [firewallRules, ruleHolds_one]
    exact holds_compares texts env _ (values_restrictionEnabled texts env _)
  exact Policy.mk.injEq .. ▸ ⟨funext happlicable, funext hcompliant⟩

/-- What is bound is the value of the term, if it has one. -/
theorem ruleHolds_bind {x : String} {t : PolicyTerm} {rest : PolicyBody} {o : Option Json}
    (h : t.values (policyInterpretation texts env) vars = o.toList) :
    Body.holds (policyInterpretation texts env) vars (.bind x t rest) =
      o.any (fun v => rest.holds (policyInterpretation texts env)
        (Function.update vars x (some v))) := by
  rw [Body.holds, h]
  cases o <;> simp

/-- A value that was bound is compared. -/
theorem holds_compares_var (x : String) (v : Json) :
    Body.holds (policyInterpretation texts env) (Function.update vars x (some v))
      (.also (compares (.var x)) .done) = compareRule env.operator env.targetValue v := by
  have hvar : Term.values (policyInterpretation texts env) (Function.update vars x (some v))
      (.var x) = (some v).toList := by
    rw [Term.values, Function.update_self]
  rw [Body.holds, holds_compares texts env _ hvar, Body.holds, Bool.and_true]
  rfl

theorem retentionRules_policy (log : OntologyKey) :
    (retentionRules log).policy texts = loggingRetention texts log.jsonName := by
  have happlicable (env : PolicyEnv) : ruleHolds (policyInterpretation texts env)
      (retentionRules log).applicable =
        (loggingRetention texts log.jsonName).applicable env := by
    rw [retentionRules, ruleHolds_one, holds_truth texts env _ (values_inputField texts env _ log)]
    rfl
  have hcompliant (env : PolicyEnv) : ruleHolds (policyInterpretation texts env)
      (retentionRules log).compliant = (loggingRetention texts log.jsonName).compliant env := by
    have hperiod := values_call_of texts env (fun _ => none) .parseDurationNs
      (values_field_of texts env _ .retentionPeriod (values_inputField texts env _ log))
    have hhour : Term.values (policyInterpretation texts env) (fun _ => none) (.arith .mul
        (.arith .mul (.arith .mul (numeral 1000) (numeral 1000)) (numeral 1000)) (numeral 3600)) =
          (some (.number (((1000 * 1000) * 1000) * 3600))).toList := rfl
    rw [retentionRules, ruleHolds, List.any_cons, List.any_nil, Bool.or_false,
      ruleHolds_bind texts env _ (values_arith_of texts env _ .div hperiod hhour)]
    simp only [holds_compares_var]
    have hname : OntologyKey.jsonName .retentionPeriod = "retentionPeriod" := rfl
    simp only [hname, loggingRetention]
    generalize (env.input.field log.jsonName).bind (Json.field "retentionPeriod") = period
    cases period with
    | none => rfl
    | some v =>
      cases v with
      | string s =>
        simp only [Option.bind_some, PolicyBuiltin.call]
        cases texts.parseDurationNs s with
        | none => rfl
        | some ns => simp [Arith.eval]
      | _ => rfl
  exact Policy.mk.injEq .. ▸ ⟨funext happlicable, funext hcompliant⟩

theorem values_times {t : PolicyTerm} {o : Option Json} (n : ℚ)
    (ht : t.values (policyInterpretation texts env) vars = o.toList) :
    Term.values (policyInterpretation texts env) vars (.arith .mul t (numeral n)) =
      (o.bind (fun a => Arith.mul.eval a (.number n))).toList := by
  have hn : (numeral n).values (policyInterpretation texts env) vars =
      (some (Json.number n)).toList := rfl
  rw [values_arith_of texts env vars .mul ht hn]
  simp only [Option.bind_some]

/-- The window is only defined for a number of days. -/
theorem values_activityWindow : activityWindow.values (policyInterpretation texts env) vars =
    (match env.targetValue with
      | .number days => some (Json.number (((((days * 24) * 3600) * 1000) * 1000) * 1000))
      | _ => none).toList := by
  have hhours := values_times texts env vars 24 (values_doc texts env vars .targetValue)
  have hseconds := values_times texts env vars 3600 hhours
  have hmillis := values_times texts env vars 1000 hseconds
  have hmicros := values_times texts env vars 1000 hmillis
  rw [activityWindow, values_times texts env vars 1000 hmicros]
  simp only [PolicyEnv.docs]
  cases env.targetValue <;> rfl

theorem holds_activity (now ts : ℚ) (window : Json) :
    Body.holds (policyInterpretation texts env)
      (Function.update (Function.update (Function.update vars "ts" (some (.number ts))) "now"
        (some (.number now))) "window" (some window))
      (.also (comparesTo (.arith .sub (.var "now") (.var "ts")) (.var "window")) .done) =
        compareRule env.operator (.number (now - ts)) window := by
  generalize hvars : Function.update (Function.update (Function.update vars "ts"
    (some (.number ts))) "now" (some (.number now))) "window" (some window) = vars'
  have hage : Term.values (policyInterpretation texts env) vars'
      (.arith .sub (.var "now") (.var "ts")) = (some (Json.number (now - ts))).toList := by
    simp [← hvars, Term.values, Arith.eval]
  have hwindow : Term.values (policyInterpretation texts env) vars' (.var "window") =
      (some window).toList := by
    simp [← hvars, Term.values]
  rw [Body.holds, holds_comparesTo texts env vars' hage hwindow, Body.holds, Bool.and_true]
  rfl

theorem identityRecentActivityRules_policy :
    identityRecentActivityRules.policy texts = identityRecentActivity texts := by
  have happlicable (env : PolicyEnv) : ruleHolds (policyInterpretation texts env)
      identityRecentActivityRules.applicable = (identityRecentActivity texts).applicable env := by
    rw [identityRecentActivityRules, ruleHolds_body, List.all_cons, List.all_cons, List.all_nil,
      Bool.and_true, holds_truth texts env _ (values_inputField texts env _ .privileged),
      holds_truth texts env _ (values_inputField texts env _ .activated)]
    rfl
  have hcompliant (env : PolicyEnv) : ruleHolds (policyInterpretation texts env)
      identityRecentActivityRules.compliant = (identityRecentActivity texts).compliant env := by
    have hname : OntologyKey.jsonName .lastActivity = "lastActivity" := rfl
    have hts := values_call_of texts env (fun _ => none) .parseRFC3339Ns
      (values_inputField texts env _ .lastActivity)
    have hnow (vars : String → Option Json) := values_doc texts env vars .now
    have hwindow (vars : String → Option Json) := values_activityWindow texts env vars
    simp only [identityRecentActivityRules, ruleHolds, List.any_cons, List.any_nil, Bool.or_false,
      ruleHolds_bind texts env _ hts, ruleHolds_bind texts env _ (hnow _),
      ruleHolds_bind texts env _ (hwindow _), hname, identityRecentActivity]
    cases env.input.field "lastActivity" with
    | none => rfl
    | some v =>
      cases v with
      | string s =>
        simp only [Option.bind_some, PolicyBuiltin.call, PolicyEnv.docs, Option.any_some]
        cases env.targetValue with
        | number days =>
          simp only [Option.any_some]
          cases texts.parseRFC3339Ns s with
          | none => rfl
          | some ts => exact holds_activity texts env (fun _ => none) env.now ts _
        | _ => cases texts.parseRFC3339Ns s <;> rfl
      | _ => rfl
  exact Policy.mk.injEq .. ▸ ⟨funext happlicable, funext hcompliant⟩

theorem runtimeVersionRules_policy : runtimeVersionRules.policy texts = runtimeVersion := by
  have happlicable (env : PolicyEnv) : ruleHolds (policyInterpretation texts env)
      runtimeVersionRules.applicable = runtimeVersion.applicable env := by
    have hname : OntologyKey.jsonName .type = "type" := rfl
    rw [runtimeVersionRules, ruleHolds_one]
    simp only [hasType, Atom.holds, Term.values, values_inputField, hname, runtimeVersion]
    cases env.input.field "type" <;> simp
  have hcompliant (env : PolicyEnv) : ruleHolds (policyInterpretation texts env)
      runtimeVersionRules.compliant = runtimeVersion.compliant env := by
    have hlanguage : OntologyKey.jsonName .runtimeLanguage = "runtimeLanguage" := rfl
    have hversion : OntologyKey.jsonName .runtimeVersion = "runtimeVersion" := rfl
    rw [runtimeVersionRules, ruleHolds, List.any_cons, List.any_nil, Bool.or_false, Body.holds]
    have hentries : Term.values (policyInterpretation texts env) (fun _ => none)
        (.each (.doc .targetValue)) = env.targetValue.items := by
      simp [Term.values, policyInterpretation, PolicyEnv.docs]
    have hvar (entry : Json) : Term.values (policyInterpretation texts env)
        (Function.update (fun _ => none) "entry" (some entry)) (.var "entry") =
          (some entry).toList := by
      rw [Term.values, Function.update_self]
    rw [hentries]
    simp only [runtimeVersion]
    congr 1
    funext entry
    have hentry (key : OntologyKey) : Term.values (policyInterpretation texts env)
        (Function.update (fun _ => none) "entry" (some entry)) (.field (.var "entry") key) =
          (entry.field key.jsonName).toList :=
      values_field_of texts env _ key (hvar entry)
    rw [Body.holds, Body.holds, Body.holds, Bool.and_true,
      holds_comparesBy texts env _ (hentry .runtimeLanguage)
        (values_inputField texts env _ .runtimeLanguage),
      holds_comparesTo texts env _ (hentry .runtimeVersion)
        (values_inputField texts env _ .runtimeVersion), hlanguage, hversion]
  exact Policy.mk.injEq .. ▸ ⟨funext happlicable, funext hcompliant⟩

/-- The functions for single policies mean what the rules of these policies mean. -/
theorem policies_eq_functions :
    BundledMetric.policy texts .l3FirewallEnabled = l3FirewallEnabled ∧
    BundledMetric.policy texts .webApplicationFirewallEnabled = webApplicationFirewallEnabled ∧
    BundledMetric.policy texts .bootLoggingRetention = bootLoggingRetention texts ∧
    BundledMetric.policy texts .osLoggingRetention = osLoggingRetention texts ∧
    BundledMetric.policy texts .identityRecentActivity = identityRecentActivity texts ∧
    BundledMetric.policy texts .runtimeVersion = runtimeVersion :=
  ⟨firewallRules_policy texts "NetworkInterface", firewallRules_policy texts "LoadBalancer",
    retentionRules_policy texts .bootLogging, retentionRules_policy texts .osLogging,
    identityRecentActivityRules_policy texts, runtimeVersionRules_policy texts⟩

end Functions

end Clouditor
