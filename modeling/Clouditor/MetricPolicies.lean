import Clouditor.EvalLocks
import Clouditor.RegoValues

/-! The policies of the bundled metrics: the operators they share, the input that is made of a
resource, and the metrics about firewalls. -/
namespace Clouditor
set_option autoImplicit false

open Rego

section Comparing

/-- The keys of an object. -/
def objectKeys (fields : List (String × Json)) : List Json :=
  fields.map (fun field => .string field.1)

/-- The rules for the operator `isIn`. -/
def isIn (target actual : Json) : Bool :=
  -- one value among several targets
  (actual.isString && actual.mem target) ||
  match actual with
  -- one target among several values, or a value that is one of the targets
  | .array actuals =>
    (target.isString && target.mem actual) || actuals.any (fun value => value.mem target)
  -- the same for the keys of an object, but any target may be one of them
  | .object fields =>
    (objectKeys fields).any (fun key => key.mem target) || (objectKeys fields).any target.eqv
  | _ => false

/-- The rules for the operator `allIn`. -/
def allIn (target actual : Json) : Bool :=
  (actual.isString && actual.mem target) ||
  match actual with
  | .array actuals => actuals.all (fun value => value.mem target)
  | _ => false

/-- The rule `compare` of all policies. It is undefined, and so not met, for other operators. -/
def compareRule (operator : String) (target actual : Json) : Bool :=
  (operator = "==" && target.eqv actual) ||
  (operator = ">=" && (actual.cmp target).isGE) ||
  (operator = "<=" && (actual.cmp target).isLE) ||
  (operator = "<" && (actual.cmp target).isLT) ||
  (operator = ">" && (actual.cmp target).isGT) ||
  (operator = "isIn" && isIn target actual) ||
  (operator = "allIn" && allIn target actual)

theorem compareRule_eq (target actual : Json) :
    compareRule "==" target actual = target.eqv actual := by
  simp [compareRule]

theorem compareRule_ge (target actual : Json) :
    compareRule ">=" target actual = (actual.cmp target).isGE := by
  simp [compareRule]

theorem compareRule_le (target actual : Json) :
    compareRule "<=" target actual = (actual.cmp target).isLE := by
  simp [compareRule]

/-- With a value that is undefined, so is the comparison. -/
def compareDefined (operator : String) (target actual : Option Json) : Bool :=
  match target, actual with
  | some target, some actual => compareRule operator target actual
  | _, _ => false

end Comparing

section Membership

def listedOperators : List String := ["==", ">=", "<=", "<", ">", "isIn", "allIn"]

/-- What the operators `isIn` and `allIn` say about an array of target values. -/
structure MembershipLaws (targets : List Json) : Prop where
  isIn_single : ∀ v : String, compareRule "isIn" (.array targets) (.string v) =
    compareRule "isIn" (.array targets) (.array [.string v])
  allIn_single : ∀ v : String, compareRule "allIn" (.array targets) (.string v) =
    compareRule "allIn" (.array targets) (.array [.string v])
  isIn_array : ∀ actuals, compareRule "isIn" (.array targets) (.array actuals) = true ↔
    ∃ value ∈ actuals, value ∈ targets
  allIn_array : ∀ actuals, compareRule "allIn" (.array targets) (.array actuals) = true ↔
    ∀ value ∈ actuals, value ∈ targets
  isIn_of_allIn : ∀ actuals, actuals ≠ [] →
    compareRule "allIn" (.array targets) (.array actuals) = true →
      compareRule "isIn" (.array targets) (.array actuals) = true
  isIn_mono : ∀ targets', targets ⊆ targets' → ∀ actual,
    compareRule "isIn" (.array targets) actual = true →
      compareRule "isIn" (.array targets') actual = true
  allIn_mono : ∀ targets', targets ⊆ targets' → ∀ actual,
    compareRule "allIn" (.array targets) actual = true →
      compareRule "allIn" (.array targets') actual = true

theorem compareRule_isIn (target actual : Json) :
    compareRule "isIn" target actual = isIn target actual := by
  simp [compareRule]

theorem compareRule_allIn (target actual : Json) :
    compareRule "allIn" target actual = allIn target actual := by
  simp [compareRule]

theorem compareRule_unlisted (operator : String) (h : operator ∉ listedOperators)
    (target actual : Json) : compareRule operator target actual = false := by
  simp only [listedOperators, List.mem_cons, List.not_mem_nil, or_false, not_or] at h
  simp [compareRule, h]

variable (targets : List Json)

theorem isIn_string_iff (v : String) :
    isIn (.array targets) (.string v) = true ↔ .string v ∈ targets := by
  simp [isIn, Json.isString, mem_array]

theorem allIn_string_iff (v : String) :
    allIn (.array targets) (.string v) = true ↔ .string v ∈ targets := by
  simp [allIn, Json.isString, mem_array]

/-- The rules for a single target do not apply to an array of them. -/
theorem isIn_array_iff (actuals : List Json) :
    isIn (.array targets) (.array actuals) = true ↔ ∃ value ∈ actuals, value ∈ targets := by
  simp [isIn, Json.isString, mem_array]

theorem allIn_array_iff (actuals : List Json) :
    allIn (.array targets) (.array actuals) = true ↔ ∀ value ∈ actuals, value ∈ targets := by
  simp [allIn, Json.isString, mem_array]

/-- An array is never a key, so only the rule about keys among the targets is left. -/
theorem isIn_object_iff (fields : List (String × Json)) :
    isIn (.array targets) (.object fields) = true ↔
      ∃ key ∈ objectKeys fields, key ∈ targets := by
  have hkey : ¬ ∃ key ∈ objectKeys fields, Json.array targets = key := by
    simp [objectKeys]
  simp only [isIn, Json.isString, Bool.false_and, Bool.false_or, Bool.or_eq_true,
    List.any_eq_true, mem_array, eqv_iff, hkey, or_false]

theorem isIn_mono (targets' : List Json) (hsub : targets ⊆ targets') (actual : Json)
    (h : isIn (.array targets) actual = true) : isIn (.array targets') actual = true := by
  -- for each kind of actual value the rules ask for some member of the targets
  cases actual with
  | string v =>
    rw [isIn_string_iff] at h ⊢
    exact hsub h
  | array actuals =>
    rw [isIn_array_iff] at h ⊢
    obtain ⟨value,hmem,hvalue⟩ := h
    exact ⟨value, hmem, hsub hvalue⟩
  | object fields =>
    rw [isIn_object_iff] at h ⊢
    obtain ⟨key,hmem,hkey⟩ := h
    exact ⟨key, hmem, hsub hkey⟩
  | _ => simp [isIn, Json.isString] at h

theorem allIn_mono (targets' : List Json) (hsub : targets ⊆ targets') (actual : Json)
    (h : allIn (.array targets) actual = true) : allIn (.array targets') actual = true := by
  cases actual with
  | string v =>
    rw [allIn_string_iff] at h ⊢
    exact hsub h
  | array actuals =>
    rw [allIn_array_iff] at h ⊢
    intro value hmem
    exact hsub (h value hmem)
  | _ => simp [allIn, Json.isString] at h

theorem membershipLaws : MembershipLaws targets := by
  constructor <;> simp only [compareRule_isIn, compareRule_allIn]
  case isIn_single =>
    intro v
    rw [Bool.eq_iff_iff, isIn_string_iff, isIn_array_iff]
    simp
  case allIn_single =>
    intro v
    rw [Bool.eq_iff_iff, allIn_string_iff, allIn_array_iff]
    simp
  case isIn_array => exact isIn_array_iff targets
  case allIn_array => exact allIn_array_iff targets
  case isIn_of_allIn =>
    intro actuals hne hall
    rw [allIn_array_iff] at hall
    rw [isIn_array_iff]
    obtain ⟨value,hmem⟩ := List.exists_mem_of_ne_nil actuals hne
    exact ⟨value, hmem, hall value hmem⟩
  case isIn_mono => exact isIn_mono targets
  case allIn_mono => exact allIn_mono targets

/-- For every array of targets the laws hold, and no operator but the seven ever does. -/
theorem compare_membership :
    (∀ targets : List Json, MembershipLaws targets) ∧
      ∀ operator ∉ listedOperators, ∀ target actual, compareRule operator target actual = false :=
  ⟨membershipLaws, compareRule_unlisted⟩

end Membership

section Policies

/-- What a policy can read: its configuration, the resource and the clock. -/
structure PolicyEnv where
  operator : String
  targetValue : Json
  input : Json
  now : ℤ

/-- The two rules of a metric, which are false by default. -/
structure Policy where
  applicable : PolicyEnv → Bool
  compliant : PolicyEnv → Bool

/-- The verdict on a resource, if there is one. -/
def Policy.judge (p : Policy) (env : PolicyEnv) : Option Bool :=
  if p.applicable env then some (p.compliant env) else none

/-- What the query for the policy binds. -/
def Policy.bindings (p : Policy) (env : PolicyEnv) (config : MetricConfiguration) : Bindings where
  applicable := some (p.applicable env)
  compliant := some (p.compliant env)
  operator := some config.operator
  targetValue := config.targetValue
  config := .ok config

/-- The evaluation of a metric has a result just for a verdict. -/
theorem readBindings_judge (p : Policy) (env : PolicyEnv) (config : MetricConfiguration)
    (metricId : String) : readBindings metricId (p.bindings env config) =
      some (.ok ((p.judge env).map
        (⟨·, config.targetValue, config.operator, metricId, config⟩))) := by
  unfold Policy.judge
  cases happ : p.applicable env <;> simp [readBindings, Policy.bindings, happ]

/-- The policy engine with some policies by metric. A target value is read back from its text. -/
def policyEngine (policies : String → Option Policy) (value : String → Json) (now : ℤ) :
    OPA Json where
  Query := Policy × MetricConfiguration
  prepare metricId config _ :=
    match policies metricId with
    | none => .error ⟨none, "no policy for " ++ metricId⟩
    | some p => .ok (p, config)
  eval query input := .ok [query.1.bindings
    ⟨query.2.operator, value query.2.targetValue, input, now⟩ query.2]

/-- Rules with defaults are always booleans, so with such policies every evaluation returns. -/
theorem policyEngine_returns {σ : Type} (source : Source σ) (policies : String → Option Policy)
    (value : String → Json) (now : ℤ) (st : RegoState σ (policyEngine policies value now).Query)
    (e : Evidence Json) : EvalReturns (policyEngine policies value now) source st e := by
  apply evalReturns_of_complete
  apply policiesComplete_of_always
  intro query input b rest hb
  cases hb
  exact ⟨rfl, rfl, rfl⟩

theorem runQuery_judge (policies : String → Option Policy) (value : String → Json) (now : ℤ)
    (p : Policy) (config : MetricConfiguration) (metricId : String) (input : Json) :
    runQuery (policyEngine policies value now) metricId (p, config) input =
      some (.ok ((p.judge ⟨config.operator, value config.targetValue, input, now⟩).map
        (⟨·, config.targetValue, config.operator, metricId, config⟩))) :=
  readBindings_judge p _ config metricId

/-- `ResourceMap`: the fields of a resource in JSON, with its types under a key of their own. -/
def resourceMap (fields : List (String × Json)) (types : List String) : Json :=
  .object (("type", .array (types.map .string)) :: fields.filter (fun field => field.1 ≠ "type"))

theorem field_resourceMap (fields : List (String × Json)) (types : List String) (key : String)
    (hkey : key ≠ "type") : (resourceMap fields types).field key = fields.lookup key := by
  have hbeq : (key == "type") = false := beq_eq_false_iff_ne.mpr hkey
  have hlookup : (fields.filter (fun field => field.1 ≠ "type")).lookup key =
      fields.lookup key := by
    induction fields with
    | nil => rfl
    | cons field fields ih =>
      obtain ⟨k,v⟩ := field
      by_cases hk : k = "type"
      · rw [List.filter_cons_of_neg (by simp [hk]), ih, List.lookup_cons, hk, hbeq]
      · rw [List.filter_cons_of_pos (by simp [hk]), List.lookup_cons, List.lookup_cons, ih]
  rw [resourceMap, Json.field, List.lookup_cons, hlookup, hbeq]

end Policies

section Firewalls

structure L3Firewall where
  enabled : Bool
  inbound : Bool
  restrictedPorts : String

structure WebApplicationFirewall where
  enabled : Bool

/-- The members of the oneof. -/
inductive AccessRestriction where
  | l3Firewall (firewall : L3Firewall)
  | webApplicationFirewall (firewall : WebApplicationFirewall)

def L3Firewall.json (f : L3Firewall) : Json :=
  .object [("enabled", .bool f.enabled), ("inbound", .bool f.inbound),
    ("restrictedPorts", .string f.restrictedPorts)]

def WebApplicationFirewall.json (f : WebApplicationFirewall) : Json :=
  .object [("enabled", .bool f.enabled)]

/-- A member of a oneof is an object under its own name, and a oneof that is not set leaves no
trace. -/
def accessRestrictionJson : Option AccessRestriction → Json
  | none => .object []
  | some (.l3Firewall f) => .object [("l3Firewall", f.json)]
  | some (.webApplicationFirewall f) => .object [("webApplicationFirewall", f.json)]

/-- A resource with access restrictions: a network interface or a load balancer. The message of
the restriction may be missing, and so may what it restricts the access by. -/
structure RestrictedResource where
  types : List String
  accessRestriction : Option (Option AccessRestriction)
  others : List (String × Json)

def networkInterface (restriction : Option (Option AccessRestriction))
    (others : List (String × Json)) : RestrictedResource where
  types := ["NetworkInterface", "Networking", "CloudResource", "Resource"]
  accessRestriction := restriction
  others := others

def loadBalancer (restriction : Option (Option AccessRestriction))
    (others : List (String × Json)) : RestrictedResource where
  types := ["LoadBalancer", "NetworkService", "Networking", "CloudResource", "Resource"]
  accessRestriction := restriction
  others := others

def RestrictedResource.input (r : RestrictedResource) : Json :=
  resourceMap (("accessRestriction", match r.accessRestriction with
    | none => .null
    | some restriction => accessRestrictionJson restriction) :: r.others) r.types

/-- The flag as the policies look for it. -/
def restrictionEnabled (input : Json) : Option Json :=
  (input.field "accessRestriction").bind (Json.field "enabled")

/-- The policies of the two metrics differ in the type of the resource. -/
def firewallEnabled (resourceType : String) : Policy where
  applicable env :=
    (match restrictionEnabled env.input with
    | none => false
    | some enabled => !enabled.eqv .null) &&
    compareDefined "isIn" (some (.string resourceType)) (env.input.field "type")
  compliant env :=
    compareDefined env.operator (some env.targetValue) (restrictionEnabled env.input)

def l3FirewallEnabled : Policy := firewallEnabled "NetworkInterface"

def webApplicationFirewallEnabled : Policy := firewallEnabled "LoadBalancer"

/-- The metric applies to the resource and compares the flag of its firewall with the target. -/
def ChecksFirewall (p : Policy) (r : RestrictedResource) (enabled target : Bool) (now : ℤ) :
    Prop :=
  ∃ verdict, p.judge ⟨"==", .bool target, r.input, now⟩ = some verdict ∧
    (verdict = true ↔ enabled = target)

/-- With a flag in the place where the policies look for it, they would check it. -/
theorem firewallEnabled_flag (resourceType : String) (input : Json) (types : List String)
    (enabled target : Bool) (now : ℤ) (htypes : resourceType ∈ types)
    (hinput : input.field "type" = some (.array (types.map .string)))
    (hflag : restrictionEnabled input = some (.bool enabled)) :
    (firewallEnabled resourceType).judge ⟨"==", .bool target, input, now⟩ =
      some (decide (target = enabled)) := by
  have hin : isIn (.string resourceType) (.array (types.map .string)) = true := by
    simp [isIn, Json.isString, Json.mem, Json.items, eqv_string, htypes]
  have hnull : (Json.bool enabled).eqv .null = false := by
    cases enabled <;> rfl
  have heq : (Json.bool target).eqv (.bool enabled) = decide (target = enabled) := by
    rw [Bool.eq_iff_iff, eqv_bool, decide_eq_true_iff]
  simp [Policy.judge, firewallEnabled, hflag, hinput, compareDefined, compareRule, hin, hnull, heq]

/-- The object of an access restriction has no flag of its own, whatever it restricts by. -/
theorem restrictionEnabled_none (r : RestrictedResource) : restrictionEnabled r.input = none := by
  rw [restrictionEnabled, RestrictedResource.input, field_resourceMap _ _ _ (by decide)]
  rcases r.accessRestriction with _ | (_ | (_ | _)) <;> rfl

theorem firewallEnabled_judge (resourceType : String) (r : RestrictedResource) (operator : String)
    (target : Json) (now : ℤ) :
    (firewallEnabled resourceType).judge ⟨operator, target, r.input, now⟩ = none := by
  simp [Policy.judge, firewallEnabled, restrictionEnabled_none]

/-- The metrics about firewalls never have a verdict on a firewall. -/
theorem firewall_metrics_never_apply (others : List (String × Json)) (target : Bool) (now : ℤ) :
    (∀ f : L3Firewall, ¬ ChecksFirewall l3FirewallEnabled
      (networkInterface (some (some (.l3Firewall f))) others) f.enabled target now) ∧
    (∀ f : WebApplicationFirewall, ¬ ChecksFirewall webApplicationFirewallEnabled
      (loadBalancer (some (some (.webApplicationFirewall f))) others) f.enabled target now) := by
  refine ⟨fun f => ?_, fun f => ?_⟩
  · intro ⟨verdict,hjudge,_⟩
    rw [l3FirewallEnabled, firewallEnabled_judge] at hjudge
    cases hjudge
  · intro ⟨verdict,hjudge,_⟩
    rw [webApplicationFirewallEnabled, firewallEnabled_judge] at hjudge
    cases hjudge

/-- A network interface behind an enabled firewall has no verdict. -/
theorem enabled_firewall_without_verdict :
    l3FirewallEnabled.judge ⟨"==", .bool true,
        (networkInterface (some (some (.l3Firewall ⟨true, true, "22"⟩))) []).input, 0⟩ = none ∧
      ¬ ChecksFirewall l3FirewallEnabled
        (networkInterface (some (some (.l3Firewall ⟨true, true, "22"⟩))) []) true true 0 := by
  have hnone := firewallEnabled_judge "NetworkInterface"
    (networkInterface (some (some (.l3Firewall ⟨true, true, "22"⟩))) []) "==" (.bool true) 0
  refine ⟨hnone, ?_⟩
  intro ⟨verdict,hjudge,_⟩
  rw [l3FirewallEnabled, hnone] at hjudge
  cases hjudge

end Firewalls
end Clouditor
