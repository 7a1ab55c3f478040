import Clouditor.MetricPolicies
import Mathlib.Tactic.Linarith
import Mathlib.Tactic.Ring

/-! The metrics that compare times with a number of days: the retention periods of logs and the
last activity of an identity. -/
namespace Clouditor
set_option autoImplicit false

open Rego

/-- The number fits into 64 bits. -/
def Fits64 (n : ℤ) : Prop := -2 ^ 63 ≤ n ∧ n < 2 ^ 63

instance : DecidablePred Fits64 := fun n => inferInstanceAs (Decidable (-2 ^ 63 ≤ n ∧ n < 2 ^ 63))

/-- How durations and timestamps in nanoseconds are written in JSON, and how the builtins of the
policies read them: as integers of 64 bits, and not at all if they do not fit. -/
structure TimeTexts where
  durationText : ℕ → String
  parseDurationNs : String → Option ℤ
  parse_durationText : ∀ d : ℕ,
    parseDurationNs (durationText d) = if Fits64 d then some (d : ℤ) else none
  timestampText : ℤ → String
  parseRFC3339Ns : String → Option ℤ
  parse_timestampText : ∀ t : ℤ,
    parseRFC3339Ns (timestampText t) = if Fits64 t then some t else none

def decimalText (n : ℤ) : String :=
  String.ofList (if n < 0 then '-' :: Nat.toDigits 10 n.natAbs else Nat.toDigits 10 n.natAbs)

def decimalValue (s : String) : ℤ :=
  match s.toList with
  | '-' :: digits => -Nat.ofDigitChars 10 digits 0
  | digits => Nat.ofDigitChars 10 digits 0

theorem decimalValue_text (n : ℤ) : decimalValue (decimalText n) = n := by
  unfold decimalValue decimalText
  rw [String.toList_ofList]
  by_cases hn : n < 0
  · rw [if_pos hn]
    simp only [Nat.ofDigitChars_ten_toDigits]
    omega
  · rw [if_neg hn]
    split
    · rename_i digits heq
      have hdash : '-' ∈ Nat.toDigits 10 n.natAbs := by simp [heq]
      exact absurd (Nat.isDigit_of_mem_toDigits (by decide) (by decide) hdash) (by decide)
    · rw [Nat.ofDigitChars_ten_toDigits]
      omega

def parseDecimal (s : String) : Option ℤ :=
  if Fits64 (decimalValue s) then some (decimalValue s) else none

theorem parseDecimal_text (n : ℤ) :
    parseDecimal (decimalText n) = if Fits64 n then some n else none := by
  rw [parseDecimal, decimalValue_text]

/-- Times that are written as a number of nanoseconds. -/
def decimalTexts : TimeTexts where
  durationText d := decimalText d
  parseDurationNs := parseDecimal
  parse_durationText d := parseDecimal_text d
  timestampText := decimalText
  parseRFC3339Ns := parseDecimal
  parse_timestampText := parseDecimal_text

def nsPerHour : ℕ := 3600 * 1000 * 1000 * 1000

def nsPerDay : ℕ := 24 * nsPerHour

section Retention

/-- The messages for the logging of the boot process and of the operating system. -/
structure Logging where
  enabled : Bool
  monitoringEnabled : Bool
  retentionPeriod : Option ℕ
  securityAlertsEnabled : Bool
  loggingServiceIds : List String

structure VirtualMachine where
  bootLogging : Option Logging
  osLogging : Option Logging
  others : List (String × Json)

variable (texts : TimeTexts)

/-- A message that is not set is written as null. -/
def Logging.json : Option Logging → Json
  | none => .null
  | some l => .object [("enabled", .bool l.enabled),
      ("monitoringEnabled", .bool l.monitoringEnabled),
      ("retentionPeriod", match l.retentionPeriod with
        | none => .null
        | some d => .string (texts.durationText d)),
      ("securityAlertsEnabled", .bool l.securityAlertsEnabled),
      ("loggingServiceIds", .array (l.loggingServiceIds.map .string))]

def VirtualMachine.input (vm : VirtualMachine) : Json :=
  resourceMap (("bootLogging", Logging.json texts vm.bootLogging) ::
    ("osLogging", Logging.json texts vm.osLogging) :: vm.others)
    ["VirtualMachine", "Compute", "CloudResource", "Resource"]

/-- The policies of the two metrics differ in the field of the resource. -/
def loggingRetention (field : String) : Policy where
  applicable env := holds (env.input.field field)
  compliant env :=
    match (env.input.field field).bind (Json.field "retentionPeriod") with
    | some (.string period) =>
      match texts.parseDurationNs period with
      | none => false
      | some ns =>
        -- these are hours
        let days : ℚ := ns / (((1000 * 1000) * 1000) * 3600)
        compareRule env.operator env.targetValue (.number days)
    -- the builtin takes strings only
    | _ => false

def bootLoggingRetention : Policy := loggingRetention texts "bootLogging"

def osLoggingRetention : Policy := loggingRetention texts "osLogging"

/-- The metric asks for a period of at least `t` days. -/
def ChecksRetention (p : Policy) (input : Json) (period : ℕ) (t : ℚ) (now : ℤ) : Prop :=
  p.judge ⟨">=", .number t, input, now⟩ = some true ↔ t * nsPerDay ≤ period

/-- The period is not between `t` hours and `t` days. If it does not fit into 64 bits, it is
shorter than `t` days. -/
def RetentionApart (period : ℕ) (t : ℚ) : Prop :=
  if Fits64 period then ¬(t * nsPerHour ≤ period ∧ period < t * nsPerDay)
  else period < t * nsPerDay

/-- The policies count the hours of the period. -/
theorem loggingRetention_judge (field : String) (input : Json) (l : Logging) (period : ℕ) (t : ℚ)
    (now : ℤ) (hinput : input.field field =
      some (Logging.json texts (some { l with retentionPeriod := some period }))) :
    (loggingRetention texts field).judge ⟨">=", .number t, input, now⟩ =
      some (decide (Fits64 period ∧ t * nsPerHour ≤ period)) := by
  have hperiod : (Logging.json texts (some { l with retentionPeriod := some period })).field
      "retentionPeriod" = some (.string (texts.durationText period)) := rfl
  have happ : (loggingRetention texts field).applicable ⟨">=", .number t, input, now⟩ = true := by
    simp only [loggingRetention, hinput]
    rfl
  rw [Policy.judge, if_pos happ]
  simp only [loggingRetention, hinput, Option.bind_some, hperiod]
  rw [texts.parse_durationText]
  by_cases hfits : Fits64 period
  · have hdays : t ≤ (period : ℚ) / (1000 * 1000 * 1000 * 3600) ↔ t * nsPerHour ≤ period := by
      rw [le_div_iff₀ (by norm_num)]
      norm_num [nsPerHour]
    rw [if_pos hfits]
    simp only [compareRule_ge, cmp_number, isGE_compare, Int.cast_natCast, hdays, hfits, true_and]
  · rw [if_neg hfits]
    simp only [hfits, false_and, decide_false]

theorem checksRetention_iff (field : String) (input : Json) (l : Logging) (period : ℕ) (t : ℚ)
    (now : ℤ) (hinput : input.field field =
      some (Logging.json texts (some { l with retentionPeriod := some period }))) :
    ChecksRetention (loggingRetention texts field) input period t now ↔
      RetentionApart period t := by
  -- days are longer than hours, and negative ones are over anyway
  have hlonger (h : t * nsPerDay ≤ period) : t * nsPerHour ≤ period := by
    have hday : (nsPerDay : ℚ) = 24 * nsPerHour := by norm_num [nsPerDay]
    have hhour : (0 : ℚ) ≤ nsPerHour := Nat.cast_nonneg _
    have hperiod : (0 : ℚ) ≤ period := Nat.cast_nonneg _
    rcases le_total 0 t with ht | ht
    · have hpos := mul_nonneg ht hhour
      rw [hday] at h
      linarith
    · have hneg := mul_nonpos_of_nonpos_of_nonneg ht hhour
      linarith
  rw [ChecksRetention, loggingRetention_judge texts field input l period t now hinput,
    Option.some.injEq, decide_eq_true_iff, RetentionApart]
  by_cases hfits : Fits64 period
  · simp only [hfits, true_and, if_true, not_and, not_lt]
    exact ⟨fun h => h.mp, fun h => ⟨h, hlonger⟩⟩
  · simp only [hfits, false_and, false_iff, not_le, if_false]

/-- The metrics check the retention period in days exactly if that makes no difference to hours
and the period can be read. -/
theorem retention_metrics_iff (vm : VirtualMachine) (l : Logging) (period : ℕ) (t : ℚ) (now : ℤ) :
    (ChecksRetention (bootLoggingRetention texts)
      ({ vm with bootLogging := some { l with retentionPeriod := some period } }.input texts)
      period t now ↔ RetentionApart period t) ∧
    (ChecksRetention (osLoggingRetention texts)
      ({ vm with osLogging := some { l with retentionPeriod := some period } }.input texts)
      period t now ↔ RetentionApart period t) := by
  constructor
  · apply checksRetention_iff texts "bootLogging" _ l
    rw [VirtualMachine.input, field_resourceMap _ _ _ (by decide)]
    rfl
  · apply checksRetention_iff texts "osLogging" _ l
    rw [VirtualMachine.input, field_resourceMap _ _ _ (by decide)]
    rfl

/-- Logs that are kept for two days are compliant if 35 days are asked for. -/
theorem two_days_pass_for_35 :
    (bootLoggingRetention decimalTexts).judge ⟨">=", .number 35,
        VirtualMachine.input decimalTexts
          ⟨some ⟨true, true, some (2 * nsPerDay), false, []⟩, none, []⟩, 0⟩ = some true ∧
      ¬ ChecksRetention (bootLoggingRetention decimalTexts)
        (VirtualMachine.input decimalTexts
          ⟨some ⟨true, true, some (2 * nsPerDay), false, []⟩, none, []⟩) (2 * nsPerDay) 35 0 := by
  have hjudge := loggingRetention_judge decimalTexts "bootLogging" (VirtualMachine.input
    decimalTexts ⟨some ⟨true, true, some (2 * nsPerDay), false, []⟩, none, []⟩)
    ⟨true, true, none, false, []⟩ (2 * nsPerDay) 35 0 rfl
  have hcompliant : Fits64 (2 * nsPerDay : ℕ) ∧ (35 : ℚ) * nsPerHour ≤ (2 * nsPerDay : ℕ) := by
    constructor
    · decide
    · norm_num [nsPerDay, nsPerHour]
  rw [decide_eq_true hcompliant] at hjudge
  refine ⟨hjudge, fun hchecks => ?_⟩
  have hdays := hchecks.mp hjudge
  norm_num [nsPerDay, nsPerHour] at hdays

end Retention

section Activity

structure Identity where
  privileged : Bool
  activated : Bool
  lastActivity : Option ℤ
  others : List (String × Json)

variable (texts : TimeTexts)

def Identity.input (i : Identity) : Json :=
  resourceMap (("privileged", .bool i.privileged) :: ("activated", .bool i.activated) ::
    ("lastActivity", match i.lastActivity with
      | none => .null
      | some t => .string (texts.timestampText t)) :: i.others)
    ["Identity", "Identifiable", "CloudResource", "Resource"]

def identityRecentActivity : Policy where
  applicable env := holds (env.input.field "privileged") && holds (env.input.field "activated")
  compliant env :=
    match env.input.field "lastActivity", env.targetValue with
    | some (.string activity), .number days =>
      match texts.parseRFC3339Ns activity with
      | none => false
      | some ts =>
        let window : ℚ := ((((days * 24) * 3600) * 1000) * 1000) * 1000
        -- the age is passed as the target value, and the window as the actual one
        compareRule env.operator (.number (env.now - ts)) (.number window)
    | _, _ => false

/-- A privileged and activated identity that was last active `age` nanoseconds ago. -/
def Identity.active (i : Identity) (now : ℤ) (age : ℕ) : Identity :=
  { i with privileged := true, activated := true, lastActivity := some (now - age) }

def JudgedActive (i : Identity) (now : ℤ) (age : ℕ) (days : ℚ) : Prop :=
  (identityRecentActivity texts).judge
    ⟨"<=", .number days, (i.active now age).input texts, now⟩ = some true

/-- The metric asks for an activity in the last days, and a more recent one is as good. -/
def ChecksActivity (i : Identity) (now : ℤ) (age : ℕ) (days : ℚ) : Prop :=
  (JudgedActive texts i now age days ↔ age ≤ days * nsPerDay) ∧
    ∀ age' ≤ age, JudgedActive texts i now age days → JudgedActive texts i now age' days

/-- The policy asks for an activity that is long ago. -/
theorem judgedActive_iff (i : Identity) (now : ℤ) (age : ℕ) (days : ℚ) :
    JudgedActive texts i now age days ↔ Fits64 (now - age) ∧ days * nsPerDay ≤ age := by
  have hfield (key : String) (hkey : key ≠ "type") :
      ((i.active now age).input texts).field key = _ := field_resourceMap _ _ key hkey
  have happ : (identityRecentActivity texts).applicable
      ⟨"<=", .number days, (i.active now age).input texts, now⟩ = true := by
    simp only [identityRecentActivity, hfield _ (by decide : "privileged" ≠ "type"),
      hfield _ (by decide : "activated" ≠ "type")]
    rfl
  have hactivity : ((i.active now age).input texts).field "lastActivity" =
      some (.string (texts.timestampText (now - age))) := hfield _ (by decide)
  have hwindow : days * 24 * 3600 * 1000 * 1000 * 1000 = days * nsPerDay := by
    norm_num [nsPerDay, nsPerHour]
    ring
  rw [JudgedActive, Policy.judge, if_pos happ, Option.some.injEq]
  simp only [identityRecentActivity, hactivity, texts.parse_timestampText]
  by_cases hfits : Fits64 (now - age)
  · rw [if_pos hfits]
    simp only [compareRule_le, cmp_number, isLE_compare, decide_eq_true_iff, hwindow, hfits,
      true_and]
    norm_num
  · rw [if_neg hfits]
    simp [hfits]

/-- The metric is right only about an identity that is active just now, if no day is allowed,
and about one that is inactive for so long that the time cannot be read. -/
theorem activity_metric_iff (i : Identity) (now : ℤ) (age : ℕ) (days : ℚ) :
    ChecksActivity texts i now age days ↔
      (Fits64 (now - age) ∧ age = 0 ∧ days = 0) ∨
        (¬ Fits64 (now - age) ∧ days * nsPerDay < age) := by
  have hday : (0 : ℚ) < nsPerDay := by norm_num [nsPerDay, nsPerHour]
  simp only [ChecksActivity, judgedActive_iff]
  by_cases hfits : Fits64 (now - age)
  · simp only [hfits, true_and, not_true, false_and, or_false]
    constructor
    · intro ⟨hexact,hrecent⟩
      have heq : days * nsPerDay = age := by
        rcases le_total (days * nsPerDay) age with h | h
        · exact le_antisymm h (hexact.mp h)
        · exact le_antisymm (hexact.mpr h) h
      -- a nanosecond later the identity would not be compliant any more
      have hzero : age = 0 := by
        by_contra hne
        have hlater := (hrecent (age - 1) (Nat.sub_le age 1) heq.le).2
        rw [heq, Nat.cast_sub (Nat.one_le_iff_ne_zero.mpr hne)] at hlater
        push_cast at hlater
        linarith
      refine ⟨hzero, ?_⟩
      rw [hzero, Nat.cast_zero] at heq
      exact (mul_eq_zero.mp heq).resolve_right hday.ne'
    · rintro ⟨rfl,rfl⟩
      refine ⟨by simp, fun age' hage _ => ?_⟩
      rw [Nat.le_zero.mp hage]
      exact ⟨hfits, by simp⟩
  · simp only [hfits, false_and, false_iff, not_le, not_false_iff, true_and, false_or,
      IsEmpty.forall_iff, implies_true, and_true]

/-- An administrator who is active right now is not compliant, but would be after 100 days of
absence. -/
theorem recent_activity_is_rejected :
    ¬ JudgedActive decimalTexts ⟨true, true, none, []⟩ 1700000000000000000 0 90 ∧
      JudgedActive decimalTexts ⟨true, true, none, []⟩ 1700000000000000000 (100 * nsPerDay) 90 ∧
      ¬ ChecksActivity decimalTexts ⟨true, true, none, []⟩ 1700000000000000000 0 90 := by
  have hnow : ¬ JudgedActive decimalTexts ⟨true, true, none, []⟩ 1700000000000000000 0 90 := by
    rw [judgedActive_iff]
    norm_num [nsPerDay, nsPerHour]
  refine ⟨hnow, ?_, fun hchecks => hnow (hchecks.1.mpr ?_)⟩
  · rw [judgedActive_iff]
    constructor
    · decide
    · norm_num [nsPerDay, nsPerHour]
  · norm_num [nsPerDay, nsPerHour]

end Activity
end Clouditor
