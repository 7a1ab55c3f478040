import Clouditor.AzureBackups
import Mathlib.RingTheory.Coprime.Lemmas
import Mathlib.Tactic.Ring

/-! The retention periods of backup policies, which are ISO 8601 durations, and what
`retentionDuration` makes of them. -/
namespace Clouditor
set_option autoImplicit false
open Paged

section Numerals

/-- A decimal numeral with an optional sign. -/
def IsNumeral (text : List Char) (v : ℤ) : Prop :=
  ∃ digits : List Char, digits ≠ [] ∧ digits.all Char.isDigit = true ∧
    (((text = digits ∨ text = '+' :: digits) ∧ v = Nat.ofDigitChars 10 digits 0) ∨
      (text = '-' :: digits ∧ v = -(Nat.ofDigitChars 10 digits 0 : ℤ)))

theorem foldl_digits (digits : List Char) (hdigits : digits.all Char.isDigit = true) (n : ℕ) :
    digits.foldl (fun n c => 10 * n + (c.toNat - '0'.toNat : ℤ)) (n : ℤ) =
      (Nat.ofDigitChars 10 digits n : ℤ) := by
  induction digits generalizing n with
  | nil => rfl
  | cons c cs ih =>
    simp only [List.all_cons, Bool.and_eq_true] at hdigits
    have hc : '0'.toNat ≤ c.toNat := by
      have hdigit := hdigits.1
      simp only [Char.isDigit, Bool.and_eq_true, decide_eq_true_eq] at hdigit
      exact hdigit.1
    have hvalue : 10 * (n : ℤ) + (c.toNat - '0'.toNat : ℤ) =
        ((10 * n + (c.toNat - '0'.toNat) : ℕ) : ℤ) := by
      omega
    rw [List.foldl_cons, hvalue, ih hdigits.2]
    rfl

/-- A numeral starts with a digit or with one of the signs. -/
theorem isNumeral_cons_iff (c : Char) (cs : List Char) (v : ℤ) :
    IsNumeral (c :: cs) v ↔
      (c.isDigit = true ∧ cs.all Char.isDigit = true ∧ v = Nat.ofDigitChars 10 (c :: cs) 0) ∨
      (c = '+' ∧ cs ≠ [] ∧ cs.all Char.isDigit = true ∧ v = Nat.ofDigitChars 10 cs 0) ∨
      (c = '-' ∧ cs ≠ [] ∧ cs.all Char.isDigit = true ∧
        v = -(Nat.ofDigitChars 10 cs 0 : ℤ)) := by
  constructor
  · intro ⟨digits, hne, hdigits, h⟩
    obtain ⟨htext | htext, hv⟩ | ⟨htext, hv⟩ := h
    · subst htext
      simp only [List.all_cons, Bool.and_eq_true] at hdigits
      exact .inl ⟨hdigits.1, hdigits.2, hv⟩
    · obtain ⟨rfl, rfl⟩ := List.cons.inj htext
      exact .inr (.inl ⟨rfl, hne, hdigits, hv⟩)
    · obtain ⟨rfl, rfl⟩ := List.cons.inj htext
      exact .inr (.inr ⟨rfl, hne, hdigits, hv⟩)
  · intro h
    obtain ⟨hc, hcs, hv⟩ | ⟨rfl, hne, hdigits, hv⟩ | ⟨rfl, hne, hdigits, hv⟩ := h
    · exact ⟨c :: cs, by simp, by simp [hc, hcs], .inl ⟨.inl rfl, hv⟩⟩
    · exact ⟨cs, hne, hdigits, .inl ⟨.inr rfl, hv⟩⟩
    · exact ⟨cs, hne, hdigits, .inr ⟨rfl, hv⟩⟩

/-- The digits behind the sign. -/
theorem digits_eq_some_iff (digits : List Char) (v : ℤ) :
    (if digits ≠ [] ∧ digits.all Char.isDigit then
        some (digits.foldl (fun n c => 10 * n + (c.toNat - '0'.toNat : ℤ)) 0) else none) = some v ↔
      digits ≠ [] ∧ digits.all Char.isDigit = true ∧ v = Nat.ofDigitChars 10 digits 0 := by
  split
  · rename_i h
    have hfold := foldl_digits digits h.2 0
    rw [Nat.cast_zero] at hfold
    rw [hfold, Option.some.injEq, eq_comm]
    tauto
  · rename_i h
    simp only [reduceCtorEq, false_iff]
    tauto

theorem atoi_eq_some_iff (text : List Char) (v : ℤ) :
    atoi text = some v ↔ IsNumeral text v ∧ -2 ^ 63 ≤ v ∧ v < 2 ^ 63 := by
  unfold atoi
  rw [Option.filter_eq_some_iff, decide_eq_true_eq]
  apply and_congr_left
  intro _
  cases text with
  | nil => simp [IsNumeral]
  | cons c cs =>
    rw [isNumeral_cons_iff]
    split
    · rename_i digits heq
      obtain ⟨rfl, rfl⟩ := List.cons.inj heq
      rw [Option.map_eq_some_iff]
      constructor
      · intro ⟨n, hnumeral, hv⟩
        obtain ⟨hne, hdigits, hn⟩ := (digits_eq_some_iff _ _).mp hnumeral
        exact .inr (.inr ⟨rfl, hne, hdigits, by rw [← hv, hn]⟩)
      · intro h
        obtain ⟨h, _⟩ | ⟨h, _⟩ | ⟨_, hne, hdigits, hv⟩ := h
        · exact absurd h (by decide)
        · exact absurd h (by decide)
        · exact ⟨_, (digits_eq_some_iff _ _).mpr ⟨hne, hdigits, rfl⟩, hv.symm⟩
    · rename_i digits heq
      obtain ⟨rfl, rfl⟩ := List.cons.inj heq
      rw [digits_eq_some_iff]
      constructor
      · exact fun h => .inr (.inl ⟨rfl, h⟩)
      · intro h
        obtain ⟨h, _⟩ | ⟨_, h⟩ | ⟨h, _⟩ := h
        · exact absurd h (by decide)
        · exact h
        · exact absurd h (by decide)
    · rename_i hnotMinus hnotPlus
      rw [digits_eq_some_iff, List.all_cons, Bool.and_eq_true, and_assoc]
      constructor
      · exact fun h => .inl h.2
      · intro h
        obtain h | ⟨h, _⟩ | ⟨h, _⟩ := h
        · exact ⟨by simp, h⟩
        · exact absurd (congrArg (· :: cs) h) (hnotPlus cs)
        · exact absurd (congrArg (· :: cs) h) (hnotMinus cs)

end Numerals

section Wrapping

/-- The nanoseconds of a day. -/
def dayNanoseconds : ℤ := 24 * 3600 * 10 ^ 9

theorem wrapped_le {x : ℤ} (hx : 0 ≤ x) : x.bmod (2 ^ 64) ≤ x := by
  rw [Int.bmod_def]
  split <;> omega

theorem wrapped_eq_self_iff {x : ℤ} (hx : 0 ≤ x) : x.bmod (2 ^ 64) = x ↔ x < 2 ^ 63 := by
  rw [Int.bmod_def]
  split <;> omega

/-- The product of a number of days wraps to zero when the number has 48 trailing zero bits, as
the nanoseconds of a day have 16. -/
theorem wrapped_days_eq_zero_iff (v : ℤ) :
    (v * dayNanoseconds).bmod (2 ^ 64) = 0 ↔ (2 ^ 48 : ℤ) ∣ v := by
  have hday : v * dayNanoseconds = 2 ^ 16 * (v * 1318359375) := by
    rw [dayNanoseconds]
    ring
  have hmodulus : ((2 ^ 64 : ℕ) : ℤ) = 2 ^ 16 * 2 ^ 48 := by norm_num
  have hcoprime : IsCoprime (2 ^ 48 : ℤ) 1318359375 := by
    apply IsCoprime.pow_left
    rw [Int.isCoprime_iff_gcd_eq_one]
    decide
  rw [← Int.dvd_iff_bmod_eq_zero, hday, hmodulus, Int.mul_dvd_mul_iff_left (by norm_num)]
  constructor
  · exact hcoprime.dvd_of_dvd_mul_right
  · exact fun h => h.mul_right _

end Wrapping

section Periods

inductive PeriodUnit where
  | day
  | week
  | month
  | year
  deriving DecidableEq

def PeriodUnit.letter : PeriodUnit → Char
  | .day => 'D'
  | .week => 'W'
  | .month => 'M'
  | .year => 'Y'

/-- The days that the unit has at least. -/
def PeriodUnit.least : PeriodUnit → ℤ
  | .day => 1
  | .week => 7
  | .month => 28
  | .year => 365

/-- The days that the unit has at most. -/
def PeriodUnit.most : PeriodUnit → ℤ
  | .day => 1
  | .week => 7
  | .month => 31
  | .year => 366

/-- At most 10000 years, which a `durationpb.Duration` counts as 3652500 days. -/
def PeriodUnit.within (unit : PeriodUnit) (n : ℕ) : Prop :=
  match unit with
  | .day => n ≤ 3652500
  | .week => 7 * n ≤ 3652500
  | .month => n ≤ 12 * 10000
  | .year => n ≤ 10000

/-- The period of `n` units, such as `P30D`. -/
def IsPeriod (s : String) (n : ℕ) (unit : PeriodUnit) : Prop :=
  ∃ digits : List Char, digits ≠ [] ∧ digits.all Char.isDigit = true ∧
    n = Nat.ofDigitChars 10 digits 0 ∧ s.toList = 'P' :: (digits ++ [unit.letter])

/-- What is made of a text by its first character, its last one and what is between them. -/
theorem retentionDuration_ends {s : String} {first last : Char} {inner : List Char}
    (h : s.toList = first :: (inner ++ [last])) :
    retentionDuration s = .ok (if first.toNat < 128 ∧ last.toNat < 128 then
      ((atoi inner).getD 0 * dayNanoseconds).bmod (2 ^ 64) else 0) := by
  rw [retentionDuration, h]
  cases hrest : inner ++ [last] with
  | nil => simp at hrest
  | cons c cs =>
    have hlast : (c :: cs).getLastD first = last := by simp [← hrest]
    have hinner : (c :: cs).dropLast = inner := by simp [← hrest]
    simp only [hlast, hinner, dayNanoseconds]
    split <;> rfl

theorem retentionDuration_period {s : String} {n : ℕ} {unit : PeriodUnit}
    (h : IsPeriod s n unit) (hn : unit.within n) :
    retentionDuration s = .ok ((n * dayNanoseconds).bmod (2 ^ 64)) := by
  obtain ⟨digits, hne, hdigits, rfl, hs⟩ := h
  have hbound : Nat.ofDigitChars 10 digits 0 ≤ 3652500 := by
    cases unit <;> simp only [PeriodUnit.within] at hn <;> omega
  have hatoi : atoi digits = some (Nat.ofDigitChars 10 digits 0 : ℤ) :=
    (atoi_eq_some_iff digits _).mpr
      ⟨⟨digits, hne, hdigits, .inl ⟨.inl rfl, rfl⟩⟩, by omega, by omega⟩
  have hends : 'P'.toNat < 128 ∧ unit.letter.toNat < 128 := by cases unit <;> decide
  rw [retentionDuration_ends hs, if_pos hends, hatoi, Option.getD_some]

/-- The unit is dropped, so only days come out right, and only as long as their nanoseconds fit. -/
theorem period_bounds_iff (n : ℕ) (unit : PeriodUnit) :
    (unit.least * n * dayNanoseconds ≤ (n * dayNanoseconds).bmod (2 ^ 64) ∧
        (n * dayNanoseconds).bmod (2 ^ 64) ≤ unit.most * n * dayNanoseconds) ↔
      n = 0 ∨ (unit = .day ∧ n * dayNanoseconds < 2 ^ 63) := by
  have hday : dayNanoseconds = 86400000000000 := by decide
  have hpos : 0 ≤ n * dayNanoseconds := by rw [hday]; omega
  have hle := wrapped_le hpos
  have hself := wrapped_eq_self_iff hpos
  rw [hday] at hle hself hpos ⊢
  generalize (n * 86400000000000 : ℤ).bmod (2 ^ 64) = wrapped at *
  cases unit <;> simp only [PeriodUnit.least, PeriodUnit.most, reduceCtorEq, false_and, or_false,
    true_and] <;> omega

/-- Between two ASCII characters anything but a numeral gives zero. -/
theorem retentionDuration_zero_iff {s : String} {first last : Char} {inner : List Char}
    (h : s.toList = first :: (inner ++ [last])) :
    retentionDuration s = .ok 0 ↔ (first.toNat < 128 → last.toNat < 128 →
      ∀ v, IsNumeral inner v → -2 ^ 63 ≤ v → v < 2 ^ 63 → (2 ^ 48 : ℤ) ∣ v) := by
  have hnumerals : (∀ v, IsNumeral inner v → -2 ^ 63 ≤ v → v < 2 ^ 63 → (2 ^ 48 : ℤ) ∣ v) ↔
      (2 ^ 48 : ℤ) ∣ (atoi inner).getD 0 := by
    constructor
    · intro hall
      cases hatoi : atoi inner with
      | none => exact dvd_zero _
      | some v =>
        obtain ⟨hv, hlo, hhi⟩ := (atoi_eq_some_iff inner v).mp hatoi
        exact hall v hv hlo hhi
    · intro hdvd v hv hlo hhi
      rw [(atoi_eq_some_iff inner v).mpr ⟨hv, hlo, hhi⟩] at hdvd
      exact hdvd
  rw [retentionDuration_ends h, Except.ok.injEq, hnumerals, ← and_imp]
  split
  · rename_i hends
    rw [wrapped_days_eq_zero_iff]
    exact ⟨fun hdvd _ => hdvd, fun hdvd => hdvd hends⟩
  · rename_i hends
    exact ⟨fun _ hboth => absurd hboth hends, fun _ => rfl⟩

/-- Of the texts without two ends, a single byte faults. -/
theorem retentionDuration_short_iff {s : String} (hlength : s.toList.length ≤ 1) :
    retentionDuration s = .ok 0 ↔ ∀ c : Char, s.toList = [c] → 128 ≤ c.toNat := by
  unfold retentionDuration
  cases hs : s.toList with
  | nil => simp
  | cons c cs =>
    obtain rfl : cs = [] := by simpa [hs] using hlength
    by_cases hc : c.toNat < 128
    · simp [hc]
    · simp [hc, Nat.not_lt.mp hc]

theorem exists_ends {s : String} (hlength : ¬ s.toList.length ≤ 1) :
    ∃ first inner last, s.toList = first :: (inner ++ [last]) := by
  obtain ⟨first, rest, hrest⟩ := List.exists_cons_of_length_pos
    (show 0 < s.toList.length by omega)
  have hne : rest ≠ [] := by
    intro hnil
    simp [hrest, hnil] at hlength
  exact ⟨first, rest.dropLast, rest.getLast hne, by rw [List.dropLast_append_getLast, hrest]⟩

/-- A text is read as the duration it stands for, and without a fault, exactly under these
conditions: it is not a single byte; a period of at most 10000 years is zero or counts days whose
nanoseconds fit in an `int64`; and in a text of another form, what stands between two ASCII
characters is no `int64` numeral, or one whose product wraps to zero. -/
theorem retentionDuration_exact_iff (s : String) :
    (∃ d, retentionDuration s = .ok d ∧
        (∀ (n : ℕ) (unit : PeriodUnit), IsPeriod s n unit → unit.within n →
          unit.least * n * dayNanoseconds ≤ d ∧ d ≤ unit.most * n * dayNanoseconds) ∧
        ((∀ (n : ℕ) (unit : PeriodUnit), ¬ IsPeriod s n unit) → d = 0)) ↔
      (∀ c : Char, s.toList = [c] → 128 ≤ c.toNat) ∧
        (∀ (n : ℕ) (unit : PeriodUnit), IsPeriod s n unit → unit.within n →
          n = 0 ∨ (unit = .day ∧ n * dayNanoseconds < 2 ^ 63)) ∧
        ((∀ (n : ℕ) (unit : PeriodUnit), ¬ IsPeriod s n unit) →
          ∀ (first last : Char) (inner : List Char), s.toList = first :: (inner ++ [last]) →
            first.toNat < 128 → last.toNat < 128 →
              ∀ v, IsNumeral inner v → -2 ^ 63 ≤ v → v < 2 ^ 63 → (2 ^ 48 : ℤ) ∣ v) := by
  by_cases hlength : s.toList.length ≤ 1
  · have hshort (n : ℕ) (unit : PeriodUnit) : ¬ IsPeriod s n unit := by
      intro ⟨digits, hne, _, _, hs⟩
      simp [hs] at hlength
    have hends (first last : Char) (inner : List Char) : s.toList ≠ first :: (inner ++ [last]) := by
      intro hs
      simp [hs] at hlength
    rw [← retentionDuration_short_iff hlength]
    constructor
    · intro ⟨d, hd, _, hzero⟩
      refine ⟨by rw [hd, hzero hshort], ?_, ?_⟩
      · exact fun n unit hperiod => absurd hperiod (hshort n unit)
      · exact fun _ first last inner hs => absurd hs (hends first last inner)
    · intro ⟨hok, _, _⟩
      exact ⟨0, hok, fun n unit hperiod => absurd hperiod (hshort n unit), fun _ => rfl⟩
  · obtain ⟨first, inner, last, hs⟩ := exists_ends hlength
    have hsingle (c : Char) : s.toList ≠ [c] := by
      intro hc
      simp [hc] at hlength
    obtain ⟨d, hd⟩ : ∃ d, retentionDuration s = .ok d := ⟨_, retentionDuration_ends hs⟩
    -- the value for a period, and the one for any other text
    have hperiods (n : ℕ) (unit : PeriodUnit) (h : IsPeriod s n unit) (hn : unit.within n) :
        (unit.least * n * dayNanoseconds ≤ d ∧ d ≤ unit.most * n * dayNanoseconds) ↔
          n = 0 ∨ (unit = .day ∧ n * dayNanoseconds < 2 ^ 63) := by
      have hd' := hd.symm.trans (retentionDuration_period h hn)
      rw [Except.ok.inj hd', period_bounds_iff]
    have hzero : d = 0 ↔ ∀ (first last : Char) (inner : List Char),
        s.toList = first :: (inner ++ [last]) → first.toNat < 128 → last.toNat < 128 →
          ∀ v, IsNumeral inner v → -2 ^ 63 ≤ v → v < 2 ^ 63 → (2 ^ 48 : ℤ) ∣ v := by
      have hok : d = 0 ↔ retentionDuration s = .ok 0 := by rw [hd, Except.ok.injEq]
      rw [hok]
      constructor
      · exact fun hok first last inner hs => (retentionDuration_zero_iff hs).mp hok
      · exact fun hall => (retentionDuration_zero_iff hs).mpr (hall first last inner hs)
    constructor
    · intro ⟨d', hd', hbounds, hother⟩
      obtain rfl : d = d' := Except.ok.inj (hd.symm.trans hd')
      refine ⟨fun c hc => absurd hc (hsingle c), ?_, fun hnone => hzero.mp (hother hnone)⟩
      exact fun n unit h hn => (hperiods n unit h hn).mp (hbounds n unit h hn)
    · intro ⟨_, hfits, hother⟩
      refine ⟨d, hd, ?_, fun hnone => hzero.mpr (hother hnone)⟩
      exact fun n unit h hn => (hperiods n unit h hn).mpr (hfits n unit h hn)

/-- Two weeks are read as two days, 106752 days as a negative duration, a sign is accepted, and
a single letter ends the process. -/
theorem weeks_read_as_days :
    (IsPeriod "P2W" 2 .week ∧ PeriodUnit.week.within 2 ∧
        retentionDuration "P2W" = .ok (2 * dayNanoseconds)) ∧
      (IsPeriod "P106752D" 106752 .day ∧ PeriodUnit.day.within 106752 ∧
        retentionDuration "P106752D" = .ok (-9223371273709551616)) ∧
      retentionDuration "P-1D" = .ok (-dayNanoseconds) ∧
      retentionDuration "P" = .error .fault := by
  refine ⟨⟨⟨['2'], ?_⟩, ?_, ?_⟩, ⟨⟨"106752".toList, ?_⟩, ?_, ?_⟩, ?_, ?_⟩
  all_goals first | decide | (simp only [PeriodUnit.within]; omega)

end Periods
end Clouditor
