import Mathlib.Algebra.Order.Ring.Rat
import Mathlib.Data.String.Basic

/-! The values of Rego policies: JSON values with a total order across all types. What is
undefined is a missing value. -/
namespace Rego
set_option autoImplicit false

/-- The fields of an object are in the order of their keys where that is compared. -/
inductive Json where
  | null
  | bool (b : Bool)
  | number (q : ℚ)
  | string (s : String)
  | array (items : List Json)
  | object (fields : List (String × Json))

/-- Values of different types are ordered by their types. -/
def Json.typeRank : Json → ℕ
  | .null => 0
  | .bool _ => 1
  | .number _ => 2
  | .string _ => 3
  | .array _ => 4
  | .object _ => 5

mutual
def Json.cmp : Json → Json → Ordering
  | .bool a, .bool b => compare a b
  | .number a, .number b => compare a b
  | .string a, .string b => compare a b
  | .array items, .array items' => cmpItems items items'
  | .object fields, .object fields' => cmpFields fields fields'
  | a, b => compare a.typeRank b.typeRank
def cmpItems : List Json → List Json → Ordering
  | [], [] => .eq
  | [], _ :: _ => .lt
  | _ :: _, [] => .gt
  | a :: items, b :: items' => (a.cmp b).then (cmpItems items items')
def cmpFields : List (String × Json) → List (String × Json) → Ordering
  | [], [] => .eq
  | [], _ :: _ => .lt
  | _ :: _, [] => .gt
  | (k, a) :: fields, (k', b) :: fields' =>
    (compare k k').then ((a.cmp b).then (cmpFields fields fields'))
end

/-- The operator `==`. -/
def Json.eqv (a b : Json) : Bool := a.cmp b == .eq

def Json.isString : Json → Bool
  | .string _ => true
  | _ => false

/-- The value at a key, undefined for what is not an object or lacks the key. -/
def Json.field (key : String) : Json → Option Json
  | .object fields => fields.lookup key
  | _ => none

/-- The values that `x[_]` goes through. -/
def Json.items : Json → List Json
  | .array items => items
  | .object fields => fields.map Prod.snd
  | _ => []

/-- The operator `in`. -/
def Json.mem (a b : Json) : Bool := b.items.any a.eqv

/-- A value as a condition in the body of a rule. -/
def holds : Option Json → Bool
  | none => false
  | some (.bool b) => b
  | some _ => true

@[simp] theorem cmp_bool (a b : Bool) : (Json.bool a).cmp (.bool b) = compare a b := by
  rw [Json.cmp]

@[simp] theorem cmp_number (a b : ℚ) : (Json.number a).cmp (.number b) = compare a b := by
  rw [Json.cmp]

@[simp] theorem cmp_string (a b : String) : (Json.string a).cmp (.string b) = compare a b := by
  rw [Json.cmp]

/-- Every string comes after every number. -/
@[simp] theorem cmp_string_number (s : String) (q : ℚ) :
    (Json.string s).cmp (.number q) = .gt := by
  rw [Json.cmp]
  · rfl
  all_goals simp

theorem isGE_compare {α : Type} [LinearOrder α] (a b : α) :
    (compare a b).isGE = decide (b ≤ a) := by
  rcases lt_trichotomy a b with h | h | h
  · rw [compare_lt_iff_lt.mpr h]
    simp [h]
  · rw [compare_eq_iff_eq.mpr h]
    simp [h]
  · rw [compare_gt_iff_gt.mpr h]
    simp [h.le]

theorem isLE_compare {α : Type} [LinearOrder α] (a b : α) :
    (compare a b).isLE = decide (a ≤ b) := by
  rw [← isGE_compare b a, ← Std.OrientedCmp.isGE_eq_isLE]

theorem eqv_bool (a b : Bool) : (Json.bool a).eqv (.bool b) = true ↔ a = b := by
  simp [Json.eqv]

theorem eqv_string (a b : String) : (Json.string a).eqv (.string b) = true ↔ a = b := by
  simp [Json.eqv]

-- The recursion is the one of `cmp`: into the items of an array and the fields of an object.
mutual
theorem cmp_eq_iff (a b : Json) : a.cmp b = .eq ↔ a = b := by
  cases a with
  | array items =>
    cases b with
    | array items' =>
      rw [Json.cmp, cmpItems_eq_iff items items', Json.array.injEq]
    | _ => simp [Json.cmp, Json.typeRank]
  | object fields =>
    cases b with
    | object fields' =>
      rw [Json.cmp, cmpFields_eq_iff fields fields', Json.object.injEq]
    | _ => simp [Json.cmp, Json.typeRank]
  | _ => cases b <;> simp [Json.cmp, Json.typeRank]
theorem cmpItems_eq_iff (items items' : List Json) :
    cmpItems items items' = .eq ↔ items = items' := by
  cases items with
  | nil => cases items' <;> simp [cmpItems]
  | cons a items =>
    cases items' with
    | nil => simp [cmpItems]
    | cons b items' =>
      rw [cmpItems, Ordering.then_eq_eq, cmp_eq_iff a b, cmpItems_eq_iff items items',
        List.cons.injEq]
theorem cmpFields_eq_iff (fields fields' : List (String × Json)) :
    cmpFields fields fields' = .eq ↔ fields = fields' := by
  cases fields with
  | nil => cases fields' <;> simp [cmpFields]
  | cons field fields =>
    cases fields' with
    | nil => simp [cmpFields]
    | cons field' fields' =>
      obtain ⟨k,a⟩ := field
      obtain ⟨k',b⟩ := field'
      rw [cmpFields, Ordering.then_eq_eq, Ordering.then_eq_eq, compare_eq_iff_eq, cmp_eq_iff a b,
        cmpFields_eq_iff fields fields', List.cons.injEq, Prod.mk.injEq, and_assoc]
end

/-- Values are equal for a policy just when they are the same. -/
theorem eqv_iff (a b : Json) : a.eqv b = true ↔ a = b := by
  rw [Json.eqv, beq_iff_eq, cmp_eq_iff]

theorem mem_array (a : Json) (items : List Json) : a.mem (.array items) = true ↔ a ∈ items := by
  simp only [Json.mem, Json.items, List.any_eq_true, eqv_iff, exists_eq_right']

end Rego
