import Clouditor.RegoValues
import Mathlib.Data.List.Basic

/-! How JSON values are decoded into the fields of a struct: keys are compared up to case, a field
is set once for each of its keys, `null` leaves it as it is, and a value of another type is an
error wherever it stands. -/
namespace StructDecoding
set_option autoImplicit false

open Rego

abbrev Fields := List (String × Json)

/-- The letter that stands for all letters it is folded with. Besides the two cases of a letter
these are the long s and the Kelvin sign, as far as names of letters from ASCII go. -/
def foldRune (c : Char) : Char :=
  if c = '\u017f' then 'S' else if c = '\u212a' then 'K' else c.toUpper

def foldName (name : String) : List Char := name.toList.map foldRune

/-- The values for the field of a struct, in the order in which they are decoded. -/
def valuesOf (name : String) (fields : Fields) : List Json :=
  (fields.filter (fun field => foldName field.1 = foldName name)).map Prod.snd

def isNull : Json → Bool
  | .null => true
  | _ => false

def readString : Json → Option String
  | .string s => some s
  | _ => none

def readBool : Json → Option Bool
  | .bool b => some b
  | _ => none

/-- An object in a place for a struct. Nothing is set by `null`. -/
def readObject : Json → Option Fields
  | .object fields => some fields
  | .null => some []
  | _ => none

section Fields
variable {α : Type} (read : Json → Option α)

/-- The values that set a field. -/
def setting (values : List Json) : List Json := values.filter (fun v => !isNull v)

/-- Decode the values of a field, one over the other. -/
def decodeField (old : α) (values : List Json) : Option α :=
  (setting values).foldlM (fun _ v => read v) old

theorem foldlM_read_eq_some_iff (values : List Json) (old x : α) :
    values.foldlM (fun _ v => read v) old = some x ↔
      (∀ v ∈ values, (read v).isSome = true) ∧ (values.getLast?.bind read).getD old = x := by
  induction values generalizing old with
  | nil => simp
  | cons v values ih =>
    rw [List.foldlM_cons]
    cases hv : read v with
    | none => simp [hv]
    | some y =>
      simp only [Option.bind_eq_bind, Option.bind_some, ih y, List.forall_mem_cons, hv,
        Option.isSome_some, true_and]
      apply and_congr_right
      intro hall
      cases hlast : values.getLast? with
      | none => simp [List.getLast?_eq_none_iff.mp hlast, hv]
      | some w =>
        have hw := hall w (List.mem_of_getLast? hlast)
        obtain ⟨z,hz⟩ := Option.isSome_iff_exists.mp hw
        simp [List.getLast?_cons, hlast, hz]

/-- What a field holds in the end is its last value, if all were of its type. -/
theorem decodeField_eq_some_iff (old x : α) (values : List Json) :
    decodeField read old values = some x ↔
      (∀ v ∈ setting values, (read v).isSome = true) ∧
        ((setting values).getLast?.bind read).getD old = x :=
  foldlM_read_eq_some_iff read (setting values) old x

end Fields
end StructDecoding
