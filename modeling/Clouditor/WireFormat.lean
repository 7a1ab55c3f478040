import Mathlib.Algebra.Group.Nat.Defs
import Mathlib.Data.Nat.Init
import Mathlib.Tactic.SplitIfs

/-! The wire format of protocol buffers: variable length integers, and messages as sequences of
numbered fields, of which a reader can skip those that it does not know. -/
namespace Wire
set_option autoImplicit false

abbrev Bytes := List UInt8

section Varints

/-- Seven bits to a byte, the lowest first. All bytes but the last have the highest bit set. -/
def varint (v : ℕ) : Bytes :=
  if v < 128 then [UInt8.ofNat v] else UInt8.ofNat (v % 128 + 128) :: varint (v / 128)
termination_by v
decreasing_by omega

/-- The tenth byte is the last one, and has one bit of a 64 bit number left to give. -/
def consumeVarintAt : ℕ → Bytes → Option (ℕ × Bytes)
  | _, [] => none
  | i, b :: rest =>
    if i = 9 then (if b.toNat < 2 then some (b.toNat, rest) else none)
    else if b.toNat < 128 then some (b.toNat, rest)
    else (consumeVarintAt (i + 1) rest).map (fun p => (b.toNat - 128 + 128 * p.1, p.2))

def consumeVarint : Bytes → Option (ℕ × Bytes) := consumeVarintAt 0

theorem toNat_ofNat_byte (n : ℕ) (h : n < 256) : (UInt8.ofNat n).toNat = n := by
  rw [UInt8.toNat_ofNat']
  omega

theorem varint_ne_nil (v : ℕ) : varint v ≠ [] := by
  rw [varint]
  split_ifs <;> exact List.cons_ne_nil _ _

theorem consumeVarintAt_varint (i v : ℕ) (hi : i ≤ 9) (hv : v < 2 ^ (64 - 7 * i)) (rest : Bytes) :
    consumeVarintAt i (varint v ++ rest) = some (v, rest) := by
  induction v using Nat.strongRecOn generalizing i with
  | ind v ih =>
    rw [varint]
    by_cases hlast : i = 9
    · -- only one bit is left
      subst hlast
      have hsmall : v < 2 := hv
      rw [if_pos (by omega), List.singleton_append, consumeVarintAt, if_pos rfl,
        toNat_ofNat_byte v (by omega), if_pos hsmall]
    · split_ifs with hone
      · rw [List.singleton_append, consumeVarintAt, if_neg hlast, toNat_ofNat_byte v (by omega),
          if_pos hone]
      · have hbyte := toNat_ofNat_byte (v % 128 + 128) (by omega)
        have hpow : 2 ^ (64 - 7 * i) = 128 * 2 ^ (64 - 7 * (i + 1)) := by
          rw [show 64 - 7 * i = 7 + (64 - 7 * (i + 1)) by omega, Nat.pow_add]
        have hlater := ih (v / 128) (by omega) (i + 1) (by omega)
          (Nat.div_lt_of_lt_mul (hpow ▸ hv))
        rw [List.cons_append, consumeVarintAt, if_neg hlast, hbyte, if_neg (by omega), hlater]
        simp only [Option.map_some, Option.some.injEq, Prod.mk.injEq, and_true]
        omega

/-- A number of 64 bits is read back, whatever follows it. -/
theorem consumeVarint_varint (v : ℕ) (hv : v < 2 ^ 64) (rest : Bytes) :
    consumeVarint (varint v ++ rest) = some (v, rest) :=
  consumeVarintAt_varint 0 v (Nat.zero_le 9) hv rest

theorem consumeVarintAt_length (i : ℕ) (b : Bytes) (v : ℕ) (rest : Bytes)
    (h : consumeVarintAt i b = some (v, rest)) : rest.length < b.length := by
  induction b generalizing i v with
  | nil => cases h
  | cons x b ih =>
    rw [consumeVarintAt] at h
    split_ifs at h
    · cases h
      exact Nat.lt_succ_self _
    · cases h
      exact Nat.lt_succ_self _
    · obtain ⟨p,hp,heq⟩ := Option.map_eq_some_iff.mp h
      cases heq
      have hlater := ih (i + 1) p.1 hp
      rw [List.length_cons]
      omega

end Varints

section Fields

/-- What a field carries. The contents of the other wire types are not kept. -/
inductive Payload where
  | varint (v : ℕ)
  | other
  deriving DecidableEq

/-- Number and wire type of the next field. -/
def consumeTag (maxNumber : ℕ) (b : Bytes) : Option ((ℕ × ℕ) × Bytes) :=
  match consumeVarint b with
  | none => none
  | some (tag, rest) =>
    if tag / 8 < 1 ∨ maxNumber < tag / 8 then none else some ((tag / 8, tag % 8), rest)

def skipBytes (n : ℕ) (b : Bytes) : Option (Payload × Bytes) :=
  if b.length < n then none else some (.other, b.drop n)

/-- A value that is not a group, by its wire type. -/
def consumeValue (wireType : ℕ) (b : Bytes) : Option (Payload × Bytes) :=
  match wireType with
  | 0 => (consumeVarint b).map (fun p => (.varint p.1, p.2))
  | 1 => skipBytes 8 b
  | 2 => (consumeVarint b).bind (fun p => skipBytes p.1 p.2)
  | 5 => skipBytes 4 b
  | _ => none

theorem consumeTag_length {maxNumber : ℕ} {b rest : Bytes} {p : ℕ × ℕ}
    (h : consumeTag maxNumber b = some (p, rest)) : rest.length < b.length := by
  unfold consumeTag at h
  cases hv : consumeVarint b with
  | none =>
    rw [hv] at h
    cases h
  | some q =>
    rw [hv] at h
    dsimp only at h
    split_ifs at h
    cases h
    exact consumeVarintAt_length 0 b q.1 q.2 hv

theorem skipBytes_length {n : ℕ} {b rest : Bytes} {p : Payload}
    (h : skipBytes n b = some (p, rest)) : rest.length ≤ b.length := by
  unfold skipBytes at h
  split_ifs at h
  cases h
  rw [List.length_drop]
  omega

theorem consumeValue_length {wireType : ℕ} {b rest : Bytes} {p : Payload}
    (h : consumeValue wireType b = some (p, rest)) : rest.length ≤ b.length := by
  unfold consumeValue at h
  split at h
  · obtain ⟨q,hq,heq⟩ := Option.map_eq_some_iff.mp h
    cases heq
    exact Nat.le_of_lt (consumeVarintAt_length 0 b q.1 q.2 hq)
  · exact skipBytes_length h
  · obtain ⟨q,hq,hskip⟩ := Option.bind_eq_some_iff.mp h
    have hlen := consumeVarintAt_length 0 b q.1 q.2 hq
    have hrest := skipBytes_length hskip
    omega
  · exact skipBytes_length h
  · cases h

def maxFieldNumber : ℕ := 2 ^ 29 - 1
def maxInt32 : ℕ := 2 ^ 31 - 1
def recursionLimit : ℕ := 10000

/-- Skip to the end of the outermost open group, with the numbers of the groups that are open,
the innermost first. -/
def skipGroup (opened : List ℕ) (b : Bytes) : Option Bytes :=
  match h : consumeTag maxInt32 b with
  | none => none
  | some ((num, wireType), rest) =>
    have : rest.length < b.length := consumeTag_length h
    if wireType = 4 then
      match opened with
      | [] => none
      | [n] => if n = num then some rest else none
      | n :: outer => if n = num then skipGroup outer rest else none
    else if wireType = 3 then
      if recursionLimit < opened.length then none else skipGroup (num :: opened) rest
    else
      match h' : consumeValue wireType rest with
      | none => none
      | some (_, rest') =>
        have : rest'.length ≤ rest.length := consumeValue_length h'
        skipGroup opened rest'
termination_by b.length

theorem skipGroup_length (opened : List ℕ) (b rest : Bytes)
    (h : skipGroup opened b = some rest) : rest.length < b.length := by
  induction hn : b.length using Nat.strongRecOn generalizing opened b with
  | ind n ih =>
    subst hn
    unfold skipGroup at h
    split at h
    · cases h
    · rename_i num wireType rest₁ htag
      have hlen := consumeTag_length htag
      have hlater (opened' : List ℕ) (b' : Bytes) (hb' : b'.length ≤ rest₁.length)
          (h : skipGroup opened' b' = some rest) : rest.length < b.length := by
        have hrest := ih b'.length (by omega) opened' b' h rfl
        omega
      dsimp only at h
      split_ifs at h
      · split at h
        · cases h
        · split_ifs at h
          cases h
          exact hlen
        · split_ifs at h
          exact hlater _ rest₁ (Nat.le_refl _) h
      · exact hlater _ rest₁ (Nat.le_refl _) h
      · split at h
        · cases h
        · rename_i rest₂ hvalue
          exact hlater _ rest₂ (consumeValue_length hvalue) h

/-- The next field of a message. An end of a group has no place there. -/
def consumeField (b : Bytes) : Option ((ℕ × Payload) × Bytes) :=
  match consumeTag maxFieldNumber b with
  | none => none
  | some ((num, wireType), rest) =>
    if wireType = 3 then (skipGroup [num] rest).map (fun rest => ((num, .other), rest))
    else (consumeValue wireType rest).map (fun p => ((num, p.1), p.2))

theorem consumeField_length {b rest : Bytes} {f : ℕ × Payload}
    (h : consumeField b = some (f, rest)) : rest.length < b.length := by
  unfold consumeField at h
  split at h
  · cases h
  · rename_i num wireType rest₁ htag
    have hlen := consumeTag_length htag
    split_ifs at h
    · obtain ⟨rest₂,hskip,heq⟩ := Option.map_eq_some_iff.mp h
      cases heq
      have hrest := skipGroup_length _ _ _ hskip
      omega
    · obtain ⟨p,hvalue,heq⟩ := Option.map_eq_some_iff.mp h
      cases heq
      have hrest := consumeValue_length hvalue
      omega

/-- All fields of a message, in their order. -/
def parse (b : Bytes) : Option (List (ℕ × Payload)) :=
  if b = [] then some []
  else
    match h : consumeField b with
    | none => none
    | some (f, rest) =>
      have : rest.length < b.length := consumeField_length h
      (parse rest).map (f :: ·)
termination_by b.length

/-- A field with a number in it. -/
def varintField (num v : ℕ) : Bytes := varint (8 * num) ++ varint v

theorem consumeField_varintField (num v : ℕ) (hnum : 1 ≤ num) (hmax : num ≤ maxFieldNumber)
    (hv : v < 2 ^ 64) (rest : Bytes) :
    consumeField (varintField num v ++ rest) = some ((num, .varint v), rest) := by
  unfold maxFieldNumber at hmax
  have htag : consumeTag maxFieldNumber (varintField num v ++ rest) =
      some ((num, 0), varint v ++ rest) := by
    rw [varintField, List.append_assoc, consumeTag, consumeVarint_varint _ (by omega)]
    have hdiv : 8 * num / 8 = num := by omega
    have hmod : 8 * num % 8 = 0 := by omega
    simp only [hdiv, hmod, maxFieldNumber]
    rw [if_neg (by omega)]
  simp only [consumeField, htag, consumeValue, consumeVarint_varint v hv rest, Option.map_some]
  rfl

theorem parse_varintField (num v : ℕ) (hnum : 1 ≤ num) (hmax : num ≤ maxFieldNumber)
    (hv : v < 2 ^ 64) (rest : Bytes) :
    parse (varintField num v ++ rest) = (parse rest).map ((num, .varint v) :: ·) := by
  have hne : varintField num v ++ rest ≠ [] := by
    intro h
    have hfirst := (List.append_eq_nil_iff.mp (List.append_eq_nil_iff.mp h).1).1
    exact varint_ne_nil _ hfirst
  have hfield := consumeField_varintField num v hnum hmax hv rest
  rw [parse, if_neg hne]
  split
  · rename_i hnone
    rw [hfield] at hnone
    cases hnone
  · rename_i f rest' hsome
    rw [hfield] at hsome
    cases hsome
    rfl

end Fields
end Wire
