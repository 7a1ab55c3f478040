import Mathlib.Algebra.Group.Nat.Defs
import Mathlib.Data.Fin.Basic
import Mathlib.Tactic.SplitIfs

/-! Base 64 with padding, over any alphabet: three bytes become four characters. The decoder
skips line breaks and says at which byte it gives up. -/
namespace Base64
set_option autoImplicit false

/-- Characters for six bits each. Neither the padding nor a line break is among them. -/
structure Alphabet where
  char : Fin 64 → Char
  value : Char → Option (Fin 64)
  value_char : ∀ v, value (char v) = some v
  value_pad : value '=' = none

section
variable (a : Alphabet)

def sextet (n : ℕ) : Fin 64 := Fin.ofNat 64 n

/-- The bits of three bytes. -/
def join (x y z : UInt8) : ℕ := x.toNat * 2 ^ 16 + y.toNat * 2 ^ 8 + z.toNat

def encode : List UInt8 → List Char
  | [] => []
  | [x] =>
    let n := join x 0 0
    [a.char (sextet (n / 2 ^ 18)), a.char (sextet (n / 2 ^ 12)), '=', '=']
  | [x, y] =>
    let n := join x y 0
    [a.char (sextet (n / 2 ^ 18)), a.char (sextet (n / 2 ^ 12)), a.char (sextet (n / 2 ^ 6)), '=']
  | x :: y :: z :: rest =>
    let n := join x y z
    a.char (sextet (n / 2 ^ 18)) :: a.char (sextet (n / 2 ^ 12)) ::
      a.char (sextet (n / 2 ^ 6)) :: a.char (sextet n) :: encode rest

/-- The bits of two, three or four values, with zeros for those that are missing. -/
def bits (vs : List (Fin 64)) : ℕ :=
  (vs ++ List.replicate (4 - vs.length) 0).foldl (fun (n : ℕ) (v : Fin 64) => n * 64 + v.val) 0

def bytesOf (vs : List (Fin 64)) : List UInt8 :=
  [UInt8.ofNat (bits vs / 2 ^ 16), UInt8.ofNat (bits vs / 2 ^ 8), UInt8.ofNat (bits vs)].take
    (vs.length - 1)

def isBreak (c : Char) : Bool := c == '\n' || c == '\r'

/-- The position and the text after some line breaks. -/
def skipBreaks : ℕ → List Char → ℕ × List Char
  | si, [] => (si, [])
  | si, c :: cs => if isBreak c then skipBreaks (si + 1) cs else (si, c :: cs)

/-- Nothing but line breaks may follow the padding. -/
def finish (vs : List (Fin 64)) (si : ℕ) (cs : List Char) : Except ℕ (List UInt8) :=
  match skipBreaks si cs with
  | (_, []) => .ok (bytesOf vs)
  | (si, _ :: _) => .error si

/-- The first padding character was read at `si`, after the values of its group. -/
def padding (vs : List (Fin 64)) (si : ℕ) (cs : List Char) : Except ℕ (List UInt8) :=
  match vs.length with
  | 0 | 1 => .error si
  | 2 =>
    match skipBreaks (si + 1) cs with
    | (si, []) => .error si
    | (si, c :: cs) => if c = '=' then finish vs (si + 1) cs else .error (si - 1)
  | _ => finish vs (si + 1) cs

/-- `vs` are the values of the group that has begun, `si` counts the characters before. -/
def decodeFrom : List (Fin 64) → ℕ → List Char → Except ℕ (List UInt8)
  | vs, si, [] => if vs = [] then .ok [] else .error (si - vs.length)
  | vs, si, c :: cs =>
    match a.value c with
    | some v =>
      if vs.length = 3 then (decodeFrom [] (si + 1) cs).map (bytesOf (vs ++ [v]) ++ ·)
      else decodeFrom (vs ++ [v]) (si + 1) cs
    | none =>
      if isBreak c then decodeFrom vs (si + 1) cs
      else if c = '=' then padding vs si cs
      else .error si

def decode (cs : List Char) : Except ℕ (List UInt8) := decodeFrom a [] 0 cs

theorem join_lt (x y z : UInt8) : join x y z < 2 ^ 24 := by
  have hx := x.toNat_lt
  have hy := y.toNat_lt
  have hz := z.toNat_lt
  unfold join
  omega

theorem bytes_of_join (x y z : UInt8) :
    UInt8.ofNat (join x y z / 2 ^ 16) = x ∧ UInt8.ofNat (join x y z / 2 ^ 8) = y ∧
      UInt8.ofNat (join x y z) = z := by
  have hx := x.toNat_lt
  have hy := y.toNat_lt
  have hz := z.toNat_lt
  simp only [← UInt8.toNat_inj, UInt8.toNat_ofNat', join]
  omega

/-- The values of four characters make up the bits again. -/
theorem bits_four (n : ℕ) (hn : n < 2 ^ 24) :
    bits [sextet (n / 2 ^ 18), sextet (n / 2 ^ 12), sextet (n / 2 ^ 6), sextet n] = n := by
  change (((0 * 64 + n / 2 ^ 18 % 64) * 64 + n / 2 ^ 12 % 64) * 64 + n / 2 ^ 6 % 64) * 64 +
    n % 64 = n
  omega

theorem sextet_eq_zero (n : ℕ) (h : n % 64 = 0) : sextet n = 0 := Fin.ext h

theorem toNat_zero : (0 : UInt8).toNat = 0 := rfl

theorem bits_three (x y : UInt8) :
    let n := join x y 0
    bits [sextet (n / 2 ^ 18), sextet (n / 2 ^ 12), sextet (n / 2 ^ 6)] = n := by
  intro n
  have hlast : sextet n = 0 := by
    apply sextet_eq_zero
    simp only [n, join, toNat_zero]
    omega
  have hbits := bits_four n (join_lt x y 0)
  rw [hlast] at hbits
  exact hbits

theorem bits_two (x : UInt8) :
    let n := join x 0 0
    bits [sextet (n / 2 ^ 18), sextet (n / 2 ^ 12)] = n := by
  intro n
  have hthird : sextet (n / 2 ^ 6) = 0 := by
    apply sextet_eq_zero
    simp only [n, join, toNat_zero]
    omega
  have hbits := bits_three x 0
  dsimp only at hbits
  rw [hthird] at hbits
  exact hbits

section
variable {a}

theorem decodeFrom_char (vs : List (Fin 64)) (si : ℕ) (v : Fin 64) (cs : List Char)
    (hvs : vs.length ≠ 3) :
    decodeFrom a vs si (a.char v :: cs) = decodeFrom a (vs ++ [v]) (si + 1) cs := by
  simp only [decodeFrom, a.value_char, if_neg hvs]

theorem decodeFrom_fourth (vs : List (Fin 64)) (si : ℕ) (v : Fin 64) (cs : List Char)
    (hvs : vs.length = 3) : decodeFrom a vs si (a.char v :: cs) =
      (decodeFrom a [] (si + 1) cs).map (bytesOf (vs ++ [v]) ++ ·) := by
  simp only [decodeFrom, a.value_char, if_pos hvs]

theorem decodeFrom_pad (vs : List (Fin 64)) (si : ℕ) (cs : List Char) :
    decodeFrom a vs si ('=' :: cs) = padding vs si cs := by
  simp only [decodeFrom, a.value_pad]
  rfl

end

/-- Group by group, from any position on. -/
theorem decodeFrom_encode (bs : List UInt8) (si : ℕ) :
    decodeFrom a [] si (encode a bs) = .ok bs := by
  fun_induction encode a bs generalizing si with
  | case1 => rfl
  | case2 x n =>
    rw [decodeFrom_char _ _ _ _ (by simp), decodeFrom_char _ _ _ _ (by simp), decodeFrom_pad]
    change Except.ok [UInt8.ofNat (bits _ / 2 ^ 16)] = _
    rw [List.nil_append, List.singleton_append, bits_two x, (bytes_of_join x 0 0).1]
  | case3 x y n =>
    rw [decodeFrom_char _ _ _ _ (by simp), decodeFrom_char _ _ _ _ (by simp),
      decodeFrom_char _ _ _ _ (by simp), decodeFrom_pad]
    change Except.ok [UInt8.ofNat (bits _ / 2 ^ 16), UInt8.ofNat (bits _ / 2 ^ 8)] = _
    obtain ⟨hx,hy,_⟩ := bytes_of_join x y 0
    simp only [List.nil_append, List.cons_append, bits_three x y, n, hx, hy]
  | case4 x y z rest n ih =>
    rw [decodeFrom_char _ _ _ _ (by simp), decodeFrom_char _ _ _ _ (by simp),
      decodeFrom_char _ _ _ _ (by simp), decodeFrom_fourth _ _ _ _ (by simp), ih]
    obtain ⟨hx,hy,hz⟩ := bytes_of_join x y z
    have hbits := bits_four n (join_lt x y z)
    simp only [List.nil_append, List.cons_append, Except.map, bytesOf, hbits, n, hx, hy, hz]
    rfl

/-- What was encoded is decoded again. -/
theorem decode_encode (bs : List UInt8) : decode a (encode a bs) = .ok bs :=
  decodeFrom_encode a bs 0

theorem encode_eq_nil_iff (bs : List UInt8) : encode a bs = [] ↔ bs = [] := by
  fun_cases encode a bs <;> simp

end
end Base64
