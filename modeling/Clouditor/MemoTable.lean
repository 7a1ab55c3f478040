import Mathlib.Data.List.AList

/-! Tables that remember computed values by key, and the property a table must keep
so that reading it is as good as computing again. -/
namespace Memo
set_option autoImplicit false

abbrev Table (K V : Type) := AList (fun _ : K => V)

section
variable {K V ε : Type} [DecidableEq K]

/-- Every remembered value satisfies `P` at its key. -/
def Holds (P : K → V → Prop) (t : Table K V) : Prop := ∀ k v, t.lookup k = some v → P k v

/-- Read the table, or compute, remember and return. An error is not remembered. -/
def getOr (t : Table K V) (k : K) (compute : Except ε V) : Except ε V × Table K V :=
  match t.lookup k with
  | some v => (.ok v, t)
  | none =>
    match compute with
    | .error e => (.error e, t)
    | .ok v => (.ok v, t.insert k v)

/-- Forget the keys for which `p` holds. -/
def evict (p : K → Bool) (t : Table K V) : Table K V :=
  ⟨t.entries.filter (fun e => !p e.1), t.nodupKeys.sublist List.filter_sublist⟩

theorem lookup_evict (p : K → Bool) (t : Table K V) (k : K) :
    (evict p t).lookup k = if p k then none else t.lookup k := by
  have hmem (v : V) : (evict p t).lookup k = some v ↔ t.lookup k = some v ∧ p k = false := by
    have h1 : v ∈ (evict p t).lookup k ↔ Sigma.mk k v ∈ (evict p t).entries :=
      AList.mem_lookup_iff
    have h2 : v ∈ t.lookup k ↔ Sigma.mk k v ∈ t.entries := AList.mem_lookup_iff
    rw [Option.mem_def] at h1 h2
    rw [h1, h2, evict, List.mem_filter]
    simp
  apply Option.ext
  intro v
  rw [hmem]
  cases p k <;> simp

theorem holds_empty (P : K → V → Prop) : Holds P (∅ : Table K V) := by
  intro k v h
  simp at h

theorem holds_insert {P : K → V → Prop} {t : Table K V} (ht : Holds P t) (k : K) (v : V)
    (hv : P k v) : Holds P (t.insert k v) := by
  intro k' v' h
  by_cases hk : k' = k
  · subst hk
    rw [AList.lookup_insert, Option.some.injEq] at h
    exact h ▸ hv
  · rw [AList.lookup_insert_ne hk] at h
    exact ht k' v' h

theorem holds_erase {P : K → V → Prop} {t : Table K V} (ht : Holds P t) (k : K) :
    Holds P (t.erase k) := by
  intro k' v h
  by_cases hk : k' = k
  · subst hk
    simp at h
  · rw [AList.lookup_erase_ne hk] at h
    exact ht k' v h

theorem Holds.mono {P Q : K → V → Prop} {t : Table K V} (ht : Holds P t)
    (h : ∀ k v, P k v → Q k v) : Holds Q t :=
  fun k v hk => h k v (ht k v hk)

/-- Eviction may make a stronger property true: only the keys that stay need it. -/
theorem holds_evict {P Q : K → V → Prop} {t : Table K V} (p : K → Bool) (ht : Holds P t)
    (h : ∀ k v, p k = false → P k v → Q k v) : Holds Q (evict p t) := by
  intro k v hk
  rw [lookup_evict] at hk
  cases hp : p k with
  | true => simp [hp] at hk
  | false =>
    rw [hp] at hk
    exact h k v hp (ht k v hk)

theorem getOr_of_lookup {t : Table K V} {k : K} {v : V} (h : t.lookup k = some v)
    (compute : Except ε V) : getOr t k compute = (.ok v, t) := by
  unfold getOr
  rw [h]

/-- A table of correct values answers like the computation. -/
theorem getOr_eq {P : K → V → Prop} {t : Table K V} (ht : Holds P t) (k : K)
    (compute : Except ε V) (hP : ∀ v, P k v → compute = .ok v) :
    (getOr t k compute).1 = compute := by
  unfold getOr
  cases hk : t.lookup k with
  | some v => exact (hP v (ht k v hk)).symm
  | none => cases compute <;> rfl

/-- What is read or computed has the property of a remembered value. -/
theorem getOr_fst {P : K → V → Prop} {t : Table K V} (ht : Holds P t) (k : K)
    (compute : Except ε V) (hP : ∀ v, compute = .ok v → P k v) (v : V)
    (hv : (getOr t k compute).1 = .ok v) : P k v := by
  unfold getOr at hv
  cases hk : t.lookup k with
  | some w =>
    rw [hk] at hv
    exact ht k v (hk.trans (congrArg some (Except.ok.inj hv)))
  | none =>
    rw [hk] at hv
    cases hc : compute with
    | error e =>
      rw [hc] at hv
      cases hv
    | ok w =>
      rw [hc] at hv
      exact hP v (hc.trans hv)

theorem holds_getOr {P : K → V → Prop} {t : Table K V} (ht : Holds P t) (k : K)
    (compute : Except ε V) (hP : ∀ v, compute = .ok v → P k v) :
    Holds P (getOr t k compute).2 := by
  unfold getOr
  cases hk : t.lookup k with
  | some v => exact ht
  | none =>
    cases hc : compute with
    | error e => exact ht
    | ok v => exact holds_insert ht k v (hP v hc)

end
end Memo
