import Mathlib.Data.Int.Notation
import Mathlib.Data.List.Dedup
import Mathlib.Data.List.Nodup
import Mathlib.Data.List.Perm.Basic
import Mathlib.Data.List.Sort

/-! What a statement leaves to the database: where NULL stands in an order, which
of several equally ranked rows comes first, and how an ORDER BY text sorts. -/
namespace SQL
set_option autoImplicit false

/-- `a` does not stand before `b` in descending order. -/
def stampLe (nullsFirst : Bool) : Option ℤ → Option ℤ → Bool
  | some a, some b => a ≤ b
  | none, none => true
  | none, some _ => !nullsFirst
  | some _, none => nullsFirst

/-- A database over rows `α` whose partitions are ranked by `stamp`. `first` is the
row that `ROW_NUMBER() OVER (... ORDER BY stamp DESC)` numbers 1. -/
structure Engine (α : Type) (stamp : α → Option ℤ) where
  nullsFirst : Bool
  sort : String → Option (List α → List α)
  sort_perm : ∀ o f, sort o = some f → ∀ l, (f l).Perm l
  first : List α → Option α
  first_mem : ∀ l r, first l = some r → r ∈ l
  first_max : ∀ l r, first l = some r → ∀ x ∈ l, stampLe nullsFirst (stamp x) (stamp r) = true
  first_isSome : ∀ l, l ≠ [] → (first l).isSome = true

theorem stampLe_refl (n : Bool) (a : Option ℤ) : stampLe n a a = true := by
  cases a <;> simp [stampLe]

theorem stampLe_total (n : Bool) (a b : Option ℤ) :
    stampLe n a b = true ∨ stampLe n b a = true := by
  cases a <;> cases b <;> cases n <;> simp [stampLe]
  all_goals omega

theorem stampLe_trans (n : Bool) (a b c : Option ℤ) (hab : stampLe n a b = true)
    (hbc : stampLe n b c = true) : stampLe n a c = true := by
  cases a <;> cases b <;> cases c <;> cases n <;> simp_all [stampLe]
  all_goals omega

section Ranking
variable {α : Type} {stamp : α → Option ℤ}

/-- The last of the highest ranked rows. -/
def lastMax (n : Bool) (stamp : α → Option ℤ) : List α → Option α
  | [] => none
  | x :: l =>
    match lastMax n stamp l with
    | none => some x
    | some y => if stampLe n (stamp x) (stamp y) then some y else some x

theorem lastMax_isSome (n : Bool) (l : List α) (hl : l ≠ []) :
    (lastMax n stamp l).isSome = true := by
  cases l with
  | nil => exact False.elim (hl rfl)
  | cons x l =>
    simp only [lastMax]
    split
    · rfl
    · split <;> rfl

theorem lastMax_spec (n : Bool) (l : List α) (r : α) (h : lastMax n stamp l = some r) :
    r ∈ l ∧ ∀ x ∈ l, stampLe n (stamp x) (stamp r) = true := by
  induction l generalizing r with
  | nil => simp [lastMax] at h
  | cons x l ih =>
    simp only [lastMax] at h
    cases hl : lastMax n stamp l with
    | none =>
      have hnil : l = [] := by
        by_contra hne
        have hs : (lastMax n stamp l).isSome = true := lastMax_isSome n l hne
        rw [hl] at hs
        cases hs
      simp only [hl, Option.some.injEq] at h
      subst h hnil
      simp [stampLe_refl]
    | some y =>
      obtain ⟨hy,hmax⟩ := ih y hl
      simp only [hl] at h
      split at h
      · rename_i hxy
        cases h
        refine ⟨List.mem_cons_of_mem _ hy, ?_⟩
        intro z hz
        rcases List.mem_cons.mp hz with rfl | hz
        · exact hxy
        · exact hmax z hz
      · rename_i hxy
        cases h
        have hyx : stampLe n (stamp y) (stamp x) = true :=
          (stampLe_total n (stamp y) (stamp x)).resolve_right hxy
        refine ⟨List.mem_cons_self, ?_⟩
        intro z hz
        rcases List.mem_cons.mp hz with rfl | hz
        · exact stampLe_refl n _
        · exact stampLe_trans n _ _ _ (hmax z hz) hyx

/-- An engine that keeps the table order wherever SQL leaves a choice. -/
def Engine.inTableOrder (n : Bool) (stamp : α → Option ℤ) : Engine α stamp where
  nullsFirst := n
  sort _ := some id
  sort_perm := by
    intro o f hf l
    cases hf
    exact List.Perm.refl l
  first := lastMax n stamp
  first_mem l r h := (lastMax_spec n l r h).1
  first_max l r h := (lastMax_spec n l r h).2
  first_isSome l h := lastMax_isSome n l h

/-- An engine that sorts by `le` wherever SQL leaves a choice. -/
def Engine.sortedBy (n : Bool) (stamp : α → Option ℤ) (le : α → α → Prop) [DecidableRel le] :
    Engine α stamp where
  nullsFirst := n
  sort _ := some (List.insertionSort le)
  sort_perm := by
    intro o f hf l
    cases hf
    exact List.perm_insertionSort le l
  first l := lastMax n stamp (l.insertionSort le)
  first_mem l r h := (List.mem_insertionSort le).mp (lastMax_spec n _ r h).1
  first_max l r h x hx := (lastMax_spec n _ r h).2 x ((List.mem_insertionSort le).mpr hx)
  first_isSome l h := by
    apply lastMax_isSome
    intro hnil
    exact h (List.Perm.nil_eq (hnil ▸ (List.perm_insertionSort le l))).symm

/-- An engine that picks one certain row wherever no other row ranks above it. -/
def Engine.preferring [DecidableEq α] (n : Bool) (stamp : α → Option ℤ) (x : α) :
    Engine α stamp where
  nullsFirst := n
  sort _ := some id
  sort_perm := by
    intro o f hf l
    cases hf
    exact List.Perm.refl l
  first l := (lastMax n stamp l).map (fun r =>
    if x ∈ l ∧ stampLe n (stamp r) (stamp x) = true then x else r)
  first_mem := by
    intro l r h
    obtain ⟨y,hy,hr⟩ := Option.map_eq_some_iff.mp h
    split at hr
    · rename_i hx
      exact hr ▸ hx.1
    · exact hr ▸ (lastMax_spec n l y hy).1
  first_max := by
    intro l r h z hz
    obtain ⟨y,hy,hr⟩ := Option.map_eq_some_iff.mp h
    have hmax := (lastMax_spec n l y hy).2 z hz
    split at hr
    · rename_i hx
      exact hr ▸ stampLe_trans n _ _ _ hmax hx.2
    · exact hr ▸ hmax
  first_isSome l h := by
    rw [Option.isSome_map]
    exact lastMax_isSome n l h

theorem preferring_first [DecidableEq α] {n : Bool} {x r : α} {l : List α}
    (h : (Engine.preferring n stamp x).first l = some r) (hx : x ∈ l) :
    r = x ∨ stampLe n (stamp r) (stamp x) = false := by
  obtain ⟨y,_,hr⟩ := Option.map_eq_some_iff.mp h
  split at hr
  · exact .inl hr.symm
  · rename_i hno
    subst hr
    exact .inr (by simpa [hx] using hno)

variable {β : Type}

/-- `out` holds one row of `rows` for each key, and none of the same key ranks above it. -/
structure NewestPer (n : Bool) (stamp : α → Option ℤ) (key : α → β) (rows out : List α) :
    Prop where
  nodup : (out.map key).Nodup
  mem : ∀ r ∈ out, r ∈ rows
  max : ∀ r ∈ out, ∀ x ∈ rows, key x = key r → stampLe n (stamp x) (stamp r) = true
  cover : ∀ x ∈ rows, ∃ r ∈ out, key r = key x

theorem NewestPer.perm {n : Bool} {key : α → β} {rows out out' : List α}
    (h : NewestPer n stamp key rows out) (hp : out'.Perm out) :
    NewestPer n stamp key rows out' where
  nodup := (hp.map key).nodup_iff.mpr h.nodup
  mem r hr := h.mem r (hp.mem_iff.mp hr)
  max r hr := h.max r (hp.mem_iff.mp hr)
  cover x hx := by
    obtain ⟨r,hr,hk⟩ := h.cover x hx
    exact ⟨r, hp.mem_iff.mpr hr, hk⟩

/-- Only the partition a key induces matters. -/
theorem NewestPer.of_key {γ : Type} {n : Bool} {key : α → β} {key' : α → γ}
    {rows out : List α} (hk : ∀ x y, key x = key y ↔ key' x = key' y)
    (h : NewestPer n stamp key rows out) : NewestPer n stamp key' rows out where
  nodup := by
    have hn := h.nodup
    simp only [List.Nodup, List.pairwise_map, ne_eq, hk] at hn ⊢
    exact hn
  mem := h.mem
  max r hr x hx he := h.max r hr x hx ((hk x r).mpr he)
  cover x hx := by
    obtain ⟨r,hr,he⟩ := h.cover x hx
    exact ⟨r, hr, (hk r x).mp he⟩

variable [DecidableEq β]

/-- The rows numbered 1 when `rows` is partitioned by `key`. -/
def Engine.firstPer (E : Engine α stamp) (key : α → β) (rows : List α) : List α :=
  ((rows.map key).dedup).filterMap (fun k => E.first (rows.filter (fun x => key x = k)))

theorem first_filter_key (E : Engine α stamp) (key : α → β) (rows : List α) (k : β) (r : α)
    (h : E.first (rows.filter (fun x => key x = k)) = some r) : r ∈ rows ∧ key r = k := by
  have hm := E.first_mem _ _ h
  simpa using hm

theorem mem_firstPer (E : Engine α stamp) (key : α → β) (rows : List α) (r : α) :
    r ∈ E.firstPer key rows ↔ E.first (rows.filter (fun x => key x = key r)) = some r := by
  simp only [Engine.firstPer, List.mem_filterMap, List.mem_dedup, List.mem_map]
  constructor
  · rintro ⟨k,_,hk⟩
    obtain ⟨_,rfl⟩ := first_filter_key E key rows k r hk
    exact hk
  · intro h
    exact ⟨key r, ⟨r, (first_filter_key E key rows _ r h).1, rfl⟩, h⟩

theorem firstPer_newestPer (E : Engine α stamp) (key : α → β) (rows : List α) :
    NewestPer E.nullsFirst stamp key rows (E.firstPer key rows) := by
  refine ⟨?_, ?_, ?_, ?_⟩
  · -- the selected row of a partition has that partition's key, and keys are distinct
    have hmap : ∀ ks : List β, ks.Nodup →
        ((ks.filterMap (fun k => E.first (rows.filter (fun x => key x = k)))).map key).Nodup := by
      intro ks hks
      induction ks with
      | nil => simp
      | cons k ks ih =>
        obtain ⟨hk,hks⟩ := List.nodup_cons.mp hks
        cases hf : E.first (rows.filter (fun x => key x = k)) with
        | none => simpa [hf] using ih hks
        | some r =>
          have hr := (first_filter_key E key rows k r hf).2
          simp only [List.filterMap_cons, hf, List.map_cons, List.nodup_cons]
          refine ⟨?_, ih hks⟩
          intro hmem
          obtain ⟨r',hr',he⟩ := List.mem_map.mp hmem
          obtain ⟨k',hk',hf'⟩ := List.mem_filterMap.mp hr'
          have hkey := (first_filter_key E key rows k' r' hf').2
          rw [hkey, hr] at he
          exact hk (he ▸ hk')
    exact hmap _ (List.nodup_dedup _)
  · intro r hr
    exact (first_filter_key E key rows _ r ((mem_firstPer E key rows r).mp hr)).1
  · intro r hr x hx he
    exact E.first_max _ _ ((mem_firstPer E key rows r).mp hr) x (by simp [hx, he])
  · intro x hx
    -- no partition is empty, so each has a first row
    have hne : rows.filter (fun y => key y = key x) ≠ [] := by
      intro h
      have hm : x ∈ rows.filter (fun y => key y = key x) := by simp [hx]
      rw [h] at hm
      cases hm
    obtain ⟨r,hr⟩ := Option.isSome_iff_exists.mp (E.first_isSome _ hne)
    have hkey := (first_filter_key E key rows _ r hr).2
    refine ⟨r, (mem_firstPer E key rows r).mpr ?_, hkey⟩
    rw [hkey]
    exact hr

/-- Rows that can be told apart still can after the numbering. -/
theorem firstPer_keys_nodup {γ : Type} (E : Engine α stamp) (key : α → β) (id : α → γ)
    (rows : List α) (hn : (rows.map id).Nodup) : ((E.firstPer key rows).map id).Nodup := by
  have h := firstPer_newestPer E key rows
  refine (List.Nodup.of_map key h.nodup).map_on ?_
  intro x hx y hy hxy
  exact List.inj_on_of_nodup_map hn (h.mem x hx) (h.mem y hy) hxy

/-- A filter that keeps or drops whole partitions commutes with numbering the rows. -/
theorem mem_firstPer_filter (E : Engine α stamp) (key : α → β) (p : α → Bool) (q : β → Bool)
    (hpq : ∀ x, p x = q (key x)) (rows : List α) (r : α) :
    r ∈ E.firstPer key (rows.filter p) ↔ r ∈ E.firstPer key rows ∧ p r = true := by
  have hsame : p r = true → (rows.filter p).filter (fun x => key x = key r) =
      rows.filter (fun x => key x = key r) := by
    intro hr
    rw [List.filter_filter]
    apply List.filter_congr
    intro x _
    by_cases hx : key x = key r
    · rw [hpq x, hx, ← hpq r, hr]
      simp
    · simp [hx]
  constructor
  · intro h
    have hm := (firstPer_newestPer E key (rows.filter p)).mem r h
    have hp : p r = true := (List.mem_filter.mp hm).2
    rw [mem_firstPer, hsame hp] at h
    exact ⟨(mem_firstPer E key rows r).mpr h, hp⟩
  · rintro ⟨h,hp⟩
    rw [mem_firstPer] at h ⊢
    rw [hsame hp]
    exact h

/-- The order of rows that can be told apart by `key` depends on nothing but the rows, for
the ORDER BY texts in `texts` and for the rows of a partition. -/
structure Engine.RowOrder {β : Type} (E : Engine α stamp) (key : α → β) (texts : String → Prop) :
    Prop where
  sort_eq : ∀ o f, texts o → E.sort o = some f →
    ∀ l l' : List α, (l.map key).Nodup → l.Perm l' → f l = f l'
  first_eq : ∀ l l' : List α, (l.map key).Nodup → l.Perm l' → E.first l = E.first l'

omit [DecidableEq β] in
theorem sorted_unique (le : α → α → Prop) [DecidableRel le] [Std.Total le] [IsTrans α le]
    (key : α → β) (hanti : ∀ a b, le a b → le b a → key a = key b) (l l' : List α)
    (hl : (l.map key).Nodup) (hp : l.Perm l') : l.insertionSort le = l'.insertionSort le := by
  have hperm := (List.perm_insertionSort le l).trans (hp.trans (List.perm_insertionSort le l').symm)
  apply List.Perm.eq_of_pairwise _ (List.pairwise_insertionSort le l)
    (List.pairwise_insertionSort le l') hperm
  intro a b ha hb hab hba
  have ha' : a ∈ l := (List.mem_insertionSort le).mp ha
  have hb' : b ∈ l := hp.mem_iff.mpr ((List.mem_insertionSort le).mp hb)
  exact List.inj_on_of_nodup_map hl ha' hb' (hanti a b hab hba)

omit [DecidableEq β] in
theorem Engine.sortedBy_rowOrder (n : Bool) (stamp : α → Option ℤ) (le : α → α → Prop)
    [DecidableRel le] [Std.Total le] [IsTrans α le] (key : α → β)
    (hanti : ∀ a b, le a b → le b a → key a = key b) (texts : String → Prop) :
    (Engine.sortedBy n stamp le).RowOrder key texts where
  sort_eq o f _ hf l l' hl hp := by
    cases hf
    exact sorted_unique le key hanti l l' hl hp
  first_eq l l' hl hp := congrArg (lastMax n stamp) (sorted_unique le key hanti l l' hl hp)

/-- An engine that sorts by a key wherever SQL leaves a choice. -/
def Engine.byKey {K : Type} [LinearOrder K] (n : Bool) (stamp : α → Option ℤ) (key : α → K) :
    Engine α stamp :=
  .sortedBy n stamp (fun a b => key a ≤ key b)

omit [DecidableEq β] in
theorem Engine.byKey_rowOrder {K : Type} [LinearOrder K] (n : Bool) (stamp : α → Option ℤ)
    (key : α → K) (texts : String → Prop) : (Engine.byKey n stamp key).RowOrder key texts := by
  have htotal : Std.Total (fun a b : α => key a ≤ key b) := ⟨fun a b => le_total (key a) (key b)⟩
  have htrans : IsTrans α (fun a b => key a ≤ key b) := ⟨fun _ _ _ => le_trans⟩
  exact Engine.sortedBy_rowOrder n stamp _ key (fun _ _ => le_antisymm) texts

theorem Engine.RowOrder.firstPer_perm {γ : Type} {E : Engine α stamp} {id : α → γ}
    {texts : String → Prop} (h : E.RowOrder id texts) (key : α → β) (rows rows' : List α)
    (hn : (rows.map id).Nodup) (hp : rows.Perm rows') :
    (E.firstPer key rows).Perm (E.firstPer key rows') := by
  have hsame (k : β) : E.first (rows.filter (fun x => key x = k)) =
      E.first (rows'.filter (fun x => key x = k)) :=
    h.first_eq _ _ (hn.sublist (List.filter_sublist.map id)) (hp.filter _)
  unfold Engine.firstPer
  rw [funext hsame]
  exact ((hp.map key).dedup).filterMap _

end Ranking
end SQL
