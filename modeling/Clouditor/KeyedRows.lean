import Mathlib.Data.List.AList
import Mathlib.Tactic.SplitIfs

/-! Tables of records whose primary key is part of the record, and changes of a table
that are confined to the rows of certain owners. -/
namespace Keyed
set_option autoImplicit false

/-- The rows of a table. Each stands under its own key. -/
structure Rows {K V : Type} [DecidableEq K] (key : V → K) where
  table : AList (fun _ : K => V)
  keyed : ∀ k v, table.lookup k = some v → key v = k

section
variable {K V O : Type} [DecidableEq K] {key : V → K}

def Rows.empty (key : V → K) : Rows key := ⟨∅, by simp⟩

def Rows.find (rows : Rows key) (k : K) : Option V := rows.table.lookup k

/-- Write a record over the row with its key, or as a new row. -/
def Rows.save (rows : Rows key) (v : V) : Rows key where
  table := rows.table.insert (key v) v
  keyed := by
    intro k w h
    by_cases hk : k = key v
    · rw [hk, AList.lookup_insert, Option.some.injEq] at h
      rw [hk, h]
    · rw [AList.lookup_insert_ne hk] at h
      exact rows.keyed k w h

/-- Insert a record, which fails if there is a row with its key. -/
def Rows.create (rows : Rows key) (v : V) : Option (Rows key) :=
  if (rows.find (key v)).isSome then none else some (rows.save v)

def Rows.delete (rows : Rows key) (k : K) : Rows key where
  table := rows.table.erase k
  keyed := by
    intro k' v h
    by_cases hk : k' = k
    · rw [hk, AList.lookup_erase] at h
      cases h
    · rw [AList.lookup_erase_ne hk] at h
      exact rows.keyed k' v h

def Rows.any (rows : Rows key) (p : V → Bool) : Bool := rows.table.entries.any (fun e => p e.2)

def Rows.toList (rows : Rows key) : List V := rows.table.entries.map Sigma.snd

theorem Rows.key_of_find (rows : Rows key) (k : K) (v : V) (h : rows.find k = some v) :
    key v = k :=
  rows.keyed k v h

theorem find_save (rows : Rows key) (v : V) (k : K) :
    (rows.save v).find k = if k = key v then some v else rows.find k := by
  unfold Rows.find Rows.save
  split_ifs with hk
  · rw [hk, AList.lookup_insert]
  · rw [AList.lookup_insert_ne hk]

theorem find_delete (rows : Rows key) (k k' : K) :
    (rows.delete k).find k' = if k' = k then none else rows.find k' := by
  unfold Rows.find Rows.delete
  split_ifs with hk
  · rw [hk, AList.lookup_erase]
  · rw [AList.lookup_erase_ne hk]

theorem create_eq_some_iff (rows rows' : Rows key) (v : V) :
    rows.create v = some rows' ↔ rows.find (key v) = none ∧ rows' = rows.save v := by
  unfold Rows.create
  cases hv : rows.find (key v) with
  | none => simp [eq_comm]
  | some w => simp

theorem Rows.mem_toList (rows : Rows key) (v : V) :
    v ∈ rows.toList ↔ rows.find (key v) = some v := by
  simp only [toList, List.mem_map]
  constructor
  · rintro ⟨⟨k,w⟩,hmem,rfl⟩
    have hfind : rows.find k = some w := AList.mem_lookup_iff.mpr hmem
    rw [rows.key_of_find k w hfind]
    exact hfind
  · intro h
    exact ⟨⟨key v, v⟩, AList.mem_lookup_iff.mp h, rfl⟩

theorem Rows.toList_keys_nodup (rows : Rows key) : (rows.toList.map key).Nodup := by
  have hkeys : rows.toList.map key = rows.table.keys := by
    rw [toList, List.map_map, AList.keys, List.keys]
    apply List.map_congr_left
    rintro ⟨k,w⟩ hmem
    exact rows.key_of_find k w (AList.mem_lookup_iff.mpr hmem)
  rw [hkeys]
  exact rows.table.nodupKeys

theorem any_eq_false_iff (rows : Rows key) (p : V → Bool) :
    rows.any p = false ↔ ∀ k v, rows.find k = some v → p v = false := by
  simp only [Rows.any, List.any_eq_false, Bool.not_eq_true]
  constructor
  · intro h k v hfind
    exact h ⟨k, v⟩ (AList.mem_lookup_iff.mp hfind)
  · rintro h ⟨k,v⟩ hmem
    exact h k v (AList.mem_lookup_iff.mpr hmem)

/-- Every row meets a condition. -/
def Rows.All (rows : Rows key) (P : V → Prop) : Prop := ∀ k v, rows.find k = some v → P v

theorem Rows.all_empty (P : V → Prop) : (Rows.empty key).All P := fun _ _ h => by cases h

theorem Rows.All.imp {rows : Rows key} {P Q : V → Prop} (h : rows.All P)
    (hPQ : ∀ v, P v → Q v) : rows.All Q :=
  fun k v hfind => hPQ v (h k v hfind)

theorem Rows.All.save {rows : Rows key} {P : V → Prop} (h : rows.All P) {v : V} (hv : P v) :
    (rows.save v).All P := by
  intro k w hfind
  rw [find_save] at hfind
  split_ifs at hfind with hk
  · cases hfind
    exact hv
  · exact h k w hfind

theorem Rows.All.delete {rows : Rows key} {P : V → Prop} (h : rows.All P) (k : K) :
    (rows.delete k).All P := by
  intro k' v hfind
  rw [find_delete] at hfind
  split_ifs at hfind with hk
  exact h k' v hfind

/-- Where the tables differ, the rows of both belong to owners in `L`. -/
def Confined (owner : V → O) (L : O → Prop) (rows rows' : Rows key) : Prop :=
  ∀ k, rows.find k ≠ rows'.find k →
    ∀ v, rows.find k = some v ∨ rows'.find k = some v → L (owner v)

variable {owner : V → O} {L : O → Prop}

theorem Confined.refl (rows : Rows key) : Confined owner L rows rows :=
  fun _ h => absurd rfl h

theorem confined_save_iff (rows : Rows key) (v : V) :
    Confined owner L rows (rows.save v) ↔ rows.find (key v) = some v ∨
      (L (owner v) ∧ ∀ old, rows.find (key v) = some old → L (owner old)) := by
  constructor
  · intro h
    by_cases hsame : rows.find (key v) = some v
    · exact .inl hsame
    · have hself : (rows.save v).find (key v) = some v := by rw [find_save, if_pos rfl]
      have hk := h (key v) (by rw [hself]; exact hsame)
      exact .inr ⟨hk v (.inr hself), fun old hold => hk old (.inl hold)⟩
  · intro h k hne w hw
    rw [find_save] at hne hw
    split_ifs at hne hw with hk
    · subst hk
      rcases h with h | ⟨hv,hold⟩
      · exact absurd h hne
      · rcases hw with hw | hw
        · exact hold w hw
        · cases hw
          exact hv
    · exact absurd rfl hne

theorem confined_create_iff (rows rows' : Rows key) (v : V) (h : rows.create v = some rows') :
    Confined owner L rows rows' ↔ L (owner v) := by
  unfold Rows.create at h
  split_ifs at h with hnew
  cases h
  rw [Bool.not_eq_true, Option.isSome_eq_false_iff, Option.isNone_iff_eq_none] at hnew
  simp [confined_save_iff, hnew]

theorem confined_delete_iff (rows : Rows key) (k : K) :
    Confined owner L rows (rows.delete k) ↔ ∀ old, rows.find k = some old → L (owner old) := by
  constructor
  · intro h old hold
    refine h k ?_ old (.inl hold)
    rw [find_delete, if_pos rfl, hold]
    exact nofun
  · intro h k' hne v hv
    rw [find_delete] at hne hv
    split_ifs at hne hv with hk
    · subst hk
      rcases hv with hv | hv
      · exact h v hv
      · cases hv
    · exact absurd rfl hne

/-- One record after the other. -/
def Rows.saveAll (rows : Rows key) (vs : List V) : Rows key := vs.foldl Rows.save rows

/-- The last record of a key is the one that stays. -/
theorem find_saveAll (rows : Rows key) (vs : List V) (k : K) :
    (rows.saveAll vs).find k = (vs.reverse.find? (fun v => key v = k)).or (rows.find k) := by
  induction vs generalizing rows with
  | nil => rfl
  | cons v vs ih =>
    change ((rows.save v).saveAll vs).find k = _
    rw [ih, find_save, List.reverse_cons, List.find?_append]
    by_cases hk : k = key v
    · simp [hk]
    · simp [hk, eq_comm]

theorem saveAll_append (rows : Rows key) (vs ws : List V) :
    rows.saveAll (vs ++ ws) = (rows.saveAll vs).saveAll ws :=
  List.foldl_append

/-- One record after the other, without those whose key is taken. -/
def Rows.createAll (rows : Rows key) (vs : List V) : Rows key :=
  vs.foldl (fun rows v => (rows.create v).getD rows) rows

theorem createAll_append (rows : Rows key) (vs ws : List V) :
    rows.createAll (vs ++ ws) = (rows.createAll vs).createAll ws :=
  List.foldl_append

/-- The first record of a key is the one that stays. -/
theorem find_createAll (rows : Rows key) (vs : List V) (k : K) :
    (rows.createAll vs).find k = (rows.find k).or (vs.find? (fun v => key v = k)) := by
  induction vs generalizing rows with
  | nil => exact (Option.or_none).symm
  | cons v vs ih =>
    change (((rows.create v).getD rows).createAll vs).find k = _
    rw [ih, List.find?_cons]
    unfold Rows.create
    by_cases hk : key v = k
    · subst hk
      cases hfind : rows.find (key v) <;> simp [hfind, find_save]
    · cases hfind : rows.find (key v) <;> simp [hk, find_save, Ne.symm hk]

/-- All records of a list stay exactly if those of one key are the same. -/
theorem saveAll_keeps_iff (rows : Rows key) (vs : List V) :
    (∀ v ∈ vs, (rows.saveAll vs).find (key v) = some v) ↔
      ∀ v ∈ vs, ∀ w ∈ vs, key v = key w → v = w := by
  constructor
  · intro h v hv w hw hkey
    have hboth := (h v hv).symm.trans (hkey ▸ h w hw)
    exact Option.some.inj hboth
  · intro h v hv
    have hsome : (vs.reverse.find? (fun w => key w = key v)).isSome = true := by
      rw [List.find?_isSome]
      exact ⟨v, List.mem_reverse.mpr hv, by simp⟩
    obtain ⟨w,hw⟩ := Option.isSome_iff_exists.mp hsome
    have hmem := List.mem_of_find?_eq_some hw
    have hkey := List.find?_some hw
    have heq := h v hv w (List.mem_reverse.mp hmem) (by simpa [eq_comm] using hkey)
    rw [find_saveAll, hw, heq]
    rfl

/-- Many records of owners in `L` only matter by the rows they are written over. -/
theorem confined_saveAll_iff (rows : Rows key) (vs : List V) (hvs : ∀ v ∈ vs, L (owner v)) :
    Confined owner L rows (rows.saveAll vs) ↔
      ∀ v ∈ vs, ∀ old, rows.find (key v) = some old → L (owner old) := by
  have hlast (k : K) : (rows.saveAll vs).find k = rows.find k ∨
      ∃ w ∈ vs, key w = k ∧ (rows.saveAll vs).find k = some w := by
    rw [find_saveAll]
    cases hw : vs.reverse.find? (fun v => key v = k) with
    | none => exact .inl rfl
    | some w =>
      have hmem := List.mem_of_find?_eq_some hw
      have hkey := List.find?_some hw
      exact .inr ⟨w, List.mem_reverse.mp hmem, by simpa using hkey, rfl⟩
  constructor
  · intro h v hv old hold
    by_cases hsame : rows.find (key v) = (rows.saveAll vs).find (key v)
    · -- the row is still there after a record of its key was written, so it is one of them
      have hsome : (vs.reverse.find? (fun w => key w = key v)).isSome = true := by
        rw [List.find?_isSome]
        exact ⟨v, List.mem_reverse.mpr hv, by simp⟩
      obtain ⟨w,hw⟩ := Option.isSome_iff_exists.mp hsome
      have hafter : (rows.saveAll vs).find (key v) = some w := by rw [find_saveAll, hw]; rfl
      have heq : old = w := Option.some.inj (hold.symm.trans (hsame.trans hafter))
      rw [heq]
      exact hvs w (List.mem_reverse.mp (List.mem_of_find?_eq_some hw))
    · exact h (key v) hsame old (.inl hold)
  · intro h k hne v hv
    rcases hlast k with hsame | ⟨w,hw,hkey,hafter⟩
    · exact absurd hsame.symm hne
    · rcases hv with hv | hv
      · exact h w hw v (hkey ▸ hv)
      · rw [hafter] at hv
        cases hv
        exact hvs _ hw

/-- The tables hold the same rows of owners in `L`. -/
def Agree (owner : V → O) (L : O → Prop) (rows rows' : Rows key) : Prop :=
  ∀ v, L (owner v) → (rows.find (key v) = some v ↔ rows'.find (key v) = some v)

theorem Agree.refl (rows : Rows key) : Agree owner L rows rows := fun _ _ => Iff.rfl

theorem Agree.trans {rows rows' rows'' : Rows key} (h : Agree owner L rows rows')
    (h' : Agree owner L rows' rows'') : Agree owner L rows rows'' :=
  fun v hv => (h v hv).trans (h' v hv)

/-- Neither the record nor the row it is written over belongs to an owner in `L`. -/
theorem agree_save (rows : Rows key) (v : V) (hv : ¬ L (owner v))
    (hold : ∀ old, rows.find (key v) = some old → ¬ L (owner old)) :
    Agree owner L rows (rows.save v) := by
  intro w hw
  rw [find_save]
  split_ifs with hk
  · have hbefore : rows.find (key w) ≠ some w := fun h => hold w (hk ▸ h) hw
    have hafter : some v ≠ some w := fun h => hv (Option.some.inj h ▸ hw)
    simp only [hbefore, hafter]
  · exact Iff.rfl

theorem agree_delete (rows : Rows key) (k : K)
    (hold : ∀ old, rows.find k = some old → ¬ L (owner old)) :
    Agree owner L rows (rows.delete k) := by
  intro w hw
  rw [find_delete]
  split_ifs with hk
  · have hbefore : rows.find (key w) ≠ some w := fun h => hold w (hk ▸ h) hw
    simp only [hbefore]
  · exact Iff.rfl

/-- A condition that only rows of owners in `L` meet selects the same rows of both. -/
theorem Agree.filter_perm {rows rows' : Rows key} (h : Agree owner L rows rows') (p : V → Bool)
    (hp : ∀ v, p v = true → L (owner v)) :
    (rows.toList.filter p).Perm (rows'.toList.filter p) := by
  have hnodup (r : Rows key) : (r.toList.filter p).Nodup :=
    (List.Nodup.of_map key r.toList_keys_nodup).filter p
  rw [List.perm_ext_iff_of_nodup (hnodup rows) (hnodup rows')]
  intro v
  simp only [List.mem_filter, Rows.mem_toList]
  exact and_congr_left (fun hv => h v (hp v hv))

end
end Keyed
