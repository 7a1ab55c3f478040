import Mathlib.Data.List.Basic
import Mathlib.Data.List.Forall2

/-! Calls that return a value, return an error or fault, and loops over the pages that a remote
service answers with: the values are handled one after the other, and the first failure, of a
page or of a value, ends the loop. -/
namespace Paged
set_option autoImplicit false

/-- How a call fails: with an error that its caller sees, or with a fault that ends the
process. -/
inductive Failure (ε : Type) where
  | error (e : ε)
  | fault
  deriving DecidableEq

abbrev Outcome (ε α : Type) := Except (Failure ε) α

section
variable {ε α β σ : Type}

def fail (e : ε) : Outcome ε α := .error (.error e)

/-- Reads through a pointer. -/
def deref : Option α → Outcome ε α
  | some a => .ok a
  | none => .error .fault

/-- Reads through a pointer that is checked first. -/
def orFail (e : ε) : Option α → Outcome ε α
  | some a => .ok a
  | none => fail e

/-- An error gets a context; a fault does not come back to the caller. -/
def inContext (wrap : ε → ε) : Outcome ε α → Outcome ε α
  | .error (.error e) => fail (wrap e)
  | .error .fault => .error .fault
  | .ok a => .ok a

/-- All values in the order of the pages, if no page fails. -/
def pageValues : List (Except ε (List α)) → Option (List α)
  | [] => some []
  | .error _ :: _ => none
  | .ok values :: pages => (pageValues pages).map (values ++ ·)

/-- The values in the order of the pages, and the failed pages among them. -/
def pageItems (pages : List (Except ε (List α))) : List (Except ε α) :=
  pages.flatMap (fun page =>
    match page with
    | .error e => [.error e]
    | .ok values => values.map .ok)

/-- The loop over all pages with a callback for each value. -/
def foldPages (wrap : ε → ε) (callback : σ → α → Outcome ε σ) :
    σ → List (Except ε (List α)) → Outcome ε σ
  | s, [] => .ok s
  | _, .error e :: _ => fail (wrap e)
  | s, .ok values :: pages => do
    let s ← values.foldlM callback s
    foldPages wrap callback s pages

/-- The callback that appends what a value is made into. -/
def collect (handle : α → Outcome ε β) (acc : List β) (a : α) : Outcome ε (List β) := do
  let b ← handle a
  return acc ++ [b]

@[simp] theorem bind_eq_ok_iff {x : Outcome ε α} {f : α → Outcome ε β} {b : β} :
    (x >>= f) = .ok b ↔ ∃ a, x = .ok a ∧ f a = .ok b := by
  cases x with
  | error e => simp [bind, Except.bind]
  | ok a => simp [bind, Except.bind]

@[simp] theorem pure_eq_ok_iff {a b : α} : (pure a : Outcome ε α) = .ok b ↔ a = b := by
  simp [pure, Except.pure]

@[simp] theorem deref_eq_ok_iff {p : Option α} {a : α} :
    (deref p : Outcome ε α) = .ok a ↔ p = some a := by
  cases p <;> simp [deref]

@[simp] theorem orFail_eq_ok_iff {e : ε} {p : Option α} {a : α} :
    orFail e p = .ok a ↔ p = some a := by
  cases p <;> simp [orFail, fail]

@[simp] theorem inContext_eq_ok_iff {wrap : ε → ε} {x : Outcome ε α} {a : α} :
    inContext wrap x = .ok a ↔ x = .ok a := by
  rcases x with (_ | _) | _ <;> simp [inContext, fail]

@[simp] theorem bind_eq_fault_iff {x : Outcome ε α} {f : α → Outcome ε β} :
    (x >>= f) = .error .fault ↔ x = .error .fault ∨ ∃ a, x = .ok a ∧ f a = .error .fault := by
  cases x with
  | error e => simp [bind, Except.bind]
  | ok a => simp [bind, Except.bind]

@[simp] theorem pure_ne_fault {a : α} : (pure a : Outcome ε α) ≠ .error .fault := by
  simp [pure, Except.pure]

@[simp] theorem deref_eq_fault_iff {p : Option α} :
    (deref p : Outcome ε α) = .error .fault ↔ p = none := by
  cases p <;> simp [deref]

@[simp] theorem orFail_ne_fault {e : ε} {p : Option α} : orFail e p ≠ .error .fault := by
  cases p <;> simp [orFail, fail]

@[simp] theorem inContext_eq_fault_iff {wrap : ε → ε} {x : Outcome ε α} :
    inContext wrap x = .error .fault ↔ x = .error .fault := by
  rcases x with (_ | _) | _ <;> simp [inContext, fail]

theorem pageValues_eq_some_iff {pages : List (Except ε (List α))} {values : List α} :
    pageValues pages = some values ↔
      ∃ lists : List (List α), pages = lists.map .ok ∧ values = lists.flatten := by
  induction pages generalizing values with
  | nil => simp [pageValues, eq_comm]
  | cons page pages ih =>
    cases page with
    | error e =>
      simp only [pageValues, reduceCtorEq, false_iff]
      rintro ⟨_ | ⟨list, lists⟩, hpages, _⟩ <;> simp at hpages
    | ok list =>
      simp only [pageValues, Option.map_eq_some_iff, ih]
      constructor
      · rintro ⟨_, ⟨lists, rfl, rfl⟩, rfl⟩
        exact ⟨list :: lists, rfl, rfl⟩
      · rintro ⟨_ | ⟨list', lists⟩, hpages, rfl⟩
        · cases hpages
        · cases hpages
          exact ⟨_, ⟨lists, rfl, rfl⟩, rfl⟩

theorem pageValues_eq_none_iff {pages : List (Except ε (List α))} :
    pageValues pages = none ↔ ∃ e, .error e ∈ pages := by
  induction pages with
  | nil => simp [pageValues]
  | cons page pages ih => cases page <;> simp [pageValues, ih]

theorem foldPages_eq_ok_iff (wrap : ε → ε) (callback : σ → α → Outcome ε σ)
    (pages : List (Except ε (List α))) (s s' : σ) :
    foldPages wrap callback s pages = .ok s' ↔
      ∃ values, pageValues pages = some values ∧ values.foldlM callback s = .ok s' := by
  induction pages generalizing s with
  | nil => simp [foldPages, pageValues, pure, Except.pure]
  | cons page pages ih =>
    cases page with
    | error e => simp [foldPages, pageValues, fail]
    | ok values =>
      simp only [foldPages, bind_eq_ok_iff, ih, pageValues, Option.map_eq_some_iff]
      constructor
      · rintro ⟨t, ht, rest, hrest, hs'⟩
        refine ⟨values ++ rest, ⟨rest, hrest, rfl⟩, ?_⟩
        rw [List.foldlM_append, bind_eq_ok_iff]
        exact ⟨t, ht, hs'⟩
      · rintro ⟨_, ⟨rest, hrest, rfl⟩, hs'⟩
        rw [List.foldlM_append, bind_eq_ok_iff] at hs'
        obtain ⟨t, ht, hs'⟩ := hs'
        exact ⟨t, ht, rest, hrest, hs'⟩

theorem foldlM_collect_eq_ok_iff (handle : α → Outcome ε β) (values : List α)
    (acc acc' : List β) :
    values.foldlM (collect handle) acc = .ok acc' ↔
      ∃ bs, acc' = acc ++ bs ∧ List.Forall₂ (fun a b => handle a = .ok b) values bs := by
  induction values generalizing acc with
  | nil => simp [pure, Except.pure, eq_comm]
  | cons a values ih =>
    simp only [List.foldlM_cons, bind_eq_ok_iff, collect, pure_eq_ok_iff, ih]
    constructor
    · rintro ⟨_, ⟨b, hb, rfl⟩, bs, rfl, hbs⟩
      exact ⟨b :: bs, by simp, .cons hb hbs⟩
    · rintro ⟨_, rfl, hbs⟩
      cases hbs with
      | cons hb hbs => exact ⟨_, ⟨_, hb, rfl⟩, _, by simp, hbs⟩

/-- A listing that reaches its end has one result for each value, in order. -/
theorem foldPages_collect_eq_ok_iff (wrap : ε → ε) (handle : α → Outcome ε β)
    (pages : List (Except ε (List α))) (bs : List β) :
    foldPages wrap (collect handle) [] pages = .ok bs ↔
      ∃ values, pageValues pages = some values ∧
        List.Forall₂ (fun a b => handle a = .ok b) values bs := by
  simp [foldPages_eq_ok_iff, foldlM_collect_eq_ok_iff]

theorem map_eq_map_of_forall₂ {γ : Type} {R : α → β → Prop} {f : α → γ} {g : β → γ}
    {as : List α} {bs : List β} (h : List.Forall₂ R as bs) (hR : ∀ a b, R a b → g b = f a) :
    bs.map g = as.map f := by
  induction h with
  | nil => rfl
  | cons hab _ ih => rw [List.map_cons, List.map_cons, hR _ _ hab, ih]

theorem exists_of_mem_left {R : α → β → Prop} {as : List α} {bs : List β}
    (h : List.Forall₂ R as bs) {a : α} (ha : a ∈ as) : ∃ b ∈ bs, R a b := by
  obtain ⟨i, hi, rfl⟩ := List.getElem_of_mem ha
  have hi' : i < bs.length := h.length_eq ▸ hi
  exact ⟨bs[i], List.getElem_mem hi', h.get hi hi'⟩

theorem exists_of_mem_right {R : α → β → Prop} {as : List α} {bs : List β}
    (h : List.Forall₂ R as bs) {b : β} (hb : b ∈ bs) : ∃ a ∈ as, R a b :=
  exists_of_mem_left h.flip hb

theorem pageItems_of_pageValues {pages : List (Except ε (List α))} {values : List α}
    (h : pageValues pages = some values) : pageItems pages = values.map .ok := by
  obtain ⟨lists, rfl, rfl⟩ := pageValues_eq_some_iff.mp h
  rw [pageItems, List.flatMap_def, List.map_map, List.map_flatten]
  rfl

end
end Paged
