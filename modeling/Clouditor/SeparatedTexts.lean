import Mathlib.Data.List.Basic

/-! Texts that consist of parts with a separator between them. -/
namespace Separated
set_option autoImplicit false

section
variable {α : Type} (sep : α)

theorem intercalate_append {ls ms : List (List α)} (hl : ls ≠ []) (hm : ms ≠ []) :
    [sep].intercalate (ls ++ ms) = [sep].intercalate ls ++ sep :: [sep].intercalate ms := by
  obtain ⟨m, ms, rfl⟩ := List.exists_cons_of_ne_nil hm
  induction ls with
  | nil => exact absurd rfl hl
  | cons l ls ih =>
    cases ls with
    | nil => simp [List.intercalate_cons_cons]
    | cons l' ls =>
      have htail := ih (by simp)
      simp only [List.cons_append, List.intercalate_cons_cons] at htail ⊢
      rw [htail]
      simp

variable {sep}

theorem mem_intercalate {ls : List (List α)} {x : α} (h : x ∈ [sep].intercalate ls) :
    x = sep ∨ ∃ l ∈ ls, x ∈ l := by
  induction ls with
  | nil => simp at h
  | cons l ls ih =>
    cases ls with
    | nil => exact .inr ⟨l, by simp, by simpa using h⟩
    | cons m ls =>
      rw [List.intercalate_cons_cons, List.append_assoc, List.mem_append, List.mem_append,
        List.mem_singleton] at h
      obtain hl | hsep | hrest := h
      · exact .inr ⟨l, List.mem_cons_self, hl⟩
      · exact .inl hsep
      · obtain hsep | ⟨k, hk, hx⟩ := ih hrest
        · exact .inl hsep
        · exact .inr ⟨k, List.mem_cons_of_mem l hk, hx⟩

variable [DecidableEq α] {ls : List (List α)}

/-- Parts without the separator are those of the text that joins them, and of no other. -/
theorem splitOn_eq_iff (hne : ls ≠ []) (hsep : ∀ l ∈ ls, sep ∉ l) (text : List α) :
    text.splitOn sep = ls ↔ text = [sep].intercalate ls := by
  constructor
  · intro h
    rw [← h, List.intercalate_splitOn]
  · intro h
    rw [h, List.splitOn_intercalate sep hsep hne]

/-- Every separator ends a part, and one part is left. -/
theorem length_splitOn (text : List α) : (text.splitOn sep).length = text.count sep + 1 := by
  induction text with
  | nil => simp
  | cons c text ih =>
    rw [List.splitOn_cons_eq_if_modifyHead, List.count_cons]
    split <;> simp [ih]

/-- The text has the parts and further ones exactly when it is their text, a separator and
anything. -/
theorem splitOn_extends_iff (hne : ls ≠ []) (hsep : ∀ l ∈ ls, sep ∉ l) (text : List α) :
    (∃ more, more ≠ [] ∧ text.splitOn sep = ls ++ more) ↔
      ∃ rest, text = [sep].intercalate ls ++ sep :: rest := by
  constructor
  · intro ⟨more, hmore, h⟩
    refine ⟨[sep].intercalate more, ?_⟩
    rw [← intercalate_append sep hne hmore, ← h, List.intercalate_splitOn]
  · intro ⟨rest, h⟩
    refine ⟨rest.splitOn sep, List.splitOn_ne_nil sep rest, ?_⟩
    rw [h, List.splitOn_append_cons_self, List.splitOn_intercalate sep hsep hne]

end
end Separated
