import Clouditor.PagedCalls

/-! Readers that go through a list of tokens in stages, each of which accepts some tokens and
updates a state by the token it sees. A token that is not accepted ends the reading without a
result; the end of the tokens is not checked for, so reading past it is a fault, and tokens
behind the last stage are not looked at. -/
namespace TokenStages
set_option autoImplicit false
open Paged

structure Stage (τ σ : Type) where
  accepts : τ → Bool
  update : τ → σ → σ

section
variable {τ σ ε : Type}

def readAll : List (Stage τ σ) → List τ → σ → Outcome ε (Option σ)
  | [], _, s => .ok (some s)
  | _ :: _, [], _ => .error .fault
  | stage :: stages, t :: ts, s =>
    if stage.accepts t then readAll stages ts (stage.update t s) else .ok none

/-- The words that the stages are for: one accepted token for each. -/
def Word (stages : List (Stage τ σ)) (word : List τ) : Prop :=
  List.Forall₂ (fun stage t => stage.accepts t = true) stages word

/-- The state after all stages have seen their token of the word. -/
def effect : List (Stage τ σ) → List τ → σ → σ
  | stage :: stages, t :: ts, s => effect stages ts (stage.update t s)
  | _, _, s => s

/-- A reader that takes its tokens by their positions and turns the result into an answer. -/
theorem map_readAll_drop {β : Type} (answer : Option σ → β) (stage : Stage τ σ)
    (stages : List (Stage τ σ)) (ts : List τ) (i : ℕ) (s : σ) :
    (answer <$> readAll (stage :: stages) (ts.drop i) s : Outcome ε β) = (do
      let t ← deref ts[i]?
      if stage.accepts t then answer <$> readAll stages (ts.drop (i + 1)) (stage.update t s)
      else pure (answer none)) := by
  by_cases hi : i < ts.length
  · rw [List.drop_eq_getElem_cons hi, List.getElem?_eq_getElem hi, readAll]
    exact apply_ite (answer <$> ·) ..
  · rw [List.drop_eq_nil_of_le (by omega), List.getElem?_eq_none (by omega)]
    rfl

theorem readAll_word {stages : List (Stage τ σ)} {word : List τ} (h : Word stages word)
    (more : List τ) (s : σ) :
    (readAll stages (word ++ more) s : Outcome ε (Option σ)) =
      .ok (some (effect stages word s)) := by
  induction h generalizing s with
  | nil => rfl
  | @cons stage t stages word haccepts _ ih =>
    rw [List.cons_append, readAll, if_pos haccepts, ih]
    rfl

/-- A word that is cut off makes the reader run past the end. -/
theorem readAll_cut {stages : List (Stage τ σ)} {word more : List τ}
    (h : Word stages (word ++ more)) (hmore : more ≠ []) (s : σ) :
    (readAll stages word s : Outcome ε (Option σ)) = .error .fault := by
  induction word generalizing stages s with
  | nil =>
    cases stages with
    | nil =>
      cases h
      exact absurd rfl hmore
    | cons stage stages => rfl
  | cons t word ih =>
    rw [List.cons_append] at h
    cases h with
    | cons haccepts hrest =>
      rw [readAll, if_pos haccepts]
      exact ih hrest _

/-- Tokens that neither start nor continue a word are refused. -/
theorem readAll_other {stages : List (Stage τ σ)} (hword : ∃ word, Word stages word)
    (ts : List τ) (s : σ) (h : ∀ word, Word stages word → ¬ word <+: ts ∧ ¬ ts <+: word) :
    (readAll stages ts s : Outcome ε (Option σ)) = .ok none := by
  obtain ⟨_, hword⟩ := hword
  induction hword generalizing ts s with
  | nil => exact absurd List.nil_prefix (h [] .nil).1
  | @cons stage t₀ stages word haccepts₀ htail ih =>
    cases ts with
    | nil => exact absurd List.nil_prefix (h (t₀ :: word) (.cons haccepts₀ htail)).2
    | cons t ts =>
      by_cases haccepts : stage.accepts t = true
      · rw [readAll, if_pos haccepts]
        apply ih
        intro word hw
        have hcons := h (t :: word) (.cons haccepts hw)
        simpa only [List.cons_prefix_cons, true_and] using hcons
      · rw [readAll, if_neg haccepts]

end
end TokenStages
