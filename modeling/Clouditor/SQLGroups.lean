import Clouditor.SQLConditions

/-! Conditions with parentheses: each fragment of a joined text may be a disjunction in
parentheses, which the AND around it does not tear apart. -/
namespace SQL
set_option autoImplicit false

/-- `(p OR q OR ...)`, or a comparison on its own. -/
abbrev Group (C : Type) := List (Predicate C)
abbrev BoundGroup (C : Type) := List (Bound C)

section
variable {C : Type}

/-- The placeholders of a group take their arguments; the others are left. -/
def bindGroup : Group C → List Arg → Option (BoundGroup C × List Arg)
  | [], as => some ([], as)
  | p :: g, as =>
    if p.takesArg then
      match as with
      | [] => none
      | a :: as => (bindGroup g as).map (fun r => ((p, some a) :: r.1, r.2))
    else (bindGroup g as).map (fun r => ((p, none) :: r.1, r.2))

def bindGroups : List (Lexeme (Group C)) → List Arg → Option (List (Lexeme (BoundGroup C)))
  | [], [] => some []
  | [], _ :: _ => none
  | .and :: t, as => (bindGroups t as).map (.and :: ·)
  | .or :: t, as => (bindGroups t as).map (.or :: ·)
  | .atom g :: t, as =>
    (bindGroup g as).bind (fun r => (bindGroups t r.2).map (.atom r.1 :: ·))

/-- Fragments that are groups, each with the arguments appended for it. -/
abbrev GroupQuery (C : Type) := List (Group C × List Arg)

def groupFragment (g : BoundGroup C) : Group C × List Arg :=
  (g.map Prod.fst, g.flatMap (fun b => b.2.toList))

variable {α : Type} (column : α → C → Value) (now : ℤ)

/-- A group is true when one of its members is. -/
def meets (r : α) (g : BoundGroup C) : Bool := g.any (holds column now r)

def GroupQuery.select (q : GroupQuery C) (rows : List α) : Option (List α) :=
  (bindGroups (joinAnd (q.map (fun p => [.atom p.1]))) (q.flatMap Prod.snd)).map
    (fun t => rows.filter (fun r => (disjuncts t).any (fun d => d.all (meets column now r))))

theorem bindGroup_fits (g : BoundGroup C) (h : ∀ b ∈ g, Fits b) (as : List Arg) :
    bindGroup (groupFragment g).1 ((groupFragment g).2 ++ as) = some (g, as) := by
  induction g with
  | nil => rfl
  | cons b g ih =>
    obtain ⟨p,a⟩ := b
    have hp : p.takesArg = a.isSome := h (p, a) List.mem_cons_self
    have hg := ih (fun c hc => h c (List.mem_cons_of_mem _ hc))
    simp only [groupFragment] at hg ⊢
    cases a <;> simp [bindGroup, hp, hg]

theorem bindGroups_fits (gs : List (BoundGroup C)) (h : ∀ g ∈ gs, ∀ b ∈ g, Fits b) :
    bindGroups (joinAnd ((gs.map groupFragment).map (fun p => [.atom p.1])))
      ((gs.map groupFragment).flatMap Prod.snd) =
        some (joinAnd (gs.map (fun g => [.atom g]))) := by
  induction gs with
  | nil => rfl
  | cons g gs ih =>
    have hg := bindGroup_fits g (h g List.mem_cons_self)
    have hgs := ih (fun g' hg' => h g' (List.mem_cons_of_mem _ hg'))
    cases gs with
    | nil =>
      have hg' := hg []
      rw [List.append_nil] at hg'
      simp [joinAnd, bindGroups, hg']
    | cons g' gs =>
      simp only [List.map_cons, List.flatMap_cons] at hgs ⊢
      rw [joinAnd_cons [.atom (groupFragment g).1] _ (by simp), joinAnd_cons [.atom g] _ (by simp)]
      simp only [List.cons_append, List.nil_append, bindGroups, hg, Option.bind_some, hgs,
        Option.map_some]

/-- Joined groups select the rows that meet each of them. -/
theorem select_groups (gs : List (BoundGroup C)) (h : ∀ g ∈ gs, ∀ b ∈ g, Fits b)
    (rows : List α) :
    GroupQuery.select column now (gs.map groupFragment) rows =
      some (rows.filter (fun r => gs.all (meets column now r))) := by
  rw [GroupQuery.select, bindGroups_fits gs h, Option.map_some]
  simp only [disjuncts_atoms, List.any_cons, List.any_nil, Bool.or_false]

end
end SQL
