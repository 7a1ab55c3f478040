import Clouditor.EvaluationData
import Mathlib.Data.List.Perm.Basic
import Mathlib.Tactic.Push
import Mathlib.Tactic.SplitIfs
import Mathlib.Tactic.Tauto

/-! The loop of `evaluateControl` that turns the results of the sub-controls into
the status and the failing ids of their parent. -/
namespace Clouditor
set_option autoImplicit false

/-- One pass of the loop over the results of the sub-controls. -/
def aggregateStep (acc : EvaluationStatus × List String) (r : EvaluationResult) :
    EvaluationStatus × List String :=
  if (r.status = .compliant ∨ r.status = .compliantManually) ∧
      (acc.1 ≠ .notCompliant ∧ acc.1 ≠ .notCompliantManually) then (.compliant, acc.2)
  -- a pending result is only taken as such while the control itself is pending
  else if r.status = .pending ∧ acc.1 = .pending then (.pending, acc.2)
  -- all others end up here, also compliant ones once the control has failed
  else (.notCompliant, acc.2 ++ r.failingAssessmentResultIds)

def aggregate (results : List EvaluationResult) : EvaluationStatus × List String :=
  results.foldl aggregateStep (.pending, [])

def aggregateStatus (results : List EvaluationResult) : EvaluationStatus := (aggregate results).1

def aggregateFailing (results : List EvaluationResult) : List String := (aggregate results).2

def EvaluationResult.isCompliant (r : EvaluationResult) : Prop :=
  r.status = .compliant ∨ r.status = .compliantManually

def EvaluationResult.isPending (r : EvaluationResult) : Prop := r.status = .pending

def EvaluationResult.isFailing (r : EvaluationResult) : Prop :=
  r.status = .notCompliant ∨ r.status = .notCompliantManually

instance (r : EvaluationResult) : Decidable r.isCompliant := inferInstanceAs (Decidable (_ ∨ _))
instance (r : EvaluationResult) : Decidable r.isPending := inferInstanceAs (Decidable (_ = _))
instance (r : EvaluationResult) : Decidable r.isFailing := inferInstanceAs (Decidable (_ ∨ _))

/-- The result `evaluateControl` creates for the parent control. -/
def controlResult (id : String) (now : Time) (toe : TargetOfEvaluation) (control : Control)
    (results : List EvaluationResult) : EvaluationResult where
  id := id
  timestamp := some now
  controlCategoryName := control.categoryName
  controlId := control.id
  parentControlId := none
  cloudServiceId := toe.cloudServiceId
  controlCatalogId := toe.catalogId
  status := aggregateStatus results
  failingAssessmentResultIds := aggregateFailing results
  validUntil := none

/-- Only compliant and pending results, and no pending one after a compliant one:
the lists on which the loop never takes its last branch. -/
def Undecided (l : List EvaluationResult) : Prop :=
  (∀ r ∈ l, r.isCompliant ∨ r.isPending) ∧ l.Pairwise (fun x y => y.isPending → x.isPending)

instance (l : List EvaluationResult) : Decidable (Undecided l) :=
  inferInstanceAs (Decidable (_ ∧ _))

/-- No id is carried by a compliant or pending result that the loop meets after it
has decided against the control. -/
def IdsBeforeDecision (l : List EvaluationResult) : Prop :=
  ∀ pre r post, l = pre ++ r :: post → ¬ r.isFailing → r.failingAssessmentResultIds ≠ [] →
    (r.isCompliant ∧ Undecided pre) ∨ (r.isPending ∧ ∀ x ∈ pre, x.isPending)

theorem not_isCompliant_of_isPending (r : EvaluationResult) (h : r.isPending) :
    ¬ r.isCompliant := by
  unfold EvaluationResult.isPending at h
  simp [EvaluationResult.isCompliant, h]

theorem not_isFailing_of_isCompliant (r : EvaluationResult) (h : r.isCompliant) :
    ¬ r.isFailing := by
  rcases h with h | h <;> simp [EvaluationResult.isFailing, h]

theorem not_isFailing_of_isPending (r : EvaluationResult) (h : r.isPending) :
    ¬ r.isFailing := by
  unfold EvaluationResult.isPending at h
  simp [EvaluationResult.isFailing, h]

theorem forall_isPending_append_one (l : List EvaluationResult) (r : EvaluationResult) :
    (∀ x ∈ l ++ [r], x.isPending) ↔ r.isPending ∧ ∀ x ∈ l, x.isPending := by
  simp only [List.forall_mem_append, List.mem_singleton, forall_eq]
  exact and_comm

theorem undecided_of_isPending (l : List EvaluationResult) (h : ∀ x ∈ l, x.isPending) :
    Undecided l :=
  ⟨fun x hx => Or.inr (h x hx), List.pairwise_of_forall_mem_list (fun x hx _ _ _ => h x hx)⟩

theorem undecided_of_isCompliant (l : List EvaluationResult) (h : ∀ x ∈ l, x.isCompliant) :
    Undecided l := by
  refine ⟨fun x hx => Or.inl (h x hx), List.pairwise_of_forall_mem_list ?_⟩
  intro x _ y hy hp
  exact False.elim (not_isCompliant_of_isPending y hp (h y hy))

theorem undecided_append (l m : List EvaluationResult) (hl : ∀ x ∈ l, x.isPending)
    (hm : Undecided m) : Undecided (l ++ m) := by
  refine ⟨List.forall_mem_append.mpr ⟨fun x hx => Or.inr (hl x hx), hm.1⟩, ?_⟩
  exact List.pairwise_append.mpr
    ⟨(undecided_of_isPending l hl).2, hm.2, fun x hx _ _ _ => hl x hx⟩

theorem undecided_append_one (l : List EvaluationResult) (r : EvaluationResult) :
    Undecided (l ++ [r]) ↔
      (r.isCompliant ∧ Undecided l) ∨ (r.isPending ∧ ∀ x ∈ l, x.isPending) := by
  simp only [Undecided, List.pairwise_append, List.forall_mem_append, List.mem_singleton,
    forall_eq]
  constructor
  · rintro ⟨⟨hgood,hc | hp⟩,hl,_,hlast⟩
    · exact Or.inl ⟨hc, hgood, hl⟩
    · exact Or.inr ⟨hp, fun x hx => hlast x hx hp⟩
  · rintro (⟨hc,hgood,hl⟩ | ⟨hp,hall⟩)
    · refine ⟨⟨hgood, Or.inl hc⟩, hl, List.pairwise_singleton _ _, fun x _ hp => ?_⟩
      exact False.elim (not_isCompliant_of_isPending r hp hc)
    · obtain ⟨hgood,hl⟩ := undecided_of_isPending l hall
      exact ⟨⟨hgood, Or.inr hp⟩, hl, List.pairwise_singleton _ _, fun x hx _ => hall x hx⟩

theorem aggregate_append_one (l : List EvaluationResult) (r : EvaluationResult) :
    aggregate (l ++ [r]) = aggregateStep (aggregate l) r := by
  simp only [aggregate, List.foldl_append, List.foldl_cons, List.foldl_nil]

/-- The loop itself never produces a manual or an unspecified status. -/
theorem aggregateStatus_mem (l : List EvaluationResult) :
    aggregateStatus l ∈ [.pending, .compliant, .notCompliant] := by
  induction l using List.reverseRecOn with
  | nil => decide
  | append_singleton l r _ =>
    rw [aggregateStatus, aggregate_append_one, aggregateStep]
    split_ifs <;> simp

/-- The three ways one pass can go. -/
theorem aggregate_append_one_cases (l : List EvaluationResult) (r : EvaluationResult) :
    (r.isCompliant ∧ aggregateStatus l ≠ .notCompliant ∧
      aggregate (l ++ [r]) = (.compliant, aggregateFailing l)) ∨
    (r.isPending ∧ aggregateStatus l = .pending ∧
      aggregate (l ++ [r]) = (.pending, aggregateFailing l)) ∨
    (¬ (r.isCompliant ∧ aggregateStatus l ≠ .notCompliant) ∧
      ¬ (r.isPending ∧ aggregateStatus l = .pending) ∧
      aggregate (l ++ [r]) =
        (.notCompliant, aggregateFailing l ++ r.failingAssessmentResultIds)) := by
  have hm : aggregateStatus l ≠ .notCompliantManually := by
    have h := aggregateStatus_mem l
    intro hs
    simp [hs] at h
  rw [aggregate_append_one, aggregateStep]
  by_cases hc : r.isCompliant ∧ aggregateStatus l ≠ .notCompliant
  · exact Or.inl ⟨hc.1, hc.2, if_pos ⟨hc.1, hc.2, hm⟩⟩
  · rw [if_neg (fun h => hc ⟨h.1, h.2.1⟩)]
    by_cases hp : r.isPending ∧ aggregateStatus l = .pending
    · exact Or.inr (Or.inl ⟨hp.1, hp.2, if_pos hp⟩)
    · exact Or.inr (Or.inr ⟨hc, hp, if_neg hp⟩)

theorem aggregateStatus_eq_pending (l : List EvaluationResult) :
    aggregateStatus l = .pending ↔ ∀ r ∈ l, r.isPending := by
  induction l using List.reverseRecOn with
  | nil => simp [aggregateStatus, aggregate]
  | append_singleton l r ih =>
    rw [forall_isPending_append_one, ← ih]
    rcases aggregate_append_one_cases l r with ⟨hc,_,h⟩ | ⟨hp,hs,h⟩ | ⟨_,hp,h⟩
    · have hne : ¬ r.isPending := fun hp => not_isCompliant_of_isPending r hp hc
      simp [aggregateStatus, h, hne]
    · simp [aggregateStatus, h, hp, show (aggregate l).1 = .pending from hs]
    · simpa [aggregateStatus, h] using hp

theorem aggregateStatus_ne_notCompliant (l : List EvaluationResult) :
    aggregateStatus l ≠ .notCompliant ↔ Undecided l := by
  induction l using List.reverseRecOn with
  | nil => simp [aggregateStatus, aggregate, Undecided]
  | append_singleton l r ih =>
    rw [undecided_append_one, ← ih, ← aggregateStatus_eq_pending]
    rcases aggregate_append_one_cases l r with ⟨hc,hs,h⟩ | ⟨hp,hs,h⟩ | ⟨hc,hp,h⟩
    · exact iff_of_true (by simp [aggregateStatus, h]) (Or.inl ⟨hc, hs⟩)
    · exact iff_of_true (by simp [aggregateStatus, h]) (Or.inr ⟨hp, hs⟩)
    · exact iff_of_false (by simp [aggregateStatus, h]) (by tauto)

theorem aggregateStatus_eq_compliant (l : List EvaluationResult) :
    aggregateStatus l = .compliant ↔ Undecided l ∧ ∃ r ∈ l, ¬ r.isPending := by
  have hm := aggregateStatus_mem l
  have hp := (aggregateStatus_eq_pending l).not
  rw [← aggregateStatus_ne_notCompliant]
  push Not at hp
  rw [← hp]
  -- of the three statuses the loop can produce only this one is left
  cases h : aggregateStatus l <;> simp [h] at hm ⊢

/-- A single result that is neither compliant nor pending decides the control
wherever it stands. -/
theorem aggregateStatus_of_mem (l : List EvaluationResult) (r : EvaluationResult) (hr : r ∈ l)
    (hc : ¬ r.isCompliant) (hp : ¬ r.isPending) : aggregateStatus l = .notCompliant := by
  by_contra h
  rcases ((aggregateStatus_ne_notCompliant l).mp h).1 r hr with h | h
  · exact hc h
  · exact hp h

theorem aggregateStatus_pendings_first (ps cs : List EvaluationResult) (c : EvaluationResult)
    (hps : ∀ x ∈ ps, x.isPending) (hcs : ∀ x ∈ cs, x.isCompliant) (hc : c ∈ cs) :
    aggregateStatus (ps ++ cs) = .compliant := by
  refine (aggregateStatus_eq_compliant _).mpr
    ⟨undecided_append ps cs hps (undecided_of_isCompliant cs hcs), c, ?_, ?_⟩
  · exact List.mem_append_right ps hc
  · exact fun h => not_isCompliant_of_isPending c h (hcs c hc)

theorem aggregateStatus_pending_last (cs ps : List EvaluationResult) (c p : EvaluationResult)
    (hc : c ∈ cs) (hcc : c.isCompliant) (hp : p ∈ ps) (hpp : p.isPending) :
    aggregateStatus (cs ++ ps) = .notCompliant := by
  by_contra h
  have hpw := ((aggregateStatus_ne_notCompliant _).mp h).2
  exact not_isCompliant_of_isPending c ((List.pairwise_append.mp hpw).2.2 c hc p hp hpp) hcc

/-- Without a deciding result and without a mix of compliant and pending ones the
status is read off the members. -/
theorem aggregateStatus_unmixed (l : List EvaluationResult)
    (hgood : ∀ r ∈ l, ¬ r.isCompliant → r.isPending)
    (hmix : (∃ r ∈ l, r.isCompliant) → ∀ r ∈ l, ¬ r.isPending) :
    aggregateStatus l = if ∃ r ∈ l, r.isCompliant then .compliant else .pending := by
  by_cases hcomp : ∃ r ∈ l, r.isCompliant
  · rw [if_pos hcomp]
    have hall (x : EvaluationResult) (hx : x ∈ l) : x.isCompliant := by
      by_contra hxc
      exact hmix hcomp x hx (hgood x hx hxc)
    obtain ⟨c,hc,_⟩ := hcomp
    exact aggregateStatus_pendings_first [] l c (by simp) hall hc
  · rw [if_neg hcomp]
    push Not at hcomp
    exact (aggregateStatus_eq_pending l).mpr (fun x hx => hgood x hx (hcomp x hx))

/-- The parent's status does not depend on the order of the results exactly when some
result decides it or the list does not mix compliant and pending results. -/
theorem controlResult_status_perm_iff (id : String) (now : Time) (toe : TargetOfEvaluation)
    (control : Control) (l : List EvaluationResult) :
    (∀ l' : List EvaluationResult, l'.Perm l →
      (controlResult id now toe control l').status =
        (controlResult id now toe control l).status) ↔
    (∃ r ∈ l, ¬ r.isCompliant ∧ ¬ r.isPending) ∨
      ¬ ((∃ r ∈ l, r.isCompliant) ∧ ∃ r ∈ l, r.isPending) := by
  change (∀ l' : List EvaluationResult, l'.Perm l → aggregateStatus l' = aggregateStatus l) ↔ _
  constructor
  · intro hperm
    by_contra hmix
    push Not at hmix
    obtain ⟨hgood,⟨c,hc,hcc⟩,p,hp,hpp⟩ := hmix
    -- pending results first keep the control compliant, pending results last sink it
    let ps := l.filter (fun r => decide r.isPending)
    let cs := l.filter (fun r => !decide r.isPending)
    have hps (x : EvaluationResult) (hx : x ∈ ps) : x.isPending := by
      simpa using (List.mem_filter.mp hx).2
    have hcs (x : EvaluationResult) (hx : x ∈ cs) : x.isCompliant := by
      obtain ⟨hxl,hxp⟩ := List.mem_filter.mp hx
      by_contra hxc
      simp [hgood x hxl hxc] at hxp
    have hcmem : c ∈ cs :=
      List.mem_filter.mpr ⟨hc, by simpa using fun h => not_isCompliant_of_isPending c h hcc⟩
    have hpmem : p ∈ ps := List.mem_filter.mpr ⟨hp, by simpa using hpp⟩
    have hsplit : (ps ++ cs).Perm l := List.filter_append_perm _ l
    have h := (hperm _ hsplit).trans (hperm _ (List.perm_append_comm.trans hsplit)).symm
    rw [aggregateStatus_pendings_first ps cs c hps hcs hcmem,
      aggregateStatus_pending_last cs ps c p hcmem hcc hpmem hpp] at h
    cases h
  · intro h l' hl'
    -- both facts about members carry over to the permuted list
    by_cases hbad : ∃ r ∈ l, ¬ r.isCompliant ∧ ¬ r.isPending
    · obtain ⟨r,hr,hc,hp⟩ := hbad
      rw [aggregateStatus_of_mem l r hr hc hp,
        aggregateStatus_of_mem l' r (hl'.mem_iff.mpr hr) hc hp]
    · have hmix := h.resolve_left hbad
      push Not at hbad hmix
      rw [aggregateStatus_unmixed l hbad hmix, aggregateStatus_unmixed l']
      · simp only [hl'.mem_iff]
      · exact fun r hr => hbad r (hl'.mem_iff.mp hr)
      · simpa only [hl'.mem_iff] using hmix

/-- The result of a sub-control of one fixed target, with a status and failing ids of
our choice. -/
def subcontrolResult (controlId : String) (status : EvaluationStatus) (failing : List String) :
    EvaluationResult where
  id := controlId
  cloudServiceId := "11111111-1111-1111-1111-111111111111"
  controlId := controlId
  controlCategoryName := "Category"
  controlCatalogId := "Catalog"
  parentControlId := some "OPS-13"
  status := status
  timestamp := some 0
  failingAssessmentResultIds := failing
  validUntil := none

/-- A pending and a compliant sub-control: the parent is compliant in one order and
not compliant in the other. -/
theorem controlResult_status_pending_compliant :
    [subcontrolResult "OPS-13.2" .compliant [], subcontrolResult "OPS-13.1" .pending []].Perm
      [subcontrolResult "OPS-13.1" .pending [], subcontrolResult "OPS-13.2" .compliant []] ∧
    (controlResult "id" 0 ⟨"11111111-1111-1111-1111-111111111111", "Catalog", none⟩
      ⟨"OPS-13", "Category", "Catalog", [], [], none, none⟩
      [subcontrolResult "OPS-13.2" .compliant [], subcontrolResult "OPS-13.1" .pending []]).status
      ≠ (controlResult "id" 0 ⟨"11111111-1111-1111-1111-111111111111", "Catalog", none⟩
      ⟨"OPS-13", "Category", "Catalog", [], [], none, none⟩
      [subcontrolResult "OPS-13.1" .pending [],
        subcontrolResult "OPS-13.2" .compliant []]).status :=
  ⟨List.Perm.swap _ _ _, by decide⟩

/-- The failing ids as the results' own statuses suggest them. -/
def failingIds (l : List EvaluationResult) : List String :=
  (l.filter (fun r => decide r.isFailing)).flatMap EvaluationResult.failingAssessmentResultIds

theorem failingIds_append_one (l : List EvaluationResult) (r : EvaluationResult) :
    failingIds (l ++ [r]) =
      failingIds l ++ if r.isFailing then r.failingAssessmentResultIds else [] := by
  by_cases h : r.isFailing <;> simp [failingIds, h]

/-- The ids one pass appends. -/
theorem aggregateFailing_append_one (l : List EvaluationResult) (r : EvaluationResult) :
    aggregateFailing (l ++ [r]) = aggregateFailing l ++
      if Undecided (l ++ [r]) then [] else r.failingAssessmentResultIds := by
  have hu := aggregateStatus_ne_notCompliant (l ++ [r])
  -- ids are appended exactly when the pass leaves the control not compliant
  rcases aggregate_append_one_cases l r with ⟨_,_,h⟩ | ⟨_,_,h⟩ | ⟨_,_,h⟩
  all_goals
    have hs : aggregateStatus (l ++ [r]) = _ := congrArg Prod.fst h
    simp [aggregateFailing, h, ← hu, hs]

theorem not_undecided_of_isFailing (l : List EvaluationResult) (r : EvaluationResult)
    (hf : r.isFailing) : ¬ Undecided (l ++ [r]) := by
  rw [undecided_append_one]
  rintro (⟨h,_⟩ | ⟨h,_⟩)
  · exact not_isFailing_of_isCompliant r h hf
  · exact not_isFailing_of_isPending r h hf

theorem failing_part_sublist (l : List EvaluationResult) (r : EvaluationResult) :
    (if r.isFailing then r.failingAssessmentResultIds else []).Sublist
      (if Undecided (l ++ [r]) then [] else r.failingAssessmentResultIds) := by
  by_cases hf : r.isFailing
  · rw [if_pos hf, if_neg (not_undecided_of_isFailing l r hf)]
  · rw [if_neg hf]
    exact List.nil_sublist _

/-- No failing id is dropped. -/
theorem failingIds_sublist (l : List EvaluationResult) :
    (failingIds l).Sublist (aggregateFailing l) := by
  induction l using List.reverseRecOn with
  | nil => simp [failingIds]
  | append_singleton l r ih =>
    rw [failingIds_append_one, aggregateFailing_append_one]
    exact ih.append (failing_part_sublist l r)

theorem idsBeforeDecision_append_one (l : List EvaluationResult) (r : EvaluationResult) :
    IdsBeforeDecision (l ++ [r]) ↔ IdsBeforeDecision l ∧
      (¬ r.isFailing → r.failingAssessmentResultIds ≠ [] → Undecided (l ++ [r])) := by
  constructor
  · intro h
    refine ⟨?_, fun hf hids => ?_⟩
    · rintro pre x post rfl
      exact h pre x (post ++ [r]) (by simp)
    · exact (undecided_append_one l r).mpr (h l r [] rfl hf hids)
  · rintro ⟨hl,hr⟩ pre x post heq hf hids
    -- the result in question is the last one, or it stands in `l`
    rcases List.eq_nil_or_concat post with rfl | ⟨post',y,rfl⟩
    · obtain ⟨rfl,hx⟩ := List.append_inj' heq rfl
      obtain rfl := List.singleton_inj.mp hx
      exact (undecided_append_one l r).mp (hr hf hids)
    · have hsplit : l ++ [r] = (pre ++ x :: post') ++ [y] := by simpa using heq
      exact hl pre x post' (List.append_inj' hsplit rfl).1 hf hids

/-- The stored failing ids are those of the failing results exactly when no compliant
or pending result that carries ids comes after the loop has decided. -/
theorem controlResult_failing_iff (id : String) (now : Time) (toe : TargetOfEvaluation)
    (control : Control) (l : List EvaluationResult) :
    (controlResult id now toe control l).failingAssessmentResultIds = failingIds l ↔
      IdsBeforeDecision l := by
  change aggregateFailing l = failingIds l ↔ _
  induction l using List.reverseRecOn with
  | nil =>
    refine iff_of_true rfl ?_
    intro pre r post h
    simp at h
  | append_singleton l r ih =>
    rw [idsBeforeDecision_append_one, ← ih]
    rw [aggregateFailing_append_one, failingIds_append_one]
    have hl := (failingIds_sublist l).length_le
    have hr := (failing_part_sublist l r).length_le
    constructor
    · intro heq
      -- neither half of the right side is longer than its counterpart on the left
      have hlen : (aggregateFailing l).length = (failingIds l).length := by
        have h := congrArg List.length heq
        simp only [List.length_append] at h
        omega
      obtain ⟨hpre,hpart⟩ := List.append_inj heq hlen
      refine ⟨hpre, fun hf hids => ?_⟩
      by_contra hu
      rw [if_neg hu, if_neg hf] at hpart
      exact hids hpart
    · rintro ⟨heq,hpart⟩
      rw [heq]
      by_cases hf : r.isFailing
      · rw [if_pos hf, if_neg (not_undecided_of_isFailing l r hf)]
      · by_cases hids : r.failingAssessmentResultIds = []
        · simp [hids]
        · rw [if_neg hf, if_pos (hpart hf hids)]

/-- A manual result that is compliant but names assessment results puts them among the
failing ones as soon as another sub-control fails. -/
theorem controlResult_failing_compliant :
    (controlResult "id" 0 ⟨"11111111-1111-1111-1111-111111111111", "Catalog", none⟩
      ⟨"OPS-13", "Category", "Catalog", [], [], none, none⟩
      [subcontrolResult "OPS-13.1" .notCompliant ["aaaaaaaa-1111-1111-1111-111111111111"],
        subcontrolResult "OPS-13.2" .compliantManually
          ["bbbbbbbb-1111-1111-1111-111111111111"]]).failingAssessmentResultIds ≠
    failingIds
      [subcontrolResult "OPS-13.1" .notCompliant ["aaaaaaaa-1111-1111-1111-111111111111"],
        subcontrolResult "OPS-13.2" .compliantManually
          ["bbbbbbbb-1111-1111-1111-111111111111"]] := by
  decide

end Clouditor
