import Clouditor.RegoValues
import Mathlib.Logic.Function.Basic

/-! The bodies of Rego rules as data: terms with any number of values, conditions on them, and
what can be said of both without the documents they are about. -/
namespace Rego
set_option autoImplicit false

section Language
variable (D K F P : Type)

inductive Arith where
  | sub
  | mul
  | div

/-- Terms over documents `D`, names of fields `K` and built-in functions `F`. -/
inductive Term where
  | doc (d : D)
  | const (v : Json)
  | var (x : String)
  | field (t : Term) (key : K)
  /-- The term `t[_]`. -/
  | each (t : Term)
  | call (f : F) (t : Term)
  | arith (op : Arith) (t u : Term)

/-- Expressions, where `P` are the functions of other rules. -/
inductive Atom where
  | truth (t : Term D K F)
  | eq (t u : Term D K F)
  | ne (t u : Term D K F)
  | test (p : P) (t u v : Term D K F)

/-- A body is read from the front. -/
inductive Body where
  | done
  | also (a : Atom D K F P) (rest : Body)
  | fails (a : Atom D K F P) (rest : Body)
  /-- The assignment `x := t`, also for `some x in t` with the term `t[_]`. -/
  | bind (x : String) (t : Term D K F) (rest : Body)
  | every (x : String) (t : Term D K F) (inner rest : Body)

/-- What the names stand for. -/
structure Interpretation where
  doc : D → Option Json
  name : K → String
  call : F → Json → Option Json
  test : P → Json → Json → Json → Bool

end Language

section Evaluation
variable {D K F P : Type}

/-- What is not a number, or divided by zero, is undefined. -/
def Arith.eval : Arith → Json → Json → Option Json
  | .sub, .number a, .number b => some (.number (a - b))
  | .mul, .number a, .number b => some (.number (a * b))
  | .div, .number a, .number b => if b = 0 then none else some (.number (a / b))
  | _, _, _ => none

variable (I : Interpretation D K F P)

/-- The values of a term: none if it is undefined, and several if it goes through something. -/
def Term.values (vars : String → Option Json) : Term D K F → List Json
  | .doc d => (I.doc d).toList
  | .const v => [v]
  | .var x => (vars x).toList
  | .field t key => (t.values vars).filterMap (Json.field (I.name key))
  | .each t => (t.values vars).flatMap Json.items
  | .call f t => (t.values vars).filterMap (I.call f)
  | .arith op t u => (t.values vars).flatMap (fun a => (u.values vars).filterMap (op.eval a))

/-- An expression holds if it does for one choice of the values. -/
def Atom.holds (vars : String → Option Json) : Atom D K F P → Bool
  | .truth t => (t.values I vars).any (fun v => Rego.holds (some v))
  | .eq t u => (t.values I vars).any (fun a => (u.values I vars).any a.eqv)
  | .ne t u => (t.values I vars).any (fun a => (u.values I vars).any (fun b => !a.eqv b))
  | .test p t u v => (t.values I vars).any (fun a => (u.values I vars).any (fun b =>
      (v.values I vars).any (I.test p a b)))

def Body.holds (vars : String → Option Json) : Body D K F P → Bool
  | .done => true
  | .also a rest => a.holds I vars && rest.holds vars
  | .fails a rest => !a.holds I vars && rest.holds vars
  | .bind x t rest =>
    (t.values I vars).any (fun v => rest.holds (Function.update vars x (some v)))
  | .every x t inner rest =>
    (t.values I vars).any (fun v =>
      v.items.all (fun w => inner.holds (Function.update vars x (some w)))) && rest.holds vars

/-- A rule holds if one of its bodies does. -/
def ruleHolds (rule : List (Body D K F P)) : Bool := rule.any (Body.holds I (fun _ => none))

end Evaluation

section Reading
variable {D K F P : Type}

/-- The documents of a term, each with the field of it that is read, if it is only one. -/
def Term.reads : Term D K F → List (D × Option K)
  | .doc d => [(d, none)]
  | .const _ => []
  | .var _ => []
  | .field t key =>
    match t with
    | .doc d => [(d, some key)]
    | t => t.reads
  | .each t => t.reads
  | .call _ t => t.reads
  | .arith _ t u => t.reads ++ u.reads

def Atom.reads : Atom D K F P → List (D × Option K)
  | .truth t => t.reads
  | .eq t u => t.reads ++ u.reads
  | .ne t u => t.reads ++ u.reads
  | .test _ t u v => t.reads ++ u.reads ++ v.reads

def Body.reads : Body D K F P → List (D × Option K)
  | .done => []
  | .also a rest => a.reads ++ rest.reads
  | .fails a rest => a.reads ++ rest.reads
  | .bind _ t rest => t.reads ++ rest.reads
  | .every _ t inner rest => t.reads ++ inner.reads ++ rest.reads

variable (I : Interpretation D K F P)

def Interpretation.withDocs (docs : D → Option Json) : Interpretation D K F P :=
  { I with doc := docs }

/-- Two sets of documents agree on what is read. -/
def AgreeOn (docs docs' : D → Option Json) : D × Option K → Prop
  | (d, none) => docs d = docs' d
  | (d, some key) =>
    (docs d).bind (Json.field (I.name key)) = (docs' d).bind (Json.field (I.name key))

variable {I} {docs docs' : D → Option Json}

theorem filterMap_toList {α β : Type} (f : α → Option β) (o : Option α) :
    o.toList.filterMap f = (o.bind f).toList := by
  cases o with
  | none => rfl
  | some a => cases h : f a <;> simp [h]

theorem Term.values_congr (t : Term D K F) (h : ∀ r ∈ t.reads, AgreeOn I docs docs' r)
    (vars : String → Option Json) :
    t.values (I.withDocs docs) vars = t.values (I.withDocs docs') vars := by
  induction t with
  | doc d =>
    have hd : docs d = docs' d := h (d, none) List.mem_cons_self
    exact congrArg Option.toList hd
  | const v => rfl
  | var x => rfl
  | field t key ih =>
    cases t with
    | doc d =>
      have hd : (docs d).bind (Json.field (I.name key)) =
          (docs' d).bind (Json.field (I.name key)) := h (d, some key) List.mem_cons_self
      calc (docs d).toList.filterMap (Json.field (I.name key))
        _ = ((docs d).bind (Json.field (I.name key))).toList := filterMap_toList ..
        _ = ((docs' d).bind (Json.field (I.name key))).toList := by rw [hd]
        _ = (docs' d).toList.filterMap (Json.field (I.name key)) := (filterMap_toList ..).symm
    | _ => exact congrArg (List.filterMap (Json.field (I.name key))) (ih h)
  | each t ih => exact congrArg (List.flatMap Json.items) (ih h)
  | call f t ih => exact congrArg (List.filterMap (I.call f)) (ih h)
  | arith op t u iht ihu =>
    have ht := iht (fun r hr => h r (List.mem_append_left _ hr))
    have hu := ihu (fun r hr => h r (List.mem_append_right _ hr))
    simp only [Term.values, ht, hu]

theorem Atom.holds_congr (a : Atom D K F P) (h : ∀ r ∈ a.reads, AgreeOn I docs docs' r)
    (vars : String → Option Json) :
    a.holds (I.withDocs docs) vars = a.holds (I.withDocs docs') vars := by
  cases a with
  | truth t => rw [Atom.holds, Atom.holds, t.values_congr h]
  | eq t u =>
    simp only [Atom.reads, List.forall_mem_append] at h
    rw [Atom.holds, Atom.holds, t.values_congr h.1, u.values_congr h.2]
  | ne t u =>
    simp only [Atom.reads, List.forall_mem_append] at h
    rw [Atom.holds, Atom.holds, t.values_congr h.1, u.values_congr h.2]
  | test p t u v =>
    simp only [Atom.reads, List.forall_mem_append] at h
    rw [Atom.holds, Atom.holds, t.values_congr h.1.1, u.values_congr h.1.2, v.values_congr h.2]
    rfl

/-- Whether a body holds depends on what it reads and on nothing else. -/
theorem Body.holds_congr (b : Body D K F P) (h : ∀ r ∈ b.reads, AgreeOn I docs docs' r)
    (vars : String → Option Json) :
    b.holds (I.withDocs docs) vars = b.holds (I.withDocs docs') vars := by
  induction b generalizing vars with
  | done => rfl
  | also a rest ih =>
    simp only [Body.reads, List.forall_mem_append] at h
    rw [Body.holds, Body.holds, a.holds_congr h.1, ih h.2]
  | fails a rest ih =>
    simp only [Body.reads, List.forall_mem_append] at h
    rw [Body.holds, Body.holds, a.holds_congr h.1, ih h.2]
  | bind x t rest ih =>
    simp only [Body.reads, List.forall_mem_append] at h
    rw [Body.holds, Body.holds, t.values_congr h.1]
    simp only [ih h.2]
  | every x t inner rest ihinner ih =>
    simp only [Body.reads, List.forall_mem_append] at h
    rw [Body.holds, Body.holds, t.values_congr h.1.1, ih h.2]
    simp only [ihinner h.1.2]

theorem ruleHolds_congr (rule : List (Body D K F P))
    (h : ∀ r ∈ rule.flatMap Body.reads, AgreeOn I docs docs' r) :
    ruleHolds (I.withDocs docs) rule = ruleHolds (I.withDocs docs') rule := by
  unfold ruleHolds
  induction rule with
  | nil => rfl
  | cons b rule ih =>
    rw [List.flatMap_cons, List.forall_mem_append] at h
    rw [List.any_cons, List.any_cons, b.holds_congr h.1, ih h.2]

end Reading

section Kinds
variable {D K F P : Type}

/-- Kinds of values, with what a field or an item of a value can be. -/
structure KindSystem (name : K → String) where
  Kind : Type
  Fits : Kind → Json → Prop
  unknown : Kind
  const : Json → Kind
  field : Kind → K → List Kind
  items : Kind → List Kind
  /-- Values of the two kinds are never equal. -/
  apart : Kind → Kind → Bool
  fits_unknown : ∀ v, Fits unknown v
  fits_const : ∀ v, Fits (const v) v
  fits_field : ∀ {k v w} (key), Fits k v → v.field (name key) = some w →
    ∃ k' ∈ field k key, Fits k' w
  fits_items : ∀ {k v w}, Fits k v → w ∈ v.items → ∃ k' ∈ items k, Fits k' w
  ne_of_apart : ∀ {k k' v w}, apart k k' = true → Fits k v → Fits k' w → v ≠ w

variable {name : K → String} (S : KindSystem name) (docs : D → List S.Kind)

def Term.kinds (vars : String → List S.Kind) : Term D K F → List S.Kind
  | .doc d => docs d
  | .const v => [S.const v]
  | .var x => vars x
  | .field t key => (t.kinds vars).flatMap (fun k => S.field k key)
  | .each t => (t.kinds vars).flatMap S.items
  | .call _ t => if (t.kinds vars).isEmpty then [] else [S.unknown]
  | .arith _ t u =>
    if (t.kinds vars).isEmpty || (u.kinds vars).isEmpty then [] else [S.unknown]

/-- The expression may hold, as far as the kinds of its terms are known. -/
def Atom.may (vars : String → List S.Kind) : Atom D K F P → Bool
  | .truth t => !(t.kinds S docs vars).isEmpty
  | .eq t u => (t.kinds S docs vars).any (fun k =>
      (u.kinds S docs vars).any (fun k' => !S.apart k k'))
  | .ne t u => !(t.kinds S docs vars).isEmpty && !(u.kinds S docs vars).isEmpty
  | .test _ t u v => !(t.kinds S docs vars).isEmpty && !(u.kinds S docs vars).isEmpty &&
      !(v.kinds S docs vars).isEmpty

def Body.may (vars : String → List S.Kind) : Body D K F P → Bool
  | .done => true
  | .also a rest => a.may S docs vars && rest.may vars
  -- nothing is said of what must not hold, and of what holds for nothing at all
  | .fails _ rest => rest.may vars
  | .bind x t rest => !(t.kinds S docs vars).isEmpty &&
      rest.may (Function.update vars x (t.kinds S docs vars))
  | .every _ t _ rest => !(t.kinds S docs vars).isEmpty && rest.may vars

def ruleMay (rule : List (Body D K F P)) : Bool := rule.any (Body.may S docs (fun _ => []))

/-- The value is of one of the kinds. -/
def OneOf (kinds : List S.Kind) (v : Json) : Prop := ∃ k ∈ kinds, S.Fits k v

variable {S}

theorem OneOf.isEmpty {kinds : List S.Kind} {v : Json} (h : OneOf S kinds v) :
    (!kinds.isEmpty) = true := by
  obtain ⟨k,hk,-⟩ := h
  simp [List.ne_nil_of_mem hk]

end Kinds

section Sound
variable {D K F P : Type} {I : Interpretation D K F P} {S : KindSystem I.name}
  {docs : D → List S.Kind} {vars : String → Option Json} {kinds : String → List S.Kind}
  (hdocs : ∀ d v, I.doc d = some v → OneOf S (docs d) v)
include hdocs

theorem Term.oneOf_kinds (hvars : ∀ x v, vars x = some v → OneOf S (kinds x) v)
    (t : Term D K F) : ∀ v ∈ t.values I vars, OneOf S (t.kinds S docs kinds) v := by
  induction t with
  | doc d =>
    intro v hv
    exact hdocs d v (Option.mem_toList.mp hv)
  | const v =>
    intro w hw
    rw [Term.values, List.mem_singleton] at hw
    exact ⟨S.const v, List.mem_singleton_self _, hw ▸ S.fits_const v⟩
  | var x =>
    intro v hv
    exact hvars x v (Option.mem_toList.mp hv)
  | field t key ih =>
    intro w hw
    obtain ⟨v,hv,hfield⟩ := List.mem_filterMap.mp hw
    obtain ⟨k,hk,hfits⟩ := ih v hv
    obtain ⟨k',hk',hfits'⟩ := S.fits_field key hfits hfield
    exact ⟨k', List.mem_flatMap.mpr ⟨k, hk, hk'⟩, hfits'⟩
  | each t ih =>
    intro w hw
    obtain ⟨v,hv,hitem⟩ := List.mem_flatMap.mp hw
    obtain ⟨k,hk,hfits⟩ := ih v hv
    obtain ⟨k',hk',hfits'⟩ := S.fits_items hfits hitem
    exact ⟨k', List.mem_flatMap.mpr ⟨k, hk, hk'⟩, hfits'⟩
  | call f t ih =>
    intro w hw
    obtain ⟨v,hv,-⟩ := List.mem_filterMap.mp hw
    have hsome := (ih v hv).isEmpty
    rw [Bool.not_eq_true'] at hsome
    rw [Term.kinds, hsome, if_neg Bool.false_ne_true]
    exact ⟨S.unknown, List.mem_singleton_self _, S.fits_unknown w⟩
  | arith op t u iht ihu =>
    intro w hw
    obtain ⟨a,ha,hw⟩ := List.mem_flatMap.mp hw
    obtain ⟨b,hb,-⟩ := List.mem_filterMap.mp hw
    have hta := (iht a ha).isEmpty
    have hub := (ihu b hb).isEmpty
    rw [Bool.not_eq_true'] at hta hub
    rw [Term.kinds, hta, hub, Bool.or_self, if_neg Bool.false_ne_true]
    exact ⟨S.unknown, List.mem_singleton_self _, S.fits_unknown w⟩

theorem Atom.may_of_holds (hvars : ∀ x v, vars x = some v → OneOf S (kinds x) v)
    (a : Atom D K F P) (h : a.holds I vars = true) : a.may S docs kinds = true := by
  have hkinds (t : Term D K F) {v : Json} (hv : v ∈ t.values I vars) :=
    t.oneOf_kinds hdocs hvars v hv
  cases a with
  | truth t =>
    obtain ⟨v,hv,-⟩ := List.any_eq_true.mp h
    exact (hkinds t hv).isEmpty
  | eq t u =>
    obtain ⟨v,hv,hu⟩ := List.any_eq_true.mp h
    obtain ⟨w,hw,heq⟩ := List.any_eq_true.mp hu
    obtain ⟨k,hk,hfits⟩ := hkinds t hv
    obtain ⟨k',hk',hfits'⟩ := hkinds u hw
    have hnot : (!S.apart k k') = true := by
      rw [Bool.not_eq_true', ← Bool.not_eq_true]
      intro hapart
      exact S.ne_of_apart hapart hfits hfits' ((eqv_iff v w).mp heq)
    exact List.any_eq_true.mpr ⟨k, hk, List.any_eq_true.mpr ⟨k', hk', hnot⟩⟩
  | ne t u =>
    obtain ⟨v,hv,hu⟩ := List.any_eq_true.mp h
    obtain ⟨w,hw,-⟩ := List.any_eq_true.mp hu
    rw [Atom.may, (hkinds t hv).isEmpty, (hkinds u hw).isEmpty, Bool.and_self]
  | test p t u v =>
    obtain ⟨a,ha,hu⟩ := List.any_eq_true.mp h
    obtain ⟨b,hb,hv⟩ := List.any_eq_true.mp hu
    obtain ⟨c,hc,-⟩ := List.any_eq_true.mp hv
    rw [Atom.may, (hkinds t ha).isEmpty, (hkinds u hb).isEmpty, (hkinds v hc).isEmpty,
      Bool.and_self, Bool.and_self]

/-- What holds may hold. -/
theorem Body.may_of_holds (hvars : ∀ x v, vars x = some v → OneOf S (kinds x) v)
    (b : Body D K F P) (h : b.holds I vars = true) : b.may S docs kinds = true := by
  induction b generalizing vars kinds with
  | done => rfl
  | also a rest ih =>
    obtain ⟨ha,hrest⟩ := Bool.and_eq_true_iff.mp h
    rw [Body.may, a.may_of_holds hdocs hvars ha, ih hvars hrest, Bool.and_self]
  | fails a rest ih =>
    exact ih hvars (Bool.and_eq_true_iff.mp h).2
  | bind x t rest ih =>
    obtain ⟨v,hv,hrest⟩ := List.any_eq_true.mp h
    have hkind := t.oneOf_kinds hdocs hvars v hv
    rw [Body.may, hkind.isEmpty, Bool.true_and]
    refine ih ?_ hrest
    intro y w hw
    by_cases hy : y = x
    · rw [hy, Function.update_self] at hw ⊢
      cases hw
      exact hkind
    · rw [Function.update_of_ne hy] at hw ⊢
      exact hvars y w hw
  | every x t inner rest _ ih =>
    obtain ⟨hevery,hrest⟩ := Bool.and_eq_true_iff.mp h
    obtain ⟨v,hv,-⟩ := List.any_eq_true.mp hevery
    rw [Body.may, (t.oneOf_kinds hdocs hvars v hv).isEmpty, ih hvars hrest, Bool.and_self]

/-- A rule that may not hold for documents of these kinds holds for none of them. -/
theorem ruleHolds_eq_false (rule : List (Body D K F P)) (h : ruleMay S docs rule = false) :
    ruleHolds I rule = false := by
  rw [← Bool.not_eq_true] at h ⊢
  intro hholds
  obtain ⟨b,hb,hbody⟩ := List.any_eq_true.mp hholds
  apply h
  refine List.any_eq_true.mpr ⟨b, hb, b.may_of_holds hdocs ?_ hbody⟩
  intro x v hv
  cases hv

end Sound
end Rego
