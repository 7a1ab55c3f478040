import Clouditor.AzureBackups

/-! The page driver of the Azure discoverers: `listPager` selects a pager by the scope of the
discovery and calls back for each resource of each page. What is called is logged, and the
callback may change a state of its own. -/
namespace Clouditor
set_option autoImplicit false
open Paged

/-- The two pagers of a client. The second one is for a resource group. -/
inductive PagerKind where
  | all
  | byResourceGroup (name : String)
  deriving DecidableEq

inductive PagerEvent (T : Type) where
  | created (kind : PagerKind)
  | nextPage (kind : PagerKind)
  | called (resource : T)
  deriving DecidableEq

/-- The state that the callback works on, and what was called so far. -/
structure PagerWorld (σ T : Type) where
  state : σ
  events : List (PagerEvent T)

section
variable {σ T R O₁ R₁ O₂ R₂ : Type}

def PagerWorld.log (w : PagerWorld σ T) (ev : PagerEvent T) : PagerWorld σ T :=
  { w with events := w.events ++ [ev] }

/-- The loop over the resources of a page, which the error of a callback ends. -/
def callEach (callback : σ → T → σ × Option Err) :
    PagerWorld σ T → List T → PagerWorld σ T × Option Err
  | w, [] => (w, none)
  | w, resource :: values =>
    let w := w.log (.called resource)
    match callback w.state resource with
    | (s, some err) => ({ w with state := s }, some err)
    | (s, none) => callEach callback { w with state := s } values

/-- A pager is given by the answers to `NextPage`, as long as there are more. -/
def allPages (kind : PagerKind) (callback : PagerWorld σ T → R → PagerWorld σ T × Option Err) :
    PagerWorld σ T → List (Except Err R) → PagerWorld σ T × Option Err
  | w, [] => (w, none)
  | w, .error err :: _ => (w.log (.nextPage kind), some (errGettingNextPage err))
  | w, .ok page :: pages =>
    match callback (w.log (.nextPage kind)) page with
    | (w, some err) => (w, some err)
    | (w, none) => allPages kind callback w pages

def listPager [Inhabited O₁] [Inhabited O₂] (rg : Option String)
    (newListAllPager : O₁ → List (Except Err R₁))
    (newListByResourceGroupPager : String → O₂ → List (Except Err R₂))
    (allPagerResponseToValues : R₁ → List T)
    (allByResourceGroupPagerResponseToValues : R₂ → List T)
    (callback : σ → T → σ × Option Err) (w : PagerWorld σ T) : PagerWorld σ T × Option Err :=
  match rg with
  | none =>
    allPages .all (fun w page => callEach callback w (allPagerResponseToValues page))
      (w.log (.created .all)) (newListAllPager default)
  | some name =>
    allPages (.byResourceGroup name)
      (fun w page => callEach callback w (allByResourceGroupPagerResponseToValues page))
      (w.log (.created (.byResourceGroup name))) (newListByResourceGroupPager name default)

end

section Listing
variable {σ T R : Type} (callback : σ → T → σ × Option Err)

/-- The callback succeeds on all resources, one after the other. -/
inductive CallsSucceed : σ → List T → σ → Prop where
  | nil (s : σ) : CallsSucceed s [] s
  | cons {s t u : σ} {resource : T} {values : List T} (h : callback s resource = (t, none))
      (hrest : CallsSucceed t values u) : CallsSucceed s (resource :: values) u

/-- How the calls relate to the resources of the pages, with the failed pages among them. The
calls end with the items, with a call that fails, or before a page that fails, and the error is
that of the end. -/
def ListedInOrder (s : σ) (items : List (Except Err T)) (s' : σ) (calls : List T)
    (err : Option Err) : Prop :=
  (items = calls.map .ok ∧ CallsSucceed callback s calls s' ∧ err = none) ∨
  (∃ front last rest t e, calls = front ++ [last] ∧ items = calls.map .ok ++ rest ∧
    CallsSucceed callback s front t ∧ callback t last = (s', some e) ∧ err = some e) ∨
  (∃ e rest, items = calls.map .ok ++ .error e :: rest ∧ CallsSucceed callback s calls s' ∧
    err = some (errGettingNextPage e))

variable {callback}

theorem CallsSucceed.append {s t u : σ} {front back : List T}
    (hfront : CallsSucceed callback s front t) (hback : CallsSucceed callback t back u) :
    CallsSucceed callback s (front ++ back) u := by
  induction hfront with
  | nil s => exact hback
  | cons h _ ih => exact .cons h (ih hback)

/-- Successful calls in front of a listing. -/
theorem ListedInOrder.prepend {s t s' : σ} {front : List T} {items : List (Except Err T)}
    {calls : List T} {err : Option Err} (hfront : CallsSucceed callback s front t)
    (h : ListedInOrder callback t items s' calls err) :
    ListedInOrder callback s (front.map .ok ++ items) s' (front ++ calls) err := by
  obtain ⟨rfl, hcalls, herr⟩ | ⟨first, last, rest, u, e, rfl, rfl, hfirst, hlast, herr⟩ |
    ⟨e, rest, rfl, hcalls, herr⟩ := h
  · exact .inl ⟨by simp, hfront.append hcalls, herr⟩
  · exact .inr (.inl ⟨front ++ first, last, rest, u, e, by simp, by simp, hfront.append hfirst,
      hlast, herr⟩)
  · exact .inr (.inr ⟨e, rest, by simp, hfront.append hcalls, herr⟩)

/-- The calls of a log. -/
def calledResources (events : List (PagerEvent T)) : List T :=
  events.filterMap (fun ev =>
    match ev with
    | .called resource => some resource
    | _ => none)

theorem calledResources_map (values : List T) :
    calledResources (values.map .called) = values := by
  rw [calledResources, List.filterMap_map]
  exact List.filterMap_some

variable (callback) in
/-- A page either goes through or ends with the first call that fails. -/
theorem callEach_cases (w : PagerWorld σ T) (values : List T) :
    (∃ s', CallsSucceed callback w.state values s' ∧
        callEach callback w values = (⟨s', w.events ++ values.map .called⟩, none)) ∨
      ∃ front last rest t s' e, values = front ++ last :: rest ∧
        CallsSucceed callback w.state front t ∧ callback t last = (s', some e) ∧
        callEach callback w values =
          (⟨s', w.events ++ (front ++ [last]).map .called⟩, some e) := by
  induction values generalizing w with
  | nil => exact .inl ⟨w.state, .nil _, by simp [callEach]⟩
  | cons resource values ih =>
    cases hcall : callback w.state resource with
    | mk s err =>
      cases err with
      | some e =>
        refine .inr ⟨[], resource, values, w.state, s, e, rfl, .nil _, hcall, ?_⟩
        simp [callEach, PagerWorld.log, hcall]
      | none =>
        have hstep : callEach callback w (resource :: values) =
            callEach callback ⟨s, w.events ++ [.called resource]⟩ values := by
          simp [callEach, PagerWorld.log, hcall]
        rw [hstep]
        obtain ⟨s', hcalls, heq⟩ | ⟨front, last, rest, t, s', e, rfl, hfront, hlast, heq⟩ :=
          ih ⟨s, w.events ++ [.called resource]⟩
        · exact .inl ⟨s', .cons hcall hcalls, by simp [heq]⟩
        · exact .inr ⟨resource :: front, last, rest, t, s', e, rfl, .cons hcall hfront, hlast,
            by simp [heq]⟩

def PagerEvent.isNextPage : PagerEvent T → Bool
  | .nextPage _ => true
  | _ => false

variable (callback) in
/-- What a run over the pages of one pager logs and returns. -/
structure PagerRun (kind : PagerKind) (pages : List (Except Err (List T))) (s s' : σ)
    (events : List (PagerEvent T)) (err : Option Err) : Prop where
  created : ∀ k, .created k ∉ events
  selected : ∀ k, .nextPage k ∈ events → k = kind
  listed : ListedInOrder callback s (pageItems pages) s' (calledResources events) err
  consumed : err = none → events.countP PagerEvent.isNextPage = pages.length

/-- A page whose calls all succeed, in front of the other pages. -/
theorem PagerRun.page {kind : PagerKind} {values : List T} {pages : List (Except Err (List T))}
    {s t s' : σ} {events : List (PagerEvent T)} {err : Option Err}
    (hcalls : CallsSucceed callback s values t)
    (h : PagerRun callback kind pages t s' events err) :
    PagerRun callback kind (.ok values :: pages) s s'
      (.nextPage kind :: (values.map .called ++ events)) err where
  created k := by simp [h.created k]
  selected k hk := by
    simp only [List.mem_cons, PagerEvent.nextPage.injEq, List.mem_append, List.mem_map,
      reduceCtorEq, and_false, exists_false, false_or] at hk
    exact hk.elim id (h.selected k)
  listed := by
    have hfront : calledResources (.nextPage kind :: (values.map .called ++ events)) =
        values ++ calledResources events := by
      rw [calledResources, List.filterMap_cons_none rfl, List.filterMap_append]
      exact congrArg (· ++ _) (calledResources_map values)
    rw [hfront]
    exact h.listed.prepend hcalls
  consumed herr := by
    have hvalues : (values.map PagerEvent.called).countP PagerEvent.isNextPage = 0 := by
      simp [PagerEvent.isNextPage]
    rw [List.countP_cons_of_pos rfl, List.countP_append, hvalues, h.consumed herr,
      List.length_cons]
    omega

theorem allPages_run (kind : PagerKind) (toValues : R → List T) (pages : List (Except Err R))
    (w w' : PagerWorld σ T) (err : Option Err)
    (h : allPages kind (fun w page => callEach callback w (toValues page)) w pages = (w', err)) :
    ∃ events, w'.events = w.events ++ events ∧ PagerRun callback kind
      (pages.map (Except.map toValues)) w.state w'.state events err := by
  induction pages generalizing w with
  | nil =>
    cases h
    exact ⟨[], by simp, by simp, by simp, .inl ⟨rfl, .nil _, rfl⟩, fun _ => rfl⟩
  | cons page pages ih =>
    cases page with
    | error e =>
      cases h
      exact ⟨[.nextPage kind], rfl, by simp, by simp, .inr (.inr ⟨e, _, rfl, .nil _, rfl⟩),
        fun herr => by cases herr⟩
    | ok page =>
      rw [allPages] at h
      obtain ⟨t, hcalls, hpage⟩ | ⟨front, last, rest, t, t', e, hvalues, hfront, hlast, hpage⟩ :=
        callEach_cases callback (w.log (.nextPage kind)) (toValues page)
      · rw [hpage] at h
        obtain ⟨events, hevents, hrun⟩ := ih _ h
        refine ⟨_, ?_, hrun.page hcalls⟩
        simp [hevents, PagerWorld.log]
      · rw [hpage] at h
        cases h
        refine ⟨.nextPage kind :: (front ++ [last]).map .called, by simp [PagerWorld.log], by simp,
          by simp, .inr (.inl ?_), fun herr => by cases herr⟩
        have hcalled : calledResources (.nextPage kind :: (front ++ [last]).map .called) =
            front ++ [last] := by
          rw [calledResources, List.filterMap_cons_none rfl]
          exact calledResources_map _
        rw [hcalled]
        refine ⟨front, last, rest.map .ok ++ pageItems (pages.map (Except.map toValues)), t, e, rfl,
          ?_, hfront, hlast, rfl⟩
        simp [pageItems, Except.map, hvalues]

/-- The callback as one that hands on its state when it succeeds. -/
def foldCallback (callback : σ → T → σ × Option Err) (s : σ) (resource : T) : Outcome Err σ :=
  match callback s resource with
  | (s, none) => .ok s
  | (_, some e) => fail e

def pagerOutcome : PagerWorld σ T × Option Err → Outcome Err σ
  | (w, none) => .ok w.state
  | (_, some e) => fail e

variable (callback) in
theorem foldlM_eq_callEach (w : PagerWorld σ T) (values : List T) :
    values.foldlM (foldCallback callback) w.state =
      pagerOutcome (callEach callback w values) := by
  induction values generalizing w with
  | nil => rfl
  | cons resource values ih =>
    rw [List.foldlM_cons, foldCallback, callEach]
    cases hcall : callback w.state resource with
    | mk s err =>
      cases err with
      | some e => simp [hcall, PagerWorld.log, pagerOutcome, fail, bind, Except.bind]
      | none =>
        have hrest := ih ⟨s, w.events ++ [.called resource]⟩
        simpa [hcall, PagerWorld.log, bind, Except.bind] using hrest

/-- The driver is the loop over the pages that the discoverers are modelled with. -/
theorem foldPages_eq_allPages (kind : PagerKind) (w : PagerWorld σ T)
    (pages : List (Except Err (List T))) :
    foldPages errGettingNextPage (foldCallback callback) w.state pages =
      pagerOutcome (allPages kind (callEach callback) w pages) := by
  induction pages generalizing w with
  | nil => rfl
  | cons page pages ih =>
    cases page with
    | error e => rfl
    | ok values =>
      have hvalues := foldlM_eq_callEach callback (w.log (.nextPage kind)) values
      rw [foldPages, allPages]
      change (values.foldlM _ (w.log (.nextPage kind)).state >>= _) = _
      rw [hvalues]
      cases callEach callback (w.log (.nextPage kind)) values with
      | mk w' err =>
        cases err with
        | some e => rfl
        | none => exact ih w'

end Listing

section Driver
variable {σ T O₁ R₁ O₂ R₂ : Type} [Inhabited O₁] [Inhabited O₂] (rg : Option String)

/-- The pager for the scope of the discovery. -/
def selectedPager : PagerKind :=
  match rg with
  | none => .all
  | some name => .byResourceGroup name

/-- The pages of that pager. -/
def selectedPages (newListAllPager : O₁ → List (Except Err R₁))
    (newListByResourceGroupPager : String → O₂ → List (Except Err R₂))
    (allPagerResponseToValues : R₁ → List T)
    (allByResourceGroupPagerResponseToValues : R₂ → List T) : List (Except Err (List T)) :=
  match rg with
  | none => (newListAllPager default).map (Except.map allPagerResponseToValues)
  | some name => (newListByResourceGroupPager name default).map
      (Except.map allByResourceGroupPagerResponseToValues)

/-- The driver creates the pager for the scope and no other, fetches pages of that one only, and
calls back for their resources in order, up to the first call or page that fails. -/
theorem listPager_run (newListAllPager : O₁ → List (Except Err R₁))
    (newListByResourceGroupPager : String → O₂ → List (Except Err R₂))
    (allPagerResponseToValues : R₁ → List T)
    (allByResourceGroupPagerResponseToValues : R₂ → List T)
    (callback : σ → T → σ × Option Err) (w : PagerWorld σ T) :
    ∃ w' err events, listPager rg newListAllPager newListByResourceGroupPager
        allPagerResponseToValues allByResourceGroupPagerResponseToValues callback w = (w', err) ∧
      w'.events = w.events ++ .created (selectedPager rg) :: events ∧
      PagerRun callback (selectedPager rg) (selectedPages rg newListAllPager
        newListByResourceGroupPager allPagerResponseToValues
        allByResourceGroupPagerResponseToValues) w.state w'.state events err := by
  cases rg with
  | none =>
    obtain ⟨events, hevents, hrun⟩ := allPages_run .all allPagerResponseToValues
      (newListAllPager default) (w.log (.created .all)) _ _ rfl
    exact ⟨_, _, events, rfl, by simpa [PagerWorld.log, selectedPager] using hevents, hrun⟩
  | some name =>
    obtain ⟨events, hevents, hrun⟩ := allPages_run (.byResourceGroup name)
      allByResourceGroupPagerResponseToValues (newListByResourceGroupPager name default)
      (w.log (.created (.byResourceGroup name))) _ _ rfl
    exact ⟨_, _, events, rfl, by simpa [PagerWorld.log, selectedPager] using hevents, hrun⟩

end Driver
end Clouditor
