import Clouditor.EvaluationRun

/-! Lookups in the cached controls. Category and id are joined to one key by a dash, so a
lookup finds a control by every pair that gives the same key. -/
namespace Clouditor
set_option autoImplicit false

section Separators
variable {α : Type} {x : α}

theorem mem_tail_append_cons {a : List α} (ha : a ≠ []) (w : List α) :
    x ∈ (a ++ x :: w).tail := by
  cases a with
  | nil => exact absurd rfl ha
  | cons y a => simp

theorem mem_dropLast_append_cons {b : List α} (hb : b ≠ []) (w : List α) :
    x ∈ (w ++ x :: b).dropLast := by
  rw [List.dropLast_append_of_ne_nil (List.cons_ne_nil x b), List.dropLast_cons_of_ne_nil hb]
  simp

/-- Two ways to cut a list at a separator are the same if the first leaves none inside its
parts. -/
theorem append_sep_inj {a b a' b' : List α} (ha' : a' ≠ []) (hb' : b' ≠ [])
    (ha : x ∉ a.tail) (hb : x ∉ b.dropLast) (h : a ++ x :: b = a' ++ x :: b') :
    a = a' ∧ b = b' := by
  rcases List.append_eq_append_iff.mp h with ⟨w,rfl,hw⟩ | ⟨w,rfl,hw⟩
  · cases w with
    | nil => exact ⟨by simp, (List.cons.inj hw).2⟩
    | cons y w =>
      -- the second cut is further to the right, inside `b`
      obtain ⟨rfl,rfl⟩ := List.cons.inj hw
      exact absurd (mem_dropLast_append_cons hb' w) hb
  · cases w with
    | nil => exact ⟨by simp, (List.cons.inj hw).2.symm⟩
    | cons y w =>
      obtain ⟨rfl,rfl⟩ := List.cons.inj hw
      exact absurd (mem_tail_append_cons ha' w) ha

/-- A separator inside one of the parts gives a second cut. -/
theorem exists_second_cut {a b : List α} (hb : b ≠ []) (ha : a ≠ [])
    (h : x ∈ a.tail ∨ x ∈ b.dropLast) :
    ∃ a' b', a' ≠ [] ∧ b' ≠ [] ∧ a' ++ x :: b' = a ++ x :: b ∧ a' ≠ a := by
  -- the cut is taken at the separator inside the part
  rcases h with h | h
  · obtain ⟨y,l,rfl⟩ := List.exists_cons_of_ne_nil ha
    obtain ⟨p,q,hq⟩ := List.append_of_mem h
    rw [List.tail_cons] at hq
    refine ⟨y :: p, q ++ x :: b, by simp, by simp, by simp [hq], fun heq => ?_⟩
    have hlen := congrArg List.length heq
    simp [hq] at hlen
  · obtain ⟨p,q,hq⟩ := List.append_of_mem h
    have hlast := List.dropLast_append_getLast hb
    rw [hq] at hlast
    refine ⟨a ++ x :: p, q ++ [b.getLast hb], by simp, by simp, ?_, fun heq => ?_⟩
    · calc (a ++ x :: p) ++ x :: (q ++ [b.getLast hb])
        _ = a ++ x :: (p ++ x :: q ++ [b.getLast hb]) := by simp
        _ = a ++ x :: b := by rw [hlast]
    have hlen := congrArg List.length heq
    simp at hlen

end Separators

section Lookups

/-- Only the dash between category and id cuts the tag of a control into two names. -/
def Control.Unsplit (c : Control) : Prop :=
  '-' ∉ c.categoryName.toList.tail ∧ '-' ∉ c.id.toList.dropLast

/-- Every listed control is found by its category and id, nothing is found by any other pair,
and the lookups in other catalogs are what they were. -/
structure LookupsExact (svc svc' : EvaluationService) (catalogId : String)
    (controls : List Control) : Prop where
  listed : ∀ c ∈ controls, svc'.getControl catalogId c.categoryName c.id = .ok c
  unlisted : ∀ categoryName controlId, (categoryName, controlId) ∉ controls.map Control.key →
    ∃ e, svc'.getControl catalogId categoryName controlId = .error e
  others : ∀ other, other ≠ catalogId → ∀ categoryName controlId,
    svc'.getControl other categoryName controlId = svc.getControl other categoryName controlId

variable {svc svc' : EvaluationService} {catalogId : String} {controls : List Control}

theorem controlTag_toList (categoryName controlId : String) :
    (controlTag categoryName controlId).toList =
      categoryName.toList ++ '-' :: controlId.toList := by
  simp [controlTag, String.toList_append]

theorem controlTag_inj_iff (categoryName controlId categoryName' controlId' : String) :
    controlTag categoryName controlId = controlTag categoryName' controlId' ↔
      categoryName.toList ++ '-' :: controlId.toList =
        categoryName'.toList ++ '-' :: controlId'.toList := by
  rw [← controlTag_toList, ← controlTag_toList, String.toList_inj]

theorem catalogId_of_cacheControls (h : svc.cacheControls catalogId (.ok controls) = .ok svc') :
    catalogId ≠ "" := by
  simp only [EvaluationService.cacheControls] at h
  split_ifs at h with hid
  exact hid

/-- A lookup after `cacheControls` looks at the tag only. -/
theorem getControl_of_cacheControls
    (h : svc.cacheControls catalogId (.ok controls) = .ok svc') {categoryName controlId : String}
    (hcat : categoryName ≠ "") (hid : controlId ≠ "") :
    svc'.getControl catalogId categoryName controlId =
      (cachedAt controls (controlTag categoryName controlId)).elim (.error errControlNotAvailable)
        .ok := by
  rw [EvaluationService.getControl, if_neg (catalogId_of_cacheControls h), if_neg hcat, if_neg hid,
    cached_of_cacheControls h, lookup_cacheControl]
  cases cachedAt controls (controlTag categoryName controlId) <;> rfl

theorem getControl_other (h : svc.cacheControls catalogId (.ok controls) = .ok svc')
    {other : String} (hother : other ≠ catalogId) (categoryName controlId : String) :
    svc'.getControl other categoryName controlId = svc.getControl other categoryName controlId := by
  have hcached : svc'.cached other = svc.cached other := by
    simp only [EvaluationService.cacheControls] at h
    split_ifs at h
    cases h
    rw [EvaluationService.cached, EvaluationService.cached, AList.lookup_insert_ne hother]
  rw [EvaluationService.getControl, EvaluationService.getControl, hcached]

/-- A tag that is in use is some listed control's. -/
theorem exists_cachedAt {c : Control} (hc : c ∈ controls) :
    ∃ d, cachedAt controls c.tag = some d := by
  have hsome : (controls.reverse.find? (fun d => d.tag = c.tag)).isSome = true := by
    rw [List.find?_isSome]
    exact ⟨c, List.mem_reverse.mpr hc, by simp⟩
  exact Option.isSome_iff_exists.mp hsome

theorem toList_ne_nil {s : String} (h : s ≠ "") : s.toList ≠ [] := by
  simpa using h

theorem ofList_ne_empty {l : List Char} (h : l ≠ []) : String.ofList l ≠ "" := by
  intro heq
  exact h (by simpa using congrArg String.toList heq)

/-- If no dash stands inside its names, a control is found by its own category and id only. -/
theorem Control.Unsplit.key_eq {c : Control} (hc : c.Unsplit) {categoryName controlId : String}
    (hcat : categoryName ≠ "") (hid : controlId ≠ "")
    (htag : c.tag = controlTag categoryName controlId) : (categoryName, controlId) = c.key := by
  rw [Control.tag, controlTag_inj_iff] at htag
  obtain ⟨hcat',hid'⟩ := append_sep_inj (toList_ne_nil hcat) (toList_ne_nil hid) hc.1 hc.2 htag
  rw [Control.key, String.toList_inj.mp hcat', String.toList_inj.mp hid']

theorem lookupsExact_of_unsplit (h : svc.cacheControls catalogId (.ok controls) = .ok svc')
    (hkeys : (controls.map Control.key).Nodup)
    (hnames : ∀ c ∈ controls, c.categoryName ≠ "" ∧ c.id ≠ "")
    (hsplit : ∀ c ∈ controls, c.Unsplit) : LookupsExact svc svc' catalogId controls := by
  refine ⟨fun c hc => ?_, fun categoryName controlId hnot => ?_,
    fun other hother => getControl_other h hother⟩
  · obtain ⟨hcat,hid⟩ := hnames c hc
    obtain ⟨d,hd⟩ := exists_cachedAt hc
    obtain ⟨hmem,htag⟩ := cachedAt_spec controls c.tag d hd
    -- what is found has the tag of `c`, and so its category and id
    have hkey : c.key = d.key := (hsplit d hmem).key_eq hcat hid htag
    obtain rfl : c = d := List.inj_on_of_nodup_map hkeys hc hmem hkey
    rw [getControl_of_cacheControls h hcat hid]
    change (cachedAt controls c.tag).elim _ _ = _
    rw [hd]
    rfl
  · by_cases hcat : categoryName = ""
    · exact ⟨errCategoryNameIsMissing, by
        simp [EvaluationService.getControl, catalogId_of_cacheControls h, hcat]⟩
    by_cases hid : controlId = ""
    · exact ⟨errControlIdIsMissing, by
        simp [EvaluationService.getControl, catalogId_of_cacheControls h, hcat, hid]⟩
    refine ⟨errControlNotAvailable, ?_⟩
    rw [getControl_of_cacheControls h hcat hid]
    cases hd : cachedAt controls (controlTag categoryName controlId) with
    | none => rfl
    | some d =>
      obtain ⟨hmem,htag⟩ := cachedAt_spec controls _ d hd
      have hkey := (hsplit d hmem).key_eq hcat hid htag
      exact absurd (List.mem_map.mpr ⟨d, hmem, hkey.symm⟩) hnot

/-- Where lookups are exact, no other pair of names has the tag of a control. -/
theorem LookupsExact.key_eq (hexact : LookupsExact svc svc' catalogId controls)
    (h : svc.cacheControls catalogId (.ok controls) = .ok svc') {c : Control} (hc : c ∈ controls)
    (hnames : c.categoryName ≠ "" ∧ c.id ≠ "") {categoryName controlId : String}
    (hcat : categoryName ≠ "") (hid : controlId ≠ "")
    (htag : controlTag categoryName controlId = c.tag) : (categoryName, controlId) = c.key := by
  have hsame : svc'.getControl catalogId categoryName controlId = .ok c := by
    rw [← hexact.listed c hc, getControl_of_cacheControls h hcat hid,
      getControl_of_cacheControls h hnames.1 hnames.2, htag]
    rfl
  by_contra hne
  by_cases hmem : (categoryName, controlId) ∈ controls.map Control.key
  · obtain ⟨d,hd,hkey⟩ := List.mem_map.mp hmem
    have hfound := hexact.listed d hd
    rw [show d.categoryName = categoryName from congrArg Prod.fst hkey,
      show d.id = controlId from congrArg Prod.snd hkey, hsame] at hfound
    rw [Except.ok.inj hfound] at hne
    exact hne hkey.symm
  · obtain ⟨e,he⟩ := hexact.unlisted categoryName controlId hmem
    rw [hsame] at he
    cases he

/-- The controls of a catalog are looked up exactly if no dash stands inside their categories
and ids, the first character of a category and the last one of an id apart. -/
theorem lookups_exact_iff (h : svc.cacheControls catalogId (.ok controls) = .ok svc')
    (hkeys : (controls.map Control.key).Nodup)
    (hnames : ∀ c ∈ controls, c.categoryName ≠ "" ∧ c.id ≠ "") :
    LookupsExact svc svc' catalogId controls ↔ ∀ c ∈ controls, c.Unsplit := by
  refine ⟨fun hexact c hc => ?_, lookupsExact_of_unsplit h hkeys hnames⟩
  obtain ⟨hcat,hid⟩ := hnames c hc
  by_contra hno
  have hdash : '-' ∈ c.categoryName.toList.tail ∨ '-' ∈ c.id.toList.dropLast := by
    rw [Control.Unsplit, not_and_or, not_not, not_not] at hno
    exact hno
  obtain ⟨a,b,ha,hb,htag,hne⟩ :=
    exists_second_cut (toList_ne_nil hid) (toList_ne_nil hcat) hdash
  -- the second cut is a pair that finds the control as well
  have hkey := hexact.key_eq h hc (hnames c hc) (ofList_ne_empty ha) (ofList_ne_empty hb) (by
    rw [Control.tag, controlTag_inj_iff]
    simpa using htag)
  refine hne ?_
  have hfst := congrArg (fun k : String × String => k.1.toList) hkey
  simpa [Control.key] using hfst

end Lookups

section Samples

/-- A control with a short name, as the catalogs have them. -/
def plainControl (categoryName id : String) : Control :=
  ⟨id, categoryName, "EUCS", [], [], none, none⟩

def plainControls : List Control := [plainControl "Operations" "13", plainControl "-" "14-"]

theorem lookups_exact_plain :
    ∃ svc', EvaluationService.cacheControls ⟨∅⟩ "EUCS" (.ok plainControls) = .ok svc' ∧
      LookupsExact ⟨∅⟩ svc' "EUCS" plainControls :=
  ⟨_, rfl, (lookups_exact_iff rfl (by decide) (by decide)).mpr (by
    simp only [Control.Unsplit]
    decide)⟩

/-- Two different controls with one tag. -/
def clashingControls : List Control := [plainControl "Ops" "A-1", plainControl "Ops-A" "1"]

/-- The category and the id of the first control find the second one. -/
theorem lookup_finds_other_control :
    (clashingControls.map Control.key).Nodup ∧
    (∀ c ∈ clashingControls, c.categoryName ≠ "" ∧ c.id ≠ "") ∧
    ∃ svc', EvaluationService.cacheControls ⟨∅⟩ "EUCS" (.ok clashingControls) = .ok svc' ∧
      svc'.getControl "EUCS" "Ops" "A-1" = .ok (plainControl "Ops-A" "1") ∧
      ¬ LookupsExact ⟨∅⟩ svc' "EUCS" clashingControls := by
  refine ⟨by decide, by decide, _, rfl, rfl, fun h => ?_⟩
  have hfirst : (plainControl "Ops-A" "1").id = (plainControl "Ops" "A-1").id :=
    congrArg Control.id (Except.ok.inj (h.listed (plainControl "Ops" "A-1") List.mem_cons_self))
  revert hfirst
  decide

end Samples
end Clouditor
