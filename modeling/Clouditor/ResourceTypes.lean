import Clouditor.ScopedLists
import Clouditor.SeparatedTexts

/-! The type filter of `ListResources`: three patterns over the comma separated text of a type
list, compared with membership in the list. -/
namespace Clouditor
set_option autoImplicit false

section Pages
variable {C α : Type} {stamp : α → Option ℤ}

/-- The pages for joined conditions, whatever sizes are asked for, are the rows that meet all
conditions. -/
theorem paginateWhere_pages (E : SQL.Engine α stamp) (column : α → C → SQL.Value)
    (conds : List (SQL.BoundGroup C)) (hconds : ∀ g ∈ conds, ∀ b ∈ g, SQL.Fits b)
    (orderBy : String) (asc : Bool) (f : List α → List α)
    (hf : E.sort (orderStmt orderBy asc) = some f) (rows : List α) (sizes : ℕ → ℤ) (n : ℕ)
    (hn : rows.length < n) :
    ∃ pages, followTokens (fun i t => paginateWhere E column ⟨sizes i, t, orderBy, asc⟩ conds rows)
        n 0 .empty = some (.ok pages) ∧
      pages.flatten.Perm (rows.filter (fun r => conds.all (SQL.meets column 0 r))) := by
  have hselect := SQL.select_groups column 0 conds hconds rows
  generalize rows.filter (fun r => conds.all (SQL.meets column 0 r)) = found at hselect
  have hlen : found.length ≤ rows.length := by
    rw [SQL.GroupQuery.select, Option.map_eq_some_iff] at hselect
    obtain ⟨_,_,rfl⟩ := hselect
    exact List.length_filter_le _ _
  have hpage (i : ℕ) (t : PageTokenText) :
      paginateWhere E column ⟨sizes i, t, orderBy, asc⟩ conds rows =
        paginateStorage E ⟨sizes i, t, orderBy, asc⟩ defaultPaginationOpts found := by
    rw [paginateWhere, selectWhere, hselect]
  have hsize (i : ℕ) (t : PageTokenText) :
      (PaginatedRequest.mk (sizes i) t orderBy asc).size defaultPaginationOpts ≠ 0 := by
    simp only [PaginatedRequest.size, defaultPaginationOpts]
    split_ifs <;> omega
  have hsorted := E.sort_perm _ f hf found
  obtain ⟨pages,hpages,hflat⟩ := followTokens_all
    (fun i t => paginateStorage E ⟨sizes i, t, orderBy, asc⟩ defaultPaginationOpts found)
    (f found) _ rfl (fun i s _ => paginateStorage_pageFrom E
      ⟨sizes i, .encoded ⟨s, _⟩, orderBy, asc⟩ defaultPaginationOpts f hf found s _ rfl (hsize i _))
    n (by rw [hsorted.length_eq]; omega)
  refine ⟨pages, ?_, hflat ▸ hsorted⟩
  simp only [hpage, hpages]

end Pages

section Patterns

/-- A part of a text that reaches from one comma, or an end of the text, to another, and is not
the whole text. -/
def CommaPart (text part : List Char) : Prop :=
  (∃ w, text = part ++ ',' :: w) ∨ (∃ u w, text = u ++ ',' :: (part ++ ',' :: w)) ∨
    ∃ u, text = u ++ ',' :: part

theorem comma_literal : ¬ SQL.Wildcard ',' := by
  rintro (h | h) <;> cases h

theorem like_before_comma (p text : List Char) :
    SQL.like (p ++ [',', '%']) text = true ↔
      ∃ part w, text = part ++ ',' :: w ∧ SQL.like p part = true := by
  simp only [SQL.like_append_iff, SQL.like_literal_cons_iff ',' comma_literal, SQL.like_percent,
    and_true]
  constructor
  · intro h
    obtain ⟨part,_,ht,hp,w,rfl⟩ := h
    exact ⟨part, w, ht, hp⟩
  · intro h
    obtain ⟨part,w,ht,hp⟩ := h
    exact ⟨part, ',' :: w, ht, hp, w, rfl⟩

theorem like_behind_comma (p text : List Char) :
    SQL.like ('%' :: ',' :: p) text = true ↔
      ∃ u rest, text = u ++ ',' :: rest ∧ SQL.like p rest = true := by
  simp only [SQL.like_percent_cons_iff, SQL.like_literal_cons_iff ',' comma_literal]
  constructor
  · intro h
    obtain ⟨u,_,ht,rest,rfl,hp⟩ := h
    exact ⟨u, rest, ht, hp⟩
  · intro h
    obtain ⟨u,rest,ht,hp⟩ := h
    exact ⟨u, ',' :: rest, ht, rest, rfl, hp⟩

/-- The three patterns look for a part between commas that the filter matches as a pattern. -/
theorem typeCondition_meets (type : String) (r : Resource) :
    SQL.meets Resource.column 0 r (typeCondition type) = true ↔
      ∃ part, CommaPart r.resourceType.toList part ∧ SQL.like type.toList part = true := by
  have hmeets : SQL.meets Resource.column 0 r (typeCondition type) = true ↔
      SQL.like (type.toList ++ [',', '%']) r.resourceType.toList = true ∨
      SQL.like ('%' :: ',' :: (type.toList ++ [',', '%'])) r.resourceType.toList = true ∨
      SQL.like ('%' :: ',' :: type.toList) r.resourceType.toList = true := by
    simp [SQL.meets, typeCondition, Resource.column]
  rw [hmeets, like_before_comma, like_behind_comma, like_behind_comma]
  simp only [like_before_comma]
  constructor
  · intro h
    rcases h with ⟨part,w,ht,hp⟩ | ⟨u,_,ht,part,w,rfl,hp⟩ | ⟨u,part,ht,hp⟩
    · exact ⟨part, .inl ⟨w, ht⟩, hp⟩
    · exact ⟨part, .inr (.inl ⟨u, w, ht⟩), hp⟩
    · exact ⟨part, .inr (.inr ⟨u, ht⟩), hp⟩
  · intro h
    obtain ⟨part,⟨w,ht⟩ | ⟨u,w,ht⟩ | ⟨u,ht⟩,hp⟩ := h
    · exact .inl ⟨part, w, ht, hp⟩
    · exact .inr (.inl ⟨u, part ++ ',' :: w, ht, part, w, rfl, hp⟩)
    · exact .inr (.inr ⟨u, part, ht, hp⟩)

end Patterns

section Joined

/-- An element of a list of two or more is such a part of the joined text. -/
theorem commaPart_of_mem (types : List String) (type : String) (hmem : type ∈ types)
    (hne : types ≠ [type]) : CommaPart (String.intercalate "," types).toList type.toList := by
  obtain ⟨before,behind,rfl⟩ := List.append_of_mem hmem
  have htext : (String.intercalate "," (before ++ type :: behind)).toList =
      [','].intercalate (before.map String.toList ++ type.toList :: behind.map String.toList) := by
    rw [String.toList_intercalate, List.map_append, List.map_cons]
    rfl
  rw [htext]
  -- by the ends of the list that the element is not at
  by_cases hb : before = []
  · subst hb
    obtain ⟨b,bs,rfl⟩ := List.exists_cons_of_ne_nil (l := behind) (by rintro rfl; exact hne rfl)
    refine .inl ⟨[','].intercalate ((b :: bs).map String.toList), ?_⟩
    simp [List.intercalate_cons_cons]
  · rw [Separated.intercalate_append ',' (by simpa using hb) (by simp)]
    cases behind with
    | nil => exact .inr (.inr ⟨[','].intercalate (before.map String.toList), by simp⟩)
    | cons b bs =>
      refine .inr (.inl ⟨[','].intercalate (before.map String.toList),
        [','].intercalate ((b :: bs).map String.toList), ?_⟩)
      simp [List.intercalate_cons_cons]

/-- A text without a comma has no proper part of this kind. -/
theorem not_commaPart (text part : List Char) (h : ',' ∉ text) : ¬ CommaPart text part := by
  rintro (⟨w,rfl⟩ | ⟨u,w,rfl⟩ | ⟨u,rfl⟩) <;> simp at h

end Joined

section TypeFilter

/-- The resource table, with the type lists that the texts in its rows were joined from. -/
structure TypedTable where
  rows : List Resource
  types : Resource → List String
  joined : ∀ r ∈ rows, r.resourceType = String.intercalate "," (types r)

/-- A request for the resources of a type, and the requests for further pages that follow it. -/
structure TypeRequest where
  type : String
  cloudServiceId : Option String
  sizes : ℕ → ℤ
  orderBy : String
  asc : Bool

def TypeRequest.page (req : TypeRequest) (i : ℕ) (token : PageTokenText) : ListResourcesRequest :=
  ⟨some ⟨some req.type, req.cloudServiceId⟩, ⟨req.sizes i, token, req.orderBy, req.asc⟩⟩

/-- A row that the caller may see, of the service that is asked for if there is one. -/
def TypeRequest.accessible (req : TypeRequest) (a : Access) (r : Resource) : Bool :=
  req.cloudServiceId.all (fun s => r.cloudServiceId = s) && a.checkAccess r.cloudServiceId

/-- Over all pages the answer is the accessible resources with the type in their list. -/
def TypeRequest.Exact (req : TypeRequest) (E : SQL.Engine Resource (fun _ => none)) (a : Access)
    (table : TypedTable) : Prop :=
  ∀ n, table.rows.length < n → ∃ pages,
    followTokens (fun i t => listResources E a table.rows (req.page i t)) n 0 .empty =
      some (.ok pages) ∧
    pages.flatten.Perm (table.rows.filter
      (fun r => req.accessible a r && decide (req.type ∈ table.types r)))

theorem filter_perm_iff {α : Type} (p q : α → Bool) (l : List α) :
    (l.filter p).Perm (l.filter q) ↔ ∀ x ∈ l, p x = q x := by
  constructor
  · intro h x hx
    have hmem := h.mem_iff (a := x)
    simp only [List.mem_filter, hx, true_and] at hmem
    exact Bool.eq_iff_iff.mpr hmem
  · intro h
    rw [List.filter_congr h]

variable (E : SQL.Engine Resource (fun _ => none)) (a : Access) (table : TypedTable)
  (req : TypeRequest)

/-- What the statement for a request selects. -/
def TypeRequest.selects (r : Resource) : Bool :=
  req.accessible a r && SQL.meets Resource.column 0 r (typeCondition req.type)

theorem conditions_select (i : ℕ) (t : PageTokenText) (r : Resource) :
    ((req.page i t).filter.elim [] ResourceFilter.conditions ++
      a.conditions ResourceColumn.cloudServiceId).all (SQL.meets Resource.column 0 r) =
        req.selects a r := by
  rw [List.all_append, conditions_meet a Resource.column .cloudServiceId r r.cloudServiceId rfl]
  cases hs : req.cloudServiceId with
  | none =>
    simp [TypeRequest.page, TypeRequest.selects, TypeRequest.accessible, hs,
      ResourceFilter.conditions, Bool.and_comm]
  | some s =>
    have heq : SQL.meets Resource.column 0 r (equals .cloudServiceId s) =
        decide (r.cloudServiceId = s) := by
      simp [SQL.meets, equals, Resource.column]
    simp [TypeRequest.page, TypeRequest.selects, TypeRequest.accessible, hs,
      ResourceFilter.conditions, heq, Bool.and_comm, Bool.and_assoc,
      Bool.and_left_comm]

theorem exact_iff_selects (f : List Resource → List Resource)
    (hf : E.sort (orderStmt req.orderBy req.asc) = some f) :
    req.Exact E a table ↔ a.checkAccess (req.cloudServiceId.getD "") = true ∧
      ∀ r ∈ table.rows, req.selects a r =
        (req.accessible a r && decide (req.type ∈ table.types r)) := by
  by_cases hp : a.checkAccess (req.cloudServiceId.getD "") = true
  · have hlist (i : ℕ) (t : PageTokenText) : listResources E a table.rows (req.page i t) =
        paginateWhere E Resource.column ⟨req.sizes i, t, req.orderBy, req.asc⟩
          ((req.page i t).filter.elim [] ResourceFilter.conditions ++
            a.conditions .cloudServiceId) table.rows := by
      simp [listResources, ListResourcesRequest.permitted, TypeRequest.page, hp]
    have hpages := paginateWhere_pages E Resource.column
      ((req.page 0 .empty).filter.elim [] ResourceFilter.conditions ++ a.conditions .cloudServiceId)
      (fun g hg => (List.mem_append.mp hg).elim
        (filter_fits _ _ resource_conditions_fit g) (conditions_fit a _ g))
      req.orderBy req.asc f hf table.rows req.sizes
    simp only [conditions_select] at hpages
    simp only [TypeRequest.Exact, hlist, hp, true_and, ← filter_perm_iff]
    constructor
    · intro h
      obtain ⟨pages,hfollow,hperm⟩ := hpages (table.rows.length + 1) (by omega)
      obtain ⟨pages',hfollow',hperm'⟩ := h (table.rows.length + 1) (by omega)
      have heq : pages = pages' := by
        have hsame := hfollow.symm.trans hfollow'
        simpa using hsame
      exact hperm.symm.trans (heq ▸ hperm')
    · intro h n hn
      obtain ⟨pages,hfollow,hperm⟩ := hpages n hn
      exact ⟨pages, hfollow, hperm.trans h⟩
  · -- a request without a service is one for the service with the empty id
    simp only [hp, Bool.false_eq_true, false_and, iff_false]
    intro h
    obtain ⟨pages,hfollow,_⟩ := h (table.rows.length + 1) (by omega)
    simp [followTokens, listResources, ListResourcesRequest.permitted, TypeRequest.page, hp]
      at hfollow

/-- The type list of a resource is told from its text exactly if it is not the type alone and,
where the type is missing, no part of the text matches it as a pattern. -/
theorem selects_iff_mem (r : Resource) (hr : r ∈ table.rows) (hT : ',' ∉ req.type.toList) :
    SQL.meets Resource.column 0 r (typeCondition req.type) = decide (req.type ∈ table.types r) ↔
      table.types r ≠ [req.type] ∧ (req.type ∉ table.types r →
        ∀ part, CommaPart r.resourceType.toList part → SQL.like req.type.toList part = false) := by
  rw [Bool.eq_iff_iff, typeCondition_meets, decide_eq_true_eq]
  constructor
  · intro h
    constructor
    · intro hsingle
      obtain ⟨part,hpart,_⟩ := h.mpr (by simp [hsingle])
      rw [table.joined r hr, hsingle, String.toList_intercalate] at hpart
      exact not_commaPart _ part (by simpa using hT) hpart
    · intro hmem part hpart
      rw [← Bool.not_eq_true]
      intro hlike
      exact hmem (h.mp ⟨part, hpart, hlike⟩)
  · intro ⟨hne,hnone⟩
    constructor
    · intro ⟨part,hpart,hlike⟩
      by_contra hmem
      rw [hnone hmem part hpart] at hlike
      cases hlike
    · intro hmem
      have hpart := commaPart_of_mem (table.types r) req.type hmem hne
      rw [← table.joined r hr] at hpart
      exact ⟨req.type.toList, hpart, SQL.like_self _⟩

theorem resources_of_type_iff (f : List Resource → List Resource)
    (hf : E.sort (orderStmt req.orderBy req.asc) = some f) (hT : ',' ∉ req.type.toList) :
    req.Exact E a table ↔ a.checkAccess (req.cloudServiceId.getD "") = true ∧
      ∀ r ∈ table.rows, req.accessible a r = true → table.types r ≠ [req.type] ∧
        (req.type ∉ table.types r → ∀ part, CommaPart r.resourceType.toList part →
          SQL.like req.type.toList part = false) := by
  rw [exact_iff_selects E a table req f hf]
  apply and_congr_right
  intro _
  apply forall₂_congr
  intro r hr
  rw [← selects_iff_mem table req r hr hT]
  cases hacc : req.accessible a r <;> simp [TypeRequest.selects, hacc]

/-- One resource with one list of types. -/
def oneTyped (types : List String) : TypedTable where
  rows := [⟨⟨"r", String.intercalate "," types, none⟩, "service"⟩]
  types _ := types
  joined := by simp

def firstPage (type : String) : TypeRequest := ⟨type, some "service", fun _ => 0, "", true⟩

theorem oneTyped_exact : (firstPage "Storage").Exact (SQL.Engine.inTableOrder true (fun _ => none))
    .allowAll (oneTyped ["ObjectStorage", "Storage", "Resource"]) := by
  apply (resources_of_type_iff _ .allowAll _ (firstPage "Storage") id rfl (by decide)).mpr
  refine ⟨rfl, fun r _ _ => ⟨?_, fun h => absurd ?_ h⟩⟩
  · change ["ObjectStorage", "Storage", "Resource"] ≠ ["Storage"]
    decide
  · change "Storage" ∈ ["ObjectStorage", "Storage", "Resource"]
    decide

/-- A resource with a single type is not found by it, and one that lacks the type of a filter
with a wildcard is. -/
theorem type_filter_differs :
    ¬ (firstPage "Resource").Exact (SQL.Engine.inTableOrder true (fun _ => none)) .allowAll
      (oneTyped ["Resource"]) ∧
    ¬ (firstPage "%").Exact (SQL.Engine.inTableOrder true (fun _ => none)) .allowAll
      (oneTyped ["ObjectStorage", "Resource"]) := by
  have hselected (type : String) (types : List String) (hT : ',' ∉ type.toList)
      (h : (firstPage type).Exact (SQL.Engine.inTableOrder true (fun _ => none)) .allowAll
        (oneTyped types)) : types ≠ [type] ∧ (type ∉ types → ∀ part,
          CommaPart (String.intercalate "," types).toList part →
            SQL.like type.toList part = false) := by
    have hrow := ((exact_iff_selects _ .allowAll (oneTyped types) (firstPage type) id rfl).mp h).2
      _ List.mem_cons_self
    exact (selects_iff_mem (oneTyped types) (firstPage type) _ List.mem_cons_self hT).mp
      (by simpa [TypeRequest.selects, TypeRequest.accessible, firstPage, Access.checkAccess,
        Access.allowAll, oneTyped] using hrow)
  constructor
  · intro h
    exact (hselected "Resource" ["Resource"] (by decide) h).1 rfl
  · intro h
    have hpart : CommaPart (String.intercalate "," ["ObjectStorage", "Resource"]).toList
        "ObjectStorage".toList :=
      commaPart_of_mem ["ObjectStorage", "Resource"] "ObjectStorage" (by decide) (by decide)
    have hlike := (hselected "%" ["ObjectStorage", "Resource"] (by decide) h).2 (by decide) _ hpart
    exact absurd ((SQL.like_percent _).symm.trans hlike) (by decide)

end TypeFilter
end Clouditor
