import Clouditor.Pagination
import Mathlib.Data.List.Sort
import Mathlib.Tactic.SplitIfs

/-! Chains of page requests with changing page sizes, over a table and over a slice, and
how many rows one page can have. -/
namespace Clouditor
set_option autoImplicit false

section Chains
variable {α : Type}

/-- A slice expression out of range stops the process. -/
def errSliceBounds : Err := ⟨none, "runtime error: slice bounds out of range"⟩

/-- `sort.Slice` with the given `less`. -/
def sortSlice (less : α → α → Bool) (values : List α) : List α :=
  values.insertionSort (fun a b => less b a = false)

def paginateSlice (req : PaginatedRequest) (values : List α) (less : α → α → Bool)
    (opts : PaginationOpts) : Except Err (List α × PageTokenText) :=
  let values := sortSlice less values
  paginate req opts (fun start size =>
    let max : ℤ := values.length
    let done : Bool := start + size ≥ max
    let stop := if done then max else start + size
    if 0 ≤ start ∧ start ≤ stop then
      .ok ((values.drop start.toNat).take (stop - start).toNat, done)
    else .error errSliceBounds)

/-- `less` puts the elements of a dataset into a total order. -/
structure StrictTotal (less : α → α → Bool) : Prop where
  asymm : ∀ a b, less a b = true → less b a = false
  trans : ∀ a b c, less a b = true → less b c = true → less a c = true
  connected : ∀ a b, less a b = false → less b a = false → a = b

section
variable {less : α → α → Bool} (h : StrictTotal less)
include h

theorem StrictTotal.le_trans (a b c : α) (hab : less b a = false) (hbc : less c b = false) :
    less c a = false := by
  by_contra hca
  rw [Bool.not_eq_false] at hca
  by_cases hac : less a b = true
  · exact absurd (h.trans c a b hca hac) (by simp [hbc])
  · have heq : a = b := h.connected a b (by simpa using hac) hab
    rw [heq, hbc] at hca
    cases hca

theorem sortSlice_pairwise (values : List α) :
    (sortSlice less values).Pairwise (fun a b => less b a = false) := by
  have htotal : Std.Total (fun a b : α => less b a = false) := by
    refine ⟨fun a b => ?_⟩
    by_cases hba : less b a = true
    · exact .inr (h.asymm b a hba)
    · exact .inl (by simpa using hba)
  have htrans : IsTrans α (fun a b => less b a = false) := ⟨h.le_trans⟩
  exact List.pairwise_insertionSort _ values

/-- There is only one way to write a dataset down in its order. -/
theorem sorted_eq_sortSlice (rows sorted : List α) (hp : sorted.Perm rows)
    (hs : sorted.Pairwise (fun a b => less b a = false)) : sorted = sortSlice less rows := by
  apply List.Perm.eq_of_pairwise (fun a b _ _ hab hba => (h.connected b a hab hba).symm) hs
    (sortSlice_pairwise h rows)
  exact hp.trans (List.perm_insertionSort _ rows).symm

end

theorem paginateSlice_pageFrom (req : PaginatedRequest) (values : List α)
    (less : α → α → Bool) (opts : PaginationOpts) (s : ℕ) (z : ℤ)
    (ht : req.pageToken = .encoded ⟨s, z⟩) (hs : s ≤ values.length) (hsize : 0 < req.size opts) :
    PageFrom (sortSlice less values) s z (paginateSlice req values less opts) := by
  have hlen : (sortSlice less values).length = values.length := List.length_insertionSort _ _
  generalize hv : sortSlice less values = sorted at hlen
  by_cases hd : (s : ℤ) + req.size opts ≥ sorted.length
  · -- the end is clamped to the last element
    refine ⟨sorted.drop s, true, ?_, ?_, fun _ => rfl, by simp⟩
    · simp only [paginateSlice, paginate, ht, hv, hd, decide_true, if_true]
      rw [if_pos (by omega)]
      simp only [Int.toNat_natCast]
      rw [List.take_of_length_le (by rw [List.length_drop]; omega)]
      rfl
    · rw [← List.drop_drop, List.drop_length, List.append_nil]
  · obtain ⟨k,hk⟩ := Int.eq_ofNat_of_zero_le hsize.le
    have htake : ((sorted.drop s).take k).length = k := by
      rw [List.length_take, List.length_drop]
      omega
    refine ⟨(sorted.drop s).take k, false, ?_, ?_, by simp, ?_⟩
    · simp only [paginateSlice, paginate, ht, hv, hd, decide_false, Bool.false_eq_true, if_false]
      rw [if_pos (by omega)]
      simp only [Int.toNat_natCast, hk, add_sub_cancel_left]
      rfl
    · rw [htake, ← List.drop_drop, List.take_append_drop]
    · intro _ hnil
      rw [hnil, List.length_nil] at htake
      omega

/-- Positive limits turn every page size a client may ask for into a positive one. -/
theorem size_pos (req : PaginatedRequest) (opts : PaginationOpts)
    (hd : 0 < opts.defaultPageSize) (hm : 0 < opts.maxPageSize) (hreq : 0 ≤ req.pageSize) :
    0 < req.size opts := by
  unfold PaginatedRequest.size
  split_ifs <;> omega

section
variable {stamp : α → Option ℤ}

/-- Whatever page sizes the requests of a chain carry, the pages together are the matching
rows in their order, from the table as from the slice; so is what the client loop returns. -/
theorem pages_collect_matching_rows (E : SQL.Engine α stamp) (less : α → α → Bool)
    (hless : StrictTotal less) (opts : PaginationOpts) (hd : 0 < opts.defaultPageSize)
    (hm : 0 < opts.maxPageSize) (orderBy : String) (asc : Bool) (f : List α → List α)
    (hf : E.sort (orderStmt orderBy asc) = some f)
    (hsorts : ∀ rows, (f rows).Pairwise (fun a b => less b a = false))
    (table : List α) (filter : α → Bool) (sizes : ℕ → ℤ) (hsizes : ∀ i, 0 ≤ sizes i) :
    ∃ ordered : List α, ordered.Perm (table.filter filter) ∧
      ordered.Pairwise (fun a b => less b a = false) ∧
      ∀ n, (table.filter filter).length < n →
        (∃ pages, followTokens (fun i t => paginateStorage E ⟨sizes i, t, orderBy, asc⟩ opts
          (table.filter filter)) n 0 .empty = some (.ok pages) ∧ pages.flatten = ordered) ∧
        (∃ pages, followTokens (fun i t => paginateSlice ⟨sizes i, t, orderBy, asc⟩
          (table.filter filter) less opts) n 0 .empty = some (.ok pages) ∧
            pages.flatten = ordered) ∧
        listAllPaginated (fun t => paginateStorage E ⟨sizes 0, t, orderBy, asc⟩ opts
          (table.filter filter)) n .empty = some (.ok ordered) ∧
        listAllPaginated (fun t => paginateSlice ⟨sizes 0, t, orderBy, asc⟩
          (table.filter filter) less opts) n .empty = some (.ok ordered) := by
  generalize table.filter filter = rows
  have heq : f rows = sortSlice less rows :=
    sorted_eq_sortSlice hless rows (f rows) (E.sort_perm _ f hf rows) (hsorts rows)
  have hperm : (sortSlice less rows).Perm rows := List.perm_insertionSort _ rows
  have hpos (i : ℕ) (t : PageTokenText) :
      0 < (PaginatedRequest.mk (sizes i) t orderBy asc).size opts :=
    size_pos ⟨sizes i, t, orderBy, asc⟩ opts hd hm (hsizes i)
  -- a chain over the table, with the sizes at any request numbers `k i`
  have hstorage (k : ℕ → ℕ) (n : ℕ) (hn : rows.length < n) : ∃ pages,
      followTokens (fun i t => paginateStorage E ⟨sizes (k i), t, orderBy, asc⟩ opts rows)
        n 0 .empty = some (.ok pages) ∧ pages.flatten = sortSlice less rows := by
    rw [← heq]
    refine followTokens_all _ (f rows) _ rfl ?_ n (by rw [heq, hperm.length_eq]; exact hn)
    intro i s _
    exact paginateStorage_pageFrom E ⟨sizes (k i), .encoded ⟨s, _⟩, orderBy, asc⟩ opts f hf rows s _
      rfl (hpos (k i) _).ne'
  have hslice (k : ℕ → ℕ) (n : ℕ) (hn : rows.length < n) : ∃ pages,
      followTokens (fun i t => paginateSlice ⟨sizes (k i), t, orderBy, asc⟩ rows less opts)
        n 0 .empty = some (.ok pages) ∧ pages.flatten = sortSlice less rows := by
    refine followTokens_all _ (sortSlice less rows) _ rfl ?_ n (by rw [hperm.length_eq]; exact hn)
    intro i s hs
    rw [hperm.length_eq] at hs
    exact paginateSlice_pageFrom ⟨sizes (k i), .encoded ⟨s, _⟩, orderBy, asc⟩ rows less opts s _
      rfl hs (hpos (k i) _)
  refine ⟨sortSlice less rows, hperm, sortSlice_pairwise hless rows, ?_⟩
  intro n hn
  refine ⟨hstorage id n hn, hslice id n hn, ?_, ?_⟩
  · obtain ⟨pages,hpages,hflat⟩ := hstorage (fun _ => 0) n hn
    rw [listAllPaginated_eq _ n 0, hpages]
    simp only [Option.map_some, Except.map, hflat]
  · obtain ⟨pages,hpages,hflat⟩ := hslice (fun _ => 0) n hn
    rw [listAllPaginated_eq _ n 0, hpages]
    simp only [Option.map_some, Except.map, hflat]

theorem pages_collect_numbers : ∃ ordered : List ℕ, ordered.Perm [3, 1, 2] ∧
    listAllPaginated (fun t => paginateSlice ⟨1, t, "id", true⟩ [3, 1, 2] (fun a b => a < b)
      ⟨2, 3⟩) 9 .empty = some (.ok ordered) ∧
    ∃ pages, followTokens (fun i t => paginateStorage (SQL.Engine.sortedBy true (fun _ => none)
      (· ≤ ·)) ⟨if i = 0 then 1 else 0, t, "id", true⟩ ⟨2, 3⟩ [3, 1, 2]) 9 0 .empty =
        some (.ok pages) ∧ pages.flatten = ordered := by
  have hless : StrictTotal (fun a b : ℕ => decide (a < b)) := by
    constructor <;> intros <;> simp_all <;> omega
  obtain ⟨ordered,hperm,_,h⟩ := pages_collect_matching_rows
    (SQL.Engine.sortedBy true (fun _ : ℕ => none) (· ≤ ·)) (fun a b => a < b) hless ⟨2, 3⟩
    (by decide) (by decide) "id" true _ rfl
    (fun rows => by simpa using List.pairwise_insertionSort (· ≤ ·) rows)
    [3, 1, 2, 5] (fun n => n ≠ 5) (fun i => if i = 0 then 1 else 0)
    (fun i => by by_cases hi : i = 0 <;> simp [hi])
  obtain ⟨hchain,_,_,hslice⟩ := h 9 (by decide)
  exact ⟨ordered, hperm, hslice, hchain⟩

end

end Chains

section Bounds
variable {α : Type} {stamp : α → Option ℤ}

/-- The row a request starts at. -/
def PageTokenText.start : PageTokenText → ℤ
  | .empty => 0
  | .encoded t => t.start
  | .malformed => 0

theorem window_length (rows : List α) (offset limit : ℤ) :
    (window rows offset limit).length =
      if limit < 0 then rows.length - offset.toNat
      else min limit.toNat (rows.length - offset.toNat) := by
  unfold window
  split_ifs <;> simp

theorem paginateStorage_page (E : SQL.Engine α stamp) (req : PaginatedRequest)
    (opts : PaginationOpts) (rows page : List α) (next : PageTokenText)
    (h : paginateStorage E req opts rows = .ok (page, next)) :
    ∃ f, E.sort (orderStmt req.orderBy req.asc) = some f ∧
      page = window (f rows) req.pageToken.start (req.size opts) := by
  cases hf : E.sort (orderStmt req.orderBy req.asc) with
  | none => cases ht : req.pageToken <;> simp [paginateStorage, paginate, storageList, hf, ht] at h
  | some f =>
    refine ⟨f, rfl, ?_⟩
    cases ht : req.pageToken with
    | malformed => simp [paginateStorage, paginate, ht] at h
    | empty =>
      simp only [paginateStorage, paginate, storageList, hf, ht] at h
      split at h <;> exact (congrArg Prod.fst (Except.ok.inj h)).symm
    | encoded t =>
      simp only [paginateStorage, paginate, storageList, hf, ht] at h
      split at h <;> exact (congrArg Prod.fst (Except.ok.inj h)).symm

/-- A negative page size passes the clamp and then means no limit at all. -/
theorem page_within_maximum_iff (E : SQL.Engine α stamp) (req : PaginatedRequest)
    (opts : PaginationOpts) (rows page : List α) (next : PageTokenText)
    (h : paginateStorage E req opts rows = .ok (page, next)) :
    (page.length : ℤ) ≤ opts.maxPageSize ↔ 0 ≤ opts.maxPageSize ∧
      ((0 ≤ req.pageSize ∧ (req.pageSize = 0 →
          0 ≤ opts.defaultPageSize ∧ opts.defaultPageSize ≤ opts.maxPageSize)) ∨
        ((rows.length - req.pageToken.start.toNat : ℕ) : ℤ) ≤ opts.maxPageSize) := by
  obtain ⟨f,hf,rfl⟩ := paginateStorage_page E req opts rows page next h
  rw [window_length, (E.sort_perm _ f hf rows).length_eq]
  unfold PaginatedRequest.size
  split_ifs <;> omega

theorem page_within_maximum_sample : ∃ (page : List ℕ) (next : PageTokenText),
    paginateStorage (SQL.Engine.inTableOrder true (fun _ => none))
      ⟨3, .encoded ⟨1, 50⟩, "id", true⟩ defaultPaginationOpts [6, 7, 8, 9] = .ok (page, next) ∧
    (page.length : ℤ) ≤ defaultPaginationOpts.maxPageSize :=
  ⟨[7, 8, 9], .encoded ⟨4, 50⟩, by decide,
    (page_within_maximum_iff (SQL.Engine.inTableOrder true (fun _ => none))
      ⟨3, .encoded ⟨1, 50⟩, "id", true⟩ defaultPaginationOpts [6, 7, 8, 9] [7, 8, 9]
      (.encoded ⟨4, 50⟩) (by decide)).mpr (by decide)⟩

theorem page_above_maximum : ∃ (page : List ℕ) (next : PageTokenText),
    paginateStorage (SQL.Engine.inTableOrder true (fun _ => none)) ⟨-1, .empty, "id", true⟩
      defaultPaginationOpts (List.range 1501) = .ok (page, next) ∧
    ¬ (page.length : ℤ) ≤ defaultPaginationOpts.maxPageSize := by
  refine ⟨List.range 1501, .encoded ⟨1501, -1⟩, ?_, by simp [defaultPaginationOpts]⟩
  simp [paginateStorage, paginate, storageList, PaginatedRequest.size, window,
    SQL.Engine.inTableOrder, defaultPaginationOpts]

end Bounds
end Clouditor
