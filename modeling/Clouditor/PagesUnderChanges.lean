import Clouditor.PageChains
import Mathlib.Data.List.Sort

/-! List requests while the table changes. A page token counts rows, so what a client collects
depends on what is inserted and removed between its requests. -/
namespace Clouditor
set_option autoImplicit false
open scoped List

section Chains
variable {α : Type} {rows : ℕ → List α} {i s : ℕ} {pages : List (List α)}

/-- The pages from row `s` on, where request number `i` sees `rows i`. -/
inductive PagesFrom (rows : ℕ → List α) : ℕ → ℕ → List (List α) → Prop where
  | last {i s : ℕ} {page : List α} (h : page = (rows i).drop s) : PagesFrom rows i s [page]
  | more {i s : ℕ} {page : List α} {pages : List (List α)}
      (h : page ++ (rows i).drop (s + page.length) = (rows i).drop s)
      (rest : PagesFrom rows (i + 1) (s + page.length) pages) : PagesFrom rows i s (page :: pages)

/-- As long as the table does not grow without bound the chain of requests comes to an end. -/
theorem followTokens_pagesFrom (list : ℕ → PageTokenText → Except Err (List α × PageTokenText))
    (z : ℤ) (hl : ∀ i s : ℕ, PageFrom (rows i) s z (list i (.encoded ⟨s, z⟩))) (most : ℕ)
    (hmost : ∀ i, (rows i).length ≤ most) (n i s : ℕ) (hn : most - s < n) :
    ∃ pages, followTokens list n i (.encoded ⟨s, z⟩) = some (.ok pages) ∧
      PagesFrom rows i s pages := by
  induction n generalizing i s with
  | zero => omega
  | succ n ih =>
    obtain ⟨page,done,hans,happ,hdone,hmore⟩ := hl i s
    rw [followTokens, hans]
    cases done with
    | true => exact ⟨[page], rfl, .last (hdone rfl)⟩
    | false =>
      have hpos : page.length ≠ 0 := fun h => hmore rfl (List.eq_nil_of_length_eq_zero h)
      have hlen := congrArg List.length happ
      have hbound := hmost i
      simp only [List.length_append, List.length_drop] at hlen
      -- a page that is not the last one ends within the rows
      obtain ⟨pages,hpages,hfrom⟩ := ih (i + 1) (s + page.length) (by omega)
      rw [Nat.cast_add] at hpages
      refine ⟨page :: pages, ?_, .more happ hfrom⟩
      simp only [Bool.false_eq_true, if_false, hpages, Option.map_some, Except.map]

/-- Rows that are inserted push others back, behind the next token or once more in front of it. -/
theorem PagesFrom.sublist_of_grow (h : PagesFrom rows i s pages)
    (hgrow : ∀ i, rows i <+ rows (i + 1)) : (rows i).drop s <+ pages.flatten := by
  induction h with
  | last h =>
    rw [List.flatten_singleton, h]
  | @more i s page pages h rest ih =>
    calc (rows i).drop s = page ++ (rows i).drop (s + page.length) := h.symm
      _ <+ page ++ (rows (i + 1)).drop (s + page.length) := ((hgrow i).drop _).append_left page
      _ <+ page ++ pages.flatten := ih.append_left page
      _ = (page :: pages).flatten := List.flatten_cons.symm

/-- Rows that are removed pull others forward, where no token leads any more. -/
theorem PagesFrom.sublist_of_shrink (h : PagesFrom rows i s pages)
    (hshrink : ∀ i, rows (i + 1) <+ rows i) : pages.flatten <+ (rows i).drop s := by
  induction h with
  | last h =>
    rw [List.flatten_singleton, h]
  | @more i s page pages h rest ih =>
    calc (page :: pages).flatten = page ++ pages.flatten := List.flatten_cons
      _ <+ page ++ (rows (i + 1)).drop (s + page.length) := ih.append_left page
      _ <+ page ++ (rows i).drop (s + page.length) := ((hshrink i).drop _).append_left page
      _ = (rows i).drop s := h

theorem PagesFrom.flatten_of_steady (h : PagesFrom rows i s pages) (rest : List α)
    (hsteady : ∀ k, i ≤ k → rows k = rest) : pages.flatten = rest.drop s := by
  induction h with
  | @last i s page h =>
    rw [List.flatten_singleton, h, hsteady i le_rfl]
  | @more i s page pages h _ ih =>
    have hpages := ih (fun k hk => hsteady k (by omega))
    rw [hsteady i le_rfl] at h
    rw [List.flatten_cons, hpages, h]

/-- What is removed in front of a row lets it move as far ahead. -/
theorem drop_filter_append (front back : List α) (gone : α → Bool)
    (hback : ∀ a ∈ back, gone a = false) :
    ((front ++ back).filter (fun a => !gone a)).drop front.length =
      back.drop (front.countP gone) := by
  have hkept : back.filter (fun a => !gone a) = back := by
    rw [List.filter_eq_self]
    intro a ha
    rw [hback a ha, Bool.not_false]
  have hcount : front.countP gone + (front.filter (fun a => !gone a)).length = front.length := by
    rw [List.countP_eq_length_filter]
    exact (List.length_eq_length_filter_add gone).symm
  rw [List.filter_append, hkept, List.drop_append, List.drop_of_length_le (by omega),
    List.nil_append]
  congr 1
  omega

end Chains

section Tables
variable {α : Type} {stamp : α → Option ℤ} (E : SQL.Engine α stamp) (less : α → α → Bool)
  (hless : StrictTotal less) (opts : PaginationOpts) (hd : 0 < opts.defaultPageSize)
  (hm : 0 < opts.maxPageSize) (orderBy : String) (asc : Bool) (f : List α → List α)
  (hf : E.sort (orderStmt orderBy asc) = some f)
  (hsorts : ∀ rows, (f rows).Pairwise (fun a b => less b a = false))
include hless hf hsorts

theorem sort_sublist {table table' : List α} (h : table <+~ table') : f table <+ f table' := by
  have hanti : Std.Antisymm (fun a b : α => less b a = false) :=
    ⟨fun a b hab hba => (hless.connected b a hab hba).symm⟩
  apply List.sublist_of_subperm_of_pairwise _ (hsorts table) (hsorts table')
  have hbelow := (E.sort_perm _ f hf table).subperm.trans h
  exact hbelow.trans (E.sort_perm _ f hf table').symm.subperm

theorem sort_filter (table : List α) (p : α → Bool) :
    f (table.filter p) = (f table).filter p := by
  have hp : (f table).filter p ~ table.filter p := (E.sort_perm _ f hf table).filter p
  apply List.Perm.eq_of_pairwise (fun a b _ _ hab hba => (hless.connected b a hab hba).symm)
    (hsorts _) ((hsorts table).filter p)
  exact (E.sort_perm _ f hf _).trans hp.symm

omit hless hf hsorts

include hd hm in
theorem size_ne_zero (req : PaginatedRequest) : req.size opts ≠ 0 := by
  unfold PaginatedRequest.size
  split_ifs <;> omega

/-- The chain over a table that changes, from any request and row on. -/
theorem followTokens_tables (tables : ℕ → List α) (most : ℕ)
    (hmost : ∀ i, (tables i).length ≤ most) (sizes : ℕ → ℤ) (z : ℤ) (n i s : ℕ)
    (hn : most - s < n) (hd : 0 < opts.defaultPageSize) (hm : 0 < opts.maxPageSize)
    (hf : E.sort (orderStmt orderBy asc) = some f) :
    ∃ pages, followTokens (fun i t => paginateStorage E ⟨sizes i, t, orderBy, asc⟩ opts (tables i))
        n i (.encoded ⟨s, z⟩) = some (.ok pages) ∧
      PagesFrom (fun i => f (tables i)) i s pages := by
  apply followTokens_pagesFrom _ _ _ most _ n i s hn
  · intro i s
    exact paginateStorage_pageFrom E ⟨sizes i, .encoded ⟨s, z⟩, orderBy, asc⟩ opts f hf (tables i)
      s z rfl (size_ne_zero opts hd hm _)
  · intro i
    rw [(E.sort_perm _ f hf (tables i)).length_eq]
    exact hmost i

/-- The first page has a token unless it is shorter than asked for. -/
theorem paginateStorage_first (hf : E.sort (orderStmt orderBy asc) = some f) (table : List α)
    (size : ℤ) {k : ℕ} (hpos : 0 < k)
    (hk : (PaginatedRequest.mk size .empty orderBy asc).size opts = k) :
    paginateStorage E ⟨size, .empty, orderBy, asc⟩ opts table =
      .ok ((f table).take k, if table.length < k then .empty else .encoded ⟨k, k⟩) := by
  have hlength : (f table).length = table.length := (E.sort_perm _ f hf table).length_eq
  have hnonneg : ¬ (k : ℤ) < 0 := by omega
  simp only [paginateStorage, paginate, storageList, hf, hk, window, Int.toNat_zero,
    List.drop_zero, Int.toNat_natCast, if_neg hnonneg, List.length_take, hlength]
  by_cases hdone : table.length < k
  · have hshort : min k table.length = 0 ∨ ((min k table.length : ℕ) : ℤ) < k := by omega
    rw [decide_eq_true hshort, if_pos rfl, if_pos hdone]
  · have hfull : min k table.length = k := by omega
    have hlong : ¬ (k = 0 ∨ (k : ℤ) < k) := by omega
    rw [hfull, decide_eq_false hlong, if_neg (by decide), if_neg hdone, zero_add]

include hless hd hm hf hsorts

/-- However the table changes between the requests, as long as it stays within a bound a client
gets to the end. If rows are only inserted it has every row of the first table, in their order,
and if rows are only removed it has no row that was not there and none more often than it was. -/
theorem pages_of_changing_table (tables : ℕ → List α) (most : ℕ)
    (hmost : ∀ i, (tables i).length ≤ most) (sizes : ℕ → ℤ) (n : ℕ) (hn : most < n) :
    ∃ pages, followTokens (fun i t => paginateStorage E ⟨sizes i, t, orderBy, asc⟩ opts (tables i))
        n 0 .empty = some (.ok pages) ∧
      ((∀ i, tables i <+~ tables (i + 1)) → f (tables 0) <+ pages.flatten) ∧
      ((∀ i, tables (i + 1) <+~ tables i) → pages.flatten <+ f (tables 0)) := by
  obtain ⟨pages,hpages,hfrom⟩ := followTokens_tables E opts orderBy asc f tables most hmost sizes
    ((PaginatedRequest.mk (sizes 0) .empty orderBy asc).size opts) n 0 0 hn hd hm hf
  have hsort {table table' : List α} (h : table <+~ table') : f table <+ f table' :=
    sort_sublist E less hless orderBy asc f hf hsorts h
  refine ⟨pages, ?_, ?_, ?_⟩
  · -- the first request has no token and starts at row 0 all the same
    obtain ⟨n,rfl⟩ := Nat.exists_eq_succ_of_ne_zero (Nat.ne_zero_of_lt hn)
    exact hpages
  · intro hgrow
    exact hfrom.sublist_of_grow (fun i => hsort (hgrow i))
  · intro hshrink
    exact hfrom.sublist_of_shrink (fun i => hsort (hshrink i))

/-- If rows of the first page are removed before the second one is asked for, the client does
not get as many of the rows that follow. -/
theorem pages_skip_rows (table : List α) (gone : α → Bool) (size : ℤ)
    (k : ℕ) (hk : (PaginatedRequest.mk size .empty orderBy asc).size opts = k)
    (hgone : ∀ a ∈ (f table).drop k, gone a = false) (n : ℕ) (hn : table.length < n) :
    ∃ pages, followTokens (fun i t => paginateStorage E ⟨size, t, orderBy, asc⟩ opts
        (if i = 0 then table else table.filter (fun a => !gone a))) (n + 1) 0 .empty =
          some (.ok pages) ∧
      pages.flatten = (f table).take k ++
        ((f table).drop k).drop (((f table).take k).countP gone) := by
  have hlength : (f table).length = table.length := (E.sort_perm _ f hf table).length_eq
  have hpos : 0 < k := by
    have hne := size_ne_zero opts hd hm ⟨size, .empty, orderBy, asc⟩
    omega
  have hfirst := paginateStorage_first E opts orderBy asc f hf table size hpos hk
  by_cases hdone : table.length < k
  · -- the first page is the last one
    refine ⟨[(f table).take k], ?_, ?_⟩
    · rw [followTokens, if_pos rfl, hfirst, if_pos hdone]
    · rw [List.drop_of_length_le (show (f table).length ≤ k by omega), List.drop_nil,
        List.append_nil, List.flatten_singleton]
  · have hmost (i : ℕ) :
        (if i = 0 then table else table.filter (fun a => !gone a)).length ≤ table.length := by
      split_ifs
      · exact le_rfl
      · exact List.length_filter_le _ table
    obtain ⟨pages,hpages,hfrom⟩ := followTokens_tables E opts orderBy asc f _ table.length hmost
      (fun _ => size) k n 1 k (by omega) hd hm hf
    have hrest := hfrom.flatten_of_steady (f (table.filter (fun a => !gone a)))
      (fun i hi => by rw [if_neg (by omega)])
    have hfull : ((f table).take k).length = k := by
      rw [List.length_take, hlength]
      omega
    have hmoved := drop_filter_append ((f table).take k) ((f table).drop k) gone hgone
    rw [List.take_append_drop, hfull] at hmoved
    rw [sort_filter E less hless orderBy asc f hf hsorts, hmoved] at hrest
    refine ⟨(f table).take k :: pages, ?_, ?_⟩
    · rw [followTokens, if_pos rfl, hfirst, if_neg hdone]
      simp only [hpages, Option.map_some, Except.map]
    · rw [List.flatten_cons, hrest]

end Tables

section Samples

theorem numbers_strictTotal : StrictTotal (fun a b : ℕ => decide (a < b)) where
  asymm a b h := by
    simp only [decide_eq_true_eq, decide_eq_false_iff_not] at h ⊢
    omega
  trans a b c h h' := by
    simp only [decide_eq_true_eq] at h h' ⊢
    omega
  connected a b h h' := by
    simp only [decide_eq_false_iff_not] at h h'
    omega

theorem numbers_sorted (rows : List ℕ) : (rows.insertionSort (· ≤ ·)).Pairwise
    (fun a b => decide (b < a) = false) := by
  simpa using List.pairwise_insertionSort (· ≤ ·) rows

/-- A row comes in before the second request. -/
theorem pages_of_growing_numbers : ∃ pages, followTokens (fun i t =>
      paginateStorage (SQL.Engine.sortedBy true (fun _ : ℕ => none) (· ≤ ·)) ⟨1, t, "id", true⟩
        ⟨50, 1500⟩ (if i = 0 then [3, 2] else [3, 2, 1])) 4 0 .empty = some (.ok pages) ∧
    [2, 3] <+ pages.flatten := by
  obtain ⟨pages,hpages,hgrow,_⟩ := pages_of_changing_table
    (SQL.Engine.sortedBy true (fun _ : ℕ => none) (· ≤ ·)) _ numbers_strictTotal ⟨50, 1500⟩
    (by decide) (by decide) "id" true _ rfl numbers_sorted
    (fun i => if i = 0 then [3, 2] else [3, 2, 1]) 3 (fun i => by split_ifs <;> decide)
    (fun _ => 1) 4 (by decide)
  refine ⟨pages, hpages, hgrow (fun i => ?_)⟩
  rw [if_neg (Nat.succ_ne_zero i)]
  split_ifs
  · exact (List.sublist_append_left [3, 2] [1]).subperm
  · exact List.Subperm.refl _

/-- The first row is removed once it was listed, and the third one is missing then. -/
theorem pages_skip_third_number : ∃ pages, followTokens (fun i t =>
      paginateStorage (SQL.Engine.sortedBy true (fun _ : ℕ => none) (· ≤ ·)) ⟨2, t, "id", true⟩
        ⟨50, 1500⟩ (if i = 0 then [5, 4, 3, 2, 1] else [5, 4, 3, 2, 1].filter (fun a => !(a == 1))))
        7 0 .empty = some (.ok pages) ∧
    pages.flatten = [1, 2, 4, 5] :=
  pages_skip_rows (SQL.Engine.sortedBy true (fun _ : ℕ => none) (· ≤ ·)) _ numbers_strictTotal
    ⟨50, 1500⟩ (by decide) (by decide) "id" true _ rfl numbers_sorted [5, 4, 3, 2, 1] (· == 1) 2 2
    (by decide) (by decide) 6 (by decide)

end Samples
end Clouditor
