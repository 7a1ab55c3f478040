import Clouditor.Requests
import Clouditor.SQLRanking
import Mathlib.Data.Int.Cast.Lemmas
import Mathlib.Order.Lattice
import Mathlib.Tactic.SplitIfs

/-! List requests: page sizes, page tokens, the storage pager and the client loop
that follows the tokens. -/
namespace Clouditor
set_option autoImplicit false

structure PageToken where
  start : ℤ
  size : ℤ
  deriving DecidableEq

/-- A `page_token` field: empty, a token that `Encode` wrote, or a text that does
not decode. -/
inductive PageTokenText where
  | empty
  | encoded (t : PageToken)
  | malformed
  deriving DecidableEq

structure PaginationOpts where
  defaultPageSize : ℤ
  maxPageSize : ℤ

def defaultPaginationOpts : PaginationOpts := ⟨50, 1500⟩

structure PaginatedRequest where
  pageSize : ℤ
  pageToken : PageTokenText
  orderBy : String
  asc : Bool

def PaginatedRequest.size (req : PaginatedRequest) (opts : PaginationOpts) : ℤ :=
  if req.pageSize = 0 then opts.defaultPageSize
  else if req.pageSize > opts.maxPageSize then opts.maxPageSize
  else req.pageSize

section
variable {α : Type}

def paginate (req : PaginatedRequest) (opts : PaginationOpts)
    (pager : ℤ → ℤ → Except Err (List α × Bool)) : Except Err (List α × PageTokenText) :=
  let size := req.size opts
  let run (token : PageToken) : Except Err (List α × PageTokenText) :=
    match pager token.start size with
    | .error e => .error e
    | .ok (page, done) =>
      if done then .ok (page, .empty)
      -- the size inside the token is carried along but never read
      else .ok (page, .encoded { token with start := token.start + page.length })
  match req.pageToken with
  | .empty => run ⟨0, size⟩
  | .encoded t => run t
  | .malformed => .error ⟨none, "could not decode page token"⟩

/-- LIMIT and OFFSET of a statement; GORM leaves out a negative one. -/
def window (rows : List α) (offset limit : ℤ) : List α :=
  let rows := rows.drop offset.toNat
  if limit < 0 then rows else rows.take limit.toNat

def orderStmt (orderBy : String) (asc : Bool) : String :=
  if orderBy = "" then "" else orderBy ++ " " ++ (if asc then "asc" else "desc")

variable {stamp : α → Option ℤ}

/-- `Storage.List` on the rows its conditions select. -/
def storageList (E : SQL.Engine α stamp) (orderBy : String) (asc : Bool) (offset limit : ℤ)
    (rows : List α) : Except Err (List α) :=
  match E.sort (orderStmt orderBy asc) with
  | none => .error ⟨none, "syntax error in ORDER BY"⟩
  | some f => .ok (window (f rows) offset limit)

def paginateStorage (E : SQL.Engine α stamp) (req : PaginatedRequest) (opts : PaginationOpts)
    (rows : List α) : Except Err (List α × PageTokenText) :=
  paginate req opts (fun start size =>
    match storageList E req.orderBy req.asc start size rows with
    | .error e => .error (e.wrap "database error")
    | .ok page => .ok (page, page.length = 0 ∨ (page.length : ℤ) < size))

/-- `ListAllPaginated`: call `list` with the token of the previous answer until it
is empty. The first argument bounds the number of calls. -/
def listAllPaginated (list : PageTokenText → Except Err (List α × PageTokenText)) :
    ℕ → PageTokenText → Option (Except Err (List α))
  | 0, _ => none
  | n + 1, token =>
    match list token with
    | .error e => some (.error e)
    | .ok (page, .empty) => some (.ok page)
    | .ok (page, next) => (listAllPaginated list n next).map (fun r => r.map (page ++ ·))

/-- A service that only rewords the errors of a list call hands on its pages. -/
theorem listAllPaginated_mapError (list : PageTokenText → Except Err (List α × PageTokenText))
    (g : Err → Err) (n : ℕ) (token : PageTokenText) :
    listAllPaginated (fun t => (list t).mapError g) n token =
      (listAllPaginated list n token).map (Except.mapError g) := by
  induction n generalizing token with
  | zero => rfl
  | succ n ih =>
    simp only [listAllPaginated]
    have hpage (page : List α) (next : PageTokenText) :
        (listAllPaginated (fun t => (list t).mapError g) n next).map (fun r => r.map (page ++ ·)) =
          ((listAllPaginated list n next).map (fun r => r.map (page ++ ·))).map
            (Except.mapError g) := by
      rw [ih, Option.map_map, Option.map_map]
      congr 1
      funext r
      cases r <;> rfl
    rcases h : list token with e | ⟨page,next⟩
    · rfl
    · cases next with
      | empty => rfl
      | encoded t => exact hpage page (.encoded t)
      | malformed => exact hpage page .malformed

theorem window_append (rows : List α) (start : ℕ) (size : ℤ) :
    window rows start size ++ rows.drop (start + (window rows start size).length) =
      rows.drop start := by
  simp only [window, Int.toNat_natCast, ← List.drop_drop]
  split
  · rw [List.drop_length, List.append_nil]
  · rw [List.length_take]
    by_cases h : size.toNat ≤ (rows.drop start).length
    · rw [min_eq_left h, List.take_append_drop]
    · rw [min_eq_right (by omega), List.take_of_length_le (by omega), List.drop_length,
        List.append_nil]

/-- A page that ends the chain is the whole rest of the rows. -/
theorem window_done (rows : List α) (start : ℕ) (size : ℤ)
    (h : (window rows start size).length = 0 ∨ ((window rows start size).length : ℤ) < size)
    (hs : size ≠ 0) : window rows start size = rows.drop start := by
  simp only [window, Int.toNat_natCast] at h ⊢
  split
  · rfl
  · rename_i hn
    rw [if_neg hn, List.length_take] at h
    apply List.take_of_length_le
    omega

/-- The pages of a chain of requests. Request number `i` carries the token of the answer
before it; the first argument bounds the number of requests. -/
def followTokens (list : ℕ → PageTokenText → Except Err (List α × PageTokenText)) :
    ℕ → ℕ → PageTokenText → Option (Except Err (List (List α)))
  | 0, _, _ => none
  | n + 1, i, token =>
    match list i token with
    | .error e => some (.error e)
    | .ok (page, .empty) => some (.ok [page])
    | .ok (page, next) => (followTokens list n (i + 1) next).map (fun r => r.map (page :: ·))

/-- The client loop is the chain in which all requests are alike. -/
theorem listAllPaginated_eq (list : PageTokenText → Except Err (List α × PageTokenText))
    (n i : ℕ) (token : PageTokenText) :
    listAllPaginated list n token =
      (followTokens (fun _ => list) n i token).map (Except.map List.flatten) := by
  induction n generalizing i token with
  | zero => rfl
  | succ n ih =>
    have hpage (page : List α) (next : PageTokenText) :
        (listAllPaginated list n next).map (fun r => r.map (page ++ ·)) =
          ((followTokens (fun _ => list) n (i + 1) next).map (fun r => r.map (page :: ·))).map
            (Except.map List.flatten) := by
      rw [ih (i + 1), Option.map_map, Option.map_map]
      congr 1
      funext r
      cases r <;> rfl
    simp only [listAllPaginated, followTokens]
    rcases list token with e | ⟨page,next⟩
    · rfl
    · cases next with
      | empty => simp [Except.map]
      | encoded t => exact hpage page (.encoded t)
      | malformed => exact hpage page .malformed

/-- An answer to a request that starts at row `s`: a page of the rows from there on. The
chain ends only with the last of them and else moves on. -/
def PageFrom (rows : List α) (s : ℕ) (z : ℤ) (answer : Except Err (List α × PageTokenText)) :
    Prop :=
  ∃ (page : List α) (done : Bool),
    answer = .ok (page, if done then .empty else .encoded ⟨s + page.length, z⟩) ∧
    page ++ rows.drop (s + page.length) = rows.drop s ∧
    (done = true → page = rows.drop s) ∧ (done = false → page ≠ [])

/-- Following the tokens from row `s` collects exactly the rows from there on. -/
theorem followTokens_from (list : ℕ → PageTokenText → Except Err (List α × PageTokenText))
    (rows : List α) (z : ℤ)
    (hl : ∀ i s : ℕ, s ≤ rows.length → PageFrom rows s z (list i (.encoded ⟨s, z⟩)))
    (n i s : ℕ) (hs : s ≤ rows.length) (hn : rows.length - s < n) :
    ∃ pages, followTokens list n i (.encoded ⟨s, z⟩) = some (.ok pages) ∧
      pages.flatten = rows.drop s := by
  -- the rest of the rows shrinks with every page that is not the last one
  induction n generalizing i s with
  | zero => omega
  | succ n ih =>
    obtain ⟨page,done,hans,happ,hdone,hmore⟩ := hl i s hs
    rw [followTokens, hans]
    cases done with
    | true =>
      refine ⟨[page], rfl, ?_⟩
      rw [List.flatten_singleton]
      exact hdone rfl
    | false =>
      have hpos : page.length ≠ 0 := fun h => hmore rfl (List.eq_nil_of_length_eq_zero h)
      have hlen := congrArg List.length happ
      simp only [List.length_append, List.length_drop] at hlen
      obtain ⟨pages,hpages,hflat⟩ := ih (i + 1) (s + page.length) (by omega) (by omega)
      rw [Nat.cast_add] at hpages
      refine ⟨page :: pages, ?_, ?_⟩
      · simp only [Bool.false_eq_true, if_false, hpages, Option.map_some, Except.map]
      · rw [List.flatten_cons, hflat, happ]

/-- A chain that starts without a token starts at row 0. -/
theorem followTokens_all (list : ℕ → PageTokenText → Except Err (List α × PageTokenText))
    (rows : List α) (z : ℤ) (h0 : list 0 .empty = list 0 (.encoded ⟨0, z⟩))
    (hl : ∀ i s : ℕ, s ≤ rows.length → PageFrom rows s z (list i (.encoded ⟨s, z⟩)))
    (n : ℕ) (hn : rows.length < n) :
    ∃ pages, followTokens list n 0 .empty = some (.ok pages) ∧ pages.flatten = rows := by
  obtain ⟨pages,hpages,hflat⟩ := followTokens_from list rows z hl n 0 0 (Nat.zero_le _) hn
  refine ⟨pages, ?_, hflat⟩
  cases n with
  | zero => omega
  | succ n =>
    rw [followTokens, h0]
    rw [followTokens] at hpages
    exact hpages

theorem paginateStorage_pageFrom (E : SQL.Engine α stamp) (req : PaginatedRequest)
    (opts : PaginationOpts) (f : List α → List α)
    (hf : E.sort (orderStmt req.orderBy req.asc) = some f) (rows : List α) (s : ℕ) (z : ℤ)
    (ht : req.pageToken = .encoded ⟨s, z⟩) (hs : req.size opts ≠ 0) :
    PageFrom (f rows) s z (paginateStorage E req opts rows) := by
  let page := window (f rows) s (req.size opts)
  refine ⟨page, decide (page.length = 0 ∨ (page.length : ℤ) < req.size opts), ?_, ?_, ?_, ?_⟩
  · simp only [paginateStorage, paginate, storageList, ht, hf]
    split <;> rfl
  · exact window_append (f rows) s (req.size opts)
  · intro hd
    exact window_done (f rows) s (req.size opts) (of_decide_eq_true hd) hs
  · intro hd hnil
    exact of_decide_eq_false hd (.inl (List.length_eq_zero_iff.mpr hnil))

/-- Over all its pages the storage pager yields the ordered rows, for every page
size a request can carry. -/
theorem paginateStorage_all (E : SQL.Engine α stamp) (req : PaginatedRequest)
    (opts : PaginationOpts) (hd : 0 < opts.defaultPageSize) (hm : 0 < opts.maxPageSize)
    (f : List α → List α) (hf : E.sort (orderStmt req.orderBy req.asc) = some f)
    (rows : List α) (n : ℕ) (hn : rows.length < n) :
    listAllPaginated (fun t => paginateStorage E { req with pageToken := t } opts rows) n .empty =
      some (.ok (f rows)) := by
  have hs : req.size opts ≠ 0 := by
    unfold PaginatedRequest.size
    split_ifs <;> omega
  have hlen : (f rows).length = rows.length := (E.sort_perm _ f hf rows).length_eq
  obtain ⟨pages,hpages,hflat⟩ := followTokens_all
    (fun _ t => paginateStorage E { req with pageToken := t } opts rows) (f rows) (req.size opts)
    rfl (fun _ s _ => paginateStorage_pageFrom E { req with pageToken := .encoded ⟨s, _⟩ } opts f hf
      rows s _ rfl hs) n (by omega)
  rw [listAllPaginated_eq _ n 0, hpages]
  simp only [Option.map_some, Except.map, hflat]

end
end Clouditor
