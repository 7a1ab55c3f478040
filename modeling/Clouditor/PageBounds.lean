import Clouditor.PageChains
import Clouditor.PagedCalls

/-! `PaginateSlice` with the machine integers of the request: the start of a page token is an
`int64`, the page size an `int32`, and the slice expression is not guarded. -/
namespace Clouditor.Bounded
set_option autoImplicit false
open Paged

/-- The message inside a page token. -/
structure Token where
  start : Int64
  size : Int32
  deriving DecidableEq

/-- `DecodePageToken` and `Encode`: base 64 around the wire format. -/
structure TokenCodec where
  decodePageToken : String → Except Err Token
  encode : Token → Except Err String

structure PaginationOpts where
  defaultPageSize : Int32
  maxPageSize : Int32
  deriving DecidableEq

structure PaginatedRequest where
  pageSize : Int32
  pageToken : String
  deriving DecidableEq

/-- A slice, whose length is an `int`. -/
structure Slice (α : Type) where
  values : List α
  fits : values.length < 2 ^ 63

section
variable {α : Type} (codec : TokenCodec) (req : PaginatedRequest) (opts : PaginationOpts)

def PaginatedRequest.size : Int32 :=
  if req.pageSize = 0 then opts.defaultPageSize
  else if req.pageSize > opts.maxPageSize then opts.maxPageSize
  else req.pageSize

def ofExcept {β : Type} (context : String) : Except Err β → Outcome Err β
  | .ok b => .ok b
  | .error e => fail (e.wrap context)

/-- The page with the token of the next one, which moves forward by the length of the page. -/
def nextPageToken (token : Token) (page : List α) (done : Bool) : Outcome Err (List α × String) :=
  if done then pure (page, "")
  else do
    let token := { token with start := token.start + Int64.ofNat page.length }
    let npt ← ofExcept "could not create page token" (codec.encode token)
    pure (page, npt)

/-- The token of the request, or a new one for the first page. -/
def PaginatedRequest.token : Outcome Err Token :=
  if req.pageToken = "" then .ok ⟨0, req.size opts⟩
  else ofExcept "could not decode page token" (codec.decodePageToken req.pageToken)

def paginate (pager : Int64 → Int32 → Outcome Err (List α × Bool)) :
    Outcome Err (List α × String) := do
  let token ← req.token codec opts
  let (page, done) ← pager token.start (req.size opts)
  nextPageToken codec token page done

/-- `values[start:stop]`, for a `stop` that does not exceed the length. -/
def sliceExpr (values : List α) (start stop : Int64) : Outcome Err (List α) :=
  if 0 ≤ start ∧ start ≤ stop then
    .ok ((values.drop start.toInt.toNat).take (stop.toInt - start.toInt).toNat)
  else .error .fault

def slicePager (values : List α) (start : Int64) (size : Int32) : Outcome Err (List α × Bool) := do
  let stop := start + size.toInt64
  let max := Int64.ofNat values.length
  let done : Bool := stop ≥ max
  let page ← sliceExpr values start (if done then max else stop)
  pure (page, done)

def paginateSlice (slice : Slice α) (less : α → α → Bool) : Outcome Err (List α × String) :=
  paginate codec req opts (slicePager (sortSlice less slice.values))

/-- The start that the request asks for, if its token can be decoded. -/
def PaginatedRequest.start : Option Int64 :=
  if req.pageToken = "" then some 0
  else (codec.decodePageToken req.pageToken).toOption.map Token.start

/-- The page lies within the slice and its end within the `int64` range. -/
structure WithinSlice (length : ℕ) (start : Int64) (size : Int32) : Prop where
  start_nonneg : 0 ≤ start.toInt
  start_le : start.toInt ≤ length
  size_nonneg : 0 ≤ size.toInt
  fits : start.toInt + size.toInt < 2 ^ 63

/-- The end of the page as the code computes it, clamped to the length. -/
theorem slicePager_eq (values : List α) (hfits : values.length < 2 ^ 63) (start : Int64)
    (size : Int32) :
    slicePager values start size =
      let stop := (start.toInt + size.toInt).bmod (2 ^ 64)
      let clamped := min stop values.length
      if 0 ≤ start.toInt ∧ start.toInt ≤ clamped then
        .ok ((values.drop start.toInt.toNat).take (clamped - start.toInt).toNat,
          decide (values.length ≤ stop))
      else .error .fault := by
  have hmax : (Int64.ofNat values.length).toInt = values.length := Int64.toInt_ofNat_of_lt hfits
  have hstop : (start + size.toInt64).toInt = (start.toInt + size.toInt).bmod (2 ^ 64) := by
    rw [Int64.toInt_add, Int32.toInt_toInt64]
  have hzero : (0 : Int64).toInt = 0 := by decide
  simp only [slicePager, sliceExpr, Int64.le_iff_toInt_le, ge_iff_le, hmax, hstop, hzero]
  by_cases hdone : (values.length : ℤ) ≤ (start.toInt + size.toInt).bmod (2 ^ 64)
  · simp only [hdone, decide_true, if_true, hmax, min_eq_right hdone]
    split <;> rfl
  · simp only [hdone, decide_false, Bool.false_eq_true, if_false, hstop,
      min_eq_left (not_le.mp hdone).le]
    split <;> rfl

/-- Clamping the end to the length does not change a window that starts within the list. -/
theorem take_clamped (values : List α) {start : ℤ} (size : ℤ) (hstart : 0 ≤ start)
    (hle : start ≤ values.length) :
    (values.drop start.toNat).take (min (start + size) values.length - start).toNat =
      (values.drop start.toNat).take size.toNat := by
  by_cases hend : (values.length : ℤ) ≤ start + size
  · -- both windows reach the end of the list
    rw [List.take_of_length_le (by rw [List.length_drop]; omega),
      List.take_of_length_le (by rw [List.length_drop]; omega)]
  · congr 1
    omega

/-- What the pager does with every start and every size. -/
theorem slicePager_cases (values : List α) (hfits : values.length < 2 ^ 63) (start : Int64)
    (size : Int32) :
    (WithinSlice values.length start size ∧ slicePager values start size =
        .ok ((values.drop start.toInt.toNat).take size.toInt.toNat,
          decide (values.length ≤ start.toInt + size.toInt))) ∨
      (¬ WithinSlice values.length start size ∧ slicePager values start size = .error .fault) := by
  have hstart := start.le_toInt
  have hstart' := start.toInt_lt
  have hsize := size.le_toInt
  have hsize' := size.toInt_lt
  rw [slicePager_eq values hfits]
  by_cases hwithin : WithinSlice values.length start size
  · refine .inl ⟨hwithin, ?_⟩
    obtain ⟨hs, hle, hz, hend⟩ := hwithin
    have hstop : (start.toInt + size.toInt).bmod (2 ^ 64) = start.toInt + size.toInt := by
      rw [Int.bmod_def]
      split <;> omega
    simp only [hstop]
    rw [if_pos (by omega), take_clamped values size.toInt hs hle]
  · refine .inr ⟨hwithin, if_neg ?_⟩
    intro ⟨hs, hle⟩
    apply hwithin
    -- a sum that leaves the range turns negative, and a negative size ends before the start
    rw [Int.bmod_def] at hle
    split at hle
    · exact ⟨hs, by omega, by omega, by omega⟩
    · exact ⟨hs, by omega, by omega, by omega⟩

theorem nextPageToken_cases (token : Token) (page : List α) (done : Bool) :
    (∃ e, nextPageToken codec token page done = fail e) ∨
      ∃ npt, nextPageToken codec token page done = .ok (page, npt) := by
  unfold nextPageToken
  cases done with
  | true => exact .inr ⟨"", rfl⟩
  | false =>
    rw [if_neg Bool.false_ne_true]
    cases hencode : codec.encode { token with start := token.start + Int64.ofNat page.length } with
    | error e => exact .inl ⟨e.wrap "could not create page token", by simp only [hencode]; rfl⟩
    | ok npt => exact .inr ⟨npt, by simp only [hencode]; rfl⟩

theorem token_cases :
    (∃ e, req.token codec opts = fail e ∧ req.start codec = none) ∨
      ∃ token, req.token codec opts = .ok token ∧ req.start codec = some token.start := by
  unfold PaginatedRequest.token PaginatedRequest.start
  split
  · exact .inr ⟨_, rfl, rfl⟩
  · cases codec.decodePageToken req.pageToken with
    | error e => exact .inl ⟨_, rfl, rfl⟩
    | ok token => exact .inr ⟨token, rfl, rfl⟩

theorem paginate_eq (pager : Int64 → Int32 → Outcome Err (List α × Bool)) {token : Token}
    (h : req.token codec opts = .ok token) :
    paginate codec req opts pager =
      pager token.start (req.size opts) >>= fun p => nextPageToken codec token p.1 p.2 := by
  rw [paginate, h]
  rfl

theorem infix_window (values : List α) (m n : ℕ) :
    (values.drop m).take n <:+: values := by
  have hfront := List.take_prefix n (values.drop m)
  exact hfront.isInfix.trans (List.drop_suffix m values).isInfix

/-- A request is answered with a contiguous part of the sorted slice, or with an error, exactly
when its token cannot be decoded or the page it asks for lies within the slice. -/
theorem paginateSlice_faultless_iff (slice : Slice α) (less : α → α → Bool) :
    ((∃ e, paginateSlice codec req opts slice less = fail e) ∨
        ∃ page npt, paginateSlice codec req opts slice less = .ok (page, npt) ∧
          page <:+: sortSlice less slice.values) ↔
      ∀ start, req.start codec = some start →
        WithinSlice slice.values.length start (req.size opts) := by
  have hlength : (sortSlice less slice.values).length = slice.values.length :=
    List.length_insertionSort _ _
  have hfits : (sortSlice less slice.values).length < 2 ^ 63 := by
    rw [hlength]
    exact slice.fits
  rw [paginateSlice]
  obtain ⟨e, htoken, hstart⟩ | ⟨token, htoken, hstart⟩ := token_cases codec req opts
  · rw [paginate, htoken, hstart]
    exact iff_of_true (.inl ⟨e, rfl⟩) (fun start h => by cases h)
  · have hcases := slicePager_cases _ hfits token.start (req.size opts)
    rw [hlength] at hcases
    rw [paginate_eq codec req opts _ htoken, hstart]
    obtain ⟨hwithin, hpager⟩ | ⟨hout, hpager⟩ := hcases
    · refine iff_of_true ?_ (fun start h => Option.some.inj h ▸ hwithin)
      obtain ⟨e, he⟩ | ⟨npt, hnpt⟩ := nextPageToken_cases codec token
        (((sortSlice less slice.values).drop token.start.toInt.toNat).take
          (req.size opts).toInt.toNat)
        (decide (slice.values.length ≤ token.start.toInt + (req.size opts).toInt))
      · exact .inl ⟨e, by rw [hpager]; exact he⟩
      · exact .inr ⟨_, npt, by rw [hpager]; exact hnpt, infix_window _ _ _⟩
    · refine iff_of_false ?_ (fun h => hout (h token.start rfl))
      rw [hpager]
      intro h
      obtain ⟨e, he⟩ | ⟨page, npt, hok, _⟩ := h
      · cases he
      · cases hok

/-- Page sizes and limits as the unbounded model has them. -/
theorem toInt_size (token : PageTokenText) (orderBy : String) (asc : Bool) :
    (req.size opts).toInt = (Clouditor.PaginatedRequest.mk req.pageSize.toInt token orderBy
      asc).size ⟨opts.defaultPageSize.toInt, opts.maxPageSize.toInt⟩ := by
  have hzero : req.pageSize = 0 ↔ req.pageSize.toInt = 0 := by
    rw [← Int32.toInt_inj]
    rfl
  unfold PaginatedRequest.size Clouditor.PaginatedRequest.size
  simp only [hzero, gt_iff_lt, Int32.lt_iff_toInt_lt]
  split
  · rfl
  · split <;> rfl

theorem page_eq_window (slice : Slice α) (less : α → α → Bool) {start : Int64}
    (hreq : req.start codec = some start) {page : List α} {npt : String}
    (hok : paginateSlice codec req opts slice less = .ok (page, npt)) :
    page = ((sortSlice less slice.values).drop start.toInt.toNat).take
      (req.size opts).toInt.toNat := by
  have hfits : (sortSlice less slice.values).length < 2 ^ 63 := by
    rw [sortSlice, List.length_insertionSort]
    exact slice.fits
  obtain ⟨e, _, hstart⟩ | ⟨token, htoken, hstart⟩ := token_cases codec req opts
  · rw [hstart] at hreq
    cases hreq
  · obtain rfl : token.start = start := Option.some.inj (hstart.symm.trans hreq)
    rw [paginateSlice, paginate_eq codec req opts _ htoken] at hok
    obtain ⟨_, hpager⟩ | ⟨_, hpager⟩ := slicePager_cases _ hfits token.start (req.size opts)
    · rw [hpager] at hok
      obtain ⟨e, he⟩ | ⟨npt', hnpt⟩ := nextPageToken_cases codec token
        (((sortSlice less slice.values).drop token.start.toInt.toNat).take
          (req.size opts).toInt.toNat)
        (decide ((sortSlice less slice.values).length ≤
          token.start.toInt + (req.size opts).toInt))
      · cases he.symm.trans hok
      · exact (congrArg Prod.fst (Except.ok.inj (hnpt.symm.trans hok))).symm
    · rw [hpager] at hok
      cases hok

theorem unbounded_window (req : Clouditor.PaginatedRequest) (values : List α)
    (less : α → α → Bool) (opts : Clouditor.PaginationOpts) {start z : ℤ}
    (htoken : req.pageToken = .encoded ⟨start, z⟩) (hstart : 0 ≤ start)
    (hle : start ≤ values.length) (hsize : 0 ≤ req.size opts) :
    ∃ next, Clouditor.paginateSlice req values less opts =
      .ok (((sortSlice less values).drop start.toNat).take (req.size opts).toNat, next) := by
  have hlength : (sortSlice less values).length = values.length := List.length_insertionSort _ _
  have hclamp := take_clamped (sortSlice less values) (req.size opts) hstart
    (by rw [hlength]; exact hle)
  rw [← hclamp, hlength]
  simp only [Clouditor.paginateSlice, Clouditor.paginate, htoken, hlength]
  by_cases hdone : (values.length : ℤ) ≤ start + req.size opts
  · simp only [hdone, decide_true, if_true, min_eq_right]
    rw [if_pos ⟨hstart, hle⟩]
    exact ⟨_, rfl⟩
  · simp only [hdone, decide_false, Bool.false_eq_true, if_false,
      min_eq_left (not_le.mp hdone).le]
    rw [if_pos ⟨hstart, by omega⟩]
    exact ⟨_, rfl⟩

/-- Within the slice the pages are those of the unbounded model. -/
theorem paginateSlice_unbounded (slice : Slice α) (less : α → α → Bool) {start : Int64}
    (hreq : req.start codec = some start)
    (hwithin : WithinSlice slice.values.length start (req.size opts)) {page : List α} {npt : String}
    (hok : paginateSlice codec req opts slice less = .ok (page, npt)) (z : ℤ) (orderBy : String)
    (asc : Bool) :
    ∃ next, Clouditor.paginateSlice ⟨req.pageSize.toInt, .encoded ⟨start.toInt, z⟩, orderBy, asc⟩
      slice.values less ⟨opts.defaultPageSize.toInt, opts.maxPageSize.toInt⟩ =
        .ok (page, next) := by
  have hsize := toInt_size req opts (.encoded ⟨start.toInt, z⟩) orderBy asc
  rw [page_eq_window codec req opts slice less hreq hok, hsize]
  apply unbounded_window _ _ _ _ rfl hwithin.start_nonneg hwithin.start_le
  rw [← hsize]
  exact hwithin.size_nonneg

/-- A codec under which every token asks for a start behind all slices. -/
def farCodec : TokenCodec := ⟨fun _ => .ok ⟨Int64.maxValue, 0⟩, fun _ => .ok "next"⟩

/-- A negative page size, and a start whose sum with the size wraps around. -/
theorem negative_page_size_faults :
    paginateSlice farCodec ⟨-1, ""⟩ ⟨50, 1500⟩ ⟨[1, 2], by decide⟩ (fun a b : ℕ => a < b) =
        .error .fault ∧
      paginateSlice farCodec ⟨10, "far"⟩ ⟨50, 1500⟩ ⟨[1, 2], by decide⟩ (fun a b : ℕ => a < b) =
        .error .fault := by
  decide

end
end Clouditor.Bounded
