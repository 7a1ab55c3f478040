import Clouditor.Base64
import Clouditor.PageBounds
import Clouditor.WireFormat

/-! Page tokens as texts: the message in the wire format, in base 64 for URLs. Following the
texts of a list call leads through the whole list. -/
namespace Clouditor.Bounded
set_option autoImplicit false
open Paged

section Codec

def urlChars : List Char :=
  "ABCDEFGHIJKLMNOPQRSTUVWXYZabcdefghijklmnopqrstuvwxyz0123456789-_".toList

def urlChar (v : Fin 64) : Char := urlChars.getD v.val 'A'

def urlEncoding : Base64.Alphabet where
  char := urlChar
  value c := (List.finRange 64).find? (fun v => urlChar v == c)
  value_char := by decide +kernel
  value_pad := by decide +kernel

/-- A field that is zero is left out. A negative number counts as one of 64 bits. -/
def marshal (t : Token) : Wire.Bytes :=
  (if t.start = 0 then [] else Wire.varintField 1 t.start.toUInt64.toNat) ++
    (if t.size = 0 then [] else Wire.varintField 2 t.size.toInt64.toUInt64.toNat)

/-- The last value of a field counts, what is not a field of the message is skipped. -/
def Token.set (t : Token) : ℕ × Wire.Payload → Token
  | (1, .varint v) => { t with start := Int64.ofNat v }
  | (2, .varint v) => { t with size := Int32.ofNat v }
  | _ => t

def unmarshal (b : Wire.Bytes) : Option Token := (Wire.parse b).map (List.foldl Token.set ⟨0, 0⟩)

def Token.encode (t : Token) : String := String.ofList (Base64.encode urlEncoding (marshal t))

def decodePageToken (b64token : String) : Except Err Token :=
  match Base64.decode urlEncoding b64token.toList with
  | .error n => .error ⟨none,
      "error while decoding base64 token: illegal base64 data at input byte " ++ toString n⟩
  | .ok b =>
    match unmarshal b with
    | none => .error ⟨none, "error while unmarshalling protobuf message: " ++
        "proto: cannot parse invalid wire-format data"⟩
    | some t => .ok t

def pageTokenCodec : TokenCodec := ⟨decodePageToken, fun t => .ok t.encode⟩

theorem bmod_toUInt64 (x : Int64) : (x.toUInt64.toNat : ℤ).bmod (2 ^ 64) = x.toInt :=
  (BitVec.toInt_eq_toNat_bmod x.toBitVec).symm

theorem ofNat_start (x : Int64) : Int64.ofNat x.toUInt64.toNat = x := by
  apply Int64.toInt_inj.mp
  rw [Int64.toInt_ofNat']
  exact bmod_toUInt64 x

/-- Half of the 64 bits are enough for the sign and the number. -/
theorem ofNat_size (x : Int32) : Int32.ofNat x.toInt64.toUInt64.toNat = x := by
  apply Int32.toInt_inj.mp
  have hwide := bmod_toUInt64 x.toInt64
  have hlow := x.le_toInt
  have hhigh := x.toInt_lt
  have hbits : (Int32.size : ℤ) = 2 ^ 32 := rfl
  rw [Int32.toInt_toInt64, Int.bmod_def] at hwide
  rw [Int32.toInt_ofNat', Int.bmod_def, hbits]
  split_ifs at hwide ⊢ <;> omega

/-- Fields of other numbers, as a later version of the message may have them. -/
def laterFields (later : List (ℕ × ℕ)) : Wire.Bytes :=
  later.flatMap (fun f => Wire.varintField f.1 f.2)

def Later (later : List (ℕ × ℕ)) : Prop :=
  ∀ f ∈ later, 3 ≤ f.1 ∧ f.1 ≤ Wire.maxFieldNumber ∧ f.2 < 2 ^ 64

theorem parse_laterFields (later : List (ℕ × ℕ)) (h : Later later) :
    Wire.parse (laterFields later) = some (later.map (fun f => (f.1, .varint f.2))) := by
  induction later with
  | nil => rw [laterFields, List.flatMap_nil, Wire.parse, if_pos rfl, List.map_nil]
  | cons f later ih =>
    obtain ⟨hnum,hmax,hv⟩ := h f List.mem_cons_self
    have hrest := ih (fun g hg => h g (List.mem_cons_of_mem f hg))
    rw [laterFields, List.flatMap_cons, Wire.parse_varintField _ _ (by omega) hmax hv]
    rw [laterFields] at hrest
    rw [hrest]
    rfl

theorem foldl_set_later (later : List (ℕ × ℕ)) (h : Later later) (t : Token) :
    (later.map (fun f => (f.1, Wire.Payload.varint f.2))).foldl Token.set t = t := by
  induction later with
  | nil => rfl
  | cons f later ih =>
    have hnum := (h f List.mem_cons_self).1
    have hset : t.set (f.1, .varint f.2) = t := by
      unfold Token.set
      split
      · rename_i heq
        rw [Prod.mk.injEq] at heq
        omega
      · rename_i heq
        rw [Prod.mk.injEq] at heq
        omega
      · rfl
    rw [List.map_cons, List.foldl_cons, hset]
    exact ih (fun g hg => h g (List.mem_cons_of_mem f hg))

theorem unmarshal_marshal (t : Token) (later : List (ℕ × ℕ)) (h : Later later) :
    unmarshal (marshal t ++ laterFields later) = some t := by
  obtain ⟨start,size⟩ := t
  have hstart (rest : Wire.Bytes) :=
    Wire.parse_varintField 1 start.toUInt64.toNat le_rfl (by decide) start.toUInt64.toNat_lt rest
  have hsize (rest : Wire.Bytes) := Wire.parse_varintField 2 size.toInt64.toUInt64.toNat
    (by decide) (by decide) size.toInt64.toUInt64.toNat_lt rest
  have hlater := parse_laterFields later h
  have hfold := foldl_set_later later h
  unfold unmarshal marshal
  by_cases hs : start = 0
  · by_cases hz : size = 0
    · simp [hs, hz, hlater, hfold]
    · simp [hs, hz, hsize, hlater, hfold, Token.set, ofNat_size]
  · by_cases hz : size = 0
    · simp [hs, hz, hstart, hlater, hfold, Token.set, ofNat_start]
    · simp [hs, hz, hstart, hsize, hlater, hfold, Token.set, ofNat_start, ofNat_size]

theorem decodePageToken_encode (t : Token) (later : List (ℕ × ℕ)) (h : Later later) :
    decodePageToken (String.ofList
      (Base64.encode urlEncoding (marshal t ++ laterFields later))) = .ok t := by
  simp only [decodePageToken, String.toList_ofList, Base64.decode_encode,
    unmarshal_marshal t later h]

theorem decodePageToken_of_encode (t : Token) : decodePageToken t.encode = .ok t := by
  have h := decodePageToken_encode t [] nofun
  rw [laterFields, List.flatMap_nil, List.append_nil] at h
  exact h

theorem encode_eq_empty_iff (t : Token) : t.encode = "" ↔ t.start = 0 ∧ t.size = 0 := by
  have hfield (num v : ℕ) : Wire.varintField num v ≠ [] := by
    intro h
    exact Wire.varint_ne_nil _ (List.append_eq_nil_iff.mp h).1
  rw [Token.encode, String.ofList_eq_empty_iff, Base64.encode_eq_nil_iff, marshal,
    List.append_eq_nil_iff]
  simp only [ite_eq_left_iff, hfield, imp_false, not_not]

end Codec

section Texts
variable {α : Type}

/-- `ListAllPaginated`: call `list` with the token of the answer before until that is empty. The
number bounds the calls. -/
def listAllTexts (list : String → Outcome Err (List α × String)) :
    ℕ → String → Option (Outcome Err (List α))
  | 0, _ => none
  | n + 1, token =>
    match list token with
    | .error e => some (.error e)
    | .ok (page, next) =>
      if next = "" then some (.ok page)
      else (listAllTexts list n next).map (fun r => r.map (page ++ ·))

theorem listAllTexts_succ (list : String → Outcome Err (List α × String)) (n : ℕ)
    {token next : String} {page : List α} (h : list token = .ok (page, next)) :
    listAllTexts list (n + 1) token = if next = "" then some (.ok page)
      else (listAllTexts list n next).map (fun r => r.map (page ++ ·)) := by
  simp only [listAllTexts, h]

variable (req : PaginatedRequest) (opts : PaginationOpts) (slice : Slice α)
  (less : α → α → Bool) {k : ℕ} (hk : (req.size opts).toInt = k)
  (hfits : slice.values.length + k < 2 ^ 63)
include hk hfits

/-- The page from the index `s` on, with the text of the token that leads on. -/
theorem paginateSlice_text (text : String) (s : ℕ) (z : Int32) (hs : s ≤ slice.values.length)
    (htoken : { req with pageToken := text }.token pageTokenCodec opts =
      .ok ⟨Int64.ofNat s, z⟩) :
    let page := ((sortSlice less slice.values).drop s).take k
    paginateSlice pageTokenCodec { req with pageToken := text } opts slice less =
      .ok (page, if slice.values.length ≤ s + k then ""
        else Token.encode ⟨Int64.ofNat (s + page.length), z⟩) := by
  intro page
  have hlength : (sortSlice less slice.values).length = slice.values.length :=
    List.length_insertionSort _ _
  have hstart : (Int64.ofNat s).toInt = s := Int64.toInt_ofNat_of_lt (by omega)
  have hwithin : WithinSlice (sortSlice less slice.values).length (Int64.ofNat s)
      (req.size opts) := by
    rw [hlength]
    exact ⟨by omega, by omega, by omega, by omega⟩
  have hpager : slicePager (sortSlice less slice.values) (Int64.ofNat s) (req.size opts) =
      .ok (page, decide (slice.values.length ≤ s + k)) := by
    obtain ⟨_, hpager⟩ | ⟨hout, _⟩ := slicePager_cases (sortSlice less slice.values)
      (by omega) (Int64.ofNat s) (req.size opts)
    · rw [hpager, hlength, hstart, hk]
      simp only [page, Int.toNat_natCast, ← Nat.cast_add, Int.ofNat_le]
    · exact absurd hwithin hout
  rw [paginateSlice, paginate_eq _ _ _ _ htoken]
  change slicePager _ _ (req.size opts) >>= _ = _
  rw [hpager]
  change nextPageToken pageTokenCodec _ page _ = _
  unfold nextPageToken
  by_cases hdone : slice.values.length ≤ s + k
  · simp only [hdone, decide_true, if_true]
    rfl
  · simp only [hdone, decide_false, Bool.false_eq_true, if_false, Int64.ofNat_add]
    rfl

/-- From a text that stands for the index `s` the texts lead through the rest of the slice. -/
theorem listAllTexts_from (hpos : 0 < k) (z : Int32) (n s : ℕ) (hs : s ≤ slice.values.length)
    (hn : slice.values.length - s < n) (text : String)
    (htoken : { req with pageToken := text }.token pageTokenCodec opts =
      .ok ⟨Int64.ofNat s, z⟩) :
    listAllTexts (fun text =>
        paginateSlice pageTokenCodec { req with pageToken := text } opts slice less) n text =
      some (.ok ((sortSlice less slice.values).drop s)) := by
  have hlength : (sortSlice less slice.values).length = slice.values.length :=
    List.length_insertionSort _ _
  -- every page but the last one is full, so the rest gets shorter
  induction n generalizing s text with
  | zero => omega
  | succ n ih =>
    rw [listAllTexts_succ _ n (paginateSlice_text req opts slice less hk hfits text s z hs htoken)]
    by_cases hdone : slice.values.length ≤ s + k
    · rw [if_pos hdone, if_pos rfl, List.take_of_length_le]
      rw [List.length_drop, hlength]
      omega
    · have hfull : (((sortSlice less slice.values).drop s).take k).length = k := by
        rw [List.length_take, List.length_drop, hlength]
        omega
      have hstart : (Int64.ofNat (s + k)).toInt = (s + k : ℕ) :=
        Int64.toInt_ofNat_of_lt (by omega)
      have hne : Token.encode ⟨Int64.ofNat (s + k), z⟩ ≠ "" := by
        intro hempty
        have hzero := congrArg Int64.toInt ((encode_eq_empty_iff _).mp hempty).1
        rw [hstart, Int64.toInt_zero] at hzero
        omega
      have hnext : { req with pageToken := Token.encode ⟨Int64.ofNat (s + k), z⟩ }.token
          pageTokenCodec opts = .ok ⟨Int64.ofNat (s + k), z⟩ := by
        simp only [PaginatedRequest.token, pageTokenCodec, if_neg hne, decodePageToken_of_encode,
          ofExcept]
      rw [if_neg hdone, hfull, if_neg hne, ih (s + k) (by omega) (by omega) _ hnext]
      simp only [Option.map_some, Except.map, ← List.drop_drop, List.take_append_drop]

omit hk hfits

end Texts
end Clouditor.Bounded
