import Clouditor.FieldSerializers
import Clouditor.StructDecoding

/-! The column of metric ranges: how a range is written as JSON, and how the three kinds of ranges
are tried one after the other when it is read back. -/
namespace Clouditor
set_option autoImplicit false
open StructDecoding

/-- A JSON document. Numbers are integers when their literal has neither a fraction nor an
exponent. -/
inductive Doc where
  | null
  | bool (b : Bool)
  | integer (i : ℤ)
  | decimal (q : ℚ)
  | string (s : String)
  | array (items : List Doc)
  | object (fields : List (String × Doc))

/-- The texts of documents, and the error for a value of another type than that of its field. -/
structure DocText (B : Type) where
  print : Doc → B
  parse : B → Except Err Doc
  parse_print : ∀ d, parse (print d) = .ok d
  mismatch : Err

/-- The JSON form of `structpb.Value`. A value that has one can be read back. -/
structure ValueJSON (V : Type) where
  nullValue : V
  marshal : V → Except Err Doc
  unmarshal : Doc → Option V
  marshal_null : marshal nullValue = .ok .null
  unmarshal_marshal : ∀ v d, marshal v = .ok d → unmarshal d = some v

structure MinMax where
  min : Int64
  max : Int64
  deriving DecidableEq

/-- The kinds of ranges. Each holds a pointer to its message. The entries of `AllowedValues` and
`Order` are pointers as well. -/
inductive RangeKind (V : Type) where
  | allowedValues (m : Option (List (Option V)))
  | order (m : Option (List (Option V)))
  | minMax (m : Option MinMax)

structure RangeMessage (V : Type) where
  range : Option (RangeKind V)

section Decoding

/-- The values for the field of a struct, in the order in which they are decoded. -/
def docValues (name : String) (fields : List (String × Doc)) : List Doc :=
  (fields.filter (fun field => foldName field.1 = foldName name)).map Prod.snd

section Pointers
variable {M : Type} (readMessage : M → Doc → Option M) (zero : M)

/-- A value in the place of a pointer to a message: `null` is nil, and anything else is read over
the message that is there already. -/
def decodePointer (old : Option M) : Doc → Option (Option M)
  | .null => some none
  | d => (readMessage (old.getD zero) d).map some

/-- A document in the place of a struct with a single field, which is such a pointer. -/
def decodeWrapper (name : String) : Doc → Option (Option M)
  | .null => some none
  | .object fields => (docValues name fields).foldlM (decodePointer readMessage zero) none
  | _ => none

end Pointers

variable {V B : Type} (text : DocText B) (json : ValueJSON V)

def readEntry : Doc → Option (Option V)
  | .null => some none
  | d => (json.unmarshal d).map some

def readEntries (_old : List (Option V)) : Doc → Option (List (Option V))
  | .null => some []
  | .array items => items.mapM (readEntry json)
  | _ => none

/-- `AllowedValues` and `Order`, which have a field `values` each. -/
def readValues (old : List (Option V)) : Doc → Option (List (Option V))
  | .object fields => (docValues "values" fields).foldlM (readEntries json) old
  | _ => none

/-- An `int64`, which a literal with a fraction or an exponent is not. -/
def readInt64 (old : Int64) : Doc → Option Int64
  | .null => some old
  | .integer i => if -2 ^ 63 ≤ i ∧ i < 2 ^ 63 then some (Int64.ofInt i) else none
  | _ => none

def readBound (m : MinMax) (field : String × Doc) : Option MinMax :=
  if foldName field.1 = foldName "min" then
    (readInt64 m.min field.2).map (fun i => { m with min := i })
  else if foldName field.1 = foldName "max" then
    (readInt64 m.max field.2).map (fun i => { m with max := i })
  else some m

def readMinMax (old : MinMax) : Doc → Option MinMax
  | .object fields => fields.foldlM readBound old
  | _ => none

/-- `json.Unmarshal` into one of the three wrappers. -/
def unmarshalInto {M : Type} (decode : Doc → Option (Option M)) (b : B) :
    Except Err (Option M) :=
  match text.parse b with
  | .error e => .error e
  | .ok doc =>
    match decode doc with
    | none => .error text.mismatch
    | some m => .ok m

def decodeAllowedValues : Doc → Option (Option (List (Option V))) :=
  decodeWrapper (readValues json) [] "AllowedValues"

def decodeOrder : Doc → Option (Option (List (Option V))) :=
  decodeWrapper (readValues json) [] "Order"

def decodeMinMax : Doc → Option (Option MinMax) := decodeWrapper readMinMax ⟨0, 0⟩ "MinMax"

/-- The range afterwards, and the error. -/
def RangeMessage.unmarshalJSON (r : RangeMessage V) (b : B) : RangeMessage V × Option Err :=
  match unmarshalInto text (decodeAllowedValues json) b with
  | .ok (some m) => (⟨some (.allowedValues (some m))⟩, none)
  | _ =>
    match unmarshalInto text (decodeOrder json) b with
    | .ok (some m) => (⟨some (.order (some m))⟩, none)
    | _ =>
      match unmarshalInto text decodeMinMax b with
      | .ok (some m) => (⟨some (.minMax (some m))⟩, none)
      -- only the last error is left
      | .ok none => (r, none)
      | .error e => (r, some e)

def RangeMessage.scan (r : RangeMessage V) : DbValue B → RangeMessage V × Option Err
  | .bytes b =>
    match text.parse b with
    | .error e => (r, some (e.wrap "could not unmarshal JSON"))
    | .ok _ =>
      let scanned := r.unmarshalJSON text json b
      (scanned.1, scanned.2.map (Err.wrap "could not unmarshal JSON"))
  | _ => (r, some errUnsupportedType)

end Decoding

section Encoding
variable {V B : Type} (text : DocText B) (json : ValueJSON V)

def writeEntry : Option V → Except Err Doc
  | none => .ok .null
  | some v => json.marshal v

/-- A slice without entries is left out. -/
def writeValues : Option (List (Option V)) → Except Err Doc
  | none => .ok .null
  | some [] => .ok (.object [])
  | some values => (values.mapM (writeEntry json)).map (fun items =>
      .object [("values", .array items)])

/-- A bound that is zero is left out. -/
def writeBound (name : String) (i : Int64) : List (String × Doc) :=
  if i = 0 then [] else [(name, .integer i.toInt)]

def writeMinMax : Option MinMax → Doc
  | none => .null
  | some m => .object (writeBound "min" m.min ++ writeBound "max" m.max)

def RangeMessage.marshalJSON (r : RangeMessage V) : Except Err Doc :=
  match r.range with
  | some (.allowedValues m) => (writeValues json m).map (fun d => .object [("allowedValues", d)])
  | some (.order m) => (writeValues json m).map (fun d => .object [("order", d)])
  | some (.minMax m) => .ok (.object [("minMax", writeMinMax m)])
  | none => .error errUnsupportedType

/-- `Value`, where nil is no range at all. -/
def RangeMessage.value : Option (RangeMessage V) → Except Err (DbValue B)
  | none => .ok .null
  | some r =>
    match r.marshalJSON json with
    | .error e => .error (e.wrap "could not marshal JSON")
    | .ok d => .ok (.bytes (text.print d))

end Encoding

section Loops
variable {σ τ : Type} {step : σ → τ → Option σ}

/-- A loop whose steps fail independently of the state fails at the same elements from any
state. -/
theorem foldlM_eq_none_iff (hstep : ∀ s s' x, step s x = none → step s' x = none) (xs : List τ)
    (s s' : σ) : xs.foldlM step s = none ↔ ∃ x ∈ xs, step s' x = none := by
  induction xs generalizing s with
  | nil => simp
  | cons x xs ih =>
    rw [List.foldlM_cons, List.exists_mem_cons_iff]
    cases hx : step s x with
    | none => exact iff_of_true rfl (.inl (hstep s s' x hx))
    | some t =>
      have hne : step s' x ≠ none := by
        intro h
        rw [hstep s' s x h] at hx
        cases hx
      simpa [hne] using ih t

theorem foldlM_getLast {xs : List τ} {s t : σ} {last : τ} (hlast : xs.getLast? = some last)
    (h : xs.foldlM step s = some t) : ∃ s', step s' last = some t := by
  obtain ⟨front, rfl⟩ := List.getLast?_eq_some_iff.mp hlast
  rw [List.foldlM_append, Option.bind_eq_bind, Option.bind_eq_some_iff] at h
  obtain ⟨s', _, h⟩ := h
  exact ⟨s', by simpa using h⟩

end Loops

section Readers
variable {V B : Type} (json : ValueJSON V)

theorem readValues_none {old : List (Option V)} (old' : List (Option V)) {d : Doc}
    (h : readValues json old d = none) : readValues json old' d = none := by
  cases d with
  | object fields =>
    have hstep : ∀ s s' x, readEntries json s x = none → readEntries json s' x = none :=
      fun _ _ _ hx => hx
    exact (foldlM_eq_none_iff hstep _ old' old).mpr ((foldlM_eq_none_iff hstep _ old old).mp h)
  | _ => rfl

theorem readBound_none (m m' : MinMax) (field : String × Doc) (h : readBound m field = none) :
    readBound m' field = none := by
  have hint (old old' : Int64) (d : Doc) (h : readInt64 old d = none) :
      readInt64 old' d = none := by
    cases d <;> simp_all [readInt64]
  unfold readBound at h ⊢
  split
  · rename_i hmin
    rw [if_pos hmin, Option.map_eq_none_iff] at h
    simp [hint _ m'.min _ h]
  · rename_i hmin
    rw [if_neg hmin] at h
    split
    · rename_i hmax
      rw [if_pos hmax, Option.map_eq_none_iff] at h
      simp [hint _ m'.max _ h]
    · rename_i hmax
      rw [if_neg hmax] at h
      cases h

theorem readMinMax_none {old : MinMax} (old' : MinMax) {d : Doc} (h : readMinMax old d = none) :
    readMinMax old' d = none := by
  cases d with
  | object fields =>
    exact (foldlM_eq_none_iff readBound_none _ old' old).mpr
      ((foldlM_eq_none_iff readBound_none _ old old).mp h)
  | _ => rfl

end Readers

section Kinds
variable {V B : Type} (text : DocText B) (json : ValueJSON V)

/-- The document is an object whose field of that name, the last one if there are several, holds
a message of the kind. -/
def HasKind (name : String) (isMessage : Doc → Prop) (doc : Doc) : Prop :=
  ∃ fields d, doc = .object fields ∧ (docValues name fields).getLast? = some d ∧ isMessage d

def IsValuesMessage (d : Doc) : Prop := readValues json [] d ≠ none

def IsMinMaxMessage (d : Doc) : Prop := readMinMax ⟨0, 0⟩ d ≠ none

/-- The text is a document with one of the three kinds of ranges. -/
def ContainsKind (b : B) : Prop :=
  ∃ doc, text.parse b = .ok doc ∧ (HasKind "AllowedValues" (IsValuesMessage json) doc ∨
    HasKind "Order" (IsValuesMessage json) doc ∨ HasKind "MinMax" IsMinMaxMessage doc)

/-- The last of the three attempts fails: the text is no document, the document is neither an
object nor `null`, or a field for a minimum and maximum holds something else. -/
def LastAttemptFails (b : B) : Prop :=
  match text.parse b with
  | .error _ => True
  | .ok .null => False
  | .ok (.object fields) =>
    ∃ d ∈ docValues "MinMax" fields, d ≠ .null ∧ ¬ IsMinMaxMessage d
  | .ok _ => True

theorem hasKind_of_decodeWrapper {M : Type} {readMessage : M → Doc → Option M} {zero : M}
    {name : String} {doc : Doc} {m : M}
    (hnone : ∀ old d, readMessage zero d = none → readMessage old d = none)
    (h : decodeWrapper readMessage zero name doc = some (some m)) :
    HasKind name (fun d => readMessage zero d ≠ none) doc := by
  cases doc with
  | object fields =>
    rw [decodeWrapper] at h
    cases hlast : (docValues name fields).getLast? with
    | none =>
      rw [List.getLast?_eq_none_iff.mp hlast] at h
      cases h
    | some d =>
      obtain ⟨old, hd⟩ := foldlM_getLast hlast h
      refine ⟨fields, d, rfl, hlast, fun hzero => ?_⟩
      cases d with
      | null => cases hd
      | _ =>
        rw [decodePointer, hnone _ _ hzero] at hd
        · cases hd
        · simp
  | _ => cases h

theorem decodePointer_minMax_eq_none_iff (old : Option MinMax) (d : Doc) :
    decodePointer readMinMax ⟨0, 0⟩ old d = none ↔ d ≠ .null ∧ ¬ IsMinMaxMessage d := by
  have hread : readMinMax (old.getD ⟨0, 0⟩) d = none ↔ ¬ IsMinMaxMessage d := by
    unfold IsMinMaxMessage
    rw [not_not]
    exact ⟨readMinMax_none _, readMinMax_none _⟩
  cases d <;> simp [decodePointer, hread]

theorem lastAttemptFails_iff (b : B) :
    LastAttemptFails text b ↔ ∃ e, unmarshalInto text decodeMinMax b = .error e := by
  unfold LastAttemptFails unmarshalInto
  cases text.parse b with
  | error e => simp
  | ok doc =>
    have hstep (s s' : Option MinMax) (d : Doc)
        (h : decodePointer readMinMax ⟨0, 0⟩ s d = none) :
        decodePointer readMinMax ⟨0, 0⟩ s' d = none := by
      rw [decodePointer_minMax_eq_none_iff] at h ⊢
      exact h
    cases doc with
    | object fields =>
      have hloop := foldlM_eq_none_iff hstep (docValues "MinMax" fields) none none
      simp only [decodePointer_minMax_eq_none_iff] at hloop
      simp only [decodeMinMax, decodeWrapper, ← hloop]
      cases (docValues "MinMax" fields).foldlM (decodePointer readMinMax ⟨0, 0⟩) none <;> simp
    | _ => simp [decodeMinMax, decodeWrapper]

theorem containsKind_of_unmarshalInto {M : Type} {readMessage : M → Doc → Option M} {zero : M}
    {name : String} {b : B} {m : M}
    (hnone : ∀ old d, readMessage zero d = none → readMessage old d = none)
    (h : unmarshalInto text (decodeWrapper readMessage zero name) b = .ok (some m)) :
    ∃ doc, text.parse b = .ok doc ∧ HasKind name (fun d => readMessage zero d ≠ none) doc := by
  unfold unmarshalInto at h
  cases hparse : text.parse b with
  | error e => simp [hparse] at h
  | ok doc =>
    refine ⟨doc, rfl, hasKind_of_decodeWrapper hnone (m := m) ?_⟩
    cases hdecode : decodeWrapper readMessage zero name doc with
    | none => simp [hparse, hdecode] at h
    | some m' => simpa [hparse, hdecode] using h

/-- Either one of the attempts finds its kind in the text, or the range stays and the last
attempt tells whether there is an error. -/
theorem unmarshalJSON_cases (r : RangeMessage V) (b : B) :
    (ContainsKind text json b ∧ (r.unmarshalJSON text json b).2 = none) ∨
      ((r.unmarshalJSON text json b).1 = r ∧
        ((r.unmarshalJSON text json b).2 ≠ none ↔ LastAttemptFails text b)) := by
  have hvalues (old : List (Option V)) (d : Doc) (h : readValues json [] d = none) :
      readValues json old d = none := readValues_none json old h
  have hminMax (old : MinMax) (d : Doc) (h : readMinMax ⟨0, 0⟩ d = none) :
      readMinMax old d = none := readMinMax_none old h
  rw [lastAttemptFails_iff]
  unfold RangeMessage.unmarshalJSON
  split
  · rename_i m hfirst
    obtain ⟨doc, hparse, hkind⟩ := containsKind_of_unmarshalInto text hvalues hfirst
    exact .inl ⟨⟨doc, hparse, .inl hkind⟩, rfl⟩
  · split
    · rename_i m hsecond
      obtain ⟨doc, hparse, hkind⟩ := containsKind_of_unmarshalInto text hvalues hsecond
      exact .inl ⟨⟨doc, hparse, .inr (.inl hkind)⟩, rfl⟩
    · split
      · rename_i m hthird
        obtain ⟨doc, hparse, hkind⟩ := containsKind_of_unmarshalInto text hminMax hthird
        exact .inl ⟨⟨doc, hparse, .inr (.inr hkind)⟩, rfl⟩
      · rename_i hthird
        exact .inr ⟨rfl, by simp [hthird]⟩
      · rename_i e hthird
        exact .inr ⟨rfl, by simp [hthird]⟩

theorem scan_bytes (r : RangeMessage V) (b : B) :
    r.scan text json (.bytes b) = ((r.unmarshalJSON text json b).1,
      (r.unmarshalJSON text json b).2.map (Err.wrap "could not unmarshal JSON")) := by
  rw [RangeMessage.scan]
  cases hparse : text.parse b with
  | error e => simp [RangeMessage.unmarshalJSON, unmarshalInto, hparse]
  | ok doc => rfl

end Kinds

section RoundTrip
variable {V B : Type} (text : DocText B) (json : ValueJSON V)

/-- A null value becomes a nil entry, any other entry is read back. -/
theorem readEntry_writeEntry {e : Option V} {d : Doc} (h : writeEntry json e = .ok d) :
    ∃ e', readEntry json d = some e' ∧ (e' = e ↔ e ≠ some json.nullValue) := by
  cases e with
  | none =>
    cases h
    exact ⟨none, rfl, by simp⟩
  | some v =>
    have hread := json.unmarshal_marshal v d h
    cases d with
    | null =>
      have hnull := json.unmarshal_marshal json.nullValue .null json.marshal_null
      obtain rfl : v = json.nullValue := Option.some.inj (hread.symm.trans hnull)
      exact ⟨none, rfl, by simp⟩
    | _ =>
      refine ⟨some v, by simp [readEntry, hread], iff_of_true rfl ?_⟩
      intro heq
      obtain rfl : v = json.nullValue := Option.some.inj heq
      cases h.symm.trans json.marshal_null

theorem readEntries_writeEntries {values : List (Option V)} {items : List Doc}
    (h : values.mapM (writeEntry json) = .ok items) :
    ∃ values', items.mapM (readEntry json) = some values' ∧
      (values' = values ↔ some json.nullValue ∉ values) := by
  induction values generalizing items with
  | nil =>
    cases h
    exact ⟨[], rfl, by simp⟩
  | cons e values ih =>
    rw [List.mapM_cons] at h
    cases he : writeEntry json e with
    | error err => simp [he, bind, Except.bind] at h
    | ok d =>
      cases hrest : values.mapM (writeEntry json) with
      | error err => simp [he, hrest, bind, Except.bind] at h
      | ok ds =>
        obtain rfl : d :: ds = items := by
          simpa [he, hrest, bind, Except.bind, pure, Except.pure] using h
        obtain ⟨e', hread, heq⟩ := readEntry_writeEntry json he
        obtain ⟨values', hreads, hvalues⟩ := ih hrest
        refine ⟨e' :: values', by simp [hread, hreads], ?_⟩
        rw [List.cons_eq_cons, heq, hvalues, List.mem_cons, not_or]
        exact and_congr_left' ne_comm

theorem readValues_writeValues {values : List (Option V)} {d : Doc}
    (h : writeValues json (some values) = .ok d) :
    ∃ values', readValues json [] d = some values' ∧
      (values' = values ↔ some json.nullValue ∉ values) := by
  cases values with
  | nil =>
    cases h
    exact ⟨[], rfl, by simp⟩
  | cons e values =>
    rw [writeValues] at h
    · cases hitems : (e :: values).mapM (writeEntry json) with
      | error err => simp [hitems, Except.map] at h
      | ok items =>
        obtain rfl : Doc.object [("values", .array items)] = d := by
          simpa [hitems, Except.map] using h
        obtain ⟨values', hread, heq⟩ := readEntries_writeEntries json hitems
        refine ⟨values', ?_, heq⟩
        simp [readValues, docValues, readEntries, hread]
    · simp

theorem readInt64_toInt (old i : Int64) : readInt64 old (.integer i.toInt) = some i := by
  rw [readInt64, if_pos ⟨i.le_toInt, i.toInt_lt⟩, Int64.ofInt_toInt]

theorem readMinMax_writeMinMax (m : MinMax) :
    readMinMax ⟨0, 0⟩ (writeMinMax (some m)) = some m := by
  have hmin (m : MinMax) (i : Int64) (hzero : m.min = 0) :
      (writeBound "min" i).foldlM readBound m = some { m with min := i } := by
    unfold writeBound
    split
    · rename_i hi
      simp [hi, ← hzero]
    · simp [readBound, readInt64_toInt]
  have hmax (m : MinMax) (i : Int64) (hzero : m.max = 0) :
      (writeBound "max" i).foldlM readBound m = some { m with max := i } := by
    have hname : foldName "max" ≠ foldName "min" := by decide
    unfold writeBound
    split
    · rename_i hi
      simp [hi, ← hzero]
    · simp [readBound, hname, readInt64_toInt]
  simp only [writeMinMax, readMinMax, List.foldlM_append, hmin ⟨0, 0⟩ m.min rfl,
    Option.bind_eq_bind, Option.bind_some]
  exact hmax ⟨m.min, 0⟩ m.max rfl

/-- The message is set, and none of its entries is a null value. -/
def RangeKind.Intact : RangeKind V → Prop
  | .allowedValues m => ∃ values, m = some values ∧ some json.nullValue ∉ values
  | .order m => ∃ values, m = some values ∧ some json.nullValue ∉ values
  | .minMax m => m ≠ none

section Documents
variable {M : Type} (readMessage : M → Doc → Option M) (zero : M)

theorem decodeWrapper_named {key name : String} (h : foldName key = foldName name) (d : Doc) :
    decodeWrapper readMessage zero name (.object [(key, d)]) =
      decodePointer readMessage zero none d := by
  simp [decodeWrapper, docValues, h]

theorem decodeWrapper_other {key name : String} (h : foldName key ≠ foldName name) (d : Doc) :
    decodeWrapper readMessage zero name (.object [(key, d)]) = some none := by
  simp [decodeWrapper, docValues, h]

variable (r : RangeMessage V) (d : Doc)

/-- The attempts on a document with a single field. -/
theorem unmarshalJSON_allowedValues :
    r.unmarshalJSON text json (text.print (.object [("allowedValues", d)])) =
      match decodePointer (readValues json) [] none d with
      | some (some values) => (⟨some (.allowedValues (some values))⟩, none)
      | _ => (r, none) := by
  have hname : foldName "allowedValues" = foldName "AllowedValues" := by decide
  have horder : foldName "allowedValues" ≠ foldName "Order" := by decide
  have hminMax : foldName "allowedValues" ≠ foldName "MinMax" := by decide
  simp only [RangeMessage.unmarshalJSON, unmarshalInto, text.parse_print, decodeAllowedValues,
    decodeOrder, decodeMinMax, decodeWrapper_named _ _ hname, decodeWrapper_other _ _ horder,
    decodeWrapper_other _ _ hminMax]
  rcases decodePointer (readValues json) [] none d with _ | _ | _ <;> rfl

theorem unmarshalJSON_order :
    r.unmarshalJSON text json (text.print (.object [("order", d)])) =
      match decodePointer (readValues json) [] none d with
      | some (some values) => (⟨some (.order (some values))⟩, none)
      | _ => (r, none) := by
  have hname : foldName "order" = foldName "Order" := by decide
  have hallowed : foldName "order" ≠ foldName "AllowedValues" := by decide
  have hminMax : foldName "order" ≠ foldName "MinMax" := by decide
  simp only [RangeMessage.unmarshalJSON, unmarshalInto, text.parse_print, decodeAllowedValues,
    decodeOrder, decodeMinMax, decodeWrapper_named _ _ hname, decodeWrapper_other _ _ hallowed,
    decodeWrapper_other _ _ hminMax]
  rcases decodePointer (readValues json) [] none d with _ | _ | _ <;> rfl

theorem unmarshalJSON_minMax :
    r.unmarshalJSON text json (text.print (.object [("minMax", d)])) =
      match decodePointer readMinMax ⟨0, 0⟩ none d with
      | some (some m) => (⟨some (.minMax (some m))⟩, none)
      | some none => (r, none)
      | none => (r, some text.mismatch) := by
  have hname : foldName "minMax" = foldName "MinMax" := by decide
  have hallowed : foldName "minMax" ≠ foldName "AllowedValues" := by decide
  have horder : foldName "minMax" ≠ foldName "Order" := by decide
  simp only [RangeMessage.unmarshalJSON, unmarshalInto, text.parse_print, decodeAllowedValues,
    decodeOrder, decodeMinMax, decodeWrapper_named _ _ hname, decodeWrapper_other _ _ hallowed,
    decodeWrapper_other _ _ horder]
  rcases decodePointer readMinMax ⟨0, 0⟩ none d with _ | _ | _ <;> rfl

end Documents

/-- Nil messages are written as `null`, and others are read over an empty one. -/
theorem decodePointer_writeValues {m : Option (List (Option V))} {d : Doc}
    (h : writeValues json m = .ok d) :
    (m = none ∧ decodePointer (readValues json) [] none d = some none) ∨
      ∃ values values', m = some values ∧
        decodePointer (readValues json) [] none d = some (some values') ∧
        (values' = values ↔ some json.nullValue ∉ values) := by
  cases m with
  | none =>
    cases h
    exact .inl ⟨rfl, rfl⟩
  | some values =>
    obtain ⟨values', hread, heq⟩ := readValues_writeValues json h
    refine .inr ⟨values, values', rfl, ?_, heq⟩
    cases d with
    | null => cases hread
    | _ => simp [decodePointer, hread]

/-- Allowed values and orders are read back in the same way. -/
theorem values_read_back_iff (kind : Option (List (Option V)) → RangeKind V)
    (hkind : Function.Injective kind) {m : Option (List (Option V))} {d : Doc}
    (hd : writeValues json m = .ok d) (read : RangeMessage V → RangeMessage V × Option Err)
    (hread : ∀ r, read r =
      match decodePointer (readValues json) [] none d with
      | some (some values) => (⟨some (kind (some values))⟩, none)
      | _ => (r, none)) :
    (∀ r, read r = (⟨some (kind m)⟩, none)) ↔
      ∃ values, m = some values ∧ some json.nullValue ∉ values := by
  obtain ⟨rfl, hpointer⟩ | ⟨values, values', rfl, hpointer, heq⟩ :=
    decodePointer_writeValues json hd
  · -- an empty destination stays empty
    refine iff_of_false (fun hall => ?_) (by simp)
    have hempty := (hread ⟨none⟩).symm.trans (hall ⟨none⟩)
    rw [hpointer] at hempty
    cases hempty
  · have hsame : (∀ r, read r = (⟨some (kind (some values))⟩, none)) ↔ values' = values := by
      simp only [hread, hpointer]
      constructor
      · intro hall
        have hfirst := hall ⟨none⟩
        simpa [hkind.eq_iff] using hfirst
      · intro hvalues _
        rw [hvalues]
    rw [hsame, heq]
    simp

theorem reads_back_iff_intact {x : RangeKind V} {doc : Doc}
    (h : RangeMessage.marshalJSON json ⟨some x⟩ = .ok doc) :
    (∀ r : RangeMessage V, r.unmarshalJSON text json (text.print doc) = (⟨some x⟩, none)) ↔
      x.Intact json := by
  cases x with
  | allowedValues m =>
    rw [RangeMessage.marshalJSON] at h
    cases hd : writeValues json m with
    | error e => simp [hd, Except.map] at h
    | ok d =>
      obtain rfl : Doc.object [("allowedValues", d)] = doc := by simpa [hd, Except.map] using h
      exact values_read_back_iff json .allowedValues (fun _ _ => RangeKind.allowedValues.inj) hd _
        (fun r => unmarshalJSON_allowedValues text json r d)
  | order m =>
    rw [RangeMessage.marshalJSON] at h
    cases hd : writeValues json m with
    | error e => simp [hd, Except.map] at h
    | ok d =>
      obtain rfl : Doc.object [("order", d)] = doc := by simpa [hd, Except.map] using h
      exact values_read_back_iff json .order (fun _ _ => RangeKind.order.inj) hd _
        (fun r => unmarshalJSON_order text json r d)
  | minMax m =>
    obtain rfl : Doc.object [("minMax", writeMinMax m)] = doc := Except.ok.inj h
    simp only [unmarshalJSON_minMax, RangeKind.Intact]
    cases m with
    | none =>
      refine iff_of_false (fun hall => ?_) (by simp)
      cases hall ⟨none⟩
    | some m =>
      have hread := readMinMax_writeMinMax m
      simp only [writeMinMax] at hread ⊢
      simp [decodePointer, hread]

/-- A range is read back into every destination exactly when its message is set and has no null
value among its entries. A text without any of the kinds is refused exactly when the last attempt
fails, and even then the range of the destination stays. -/
theorem range_round_trip_iff :
    (∀ x : RangeKind V,
      (∀ db, RangeMessage.value text json (some ⟨some x⟩) = .ok db →
          ∀ dst : RangeMessage V, dst.scan text json db = (⟨some x⟩, none)) ↔
        ∀ db, RangeMessage.value text json (some ⟨some x⟩) = .ok db → x.Intact json) ∧
    ∀ (b : B) (dst : RangeMessage V),
      ∀ result ∈ [dst.unmarshalJSON text json b, dst.scan text json (.bytes b)],
        ((result.2 = none → ContainsKind text json b) ↔
          ContainsKind text json b ∨ LastAttemptFails text b) ∧
        ((¬ ContainsKind text json b →
            result.2 ≠ none ∧ ∀ kind, dst.range = some kind → result.1.range ≠ some kind) ↔
          ContainsKind text json b ∨ (LastAttemptFails text b ∧ dst.range = none)) := by
  constructor
  · intro x
    cases hdoc : RangeMessage.marshalJSON json ⟨some x⟩ with
    | error e => simp [RangeMessage.value, hdoc]
    | ok doc =>
      have hvalue (db : DbValue B) : RangeMessage.value text json (some ⟨some x⟩) = .ok db ↔
          .bytes (text.print doc) = db := by simp [RangeMessage.value, hdoc]
      have hscan (dst : RangeMessage V) :
          dst.scan text json (.bytes (text.print doc)) = (⟨some x⟩, none) ↔
            dst.unmarshalJSON text json (text.print doc) = (⟨some x⟩, none) := by
        rw [scan_bytes, Prod.ext_iff, Prod.ext_iff, Option.map_eq_none_iff]
      simp only [hvalue, forall_eq', hscan]
      exact reads_back_iff_intact text json hdoc
  · intro b dst result hresult
    have hcases : (ContainsKind text json b ∧ result.2 = none) ∨
        (result.1 = dst ∧ (result.2 ≠ none ↔ LastAttemptFails text b)) := by
      have hunmarshal := unmarshalJSON_cases text json dst b
      obtain rfl | hscan := List.mem_cons.mp hresult
      · exact hunmarshal
      · rw [List.mem_singleton.mp hscan, scan_bytes]
        simpa using hunmarshal
    obtain ⟨hcontains, hok⟩ | ⟨hkept, herror⟩ := hcases
    · simp [hcontains]
    · have hrange : (∀ kind, dst.range = some kind → result.1.range ≠ some kind) ↔
          dst.range = none := by
        rw [hkept]
        cases dst.range <;> simp
      rw [hrange, ← herror]
      -- what is left only says which of the two the text is
      by_cases hcontains : ContainsKind text json b <;> simp [hcontains]

/-- Documents as their own texts. -/
def plainText : DocText Doc := ⟨id, .ok, fun _ => rfl, ⟨none, "json: cannot unmarshal"⟩⟩

def plainJSON : ValueJSON Doc :=
  ⟨.null, .ok, some, rfl, fun _ _ h => congrArg some (Except.ok.inj h).symm⟩

/-- A null entry is read back as nil, and a document without any kind, or with a wrong value for
one, is accepted while the old range stays. -/
theorem null_entry_not_read_back :
    (RangeMessage.value plainText plainJSON (some ⟨some (.allowedValues (some [some .null]))⟩) =
        .ok (.bytes (.object [("allowedValues", .object [("values", .array [.null])])])) ∧
      RangeMessage.scan plainText plainJSON ⟨none⟩
          (.bytes (.object [("allowedValues", .object [("values", .array [.null])])])) =
        (⟨some (.allowedValues (some [none]))⟩, none)) ∧
    (RangeMessage.scan plainText plainJSON ⟨some (.minMax (some ⟨1, 2⟩))⟩ (.bytes (.object [])) =
        (⟨some (.minMax (some ⟨1, 2⟩))⟩, none) ∧
      ¬ ContainsKind plainText plainJSON (.object [])) ∧
    RangeMessage.scan plainText plainJSON ⟨some (.minMax (some ⟨1, 2⟩))⟩
        (.bytes (.object [("allowedValues", .integer 5)])) =
      (⟨some (.minMax (some ⟨1, 2⟩))⟩, none) := by
  have hempty (name : String) (isMessage : Doc → Prop) : ¬ HasKind name isMessage (.object []) := by
    intro ⟨fields, d, hdoc, hlast, _⟩
    cases hdoc
    cases hlast
  refine ⟨⟨rfl, rfl⟩, ⟨rfl, ?_⟩, rfl⟩
  intro ⟨doc, hparse, hkind⟩
  obtain rfl : Doc.object [] = doc := Except.ok.inj hparse
  obtain h | h | h := hkind
  · exact hempty _ _ h
  · exact hempty _ _ h
  · exact hempty _ _ h

end RoundTrip
end Clouditor
