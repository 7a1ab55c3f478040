import Clouditor.Requests

/-! The GORM serializers for fields that hold a protobuf message: what they write into a column,
and what they leave in a field when they read the column back. -/
namespace Clouditor
set_option autoImplicit false

/-- What is written into a column and read from it. -/
inductive DbValue (B : Type) where
  | null
  | time (t : Time)
  | bytes (b : B)
  | string (s : String)
  | other
  deriving DecidableEq

/-- The value of a field: a pointer to the message that the serializer is for, which may be nil,
or a value of another type. -/
inductive SerializedField (M : Type) where
  | pointer (m : Option M)
  | other

def errUnsupportedType : Err := ⟨none, "unsupported type"⟩

/-- `AsTime` and `timestamppb.New`. -/
structure TimeConversion (M : Type) where
  asTime : M → Time
  new : Time → M
  new_asTime : ∀ m, new (asTime m) = m

/-- The JSON form of a message, which exists for every message and can be read back. `zero` is
the message without any field set. -/
structure MessageJSON (M : Type) where
  zero : M
  marshal : M → Except Err String
  unmarshal : String → Except Err M
  unmarshal_marshal : ∀ m, ∃ text, marshal m = .ok text ∧ unmarshal text = .ok m

section Serializers
variable {M : Type}

/-- The part that the three `Value` methods have in common: nil is written as nil, and a value of
another type is refused. -/
def serializerValue (write : M → Except Err (DbValue String)) :
    SerializedField M → Except Err (DbValue String)
  | .pointer none => .ok .null
  | .pointer (some m) => write m
  | .other => .error errUnsupportedType

/-- What a `Scan` method leaves in the field, and its error. -/
abbrev Scanned (M : Type) := Option M × Option Err

def TimestampSerializer.value (conv : TimeConversion M) :
    SerializedField M → Except Err (DbValue String) :=
  serializerValue (fun t => .ok (.time (conv.asTime t)))

def TimestampSerializer.scan (conv : TimeConversion M) (dst : Option M) : DbValue String → Scanned M
  | .null => (dst, none)
  | .time v => (some (conv.new v), none)
  | _ => (dst, some errUnsupportedType)

def AnySerializer.value (json : MessageJSON M) : SerializedField M → Except Err (DbValue String) :=
  serializerValue (fun a => (json.marshal a).map .bytes)

def AnySerializer.read (json : MessageJSON M) (dst : Option M) (bytes : String) : Scanned M :=
  match json.unmarshal bytes with
  | .error e => (dst, some (e.wrap "could not unmarshal JSONB value into protobuf message"))
  | .ok a => (some a, none)

def AnySerializer.scan (json : MessageJSON M) (dst : Option M) : DbValue String → Scanned M
  -- the field is set to an empty message here
  | .null => (some json.zero, none)
  | .bytes v => AnySerializer.read json dst v
  | .string v => AnySerializer.read json dst v
  | _ => (dst, some errUnsupportedType)

def ValueSerializer.value (json : MessageJSON M) :
    SerializedField M → Except Err (DbValue String) :=
  serializerValue (fun v => (json.marshal v).map .bytes)

def ValueSerializer.scan (json : MessageJSON M) (dst : Option M) : DbValue String → Scanned M
  | .null => (dst, none)
  | .bytes d =>
    match json.unmarshal d with
    | .error e => (dst, some e)
    | .ok v => (some v, none)
  | _ => (dst, some errUnsupportedType)

end Serializers

section RoundTrip
variable {M : Type}

/-- The value written for `x` is read back as `x`, whatever the field held. -/
def ReadsBack (value : SerializedField M → Except Err (DbValue String))
    (scan : Option M → DbValue String → Scanned M) (x dst : Option M) : Prop :=
  ∃ db, value (.pointer x) = .ok db ∧ scan dst db = (x, none)

/-- A failed `Scan` leaves the field as it was. -/
theorem scan_error_keeps (conv : TimeConversion M) (json : MessageJSON M) (dst : Option M)
    (db : DbValue String) :
    ((TimestampSerializer.scan conv dst db).2 ≠ none →
        (TimestampSerializer.scan conv dst db).1 = dst) ∧
      ((AnySerializer.scan json dst db).2 ≠ none → (AnySerializer.scan json dst db).1 = dst) ∧
      ((ValueSerializer.scan json dst db).2 ≠ none →
        (ValueSerializer.scan json dst db).1 = dst) := by
  have hread (bytes : String) : (AnySerializer.read json dst bytes).2 ≠ none →
      (AnySerializer.read json dst bytes).1 = dst := by
    unfold AnySerializer.read
    cases json.unmarshal bytes <;> simp
  refine ⟨?_, ?_, ?_⟩
  · cases db <;> simp [TimestampSerializer.scan]
  · cases db with
    | bytes v => exact hread v
    | string v => exact hread v
    | _ => simp [AnySerializer.scan]
  · cases db with
    | bytes d =>
      cases hd : json.unmarshal d <;> simp [ValueSerializer.scan, hd]
    | _ => simp [ValueSerializer.scan]

/-- A serializer that reads back every message, and leaves the field alone for nil. -/
theorem readsBack_iff_of_null_keeps {value : SerializedField M → Except Err (DbValue String)}
    {scan : Option M → DbValue String → Scanned M} (hnil : value (.pointer none) = .ok .null)
    (hnull : ∀ dst, scan dst .null = (dst, none))
    (hmessage : ∀ m dst, ReadsBack value scan (some m) dst) (x dst : Option M) :
    ReadsBack value scan x dst ↔ x ≠ none ∨ dst = none := by
  cases x with
  | some m => exact iff_of_true (hmessage m dst) (.inl (by simp))
  | none =>
    constructor
    · intro ⟨db, hdb, hscan⟩
      obtain rfl : DbValue.null = db := Except.ok.inj (hnil.symm.trans hdb)
      rw [hnull] at hscan
      exact .inr (congrArg Prod.fst hscan)
    · intro h
      obtain rfl : dst = none := h.resolve_left (fun hne => hne rfl)
      exact ⟨.null, hnil, hnull none⟩

/-- Timestamps and values are read back unless a nil is read into a field that holds something;
a nil `Any` is never read back. -/
theorem serializers_read_back_iff {T A V : Type} (conv : TimeConversion T) (any : MessageJSON A)
    (val : MessageJSON V) :
    (∀ x dst : Option T, ReadsBack (TimestampSerializer.value conv)
        (TimestampSerializer.scan conv) x dst ↔ x ≠ none ∨ dst = none) ∧
      (∀ x dst : Option A, ReadsBack (AnySerializer.value any) (AnySerializer.scan any) x dst ↔
        x ≠ none) ∧
      ∀ x dst : Option V, ReadsBack (ValueSerializer.value val) (ValueSerializer.scan val) x dst ↔
        x ≠ none ∨ dst = none := by
  refine ⟨?_, ?_, ?_⟩
  · apply readsBack_iff_of_null_keeps rfl (fun _ => rfl)
    intro m dst
    refine ⟨.time (conv.asTime m), rfl, ?_⟩
    rw [TimestampSerializer.scan, conv.new_asTime]
  · intro x dst
    cases x with
    | some m =>
      obtain ⟨text, hmarshal, hunmarshal⟩ := any.unmarshal_marshal m
      refine iff_of_true ⟨.bytes text, ?_, ?_⟩ (by simp)
      · simp [AnySerializer.value, serializerValue, hmarshal, Except.map]
      · simp [AnySerializer.scan, AnySerializer.read, hunmarshal]
    | none =>
      refine iff_of_false (fun ⟨db, hdb, hscan⟩ => ?_) (by simp)
      obtain rfl : DbValue.null = db := Except.ok.inj hdb
      cases hscan
  · apply readsBack_iff_of_null_keeps rfl (fun _ => rfl)
    intro m dst
    obtain ⟨text, hmarshal, hunmarshal⟩ := val.unmarshal_marshal m
    refine ⟨.bytes text, ?_, ?_⟩
    · simp [ValueSerializer.value, serializerValue, hmarshal, Except.map]
    · simp [ValueSerializer.scan, hunmarshal]

/-- Texts as their own JSON form. -/
def textJSON : MessageJSON String := ⟨"", .ok, .ok, fun m => ⟨m, rfl, rfl⟩⟩

/-- A nil value keeps what the field held, and a nil `Any` turns into an empty message. -/
theorem nil_not_read_back :
    ¬ ReadsBack (ValueSerializer.value textJSON) (ValueSerializer.scan textJSON) none (some "old") ∧
      ¬ ReadsBack (AnySerializer.value textJSON) (AnySerializer.scan textJSON) none none := by
  constructor
  · intro ⟨db, hdb, hscan⟩
    obtain rfl : DbValue.null = db := Except.ok.inj hdb
    cases hscan
  · intro ⟨db, hdb, hscan⟩
    obtain rfl : DbValue.null = db := Except.ok.inj hdb
    cases hscan

end RoundTrip
end Clouditor
