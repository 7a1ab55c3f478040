import Clouditor.DiscoveredResources
import Clouditor.StructDecoding

/-! The bucket policies that the S3 discoverer reads: how a policy document is decoded into the
structs of the discoverer, and which documents it takes for an enforcement of HTTPS. -/
namespace Clouditor
set_option autoImplicit false

open Rego StructDecoding

section Decoding

/-- The keys of all objects for the field `Condition`. They are decoded into one struct, where the
fields of the embedded `Bool` stand as if they were its own. -/
def conditionFields (fields : Fields) : Option Fields :=
  ((valuesOf "Condition" fields).mapM readObject).map List.flatten

/-- The field `Action` has any type. A string is one, and an array is no slice of strings. -/
def decodeAction (values : List Json) : PolicyAction :=
  match values.getLast? with
  | some (.string action) => .text action
  | _ => .other

def decodeStatement (fields : Fields) : Option PolicyStatement :=
  match decodeField readString "" (valuesOf "Effect" fields), conditionFields fields with
  | some effect, some condition =>
    (decodeField readBool false (valuesOf "aws:SecureTransport" condition)).map
      (fun awsSecureTransport =>
        ⟨decodeAction (valuesOf "Action" fields), effect, awsSecureTransport⟩)
  | _, _ => none

/-- Decode objects into the elements of a slice. What an element holds already stays, unless the
object sets it. -/
def extend : List Fields → List Fields → List Fields
  | slice, [] => slice
  | slice, fields :: objects => (slice.headD [] ++ fields) :: extend slice.tail objects

/-- The memory of the slice `Statement`, with the fields that have been decoded into each
element, and its length. -/
abbrev StatementSlice := List Fields × ℕ

/-- One more value for the slice. A shorter array only cuts its length. -/
def decodeStatements (slice : StatementSlice) : Json → Option StatementSlice
  | .null => some ([], 0)
  | .array items =>
    match items.mapM readObject with
    | none => none
    | some objects =>
      if objects.all (fun fields => (decodeStatement fields).isSome) then
        some (extend slice.1 objects, objects.length)
      else none
  | _ => none

/-- The fields of the statements that a document has for the discoverer. -/
def statementFields (fields : Fields) : Option (List Fields) :=
  ((valuesOf "Statement" fields).foldlM decodeStatements ([], 0)).map
    (fun slice => slice.1.take slice.2)

/-- The document as the struct `BucketPolicy`, `none` if a value has another type. -/
def policyStatements : Json → Option (List Fields)
  | .null => some []
  | .object fields =>
    match decodeField readString "" (valuesOf "id" fields),
        decodeField readString "" (valuesOf "Version" fields) with
    | some _, some _ => statementFields fields
    | _, _ => none
  | _ => none

/-- The answer to `GetBucketPolicy` with a document, after `json.Unmarshal`. -/
def policyAnswer (mismatch : Err) (document : Json) : PolicyAnswer :=
  match (policyStatements document).bind (fun statements => statements.mapM decodeStatement) with
  | none => .unreadable mismatch
  | some statements => .policy statements

end Decoding

section Documents

/-- A value of a condition that asks for false, which policies also write as a string. -/
def asksFalse : Json → Bool
  | .bool b => !b
  | .string s => s = "false"
  | _ => false

/-- A condition of the form `"Bool": "aws:SecureTransport": false`. -/
def conditionOnHTTP (statement : Json) : Bool :=
  (((statement.field "Condition").bind (Json.field "Bool")).bind
    (Json.field "aws:SecureTransport")).any asksFalse

def coversAllActions : Json → Bool
  | .string action => action = "s3:*"
  | .array actions => actions.any (fun action => readString action = some "s3:*")
  | _ => false

def deniesAllOverHTTP (statement : Json) : Bool :=
  (statement.field "Effect").any (fun effect => readString effect = some "Deny") &&
    (statement.field "Action").any coversAllActions && conditionOnHTTP statement

/-- A document has one statement or an array of them. -/
def statementsOf (document : Json) : List Json :=
  match document.field "Statement" with
  | some (.array statements) => statements
  | some statement => [statement]
  | none => []

/-- What a policy document has to say to enforce HTTPS. -/
def enforcesHTTPS (document : Json) : Bool := (statementsOf document).any deniesAllOverHTTP

/-- A statement that denies the plain action on everything, under whatever condition of the form
AWS has. Only a key that stands in no operator of the condition is looked at. -/
def deniesPlainly (fields : Fields) : Bool :=
  ((valuesOf "Action" fields).getLast?.bind readString = some "s3:*") &&
  ((setting (valuesOf "Effect" fields)).getLast?.bind readString = some "Deny") &&
  !(((conditionFields fields).bind (fun condition =>
    (setting (valuesOf "aws:SecureTransport" condition)).getLast?)).bind readBool = some true)

end Documents

section Reading

theorem valuesOf_append (name : String) (fields fields' : Fields) :
    valuesOf name (fields ++ fields') = valuesOf name fields ++ valuesOf name fields' := by
  simp [valuesOf]

theorem decodeField_isSome_iff {α : Type} (read : Json → Option α) (old : α)
    (values : List Json) : (decodeField read old values).isSome = true ↔
      ∀ v ∈ setting values, (read v).isSome = true := by
  rw [Option.isSome_iff_exists]
  simp only [decodeField_eq_some_iff, exists_and_left, exists_eq', and_true]

theorem decodeField_isSome_append {α : Type} (read : Json → Option α) (old : α)
    (values values' : List Json) (h : (decodeField read old values).isSome = true)
    (h' : (decodeField read old values').isSome = true) :
    (decodeField read old (values ++ values')).isSome = true := by
  rw [decodeField_isSome_iff] at h h' ⊢
  intro v hv
  rw [setting, List.filter_append, List.mem_append] at hv
  exact hv.elim (h v) (h' v)

theorem decodeStatement_isSome_iff (fields : Fields) : (decodeStatement fields).isSome = true ↔
    (decodeField readString "" (valuesOf "Effect" fields)).isSome = true ∧
      ∃ condition, conditionFields fields = some condition ∧
        (decodeField readBool false (valuesOf "aws:SecureTransport" condition)).isSome = true := by
  unfold decodeStatement
  cases decodeField readString "" (valuesOf "Effect" fields) <;>
    cases conditionFields fields <;> simp

/-- An element of the slice that is decoded into twice is still a statement. -/
theorem decodeStatement_append (fields fields' : Fields)
    (h : (decodeStatement fields).isSome = true) (h' : (decodeStatement fields').isSome = true) :
    (decodeStatement (fields ++ fields')).isSome = true := by
  rw [decodeStatement_isSome_iff] at h h' ⊢
  obtain ⟨heffect,condition,hcondition,hbool⟩ := h
  obtain ⟨heffect',condition',hcondition',hbool'⟩ := h'
  refine ⟨?_, condition ++ condition', ?_, ?_⟩
  · rw [valuesOf_append]
    exact decodeField_isSome_append _ _ _ _ heffect heffect'
  · rw [conditionFields, Option.map_eq_some_iff] at hcondition hcondition' ⊢
    obtain ⟨objects,hobjects,rfl⟩ := hcondition
    obtain ⟨objects',hobjects',rfl⟩ := hcondition'
    refine ⟨objects ++ objects', ?_, List.flatten_append⟩
    simp [valuesOf_append, List.mapM_append, hobjects, hobjects']
  · rw [valuesOf_append]
    exact decodeField_isSome_append _ _ _ _ hbool hbool'

theorem extend_decodes (slice objects : List Fields)
    (hslice : ∀ fields ∈ slice, (decodeStatement fields).isSome = true)
    (hobjects : ∀ fields ∈ objects, (decodeStatement fields).isSome = true) :
    ∀ fields ∈ extend slice objects, (decodeStatement fields).isSome = true := by
  induction objects generalizing slice with
  | nil => exact hslice
  | cons object objects ih =>
    rw [extend, List.forall_mem_cons]
    rw [List.forall_mem_cons] at hobjects
    constructor
    · apply decodeStatement_append
      · cases slice with
        | nil => decide
        | cons fields slice => exact hslice fields List.mem_cons_self
      · exact hobjects.1
    · exact ih slice.tail (fun fields h => hslice fields (List.mem_of_mem_tail h)) hobjects.2

theorem decodeStatements_decodes (values : List Json) (slice slice' : StatementSlice)
    (hslice : ∀ fields ∈ slice.1, (decodeStatement fields).isSome = true)
    (h : values.foldlM decodeStatements slice = some slice') :
    ∀ fields ∈ slice'.1, (decodeStatement fields).isSome = true := by
  induction values generalizing slice with
  | nil =>
    cases h
    exact hslice
  | cons v values ih =>
    rw [List.foldlM_cons, Option.bind_eq_bind, Option.bind_eq_some_iff] at h
    obtain ⟨next,hnext,h⟩ := h
    apply ih next _ h
    unfold decodeStatements at hnext
    split at hnext
    · cases hnext
      simp
    · split at hnext
      · cases hnext
      · split at hnext
        · rename_i hall
          cases hnext
          exact extend_decodes _ _ hslice (by simpa using hall)
        · cases hnext
    · cases hnext

/-- A document that fits the structs has statements that do. -/
theorem policyStatements_decode (document : Json) (statements : List Fields)
    (h : policyStatements document = some statements) :
    ∀ fields ∈ statements, (decodeStatement fields).isSome = true := by
  unfold policyStatements at h
  split at h
  · cases h
    simp
  · split at h
    · rw [statementFields, Option.map_eq_some_iff] at h
      obtain ⟨slice,hslice,rfl⟩ := h
      intro fields hmem
      exact decodeStatements_decodes _ _ slice (by simp) hslice fields (List.mem_of_mem_take hmem)
    · cases h
  · cases h

theorem decodeAction_eq_iff (values : List Json) (action : String) :
    decodeAction values = .text action ↔ values.getLast?.bind readString = some action := by
  unfold decodeAction
  cases values.getLast? with
  | none => simp
  | some v => cases v <;> simp [readString]

theorem getD_eq_iff {α : Type} (o : Option α) (old x : α) (hx : x ≠ old) :
    o.getD old = x ↔ o = some x := by
  cases o with
  | none => simp [hx.symm]
  | some y => simp

/-- What the loop asks of a decoded statement, told by the document. -/
theorem deniesHTTP_eq (fields : Fields) (st : PolicyStatement)
    (h : decodeStatement fields = some st) : st.deniesHTTP = deniesPlainly fields := by
  obtain ⟨effect,condition,flag,heffect,hcondition,hflag,rfl⟩ : ∃ effect condition flag,
      decodeField readString "" (valuesOf "Effect" fields) = some effect ∧
      conditionFields fields = some condition ∧
      decodeField readBool false (valuesOf "aws:SecureTransport" condition) = some flag ∧
      ⟨decodeAction (valuesOf "Action" fields), effect, flag⟩ = st := by
    unfold decodeStatement at h
    split at h
    · rename_i effect condition heffect hcondition
      obtain ⟨flag,hflag,hst⟩ := Option.map_eq_some_iff.mp h
      exact ⟨effect, condition, flag, heffect, hcondition, hflag, hst⟩
    · cases h
  have he := (decodeField_eq_some_iff _ _ _ _).mp heffect
  have hf := (decodeField_eq_some_iff _ _ _ _).mp hflag
  rw [Bool.eq_iff_iff]
  simp only [PolicyStatement.deniesHTTP, deniesPlainly, Bool.and_eq_true, decide_eq_true_eq,
    Bool.not_eq_true', decodeAction_eq_iff, decide_eq_false_iff_not, hcondition, Option.bind_some,
    ← he.2, ← hf.2, getD_eq_iff _ "" "Deny" (by decide)]
  rw [← Bool.not_eq_true, getD_eq_iff _ false true (by decide)]

theorem statements_decode (statements : List Fields)
    (h : ∀ fields ∈ statements, (decodeStatement fields).isSome = true) :
    ∃ decoded, statements.mapM decodeStatement = some decoded ∧
      decoded.any PolicyStatement.deniesHTTP = statements.any deniesPlainly := by
  induction statements with
  | nil => exact ⟨[], rfl, rfl⟩
  | cons fields statements ih =>
    rw [List.forall_mem_cons] at h
    obtain ⟨st,hst⟩ := Option.isSome_iff_exists.mp h.1
    obtain ⟨decoded,hdecoded,hany⟩ := ih h.2
    refine ⟨st :: decoded, ?_, ?_⟩
    · simp [List.mapM_cons, hst, hdecoded]
    · rw [List.any_cons, List.any_cons, deniesHTTP_eq fields st hst, hany]

variable (api : S3API) (b : S3Bucket) (mismatch : Err) (document : Json)

theorem getTransportEncryption_document
    (h : api.getBucketPolicy b.name = policyAnswer mismatch document) (enforced : Bool) :
    api.getTransportEncryption b = .ok ⟨enforced⟩ ↔ ∃ statements,
      policyStatements document = some statements ∧ statements.any deniesPlainly = enforced := by
  cases hs : policyStatements document with
  | none => simp [S3API.getTransportEncryption, h, policyAnswer, hs]
  | some statements =>
    obtain ⟨decoded,hdecoded,hany⟩ :=
      statements_decode statements (policyStatements_decode document statements hs)
    simp [S3API.getTransportEncryption, h, policyAnswer, hs, hdecoded, hany]

/-- The discoverer does not see the condition of a statement and no array of actions, and it
takes only documents that fit its structs. -/
theorem transport_enforced_iff (h : api.getBucketPolicy b.name = policyAnswer mismatch document) :
    api.getTransportEncryption b = .ok ⟨enforcesHTTPS document⟩ ↔
      ∃ statements, policyStatements document = some statements ∧
        (enforcesHTTPS document = true ↔ ∃ fields ∈ statements, deniesPlainly fields = true) := by
  rw [getTransportEncryption_document api b mismatch document h]
  apply exists_congr
  intro statements
  apply and_congr_right
  intro _
  rw [eq_comm, Bool.eq_iff_iff, List.any_eq_true]

/-- A document with one statement that denies access. -/
def denying (action condition : Json) : Json :=
  .object [("Version", .string "2012-10-17"), ("Statement", .array
    [.object [("Effect", .string "Deny"), ("Action", action), ("Condition", condition)]])]

/-- A condition in the form of AWS. -/
def overTransport (secure : String) : Json :=
  .object [("Bool", .object [("aws:SecureTransport", .string secure)])]

/-- An account whose buckets all have one policy. -/
def accountWithPolicy (document : Json) : S3API where
  listBuckets := .ok []
  getBucketLocation _ := .ok "eu-central-1"
  getBucketEncryption _ := .notFound
  getBucketPolicy _ := policyAnswer ⟨none, "json: cannot unmarshal"⟩ document
  region := "eu-central-1"
  accountID := "1"

theorem denied_over_http_enforced : (accountWithPolicy (denying (.string "s3:*")
    (overTransport "false"))).getTransportEncryption ⟨"bucket", 0⟩ = .ok ⟨true⟩ := by
  apply (transport_enforced_iff _ ⟨"bucket", 0⟩ ⟨none, "json: cannot unmarshal"⟩
    (denying (.string "s3:*") (overTransport "false")) rfl).mpr
  refine ⟨[[("Effect", .string "Deny"), ("Action", .string "s3:*"),
    ("Condition", overTransport "false")]], rfl, ?_⟩
  simp only [List.mem_singleton, exists_eq_left]
  decide

/-- A statement that denies access over HTTPS counts as one that enforces it, and a statement
that enforces it for an array of actions does not count. -/
theorem transport_misjudged :
    ((accountWithPolicy (denying (.string "s3:*") (overTransport "true"))).getTransportEncryption
      ⟨"bucket", 0⟩ = .ok ⟨true⟩ ∧
        enforcesHTTPS (denying (.string "s3:*") (overTransport "true")) = false) ∧
    ((accountWithPolicy (denying (.array [.string "s3:*"])
      (overTransport "false"))).getTransportEncryption ⟨"bucket", 0⟩ = .ok ⟨false⟩ ∧
        enforcesHTTPS (denying (.array [.string "s3:*"]) (overTransport "false")) = true) := by
  refine ⟨⟨?_, by decide⟩, ⟨?_, by decide⟩⟩
  · rfl
  · rfl

end Reading
end Clouditor
