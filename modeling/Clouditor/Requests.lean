import Mathlib.Data.Int.Notation
import Mathlib.Data.List.Basic

/-! Errors, identifiers and access rights shared by the services. -/
namespace Clouditor
set_option autoImplicit false

/-- The gRPC status codes the services return. -/
inductive Code where
  | invalidArgument
  | notFound
  | alreadyExists
  | permissionDenied
  | failedPrecondition
  | aborted
  | internal
  | unknown
  deriving DecidableEq

/-- A Go error: its text, and the status code if one is wrapped inside. -/
structure Err where
  code : Option Code
  msg : String
  deriving DecidableEq

def Code.name : Code → String
  | .invalidArgument => "InvalidArgument"
  | .notFound => "NotFound"
  | .alreadyExists => "AlreadyExists"
  | .permissionDenied => "PermissionDenied"
  | .failedPrecondition => "FailedPrecondition"
  | .aborted => "Aborted"
  | .internal => "Internal"
  | .unknown => "Unknown"

/-- `err.Error()`. -/
def Err.error (e : Err) : String :=
  match e.code with
  | none => e.msg
  | some c => "rpc error: code = " ++ c.name ++ " desc = " ++ e.msg

/-- `fmt.Errorf("context: %w", err)`; the status stays reachable through the wrapping. -/
def Err.wrap (context : String) (e : Err) : Err := ⟨e.code, context ++ ": " ++ e.msg⟩

def errPermissionDenied : Err := ⟨some .permissionDenied, "access denied"⟩

/-- The answer of `api.Validate` to a request that breaks a field constraint. -/
def errInvalidRequest : Err := ⟨some .invalidArgument, "invalid request"⟩

abbrev Time := ℤ

def isHexDigit (c : Char) : Bool :=
  c.isDigit || ('a' ≤ c && c ≤ 'f') || ('A' ≤ c && c ≤ 'F')

/-- The `string.uuid` constraint of the request messages. -/
def isUuid (s : String) : Bool :=
  s.toList.length == 36 && s.toList.zipIdx.all (fun p =>
    if p.2 = 8 ∨ p.2 = 13 ∨ p.2 = 18 ∨ p.2 = 23 then p.1 == '-' else isHexDigit p.1)

theorem isUuid_length (s : String) (h : isUuid s = true) : s.toList.length = 36 := by
  simp only [isUuid, Bool.and_eq_true, beq_iff_eq] at h
  exact h.1

/-- The dashes of a UUID stand at four places. -/
theorem isUuid_dash (s : String) (h : isUuid s = true) (i : ℕ) (hi : s.toList[i]? = some '-') :
    i = 8 ∨ i = 13 ∨ i = 18 ∨ i = 23 := by
  simp only [isUuid, Bool.and_eq_true, List.all_eq_true] at h
  have hat := h.2 ('-', i) (List.mem_zipIdx_iff_getElem?.mpr hi)
  by_contra hno
  rw [if_neg hno] at hat
  have hhex : isHexDigit '-' = false := by decide
  exact absurd (hhex.symm.trans hat) nofun

/-- The answer of `AllowedCloudServices` for one caller. -/
structure Access where
  all : Bool
  allowed : List String

/-- `CheckAccess` of both strategies: the JWT strategy looks the service up in the
allowed ones, the allow-all strategy always has `all` set. -/
def Access.checkAccess (a : Access) (cloudServiceId : String) : Bool :=
  a.all || a.allowed.contains cloudServiceId

def Access.allowAll : Access := ⟨true, []⟩

theorem checkAccess_mem (a : Access) (s : String) (ha : a.all = false)
    (h : a.checkAccess s = true) : s ∈ a.allowed := by
  simpa [Access.checkAccess, ha] using h

/-- What most handlers begin with: the validation of the request and the access check for
one service. -/
def checked {α : Type} (valid : Bool) (a : Access) (cloudServiceId : String)
    (handler : Except Err α) : Except Err α :=
  if !valid then .error errInvalidRequest
  else if !a.checkAccess cloudServiceId then .error errPermissionDenied
  else handler

theorem checked_ok {α : Type} {valid : Bool} {a : Access} {s : String} {handler : Except Err α}
    {x : α} (h : checked valid a s handler = .ok x) :
    a.checkAccess s = true ∧ handler = .ok x := by
  unfold checked at h
  split at h
  · cases h
  · split at h
    · cases h
    · rename_i hacc
      exact ⟨by simpa using hacc, h⟩

section Sequences
variable {α β : Type} {f : α → Except Err β}

/-! Calls that are made one after the other until one of them fails. -/

theorem mapM_cons_ok {x : α} {l : List α} {ys : List β} (h : (x :: l).mapM f = .ok ys) :
    ∃ y zs, f x = .ok y ∧ l.mapM f = .ok zs ∧ ys = y :: zs := by
  rw [List.mapM_cons] at h
  cases hx : f x with
  | error e => simp [hx, bind, Except.bind] at h
  | ok y =>
    cases hl : l.mapM f with
    | error e => simp [hx, hl, bind, Except.bind] at h
    | ok zs =>
      simp only [hx, hl, bind, Except.bind, pure, Except.pure, Except.ok.injEq] at h
      exact ⟨y, zs, rfl, rfl, h.symm⟩

/-- Calls that succeed give the same list when other functions succeed likewise. -/
theorem mapM_ok_mono {g : α → Except Err β} {l : List α} {ys : List β}
    (hfg : ∀ x ∈ l, ∀ y, f x = .ok y → g x = .ok y) (h : l.mapM f = .ok ys) :
    l.mapM g = .ok ys := by
  induction l generalizing ys with
  | nil => exact h
  | cons x l ih =>
    obtain ⟨y,zs,hx,hl,rfl⟩ := mapM_cons_ok h
    have hrest := ih (fun u hu => hfg u (List.mem_cons_of_mem x hu)) hl
    simp [List.mapM_cons, hfg x List.mem_cons_self y hx, hrest, bind, Except.bind, pure,
      Except.pure]

theorem mapM_eq_error {l : List α} {e : Err} (h : l.mapM f = .error e) :
    ∃ x ∈ l, f x = .error e := by
  induction l with
  | nil => cases h
  | cons x l ih =>
    rw [List.mapM_cons] at h
    cases hx : f x with
    | error e' =>
      simp only [hx, bind, Except.bind, Except.error.injEq] at h
      exact ⟨x, List.mem_cons_self, by rw [hx, h]⟩
    | ok y =>
      cases hl : l.mapM f with
      | error e' =>
        simp only [hx, hl, bind, Except.bind, Except.error.injEq] at h
        obtain ⟨z,hz,hfz⟩ := ih (by rw [hl, h])
        exact ⟨z, List.mem_cons_of_mem x hz, hfz⟩
      | ok zs => simp [hx, hl, bind, Except.bind, pure, Except.pure] at h

end Sequences
end Clouditor
