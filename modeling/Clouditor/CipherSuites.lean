import Clouditor.AzureResources
import Clouditor.TokenStages

/-! The parser for the names of TLS cipher suites, compared with the grammar of these names. -/
namespace Clouditor
set_option autoImplicit false
open Paged

section Parser

structure CipherSuite where
  authenticationMechanism : String := ""
  keyExchangeAlgorithm : String := ""
  macAlgorithm : String := ""
  sessionCipher : String := ""
  deriving DecidableEq

/-- What follows the label `cipher`. Each part is read by its position, which is not checked. -/
def readSessionCipher (parts : List String) (i : ℕ) (cipher : CipherSuite) :
    Outcome Err (List CipherSuite) := do
  let aes ← deref parts[i]?
  if aes = "AES" then
    let cipher := { cipher with sessionCipher := aes }
    let size ← deref parts[i + 1]?
    if size ∈ ["128", "256"] then
      let cipher := { cipher with sessionCipher := cipher.sessionCipher ++ ("-" ++ size) }
      let mode ← deref parts[i + 2]?
      if mode ∈ ["CBC", "GCM"] then
        let cipher := { cipher with sessionCipher := cipher.sessionCipher ++ ("-" ++ mode) }
        let mac ← deref parts[i + 3]?
        if mac = "SHA256" then pure [{ cipher with macAlgorithm := "SHA-256" }]
        else if mac = "SHA384" then pure [{ cipher with macAlgorithm := "SHA-384" }]
        else pure []
      else pure []
    else pure []
  else pure []

def tlsCipherSuites (cs : String) : Outcome Err (List CipherSuite) := do
  let parts := split cs '_'
  let tls ← deref parts[0]?
  if tls ≠ "TLS" then pure []
  else
    -- next is either a key exchange or directly the session cipher
    let exchange ← deref parts[1]?
    if exchange = "ECDHE" then
      let cipher : CipherSuite := { keyExchangeAlgorithm := exchange }
      let authentication ← deref parts[2]?
      if authentication ∈ ["RSA", "ECDSA"] then
        let cipher := { cipher with authenticationMechanism := authentication }
        let separator ← deref parts[3]?
        if separator ≠ "WITH" then pure [] else readSessionCipher parts 4 cipher
      else pure []
    else readSessionCipher parts 1 {}

end Parser

section Grammar

inductive SuiteAuthentication where
  | rsa
  | ecdsa
  deriving DecidableEq

inductive AesKeySize where
  | bits128
  | bits256
  deriving DecidableEq

inductive AesMode where
  | cbc
  | gcm
  deriving DecidableEq

inductive SuiteMac where
  | sha256
  | sha384
  deriving DecidableEq

def SuiteAuthentication.text : SuiteAuthentication → String
  | .rsa => "RSA"
  | .ecdsa => "ECDSA"

def AesKeySize.text : AesKeySize → String
  | .bits128 => "128"
  | .bits256 => "256"

def AesMode.text : AesMode → String
  | .cbc => "CBC"
  | .gcm => "GCM"

def SuiteMac.text : SuiteMac → String
  | .sha256 => "SHA256"
  | .sha384 => "SHA384"

def SuiteMac.algorithm : SuiteMac → String
  | .sha256 => "SHA-256"
  | .sha384 => "SHA-384"

/-- The name of a suite, which may leave out the key exchange by `ECDHE` and its
authentication. -/
structure SuiteName where
  exchange : Option SuiteAuthentication
  size : AesKeySize
  mode : AesMode
  mac : SuiteMac
  deriving DecidableEq

def SuiteName.parts (name : SuiteName) : List String :=
  let session := ["AES", name.size.text, name.mode.text, name.mac.text]
  match name.exchange with
  | none => "TLS" :: session
  | some authentication => "TLS" :: "ECDHE" :: authentication.text :: "WITH" :: session

def SuiteName.text (name : SuiteName) : String := "_".intercalate name.parts

def SuiteName.suite (name : SuiteName) : CipherSuite where
  authenticationMechanism := (name.exchange.map SuiteAuthentication.text).getD ""
  keyExchangeAlgorithm := if name.exchange.isSome then "ECDHE" else ""
  macAlgorithm := name.mac.algorithm
  sessionCipher := "AES-" ++ name.size.text ++ "-" ++ name.mode.text

end Grammar

section Stages
open TokenStages

def sessionStages : List (Stage String CipherSuite) :=
  [⟨fun t => t ∈ ["AES"], fun t c => { c with sessionCipher := t }⟩,
    ⟨fun t => t ∈ ["128", "256"],
      fun t c => { c with sessionCipher := c.sessionCipher ++ ("-" ++ t) }⟩,
    ⟨fun t => t ∈ ["CBC", "GCM"],
      fun t c => { c with sessionCipher := c.sessionCipher ++ ("-" ++ t) }⟩,
    ⟨fun t => t ∈ ["SHA256", "SHA384"],
      fun t c => { c with macAlgorithm := if t = "SHA256" then "SHA-256" else "SHA-384" }⟩]

def suiteStages (exchange : Bool) : List (Stage String CipherSuite) :=
  ⟨fun t => t ∈ ["TLS"], fun _ c => c⟩ ::
    if exchange then
      ⟨fun t => t ∈ ["ECDHE"], fun t c => { c with keyExchangeAlgorithm := t }⟩ ::
        ⟨fun t => t ∈ ["RSA", "ECDSA"], fun t c => { c with authenticationMechanism := t }⟩ ::
        ⟨fun t => t ∈ ["WITH"], fun _ c => c⟩ :: sessionStages
    else sessionStages

theorem readSessionCipher_eq (parts : List String) (i : ℕ) (cipher : CipherSuite) :
    readSessionCipher parts i cipher =
      Option.toList <$> readAll sessionStages (parts.drop i) cipher := by
  -- the last stage has one branch for each hash function
  have hmac (mac authentication exchange session : String) :
      (if mac = "SHA256" then pure [⟨authentication, exchange, "SHA-256", session⟩]
        else if mac = "SHA384" then pure [⟨authentication, exchange, "SHA-384", session⟩]
        else pure [] : Outcome Err (List CipherSuite)) =
      if mac ∈ ["SHA256", "SHA384"] then pure [⟨authentication, exchange,
        if mac = "SHA256" then "SHA-256" else "SHA-384", session⟩]
      else pure [] := by
    by_cases h : mac = "SHA256"
    · simp [h]
    · simp [h]
  simp only [readSessionCipher, sessionStages, map_readAll_drop, List.mem_singleton,
    decide_eq_true_eq, hmac]
  rfl

/-- The parser is the staged reader, once the second part has told whether there is a key
exchange. -/
theorem tlsCipherSuites_eq (cs : String) (exchange : Bool)
    (h : exchange = true ↔ (split cs '_')[1]? = some "ECDHE") :
    tlsCipherSuites cs = Option.toList <$> readAll (suiteStages exchange) (split cs '_') {} := by
  rw [tlsCipherSuites, ← List.drop_zero (l := split cs '_'), suiteStages, map_readAll_drop]
  simp only [List.drop_zero, ite_not, List.mem_singleton, decide_eq_true_eq]
  refine bind_congr fun tls => ?_
  congr 1
  cases exchange with
  | true =>
    have hpart : (split cs '_')[1]? = some "ECDHE" := h.mp rfl
    simp only [if_true, map_readAll_drop, readSessionCipher_eq, decide_eq_true_eq, hpart]
    rfl
  | false =>
    cases hpart : (split cs '_')[1]? with
    | none =>
      have hdrop : (split cs '_').drop 1 = [] := by
        rw [List.getElem?_eq_none_iff] at hpart
        exact List.drop_eq_nil_of_le hpart
      rw [hdrop]
      rfl
    | some part =>
      have hne : part ≠ "ECDHE" := fun heq => by simp [hpart, heq] at h
      exact (if_neg hne).trans (readSessionCipher_eq _ _ _)

theorem word_parts (name : SuiteName) : Word (suiteStages name.exchange.isSome) name.parts := by
  obtain ⟨exchange, size, mode, mac⟩ := name
  have hsession : Word sessionStages ["AES", size.text, mode.text, mac.text] := by
    refine .cons (by decide) (.cons ?_ (.cons ?_ (.cons ?_ .nil)))
    · cases size <;> decide
    · cases mode <;> decide
    · cases mac <;> decide
  cases exchange with
  | none => exact .cons (by decide) hsession
  | some authentication =>
    refine .cons (by decide) (.cons (by decide) (.cons ?_ (.cons (by decide) hsession)))
    cases authentication <;> decide

theorem effect_parts (name : SuiteName) :
    effect (suiteStages name.exchange.isSome) name.parts {} = name.suite := by
  obtain ⟨exchange, size, mode, mac⟩ := name
  cases exchange with
  | none => cases size <;> cases mode <;> cases mac <;> decide
  | some authentication =>
    cases authentication <;> cases size <;> cases mode <;> cases mac <;> decide

theorem session_word {word : List String} (h : Word sessionStages word) :
    ∃ (size : AesKeySize) (mode : AesMode) (mac : SuiteMac),
      word = ["AES", size.text, mode.text, mac.text] := by
  simp only [Word, sessionStages, List.forall₂_cons_left_iff, List.forall₂_nil_left_iff,
    decide_eq_true_eq, List.mem_cons, List.not_mem_nil, or_false] at h
  obtain ⟨_, _, rfl, ⟨size, _, hsize, ⟨mode, _, hmode, ⟨mac, _, hmac, rfl, rfl⟩, rfl⟩, rfl⟩, rfl⟩
    := h
  obtain ⟨size, rfl⟩ : ∃ s : AesKeySize, size = s.text :=
    hsize.elim (fun h => ⟨.bits128, h⟩) (fun h => ⟨.bits256, h⟩)
  obtain ⟨mode, rfl⟩ : ∃ m : AesMode, mode = m.text :=
    hmode.elim (fun h => ⟨.cbc, h⟩) (fun h => ⟨.gcm, h⟩)
  obtain ⟨mac, rfl⟩ : ∃ m : SuiteMac, mac = m.text :=
    hmac.elim (fun h => ⟨.sha256, h⟩) (fun h => ⟨.sha384, h⟩)
  exact ⟨size, mode, mac, rfl⟩

/-- The words of the stages are the names of the grammar. -/
theorem exists_name {exchange : Bool} {word : List String} (h : Word (suiteStages exchange) word) :
    ∃ name : SuiteName, name.exchange.isSome = exchange ∧ word = name.parts := by
  cases exchange with
  | false =>
    simp only [Word, suiteStages, List.forall₂_cons_left_iff, decide_eq_true_eq,
      List.mem_singleton, Bool.false_eq_true, if_false] at h
    obtain ⟨_, session, rfl, hsession, rfl⟩ := h
    obtain ⟨size, mode, mac, rfl⟩ := session_word hsession
    exact ⟨⟨none, size, mode, mac⟩, rfl, rfl⟩
  | true =>
    simp only [Word, suiteStages, List.forall₂_cons_left_iff, decide_eq_true_eq, List.mem_cons,
      List.not_mem_nil, or_false, if_true] at h
    obtain ⟨_, _, rfl, ⟨_, _, rfl, ⟨auth, _, hauth, ⟨_, session, rfl, hsession, rfl⟩, rfl⟩,
      rfl⟩, rfl⟩ := h
    obtain ⟨size, mode, mac, rfl⟩ := session_word hsession
    obtain ⟨auth, rfl⟩ : ∃ a : SuiteAuthentication, auth = a.text :=
      hauth.elim (fun h => ⟨.rsa, h⟩) (fun h => ⟨.ecdsa, h⟩)
    exact ⟨⟨some auth, size, mode, mac⟩, rfl, rfl⟩

end Stages

section Names
open TokenStages

theorem second_part_iff (name : SuiteName) :
    name.exchange.isSome = true ↔ name.parts[1]? = some "ECDHE" := by
  obtain ⟨exchange, size, mode, mac⟩ := name
  cases exchange <;> simp [SuiteName.parts]

theorem one_lt_length_parts (name : SuiteName) : 1 < name.parts.length := by
  obtain ⟨exchange, size, mode, mac⟩ := name
  cases exchange <;> simp [SuiteName.parts]

/-- No name is the beginning of another one. -/
theorem parts_eq_of_prefix {name other : SuiteName} (h : name.parts <+: other.parts) :
    name.parts = other.parts := by
  obtain ⟨more, hmore⟩ := h
  have hsecond : name.parts[1]? = other.parts[1]? := by
    rw [← hmore, List.getElem?_append_left (one_lt_length_parts name)]
  have hexchange : name.exchange.isSome = other.exchange.isSome := by
    rw [Bool.eq_iff_iff, second_part_iff, second_part_iff, hsecond]
  have hlength : name.parts.length = other.parts.length := by
    obtain ⟨exchange, size, mode, mac⟩ := name
    obtain ⟨exchange', size', mode', mac'⟩ := other
    cases exchange <;> cases exchange' <;> simp_all [SuiteName.parts]
  exact List.IsPrefix.eq_of_length ⟨more, hmore⟩ hlength

theorem tlsCipherSuites_word {cs : String} {name : SuiteName} {more : List String}
    (h : split cs '_' = name.parts ++ more) : tlsCipherSuites cs = .ok [name.suite] := by
  have hsecond : name.exchange.isSome = true ↔ (split cs '_')[1]? = some "ECDHE" := by
    rw [second_part_iff, h, List.getElem?_append_left (one_lt_length_parts name)]
  rw [tlsCipherSuites_eq cs _ hsecond, h, readAll_word (word_parts name), effect_parts]
  rfl

theorem tlsCipherSuites_cut {cs : String} {name : SuiteName} {more : List String}
    (hne : split cs '_' ≠ []) (hmore : more ≠ []) (h : split cs '_' ++ more = name.parts) :
    tlsCipherSuites cs = .error .fault := by
  by_cases hlength : 1 < (split cs '_').length
  · have hsecond : name.exchange.isSome = true ↔ (split cs '_')[1]? = some "ECDHE" := by
      rw [second_part_iff, ← h, List.getElem?_append_left hlength]
    have hword := word_parts name
    rw [← h] at hword
    rw [tlsCipherSuites_eq cs _ hsecond, readAll_cut hword hmore]
    rfl
  · -- only the first part is left, which does not tell the two forms apart
    obtain ⟨first, hfirst⟩ : ∃ first, split cs '_' = [first] := by
      apply List.length_eq_one_iff.mp
      have hpos := List.length_pos_of_ne_nil hne
      omega
    have htls : first = "TLS" := by
      obtain ⟨exchange, size, mode, mac⟩ := name
      rw [hfirst] at h
      cases exchange <;> simp_all [SuiteName.parts]
    rw [tlsCipherSuites, hfirst, htls]
    rfl

theorem tlsCipherSuites_other {cs : String} (h : ∀ name : SuiteName,
    ¬ name.parts <+: split cs '_' ∧ ¬ split cs '_' <+: name.parts) :
    tlsCipherSuites cs = .ok [] := by
  have hwords (exchange : Bool) : ∃ word, Word (suiteStages exchange) word := by
    cases exchange with
    | false => exact ⟨_, word_parts ⟨none, .bits128, .gcm, .sha256⟩⟩
    | true => exact ⟨_, word_parts ⟨some .rsa, .bits128, .gcm, .sha256⟩⟩
  rw [tlsCipherSuites_eq cs (decide ((split cs '_')[1]? = some "ECDHE")) (by simp),
    readAll_other (hwords _)]
  · rfl
  · intro word hword
    obtain ⟨name, _, rfl⟩ := exists_name hword
    exact h name

theorem underscore_not_mem_parts (name : SuiteName) : ∀ part ∈ name.parts, '_' ∉ part.toList := by
  obtain ⟨exchange, size, mode, mac⟩ := name
  have hsession : ∀ part ∈ ["AES", size.text, mode.text, mac.text], '_' ∉ part.toList := by
    cases size <;> cases mode <;> cases mac <;> decide
  cases exchange with
  | none => simpa [SuiteName.parts] using hsession
  | some authentication => cases authentication <;> simpa [SuiteName.parts,
      SuiteAuthentication.text] using hsession

section Texts
variable (cs : String) (name : SuiteName)

theorem parts_ne_nil : name.parts ≠ [] := by
  have hlength := one_lt_length_parts name
  exact List.ne_nil_of_length_pos (by omega)

theorem split_ne_nil : split cs '_' ≠ [] := by
  rw [split, splitChars_eq_splitOn]
  simp

theorem eq_text_iff : cs = name.text ↔ split cs '_' = name.parts :=
  (split_eq_iff (parts_ne_nil name) (underscore_not_mem_parts name) cs).symm

theorem eq_cut_iff {k : ℕ} (hk : 0 < k) :
    cs = "_".intercalate (name.parts.take k) ↔ split cs '_' = name.parts.take k := by
  have htake : name.parts.take k ≠ [] := by simpa [parts_ne_nil name] using hk.ne'
  have hsep : ∀ part ∈ name.parts.take k, '_' ∉ part.toList := by
    intro part hpart
    exact underscore_not_mem_parts name part (List.mem_of_mem_take hpart)
  exact (split_eq_iff htake hsep cs).symm

theorem exists_eq_extended_iff : (∃ rest, cs = name.text ++ "_" ++ rest) ↔
    ∃ more, more ≠ [] ∧ split cs '_' = name.parts ++ more :=
  (split_extends_iff (parts_ne_nil name) (underscore_not_mem_parts name) cs).symm

variable {cs name}

/-- A name with further parts is no name. -/
theorem ne_text_of_extended {more : List String} (hmore : more ≠ [])
    (h : split cs '_' = name.parts ++ more) (other : SuiteName) : cs ≠ other.text := by
  intro htext
  have hboth : name.parts ++ more = other.parts := by rw [← h, (eq_text_iff cs other).mp htext]
  have hsame := parts_eq_of_prefix ⟨more, hboth⟩
  rw [← hsame] at hboth
  exact hmore (List.append_right_eq_self.mp hboth)

theorem tlsCipherSuites_text (h : cs = name.text) : tlsCipherSuites cs = .ok [name.suite] := by
  have hsplit := (eq_text_iff cs name).mp h
  exact tlsCipherSuites_word (show _ = name.parts ++ [] by simpa using hsplit)

end Texts

/-- The parser meets its grammar on every text but the names that are cut off behind one of
their parts, where it faults, and the names with further parts, which it accepts. -/
theorem tlsCipherSuites_exact_iff (cs : String) :
    (∃ suites, tlsCipherSuites cs = .ok suites ∧
        (∀ name : SuiteName, cs = name.text → suites = [name.suite]) ∧
        ((∀ name : SuiteName, cs ≠ name.text) → suites = [])) ↔
      (∀ (name : SuiteName) (k : ℕ), 0 < k → k < name.parts.length →
          cs ≠ "_".intercalate (name.parts.take k)) ∧
        ∀ (name : SuiteName) (rest : String), cs ≠ name.text ++ "_" ++ rest := by
  constructor
  · intro ⟨suites, hok, _, hnone⟩
    constructor
    · intro name k hpos hk heq
      have hsplit := (eq_cut_iff cs name hpos).mp heq
      have hmore : name.parts.drop k ≠ [] := by simpa using hk
      have hfault := tlsCipherSuites_cut (split_ne_nil cs) hmore
        (show split cs '_' ++ _ = name.parts by rw [hsplit, List.take_append_drop])
      rw [hfault] at hok
      cases hok
    · intro name rest heq
      obtain ⟨more, hmore, hsplit⟩ := (exists_eq_extended_iff cs name).mp ⟨rest, heq⟩
      have hempty := hnone (ne_text_of_extended hmore hsplit)
      rw [tlsCipherSuites_word hsplit, hempty] at hok
      cases hok
  · intro ⟨hnotCut, hnotExt⟩
    by_cases hsome : ∃ name : SuiteName, cs = name.text
    · obtain ⟨name, htext⟩ := hsome
      have hok := tlsCipherSuites_text htext
      refine ⟨[name.suite], hok, ?_, fun hnone => absurd htext (hnone name)⟩
      intro other hother
      exact Except.ok.inj (hok.symm.trans (tlsCipherSuites_text hother))
    · have hnone : ∀ name : SuiteName, cs ≠ name.text := not_exists.mp hsome
      refine ⟨[], tlsCipherSuites_other ?_, fun name h => absurd h (hnone name), fun _ => rfl⟩
      intro name
      have hnot : split cs '_' ≠ name.parts := fun h => hnone name ((eq_text_iff cs name).mpr h)
      constructor
      · intro ⟨more, hmore⟩
        have hmore' : more ≠ [] := by
          intro hnil
          simp [hnil, hnot.symm] at hmore
        obtain ⟨rest, hrest⟩ := (exists_eq_extended_iff cs name).mpr ⟨more, hmore', hmore.symm⟩
        exact hnotExt name rest hrest
      · intro hfront
        have htake := List.prefix_iff_eq_take.mp hfront
        have hlt : (split cs '_').length < name.parts.length := by
          apply lt_of_le_of_ne hfront.length_le
          exact fun hlen => hnot (hfront.eq_of_length hlen)
        have hpos := List.length_pos_of_ne_nil (split_ne_nil cs)
        exact hnotCut name _ hpos hlt ((eq_cut_iff cs name hpos).mpr htake)

/-- A name that ends early, and one with a part too many. -/
theorem cut_name_faults :
    tlsCipherSuites "TLS_AES_128_GCM" = .error .fault ∧
      tlsCipherSuites "TLS_AES_128_GCM_SHA256_8" =
        .ok [⟨"", "", "SHA-256", "AES-128-GCM"⟩] ∧
      ∀ name : SuiteName, "TLS_AES_128_GCM_SHA256_8" ≠ name.text := by
  refine ⟨by decide, by decide, ?_⟩
  intro name
  obtain ⟨exchange, size, mode, mac⟩ := name
  cases exchange with
  | none => cases size <;> cases mode <;> cases mac <;> decide
  | some authentication =>
    cases authentication <;> cases size <;> cases mode <;> cases mac <;> decide

end Names
end Clouditor
