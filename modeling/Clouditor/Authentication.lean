import Clouditor.CloudServiceLists
import Clouditor.StoredRows

/-! From the header of a call to the rows it may change: the bearer token, the interceptor that
verifies it, and the rights that the handlers read from the same token once more. -/
namespace Clouditor
set_option autoImplicit false

section Headers

/-- The metadata of a call. Keys are in lower case; of several values the first one counts. -/
abbrev CallMetadata := List (String × String)

/-- Simple case folding, as far as it leads to ASCII letters: the long s and the Kelvin sign are
the only others that do. -/
def foldChar (c : Char) : Char :=
  if c = '\u017f' then 's' else if c = '\u212a' then 'k' else c.toLower

/-- `EqualFold` with an ASCII text. -/
def equalFold (s t : List Char) : Bool := s.map foldChar = t.map foldChar

/-- `AuthFromMD`: what follows the first space, if the scheme before it is the expected one.
Its errors are only logged. -/
def authFromMD (md : CallMetadata) (expectedScheme : String) : Option String :=
  let val := ((md.lookup "authorization").getD "").toList
  match val.dropWhile (· ≠ ' ') with
  | [] => none
  | _ :: token =>
    if equalFold (val.takeWhile (· ≠ ' ')) expectedScheme.toList then some (String.ofList token)
    else none

/-- A token as an OAuth 2.0 server has issued it. -/
structure OAuthToken where
  tokenType : String
  accessToken : String

/-- The usual names of the types, whatever their case. -/
def OAuthToken.type (t : OAuthToken) : String :=
  if equalFold t.tokenType.toList "bearer".toList then "Bearer"
  else if equalFold t.tokenType.toList "mac".toList then "MAC"
  else if equalFold t.tokenType.toList "basic".toList then "Basic"
  else if t.tokenType ≠ "" then t.tokenType
  else "Bearer"

/-- `GetRequestMetadata` of the authorizer, which does not ask for transport security. -/
def OAuthToken.requestMetadata (t : OAuthToken) : CallMetadata :=
  [("authorization", t.type ++ " " ++ t.accessToken)]

theorem takeWhile_space (scheme rest : List Char) (h : ' ' ∉ scheme) :
    (scheme ++ ' ' :: rest).takeWhile (· ≠ ' ') = scheme ∧
      (scheme ++ ' ' :: rest).dropWhile (· ≠ ' ') = ' ' :: rest := by
  have hall : ∀ c ∈ scheme, decide (c ≠ ' ') = true := by
    intro c hc
    simp only [ne_eq, decide_not, Bool.not_eq_eq_eq_not, Bool.not_true, decide_eq_false_iff_not]
    rintro rfl
    exact h hc
  rw [List.takeWhile_append_of_pos hall, List.dropWhile_append_of_pos hall]
  simp

/-- The scheme ends at the first space of the header. -/
theorem authFromMD_header (scheme rest : List Char) (h : ' ' ∉ scheme) (expectedScheme : String) :
    authFromMD [("authorization", String.ofList (scheme ++ ' ' :: rest))] expectedScheme =
      if equalFold scheme expectedScheme.toList then some (String.ofList rest) else none := by
  obtain ⟨htake,hdrop⟩ := takeWhile_space scheme rest h
  simp only [authFromMD, List.lookup_cons_self, Option.getD_some, String.toList_ofList, htake,
    hdrop]

theorem requestMetadata_eq (t : OAuthToken) : t.requestMetadata =
    [("authorization", String.ofList (t.type.toList ++ ' ' :: t.accessToken.toList))] := by
  have htext : t.type ++ " " ++ t.accessToken =
      String.ofList (t.type.toList ++ ' ' :: t.accessToken.toList) := by
    apply String.toList_inj.mp
    simp
  rw [OAuthToken.requestMetadata, htext]

/-- A scheme with a space in it leaves more than the access token for the server. -/
theorem authFromMD_ne_of_space (t : OAuthToken) (h : ' ' ∈ t.type.toList) :
    authFromMD t.requestMetadata "bearer" ≠ some t.accessToken := by
  obtain ⟨scheme,more,hsplit,hscheme⟩ := List.eq_append_cons_of_mem h
  rw [requestMetadata_eq, hsplit, List.append_assoc, List.cons_append,
    authFromMD_header scheme _ hscheme]
  split_ifs
  · intro heq
    have hlength := congrArg (fun s : Option String => (s.getD "").toList.length) heq
    simp at hlength
    omega
  · exact nofun

theorem type_eq_of_bearer (t : OAuthToken)
    (h : t.tokenType = "" ∨ equalFold t.tokenType.toList "bearer".toList = true) :
    t.type = "Bearer" := by
  rcases h with h | h
  · rw [OAuthToken.type, h]
    decide
  · rw [OAuthToken.type, if_pos h]

end Headers

section Interceptor

/-- What can be read of a token without any key. -/
structure Jwt where
  alg : String
  kid : Option String
  claims : List (String × ClaimValue)
  signedText : String
  signature : String

/-- The JWT library. Parsing without verification already refuses unknown signing methods;
`verify` refuses keys that are not of the type that the method of the token asks for. -/
structure JwtLibrary (Key : Type) where
  parseUnverified : String → Option Jwt
  verify : Jwt → Key → Bool
  validClaims : Time → Jwt → Bool

structure JsonWebKey (Key : Type) where
  kid : String
  alg : String
  usage : String
  key : Key

abbrev Jwks (Key : Type) := List (JsonWebKey Key)

/-- The key for a token: by its id, for signatures, and for the algorithm if it names one. -/
def Jwks.keyfunc {Key : Type} (jwks : Jwks Key) (t : Jwt) : Option Key :=
  match t.kid with
  | none => none
  | some kid =>
    match jwks.find? (fun k => k.kid = kid) with
    | none => none
    | some k =>
      if !(["", "sig"].contains k.usage) then none
      else if k.alg ≠ "" ∧ k.alg ≠ t.alg then none
      else some k.key

/-- Where the keys of an `AuthConfig` come from. -/
inductive KeySource (Key : Type) where
  | jwks (url : String)
  | publicKey (key : Key)

inductive AuthCode where
  | failedPrecondition
  | unauthenticated
  deriving DecidableEq

structure AuthError where
  code : AuthCode
  msg : String
  deriving DecidableEq

/-- The details of a failed verification are not disclosed. -/
def errInvalidAuthToken : AuthError := ⟨.unauthenticated, "invalid auth token"⟩

variable {Key : Type} (lib : JwtLibrary Key) (source : KeySource Key)

def parseToken (token : String) (keyfunc : Jwt → Option Key) (now : Time) : Option Jwt :=
  match lib.parseUnverified token with
  | none => none
  | some jwt =>
    match keyfunc jwt with
    | none => none
    | some key => if lib.verify jwt key && lib.validClaims now jwt then some jwt else none

def authenticate (keyfunc : Jwt → Option Key) (now : Time) (md : CallMetadata) :
    Except AuthError Jwt :=
  match authFromMD md "bearer" with
  | none => .error errInvalidAuthToken
  | some token =>
    match parseToken lib token keyfunc now with
    | none => .error errInvalidAuthToken
    | some jwt => .ok jwt

/-- `AuthFunc`. The key set is fetched with the first call for which that succeeds. -/
def authFunc (jwks : Option (Jwks Key)) (fetched : Except String (Jwks Key)) (now : Time)
    (md : CallMetadata) : Option (Jwks Key) × Except AuthError Jwt :=
  match source, jwks, fetched with
  | .publicKey key, jwks, _ => (jwks, authenticate lib (fun _ => some key) now md)
  | .jwks _, some keys, _ => (some keys, authenticate lib keys.keyfunc now md)
  | .jwks _, none, .ok keys => (some keys, authenticate lib keys.keyfunc now md)
  | .jwks _, none, .error e =>
    (none, .error ⟨.failedPrecondition, "could not retrieve JWKS: " ++ e⟩)

/-- What the strategy sees of the caller: it reads the header again, and does not verify. -/
def callContext (md : CallMetadata) : CallContext :=
  match authFromMD md "bearer" with
  | none => .noBearer
  | some token =>
    match lib.parseUnverified token with
    | none => .unparsable
    | some jwt => .token jwt.claims

/-- The token in the header of a call, verified or not. -/
def presentedToken (md : CallMetadata) : Option Jwt :=
  (authFromMD md "bearer").bind lib.parseUnverified

theorem callContext_of_presented {md : CallMetadata} {jwt : Jwt}
    (h : presentedToken lib md = some jwt) : callContext lib md = .token jwt.claims := by
  obtain ⟨token,htoken,hparse⟩ := Option.bind_eq_some_iff.mp h
  simp only [callContext, htoken, hparse]

theorem parseToken_eq_some {token : String} {keyfunc : Jwt → Option Key} {now : Time} {jwt : Jwt}
    (h : parseToken lib token keyfunc now = some jwt) :
    lib.parseUnverified token = some jwt ∧
      ∃ key, keyfunc jwt = some key ∧ lib.verify jwt key = true := by
  unfold parseToken at h
  cases hparse : lib.parseUnverified token with
  | none =>
    rw [hparse] at h
    cases h
  | some jwt' =>
    simp only [hparse] at h
    cases hkey : keyfunc jwt' with
    | none =>
      rw [hkey] at h
      cases h
    | some key =>
      simp only [hkey] at h
      split_ifs at h with hverified
      cases h
      exact ⟨rfl, key, hkey, (Bool.and_eq_true_iff.mp hverified).1⟩

/-- The token that was verified is the one in the header. -/
theorem authenticate_eq_ok {keyfunc : Jwt → Option Key} {now : Time} {md : CallMetadata}
    {jwt : Jwt} (h : authenticate lib keyfunc now md = .ok jwt) :
    presentedToken lib md = some jwt ∧
      ∃ key, keyfunc jwt = some key ∧ lib.verify jwt key = true := by
  unfold authenticate at h
  cases htoken : authFromMD md "bearer" with
  | none =>
    rw [htoken] at h
    cases h
  | some token =>
    simp only [htoken] at h
    cases hparse : parseToken lib token keyfunc now with
    | none =>
      rw [hparse] at h
      cases h
    | some jwt' =>
      simp only [hparse] at h
      cases h
      obtain ⟨hunverified,hkey⟩ := parseToken_eq_some lib hparse
      exact ⟨Option.bind_eq_some_iff.mpr ⟨token, htoken, hunverified⟩, hkey⟩

theorem keyfunc_mem {jwks : Jwks Key} {t : Jwt} {key : Key} (h : jwks.keyfunc t = some key) :
    ∃ k ∈ jwks, k.key = key := by
  unfold Jwks.keyfunc at h
  split at h
  · cases h
  · split at h
    · cases h
    · rename_i k hfind
      split_ifs at h
      cases h
      exact ⟨k, List.mem_of_find?_eq_some hfind, rfl⟩

end Interceptor

section Server
variable {Key : Type}

/-- The full name under which the method of a request is served. -/
def ScopedRequest.fullMethod : ScopedRequest → String
  | .updateMetricConfiguration _ =>
    "/clouditor.orchestrator.v1.Orchestrator/UpdateMetricConfiguration"
  | .createCertificate _ => "/clouditor.orchestrator.v1.Orchestrator/CreateCertificate"
  | .updateCertificate _ => "/clouditor.orchestrator.v1.Orchestrator/UpdateCertificate"
  | .removeCertificate _ => "/clouditor.orchestrator.v1.Orchestrator/RemoveCertificate"
  | .createTargetOfEvaluation _ =>
    "/clouditor.orchestrator.v1.Orchestrator/CreateTargetOfEvaluation"
  | .updateTargetOfEvaluation _ =>
    "/clouditor.orchestrator.v1.Orchestrator/UpdateTargetOfEvaluation"
  | .removeTargetOfEvaluation _ _ =>
    "/clouditor.orchestrator.v1.Orchestrator/RemoveTargetOfEvaluation"
  | .registerCloudService _ => "/clouditor.orchestrator.v1.Orchestrator/RegisterCloudService"
  | .updateCloudService _ => "/clouditor.orchestrator.v1.Orchestrator/UpdateCloudService"
  | .removeCloudService _ => "/clouditor.orchestrator.v1.Orchestrator/RemoveCloudService"
  | .storeAssessmentResult _ => "/clouditor.orchestrator.v1.Orchestrator/StoreAssessmentResult"
  | .storeEvidence _ => "/clouditor.evidence.v1.EvidenceStore/StoreEvidence"
  | .updateResource _ =>
    "/clouditor.discovery.v1experimental.ExperimentalDiscovery/UpdateResource"
  | .startDiscovery _ _ _ => "/clouditor.discovery.v1.Discovery/Start"

structure ServerConfig (Key : Type) where
  lib : JwtLibrary Key
  source : KeySource Key
  strategy : AuthorizationStrategyJWT
  publicEndpoints : List String

def reflectionMethod : String := "/grpc.reflection.v1.ServerReflection/ServerReflectionInfo"

/-- The filters in front of the interceptor. -/
def ServerConfig.filtered (c : ServerConfig Key) (fullMethod : String) : Bool :=
  fullMethod = reflectionMethod || c.publicEndpoints.contains fullMethod

structure ServerState (Key : Type) where
  jwks : Option (Jwks Key)
  db : Database

/-- A call comes in, with the answer of the key server should that be asked; or the key set is
refreshed in the background. -/
inductive ServerEvent (Key : Type) where
  | call (md : CallMetadata) (req : ScopedRequest) (now : Time) (newId : String)
      (fetched : Except String (Jwks Key))
  | refresh (keys : Jwks Key)

variable (c : ServerConfig Key)

def ServerConfig.rights (md : CallMetadata) (now : Time) (newId : String) : Call :=
  ⟨c.strategy.allowedCloudServices (callContext c.lib md), now, newId⟩

def ServerConfig.step (st : ServerState Key) : ServerEvent Key → ServerState Key
  | .refresh keys => { st with jwks := st.jwks.map (fun _ => keys) }
  | .call md req now newId fetched =>
    if c.filtered req.fullMethod then { st with db := st.db.serve (c.rights md now newId, req) }
    else
      match authFunc c.lib c.source st.jwks fetched now md with
      | (jwks, .error _) => { st with jwks := jwks }
      | (jwks, .ok _) => ⟨jwks, st.db.serve (c.rights md now newId, req)⟩

def ServerConfig.run (st : ServerState Key) (events : List (ServerEvent Key)) : ServerState Key :=
  events.foldl c.step st

/-- The key set that an event may bring. -/
def ServerEvent.offered : ServerEvent Key → Option (Jwks Key)
  | .call _ _ _ _ fetched => fetched.toOption
  | .refresh keys => some keys

/-- One of the keys vouches for the token: the public key, or one of a key set. -/
def ServerConfig.Vouched (sets : List (Jwks Key)) (jwt : Jwt) : Prop :=
  match c.source with
  | .publicKey key => c.lib.verify jwt key = true
  | .jwks _ => ∃ keys ∈ sets, ∃ k ∈ keys, c.lib.verify jwt k.key = true

variable {c}

/-- With keys from `sets` the interceptor lets only tokens pass that these vouch for. -/
theorem authFunc_vouched {sets : List (Jwks Key)} {jwks : Option (Jwks Key)}
    {fetched : Except String (Jwks Key)} (now : Time) (md : CallMetadata)
    (hjwks : ∀ keys, jwks = some keys → keys ∈ sets)
    (hfetched : ∀ keys, fetched.toOption = some keys → keys ∈ sets) :
    (∀ keys, (authFunc c.lib c.source jwks fetched now md).1 = some keys → keys ∈ sets) ∧
    ∀ jwt, (authFunc c.lib c.source jwks fetched now md).2 = .ok jwt →
      presentedToken c.lib md = some jwt ∧ c.Vouched sets jwt := by
  have hset (keys : Jwks Key) (hkeys : keys ∈ sets) (jwt : Jwt)
      (hsource : ∃ url, c.source = .jwks url)
      (h : authenticate c.lib keys.keyfunc now md = .ok jwt) :
      presentedToken c.lib md = some jwt ∧ c.Vouched sets jwt := by
    obtain ⟨url,hurl⟩ := hsource
    obtain ⟨hpresented,key,hkey,hverify⟩ := authenticate_eq_ok c.lib h
    obtain ⟨k,hk,rfl⟩ := keyfunc_mem hkey
    refine ⟨hpresented, ?_⟩
    rw [ServerConfig.Vouched, hurl]
    exact ⟨keys, hkeys, k, hk, hverify⟩
  cases hsource : c.source with
  | publicKey key =>
    refine ⟨hjwks, fun jwt h => ?_⟩
    obtain ⟨hpresented,key',hkey,hverify⟩ := authenticate_eq_ok c.lib h
    cases hkey
    refine ⟨hpresented, ?_⟩
    rw [ServerConfig.Vouched, hsource]
    exact hverify
  | jwks url =>
    cases jwks with
    | some keys =>
      have hkeys := hjwks keys rfl
      exact ⟨fun _ h => Option.some.inj h ▸ hkeys, fun jwt => hset keys hkeys jwt ⟨url, hsource⟩⟩
    | none =>
      cases fetched with
      | error e => exact ⟨fun _ h => (by cases h), fun _ h => (by cases h)⟩
      | ok keys =>
        have hkeys := hfetched keys rfl
        exact ⟨fun _ h => Option.some.inj h ▸ hkeys, fun jwt => hset keys hkeys jwt ⟨url, hsource⟩⟩

/-- What has to hold of the events for the rows of a service to stay: its calls are not
filtered, and the tokens among them that somebody vouches for do not give access to it. -/
def ServerConfig.Foreign (c : ServerConfig Key) (sets : List (Jwks Key)) (s : String) :
    ServerEvent Key → Prop
  | .refresh _ => True
  | .call md req _ newId _ => c.filtered req.fullMethod = false ∧ newId ≠ s ∧
      ∀ jwt, presentedToken c.lib md = some jwt → c.Vouched sets jwt →
        (c.strategy.allowedCloudServices (.token jwt.claims)).checkAccess s = false

theorem step_keepsRowsOf {sets : List (Jwks Key)} {s : String} {st : ServerState Key}
    {e : ServerEvent Key} (hjwks : ∀ keys, st.jwks = some keys → keys ∈ sets)
    (hoffered : ∀ keys, e.offered = some keys → keys ∈ sets) (hforeign : c.Foreign sets s e) :
    (∀ keys, (c.step st e).jwks = some keys → keys ∈ sets) ∧
      KeepsRowsOf s st.db (c.step st e).db := by
  cases e with
  | refresh keys =>
    refine ⟨fun keys' h => ?_, .refl s st.db⟩
    obtain ⟨_,_,rfl⟩ := Option.map_eq_some_iff.mp h
    exact hoffered keys rfl
  | call md req now newId fetched =>
    obtain ⟨hfiltered,hid,htokens⟩ := hforeign
    obtain ⟨hkeys,hvouched⟩ := authFunc_vouched (c := c) now md hjwks hoffered
    simp only [ServerConfig.step, hfiltered, Bool.false_eq_true, if_false]
    generalize authFunc c.lib c.source st.jwks fetched now md = answer at hkeys hvouched
    rcases answer with ⟨jwks,e | jwt⟩
    · exact ⟨hkeys, .refl s st.db⟩
    · refine ⟨hkeys, keepsRowsOf_serve ?_ hid st.db req⟩
      obtain ⟨hpresented,hjwt⟩ := hvouched jwt rfl
      rw [ServerConfig.rights, callContext_of_presented c.lib hpresented]
      exact htokens jwt hpresented hjwt

theorem run_keepsRowsOf {sets : List (Jwks Key)} {s : String} (events : List (ServerEvent Key))
    (hoffered : ∀ e ∈ events, ∀ keys, e.offered = some keys → keys ∈ sets)
    (hforeign : ∀ e ∈ events, c.Foreign sets s e) (st : ServerState Key)
    (hjwks : ∀ keys, st.jwks = some keys → keys ∈ sets) :
    KeepsRowsOf s st.db (c.run st events).db := by
  induction events generalizing st with
  | nil => exact .refl s st.db
  | cons e events ih =>
    obtain ⟨hkeys,hkept⟩ := step_keepsRowsOf hjwks (hoffered e List.mem_cons_self)
      (hforeign e List.mem_cons_self)
    have hrest := ih (fun e' he' => hoffered e' (List.mem_cons_of_mem e he'))
      (fun e' he' => hforeign e' (List.mem_cons_of_mem e he')) (c.step st e) hkeys
    exact hkept.trans hrest

/-- Every token is that of a user of one service, and verifies. -/
def sampleLibrary : JwtLibrary Unit where
  parseUnverified text := some ⟨"ES256", some "1",
    [("cloudserviceid", .array [.text "11111111-1111-1111-1111-111111111111"])], text, ""⟩
  verify _ _ := true
  validClaims _ _ := true

def sampleServer : ServerConfig Unit where
  lib := sampleLibrary
  source := .jwks "http://localhost:8080/v1/auth/certs"
  strategy := sampleStrategy
  publicEndpoints := []

/-- The user tries to remove the service of somebody else. -/
def sampleRemoval : ServerEvent Unit :=
  .call (OAuthToken.mk "bearer" "token").requestMetadata
    (.removeCloudService "33333333-3333-3333-3333-333333333333") 0
    "99999999-9999-9999-9999-999999999999" (.ok [⟨"1", "ES256", "sig", ()⟩])

end Server
end Clouditor
