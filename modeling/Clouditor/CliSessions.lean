import Clouditor.Authentication
import Clouditor.PagedCalls

/-! Sessions of the command line tool: `login` saves a token to a file, and every later command
continues the session from it, with a new token if the saved one has run out. -/
namespace Clouditor
set_option autoImplicit false
open Paged

section Tokens

/-- The zero time of an expiry means that the token does not expire. -/
structure SessionToken extends OAuthToken where
  refreshToken : String
  expiry : Option Time

/-- A token counts as expired some seconds before it is. -/
def expiryDelta : Time := 10

def SessionToken.expired (t : SessionToken) (now : Time) : Bool :=
  match t.expiry with
  | none => false
  | some expiry => expiry - expiryDelta < now

/-- `Valid`, also of a nil token. -/
def validToken (t : Option SessionToken) (now : Time) : Bool :=
  match t with
  | none => false
  | some t => t.accessToken ≠ "" && !t.expired now

structure OAuth2Config where
  clientID : String
  authURL : String
  tokenURL : String
  redirectURL : String
  deriving DecidableEq

/-- The fields of a session that are serialized. -/
structure SessionDocument where
  url : String
  token : Option SessionToken
  oauth2 : Option OAuth2Config

/-- The file `session.json`, as the JSON decoder reads it. -/
inductive SessionFile where
  | absent
  | malformed (e : Err)
  | null
  | document (doc : SessionDocument)

/-- What a command finds when it is run: the time, the answers of the token endpoint, and what
goes wrong with the folder, the encoder, the file and the connection. -/
structure CliEnv where
  now : Time
  retrieveToken : OAuth2Config → String → Except Err SessionToken
  mkdirAll : Option Err
  openFile : Option Err
  encode : SessionDocument → Option Err
  /-- What a write that fails leaves of the file. -/
  write : Option SessionFile
  close : Option Err
  dial : Option Err

def errNoRefreshToken : Err := ⟨none, "oauth2: token expired and refresh token is not set"⟩

def errMissingAccessToken : Err := ⟨none, "oauth2: server response missing access_token"⟩

/-- The token source of a config: the token as long as it is valid, and the refresh token. -/
structure OAuthAuthorizer where
  config : OAuth2Config
  token : Option SessionToken
  refreshToken : String

def newOAuthAuthorizerFromConfig (config : OAuth2Config) (token : Option SessionToken) :
    OAuthAuthorizer :=
  ⟨config, token, (token.map SessionToken.refreshToken).getD ""⟩

/-- The token that the endpoint answers to a refresh token. That stays the one to use if there
is no new one. -/
def CliEnv.refresh (env : CliEnv) (config : OAuth2Config) (refreshToken : String) :
    Except Err SessionToken :=
  if refreshToken = "" then .error errNoRefreshToken
  else match env.retrieveToken config refreshToken with
    | .error e => .error e
    | .ok t =>
      if t.accessToken = "" then .error errMissingAccessToken
      else if t.refreshToken = "" then .ok { t with refreshToken := refreshToken }
      else .ok t

/-- `Token` of the source: the token it has if that is valid, and else a new one. -/
def OAuthAuthorizer.getToken (a : OAuthAuthorizer) (env : CliEnv) :
    Except Err SessionToken × OAuthAuthorizer :=
  match a.token.filter (fun t => validToken (some t) env.now) with
  | some t => (.ok t, a)
  | none =>
    match env.refresh a.config a.refreshToken with
    | .error e => (.error e, a)
    | .ok t => (.ok t, ⟨a.config, some t, t.refreshToken⟩)

end Tokens

section Sessions

structure Session where
  url : String
  config : OAuth2Config
  authorizer : OAuthAuthorizer
  /-- A new token is needed, and then the session is saved again. -/
  dirty : Bool

/-- An error of the token source leaves the token out. -/
def Session.marshalJSON (s : Session) (env : CliEnv) : SessionDocument × Session :=
  let (token, authorizer) := s.authorizer.getToken env
  (⟨s.url, token.toOption, some s.config⟩, { s with authorizer })

def Session.unmarshalJSON (doc : SessionDocument) (now : Time) : Except Err Session :=
  match doc.oauth2 with
  | none => .error ⟨none, "missing oauth2 config"⟩
  | some config => .ok ⟨doc.url, config, newOAuthAuthorizerFromConfig config doc.token,
      !validToken doc.token now⟩

def errEmptyFile : Err := ⟨none, "EOF"⟩

/-- The file is empty before anything is encoded, and the error of `Close` takes the place of
whatever error there is after that. -/
def Session.save (s : Session) (env : CliEnv) (file : SessionFile) :
    Option Err × Session × SessionFile :=
  match env.mkdirAll with
  | some e => (some (e.wrap "could not create .clouditor in home directory"), s, file)
  | none =>
    match env.openFile with
    | some e => (some (e.wrap "could not save session.json"), s, file)
    | none =>
      let (doc, s) := s.marshalJSON env
      match env.encode doc with
      | some _ => (env.close, s, .malformed errEmptyFile)
      | none =>
        match env.write with
        | some part => (env.close, s, part)
        | none => (env.close, { s with dirty := false }, .document doc)

def newSession (url : String) (config : OAuth2Config) (token : SessionToken) (env : CliEnv) :
    Except Err Session :=
  match env.dial with
  | some e => .error (e.wrap "could not connect")
  | none => .ok ⟨url, config, newOAuthAuthorizerFromConfig config (some token), false⟩

def errNoSession : Err := ⟨none, "no such file or directory"⟩

/-- A session whose token has run out is saved with a new one, whether that works or not. -/
def continueSession (env : CliEnv) (file : SessionFile) : Outcome Err Session × SessionFile :=
  match file with
  | .absent => (fail errNoSession, file)
  | .malformed e => (fail (e.wrap "could not parse session file"), file)
  -- the pointer to the session is nil after that
  | .null => (.error .fault, file)
  | .document doc =>
    match Session.unmarshalJSON doc env.now with
    | .error e => (fail (e.wrap "could not parse session file"), file)
    | .ok s =>
      let (s, file) := if s.dirty then (s.save env file).2 else (s, file)
      match env.dial with
      | some e => (fail (e.wrap "could not connect"), file)
      | none => (.ok s, file)

/-- The command `login`, once it has got a token. -/
def login (url : String) (config : OAuth2Config) (token : SessionToken) (env : CliEnv)
    (file : SessionFile) : Option Err × SessionFile :=
  match newSession url config token env with
  | .error e => (some (e.wrap "could not connect"), file)
  | .ok s =>
    let (err, _, file) := s.save env file
    (err.map (Err.wrap "could not save session"), file)

/-- The file after commands that each continue the session. -/
def runCommands (envs : List CliEnv) (file : SessionFile) : SessionFile :=
  envs.foldl (fun file env => (continueSession env file).2) file

end Sessions

section Account
variable {file : SessionFile} {url : String} {config : OAuth2Config}

/-- What a command makes of the token of its session: nothing if the token has run out and there
is no new one. -/
def CliEnv.keepToken (env : CliEnv) (config : OAuth2Config) (t : SessionToken) :
    Option SessionToken :=
  if validToken (some t) env.now then some t else (env.refresh config t.refreshToken).toOption

/-- The folder, the encoder, the file and the connection are all right. -/
structure CliEnv.Healthy (env : CliEnv) : Prop where
  mkdirAll : env.mkdirAll = none
  openFile : env.openFile = none
  encode : ∀ doc, env.encode doc = none
  write : env.write = none
  close : env.close = none
  dial : env.dial = none

theorem getToken_of_none (env : CliEnv) :
    (newOAuthAuthorizerFromConfig config none).getToken env =
      (.error errNoRefreshToken, newOAuthAuthorizerFromConfig config none) := rfl

theorem getToken_of_some (t : SessionToken) (env : CliEnv) :
    ((newOAuthAuthorizerFromConfig config (some t)).getToken env).1.toOption =
        env.keepToken config t ∧
      ∀ t', env.keepToken config t = some t' →
        ((newOAuthAuthorizerFromConfig config (some t)).getToken env).2.token = some t' := by
  unfold OAuthAuthorizer.getToken CliEnv.keepToken newOAuthAuthorizerFromConfig
  by_cases hvalid : validToken (some t) env.now = true
  · simp [Option.filter, hvalid, Except.toOption]
  · cases hrefresh : env.refresh config t.refreshToken with
    | error e => simp [Option.filter, hvalid, hrefresh, Except.toOption]
    | ok t' => simp [Option.filter, hvalid, hrefresh, Except.toOption]

/-- Saving a session writes the token that its authorizer has by then. -/
theorem save_of_healthy (s : Session) {env : CliEnv} (henv : env.Healthy) (file : SessionFile) :
    s.save env file = (none, ⟨s.url, s.config, (s.authorizer.getToken env).2, false⟩,
      .document ⟨s.url, (s.authorizer.getToken env).1.toOption, some s.config⟩) := by
  simp only [Session.save, henv.mkdirAll, henv.openFile, henv.encode, henv.write, henv.close,
    Session.marshalJSON]

/-- The token that the session and the file have once a command has continued the session. -/
theorem continueSession_of_document (t : Option SessionToken) {env : CliEnv}
    (henv : env.Healthy) :
    ∃ s, continueSession env (.document ⟨url, t, some config⟩) =
        (.ok s, .document ⟨url, t.bind (env.keepToken config), some config⟩) ∧ s.url = url ∧
      (∀ t', t.bind (env.keepToken config) = some t' → s.authorizer.token = some t') ∧
      (t = none → s.authorizer = newOAuthAuthorizerFromConfig config none) := by
  cases hvalid : validToken t env.now with
  | true =>
    -- the file is not touched
    obtain ⟨t,rfl⟩ : ∃ t', t = some t' := by
      cases t with
      | none => cases hvalid
      | some t => exact ⟨t, rfl⟩
    have hkeep : env.keepToken config t = some t := by rw [CliEnv.keepToken, if_pos hvalid]
    rw [Option.bind_some, hkeep]
    refine ⟨⟨url, config, newOAuthAuthorizerFromConfig config (some t), false⟩, ?_, rfl,
      fun t' ht' => ht', nofun⟩
    simp [continueSession, Session.unmarshalJSON, hvalid, henv.dial]
  | false =>
    have hsaved := save_of_healthy ⟨url, config, newOAuthAuthorizerFromConfig config t, true⟩ henv
      (.document ⟨url, t, some config⟩)
    refine ⟨⟨url, config, ((newOAuthAuthorizerFromConfig config t).getToken env).2, false⟩, ?_,
      rfl, ?_, ?_⟩
    · simp only [continueSession, Session.unmarshalJSON, hvalid, Bool.not_false, if_true, hsaved,
        henv.dial]
      cases t with
      | none => rfl
      | some t => rw [(getToken_of_some t env).1, Option.bind_some]
    · intro t' ht'
      cases t with
      | none => cases ht'
      | some t => exact (getToken_of_some t env).2 t' ht'
    · intro hnone
      rw [hnone, getToken_of_none]

theorem runCommands_document (envs : List CliEnv) (henvs : ∀ env ∈ envs, env.Healthy)
    (t : Option SessionToken) :
    runCommands envs (.document ⟨url, t, some config⟩) = .document
      ⟨url, t.bind (envs.foldlM (fun t env => env.keepToken config t)), some config⟩ := by
  induction envs generalizing t with
  | nil =>
    cases t with
    | none => rfl
    | some t => rfl
  | cons env envs ih =>
    obtain ⟨s,hcontinue,_⟩ := continueSession_of_document t (henvs env List.mem_cons_self)
    have hrest := ih (fun e he => henvs e (List.mem_cons_of_mem env he))
      (t.bind (env.keepToken config))
    calc runCommands (env :: envs) (.document ⟨url, t, some config⟩)
      _ = runCommands envs (continueSession env (.document ⟨url, t, some config⟩)).2 := rfl
      _ = runCommands envs (.document ⟨url, t.bind (env.keepToken config), some config⟩) := by
        rw [hcontinue]
      _ = _ := by
        rw [hrest, Option.bind_assoc]
        rfl

def sampleToken : SessionToken := ⟨⟨"bearer", "first"⟩, "refresh", some 3600⟩

/-- The token endpoint cannot be reached as long as the tool is offline. -/
def sampleEnv (now : Time) (offline : Bool) : CliEnv where
  now := now
  retrieveToken _ _ := if offline then .error ⟨none, "connection refused"⟩
    else .ok ⟨⟨"bearer", "second"⟩, "refresh", some (now + 3600)⟩
  mkdirAll := none
  openFile := none
  encode _ := none
  write := none
  close := none
  dial := none

theorem sampleEnv_healthy (now : Time) (offline : Bool) : (sampleEnv now offline).Healthy :=
  ⟨rfl, rfl, fun _ => rfl, rfl, rfl, rfl⟩

end Account
end Clouditor
