import Penguind.Desktop.Executors
import Penguind.Waddlebot.Forward
import Penguind.Waddlebot.RequestPath

/-!
# The session of the desktop client

A password is posted through the session proxy of the daemon, which sends it to the hub of the
session it already has. An OAuth login ends with a callback that brings a token, and reads its hub
from the keychain.
-/

namespace Penguind.Desktop

open Foundation Stateful Extplugin Waddlebot

inductive Code
  | failedPrecondition
  | internal
  deriving DecidableEq, Repr

structure Status where
  code : Code
  message : String
  deriving DecidableEq, Repr

/-- For a URL that the HTTP client does not send to, `refusal` is its error. -/
structure SessionLib (U : Type) extends WebLib U where
  parseError : String → String
  joinError : U → String → String
  refusal : U → String
  toVec : Value → Except String Bytes
  fromSlice : Bytes → Except String Value
  insecureDecode : String → Except String Value
  asBytes : String → Bytes
  fromUtf8 : Bytes → Option String
  base64Url : Bytes → String
  urlencode : String → String
  statusText : Status → String

structure Entry (U : Type) where
  bytes : Bytes
  issuer : Option U

structure Keychain (U : Type) where
  accessToken : Option (Entry U)
  refreshToken : Option (Entry U)
  hubBaseUrl : Option Bytes

structure Primed (U : Type) where
  creds : SessionCredentials U
  issuer : Option U

/-- The keychain, the slot, and the URLs the credentials were brought to. -/
structure Client (U : Type) where
  keychain : Keychain U
  daemon : Option (Primed U)
  contacted : List U

structure StoredSession where
  accessToken : String
  refreshToken : Option String
  hubBaseUrl : String
  deriving DecidableEq, Repr

inductive OAuthPlatform
  | google
  | gitHub
  | discord
  deriving DecidableEq, Repr

def OAuthPlatform.asStr : OAuthPlatform → String
  | .google => "google"
  | .gitHub => "github"
  | .discord => "discord"

structure CallbackParams where
  token : String
  state : String
  deriving DecidableEq, Repr

structure OAuthContext where
  state : String
  platform : String
  deriving DecidableEq, Repr

structure OAuthTokens where
  accessToken : String
  refreshToken : Option String
  deriving DecidableEq, Repr

/-- A read that fails is marked with its error. -/
structure World where
  proxied : Delivery
  answers : Answers
  setAccess : Delivery
  setRefresh : Delivery
  deleteRefresh : Delivery
  setHub : Delivery
  getAccess : Option String
  getRefresh : Option String
  getHub : Option String
  primed : Delivery
  random : Except String (Vector UInt8 32)

variable {U : Type} (L : SessionLib U) (w : World)

def proxyErrorToStatus (err : SessionProxyError) : Status :=
  if "no active session".toList <:+: err.display.toList then
    ⟨.failedPrecondition, "user session not set"⟩
  else ⟨.internal, "proxy error: " ++ err.display⟩

/-- Nothing is sent to a URL whose scheme is not http or https. -/
def reached (hub : U) (answers : Answers) : Answers :=
  if L.scheme hub ∈ sendableSchemes then answers
  else ⟨.failed (L.refusal hub), answers.refresh, .failed (L.refusal hub)⟩

def Client.forward (c : Client U) (req : HttpRequest) : Forwarded U :=
  forwardRequest L.toWebLib (c.daemon.map Primed.creds) req
    (match c.daemon with
      | some p => reached L p.creds.hubBaseUrl w.answers
      | none => w.answers)

def Client.afterForward (c : Client U) (req : HttpRequest) : Client U :=
  let f := c.forward L w req
  { c with
    daemon := f.slot.map fun creds => ⟨creds, c.daemon.bind Primed.issuer⟩
    contacted := c.contacted ++
      (f.sent.map Outgoing.url).filter fun url => L.scheme url ∈ sendableSchemes }

def proxyRequest (req : HttpRequest) : Stateful (Client U) DesktopError HttpResponse :=
  remote w.proxied (fun e => .grpcError ("ProxyRequest failed: " ++ e)) do
    let c ← get
    modify fun c => c.afterForward L w req
    Stateful.ofExcept
      (fun e => .grpcError ("ProxyRequest failed: " ++ L.statusText (proxyErrorToStatus e)))
      (c.forward L w req).result

def setUserSession (accessToken : String) (refreshToken : Option String) (hubBaseUrl : String) :
    Stateful (Client U) DesktopError Unit :=
  remote w.primed (fun e => .grpcError ("SetUserSession failed: " ++ e)) do
    let creds ← Stateful.ofExcept
      (fun e => .grpcError ("SetUserSession failed: " ++ L.statusText (proxyErrorToStatus e)))
      (sessionCredentials L.toWebLib accessToken (refreshToken.filter (· ≠ "")) hubBaseUrl)
    modify fun c => { c with daemon := some ⟨creds, c.contacted.getLast?⟩ }

/-! ## The keychain -/

namespace TokenStore

def read {α : Type} (failure : Option String) (value : Option α) : Except String α :=
  match failure, value with
  | some e, _ => .error e
  | none, some a => .ok a
  | none, none => .error "secret not found"

/-- A token that cannot be deleted stays. -/
def storeRefresh : Option String → Stateful (Client U) DesktopError Unit
  | some refresh =>
    remote w.setRefresh (fun e => .keychainError ("failed to store refresh token: " ++ e))
      (modify fun c => { c with
        keychain.refreshToken := some ⟨L.asBytes refresh, c.contacted.getLast?⟩ })
  | none =>
    attempt (remote w.deleteRefresh (fun e => e)
      (modify fun c => { c with keychain.refreshToken := none }))

def store (session : StoredSession) : Stateful (Client U) DesktopError Unit := do
  let _ ← ofOption (.urlError (L.parseError session.hubBaseUrl)) (L.parse session.hubBaseUrl)
  remote w.setAccess (fun e => .keychainError ("failed to store access token: " ++ e))
    (modify fun c => { c with
      keychain.accessToken := some ⟨L.asBytes session.accessToken, c.contacted.getLast?⟩ })
  storeRefresh L w session.refreshToken
  remote w.setHub (fun e => .keychainError ("failed to store hub URL: " ++ e))
    (modify fun c => { c with keychain.hubBaseUrl := some (L.asBytes session.hubBaseUrl) })

def loadRefresh (keychain : Keychain U) : Except DesktopError (Option String) :=
  match read w.getRefresh keychain.refreshToken with
  | .error _ => .ok none
  | .ok entry =>
    if entry.bytes = [] then .ok none
    else
      match L.fromUtf8 entry.bytes with
      | some refresh => .ok (some refresh)
      | none => .error (.keychainError "invalid refresh token encoding")

def load : Stateful (Client U) DesktopError StoredSession := do
  let c ← get
  let entry ← Stateful.ofExcept (fun e => .keychainError ("failed to load access token: " ++ e))
    (read w.getAccess c.keychain.accessToken)
  let accessToken ← ofOption (.keychainError "invalid access token encoding")
    (L.fromUtf8 entry.bytes)
  ensure (accessToken ≠ "") .noSession
  let refreshToken ← Stateful.ofExcept id (loadRefresh L w c.keychain)
  let hubBytes ← Stateful.ofExcept (fun e => .keychainError ("failed to load hub URL: " ++ e))
    (read w.getHub c.keychain.hubBaseUrl)
  let hubBaseUrl ← ofOption (.keychainError "invalid hub URL encoding") (L.fromUtf8 hubBytes)
  ensure (hubBaseUrl ≠ "") .noSession
  pure ⟨accessToken, refreshToken, hubBaseUrl⟩

end TokenStore

def adopt (session : StoredSession) : Stateful (Client U) DesktopError Unit := do
  TokenStore.store L w session
  setUserSession L w session.accessToken session.refreshToken session.hubBaseUrl

def loginPath : String := "/api/v1/auth/login"

def loginBody (email password : String) : Value :=
  .object [("email", .string email), ("password", .string password)]

def loginRequest (body : Bytes) : HttpRequest :=
  ⟨"POST", loginPath, [("content-type", "application/json")], body⟩

def loginTokens (response : HttpResponse) : Except DesktopError OAuthTokens :=
  if response.status ≠ 200 then .error (.apiRequest response.status)
  else
    match L.fromSlice response.body with
    | .error _ => .error .invalidCredentials
    | .ok json =>
      match (json.get "access_token").bind Value.asStr with
      | none => .error .invalidCredentials
      | some accessToken =>
        .ok ⟨accessToken, (json.get "refresh_token").bind Value.asStr⟩

def login (hubUrl email password : String) : Stateful (Client U) DesktopError Unit := do
  let body ← Stateful.ofExcept (fun e => .internal ("failed to serialize login body: " ++ e))
    (L.toVec (loginBody email password))
  let response ← proxyRequest L w (loginRequest body)
  let tokens ← Stateful.ofExcept id (loginTokens L response)
  adopt L w ⟨tokens.accessToken, tokens.refreshToken, hubUrl⟩

def generateOauthState : Except DesktopError String :=
  match w.random with
  | .ok bytes => .ok (L.base64Url bytes.toList)
  | .error e => .error (.internal ("RNG error: " ++ e))

/-- In the same time for all texts of one length. -/
def verifyOauthState (callbackState storedState : String) : Bool :=
  callbackState = storedState

def authorizePath (platform : OAuthPlatform) : String := "/api/v1/auth/oauth/" ++ platform.asStr

def oauthStart (hubBaseUrl : String) (platform : OAuthPlatform) :
    Stateful (Client U) DesktopError (String × OAuthContext) := do
  let hubUrl ← ofOption (.urlError ("invalid hub URL: " ++ L.parseError hubBaseUrl))
    (L.parse hubBaseUrl)
  let state ← Stateful.ofExcept id (generateOauthState L w)
  let authorizeUrl ← ofOption
    (.urlError ("failed to build authorize URL: " ++ L.joinError hubUrl (authorizePath platform)))
    (L.join hubUrl (authorizePath platform))
  modify fun c => { c with contacted := c.contacted ++ [authorizeUrl] }
  pure (L.display authorizeUrl ++ "?state=" ++ L.urlencode state, ⟨state, platform.asStr⟩)

def extractTokensFromJwt (jwt : String) : Except DesktopError OAuthTokens :=
  match L.insecureDecode jwt with
  | .error e => .error (.oauthError ("failed to decode JWT: " ++ e))
  | .ok claims =>
    match ((claims.get "access_token").or (claims.get "token")).bind Value.asStr with
    | none => .error (.oauthError "access_token not found in JWT")
    | some accessToken =>
      .ok ⟨accessToken, (claims.get "refresh_token").bind Value.asStr⟩

def completeOauth (params : CallbackParams) (storedState : String) :
    Except DesktopError OAuthTokens :=
  if ¬ verifyOauthState params.state storedState then
    .error (.invalidCallback "state mismatch (CSRF or forged callback)")
  else extractTokensFromJwt L params.token

def oauthComplete (params : CallbackParams) (storedState : String) :
    Stateful (Client U) DesktopError Unit := do
  let tokens ← Stateful.ofExcept id (completeOauth L params storedState)
  let session ← TokenStore.load L w
  adopt L w ⟨tokens.accessToken, tokens.refreshToken, session.hubBaseUrl⟩

/-! ## Runs that succeed -/

variable {L w} {c t : Client U} {session : StoredSession}

theorem ends_proxyRequest {req : HttpRequest} {response : HttpResponse} :
    Ends (proxyRequest L w req) c response t ↔ w.proxied = .delivered ∧
      (c.forward L w req).result = .ok response ∧ c.afterForward L w req = t := by
  simp [proxyRequest, ends_bind]

def refreshEntry (L : SessionLib U) (w : World) (refresh : Option String) (issuer : Option U)
    (old : Option (Entry U)) : Option (Entry U) :=
  match refresh, w.deleteRefresh with
  | some refresh, _ => some ⟨L.asBytes refresh, issuer⟩
  | none, .requestLost _ => old
  | none, _ => none

theorem ends_storeRefresh {refresh : Option String} {v : Unit} :
    Ends (TokenStore.storeRefresh L w refresh) c v t ↔
      (refresh.isSome → w.setRefresh = .delivered) ∧
        { c with keychain.refreshToken :=
            refreshEntry L w refresh c.contacted.getLast? c.keychain.refreshToken } = t := by
  cases refresh with
  | some refresh => simp [TokenStore.storeRefresh, refreshEntry]
  | none =>
    simp only [TokenStore.storeRefresh, ends_attempt, Option.isSome_none, Bool.false_eq_true,
      false_implies, true_and]
    cases hd : w.deleteRefresh <;> simp only [refreshEntry, hd] <;> rfl

def Keychain.written (L : SessionLib U) (w : World) (session : StoredSession) (issuer : Option U)
    (k : Keychain U) : Keychain U where
  accessToken := some ⟨L.asBytes session.accessToken, issuer⟩
  refreshToken := refreshEntry L w session.refreshToken issuer k.refreshToken
  hubBaseUrl := some (L.asBytes session.hubBaseUrl)

def Stores (w : World) (session : StoredSession) : Prop :=
  w.setAccess = .delivered ∧ (session.refreshToken.isSome → w.setRefresh = .delivered) ∧
    w.setHub = .delivered

theorem ends_store {v : Unit} : Ends (TokenStore.store L w session) c v t ↔
    (L.parse session.hubBaseUrl).isSome ∧ Stores w session ∧
      { c with keychain := c.keychain.written L w session c.contacted.getLast? } = t := by
  simp [TokenStore.store, ends_bind, ends_storeRefresh, Stores, Keychain.written,
    Option.isSome_iff_exists, and_assoc]

def Client.adopted (L : SessionLib U) (w : World) (c : Client U) (session : StoredSession)
    (hub : U) : Client U where
  keychain := c.keychain.written L w session c.contacted.getLast?
  daemon := some ⟨⟨session.accessToken, session.refreshToken.filter (· ≠ ""), hub⟩,
    c.contacted.getLast?⟩
  contacted := c.contacted

theorem parse_of_checkHub {U : Type} {L : WebLib U} {hubUrl : String} {hub : U}
    (h : checkHub L hubUrl = .ok hub) : L.parse hubUrl = some hub := by
  unfold checkHub at h
  cases hp : L.parse hubUrl with
  | none => simp [hp] at h
  | some parsed =>
    simp only [hp] at h
    split_ifs at h
    exact congrArg some (Except.ok.inj h)

theorem ends_adopt {v : Unit} : Ends (adopt L w session) c v t ↔
    Stores w session ∧ w.primed = .delivered ∧
      ∃ hub, checkHub L.toWebLib session.hubBaseUrl = .ok hub ∧
        c.adopted L w session hub = t := by
  simp only [adopt, ends_bind, ends_store, setUserSession, ends_remote, ends_ofExcept, ends_modify,
    sessionCredentials]
  constructor
  · rintro ⟨-, _, ⟨-, hstores, rfl⟩, hprimed, creds, _, ⟨hcreds, rfl⟩, rfl⟩
    cases hhub : checkHub L.toWebLib session.hubBaseUrl with
    | error e => simp [hhub, Except.map] at hcreds
    | ok hub =>
      simp only [hhub, Except.map, Except.ok.injEq] at hcreds
      exact ⟨hstores, hprimed, hub, rfl, by simp [Client.adopted, ← hcreds]⟩
  · rintro ⟨hstores, hprimed, hub, hhub, rfl⟩
    refine ⟨(), _, ⟨?_, hstores, rfl⟩, hprimed, _, _, ⟨by rw [hhub]; rfl, rfl⟩, rfl⟩
    rw [parse_of_checkHub hhub]
    rfl

theorem ends_login {hubUrl email password : String} :
    Ends (login L w hubUrl email password) c () t ↔ ∃ body response tokens,
      L.toVec (loginBody email password) = .ok body ∧ w.proxied = .delivered ∧
        (c.forward L w (loginRequest body)).result = .ok response ∧
        loginTokens L response = .ok tokens ∧
        Ends (adopt L w ⟨tokens.accessToken, tokens.refreshToken, hubUrl⟩)
          (c.afterForward L w (loginRequest body)) () t := by
  rw [login]
  simp only [↓ends_ofExcept_bind, ends_bind, ends_proxyRequest]
  constructor
  · rintro ⟨body, hbody, response, _, ⟨hprox, hres, rfl⟩, tokens, htok, h⟩
    exact ⟨body, response, tokens, hbody, hprox, hres, htok, h⟩
  · rintro ⟨body, response, tokens, hbody, hprox, hres, htok, h⟩
    exact ⟨body, hbody, response, _, ⟨hprox, hres, rfl⟩, tokens, htok, h⟩

def Keychain.StoresHub (L : SessionLib U) (k : Keychain U) (hubUrl : String) : Prop :=
  (∃ entry ∈ k.accessToken, ∃ token ≠ "", L.fromUtf8 entry.bytes = some token) ∧
    (∃ bytes ∈ k.hubBaseUrl, L.fromUtf8 bytes = some hubUrl) ∧ hubUrl ≠ ""

@[simp] theorem read_eq_ok {α : Type} {failure : Option String} {value : Option α} {a : α} :
    TokenStore.read failure value = .ok a ↔ failure = none ∧ value = some a := by
  cases failure <;> cases value <;> simp [TokenStore.read]

theorem storesHub_of_ends_load (h : Ends (TokenStore.load L w) c session t) :
    c = t ∧ c.keychain.StoresHub L session.hubBaseUrl := by
  simp only [TokenStore.load, ends_get_bind, ends_ofExcept_bind, ends_ofOption_bind,
    ends_ensure_bind, ends_pure, read_eq_ok] at h
  obtain ⟨entry, ⟨-, hentry⟩, token, htoken, hne, _, -, bytes, ⟨-, hbytes⟩, hubUrl, hhub, hhubne,
    rfl, rfl⟩ := h
  exact ⟨rfl, ⟨entry, hentry, token, hne, htoken⟩, ⟨bytes, hbytes, hhub⟩, hhubne⟩

theorem exists_ends_load {hubUrl : String} (h : c.keychain.StoresHub L hubUrl)
    (haccess : w.getAccess = none) (hrefresh : w.getRefresh.isSome) (hhub : w.getHub = none) :
    ∃ session, Ends (TokenStore.load L w) c session c ∧ session.hubBaseUrl = hubUrl := by
  obtain ⟨⟨entry, hentry, token, hne, htoken⟩, ⟨bytes, hbytes, hhubUrl⟩, hhubne⟩ := h
  obtain ⟨e, he⟩ := Option.isSome_iff_exists.mp hrefresh
  have hnone : TokenStore.loadRefresh L w c.keychain = .ok none := by
    simp [TokenStore.loadRefresh, TokenStore.read, he]
  refine ⟨⟨token, none, hubUrl⟩, ?_, rfl⟩
  simp only [TokenStore.load, ends_get_bind, ends_ofExcept_bind, ends_ofOption_bind,
    ends_ensure_bind, ends_pure, read_eq_ok]
  exact ⟨entry, ⟨haccess, hentry⟩, token, htoken, hne, none, hnone, bytes, ⟨hhub, hbytes⟩, hubUrl,
    hhubUrl, hhubne, rfl, trivial⟩

theorem ends_oauthComplete {params : CallbackParams} {storedState : String} {v : Unit} :
    Ends (oauthComplete L w params storedState) c v t ↔ ∃ tokens session u,
      completeOauth L params storedState = .ok tokens ∧ Ends (TokenStore.load L w) c session u ∧
        Ends (adopt L w ⟨tokens.accessToken, tokens.refreshToken, session.hubBaseUrl⟩) u v t := by
  rw [oauthComplete]
  simp only [↓ends_ofExcept_bind, ends_bind, exists_and_left]

theorem ends_oauthStart {hubUrl : String} {platform : OAuthPlatform} {r : String × OAuthContext} :
    Ends (oauthStart L w hubUrl platform) c r t ↔ ∃ hub state authorizeUrl,
      L.parse hubUrl = some hub ∧ generateOauthState L w = .ok state ∧
        L.join hub (authorizePath platform) = some authorizeUrl ∧
        { c with contacted := c.contacted ++ [authorizeUrl] } = t ∧
        (L.display authorizeUrl ++ "?state=" ++ L.urlencode state,
          OAuthContext.mk state platform.asStr) = r := by
  simp only [oauthStart, ends_ofOption_bind, ends_ofExcept_bind, ends_modify_bind, ends_pure,
    exists_and_left, and_comm]

/-! ## What every run keeps -/

section Keeps

variable {P : Client U → Prop}

theorem keeps_proxyRequest {req : HttpRequest} (h : ∀ c, P c → P (c.afterForward L w req)) :
    Keeps P (proxyRequest L w req) :=
  keeps_remote _ _ (keeps_bind keeps_get fun _ =>
    keeps_bind (keeps_modify h) fun _ => keeps_ofExcept _ _)

theorem keeps_store (h : ∀ c k, P c → P { c with keychain := k }) :
    Keeps P (TokenStore.store L w session) := by
  have hrefresh : Keeps P (TokenStore.storeRefresh L w session.refreshToken) := by
    cases session.refreshToken with
    | some refresh => exact keeps_remote _ _ (keeps_modify fun c => h c _)
    | none => exact keeps_attempt (keeps_remote _ _ (keeps_modify fun c => h c _))
  refine keeps_bind (keeps_ofOption _ _) fun _ => ?_
  refine keeps_bind (keeps_remote _ _ (keeps_modify fun c => h c _)) fun _ => ?_
  exact keeps_bind hrefresh fun _ => keeps_remote _ _ (keeps_modify fun c => h c _)

theorem keeps_adopt (hk : ∀ c k, P c → P { c with keychain := k })
    (hd : ∀ c (p : Primed U), checkHub L.toWebLib session.hubBaseUrl = .ok p.creds.hubBaseUrl →
      P c → P { c with daemon := some p }) :
    Keeps P (adopt L w session) := by
  refine keeps_bind (keeps_store hk) fun _ => keeps_remote _ _ ?_
  refine keeps_bind_of_ends (keeps_ofExcept _ _) fun _ creds _ h => keeps_modify fun c => hd c _ ?_
  obtain ⟨h, -⟩ := ends_ofExcept.mp h
  unfold sessionCredentials at h
  cases hhub : checkHub L.toWebLib session.hubBaseUrl with
  | error e => simp [hhub, Except.map] at h
  | ok hub =>
    simp only [hhub, Except.map, Except.ok.injEq] at h
    rw [← h]

theorem keeps_load : Keeps P (TokenStore.load L w) :=
  keeps_bind keeps_get fun _ => keeps_bind (keeps_ofExcept _ _) fun _ =>
    keeps_bind (keeps_ofOption _ _) fun _ => keeps_bind (keeps_ensure _ _) fun _ =>
      keeps_bind (keeps_ofExcept _ _) fun _ => keeps_bind (keeps_ofExcept _ _) fun _ =>
        keeps_bind (keeps_ofOption _ _) fun _ => keeps_bind (keeps_ensure _ _) fun _ =>
          keeps_pure _

end Keeps

end Penguind.Desktop
