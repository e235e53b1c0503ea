import Penguind.Tobogganing.Effects

/-!
# The VPN module

The managers and the module as programs over the effects, and the machine that runs their calls
and background tasks at once. A lock is released however its holder ends. A round of a loop starts
the next one as a new task.
-/

namespace Penguind.Tobogganing

open Foundation

abbrev Op (ε A : Type) := ProgE ε Effect Answer A

variable {ε A : Type}

abbrev call (e : Effect) : Op ε (Answer e) := ProgE.call e

def withAuth (body : Op ε A) : Op ε A := ProgE.bracket .lockAuth .unlockAuth body

def withVpn (body : Op ε A) : Op ε A := ProgE.bracket .lockVpn .unlockVpn body

/-! ## The auth manager -/

inductive AuthError
  | noApiKey (text : String)
  | request (text : String)
  | status (code : Nat) (body : String)
  | decode (text : String)
  deriving DecidableEq, Repr

def AuthError.display : AuthError → String
  | .noApiKey text => "no API key found: " ++ text
  | .request text => "request failed: " ++ text
  | .status code body => "request failed with status " ++ toString code ++ ": " ++ body
  | .decode text => "failed to parse response: " ++ text

def unixSecondsToSystemTime (seconds : Int) : SystemTime := Duration.fromSecs seconds

def extractExpiry (L : Lib) (token : String) : Option SystemTime :=
  (L.decodeExp token).map unixSecondsToSystemTime

def isExpiredAt (expiresAt now : SystemTime) (threshold : Duration) : Bool :=
  if now ≤ expiresAt then expiresAt - now < threshold else true

def applied (L : Lib) (state : TokenState) (response : TokenResponse)
    (overwriteRefreshUnconditionally : Bool) : TokenState where
  accessToken := response.accessToken
  refreshToken :=
    -- an obtained pair replaces the old one, a refresh may keep the refresh token
    if overwriteRefreshUnconditionally || response.refreshToken ≠ "" then response.refreshToken
    else state.refreshToken
  expiresAt :=
    match response.expiresAt with
    | some seconds => unixSecondsToSystemTime seconds
    | none => (extractExpiry L response.accessToken).getD 0

namespace AuthManager

variable (L : Lib) (cfg : ModuleConfig)

def getApiKey : Op AuthError String := do
  let value ← call (.getSecret .apiKey)
  ProgE.ofExcept (value.mapError AuthError.noApiKey)

def readTokenReply : Except String Reply → Except AuthError TokenResponse
  | .error text => .error (.request text)
  | .ok reply =>
    if reply.isSuccess then (L.decodeTokenResponse reply.body).mapError AuthError.decode
    else .error (.status reply.status reply.body)

def postToken (request : Request) : Op AuthError TokenResponse := do
  let reply ← call (.http request)
  ProgE.ofExcept (readTokenReply L reply)

def applyResponse (state : TokenState) (response : TokenResponse)
    (overwriteRefreshUnconditionally : Bool) : Op ε Unit := do
  call (.writeAuth (applied L state response overwriteRefreshUnconditionally))
  let _ ← call (.setSecret .accessToken response.accessToken)
  if response.refreshToken = "" then pure ()
  else do
    let _ ← call (.setSecret .refreshToken response.refreshToken)
    pure ()

def refreshLocked (state : TokenState) : Op AuthError Unit := do
  let response ←
    postToken L (.refresh (cfg.managerUrl ++ "/api/v1/auth/refresh") state.refreshToken)
  applyResponse L state response false

def obtainLocked (state : TokenState) (apiKey : String) : Op AuthError Unit := do
  let response ← postToken L (.obtain (cfg.managerUrl ++ "/api/v1/auth/token") apiKey)
  applyResponse L state response true

def isValid (state : TokenState) : Op ε Bool :=
  if state.accessToken = "" then pure false
  else do
    let now ← call .now
    pure !(isExpiredAt state.expiresAt now 0)

def tryRefresh (state : TokenState) : Op AuthError Bool :=
  if state.refreshToken = "" then pure false
  else do
    let result : Except AuthError Unit ← ProgE.attempt (refreshLocked L cfg state)
    pure result.isOk

def ensureValidToken : Op AuthError Unit := withAuth do
  let state ← call .readAuth
  let valid ← isValid state
  if valid then pure ()
  else do
    let refreshed ← tryRefresh L cfg state
    if refreshed then pure ()
    else do
      let apiKey ← getApiKey
      obtainLocked L cfg state apiKey

def isTokenExpired (threshold : Duration) : Op ε Bool := withAuth do
  let state ← call .readAuth
  if state.accessToken = "" then pure true
  else do
    let now ← call .now
    pure (isExpiredAt state.expiresAt now threshold)

def token : Op ε String := withAuth do
  let state ← call .readAuth
  pure state.accessToken

def readRevokeReply : Except String Reply → Except AuthError Unit
  | .error text => .error (.request text)
  | .ok reply => if reply.isSuccess then .ok () else .error (.status reply.status "")

/-- The lock is not held while the manager is asked; failures of the store are ignored. -/
def revokeToken : Op AuthError Unit := do
  let token ← token
  if token = "" then pure ()
  else do
    let reply ← call (.http (.revoke (cfg.managerUrl ++ "/api/v1/auth/revoke") token))
    -- if the manager refuses, the cached copies are kept
    ProgE.ofExcept (readRevokeReply reply)
    withAuth (call (.writeAuth default))
    let _ ← call (.deleteSecret .accessToken)
    let _ ← call (.deleteSecret .refreshToken)
    pure ()

end AuthManager

/-! ## The VPN manager -/

inductive VpnError
  | noToken
  | alreadyConnected
  | notConnected
  | request (text : String)
  | status (code : Nat) (body : String)
  | decode (text : String)
  | invalidConfig (text : String)
  | backend (text : String)
  deriving DecidableEq, Repr

def VpnError.display : VpnError → String
  | .noToken => "no valid token"
  | .alreadyConnected => "already connected"
  | .notConnected => "not connected"
  | .request text => "request failed: " ++ text
  | .status code body => "request failed with status " ++ toString code ++ ": " ++ body
  | .decode text => "failed to parse response: " ++ text
  | .invalidConfig text => "invalid tunnel config: " ++ text
  | .backend text => text

namespace VpnManager

variable (L : Lib) (cfg : ModuleConfig)

def parseField (parse : String → Option A) (field raw : String) : Except VpnError A :=
  match parse raw with
  | some a => .ok a
  | none => .error (.invalidConfig ("invalid " ++ field ++ " entry " ++ L.debug raw))

/-- Lists the manager leaves empty come from the configuration. -/
def buildTunnelSpec (privateKey : Key) (config : TunnelConfigResponse) :
    Except VpnError TunnelSpec := do
  let clientAddress ← parseField L L.parseIpAddrMask "tunnel_address" config.tunnelAddress
  let peerPublicKey ←
    match L.parseKey config.serverPublicKey with
    | some key => .ok key
    | none => .error (.invalidConfig "invalid server_public_key")
  let endpoint ←
    match L.parseSocketAddr config.serverEndpoint with
    | some endpoint => .ok endpoint
    | none =>
      .error (.invalidConfig
        ("server_endpoint " ++ L.debug config.serverEndpoint ++ " is not a literal ip:port"))
  let allowedIps ←
    (if config.allowedIps = [] then cfg.allowedIps else config.allowedIps).mapM
      (parseField L L.parseIpAddrMask "allowed_ips")
  let dns ←
    (if config.dns = [] then cfg.dns else config.dns).mapM (parseField L L.parseIpAddr "dns")
  pure
    { privateKey, clientAddress, peerPublicKey, endpoint, allowedIps, dns
      mtu := cfg.mtu
      keepalive := if cfg.keepalive = 0 then none else some (Duration.fromSecs cfg.keepalive) }

def readConfigReply : Except String Reply → Except VpnError TunnelConfigResponse
  | .error text => .error (.request text)
  | .ok reply =>
    if reply.isSuccess then (L.decodeTunnelConfig reply.body).mapError VpnError.decode
    else .error (.status reply.status reply.body)

def fetchTunnelConfig (publicKey : Key) : Op VpnError TunnelConfigResponse := do
  let token ← AuthManager.token
  if token = "" then throw .noToken
  else do
    let reply ← call (.http (.config (cfg.managerUrl ++ "/api/v1/config") token publicKey))
    ProgE.ofExcept (readConfigReply L reply)

def isConnected : Op ε Bool := withVpn do
  let state ← call .readVpn
  pure state.connected

def connect : Op VpnError Unit := withVpn do
  let state ← call .readVpn
  if state.connected then throw .alreadyConnected
  else do
    let privateKey ← call .generateKey
    let tunnelConfig ← fetchTunnelConfig L cfg (L.publicKey privateKey)
    let spec ← ProgE.ofExcept (buildTunnelSpec L cfg privateKey tunnelConfig)
    let result ← call (.apply cfg.interfaceName spec)
    ProgE.ofExcept (result.mapError VpnError.backend)
    call (.writeVpn ⟨true, some privateKey⟩)

def disconnect : Op VpnError Unit := withVpn do
  let state ← call .readVpn
  if state.connected then do
    let result ← call (.teardown cfg.interfaceName)
    ProgE.ofExcept (result.mapError VpnError.backend)
    call (.writeVpn ⟨false, none⟩)
  else pure ()

def rotate : Op VpnError Unit := withVpn do
  let state ← call .readVpn
  match state.privateKey with
  | none => throw .notConnected
  | some privateKey => do
    let tunnelConfig ← fetchTunnelConfig L cfg (L.publicKey privateKey)
    let spec ← ProgE.ofExcept (buildTunnelSpec L cfg privateKey tunnelConfig)
    let result ← call (.apply cfg.interfaceName spec)
    ProgE.ofExcept (result.mapError VpnError.backend)

end VpnManager

section

variable (L : Lib) (cfg : ModuleConfig)

abbrev ModuleError := String

def updateHealthProbe : Op ε Unit := do
  let connected ← VpnManager.isConnected
  if connected then do
    let _ ← call (.peerStats cfg.interfaceName)
    pure ()
  else pure ()

def establishTunnel : Op ModuleError Unit := do
  let running : Bool ← call .isRunning
  if running then do
    ProgE.mapError (fun err => "failed to obtain token: " ++ err.display)
      (AuthManager.ensureValidToken L cfg)
    let result : Except VpnError Unit ← ProgE.attempt (VpnManager.connect L cfg)
    match result with
    | .ok _ => pure ()
    | .error err => do
      call (.inc .connectionErrors)
      throw ("failed to establish tunnel: " ++ err.display)
  else throw "module not running"

def reportedConnect : Op ModuleError Unit := do
  let result : Except ModuleError Unit ← ProgE.attempt (establishTunnel L cfg)
  call (.report result)

def initialConnect : Op ModuleError Unit := reportedConnect L cfg

def cmdConnect : Op ModuleError Unit := reportedConnect L cfg

def cmdDisconnect : Op ModuleError Unit := do
  let result : Except VpnError Unit ← ProgE.attempt (VpnManager.disconnect cfg)
  ProgE.ofExcept (result.mapError fun err => "disconnection failed: " ++ err.display)

def start : Op ModuleError Unit := do
  let wasRunning : Bool ← call (.swapRunning true)
  if wasRunning then throw "module already running"
  else do
    let cancel ← call .newCancel
    call (.spawn (.monitorLoop cancel))
    call (.spawn (.authRefreshLoop cancel))
    updateHealthProbe cfg
    -- not part of the start, so a stop may come first
    call (.spawn .initialConnect)

def stopResult (disconnected : Except VpnError Unit) (revoked : Except AuthError Unit) :
    Except ModuleError Unit :=
  let errors :=
    (match disconnected with
      | .error err => ["disconnect: " ++ err.display]
      | .ok _ => []) ++
    (match revoked with
      | .error err => ["revoke: " ++ err.display]
      | .ok _ => [])
  if errors = [] then .ok () else .error ("stop errors: " ++ "; ".intercalate errors)

/-- Tears down the tunnel and the token, each even if the other fails. -/
def stop : Op ModuleError Unit := do
  let wasRunning : Bool ← call (.swapRunning false)
  if wasRunning then do
    call .takeCancel
    -- the background tasks are told to end but not waited for
    let disconnected : Except VpnError Unit ← ProgE.attempt (VpnManager.disconnect cfg)
    let revoked : Except AuthError Unit ← ProgE.attempt (AuthManager.revokeToken cfg)
    call (.stopReturns (stopResult disconnected revoked))
  else call (.stopReturns (.ok ()))

def authRefreshThreshold : Duration := Duration.fromSecs 300

def authRefreshTick : Op ModuleError Unit := do
  let expired ← AuthManager.isTokenExpired authRefreshThreshold
  if expired then do
    let result : Except AuthError Unit ← ProgE.attempt (AuthManager.ensureValidToken L cfg)
    match result with
    | .error _ => call (.inc .connectionErrors)
    | .ok _ => call (.inc .tokenRefreshes)
  else pure ()

def authRefreshLoop (cancel : CancelToken) : Op ModuleError Unit := do
  let selected ← call (.select .authRefresh cancel)
  match selected with
  | .cancelled => pure ()
  | .tick => do
    authRefreshTick L cfg
    call (.spawn (.authRefreshLoop cancel))

def monitorTick : Op ModuleError Unit := do
  updateHealthProbe cfg
  let connected ← VpnManager.isConnected
  -- the state may change between the look and the attempt; `connect` looks again
  if connected then pure () else reportedConnect L cfg

def monitorLoop (cancel : CancelToken) : Op ModuleError Unit := do
  let selected ← call (.select .monitor cancel)
  match selected with
  | .cancelled => pure ()
  | .tick => do
    monitorTick L cfg
    call (.spawn (.monitorLoop cancel))

def taskCode : TaskName → Op ModuleError Unit
  | .start => start cfg
  | .stop => stop cfg
  | .cmdConnect => cmdConnect L cfg
  | .cmdDisconnect => cmdDisconnect cfg
  | .initialConnect => initialConnect L cfg
  | .monitorLoop cancel => monitorLoop L cfg cancel
  | .authRefreshLoop cancel => authRefreshLoop L cfg cancel

def taskCallable : TaskName → Bool
  | .start | .stop | .cmdConnect | .cmdDisconnect => true
  | .initialConnect | .monitorLoop _ | .authRefreshLoop _ => false

def forks : Effect → List TaskName
  | .spawn task => [task]
  | _ => []

def tasks {M : Type} (entry : M) (next : M → (e : Effect) → Answer e → Option M) :
    TaskMachine World Effect Answer TaskName (Except ModuleError Unit) M where
  act := act
  code := taskCode L cfg
  forks := forks
  callable := taskCallable
  entry := entry
  next := next

end

/-- Tokens may have been loaded from the secret store. -/
structure World.Initial (w : World) : Prop where
  running : w.running = false
  stopped : w.stopped = false
  raised : w.raised = false

end Penguind.Tobogganing
