import Mathlib.Data.List.AList
import Mathlib.Data.List.Infix
import Penguind.Foundation.Json
import Penguind.Foundation.Run

/-!
# The user-session proxy

The proxy holds the credentials of one session; a request works on a copy of them. On `401` it
refreshes the access token, writes it into the slot, takes a new copy and retries once.
-/

namespace Penguind.Waddlebot

open Foundation

structure WebLib (U : Type) where
  parse : String → Option U
  join : U → String → Option U
  scheme : U → String
  hostStr : U → Option String
  display : U → String
  toUppercase : String → String
  toLowercase : String → String

structure SessionCredentials (U : Type) where
  accessToken : String
  refreshToken : Option String
  hubBaseUrl : U

inductive SessionProxyError
  | noSession
  | invalidUrl
  | hubRequest (message : String)
  | tokenRefresh (message : String)
  | invalidCredentials
  deriving DecidableEq, Repr

def SessionProxyError.display : SessionProxyError → String
  | .noSession => "no active session"
  | .invalidUrl => "invalid hub base url"
  | .hubRequest message => "hub request failed: " ++ message
  | .tokenRefresh message => "token refresh failed: " ++ message
  | .invalidCredentials => "invalid credentials"

structure HttpRequest where
  method : String
  path : String
  headers : List (String × String)
  body : List UInt8
  deriving DecidableEq, Repr

structure HttpResponse where
  status : UInt16
  headers : List (String × String)
  body : List UInt8
  deriving DecidableEq, Repr

section Checks

variable {U : Type} (L : WebLib U)

def loopbackHosts : List String := ["127.0.0.1", "::1", "localhost"]

def checkHub (hubBaseUrl : String) : Except SessionProxyError U :=
  match L.parse hubBaseUrl with
  | none => .error .invalidUrl
  | some parsed =>
    let isHttps := L.scheme parsed = "https"
    let isLoopback := ∃ host ∈ loopbackHosts, L.hostStr parsed = some host
    if ¬ isHttps ∧ ¬ isLoopback then
      .error (.hubRequest "plaintext Bearer transport forbidden to non-loopback hosts")
    else .ok parsed

def pathChecks (path : List Char) : List (Bool × String) :=
  [(¬ "/".toList <+: path, "path must be absolute"),
    (¬ "/api/v1/".toList <+: path, "path must start with /api/v1/"),
    ('@' ∈ path, "path contains invalid character"),
    ("//".toList <+: path, "path cannot start with //"),
    ("..".toList <:+: path, "path traversal detected"),
    ("://".toList <:+: path, "path cannot contain scheme")]

def validateRequestPath (path : String) : Except SessionProxyError Unit :=
  match (pathChecks path.toList).find? (·.1) with
  | some (_, message) => .error (.hubRequest message)
  | none => .ok ()

def isForwardableHeader (name : String) : Bool :=
  L.toLowercase name ∈ ["content-type", "accept", "accept-language", "accept-encoding",
    "x-request-id", "x-correlation-id", "user-agent"]

def isHopByHopHeader (name : String) : Bool :=
  L.toLowercase name ∈ ["connection", "keep-alive", "proxy-authenticate", "proxy-authorization",
    "te", "trailers", "transfer-encoding", "upgrade", "via", "host"]

structure Outgoing (U : Type) where
  method : String
  url : U
  authorization : String
  headers : List (String × String)
  body : List UInt8

def buildRequest (creds : SessionCredentials U) (req : HttpRequest) :
    Except SessionProxyError (Outgoing U) := do
  validateRequestPath req.path
  match L.join creds.hubBaseUrl req.path with
  | none => .error (.hubRequest "invalid path")
  | some url =>
    if L.hostStr url ≠ L.hostStr creds.hubBaseUrl ∨
        L.scheme url ≠ L.scheme creds.hubBaseUrl then
      .error (.hubRequest "path redirect to different host/scheme detected")
    else if L.toUppercase req.method ∈ ["GET", "POST", "PUT", "DELETE", "PATCH"] then
      .ok ⟨L.toUppercase req.method, url, "Bearer " ++ creds.accessToken,
        req.headers.filter fun h => isForwardableHeader L h.1, req.body⟩
    else .error (.hubRequest ("unsupported method: " ++ req.method))

/-- A header value that is no text, or a body that cannot be read, is marked. -/
inductive SendOutcome
  | timeout
  | failed (message : String)
  | replied (status : UInt16) (headers : List (String × Option String))
      (body : Except String (List UInt8))

def receive : SendOutcome → Except SessionProxyError HttpResponse
  | .timeout => .error (.hubRequest "timeout")
  | .failed message => .error (.hubRequest message)
  | .replied _ _ (.error message) => .error (.hubRequest message)
  | .replied status headers (.ok body) =>
    .ok ⟨status, headers.filterMap fun h =>
      if isHopByHopHeader L h.1 then none else h.2.map fun value => (h.1, value), body⟩

inductive RefreshOutcome
  | timeout
  | failed (message : String)
  | replied (status : UInt16) (statusText : String) (body : Except String Value)

def refreshResult : RefreshOutcome → Except SessionProxyError String
  | .timeout => .error (.tokenRefresh "timeout")
  | .failed message => .error (.tokenRefresh message)
  | .replied status statusText body =>
    if ¬ (200 ≤ status ∧ status ≤ 299) then .error (.tokenRefresh ("hub returned " ++ statusText))
    else
      match body with
      | .error message => .error (.tokenRefresh message)
      | .ok value =>
        match (value.get "access_token").bind Value.asStr with
        | some token => .ok token
        | none => .error (.tokenRefresh "no access_token in refresh response")

def refreshUrl (creds : SessionCredentials U) : String :=
  L.display creds.hubBaseUrl ++ "/api/v1/auth/refresh"

end Checks

abbrev SessionId := Nat

abbrev RequestId := Nat

inductive Phase (U : Type)
  /-- It has its copy of the credentials and is about to be sent. -/
  | ready (creds : SessionCredentials U) (retried : Bool)
  /-- It is on its way. -/
  | waiting (creds : SessionCredentials U) (retried : Bool)
  /-- It was answered with `401`, and the refresh request is on its way. -/
  | refreshing (response : HttpResponse)
  /-- The refresh succeeded, and the new token is to be written to the slot. -/
  | storing (token : String)
  /-- The rotation flag is to be set. -/
  | flagging
  /-- A new copy is to be taken from the slot. -/
  | reacquiring

/-- With the session that was current when it was accepted. -/
structure InFlight (U : Type) where
  session : SessionId
  request : HttpRequest
  phase : Phase U

structure Sent (U : Type) where
  session : SessionId
  accessToken : String
  hub : U
  outgoing : Outgoing U

structure RefreshPost where
  session : SessionId
  url : String
  refreshToken : String
  deriving DecidableEq, Repr

structure Stored where
  refreshed : SessionId
  into : SessionId
  token : String
  deriving DecidableEq, Repr

structure SessionProxy (U : Type) where
  credentials : Option (SessionId × SessionCredentials U)
  hasRotated : Bool
  /-- Calls that have written the slot and have yet to reset the flag. -/
  flagResets : Nat
  inFlight : AList fun _ : RequestId => InFlight U
  nextSession : SessionId
  nextRequest : RequestId
  issued : List (SessionId × String)
  hubs : List (SessionId × U)
  sent : List (Sent U)
  posted : List RefreshPost
  stored : List Stored
  results : List (RequestId × Except SessionProxyError HttpResponse)

namespace SessionProxy

variable {U : Type} (L : WebLib U) (s : SessionProxy U)

def new : SessionProxy U where
  credentials := none
  hasRotated := false
  flagResets := 0
  inFlight := ∅
  nextSession := 0
  nextRequest := 0
  issued := []
  hubs := []
  sent := []
  posted := []
  stored := []
  results := []

def setSession (accessToken : String) (refreshToken : Option String) (hubBaseUrl : String) :
    Except SessionProxyError Unit × SessionProxy U :=
  match checkHub L hubBaseUrl with
  | .error err => (.error err, s)
  | .ok hub =>
    -- the lock is given back before the flag is reset, which is a step of its own
    (.ok (), { s with
      credentials := some (s.nextSession, ⟨accessToken, refreshToken, hub⟩)
      flagResets := s.flagResets + 1
      nextSession := s.nextSession + 1
      issued := (s.nextSession, accessToken) :: s.issued
      hubs := (s.nextSession, hub) :: s.hubs })

def clearSession : SessionProxy U :=
  { s with credentials := none, flagResets := s.flagResets + 1 }

def track (id : RequestId) (r : InFlight U) : SessionProxy U :=
  { s with inFlight := s.inFlight.insert id r }

def goTo (id : RequestId) (r : InFlight U) (phase : Phase U) : SessionProxy U :=
  s.track id { r with phase := phase }

def takeId : SessionProxy U := { s with nextRequest := s.nextRequest + 1 }

def finish (id : RequestId) (result : Except SessionProxyError HttpResponse) : SessionProxy U :=
  { s with inFlight := s.inFlight.erase id, results := s.results ++ [(id, result)] }

def recordSent (x : Sent U) : SessionProxy U := { s with sent := s.sent ++ [x] }

def recordPost (x : RefreshPost) : SessionProxy U := { s with posted := s.posted ++ [x] }

def issue (session : SessionId) (token : String) : SessionProxy U :=
  { s with issued := (session, token) :: s.issued }

def accept (req : HttpRequest) : SessionProxy U :=
  match s.credentials with
  | none => s.takeId.finish s.nextRequest (.error .noSession)
  | some (session, creds) => s.takeId.track s.nextRequest ⟨session, req, .ready creds false⟩

def send (id : RequestId) (r : InFlight U) (creds : SessionCredentials U) (retried : Bool) :
    SessionProxy U :=
  match buildRequest L creds r.request with
  | .error err => s.finish id (.error err)
  | .ok outgoing =>
    let s := s.recordSent ⟨r.session, creds.accessToken, creds.hubBaseUrl, outgoing⟩
    s.goTo id r (.waiting creds retried)

/-- A first `401` is refreshed if there is a token for it. -/
def reply (id : RequestId) (r : InFlight U) (creds : SessionCredentials U) (retried : Bool)
    (outcome : SendOutcome) : SessionProxy U :=
  match receive L outcome with
  | .error err => s.finish id (.error err)
  | .ok response =>
    if response.status = 401 ∧ retried = false then
      match creds.refreshToken with
      | some refreshToken =>
        let s := s.recordPost ⟨r.session, refreshUrl L creds, refreshToken⟩
        s.goTo id r (.refreshing response)
      | none => s.finish id (.ok response)
    else s.finish id (.ok response)

def refreshed (id : RequestId) (r : InFlight U) (response : HttpResponse)
    (outcome : RefreshOutcome) : SessionProxy U :=
  match refreshResult outcome with
  -- the error of the refresh is dropped and the client sees the hub's own answer
  | .error _ => s.finish id (.ok response)
  | .ok token =>
    (s.issue r.session token).goTo id r (.storing token)

def store (id : RequestId) (r : InFlight U) (token : String) : SessionProxy U :=
  match s.credentials with
  -- the session was cleared meanwhile: nothing is written, and the flag is set all the same
  | none => s.goTo id r .flagging
  | some (current, creds) =>
    -- the source does not compare the slot with the credentials that were refreshed
    let record : Stored := ⟨r.session, current, token⟩
    let s := { s with
      credentials := some (current, { creds with accessToken := token })
      stored := s.stored ++ [record] }
    s.goTo id r .flagging

def reacquire (id : RequestId) (r : InFlight U) : SessionProxy U :=
  match s.credentials with
  | none => s.finish id (.error .noSession)
  -- whoever's session it is
  | some (_, creds) => s.goTo id r (.ready creds true)

end SessionProxy

inductive Action
  | setSession (accessToken : String) (refreshToken : Option String) (hubBaseUrl : String)
  | clearSession
  /-- The end of a set or clear call resets the rotation flag. -/
  | resetFlag
  | accept (req : HttpRequest)
  | send (id : RequestId)
  | reply (id : RequestId) (outcome : SendOutcome)
  | refreshed (id : RequestId) (outcome : RefreshOutcome)
  | store (id : RequestId)
  | flag (id : RequestId)
  | reacquire (id : RequestId)

variable {U : Type}

def stepRequest (L : WebLib U) (s : SessionProxy U) (id : RequestId) (r : InFlight U) :
    Action → Option (SessionProxy U)
  | .send _ =>
    match r.phase with
    | .ready creds retried => some (s.send L id r creds retried)
    | _ => none
  | .reply _ outcome =>
    match r.phase with
    | .waiting creds retried => some (s.reply L id r creds retried outcome)
    | _ => none
  | .refreshed _ outcome =>
    match r.phase with
    | .refreshing response => some (s.refreshed id r response outcome)
    | _ => none
  | .store _ =>
    match r.phase with
    | .storing token => some (s.store id r token)
    | _ => none
  | .flag _ =>
    match r.phase with
    | .flagging => some ({ s with hasRotated := true }.goTo id r .reacquiring)
    | _ => none
  | .reacquire _ =>
    match r.phase with
    | .reacquiring => some (s.reacquire id r)
    | _ => none
  | .setSession _ _ _ | .clearSession | .resetFlag | .accept _ => none

def Action.request : Action → Option RequestId
  | .send id | .reply id _ | .refreshed id _ | .store id | .flag id | .reacquire id => some id
  | .setSession _ _ _ | .clearSession | .resetFlag | .accept _ => none

def step (L : WebLib U) (s : SessionProxy U) (a : Action) : Option (SessionProxy U) :=
  match a with
  | .setSession accessToken refreshToken hubBaseUrl =>
    some (s.setSession L accessToken refreshToken hubBaseUrl).2
  | .clearSession => some s.clearSession
  | .resetFlag =>
    if 0 < s.flagResets then
      some { s with hasRotated := false, flagResets := s.flagResets - 1 }
    else none
  | .accept req => some (s.accept req)
  | .send id | .reply id _ | .refreshed id _ | .store id | .flag id | .reacquire id =>
    match s.inFlight.lookup id with
    | some r => stepRequest L s id r a
    | none => none

end Penguind.Waddlebot
