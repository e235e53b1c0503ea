import Penguind.Foundation.Tasks

/-!
# The VPN module: state and effects

The data of the VPN module and the effects of its tasks, one for each place where a task may be
interrupted or touches something shared. `stopped` and `raised` are kept for the statements only.
-/

namespace Penguind.Tobogganing

abbrev SystemTime := Int

abbrev Duration := Int

def Duration.fromSecs (n : Int) : Duration := n * 1000000000

abbrev Key := BitVec 256

inductive IpAddr
  | v4 (bits : BitVec 32)
  | v6 (bits : BitVec 128)
  deriving DecidableEq, Repr

structure IpAddrMask where
  address : IpAddr
  cidr : Nat
  deriving DecidableEq, Repr

structure SocketAddr where
  ip : IpAddr
  port : Nat
  deriving DecidableEq, Repr

structure TokenResponse where
  accessToken : String
  refreshToken : String
  expiresAt : Option Int
  deriving DecidableEq, Repr

structure TunnelConfigResponse where
  tunnelAddress : String
  serverPublicKey : String
  serverEndpoint : String
  allowedIps : List String
  dns : List String
  deriving DecidableEq, Repr

structure TunnelSpec where
  privateKey : Key
  clientAddress : IpAddrMask
  peerPublicKey : Key
  endpoint : SocketAddr
  allowedIps : List IpAddrMask
  dns : List IpAddr
  mtu : Nat
  keepalive : Option Duration
  deriving DecidableEq, Repr

structure ModuleConfig where
  managerUrl : String
  interfaceName : String
  mtu : Nat
  dns : List String
  keepalive : Nat
  allowedIps : List String
  deriving DecidableEq, Repr

structure Lib where
  publicKey : Key → Key
  parseKey : String → Option Key
  parseIpAddrMask : String → Option IpAddrMask
  parseIpAddr : String → Option IpAddr
  parseSocketAddr : String → Option SocketAddr
  decodeTokenResponse : String → Except String TokenResponse
  decodeTunnelConfig : String → Except String TunnelConfigResponse
  decodeExp : String → Option Int
  debug : String → String

structure TokenState where
  accessToken : String
  refreshToken : String
  expiresAt : SystemTime
  deriving DecidableEq, Repr

instance : Inhabited TokenState := ⟨⟨"", "", 0⟩⟩

structure VpnState where
  connected : Bool
  privateKey : Option Key
  deriving DecidableEq, Repr

instance : Inhabited VpnState := ⟨⟨false, none⟩⟩

inductive SecretKey
  | accessToken
  | refreshToken
  | apiKey
  deriving DecidableEq, Repr

inductive Counter
  | connectionErrors
  | tokenRefreshes
  deriving DecidableEq, Repr

abbrev CancelToken := Nat

inductive TaskName
  | start
  | stop
  | cmdConnect
  | cmdDisconnect
  | initialConnect
  /-- One round of the loop; the round starts the next one. -/
  | monitorLoop (cancel : CancelToken)
  | authRefreshLoop (cancel : CancelToken)
  deriving DecidableEq, Repr

inductive LoopName
  | monitor
  | authRefresh
  deriving DecidableEq, Repr

inductive Selected
  | cancelled
  | tick
  deriving DecidableEq, Repr

inductive Request
  | obtain (url apiKey : String)
  | refresh (url refreshToken : String)
  | revoke (url bearer : String)
  | config (url bearer : String) (publicKey : Key)
  deriving DecidableEq, Repr

structure Reply where
  status : Nat
  body : String
  deriving DecidableEq, Repr

def Reply.isSuccess (r : Reply) : Bool := 200 ≤ r.status ∧ r.status < 300

inductive Effect
  | swapRunning (value : Bool)
  | isRunning
  /-- Makes a cancellation token and keeps it for the stop. -/
  | newCancel
  /-- Takes the kept token and cancels it. -/
  | takeCancel
  | select (loop : LoopName) (cancel : CancelToken)
  | spawn (task : TaskName)
  /-- The result of a connect attempt goes to its caller, or to the log. -/
  | report (result : Except String Unit)
  | stopReturns (result : Except String Unit)
  | inc (counter : Counter)
  | now
  | lockAuth
  | unlockAuth
  | readAuth
  | writeAuth (state : TokenState)
  | getSecret (key : SecretKey)
  | setSecret (key : SecretKey) (value : String)
  | deleteSecret (key : SecretKey)
  | http (request : Request)
  | lockVpn
  | unlockVpn
  | readVpn
  | writeVpn (state : VpnState)
  | generateKey
  | apply (interface : String) (spec : TunnelSpec)
  | teardown (interface : String)
  | peerStats (interface : String)

def Answer : Effect → Type
  | .swapRunning _ | .isRunning => Bool
  | .newCancel => CancelToken
  | .select _ _ => Selected
  | .now => SystemTime
  | .readAuth => TokenState
  | .getSecret _ => Except String String
  | .setSecret _ _ | .deleteSecret _ => Except String Unit
  | .http _ => Except String Reply
  | .readVpn => VpnState
  | .generateKey => Key
  | .apply _ _ | .teardown _ | .peerStats _ => Except String Unit
  | .takeCancel | .spawn _ | .report _ | .stopReturns _ | .inc _ | .lockAuth | .unlockAuth
  | .writeAuth _ | .lockVpn | .unlockVpn | .writeVpn _ => Unit

structure World where
  running : Bool
  cancel : Option CancelToken
  cancelled : List CancelToken
  nextCancel : CancelToken
  auth : TokenState
  authLocked : Bool
  vpn : VpnState
  vpnLocked : Bool
  secrets : SecretKey → Option String
  counters : Counter → Nat
  stopped : Bool
  raised : Bool

def act (w : World) : (e : Effect) → Answer e → Option World
  | .swapRunning value, (old : Bool) =>
    if old = w.running then
      -- A start ends what the last stop has established.
      some { w with running := value, stopped := w.stopped && !value, raised := w.raised && !value }
    else none
  | .isRunning, (r : Bool) => if r = w.running then some w else none
  | .newCancel, (t : Nat) =>
    if t = w.nextCancel then some { w with cancel := some t, nextCancel := t + 1 } else none
  | .takeCancel, _ => some { w with cancel := none, cancelled := w.cancel.toList ++ w.cancelled }
  | .select _ cancel, r =>
    match r with
    | .cancelled => if cancel ∈ w.cancelled then some w else none
    | .tick => some w
  | .stopReturns result, _ => some { w with stopped := w.stopped || result.isOk }
  | .inc c, _ => some { w with counters := Function.update w.counters c (w.counters c + 1) }
  | .lockAuth, _ => if w.authLocked then none else some { w with authLocked := true }
  | .unlockAuth, _ => some { w with authLocked := false }
  | .readAuth, (s : TokenState) => if s = w.auth then some w else none
  | .writeAuth s, _ => some { w with auth := s }
  | .getSecret key, r =>
    match r with
    | .ok value => if w.secrets key = some value then some w else none
    | .error _ => some w
  | .setSecret key value, r =>
    match r with
    | .ok _ => some { w with secrets := Function.update w.secrets key (some value) }
    | .error _ => some w
  | .deleteSecret key, r =>
    match r with
    | .ok _ => some { w with secrets := Function.update w.secrets key none }
    | .error _ => some w
  | .lockVpn, _ => if w.vpnLocked then none else some { w with vpnLocked := true }
  | .unlockVpn, _ => some { w with vpnLocked := false }
  | .readVpn, (s : VpnState) => if s = w.vpn then some w else none
  | .writeVpn s, _ => some { w with vpn := s }
  | .apply _ _, r =>
    match r with
    | .ok _ => some { w with raised := w.raised || w.stopped }
    | .error _ => some w
  | .spawn _, _ | .report _, _ | .now, _ | .http _, _ | .generateKey, _ | .teardown _, _
  | .peerStats _, _ => some w

end Penguind.Tobogganing
