import Penguind.Daemon.External
import Penguind.Foundation.Program

/-!
# The child process of a launch that fails

A launch starts a child process and then takes many steps, of which each may fail. Whether a
failure at a stage ends the child is noted for the statements.
-/

namespace Penguind.Goplugin

open Foundation Extplugin Daemon

/-! ## The handshake line -/

structure TextLib where
  /-- `str::trim`. -/
  trim : String → String
  /-- A text as `{:?}` writes it. -/
  debug : String → String
  /-- Base64 with the standard alphabet and no padding. -/
  decodeNoPad : String → Except String Bytes

structure Handshake where
  protocolVersion : Nat
  network : String
  address : String
  serverCertDer : Option Bytes

inductive HandshakeError
  | tooFewFields (count : Nat) (line : String)
  | invalidCoreVersion (field source : String)
  | unsupportedCoreVersion (version : Nat)
  | invalidProtocolVersion (field source : String)
  | unsupportedProtocolVersion (version : Nat)
  | unsupportedProtocolType (field : String)
  | invalidCertEncoding (source : String)

def HandshakeError.display (lib : TextLib) : HandshakeError → String
  | .tooFewFields count line =>
    "malformed handshake line (need at least 4 fields, got " ++ toString count ++ "): " ++
      lib.debug line
  | .invalidCoreVersion field source =>
    "invalid core protocol version " ++ lib.debug field ++ ": " ++ source
  | .unsupportedCoreVersion version =>
    "unsupported core protocol version " ++ toString version ++ ", expected 1"
  | .invalidProtocolVersion field source =>
    "invalid protocol version " ++ lib.debug field ++ ": " ++ source
  | .unsupportedProtocolVersion version => "unsupported protocol version " ++ toString version
  | .unsupportedProtocolType field =>
    "unsupported protocol type " ++ lib.debug field ++ ", only grpc is supported"
  | .invalidCertEncoding source => "invalid server certificate encoding: " ++ source

def parseDigits (value : Nat) : List Char → Except String Nat
  | [] => .ok value
  | c :: rest =>
    if ¬ c.isDigit then .error "invalid digit found in string"
    else
      let value' := value * 10 + (c.toNat - '0'.toNat)
      if 2 ^ 32 ≤ value' then .error "number too large to fit in target type"
      else parseDigits value' rest

def parseU32 (field : List Char) : Except String Nat :=
  match field with
  | [] => .error "cannot parse integer from empty string"
  | ['+'] => .error "invalid digit found in string"
  | '+' :: digits => parseDigits 0 digits
  | digits => parseDigits 0 digits

def coreProtocolVersion : Nat := 1

def offeredProtocolVersions : List Nat := [1]

def minCertFieldLen : Nat := 50

def decodeCertDer (lib : TextLib) : Option (List Char) → Except HandshakeError (Option Bytes)
  | none => .ok none
  | some field =>
    let text := String.ofList field
    if text.utf8ByteSize ≤ minCertFieldLen then .ok none
    else (lib.decodeNoPad text).map some |>.mapError .invalidCertEncoding

def Handshake.parse (lib : TextLib) (line : String) : Except HandshakeError Handshake := do
  match line.toList.splitOn '|' with
  | core :: version :: network :: address :: rest =>
    let coreVersion ← (parseU32 core).mapError (.invalidCoreVersion (.ofList core))
    if coreVersion ≠ coreProtocolVersion then throw (.unsupportedCoreVersion coreVersion)
    let protocolVersion ← (parseU32 version).mapError (.invalidProtocolVersion (.ofList version))
    if protocolVersion ∉ offeredProtocolVersions then
      throw (.unsupportedProtocolVersion protocolVersion)
    let protocolType := String.ofList (rest[0]?.getD [])
    if protocolType ≠ "grpc" then throw (.unsupportedProtocolType protocolType)
    let serverCertDer ← decodeCertDer lib rest[1]?
    return ⟨protocolVersion, .ofList network, .ofList address, serverCertDer⟩
  | parts => throw (.tooFewFields parts.length line)

inductive HostError
  | spawn (source : String)
  | exitedBeforeHandshake
  | handshakeTimeout
  | handshake (err : HandshakeError)
  | tls (message : String)
  | connect (message : String)
  | broker (message : String)
  | health (message : String)
  | shutdown (message : String)

def HostError.display (lib : TextLib) : HostError → String
  | .spawn source => "failed to launch plugin process: " ++ source
  | .exitedBeforeHandshake => "plugin process exited before completing the handshake"
  | .handshakeTimeout => "timed out waiting for plugin handshake"
  | .handshake err => "invalid plugin handshake: " ++ err.display lib
  | .tls message => "mTLS setup failed: " ++ message
  | .connect message => "failed to connect to plugin: " ++ message
  | .broker message => "broker error: " ++ message
  | .health message => "plugin health check failed: " ++ message
  | .shutdown message => "controller shutdown failed: " ++ message

inductive Target
  | unix (path : String)
  | tcp (address : String)

def Target.parse (lib : TextLib) (network address : String) : Except HostError Target :=
  if network = "unix" then .ok (.unix address)
  else if network = "tcp" then .ok (.tcp address)
  else .error (.connect ("unsupported handshake network " ++ lib.debug network))

structure HostIdentity where
  certPem : String

structure Command where
  program : PathBuf
  env : List (String × String)
  envRemove : List String

inductive Effect
  | generateHostIdentity
  | spawn (command : Command)
  /-- The first line of the child's output, within the time limit. -/
  | nextLine
  | startKill
  | wait
  /-- Waits for the child for two seconds. -/
  | waitBriefly
  | clientTlsConfig (peerCert : Bytes)
  | connect (target : Target)
  | serverTlsConfig (peerCert : Bytes)
  /-- Binds a socket, where a stale one is removed first. -/
  | bind (path : PathBuf)
  | announce (serviceId : Nat) (path : PathBuf)
  | checkHealth (service : String)
  | controllerShutdown
  /-- Connects the adapter of the module. -/
  | dispense

inductive LineRead
  | timedOut
  | failed (source : String)
  | eof
  | line (text : String)

inductive Waited
  | reaped
  | failed (source : String)

def Answer : Effect → Type
  | .generateHostIdentity => Except String HostIdentity
  | .nextLine => LineRead
  | .wait => Waited
  | .waitBriefly => Option Waited
  | .announce _ _ => Bool
  | .checkHealth _ => Except String Int
  | .spawn _ | .startKill | .clientTlsConfig _ | .connect _ | .serverTlsConfig _ | .bind _
  | .controllerShutdown | .dispense => Except String Unit

abbrev HostOp := ProgE HostError Effect Answer

def orFail {A : Type} (wrap : String → HostError) (p : HostOp (Except String A)) : HostOp A := do
  let result ← p
  ProgE.ofExcept (result.mapError wrap)

def generateHostIdentity : HostOp HostIdentity :=
  orFail .tls (ProgE.call Effect.generateHostIdentity)

def spawnPlugin (binaryPath : PathBuf) (identity : HostIdentity) : HostOp Unit :=
  orFail .spawn <| ProgE.call <| Effect.spawn
    { program := binaryPath
      env := [("PENGUIN_PLUGIN", "penguin-sdk-v1"), ("PLUGIN_MIN_PORT", "10000"),
        ("PLUGIN_MAX_PORT", "25000"), ("PLUGIN_PROTOCOL_VERSIONS", "1"),
        ("PLUGIN_CLIENT_CERT", identity.certPem)]
      envRemove := ["PLUGIN_MULTIPLEX_GRPC"] }

def LineRead.handshake (lib : TextLib) : LineRead → Except HostError Handshake
  | .timedOut => .error .handshakeTimeout
  | .failed source => .error (.spawn source)
  | .eof => .error .exitedBeforeHandshake
  | .line text => (Handshake.parse lib (lib.trim text)).mapError .handshake

def readHandshakeLine (lib : TextLib) : HostOp Handshake := do
  let read : LineRead ← ProgE.call Effect.nextLine
  ProgE.ofExcept (read.handshake lib)

def hostServiceBrokerId : Nat := 1

def accept (id : Nat) (socketDir : PathBuf) : HostOp Unit := do
  let path := unix.join socketDir (toString id ++ ".sock").toList
  orFail (fun source => .broker ("bind broker socket " ++ .ofList path ++ ": " ++ source))
    (ProgE.call (Effect.bind path))
  let sent : Bool ← ProgE.call (Effect.announce id path)
  if ¬ sent then throw (.broker "broker stream closed")

def servingStatus (status : Int) : String :=
  if status = 1 then "Serving"
  else if status = 2 then "NotServing"
  else if status = 3 then "ServiceUnknown"
  else "Unknown"

def waitForHealth : HostOp Unit := do
  let status ← orFail .health (ProgE.call (Effect.checkHealth "plugin"))
  if servingStatus status ≠ "Serving" then
    throw (.health ("plugin health check returned " ++ servingStatus status ++
      " instead of SERVING"))

def Handshake.peerCert (handshake : Handshake) : Except HostError Bytes :=
  match handshake.serverCertDer with
  | none => .error (.tls "plugin did not present an AutoMTLS certificate")
  | some der => .ok der

/-- Every error of this part leaves `launch` at once. -/
def connectPlugin (lib : TextLib) (socketDir : PathBuf) (hostRoutes : Bool)
    (handshake : Handshake) : HostOp Unit := do
  let peerCert ← ProgE.ofExcept handshake.peerCert
  let target ← ProgE.ofExcept (Target.parse lib handshake.network handshake.address)
  orFail .tls (ProgE.call (Effect.clientTlsConfig peerCert))
  orFail .connect (ProgE.call (Effect.connect target))
  if hostRoutes then
    orFail .tls (ProgE.call (Effect.serverTlsConfig peerCert))
    accept hostServiceBrokerId socketDir
  waitForHealth

def killAndWait : HostOp Unit := do
  let _ : Except String Unit ← ProgE.call Effect.startKill
  let _ : Waited ← ProgE.call Effect.wait
  pure ()

def launch (lib : TextLib) (binaryPath socketDir : PathBuf) (hostRoutes : Bool) :
    HostOp Unit := do
  let identity ← generateHostIdentity
  spawnPlugin binaryPath identity
  let read ← ProgE.attempt (readHandshakeLine lib)
  match read with
  | .error err =>
    killAndWait
    throw err
  | .ok handshake => connectPlugin lib socketDir hostRoutes handshake

def shutdown : HostOp Unit := do
  let _ : Except String Unit ← ProgE.call Effect.controllerShutdown
  let waited : Option Waited ← ProgE.call Effect.waitBriefly
  match waited with
  -- a wait that fails in time counts as the end of the child
  | some _ => pure ()
  | none =>
    orFail (fun source => .broker ("SIGKILL failed: " ++ source)) (ProgE.call Effect.startKill)
    let _ : Waited ← ProgE.call Effect.wait
    pure ()

def loadProcess (lib : TextLib) (binaryPath socketDir : PathBuf) :
    ProgE ExternalLoadError Effect Answer Unit := do
  ProgE.mapError (fun err => .load (err.display lib)) (launch lib binaryPath socketDir false)
  let dispensed : Except String Unit ← ProgE.call Effect.dispense
  match dispensed with
  | .ok () => pure ()
  | .error err =>
    -- how the shutdown goes makes no difference to the error
    let _ ← ProgE.attempt shutdown
    throw (.load err)

/-! ## A launch beside its child -/

inductive Handle
  | none
  | held
  | reaped
  deriving DecidableEq

inductive Stage
  | starting
  /-- The handshake line was accepted. -/
  | connecting
  /-- The launch has succeeded. -/
  | launched
  /-- Ending the child has failed. -/
  | abandoned
  deriving DecidableEq

structure Custody where
  handle : Handle
  stage : Stage
  deriving DecidableEq

def Custody.waited (c : Custody) : Waited → Custody
  | .reaped => { c with handle := .reaped }
  | .failed _ => { c with stage := .abandoned }

def Custody.after (lib : TextLib) (c : Custody) : (e : Effect) → Answer e → Custody
  | .spawn _ => fun
    | .ok () => { c with handle := .held }
    | .error _ => c
  | .nextLine => fun read =>
    match LineRead.handshake lib read with
    | .ok _ => { c with stage := .connecting }
    | .error _ => c
  | .startKill => fun
    | .ok () => c
    -- during a launch the wait follows all the same
    | .error _ => if c.stage = .launched then { c with stage := .abandoned } else c
  | .wait => c.waited
  | .waitBriefly => fun
    | none => c
    | some waited => c.waited waited
  | .dispense => fun _ => { c with stage := .launched }
  | .generateHostIdentity | .clientTlsConfig _ | .connect _ | .serverTlsConfig _ | .bind _
  | .announce _ _ | .checkHealth _ | .controllerShutdown => fun _ => c

def Enabled (exited : Bool) : (e : Effect) → Answer e → Bool
  | .wait => fun
    | .reaped => exited
    | .failed _ => true
  | .waitBriefly => fun
    | some .reaped => exited
    | some (.failed _) | none => true
  | .spawn _ | .nextLine | .startKill | .dispense | .generateHostIdentity | .clientTlsConfig _
  | .connect _ | .serverTlsConfig _ | .bind _ | .announce _ _ | .checkHealth _
  | .controllerShutdown => fun _ => true

inductive Call
  | launch (binaryPath socketDir : PathBuf) (hostRoutes : Bool)
  | load (binaryPath socketDir : PathBuf)

def Call.Error : Call → Type
  | .launch _ _ _ => HostError
  | .load _ _ => ExternalLoadError

def Call.code (lib : TextLib) : (call : Call) → ProgE call.Error Effect Answer Unit
  | .launch binaryPath socketDir hostRoutes => Goplugin.launch lib binaryPath socketDir hostRoutes
  | .load binaryPath socketDir => loadProcess lib binaryPath socketDir

inductive Phase (ε : Type)
  | running (rest : Prog Effect Answer (Except ε Unit))
  | finished (result : Except ε Unit)

structure Launching (ε : Type) where
  phase : Phase ε
  custody : Custody
  exited : Bool

/-- `reaps` says whether a child that has ended is reaped when its handle is dropped. -/
inductive LaunchLabel
  | answer (f : (e : Effect) → Answer e)
  | exit
  | finish (reaps : Bool)

namespace Launching

variable (lib : TextLib) {ε : Type}

def start (call : Call) : Launching call.Error :=
  ⟨.running (call.code lib), ⟨.none, .starting⟩, false⟩

def drop (s : Launching ε) (reaps : Bool) : Custody :=
  if s.custody.handle = .held ∧ s.exited = true ∧ reaps = true then
    { s.custody with handle := .reaped }
  else s.custody

def step (s : Launching ε) : LaunchLabel → Option (Launching ε)
  | .answer f =>
    match s.phase with
    | .running (.effect e k) =>
      if Enabled s.exited e (f e) then
        some { s with phase := .running (k (f e)), custody := s.custody.after lib e (f e) }
      else none
    | .running (.done _) | .finished _ => none
  | .exit =>
    if s.custody.handle = .held ∧ s.exited = false then some { s with exited := true } else none
  | .finish reaps =>
    match s.phase with
    | .running (.done (.error err)) =>
      some { s with phase := .finished (.error err), custody := s.drop reaps }
    | .running (.done (.ok ())) => some { s with phase := .finished (.ok ()) }
    | .running (.effect _ _) | .finished _ => none

def Gone (s : Launching ε) : Prop := s.custody.handle ≠ .held

/-- A call that fails where the child lives on drops its handle only after its end. -/
def DropsEnded (s : Launching ε) : LaunchLabel → Prop
  | .finish reaps =>
    match s.phase with
    | .running (.done (.error _)) =>
      s.custody.stage = .connecting ∨ s.custody.stage = .abandoned →
        s.exited = true ∧ reaps = true
    | .running (.done (.ok ())) | .running (.effect _ _) | .finished _ => True
  | .answer _ | .exit => True

instance (s : Launching ε) : ∀ a, Decidable (s.DropsEnded a)
  | .finish reaps =>
    match h : s.phase with
    | .running (.done (.error _)) =>
      decidable_of_iff (s.custody.stage = .connecting ∨ s.custody.stage = .abandoned →
        s.exited = true ∧ reaps = true) (by simp [DropsEnded, h])
    | .running (.done (.ok ())) | .running (.effect _ _) | .finished _ =>
      .isTrue (by simp [DropsEnded, h])
  | .answer _ | .exit => .isTrue trivial

end Launching

/-! ## What each stage does about the child -/

/-- A failure leaves the child to the host exactly where it does not end it. -/
def Custody.Settled (c : Custody) : Prop :=
  c.handle = .held ↔ c.stage = .connecting ∨ c.stage = .abandoned

section Custody

variable {lib : TextLib} {ε ε' A B : Type} {c : Custody} {P : Custody → Prop}
  {p : ProgE ε Effect Answer A}

abbrev Takes {ε A : Type} (lib : TextLib) (P : Custody → Prop) (p : ProgE ε Effect Answer A)
    (Q : Except ε A → Custody → Prop) : Prop :=
  Triple (fun c e r => some (Custody.after lib c e r)) (fun _ => True) (fun _ _ _ => True) P p Q

def Ends {ε A : Type} (ok err : Custody → Prop) : Except ε A → Custody → Prop
  | .ok _, c => ok c
  | .error _, c => err c

def Answers {ε A : Type} (Q : A → Custody → Prop) : Except ε A → Custody → Prop
  | .ok a, c => Q a c
  | .error _, _ => False

theorem takes_call {e : Effect} {Q : Answer e → Custody → Prop}
    (h : ∀ c r, P c → Q r (c.after lib e r)) :
    Takes lib P (ProgE.call e : ProgE ε Effect Answer (Answer e)) (Answers Q) := by
  apply Triple.call
  rintro c hc r _ - ⟨⟩
  exact ⟨trivial, h c r hc⟩

theorem takes_bind {f : A → ProgE ε Effect Answer B} {Q : A → Custody → Prop}
    {Q' : Except ε B → Custody → Prop} (hp : Takes lib P p (Answers Q))
    (hf : ∀ a, Takes lib (Q a) (f a) Q') : Takes lib P (p >>= f) Q' := by
  refine Triple.bind hp hf ?_
  rintro err c ⟨⟩

theorem takes_attempt {Q : Except ε A → Custody → Prop} (h : Takes lib P p Q) :
    Takes lib P (ProgE.attempt p : ProgE ε' Effect Answer (Except ε A)) (Answers Q) :=
  Triple.attempt h

theorem takes_ofExcept {r : Except ε A} {Q : Except ε A → Custody → Prop} (h : ∀ c, P c → Q r c) :
    Takes lib P (ProgE.ofExcept r : ProgE ε Effect Answer A) Q := by
  intro c hc
  cases r with
  | ok a => exact h c hc
  | error err => exact h c hc

theorem takes_orFail {wrap : String → HostError} {p : HostOp (Except String A)}
    {P ok err : Custody → Prop} (h : Takes lib P p (Answers (Ends ok err))) :
    Takes lib P (orFail wrap p) (Ends ok err) := by
  refine takes_bind h fun r => takes_ofExcept fun c hc => ?_
  cases r with
  | ok a => exact hc
  | error source => exact hc

abbrev Keeps {ε A : Type} (lib : TextLib) (c : Custody) (p : ProgE ε Effect Answer A) : Prop :=
  Takes lib (· = c) p fun _ d => d = c

theorem keeps_done (r : Except ε A) :
    Keeps lib c (Prog.done r : ProgE ε Effect Answer A) := fun _ hc => hc

theorem keeps_bind {f : A → ProgE ε Effect Answer B} (hp : Keeps lib c p)
    (hf : ∀ a, Keeps lib c (f a)) : Keeps lib c (p >>= f) :=
  Triple.bind hp hf fun _ _ h => h

theorem keeps_call {e : Effect} (h : ∀ r, c.after lib e r = c) :
    Keeps lib c (ProgE.call e : ProgE ε Effect Answer (Answer e)) := by
  apply Triple.call
  rintro _ rfl r _ - ⟨⟩
  exact ⟨trivial, h r⟩

theorem keeps_ofExcept (r : Except ε A) :
    Keeps lib c (ProgE.ofExcept r : ProgE ε Effect Answer A) :=
  takes_ofExcept fun _ hc => hc

theorem keeps_orFail (wrap : String → HostError) {p : HostOp (Except String A)}
    (hp : Keeps lib c p) : Keeps lib c (orFail wrap p) :=
  keeps_bind hp fun r => keeps_ofExcept (r.mapError wrap)

/-! ### The stages of a launch -/

def atStart : Custody := ⟨.none, .starting⟩

def started : Custody := ⟨.held, .starting⟩

def connecting : Custody := ⟨.held, .connecting⟩

theorem takes_spawnPlugin (binaryPath : PathBuf) (identity : HostIdentity) :
    Takes lib (· = atStart) (spawnPlugin binaryPath identity)
      (Ends (· = started) (· = atStart)) := by
  refine takes_orFail (takes_call ?_)
  rintro c r rfl
  cases r with
  | ok u => rfl
  | error source => rfl

theorem takes_readHandshakeLine :
    Takes lib (· = started) (readHandshakeLine lib) (Ends (· = connecting) (· = started)) := by
  refine takes_bind (Q := fun read c => c = Custody.after lib started .nextLine read)
    (takes_call ?_) fun read => takes_ofExcept ?_
  · rintro c r rfl
    rfl
  · rintro c rfl
    simp only [Custody.after]
    cases LineRead.handshake lib read with
    | ok handshake => rfl
    | error err => rfl

theorem keeps_accept (c : Custody) (id : Nat) (socketDir : PathBuf) :
    Keeps lib c (accept id socketDir) := by
  refine keeps_bind (keeps_orFail _ (keeps_call fun _ => rfl)) fun _ => ?_
  refine keeps_bind (keeps_call fun _ => rfl) fun sent => ?_
  cases sent with
  | true => exact keeps_done _
  | false => exact keeps_done _

theorem keeps_waitForHealth (c : Custody) : Keeps lib c waitForHealth := by
  refine keeps_bind (keeps_orFail _ (keeps_call fun _ => rfl)) fun status => ?_
  by_cases h : servingStatus status ≠ "Serving"
  · rw [if_pos h]
    exact keeps_done _
  · rw [if_neg h]
    exact keeps_done _

theorem keeps_connectPlugin (c : Custody) (socketDir : PathBuf) (hostRoutes : Bool)
    (handshake : Handshake) : Keeps lib c (connectPlugin lib socketDir hostRoutes handshake) := by
  refine keeps_bind (keeps_ofExcept _) fun peerCert => ?_
  refine keeps_bind (keeps_ofExcept _) fun target => ?_
  refine keeps_bind (keeps_orFail _ (keeps_call fun _ => rfl)) fun _ => ?_
  refine keeps_bind (keeps_orFail _ (keeps_call fun _ => rfl)) fun _ => ?_
  cases hostRoutes with
  | false => exact keeps_waitForHealth c
  | true =>
    refine keeps_bind (keeps_orFail _ (keeps_call fun _ => rfl)) fun _ => ?_
    exact keeps_bind (keeps_accept c _ socketDir) fun _ => keeps_waitForHealth c

theorem Custody.settled_waited (hc : c.handle = .held)
    (hstage : c.stage = .starting ∨ c.stage = .launched) (w : Waited) :
    (c.waited w).Settled := by
  cases w with
  | reaped =>
    obtain hstage | hstage := hstage <;> simp [waited, Settled, hstage]
  | failed source => simp [waited, Settled, hc]

theorem takes_wait (hc : c.handle = .held) (hstage : c.stage = .starting ∨ c.stage = .launched) :
    Takes lib (· = c) (do let _ : Waited ← ProgE.call Effect.wait; pure () : HostOp Unit)
      fun _ => Custody.Settled := by
  refine takes_bind (Q := fun _ => Custody.Settled) (takes_call ?_) fun _ _ h => h
  rintro _ w rfl
  exact Custody.settled_waited hc hstage w

theorem takes_killAndWait : Takes lib (· = started) killAndWait fun _ => Custody.Settled := by
  refine takes_bind (Q := fun _ => (· = started)) (takes_call ?_)
    fun _ => takes_wait rfl (.inl rfl)
  rintro c (source | u) rfl
  · rfl
  · rfl

theorem takes_launch (binaryPath socketDir : PathBuf) (hostRoutes : Bool) :
    Takes lib (· = atStart) (launch lib binaryPath socketDir hostRoutes)
      (Ends (· = connecting) Custody.Settled) := by
  have hstart : atStart.Settled := by simp [atStart, Custody.Settled]
  have hconnecting : connecting.Settled := by simp [connecting, Custody.Settled]
  refine Triple.bind (keeps_orFail _ (keeps_call fun _ => rfl)) (fun identity => ?_) ?_
  · refine Triple.bind (takes_spawnPlugin binaryPath identity) (fun _ => ?_) ?_
    · refine takes_bind (takes_attempt takes_readHandshakeLine) fun read => ?_
      cases read with
      | error err => exact Triple.bind takes_killAndWait (fun _ _ h => h) fun _ _ h => h
      | ok handshake =>
        refine (keeps_connectPlugin connecting socketDir hostRoutes handshake).conseq
          (fun _ hc => hc) ?_
        rintro (err | u) c rfl
        · exact hconnecting
        · rfl
    · rintro err c rfl
      exact hstart
  · rintro err c rfl
    exact hstart

theorem takes_shutdown :
    Takes lib (· = ⟨.held, .launched⟩) shutdown fun _ => Custody.Settled := by
  refine takes_bind (Q := fun _ => (· = ⟨.held, .launched⟩)) (takes_call ?_) fun _ => ?_
  · rintro c r rfl
    rfl
  · refine takes_bind (Q := fun waited : Option Waited =>
      if waited = none then (· = ⟨.held, .launched⟩) else Custody.Settled) (takes_call ?_)
      fun waited => ?_
    · rintro c (_ | w) rfl
      · rfl
      · exact Custody.settled_waited rfl (.inr rfl) w
    · cases waited with
      | some w => exact fun _ h => h
      | none =>
        refine Triple.bind (Q := Ends (· = ⟨.held, .launched⟩) Custody.Settled)
          (takes_orFail (takes_call ?_)) (fun _ => takes_wait rfl (.inr rfl)) fun _ _ h => h
        rintro c (source | u) rfl
        · have habandoned : Custody.Settled ⟨.held, .abandoned⟩ := by simp [Custody.Settled]
          exact habandoned
        · rfl

theorem takes_loadProcess (binaryPath socketDir : PathBuf) :
    Takes lib (· = atStart) (loadProcess lib binaryPath socketDir)
      (Ends (fun _ => True) Custody.Settled) := by
  refine Triple.bind (Q := Ends (· = connecting) Custody.Settled) ?_ (fun _ => ?_) fun _ _ h => h
  · refine takes_bind (takes_attempt (takes_launch binaryPath socketDir false))
      fun launched => takes_ofExcept ?_
    cases launched with
    | ok u => exact fun _ hc => hc
    | error err => exact fun _ hc => hc
  · refine takes_bind (Q := fun _ => (· = ⟨.held, .launched⟩)) (takes_call ?_) fun dispensed => ?_
    · rintro c r rfl
      rfl
    · cases dispensed with
      | ok u => exact fun _ _ => trivial
      | error err => exact takes_bind (takes_attempt takes_shutdown) fun _ _ h => h

theorem takes_code (call : Call) :
    Takes lib (· = atStart) (call.code lib) (Ends (fun _ => True) Custody.Settled) := by
  cases call with
  | launch binaryPath socketDir hostRoutes =>
    refine (takes_launch binaryPath socketDir hostRoutes).conseq (fun _ hc => hc) ?_
    rintro (err | u) c hc
    · exact hc
    · trivial
  | load binaryPath socketDir => exact takes_loadProcess binaryPath socketDir

end Custody

namespace Launching

variable {lib : TextLib} {ε : Type} {s t : Launching ε}

/-- The rest of the call will settle what becomes of the child. -/
def Inv (lib : TextLib) (s : Launching ε) : Prop :=
  match s.phase with
  | .running rest =>
    Safe (fun c e r => some (Custody.after lib c e r)) (fun _ => True) (fun _ _ _ => True)
      (Ends (fun _ => True) Custody.Settled) rest s.custody
  | .finished _ => True

def FailedGone (s : Launching ε) : Prop := ∀ err, s.phase = .finished (.error err) → s.Gone

theorem gone_drop_iff (h : s.custody.Settled) (reaps : Bool) :
    (s.drop reaps).handle ≠ .held ↔
      (s.custody.stage = .connecting ∨ s.custody.stage = .abandoned →
        s.exited = true ∧ reaps = true) := by
  rw [Custody.Settled] at h
  rw [← h, drop]
  by_cases hheld : s.custody.handle = .held
  · by_cases hdrop : s.exited = true ∧ reaps = true
    · simp [hheld, hdrop]
    · rw [if_neg fun hall => hdrop hall.2]
      exact iff_of_false (fun hne => hne hheld) fun hall => hdrop (hall hheld)
  · rw [if_neg fun hall => hheld hall.1]
    exact iff_of_true hheld fun hall => absurd hall hheld

theorem inv_step {a : LaunchLabel} (h : s.Inv lib) (ht : s.step lib a = some t) :
    t.Inv lib ∧ (t.FailedGone ↔ s.FailedGone ∧ s.DropsEnded a) := by
  obtain ⟨phase, custody, exited⟩ := s
  cases a with
  | answer f =>
    cases phase with
    | finished result => cases ht
    | running rest =>
      cases rest with
      | done result => cases ht
      | effect e k =>
        simp only [step, Option.ite_none_right_eq_some, Option.some.injEq] at ht
        obtain ⟨-, rfl⟩ := ht
        refine ⟨(h (f e) _ trivial rfl).2, iff_of_true ?_ ⟨?_, trivial⟩⟩ <;> rintro err ⟨⟩
  | exit =>
    simp only [step, Option.ite_none_right_eq_some, Option.some.injEq] at ht
    obtain ⟨-, rfl⟩ := ht
    exact ⟨h, (and_iff_left trivial).symm⟩
  | finish reaps =>
    cases phase with
    | finished result => cases ht
    | running rest =>
      cases rest with
      | effect e k => cases ht
      | done result =>
        cases result with
        | ok u =>
          cases ht
          refine ⟨trivial, iff_of_true ?_ ⟨?_, trivial⟩⟩ <;> rintro err ⟨⟩
        | error err =>
          cases ht
          refine ⟨trivial, ?_⟩
          have hfailed : FailedGone ⟨.running (.done (.error err)), custody, exited⟩ := by
            rintro err' ⟨⟩
          rw [and_iff_right hfailed]
          have hdrop := gone_drop_iff (s := ⟨.running (.done (.error err)), custody, exited⟩) h
            reaps
          constructor
          · intro hgone
            exact hdrop.mp (hgone err rfl)
          · rintro hends err' ⟨⟩
            exact hdrop.mpr hends

end Launching

/-- **A failed launch leaves no child** exactly if it is killed and waited for, or ends and is
reaped. -/
theorem failed_launch_gone_iff (lib : TextLib) (call : Call) {labels : List LaunchLabel}
    {t : Launching call.Error} {e : call.Error}
    (hr : run (Launching.step lib) (Launching.start lib call) labels = some t)
    (he : t.phase = .finished (.error e)) :
    t.Gone ↔ Along (Launching.step lib) Launching.DropsEnded (Launching.start lib call) labels := by
  have hstart : (Launching.start lib call).FailedGone := by rintro err' ⟨⟩
  have hsafe : (Launching.start lib call).Inv lib := takes_code call _ rfl
  have hiff := run_iff_of_invariant (I := Launching.FailedGone) (J := Launching.Inv lib)
    (fun s a t h ht => (Launching.inv_step h ht).1)
    (fun s a t h ht => (Launching.inv_step h ht).2) hsafe hr
  rw [and_iff_right hstart] at hiff
  rw [← hiff]
  constructor
  · rintro hgone err' -
    exact hgone
  · intro hgone
    exact hgone e he

/-! ## Two failed launches -/

def plainText : TextLib where
  trim text := text
  debug text := "\"" ++ text ++ "\""
  decodeNoPad _ := .ok []

def answering (read : LineRead) : (e : Effect) → Answer e
  | .generateHostIdentity => .ok ⟨"-----BEGIN CERTIFICATE-----"⟩
  | .nextLine => read
  | .wait => .reaped
  | .waitBriefly => none
  | .announce _ _ => true
  | .checkHealth _ => .ok (1 : Int)
  | .spawn _ | .startKill | .clientTlsConfig _ | .connect _ | .serverTlsConfig _ | .bind _
  | .controllerShutdown | .dispense => .ok ()

def helloCall : Call := .launch "/opt/plugins/hello/hello".toList "/run/penguind".toList false

def silentLaunch : List LaunchLabel :=
  let next := LaunchLabel.answer (answering .timedOut)
  [next, next, next, next, .exit, next, .finish false]

theorem isSome_run_silentLaunch :
    (run (Launching.step plainText) (Launching.start plainText helloCall)
      silentLaunch).isSome = true := by
  decide +kernel

theorem silentLaunch_gone :
    ((run (Launching.step plainText) (Launching.start plainText helloCall) silentLaunch).get
      isSome_run_silentLaunch).Gone :=
  (failed_launch_gone_iff plainText helloCall (Option.some_get isSome_run_silentLaunch).symm
    (e := HostError.handshakeTimeout) rfl).mpr (by decide +kernel)

def bareLaunch : List LaunchLabel :=
  let next := LaunchLabel.answer (answering (.line "1|1|unix|/tmp/plugin.sock|grpc"))
  [next, next, next, .finish true]

theorem bareLaunch_runs_on :
    ∃ t, run (Launching.step plainText) (Launching.start plainText helloCall) bareLaunch = some t ∧
      t.phase = .finished (.error
        (HostError.tls "plugin did not present an AutoMTLS certificate")) ∧
      t.exited = false ∧ ¬ t.Gone := by
  refine ⟨_, (Option.some_get (by decide +kernel)).symm, rfl, rfl, ?_⟩
  exact fun hgone => hgone rfl

end Penguind.Goplugin
