import Penguind.Desktop.Action
import Penguind.Extplugin.Verify

/-!
# Executors of remote actions

The executors of scripts and of signed binaries start a process and wait for it with a time limit.
Dropping the handle of a child does not end it.
-/

namespace Penguind.Desktop

open Foundation Extplugin

/-! ## Errors and results -/

inductive DesktopError
  | keychainError (message : String)
  | noSession
  | invalidCredentials
  | apiRequest (status : UInt16)
  | oauthError (message : String)
  | invalidCallback (message : String)
  | urlError (message : String)
  | grpcError (message : String)
  | internal (message : String)
  deriving DecidableEq, Repr

def DesktopError.display : DesktopError → String
  | .keychainError message => "keychain operation failed: " ++ message
  | .noSession => "no active session"
  | .invalidCredentials => "invalid credentials"
  | .apiRequest status => "API request failed: status " ++ toString status
  | .oauthError message => "OAuth failed: " ++ message
  | .invalidCallback message => "invalid OAuth callback: " ++ message
  | .urlError message => "URL parsing failed: " ++ message
  | .grpcError message => "gRPC error: " ++ message
  | .internal message => "internal error: " ++ message

def orInternal {α : Type} (text : String) : Except String α → Except DesktopError α
  | .ok a => .ok a
  | .error source => .error (.internal (text ++ source))

def orMissing {α : Type} (text : String) : Option α → Except DesktopError α
  | some a => .ok a
  | none => .error (.internal text)

theorem bind_eq_ok {ε α β : Type} {x : Except ε α} {f : α → Except ε β} {b : β}
    (h : (x >>= f) = .ok b) : ∃ a, x = .ok a ∧ f a = .ok b := by
  cases x with
  | error e => cases h
  | ok a => exact ⟨a, rfl, h⟩

structure ExecResult where
  exitCode : Int32
  stdout : Bytes
  stderr : Bytes
  deriving DecidableEq, Repr

def maxOutputBytes : Nat := 64 * 1024

def capOutput (data : Bytes) : Bytes :=
  if data.length > maxOutputBytes then data.take maxOutputBytes else data

inductive OsString
  | text (s : String)
  | raw (bytes : Bytes)
  deriving DecidableEq, Repr

abbrev Env := OsString → Option OsString

def Env.var (env : Env) (name : String) : Option String :=
  match env (.text name) with
  | some (.text value) => some value
  | some (.raw _) | none => none

abbrev EnvMap := String → Option String

def EnvMap.insert (env : EnvMap) (name value : String) : EnvMap :=
  Function.update env name (some value)

structure Command where
  program : PathBuf
  currentDir : Option PathBuf
  envs : EnvMap

def Command.environment (c : Command) (parent : Env) : Env
  | .text name => ((c.envs name).map .text).or (parent (.text name))
  | .raw bytes => parent (.raw bytes)

/-! ## Processes -/

abbrev Time := Nat

structure Output where
  /-- The exit code, which a process ended by a signal does not have. -/
  code : Option Int32
  stdout : Bytes
  stderr : Bytes
  deriving DecidableEq, Repr

/-- When it ends of itself, and when it has read its script and its outputs are complete. -/
structure Child where
  ends : Option Time
  written : Option (Time × Except String Unit)
  waited : Option (Time × Except String Output)
  ended_of_waited : ∀ t out, waited = some (t, .ok out) → ∃ e ∈ ends, e ≤ t

def Child.EndedBy (c : Child) (t : Time) : Prop := ∃ e ∈ c.ends, e ≤ t

/-- The clock, how late the runtime looks, and which of two ready events it takes. -/
structure Runtime where
  clock : Nat
  delay : Time
  timeoutFirst : Bool

/-- `as u64`: a negative limit becomes a huge one. -/
def timeoutSecs (timeout : Int32) : Nat := timeout.toInt64.toUInt64.toNat

/-- A deadline the clock cannot hold is put thirty years ahead. -/
def sleepMillis (rt : Runtime) (timeout : Int32) : Time :=
  let secs := timeoutSecs timeout
  1000 * if rt.clock + secs < 2 ^ 63 then secs else 86400 * 365 * 30

inductive Waited
  | output (out : Output)
  | failed (source : String)
  | timedOut
  deriving DecidableEq, Repr

def looksAt (rt : Runtime) (timeout : Int32) (child : Child) (start : Time) : Time :=
  let deadline := start + sleepMillis rt timeout
  match child.waited with
  | none => deadline + rt.delay
  | some (t, _) => min (max start t) deadline + rt.delay

def waitWithTimeout (rt : Runtime) (timeout : Int32) (child : Child) (start : Time) : Waited :=
  let now := looksAt rt timeout child start
  match child.waited with
  | none => .timedOut
  | some (t, result) =>
    -- Dropping the wait does not end the process: nothing asks for it to be killed.
    if max start t ≤ now ∧ (now < start + sleepMillis rt timeout ∨ rt.timeoutFirst = false) then
      match result with
      | .ok out => .output out
      | .error source => .failed source
    else .timedOut

def Waited.collect (failedText timedOutText : String) : Waited → Except DesktopError Output
  | .output out => .ok out
  | .failed source => .error (.internal (failedText ++ source))
  | .timedOut => .error (.internal timedOutText)

structure Started where
  command : Command
  input : Option String
  child : Child

structure Execution where
  started : Option Started
  returned : Option (Time × Except DesktopError ExecResult)

def Execution.refused (e : DesktopError) : Execution := ⟨none, some (0, .error e)⟩

/-! ## Scripts -/

namespace ScriptExecutor

def interpreter (type : String) : Except DesktopError String :=
  if type = "bash" then .ok "bash"
  else if type = "powershell" then .ok "powershell"
  else if type = "python" then .ok "python3"
  else .error (.internal ("unsupported script type: " ++ type))

def allowedEnvKeys : List String := ["CUSTOM_VAR_1", "CUSTOM_VAR_2", "CUSTOM_VAR_3"]

def addHubVar (env : EnvMap) (field : String × Value) : EnvMap :=
  if field.1 ∈ allowedEnvKeys then
    match field.2.asStr with
    | some value => env.insert field.1 value
    | none => env
  else env

def addHubVars (parameters : Value) (env : EnvMap) : EnvMap :=
  match parameters.get "env" with
  | some vars => vars.fields.foldl addHubVar env
  | none => env

def buildEnv (parent : Env) (parameters : Value) : EnvMap :=
  let env := EnvMap.insert (fun _ => none) "PATH" "/usr/local/bin:/usr/bin:/bin"
  let env :=
    match parent.var "HOME" with
    | some home => env.insert "HOME" home
    | none => env
  let env := env.insert "LANG" "en_US.UTF-8"
  -- The command does not clear the environment, so this only adds to what is inherited.
  addHubVars parameters env

structure World where
  workDir : Except String PathBuf
  spawn : Command → Except String Child
  runtime : Runtime

def prepare (parent : Env) (w : World) (action : ActionRequest) :
    Except DesktopError (Command × String) := do
  let program ← interpreter action.type
  let script ← orMissing "script source not found" (scriptSource action.parameters)
  let dir ← orInternal "failed to create work dir: " w.workDir
  return (⟨program.toList, some dir, buildEnv parent action.parameters⟩, script)

def finish (rt : Runtime) (timeout : Int32) (child : Child) :
    Option (Time × Except DesktopError ExecResult) :=
  match child.written with
  -- The write has no limit: a process that never reads blocks the executor for good.
  | none => none
  | some (t, .error source) => some (t, .error (.internal ("failed to write stdin: " ++ source)))
  | some (t, .ok ()) =>
    let waited := waitWithTimeout rt timeout child t
    some (looksAt rt timeout child t,
      (waited.collect "subprocess error: " "subprocess timeout").map fun out =>
        ⟨out.code.getD (-1), capOutput out.stdout, capOutput out.stderr⟩)

def execute (parent : Env) (w : World) (action : ActionRequest) : Execution :=
  match prepare parent w action with
  | .error e => .refused e
  | .ok (command, script) =>
    match w.spawn command with
    | .error source =>
      .refused (.internal
        ("failed to spawn " ++ String.ofList command.program ++ ": " ++ source))
    | .ok child => ⟨some ⟨command, some script, child⟩, finish w.runtime action.timeout child⟩

end ScriptExecutor

/-! ## Signed binaries -/

structure FreshDir where
  path : PathBuf
  host : Host
  fresh : ∀ l, host.locate path <+: l → l ≠ host.locate path → ∃ source, host.node l = .error source

namespace SignedExecutor

structure Lib (K S : Type) extends Toolkit K S where
  decodeBase64 : String → Except String Bytes
  jsonToVec : Value → Except String Bytes

structure World where
  stagingDir : Except String FreshDir
  writeBinary : Except String FileMeta
  chmodBinary : Except String FileMeta
  writeManifest : Except String FileMeta
  uid : UInt32
  spawn : Command → Except String Child
  runtime : Runtime

def writeFile (h : Host) (path : PathBuf) (info : FileMeta) (content : Bytes) : Host :=
  { h with node := Function.update h.node (h.locate path) (.ok (.file info (.ok content))) }

def trustedPublishersDir : PathBuf := "/etc/penguin/trusted-publishers.d".toList

def checked {ε α : Type} (text : String) (display : ε → String) (x : HostM ε α) :
    Except DesktopError α :=
  match (x []).1 with
  | .ok a => .ok a
  | .error e => .error (.internal (text ++ display e))

/-- The manifest is loaded from the path of its file, where the loader expects its directory. -/
def prepare {K S : Type} (L : Lib K S) (w : World) (action : ActionRequest) :
    Except DesktopError Command := do
  let binaryB64 ← orMissing "binary field missing"
    ((action.parameters.get "binary").bind Value.asStr)
  let manifestJson ← orMissing "manifest field missing" (action.parameters.get "manifest")
  let binaryBytes ← orInternal "failed to decode binary: " (L.decodeBase64 binaryB64)
  let staging ← orInternal "failed to create staging dir: " w.stagingDir
  let binaryPath := unix.join staging.path "binary".toList
  let _written ← orInternal "failed to write binary: " w.writeBinary
  let binaryInfo ← orInternal "failed to chmod binary: " w.chmodBinary
  let manifestPath := unix.join staging.path "plugin.json".toList
  let manifestBytes ← orInternal "failed to serialize manifest: " (L.jsonToVec manifestJson)
  let manifestInfo ← orInternal "failed to write manifest: " w.writeManifest
  let host := writeFile (writeFile staging.host binaryPath binaryInfo binaryBytes) manifestPath
    manifestInfo manifestBytes
  -- The loader appends `plugin.json` to the path it is given, which already ends in it.
  let manifest ← checked "failed to load manifest: " ManifestError.display
    (loadManifest L.toToolkit host manifestPath)
  let verifier : Verifier := ⟨loadTrustedKeys host trustedPublishersDir⟩
  checked "signature verification failed: " VerifyError.display
    (verifier.verify L.toToolkit host staging.path manifest w.uid)
  return ⟨binaryPath, none, fun _ => none⟩

def execute {K S : Type} (L : Lib K S) (w : World) (action : ActionRequest) : Execution :=
  match prepare L w action with
  | .error e => .refused e
  | .ok command =>
    match w.spawn command with
    | .error source => .refused (.internal ("failed to spawn binary: " ++ source))
    | .ok child =>
      let waited := waitWithTimeout w.runtime action.timeout child 0
      ⟨some ⟨command, none, child⟩, some (looksAt w.runtime action.timeout child 0,
        (waited.collect "binary execution error: " "binary execution timeout").map fun out =>
          ⟨out.code.getD (-1), out.stdout, out.stderr⟩)⟩

end SignedExecutor

end Penguind.Desktop
