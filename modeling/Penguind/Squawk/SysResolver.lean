import Mathlib.Data.List.DropRight
import Mathlib.Data.List.Sort
import Penguind.Foundation.Program

/-!
# The system resolver

Pointing the host at other DNS servers and putting it back, as programs over single effects, with
the two Linux backends: the resolver daemon and the resolver file. `outstanding`, what was changed
and not put back, is kept for the statements only.
-/

namespace Penguind.Squawk

open Foundation

abbrev Bytes := List UInt8

inductive SysResolverError
  | noServers
  | noBackendAvailable
  | noBackupAvailable
  | corruptMarker (original quarantined source : String)
  | io (context source : String)
  | backend (message : String)
  deriving DecidableEq, Repr

def SysResolverError.display : SysResolverError → String
  | .noServers => "no DNS servers provided"
  | .noBackendAvailable => "no DNS backend is available on this platform"
  | .noBackupAvailable => "no DNS backup available to restore"
  | .corruptMarker original quarantined source =>
    "crash marker at " ++ original ++ " is corrupt and has been quarantined to " ++ quarantined ++
      ": " ++ source
  | .io context source => context ++ ": " ++ source
  | .backend message => message

structure Marker where
  previousServers : List String
  backend : String
  appliedAt : Nat
  deriving DecidableEq, Repr

structure ResolverLib (Ip : Type) where
  showIp : Ip → String
  parseIp : String → Option Ip
  encodeUtf8 : String → Bytes
  decodeUtf8Lossy : Bytes → List Char
  isWhitespace : Char → Bool
  encodeMarker : Marker → Bytes
  decodeMarker : Bytes → Except String Marker
  decode_encode : ∀ m, decodeMarker (encodeMarker m) = .ok m

inductive Backend
  | resolved
  | resolvConf
  deriving DecidableEq, Repr

def Backend.name : Backend → String
  | .resolved => "systemd-resolved"
  | .resolvConf => "resolv.conf"

theorem Backend.name_injective : Function.Injective Backend.name := by
  intro a b h
  cases a <;> cases b <;> first | rfl | exact absurd h (by decide)

inductive Part
  | link (index : Int)
  | resolvConf
  deriving DecidableEq, Repr

def Part.backend : Part → Backend
  | .link _ => .resolved
  | .resolvConf => .resolvConf

structure Link where
  name : String
  index : Int
  deriving DecidableEq, Repr

structure AppliedState (Ip : Type) where
  backend : String
  previousServers : List Ip
  deriving DecidableEq, Repr

structure SysResolver where
  backends : List Backend
  dataDir : String
  markerPath : String
  backupPath : String
  resolvConfPath : String

inductive FileId
  | marker
  | backup
  | resolvConf
  deriving DecidableEq, Repr

/-- The resolver's records, a change of the host, or putting it back. -/
inductive Purpose
  | record
  | commit
  | restore
  deriving DecidableEq, Repr

inductive Effect (Ip : Type)
  | dirExists
  | createDir
  /-- Opens a file for writing and empties it. -/
  | openTruncate (file : FileId) (purpose : Purpose)
  | writeAll (file : FileId) (purpose : Purpose) (data : Bytes)
  | chmod (file : FileId) (purpose : Purpose)
  | read (file : FileId)
  | remove (file : FileId)
  /-- Renames the marker out of the way. -/
  | quarantine (stamp : Nat)
  | now
  | isAvailable
  | readNetDir
  | setLinkDns (index : Int) (servers : List Ip)
  | setLinkDefaultRoute (index : Int) (enable : Bool)
  | revertLink (index : Int)
  | getState
  | setState (state : Option (AppliedState Ip))

/-- How far the effect got: bytes written, or whether it took effect all the same. -/
structure Fault where
  message : String
  progress : Nat
  deriving DecidableEq, Repr

inductive ReadAnswer
  | content (data : Bytes)
  | notFound
  | failed (message : String)
  deriving DecidableEq, Repr

inductive RemoveAnswer
  | ok
  | notFound
  | failed (message : String)
  deriving DecidableEq, Repr

def Answer {Ip : Type} : Effect Ip → Type
  | .dirExists | .isAvailable => Bool
  | .createDir | .openTruncate _ _ | .writeAll _ _ _ | .chmod _ _ | .quarantine _
  | .setLinkDns _ _ | .setLinkDefaultRoute _ _ | .revertLink _ => Except Fault Unit
  | .read _ => ReadAnswer
  | .remove _ => RemoveAnswer
  | .now => Nat
  | .readNetDir => Except SysResolverError (List Link)
  | .getState => Option (AppliedState Ip)
  | .setState _ => Unit

inductive Outcome
  | applied
  | restored
  /-- Crash recovery found no marker. -/
  | nothingToRecover
  | recovered
  deriving DecidableEq, Repr

/-- Results come with whether a part was changed at the time. -/
structure World (Ip : Type) where
  files : FileId → Option Bytes
  links : List Link
  state : Option (AppliedState Ip)
  outstanding : List Part
  reports : List (Except SysResolverError Outcome × Bool)

def loopback : String := "lo"

namespace World

variable {Ip : Type} (w : World Ip)

def setFile (file : FileId) (content : Option Bytes) : World Ip :=
  { w with files := Function.update w.files file content }

def change (p : Part) : World Ip := { w with outstanding := p :: w.outstanding }

def putBack (p : Part) : World Ip := { w with outstanding := w.outstanding.filter (· ≠ p) }

def setMemory (state : Option (AppliedState Ip)) : World Ip := { w with state := state }

def linkIndices : List Int := (w.links.filter (·.name ≠ loopback)).map Link.index

/-! ### What the effects do

An answer that the state does not allow is no step. -/

def openTruncate (file : FileId) (purpose : Purpose) : Except Fault Unit → World Ip
  | .error _ => w
  | .ok () =>
    -- a crash from here on finds an empty resolver file
    let w := w.setFile file (some [])
    if file = .resolvConf ∧ purpose = .commit then w.change .resolvConf else w

def writeAll (file : FileId) (purpose : Purpose) (data : Bytes) : Except Fault Unit → World Ip
  -- a write that fails leaves the part it has written
  | .error fault => w.setFile file (some (data.take fault.progress))
  | .ok () =>
    let w := w.setFile file (some data)
    if file = .resolvConf ∧ purpose = .restore then w.putBack .resolvConf else w

def read (file : FileId) : ReadAnswer → Option (World Ip)
  | .content data => if w.files file = some data then some w else none
  | .notFound => if w.files file = none then some w else none
  | .failed _ => some w

def remove (file : FileId) : RemoveAnswer → Option (World Ip)
  | .ok => if w.files file = none then none else some (w.setFile file none)
  | .notFound => if w.files file = none then some w else none
  | .failed _ => some w

def quarantine : Except Fault Unit → World Ip
  | .ok () => w.setFile .marker none
  | .error _ => w

def readNetDir : Except SysResolverError (List Link) → Option (World Ip)
  | .ok links => if links = w.links then some w else none
  | .error _ => some w

/-- A call that fails may have taken effect. -/
def configureLink (index : Int) : Except Fault Unit → Option (World Ip)
  | .ok () => if index ∈ w.linkIndices then some (w.change (.link index)) else none
  | .error fault =>
    if fault.progress = 0 then some w
    else if index ∈ w.linkIndices then some (w.change (.link index)) else none

def revertLink (index : Int) : Except Fault Unit → World Ip
  | .ok () => w.putBack (.link index)
  | .error fault => if fault.progress = 0 then w else w.putBack (.link index)

def getState [DecidableEq Ip] (state : Option (AppliedState Ip)) : Option (World Ip) :=
  if state = w.state then some w else none

end World

def act {Ip : Type} [DecidableEq Ip] (w : World Ip) : (e : Effect Ip) → Answer e → Option (World Ip)
  | .dirExists | .createDir | .now | .isAvailable | .chmod _ _ => fun _ => some w
  | .openTruncate file purpose => fun r => some (w.openTruncate file purpose r)
  | .writeAll file purpose data => fun r => some (w.writeAll file purpose data r)
  | .read file => w.read file
  | .remove file => w.remove file
  | .quarantine _ => fun r => some (w.quarantine r)
  | .readNetDir => w.readNetDir
  | .setLinkDns index _ | .setLinkDefaultRoute index _ => w.configureLink index
  | .revertLink index => fun r => some (w.revertLink index r)
  | .getState => w.getState
  | .setState state => fun _ => some (w.setMemory state)

abbrev Op (Ip : Type) := ProgE SysResolverError (Effect Ip) Answer

namespace Sys

variable {Ip : Type}

def dirExists : Op Ip Bool := ProgE.call Effect.dirExists

def createDir : Op Ip (Except Fault Unit) := ProgE.call Effect.createDir

def openTruncate (file : FileId) (purpose : Purpose) : Op Ip (Except Fault Unit) :=
  ProgE.call (Effect.openTruncate file purpose)

def writeAll (file : FileId) (purpose : Purpose) (data : Bytes) : Op Ip (Except Fault Unit) :=
  ProgE.call (Effect.writeAll file purpose data)

def chmod (file : FileId) (purpose : Purpose) : Op Ip (Except Fault Unit) :=
  ProgE.call (Effect.chmod file purpose)

def read (file : FileId) : Op Ip ReadAnswer := ProgE.call (Effect.read file)

def remove (file : FileId) : Op Ip RemoveAnswer := ProgE.call (Effect.remove file)

def quarantine (stamp : Nat) : Op Ip (Except Fault Unit) := ProgE.call (Effect.quarantine stamp)

def now : Op Ip Nat := ProgE.call Effect.now

def isAvailable : Op Ip Bool := ProgE.call Effect.isAvailable

def readNetDir : Op Ip (Except SysResolverError (List Link)) := ProgE.call Effect.readNetDir

def setLinkDns (index : Int) (servers : List Ip) : Op Ip (Except Fault Unit) :=
  ProgE.call (Effect.setLinkDns index servers)

def setLinkDefaultRoute (index : Int) (enable : Bool) : Op Ip (Except Fault Unit) :=
  ProgE.call (Effect.setLinkDefaultRoute index enable)

def revertLink (index : Int) : Op Ip (Except Fault Unit) := ProgE.call (Effect.revertLink index)

def getState : Op Ip (Option (AppliedState Ip)) := ProgE.call Effect.getState

def setState (state : Option (AppliedState Ip)) : Op Ip Unit :=
  ProgE.call (Effect.setState state)

end Sys

section Programs

variable {Ip : Type} (L : ResolverLib Ip) (r : SysResolver)

def SysResolver.path : FileId → String
  | .marker => r.markerPath
  | .backup => r.backupPath
  | .resolvConf => r.resolvConfPath

def orIo (context : String) : Except Fault Unit → Op Ip Unit
  | .ok () => pure ()
  | .error fault => throw (.io context fault.message)

def orBackend (call : String) : Except Fault Unit → Op Ip Unit
  | .ok () => pure ()
  | .error fault => throw (.backend (call ++ ": " ++ fault.message))

def createDirAllOwnerOnly : Op Ip Unit := do
  let existing ← Sys.dirExists
  if existing then pure ()
  else
    let created ← Sys.createDir
    orIo ("create directory " ++ r.dataDir) created

def writeOwnerOnly (file : FileId) (purpose : Purpose) (data : Bytes) : Op Ip Unit := do
  let opened ← Sys.openTruncate file purpose
  orIo ("create " ++ r.path file) opened
  let written ← Sys.writeAll file purpose data
  orIo ("write " ++ r.path file) written
  let moded ← Sys.chmod file purpose
  orIo ("chmod " ++ r.path file) moded

/-! ### The marker -/

namespace MarkerStore

def write (marker : Marker) : Op Ip Unit := do
  createDirAllOwnerOnly r
  writeOwnerOnly r .marker .record (L.encodeMarker marker)

/-- A failure to move the marker leaves it. -/
def quarantineAndReport (source : String) : Op Ip (Option Marker) := do
  let stamp ← Sys.now
  let renamed ← Sys.quarantine stamp
  let quarantined :=
    match renamed with
    | .ok () => r.dataDir ++ "/dns-applied.json.corrupt-" ++ toString stamp
    | .error _ => r.markerPath
  throw (.corruptMarker r.markerPath quarantined source)

def load : Op Ip (Option Marker) := do
  let found ← Sys.read .marker
  match found with
  | .notFound => return none
  | .failed source => throw (.io ("read crash marker " ++ r.markerPath) source)
  | .content data =>
    match L.decodeMarker data with
    | .ok marker => return some marker
    | .error source => quarantineAndReport r source

def delete : Op Ip Unit := do
  let removed ← Sys.remove .marker
  match removed with
  | .ok | .notFound => pure ()
  | .failed source => throw (.io ("delete crash marker " ++ r.markerPath) source)

end MarkerStore

def Marker.parseServers (m : Marker) : List Ip := m.previousServers.filterMap L.parseIp

/-! ### The resolver daemon -/

def enumerateLinks : Op Ip (List Link) := do
  let found ← Sys.readNetDir
  match found with
  | .error err => throw err
  | .ok links =>
    return (links.filter (·.name ≠ loopback)).insertionSort fun a b => a.name ≤ b.name

namespace Resolved

def snapshot : Op Ip (List Ip) := do
  let available ← Sys.isAvailable
  -- the daemon has no call that reads the servers of a link back
  if available then return []
  else throw (.backend "systemd-resolved is not reachable on the system bus")

def commitLinks (servers : List Ip) : List Link → Op Ip Unit
  | [] => pure ()
  | link :: links => do
    let set ← Sys.setLinkDns link.index servers
    orBackend "SetLinkDNS" set
    let routed ← Sys.setLinkDefaultRoute link.index true
    orBackend "SetLinkDefaultRoute" routed
    commitLinks servers links

def commit (servers : List Ip) : Op Ip Unit := do
  let targets ← enumerateLinks
  -- `restore` has no such check: with no links it succeeds
  if targets = [] then throw (.backend "no network links found")
  else commitLinks servers targets

def revertLinks : List Link → Op Ip Unit
  | [] => pure ()
  | link :: links => do
    let reverted ← Sys.revertLink link.index
    orBackend "RevertLink" reverted
    revertLinks links

def restore : Op Ip Unit := do
  let targets ← enumerateLinks
  revertLinks targets

end Resolved

/-! ### The resolver file -/

def lines (text : List Char) : List (List Char) :=
  let parts := text.splitOn '\n'
  -- a final line end does not start another line
  let parts := if parts.getLast? = some [] then parts.dropLast else parts
  parts.map fun l => if l.getLast? = some '\r' then l.dropLast else l

def trim (l : List Char) : List Char :=
  (l.dropWhile L.isWhitespace).rdropWhile L.isWhitespace

def parseNameservers (content : List Char) : List Ip :=
  (lines content).filterMap fun line =>
    let line := trim L line
    if "nameserver ".toList <+: line then
      L.parseIp (String.ofList (trim L (line.drop "nameserver ".toList.length)))
    else none

def formatResolvConf (servers : List Ip) : String :=
  String.intercalate "\n" (["# Generated by penguin squawk module"] ++
    servers.map (fun server => "nameserver " ++ L.showIp server) ++ [""])

namespace ResolvConf

/-- Copies the file before anything is changed; a missing file has no copy. -/
def snapshot : Op Ip (List Ip) := do
  let found ← Sys.read .resolvConf
  match found with
  | .notFound => return []
  | .failed source => throw (.io ("read " ++ r.resolvConfPath) source)
  | .content content =>
    writeOwnerOnly r .backup .record content
    return parseNameservers L (L.decodeUtf8Lossy content)

/-- Changes the host, and without a copy puts it back. -/
def commit (purpose : Purpose) (servers : List Ip) : Op Ip Unit :=
  writeOwnerOnly r .resolvConf purpose (L.encodeUtf8 (formatResolvConf L servers))

def restore (fallbackServers : List Ip) : Op Ip Unit := do
  let found ← Sys.read .backup
  match found with
  | .notFound => commit L r .restore fallbackServers
  | .failed source => throw (.io ("read " ++ r.backupPath) source)
  | .content backup =>
    writeOwnerOnly r .resolvConf .restore backup
    -- a copy that cannot be removed is only logged
    let _removed ← Sys.remove .backup
    pure ()

end ResolvConf

namespace Backend

def snapshot : Backend → Op Ip (List Ip)
  | .resolved => Resolved.snapshot
  | .resolvConf => ResolvConf.snapshot L r

def commit (servers : List Ip) : Backend → Op Ip Unit
  | .resolved => Resolved.commit servers
  | .resolvConf => ResolvConf.commit L r .commit servers

def restore (fallbackServers : List Ip) : Backend → Op Ip Unit
  | .resolved => Resolved.restore
  | .resolvConf => ResolvConf.restore L r fallbackServers

end Backend

def selectAndSnapshot (lastErr : SysResolverError) : List Backend → Op Ip (Backend × List Ip)
  | [] => throw lastErr
  | b :: bs => do
    let attempt ← ProgE.attempt (b.snapshot L r)
    match attempt with
    | .ok previous => return (b, previous)
    -- the error is kept only until another backend fails
    | .error err => selectAndSnapshot err bs

def apply (servers : List Ip) : Op Ip Outcome := do
  if servers = [] then throw .noServers
  else
    let (b, previous) ← selectAndSnapshot L r .noBackendAvailable r.backends
    let appliedAt ← Sys.now
    -- the marker is on disk before the first change
    MarkerStore.write L r ⟨previous.map L.showIp, b.name, appliedAt⟩
    -- the commit may fail halfway; the source takes every failure as if nothing was changed
    let committed ← ProgE.attempt (b.commit L r servers)
    match committed with
    | .error err =>
      let _cleanup ← ProgE.attempt (MarkerStore.delete r)
      throw err
    | .ok () =>
      Sys.setState (some ⟨b.name, previous⟩)
      return .applied

def findBackend (name : String) : Op Ip Backend :=
  match r.backends.find? (·.name = name) with
  | some b => pure b
  | none =>
    -- an unknown name is logged, and the backend of the highest priority is taken
    match r.backends.head? with
    | some first => pure first
    | none => throw .noBackendAvailable

def loadMarkerOrFail : Op Ip (String × List Ip) := do
  let loaded ← MarkerStore.load L r
  match loaded with
  | none => throw .noBackupAvailable
  | some marker => return (marker.backend, marker.parseServers L)

def restore : Op Ip Outcome := do
  let cached ← Sys.getState
  let resolved : Op Ip (String × List Ip) :=
    match cached with
    | some applied => pure (applied.backend, applied.previousServers)
    | none => loadMarkerOrFail L r
  let (name, previous) ← resolved
  let b ← findBackend r name
  b.restore L r previous
  Sys.setState none
  -- a marker that cannot be deleted is only logged
  let _cleanup ← ProgE.attempt (MarkerStore.delete r)
  return .restored

/-- The result says which of its two ways to succeed was taken. -/
def recoverFromCrash : Op Ip Outcome := do
  let loaded ← MarkerStore.load L r
  match loaded with
  | none => return .nothingToRecover
  | some marker =>
    let b ← findBackend r marker.backend
    b.restore L r (marker.parseServers L)
    -- unlike in `restore`, a marker that cannot be deleted is an error here
    MarkerStore.delete r
    Sys.setState none
    return .recovered

end Programs

inductive Operation (Ip : Type)
  | apply (servers : List Ip)
  | restore
  | recoverFromCrash

section Process

variable {Ip : Type} [DecidableEq Ip] (L : ResolverLib Ip) (r : SysResolver)

def program : Operation Ip → Prog (Effect Ip) Answer (Except SysResolverError Outcome)
  | .apply servers => apply L r servers
  | .restore => restore L r
  | .recoverFromCrash => recoverFromCrash L r

def relink (links : List Link) (w : World Ip) : World Ip :=
  let w := { w with links := links }
  { w with outstanding := w.outstanding.filter fun
      | .link index => index ∈ w.linkIndices
      | .resolvConf => True }

def sysResolver :
    CrashMachine (World Ip) (Effect Ip) Answer (Operation Ip)
      (Except SysResolverError Outcome) (List Link) where
  act := act
  code := program L r
  finish result w := { w with reports := w.reports ++ [(result, !w.outstanding.isEmpty)] }
  crash w := w.setMemory none
  env links w := some (relink links w)

end Process

end Penguind.Squawk
