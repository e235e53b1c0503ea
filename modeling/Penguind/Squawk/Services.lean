import Mathlib.Data.List.Infix
import Penguind.Squawk.CrashMarker

/-!
# The resolver on hosts configured by commands

On macOS and Windows the resolver runs a command for each service, to change it and to put it
back. That a command does not run is only logged, that it fails is not looked at, and the services
are listed anew each time.
-/

namespace Penguind.Squawk

open Foundation

structure ServiceLib (Ip : Type) extends ResolverLib Ip where
  toLowercase : List Char → List Char

structure CommandOutput where
  success : Bool
  stdout : String

inductive Use
  /-- Listing the services, to read the servers of the first one. -/
  | survey
  | reading
  /-- Listing the services, to go through them. -/
  | listing
  | setting (place : Nat) (service : String)
  | resetting (place : Nat) (service : String)
  deriving DecidableEq

/-- One that fails may have taken effect all the same. -/
inductive CommandAnswer
  | notRun (source : String)
  | failed (stdout : String) (effective : Bool)
  | succeeded (stdout : String)

namespace CommandAnswer

/-- A failing exit is an ordinary result. -/
def output (program : String) : CommandAnswer → Except SysResolverError CommandOutput
  | .notRun source => .error (.io ("run " ++ program) source)
  | .failed stdout _ => .ok ⟨false, stdout⟩
  | .succeeded stdout => .ok ⟨true, stdout⟩

def effective : CommandAnswer → Bool
  | .notRun _ => false
  | .failed _ effective => effective
  | .succeeded _ => true

end CommandAnswer

inductive ServiceEffect (Ip : Type)
  | run (use : Use) (program : String) (args : List String)
  | now
  | writeMarker (marker : Marker)
  | loadMarker
  | deleteMarker
  | getState
  | setState (state : Option (AppliedState Ip))

def ServiceAnswer {Ip : Type} : ServiceEffect Ip → Type
  | .run _ _ _ => Except SysResolverError CommandOutput
  | .now => Nat
  | .writeMarker _ | .deleteMarker => Except SysResolverError Unit
  | .loadMarker => Except SysResolverError (Option Marker)
  | .getState => Option (AppliedState Ip)
  | .setState _ => Unit

abbrev ServiceOp (Ip : Type) := ProgE SysResolverError (ServiceEffect Ip) ServiceAnswer

namespace Run

variable {Ip : Type}

def command (use : Use) (program : String) (args : List String) :
    ServiceOp Ip (Except SysResolverError CommandOutput) :=
  ProgE.call (ServiceEffect.run use program args)

def now : ServiceOp Ip Nat := ProgE.call ServiceEffect.now

def writeMarker (marker : Marker) : ServiceOp Ip (Except SysResolverError Unit) :=
  ProgE.call (ServiceEffect.writeMarker marker)

def loadMarker : ServiceOp Ip (Except SysResolverError (Option Marker)) :=
  ProgE.call ServiceEffect.loadMarker

def deleteMarker : ServiceOp Ip (Except SysResolverError Unit) :=
  ProgE.call ServiceEffect.deleteMarker

def getState : ServiceOp Ip (Option (AppliedState Ip)) := ProgE.call ServiceEffect.getState

def setState (state : Option (AppliedState Ip)) : ServiceOp Ip Unit :=
  ProgE.call (ServiceEffect.setState state)

end Run

/-! ## The tools -/

structure Tool (Ip : Type) where
  name : String
  program : String
  listArgs : List String
  services : String → List String
  noneFound : String
  skips : String → Bool
  getArgs : String → List String
  servers : String → List Ip
  setArgs : List Ip → String → List String
  resetArgs : String → List String

section Tools

variable {Ip : Type} (L : ServiceLib Ip)

def splitWhitespace (text : List Char) : List (List Char) :=
  (text.splitOnP fun c => L.isWhitespace c).filter (· ≠ [])

def networkSetup : Tool Ip where
  name := "networksetup"
  program := "networksetup"
  listArgs := ["-listallnetworkservices"]
  services stdout := (lines stdout.toList).filterMap fun line =>
    let line := trim L.toResolverLib line
    -- the line that explains the asterisk, and the asterisk before a disabled service, stay
    if line = [] ∨ "(".toList <+: line then none else some (String.ofList line)
  noneFound := "no network services found"
  skips service := "ppp".toList <:+: L.toLowercase service.toList
  getArgs service := ["-getdnsservers", service]
  servers stdout := (lines stdout.toList).filterMap fun line =>
    let line := trim L.toResolverLib line
    if line = [] ∨ "DNS".toList <+: line ∨ "There aren't any".toList <+: line then none
    else L.parseIp (String.ofList line)
  setArgs servers service := ["-setdnsservers", service] ++ servers.map L.showIp
  resetArgs service := ["-setdnsservers", service, "Empty"]

def netsh : Tool Ip where
  name := "netsh"
  program := "netsh"
  listArgs := ["interface", "show", "interface"]
  services stdout := (lines stdout.toList).filterMap fun line =>
    let line := trim L.toResolverLib line
    if line = [] ∨ "Admin State".toList <+: line then none
    else
      let fields := splitWhitespace L line
      -- of a name with blanks only the last part is taken
      if fields.length < 4 then none else fields.getLast?.map String.ofList
  noneFound := "no network interfaces found"
  skips _ := false
  getArgs iface := ["interface", "ip", "show", "dns", iface]
  servers stdout := (lines stdout.toList).filterMap fun line =>
    let line := trim L.toResolverLib line
    if ':' ∈ line then
      L.parseIp (String.ofList (trim L.toResolverLib ((line.dropWhile (· ≠ ':')).drop 1)))
    else none
  setArgs servers iface :=
    ["interface", "ip", "set", "dnsservers", "name=" ++ iface, "static"] ++
      (servers.take 1).map L.showIp ++
      (servers[1]?.elim [] fun secondary => ["index=2", L.showIp secondary])
  resetArgs iface := ["interface", "ip", "set", "dnsservers", "name=" ++ iface, "dhcp"]

end Tools

/-! ## The backends -/

namespace Tool

variable {Ip : Type} (t : Tool Ip)

def list (use : Use) : ServiceOp Ip (List String) := do
  let result ← Run.command use t.program t.listArgs
  let output ← ProgE.ofExcept result
  return t.services output.stdout

def current : ServiceOp Ip (List Ip) := do
  let services ← t.list .survey
  match services.head? with
  | none => throw (.backend t.noneFound)
  | some first =>
    let result ← Run.command .reading t.program (t.getArgs first)
    let output ← ProgE.ofExcept result
    let servers := t.servers output.stdout
    if servers = [] then throw (.backend "no DNS servers configured") else return servers

def snapshot : ServiceOp Ip (List Ip) := do
  let current ← ProgE.attempt t.current
  match current with
  | .ok servers => return servers
  | .error _ => return []

def forEach (use : Nat → String → Use) (args : String → List String) :
    Nat → List String → ServiceOp Ip Unit
  | _, [] => pure ()
  | place, service :: rest => do
    if t.skips service then forEach use args (place + 1) rest
    else
      -- a command that does not run is only logged
      let _result ← Run.command (use place service) t.program (args service)
      forEach use args (place + 1) rest

def commit (servers : List Ip) : ServiceOp Ip Unit := do
  let services ← t.list .listing
  if services = [] then throw (.backend t.noneFound)
  else t.forEach .setting (t.setArgs servers) 0 services

def restore (_fallbackServers : List Ip) : ServiceOp Ip Unit := do
  let services ← t.list .listing
  -- an empty list is no error here
  t.forEach .resetting t.resetArgs 0 services

end Tool

def Netsh.commit {Ip : Type} (L : ServiceLib Ip) (servers : List Ip) : ServiceOp Ip Unit := do
  let interfaces ← (netsh L).list .listing
  if interfaces = [] then throw (.backend (netsh L).noneFound)
  else if servers = [] then throw .noServers
  else (netsh L).forEach .setting ((netsh L).setArgs servers) 0 interfaces

inductive Platform
  | macos
  | windows
  deriving DecidableEq

namespace Platform

variable {Ip : Type} (L : ServiceLib Ip)

def tool : Platform → Tool Ip
  | .macos => networkSetup L
  | .windows => netsh L

def commit (servers : List Ip) : Platform → ServiceOp Ip Unit
  | .macos => (networkSetup L).commit servers
  | .windows => Netsh.commit L servers

end Platform

namespace Services

variable {Ip : Type} (L : ServiceLib Ip) (p : Platform)

def commitMarked (servers previous : List Ip) : ServiceOp Ip Outcome := do
  let committed ← ProgE.attempt (p.commit L servers)
  match committed with
  | .error err =>
    let _cleanup ← Run.deleteMarker
    throw err
  | .ok () =>
    Run.setState (some ⟨(p.tool L).name, previous⟩)
    return .applied

def apply (servers : List Ip) : ServiceOp Ip Outcome := do
  if servers = [] then throw .noServers
  else
    let previous ← (p.tool L).snapshot
    let appliedAt ← Run.now
    let written ← Run.writeMarker ⟨previous.map L.showIp, (p.tool L).name, appliedAt⟩
    ProgE.ofExcept written
    commitMarked L p servers previous

def loadMarkerOrFail : ServiceOp Ip (List Ip) := do
  let loaded ← Run.loadMarker
  let marker ← ProgE.ofExcept loaded
  match marker with
  | none => throw .noBackupAvailable
  | some marker => return marker.parseServers L.toResolverLib

def previousServers : Option (AppliedState Ip) → ServiceOp Ip (List Ip)
  | some applied => pure applied.previousServers
  | none => loadMarkerOrFail L

/-- Whatever backend the record names, there is only one. -/
def restore : ServiceOp Ip Outcome := do
  let cached ← Run.getState
  let previous ← previousServers L cached
  (p.tool L).restore previous
  Run.setState none
  let _cleanup ← Run.deleteMarker
  return .restored

def recoverFromCrash : ServiceOp Ip Outcome := do
  let loaded ← Run.loadMarker
  let marker ← ProgE.ofExcept loaded
  match marker with
  | none => return .nothingToRecover
  | some marker =>
    (p.tool L).restore (marker.parseServers L.toResolverLib)
    let deleted ← Run.deleteMarker
    ProgE.ofExcept deleted
    Run.setState none
    return .recovered

def program : Operation Ip → Prog (ServiceEffect Ip) ServiceAnswer (Except SysResolverError Outcome)
  | .apply servers => apply L p servers
  | .restore => restore L p
  | .recoverFromCrash => recoverFromCrash L p

end Services

inductive MarkerFile
  | whole (marker : Marker)
  | broken (source : String)

structure ServiceWorld (Ip : Type) where
  marker : Option MarkerFile
  state : Option (AppliedState Ip)
  changed : List String
  touched : List String

structure Environment where
  command : Use → CommandAnswer
  now : Nat
  /-- A write that fails leaves the marker in any state. -/
  write : Except (SysResolverError × Option MarkerFile) Unit
  /-- The error of a read that fails. -/
  readError : Option SysResolverError
  /-- A marker that does not parse can be moved out of the way. -/
  quarantine : Bool
  delete : Except SysResolverError Unit

namespace Environment

variable {Ip : Type} (env : Environment) (t : Tool Ip)

def listed (use : Use) : Except SysResolverError (List String) :=
  ((env.command use).output t.program).map fun output => t.services output.stdout

/-- A command takes effect for `service`, from a place in the list on. -/
def Reaches (use : Nat → String → Use) (place : Nat) (services : List String)
    (service : String) : Prop :=
  ∃ i, services[i]? = some service ∧ t.skips service = false ∧
    (env.command (use (place + i) service)).effective = true

end Environment

namespace ServiceWorld

variable {Ip : Type}

def fresh : ServiceWorld Ip := ⟨none, none, [], []⟩

def ran (w : ServiceWorld Ip) (use : Use) (effective : Bool) : ServiceWorld Ip :=
  match effective, use with
  | false, _ | true, .survey | true, .reading | true, .listing => w
  | true, .setting _ service =>
    { w with changed := service :: w.changed, touched := service :: w.touched }
  | true, .resetting _ service => { w with changed := w.changed.filter (· ≠ service) }

def loadMarker (env : Environment) (dataDir : String) (w : ServiceWorld Ip) :
    Except SysResolverError (Option Marker) × ServiceWorld Ip :=
  let path := dataDir ++ "/dns-applied.json"
  match env.readError, w.marker with
  | some err, _ => (.error err, w)
  | none, none => (.ok none, w)
  | none, some (.whole marker) => (.ok (some marker), w)
  | none, some (.broken source) =>
    if env.quarantine then
      (.error (.corruptMarker path (path ++ ".corrupt-" ++ toString env.now) source),
        { w with marker := none })
    else (.error (.corruptMarker path path source), w)

def handle (env : Environment) (dataDir : String) :
    (e : ServiceEffect Ip) → ServiceWorld Ip → ServiceAnswer e × ServiceWorld Ip
  | .run use program _, w =>
    ((env.command use).output program, w.ran use (env.command use).effective)
  | .now, w => (env.now, w)
  | .writeMarker marker, w =>
    match env.write with
    | .ok () => (.ok (), { w with marker := some (.whole marker) })
    | .error (err, left) => (.error err, { w with marker := left })
  | .loadMarker, w => w.loadMarker env dataDir
  | .deleteMarker, w =>
    match env.delete with
    | .ok () => (.ok (), { w with marker := none })
    | .error err => (.error err, w)
  | .getState, w => (w.state, w)
  | .setState state, w => ((), { w with state := state })

end ServiceWorld

inductive ServiceLabel (Ip : Type)
  | call (op : Operation Ip) (env : Environment)
  | crash (op : Operation Ip) (env : Environment) (effects : Nat)

namespace ServiceWorld

variable {Ip : Type} (L : ServiceLib Ip) (p : Platform) (dataDir : String)

def perform (w : ServiceWorld Ip) (op : Operation Ip) (env : Environment) :
    Except SysResolverError Outcome × ServiceWorld Ip :=
  (Services.program L p op).exec (handle env dataDir) { w with touched := [] }

def step (w : ServiceWorld Ip) : ServiceLabel Ip → Option (ServiceWorld Ip)
  | .call op env => some (w.perform L p dataDir op env).2
  | .crash op env effects =>
    let w := (Services.program L p op).execFor (handle env dataDir) effects w
    some { w with state := none }

/-- An apply has changed a service, a restore leaves none changed. -/
def Justified (w : ServiceWorld Ip) : ServiceLabel Ip → Prop
  | .call op env =>
    ((w.perform L p dataDir op env).1 = .ok .applied →
      (w.perform L p dataDir op env).2.touched ≠ []) ∧
    ((w.perform L p dataDir op env).1 = .ok .restored →
      (w.perform L p dataDir op env).2.changed = [])
  | .crash _ _ _ => True

def HasRecord (w : ServiceWorld Ip) (env : Environment) : Prop :=
  w.state ≠ none ∨ env.readError = none ∧ ∃ marker, w.marker = some (.whole marker)

/-- Commands that are reached take effect: one in an apply, those of all changed services in a
restore. -/
def Effective (w : ServiceWorld Ip) : ServiceLabel Ip → Prop
  | .call (.apply servers) env =>
    servers ≠ [] → env.write = .ok () → ∀ services, env.listed (p.tool L) .listing = .ok services →
      services ≠ [] → ∃ service, env.Reaches (p.tool L) .setting 0 services service
  | .call .restore env =>
    w.HasRecord env → ∀ services, env.listed (p.tool L) .listing = .ok services →
      ∀ service ∈ w.changed, env.Reaches (p.tool L) .resetting 0 services service
  | .call .recoverFromCrash _ | .crash _ _ _ => True

end ServiceWorld

/-! ## What the programs do -/

section Exec

variable {Ip : Type} {L : ServiceLib Ip} {p : Platform} {dataDir : String} {env : Environment}
  {t : Tool Ip} {w : ServiceWorld Ip}

variable {place : Nat} {first service : String} {use : Nat → String → Use}

open ServiceWorld

@[simp] theorem exec_command (use : Use) (program : String) (args : List String) :
    Prog.exec (handle env dataDir) (Run.command use program args) w =
      (.ok ((env.command use).output program), w.ran use (env.command use).effective) := rfl

@[simp] theorem exec_now :
    Prog.exec (handle env dataDir) (Run.now : ServiceOp Ip Nat) w = (.ok env.now, w) := rfl

@[simp] theorem exec_writeMarker (m : Marker) :
    Prog.exec (handle env dataDir) (Run.writeMarker m) w =
      (.ok (handle env dataDir (.writeMarker m) w).1, (handle env dataDir (.writeMarker m) w).2) :=
  rfl

@[simp] theorem exec_loadMarker :
    Prog.exec (handle env dataDir) Run.loadMarker w =
      (.ok (w.loadMarker env dataDir).1, (w.loadMarker env dataDir).2) := rfl

@[simp] theorem exec_deleteMarker :
    Prog.exec (handle env dataDir) Run.deleteMarker w =
      (.ok (handle env dataDir .deleteMarker w).1, (handle env dataDir .deleteMarker w).2) := rfl

@[simp] theorem exec_getState :
    Prog.exec (handle env dataDir) Run.getState w = (.ok w.state, w) := rfl

@[simp] theorem exec_setState (state : Option (AppliedState Ip)) :
    Prog.exec (handle env dataDir) (Run.setState state) w =
      (.ok (), { w with state := state }) := rfl

theorem ran_eq_self {use : Use} (huse : use = .survey ∨ use = .reading ∨ use = .listing)
    (w : ServiceWorld Ip) (b : Bool) : w.ran use b = w := by
  rcases huse with rfl | rfl | rfl <;> cases b <;> rfl

theorem exec_list {use : Use} (huse : use = .survey ∨ use = .reading ∨ use = .listing)
    (w : ServiceWorld Ip) :
    Prog.exec (handle env dataDir) (t.list use) w = (env.listed t use, w) := by
  rw [Environment.listed]
  cases hout : (env.command use).output t.program <;>
    simp [Tool.list, hout, ran_eq_self huse, Except.map]

theorem exec_snapshot (w : ServiceWorld Ip) :
    ∃ previous, Prog.exec (handle env dataDir) t.snapshot w = (.ok previous, w) := by
  have hcurrent : (Prog.exec (handle env dataDir) t.current w).2 = w := by
    rw [Tool.current, exec_bindE, exec_list (.inl rfl)]
    cases env.listed t .survey with
    | error err => rfl
    | ok services =>
      cases hfirst : services.head? with
      | none => simp [hfirst]
      | some first =>
        cases hout : (env.command .reading).output t.program with
        | error err => simp [hfirst, hout, ran_eq_self (.inr (.inl rfl))]
        | ok output =>
          by_cases hnone : t.servers output.stdout = []
          · simp [hfirst, hout, hnone, ran_eq_self (.inr (.inl rfl))]
          · simp [hfirst, hout, hnone, ran_eq_self (.inr (.inl rfl))]
  simp only [Tool.snapshot, exec_bindE, exec_attempt, hcurrent]
  cases (Prog.exec (handle env dataDir) t.current w).1 with
  | error err => exact ⟨[], rfl⟩
  | ok servers => exact ⟨servers, rfl⟩

def ranEach (env : Environment) (t : Tool Ip) (use : Nat → String → Use) :
    Nat → List String → ServiceWorld Ip → ServiceWorld Ip
  | _, [], w => w
  | place, service :: rest, w =>
    if t.skips service then ranEach env t use (place + 1) rest w
    else
      ranEach env t use (place + 1) rest
        (w.ran (use place service) (env.command (use place service)).effective)

theorem exec_forEach (use : Nat → String → Use) (args : String → List String) (place : Nat)
    (services : List String) (w : ServiceWorld Ip) :
    Prog.exec (handle env dataDir) (t.forEach use args place services) w =
      (.ok (), ranEach env t use place services w) := by
  induction services generalizing place w with
  | nil => rfl
  | cons service rest ih =>
    rw [Tool.forEach, ranEach]
    by_cases hskip : t.skips service = true
    · rw [if_pos hskip, if_pos hskip, ih]
    · rw [if_neg hskip, if_neg hskip, ← ih]
      rfl

theorem reaches_nil :
    ¬ env.Reaches t use place [] service := by
  rintro ⟨i, hi, -⟩
  cases hi

theorem reaches_cons {first : String} {rest : List String} :
    env.Reaches t use place (first :: rest) service ↔
      (first = service ∧ t.skips service = false ∧
        (env.command (use place service)).effective = true) ∨
      env.Reaches t use (place + 1) rest service := by
  constructor
  · rintro ⟨_ | i, hi, hgoes⟩
    · exact .inl ⟨Option.some.inj hi, hgoes⟩
    · exact .inr ⟨i, hi, by rwa [Nat.add_right_comm, Nat.add_assoc]⟩
  · rintro (⟨rfl, hgoes⟩ | ⟨i, hi, hgoes⟩)
    · exact ⟨0, rfl, hgoes⟩
    · exact ⟨i + 1, hi, by rwa [← Nat.add_assoc, Nat.add_right_comm]⟩

theorem reaches_first_iff (hskip : t.skips first = false) :
    (first = service ∧ (env.command (use place first)).effective = true) ↔
      first = service ∧ t.skips service = false ∧
        (env.command (use place service)).effective = true := by
  refine and_congr_right ?_
  rintro rfl
  exact (and_iff_right hskip).symm

theorem not_reaches_skipped (hskip : t.skips first = true) :
    ¬ (first = service ∧ t.skips service = false ∧
      (env.command (use place service)).effective = true) := by
  rintro ⟨rfl, hno, -⟩
  rw [hskip] at hno
  cases hno

theorem mem_touched_ran {b : Bool} :
    service ∈ (w.ran (.setting place first) b).touched ↔
      service ∈ w.touched ∨ first = service ∧ b = true := by
  cases b with
  | false => simp [ran]
  | true =>
    simp only [ran, List.mem_cons, and_true]
    rw [or_comm, eq_comm]

theorem mem_changed_ran {b : Bool} :
    service ∈ (w.ran (.resetting place first) b).changed ↔
      service ∈ w.changed ∧ ¬ (first = service ∧ b = true) := by
  cases b with
  | false => simp [ran]
  | true =>
    have hcomm : first = service ↔ service = first := eq_comm
    simp [ran, hcomm]

theorem mem_touched_ranEach {services : List String} {w : ServiceWorld Ip} :
    service ∈ (ranEach env t .setting place services w).touched ↔
      service ∈ w.touched ∨ env.Reaches t .setting place services service := by
  induction services generalizing place w with
  | nil => exact (or_iff_left reaches_nil).symm
  | cons first rest ih =>
    rw [ranEach, reaches_cons]
    cases hskip : t.skips first with
    | true => rw [if_pos rfl, ih, or_iff_right (not_reaches_skipped hskip)]
    | false =>
      rw [if_neg Bool.false_ne_true, ih, mem_touched_ran, reaches_first_iff hskip, or_assoc]

theorem mem_changed_ranEach {services : List String} {w : ServiceWorld Ip} :
    service ∈ (ranEach env t .resetting place services w).changed ↔
      service ∈ w.changed ∧ ¬ env.Reaches t .resetting place services service := by
  induction services generalizing place w with
  | nil => exact (and_iff_left reaches_nil).symm
  | cons first rest ih =>
    rw [ranEach, reaches_cons]
    cases hskip : t.skips first with
    | true => rw [if_pos rfl, ih, or_iff_right (not_reaches_skipped hskip)]
    | false =>
      rw [if_neg Bool.false_ne_true, ih, mem_changed_ran, reaches_first_iff hskip, and_assoc,
        not_or]

theorem commit_eq {servers : List Ip} (hservers : servers ≠ []) :
    p.commit L servers = (p.tool L).commit servers := by
  cases p with
  | macos => rfl
  | windows =>
    simp only [Platform.commit, Netsh.commit, if_neg hservers, Tool.commit, Platform.tool]

variable (dataDir env) in
theorem loadMarker_cases (w : ServiceWorld Ip) :
    (∃ marker, w.loadMarker env dataDir = (.ok (some marker), w) ∧ env.readError = none ∧
      w.marker = some (.whole marker)) ∨
    (w.loadMarker env dataDir = (.ok none, w) ∨
        ∃ err w', w.loadMarker env dataDir = (.error err, w')) ∧
      ¬ (env.readError = none ∧ ∃ marker, w.marker = some (.whole marker)) := by
  cases hread : env.readError with
  | some err => exact .inr ⟨.inr ⟨err, w, by simp [loadMarker, hread]⟩, by simp⟩
  | none =>
    rcases hmarker : w.marker with _ | marker | source
    · exact .inr ⟨.inl (by simp [loadMarker, hread, hmarker]), by simp⟩
    · exact .inl ⟨marker, by simp [loadMarker, hread, hmarker], rfl, rfl⟩
    · refine .inr ⟨.inr ?_, by simp⟩
      cases hquarantine : env.quarantine with
      | false => simp [loadMarker, hread, hmarker, hquarantine]
      | true => simp [loadMarker, hread, hmarker, hquarantine]

variable (L dataDir env) in
theorem exec_previousServers (w : ServiceWorld Ip) :
    (w.HasRecord env ∧ ∃ previous,
      Prog.exec (handle env dataDir) (Services.previousServers L w.state) w = (.ok previous, w)) ∨
    (¬ w.HasRecord env ∧ ∃ err w',
      Prog.exec (handle env dataDir) (Services.previousServers L w.state) w =
        (.error err, w')) := by
  cases hstate : w.state with
  | some applied => exact .inl ⟨.inl (by simp [hstate]), applied.previousServers, rfl⟩
  | none =>
    have hrecord : w.HasRecord env ↔
        env.readError = none ∧ ∃ marker, w.marker = some (.whole marker) := by
      simp [HasRecord, hstate]
    rw [hrecord]
    obtain ⟨marker, hloaded, hread⟩ | ⟨hloaded | ⟨err, w', hloaded⟩, hnone⟩ :=
      loadMarker_cases dataDir env w
    · refine .inl ⟨⟨hread.1, marker, hread.2⟩, marker.parseServers L.toResolverLib, ?_⟩
      simp [Services.previousServers, Services.loadMarkerOrFail, hloaded]
    · refine .inr ⟨hnone, .noBackupAvailable, w, ?_⟩
      simp [Services.previousServers, Services.loadMarkerOrFail, hloaded]
    · refine .inr ⟨hnone, err, w', ?_⟩
      simp [Services.previousServers, Services.loadMarkerOrFail, hloaded]

theorem changed_deleteMarker (w : ServiceWorld Ip) :
    (handle env dataDir .deleteMarker w).2.changed = w.changed := by
  rw [handle]
  cases env.delete with
  | error err => rfl
  | ok u => rfl

variable (L p dataDir env) in
theorem restore_cases (w : ServiceWorld Ip) :
    (∃ services w', w.HasRecord env ∧ env.listed (p.tool L) .listing = .ok services ∧
      Prog.exec (handle env dataDir) (Services.restore L p) w = (.ok .restored, w') ∧
      ∀ service, service ∈ w'.changed ↔
        service ∈ w.changed ∧ ¬ env.Reaches (p.tool L) .resetting 0 services service) ∨
    (¬ (w.HasRecord env ∧ ∃ services, env.listed (p.tool L) .listing = .ok services) ∧
      ∃ err, (Prog.exec (handle env dataDir) (Services.restore L p) w).1 = .error err) := by
  obtain ⟨hrecord, previous, hprevious⟩ | ⟨hno, err, w', hprevious⟩ :=
    exec_previousServers L dataDir env w
  · cases hlist : env.listed (p.tool L) .listing with
    | error err =>
      refine .inr ⟨by simp, err, ?_⟩
      simp [Services.restore, hprevious, Tool.restore, exec_list, hlist]
    | ok services =>
      refine .inl ⟨services, (handle env dataDir .deleteMarker
        { ranEach env (p.tool L) .resetting 0 services w with state := none }).2,
        hrecord, rfl, ?_, fun service => ?_⟩
      · simp [Services.restore, hprevious, Tool.restore, exec_list, hlist, exec_forEach]
      · rw [changed_deleteMarker, mem_changed_ranEach]
  · exact .inr ⟨fun h => hno h.1, err, by simp [Services.restore, hprevious]⟩

variable (L p dataDir env) in
theorem apply_cases (servers : List Ip) (w : ServiceWorld Ip) :
    (∃ services w', (servers ≠ [] ∧ env.write = .ok () ∧
        env.listed (p.tool L) .listing = .ok services ∧ services ≠ []) ∧
      Prog.exec (handle env dataDir) (Services.apply L p servers) w = (.ok .applied, w') ∧
      ∀ service, service ∈ w'.touched ↔
        service ∈ w.touched ∨ env.Reaches (p.tool L) .setting 0 services service) ∨
    (¬ (servers ≠ [] ∧ env.write = .ok () ∧
        ∃ services, env.listed (p.tool L) .listing = .ok services ∧ services ≠ []) ∧
      ∃ err, (Prog.exec (handle env dataDir) (Services.apply L p servers) w).1 = .error err) := by
  by_cases hservers : servers = []
  · exact .inr ⟨fun h => h.1 hservers, .noServers, by simp [Services.apply, hservers]⟩
  obtain ⟨previous, hsnapshot⟩ :
    ∃ previous, Prog.exec (handle env dataDir) (p.tool L).snapshot w = (.ok previous, w) :=
    exec_snapshot w
  cases hwrite : env.write with
  | error failure =>
    exact .inr ⟨by simp, failure.1, by simp [Services.apply, hservers, hsnapshot, handle, hwrite]⟩
  | ok u =>
    obtain ⟨marked, htouched, hcommit⟩ : ∃ marked : ServiceWorld Ip, marked.touched = w.touched ∧
        Prog.exec (handle env dataDir) (Services.apply L p servers) w =
          Prog.exec (handle env dataDir) (Services.commitMarked L p servers previous) marked :=
      ⟨{ w with marker := some (.whole ⟨previous.map L.showIp, (p.tool L).name, env.now⟩) }, rfl,
        by simp [Services.apply, hservers, hsnapshot, handle, hwrite]⟩
    rw [hcommit, Services.commitMarked, commit_eq hservers, Tool.commit]
    cases hlist : env.listed (p.tool L) .listing with
    | error err => exact .inr ⟨by simp, err, by simp [exec_list, hlist]⟩
    | ok services =>
      by_cases hnone : services = []
      · exact .inr ⟨by simp [hnone], .backend (p.tool L).noneFound,
          by simp [exec_list, hlist, hnone]⟩
      · refine .inl ⟨services, { ranEach env (p.tool L) .setting 0 services marked with
            state := some ⟨(p.tool L).name, previous⟩ }, ⟨hservers, rfl, rfl, hnone⟩,
          by simp [exec_list, hlist, hnone, exec_forEach], fun service => ?_⟩
        rw [← htouched]
        exact mem_touched_ranEach

end Exec

section Runs

variable {Ip : Type} {L : ServiceLib Ip} {p : Platform} {dataDir : String} {w : ServiceWorld Ip}

open ServiceWorld

theorem recoverFromCrash_ne (env : Environment) (w : ServiceWorld Ip) {outcome : Outcome}
    (h : (Prog.exec (handle env dataDir) (Services.recoverFromCrash L p) w).1 = .ok outcome) :
    outcome = .nothingToRecover ∨ outcome = .recovered := by
  rcases hloaded : w.loadMarker env dataDir with ⟨err | _ | marker, w'⟩
  · simp [Services.recoverFromCrash, hloaded] at h
  · simp [Services.recoverFromCrash, hloaded] at h
    exact .inl h.symm
  cases hlist : env.listed (p.tool L) .listing with
  | error err => simp [Services.recoverFromCrash, hloaded, Tool.restore, exec_list, hlist] at h
  | ok services =>
    cases hdelete : env.delete with
    | error err =>
      simp [Services.recoverFromCrash, hloaded, Tool.restore, exec_list, hlist, exec_forEach,
        handle, hdelete] at h
    | ok u =>
      simp [Services.recoverFromCrash, hloaded, Tool.restore, exec_list, hlist, exec_forEach,
        handle, hdelete] at h
      exact .inr h.symm

theorem justified_apply_iff (servers : List Ip) (env : Environment) :
    w.Justified L p dataDir (.call (.apply servers) env) ↔
      w.Effective L p (.call (.apply servers) env) := by
  rw [Justified, Effective, perform, Services.program]
  obtain ⟨services, w', ⟨hservers, hwrite, hlist, hsome⟩, hexec, htouched⟩ |
      ⟨hno, err, hexec⟩ :=
    apply_cases L p dataDir env servers { w with touched := [] }
  · have hreached : (∃ service, env.Reaches (p.tool L) .setting 0 services service) ↔
        w'.touched ≠ [] := by
      rw [ne_eq, List.eq_nil_iff_forall_not_mem, not_forall_not]
      exact exists_congr fun service => by simp [htouched]
    rw [hexec]
    simp [hservers, hwrite, hlist, hsome, hreached]
  · refine iff_of_true ⟨by simp [hexec], by simp [hexec]⟩ ?_
    intro hservers hwrite services hlist hsome
    exact absurd ⟨hservers, hwrite, services, hlist, hsome⟩ hno

theorem justified_restore_iff (env : Environment) :
    w.Justified L p dataDir (.call .restore env) ↔ w.Effective L p (.call .restore env) := by
  rw [Justified, Effective, perform, Services.program]
  obtain ⟨services, w', hrecord, hlist, hexec, hchanged⟩ | ⟨hno, err, hexec⟩ :=
    restore_cases L p dataDir env { w with touched := [] }
  · have hreset : w'.changed = [] ↔
        ∀ service ∈ w.changed, env.Reaches (p.tool L) .resetting 0 services service := by
      rw [List.eq_nil_iff_forall_not_mem]
      exact forall_congr' fun service => by rw [hchanged, not_and, not_not]
    have hhas : w.HasRecord env := hrecord
    rw [hexec]
    simp [hhas, hlist, hreset]
  · refine iff_of_true ⟨by simp [hexec], by simp [hexec]⟩ ?_
    intro hrecord services hlist
    exact absurd ⟨hrecord, services, hlist⟩ hno

theorem justified_iff (label : ServiceLabel Ip) :
    w.Justified L p dataDir label ↔ w.Effective L p label := by
  cases label with
  | crash op env effects => exact Iff.rfl
  | call op env =>
    cases op with
    | apply servers => exact justified_apply_iff servers env
    | restore => exact justified_restore_iff env
    | recoverFromCrash =>
      refine iff_of_true ⟨fun h => ?_, fun h => ?_⟩ trivial
      · exact absurd (recoverFromCrash_ne env _ h) (by simp)
      · exact absurd (recoverFromCrash_ne env _ h) (by simp)

/-- **Successes of the resolver** are justified exactly if the commands take effect. -/
theorem justified_iff_effective (L : ServiceLib Ip) (p : Platform) (dataDir : String)
    (labels : List (ServiceLabel Ip)) :
    Along (step L p dataDir) (fun w label => w.Justified L p dataDir label) fresh labels ↔
      Along (step L p dataDir) (fun w label => w.Effective L p label) fresh labels := by
  simp only [justified_iff]

end Runs

def portable : ServiceLib Nat := { numbers with toLowercase := fun text => text.map Char.toLower }

def twoServices (goes : CommandAnswer) : Environment where
  command
    | .survey | .listing => .succeeded "Wi-Fi\nEthernet"
    | .reading => .succeeded ""
    | .setting _ _ | .resetting _ _ => goes
  now := 7
  write := .ok ()
  readError := none
  quarantine := true
  delete := .ok ()

/-- **Commands that fail succeed.** -/
theorem failed_commands_succeed :
    let nothing :=
      ServiceWorld.fresh.perform portable .macos "/d" (.apply [9]) (twoServices (.failed "" false))
    nothing.1 = .ok .applied ∧ nothing.2.touched = [] ∧
    ∃ w, run (ServiceWorld.step portable .macos "/d") .fresh
        [.call (.apply [9]) (twoServices (.succeeded ""))] = some w ∧
      w.changed = ["Ethernet", "Wi-Fi"] ∧
      let kept := w.perform portable .macos "/d" .restore (twoServices (.failed "" false))
      kept.1 = .ok .restored ∧ kept.2.marker = none ∧ kept.2.changed = ["Ethernet", "Wi-Fi"] := by
  refine ⟨by decide +kernel, by decide +kernel, _, rfl, ?_, ?_, ?_, ?_⟩
  · decide +kernel
  · decide +kernel
  · exact Option.isNone_iff_eq_none.mp (by decide +kernel)
  · decide +kernel

end Penguind.Squawk
