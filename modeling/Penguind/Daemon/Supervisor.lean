import Mathlib.Algebra.Group.Nat.Defs
import Mathlib.Data.List.AList
import Mathlib.Data.Finset.Basic
import Penguind.Foundation.Run

/-!
# The module supervisor

The supervisor's lifecycle functions as state transformers, and the machine they form with the
tasks they spawn. An operation holds the write lock to its end and is one step. What the
environment decides stands in the label.
-/

namespace Penguind.Daemon

inductive ModuleState
  | disabled
  | initializing
  | running
  | degraded
  | stopping
  | stopped
  | failed
  deriving DecidableEq, Repr

def ModuleState.asStr : ModuleState → String
  | .disabled => "disabled"
  | .initializing => "initializing"
  | .running => "running"
  | .degraded => "degraded"
  | .stopping => "stopping"
  | .stopped => "stopped"
  | .failed => "failed"

inductive EventType
  | stateChanged
  | health
  | info
  | error
  deriving DecidableEq, Repr

structure Event where
  moduleName : String
  eventType : EventType
  message : String
  publishedAt : Nat
  fields : List (String × String)
  deriving DecidableEq, Repr

inductive HealthLevel
  | healthy
  | degraded
  | unhealthy
  deriving DecidableEq, Repr

structure HealthReport where
  level : HealthLevel
  message : String
  deriving DecidableEq, Repr

inductive ExternalLoadError
  | notFound (name : String)
  | load (message : String)
  deriving DecidableEq, Repr

inductive SupervisorError
  | unknownModule (name : String)
  | notLoaded (name : String)
  | externalLoad (message : String)
  | module (message : String)
  deriving DecidableEq, Repr

def SupervisorError.display : SupervisorError → String
  | .unknownModule name => "unknown module: " ++ name
  | .notLoaded name => "module not loaded: " ++ name
  | .externalLoad message => "failed to load external plugin: " ++ message
  | .module message => message

abbrev InstanceId := Nat

abbrev TokenId := Nat

def defaultMaxRestarts : Nat := 5

structure SupervisorConfig where
  registry : List String
  maxRestartsSetting : UInt32
  healthInterval : Nat
  stabilityWindow : Nat
  external : Bool

def SupervisorConfig.maxRestarts (cfg : SupervisorConfig) : Nat :=
  if cfg.maxRestartsSetting = 0 then defaultMaxRestarts else cfg.maxRestartsSetting.toNat

theorem SupervisorConfig.maxRestarts_pos (cfg : SupervisorConfig) : 0 < cfg.maxRestarts := by
  unfold maxRestarts
  split
  · decide
  · rename_i h
    exact Nat.pos_of_ne_zero fun h₀ => h (UInt32.toNat_inj.mp h₀)

/-- In nanoseconds, before jitter. -/
def baseDelay (attempt : Nat) : Nat := min (100000000 * 2 ^ attempt) 30000000000

/-- Jitter comes after the cap and is at most five percent. -/
def DelayFor (attempt delay : Nat) : Prop :=
  baseDelay attempt * 95 ≤ delay * 100 ∧ delay * 100 ≤ baseDelay attempt * 105

instance (attempt delay : Nat) : Decidable (DelayFor attempt delay) :=
  inferInstanceAs (Decidable (_ ∧ _))

structure LoadedModule where
  inst : InstanceId
  state : ModuleState
  /-- Consecutive restart attempts since the last stability-window reset, a 32-bit counter. -/
  restartAttempt : Nat
  /-- When the current instance last (re)started. -/
  startedAt : Nat
  loadSeq : Nat
  healthCancel : TokenId
  deriving DecidableEq, Repr

/-- The task knows its module by name only; `blamed` is kept for the statements. -/
structure RestartTimer where
  name : String
  deadline : Nat
  blamed : InstanceId
  deriving DecidableEq, Repr

/-- Failed, and not yet reported. -/
structure FailedRestart where
  name : String
  reason : String
  old : InstanceId
  deriving DecidableEq, Repr

structure HealthPoll where
  name : String
  inst : InstanceId
  cancel : TokenId
  wakeAt : Nat
  deriving DecidableEq, Repr

structure HealthReading where
  name : String
  inst : InstanceId
  cancel : TokenId
  report : HealthReport
  deriving DecidableEq, Repr

inductive ModuleCall
  | init
  | start
  | stop
  deriving DecidableEq, Repr

inductive EnabledFile
  | absent
  | unreadable
  | malformed
  | enabled (names : Finset String)
  deriving DecidableEq

/-- The locked state, the spawned tasks, and a record of everything published and called. -/
structure Supervisor where
  loaded : AList fun _ : String => LoadedModule
  persisted : Finset String
  lifeCancelled : Bool
  loadSeq : Nat
  timers : List RestartTimer
  failedRestarts : List FailedRestart
  polls : List HealthPoll
  readings : List HealthReading
  cancelled : List TokenId
  now : Nat
  nextInstance : InstanceId
  nextToken : TokenId
  published : List Event
  calls : List (InstanceId × ModuleCall)
  enabledFile : EnabledFile

def Supervisor.new (enabledFile : EnabledFile) : Supervisor where
  loaded := ∅
  persisted := ∅
  lifeCancelled := false
  loadSeq := 0
  timers := []
  failedRestarts := []
  polls := []
  readings := []
  cancelled := []
  now := 0
  nextInstance := 0
  nextToken := 0
  published := []
  calls := []
  enabledFile := enabledFile

namespace Supervisor

/-! ## Small updates -/

def publish (s : Supervisor) (e : Event) : Supervisor :=
  { s with published := s.published ++ [e] }

def call (s : Supervisor) (inst : InstanceId) (c : ModuleCall) : Supervisor :=
  { s with calls := s.calls ++ [(inst, c)] }

def cancel (s : Supervisor) (token : TokenId) : Supervisor :=
  { s with cancelled := token :: s.cancelled }

def stateEventWithFields (s : Supervisor) (name : String) (state : ModuleState)
    (fields : List (String × String)) : Event :=
  ⟨name, .stateChanged, state.asStr, s.now, fields⟩

def stateEvent (s : Supervisor) (name : String) (state : ModuleState) : Event :=
  s.stateEventWithFields name state []

def errorEvent (s : Supervisor) (name message : String) : Event :=
  ⟨name, .error, message, s.now, []⟩

def addPersisted (s : Supervisor) (name : String) : Supervisor :=
  { s with persisted := insert name s.persisted }

def removePersisted (s : Supervisor) (name : String) : Supervisor :=
  { s with persisted := s.persisted.erase name }

def save (s : Supervisor) (saved : Bool) : Supervisor :=
  if saved then { s with enabledFile := .enabled s.persisted } else s

def spawnHealthPoll (cfg : SupervisorConfig) (s : Supervisor) (name : String) (inst : InstanceId)
    (cancel : TokenId) : Supervisor :=
  { s with polls := s.polls ++ [⟨name, inst, cancel, s.now + cfg.healthInterval⟩] }

def put (s : Supervisor) (name : String) (m : LoadedModule) : Supervisor :=
  { s with loaded := s.loaded.insert name m }

def dropTimer (s : Supervisor) (t : RestartTimer) : Supervisor :=
  { s with timers := s.timers.erase t }

def dropFailedRestart (s : Supervisor) (f : FailedRestart) : Supervisor :=
  { s with failedRestarts := s.failedRestarts.erase f }

def dropPoll (s : Supervisor) (p : HealthPoll) : Supervisor :=
  { s with polls := s.polls.erase p }

def dropReading (s : Supervisor) (r : HealthReading) : Supervisor :=
  { s with readings := s.readings.erase r }

/-! ## The lifecycle functions -/

/-- The results of the calls of one attempt, in their order. -/
structure Attempt where
  external : Except ExternalLoadError Unit
  init : Except String Unit
  start : Except String Unit
  deriving DecidableEq, Repr

def instantiate (cfg : SupervisorConfig) (name : String) (o : Attempt) :
    Except SupervisorError Unit :=
  if name ∈ cfg.registry then .ok ()
  else if cfg.external then
    match o.external with
    | .ok () => .ok ()
    | .error (.notFound _) => .error (.unknownModule name)
    | .error (.load message) => .error (.externalLoad message)
  else .error (.unknownModule name)

def bumpLoadSeq (s : Supervisor) : Supervisor := { s with loadSeq := s.loadSeq + 1 }

def allocate (s : Supervisor) : Supervisor := { s with nextInstance := s.nextInstance + 1 }

def failLoad (s : Supervisor) (name : String) (inst : InstanceId) (err : String) : Supervisor :=
  let s := s.call inst .stop
  let s := s.publish (s.errorEvent name err)
  s.publish (s.stateEvent name .disabled)

def install (cfg : SupervisorConfig) (s : Supervisor) (name : String) (inst : InstanceId)
    (restartAttempt loadSeq : Nat) : Supervisor :=
  let s := s.publish (s.stateEvent name .running)
  let token := s.nextToken
  let s := { s with nextToken := token + 1 }
  -- The poll loop of an earlier instance has another token, which stays cancelled.
  let s := spawnHealthPoll cfg s name inst token
  s.put name ⟨inst, .running, restartAttempt, s.now, loadSeq, token⟩

def load (cfg : SupervisorConfig) (s : Supervisor) (name : String) (o : Attempt) (saved : Bool) :
    Except SupervisorError ModuleState × Supervisor :=
  match s.loaded.lookup name with
  -- Loading a loaded name makes no call and does not restart anything, whatever its state.
  | some existing => (.ok existing.state, s)
  | none =>
    match instantiate cfg name o with
    | .error err => (.error err, s)
    | .ok () =>
      let inst := s.nextInstance
      let s := s.allocate
      let s := s.publish (s.stateEvent name .initializing)
      let s := s.call inst .init
      match o.init with
      | .error err => (.error (.module err), s.failLoad name inst err)
      | .ok () =>
        let s := s.call inst .start
        match o.start with
        | .error err => (.error (.module err), s.failLoad name inst err)
        | .ok () =>
          -- Only here is the name recorded: a load that failed above has left no entry behind.
          let loadSeq := s.loadSeq
          let s := s.bumpLoadSeq
          let s := install cfg s name inst 0 loadSeq
          let s := s.addPersisted name
          (.ok .running, s.save saved)

def stopLocked (s : Supervisor) (name : String) : Supervisor :=
  match s.loaded.lookup name with
  | none => s
  | some m =>
    let s := s.cancel m.healthCancel
    let s := s.publish (s.stateEvent name .stopping)
    let s := s.call m.inst .stop
    let s := s.publish (s.stateEvent name .stopped)
    -- The result of `stop` is only logged: the entry goes even if the module could not be stopped.
    { s with loaded := s.loaded.erase name }

def unload (s : Supervisor) (name : String) (saved : Bool) : Supervisor :=
  match s.loaded.lookup name with
  | none => s
  | some _ =>
    let s := s.stopLocked name
    let s := s.removePersisted name
    s.save saved

def stopOrder (s : Supervisor) : List String :=
  (s.loaded.entries.mergeSort fun a b => b.2.loadSeq ≤ a.2.loadSeq).map Sigma.fst

def shutdownLocked (s : Supervisor) : Supervisor :=
  s.stopOrder.foldl stopLocked s

/-- An absent or unreadable file is an empty set. -/
def EnabledFile.restored : EnabledFile → Finset String
  | .enabled names => names
  | .absent | .unreadable | .malformed => ∅

def startEnabled (s : Supervisor) : Supervisor :=
  { s with persisted := EnabledFile.restored s.enabledFile }

def stable (cfg : SupervisorConfig) (s : Supervisor) (m : LoadedModule) : Bool :=
  cfg.stabilityWindow ≤ s.now - m.startedAt

/-- Reset first if the last start is older than the stability window. -/
def nextAttempt (cfg : SupervisorConfig) (s : Supervisor) (m : LoadedModule) : Nat :=
  ((if s.stable cfg m then 0 else m.restartAttempt) + 1) % 2 ^ 32

/-- Parks the module once the budget is used up, otherwise schedules a restart. -/
def reportFailure (cfg : SupervisorConfig) (s : Supervisor) (name reason : String)
    (source : Option InstanceId) (delay : Nat) : Supervisor :=
  match s.loaded.lookup name with
  | none => s
  | some m =>
    let attempt := s.nextAttempt cfg m
    let s := s.cancel m.healthCancel
    -- The failure that reaches the limit schedules nothing.
    if cfg.maxRestarts ≤ attempt then
      let s := s.put name { m with restartAttempt := attempt, state := .failed }
      let s := s.publish (s.stateEvent name .failed)
      s.publish (s.errorEvent name s!"max restarts ({cfg.maxRestarts}) exceeded")
    else
      let s := s.put name { m with restartAttempt := attempt, state := .degraded }
      let s := s.publish (s.stateEventWithFields name .degraded [("reason", reason)])
      -- The task that sleeps here keeps the name and nothing else of the module that failed.
      { s with timers := s.timers ++ [⟨name, s.now + delay, source.getD m.inst⟩] }

def failRestart (s : Supervisor) (name reason message : String) (old : InstanceId) :
    Supervisor :=
  let s := s.publish (s.errorEvent name message)
  { s with failedRestarts := s.failedRestarts ++ [⟨name, reason, old⟩] }

def performScheduledRestart (cfg : SupervisorConfig) (s : Supervisor) (name : String)
    (o : Attempt) : Supervisor :=
  match s.loaded.lookup name with
  | none => s
  | some existing =>
    let s := s.cancel existing.healthCancel
    -- The old entry stays in place until the new instance runs; a failed attempt leaves it there.
    let s := s.call existing.inst .stop
    match instantiate cfg name o with
    | .error err =>
      s.failRestart name "restart instantiation failed"
        ("restart instantiation failed: " ++ err.display) existing.inst
    | .ok () =>
      let inst := s.nextInstance
      let s := s.allocate
      let s := s.publish (s.stateEvent name .initializing)
      let s := s.call inst .init
      match o.init with
      | .error err =>
        (s.call inst .stop).failRestart name "restart init failed"
          ("restart init failed: " ++ err) existing.inst
      | .ok () =>
        let s := s.call inst .start
        match o.start with
        | .error err =>
          (s.call inst .stop).failRestart name "restart start failed"
            ("restart start failed: " ++ err) existing.inst
        -- A restart that succeeds keeps the counter; only the stability window resets it.
        | .ok () => install cfg s name inst existing.restartAttempt existing.loadSeq

def markDegraded (s : Supervisor) (name : String) : Supervisor :=
  match s.loaded.lookup name with
  | none => s
  | some m =>
    -- A module that waits for a restart is `degraded` as well, and is not told apart here.
    if m.state = .degraded then s
    else
      let s := s.put name { m with state := .degraded }
      s.publish (s.stateEvent name .degraded)

def restoreRunningIfDegraded (s : Supervisor) (name : String) : Supervisor :=
  match s.loaded.lookup name with
  | none => s
  | some m =>
    if m.state = .degraded then
      let s := s.put name { m with state := .running }
      s.publish (s.stateEvent name .running)
    else s

def applyReport (cfg : SupervisorConfig) (s : Supervisor) (r : HealthReading) (delay : Nat) :
    Supervisor :=
  match r.report.level with
  | .unhealthy => reportFailure cfg s r.name r.report.message (some r.inst) delay
  | .degraded => s.markDegraded r.name
  | .healthy => s.restoreRunningIfDegraded r.name

end Supervisor

open Supervisor

inductive Action
  /-- Time passes. -/
  | tick (d : Nat)
  | load (name : String) (o : Attempt) (saved : Bool)
  | unload (name : String) (saved : Bool)
  | startEnabled
  /-- Shutdown cancels the lifetime token before it asks for the lock. -/
  | shutdown
  | shutdownLocked
  /-- A failure reported through the public interface. -/
  | reportFailure (name reason : String) (delay : Nat)
  /-- A restart timer's delay has elapsed. -/
  | timerFires (t : RestartTimer) (o : Attempt)
  /-- A restart timer sees the lifetime token cancelled. -/
  | timerAbandoned (t : RestartTimer)
  /-- A failed restart reports its failure. -/
  | restartReports (f : FailedRestart) (delay : Nat)
  /-- A poll loop wakes up, and its probe answers. -/
  | pollWakes (p : HealthPoll) (report : HealthReport)
  /-- A poll loop applies its reading and goes back to sleep. -/
  | pollApplies (r : HealthReading) (delay : Nat)
  /-- A poll loop sees its token cancelled. -/
  | pollEnds (p : HealthPoll)
  deriving DecidableEq

def DelayAllowed (cfg : SupervisorConfig) (s : Supervisor) (name : String) (delay : Nat) : Prop :=
  ∀ m, s.loaded.lookup name = some m →
    DelayFor ((s.nextAttempt cfg m + (2 ^ 32 - 1)) % 2 ^ 32) delay

instance (cfg : SupervisorConfig) (s : Supervisor) (name : String) (delay : Nat) :
    Decidable (DelayAllowed cfg s name delay) :=
  match h : s.loaded.lookup name with
  | none => .isTrue (by simp [DelayAllowed, h])
  | some m =>
    decidable_of_iff (DelayFor ((s.nextAttempt cfg m + (2 ^ 32 - 1)) % 2 ^ 32) delay)
      (by simp [DelayAllowed, h])

/-- A poll or a timer whose sleep is over may run although its token is cancelled. -/
def step (cfg : SupervisorConfig) (s : Supervisor) : Action → Option Supervisor
  | .tick d => some { s with now := s.now + d }
  | .load name o saved => some (s.load cfg name o saved).2
  | .unload name saved => some (s.unload name saved)
  | .startEnabled => some s.startEnabled
  | .shutdown => some { s with lifeCancelled := true }
  -- Between the two parts of a shutdown any other task may take the lock first.
  | .shutdownLocked => if s.lifeCancelled then some s.shutdownLocked else none
  | .reportFailure name reason delay =>
    if DelayAllowed cfg s name delay then some (s.reportFailure cfg name reason none delay)
    else none
  | .timerFires t o =>
    if t ∈ s.timers ∧ t.deadline ≤ s.now then
      some ((s.dropTimer t).performScheduledRestart cfg t.name o)
    else none
  | .timerAbandoned t =>
    if t ∈ s.timers ∧ s.lifeCancelled then some (s.dropTimer t) else none
  | .restartReports f delay =>
    if f ∈ s.failedRestarts ∧ DelayAllowed cfg s f.name delay then
      some ((s.dropFailedRestart f).reportFailure cfg f.name f.reason (some f.old) delay)
    else none
  -- The probe itself runs without the lock, so its result is a reading that waits for its turn.
  | .pollWakes p report =>
    if p ∈ s.polls ∧ p.wakeAt ≤ s.now then
      some { s.dropPoll p with readings := s.readings ++ [⟨p.name, p.inst, p.cancel, report⟩] }
    else none
  | .pollApplies r delay =>
    if r ∈ s.readings ∧ (r.report.level = .unhealthy → DelayAllowed cfg s r.name delay) then
      some (spawnHealthPoll cfg ((s.dropReading r).applyReport cfg r delay) r.name r.inst r.cancel)
    else none
  | .pollEnds p =>
    if p ∈ s.polls ∧ p.cancel ∈ s.cancelled then some (s.dropPoll p) else none

end Penguind.Daemon
