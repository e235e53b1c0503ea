import Mathlib.Data.Finset.Sort
import Mathlib.Data.String.Basic
import Penguind.Daemon.Shutdown

/-!
# From boot to exit

The run function as a machine around the supervisor: the steps before there is one, the loads of
the restored modules, the binding of the socket, the time it serves, and the shutdown.
-/

namespace Penguind.Daemon

open Foundation Supervisor

inductive DaemonBinError
  | stateDir (message : String)
  | lock (message : String)
  | telemetry (message : String)
  | secrets (message : String)
  | listen (message : String)
  | serve (message : String)
  deriving DecidableEq, Repr

def DaemonBinError.display : DaemonBinError → String
  | .stateDir message => "create state dir: " ++ message
  | .lock message => message
  | .telemetry message => message
  | .secrets message => "init secrets store: " ++ message
  | .listen message => message
  | .serve message => "serve: " ++ message

inductive Stage
  | stateDir
  | lock
  | telemetry
  | secrets
  deriving DecidableEq, Repr

def Stage.error (message : String) : Stage → DaemonBinError
  | .stateDir => .stateDir message
  | .lock => .lock message
  | .telemetry => .telemetry message
  | .secrets => .secrets message

inductive Phase
  | starting (stage : Stage)
  /-- The enabled modules are being loaded; `names` are still to come. -/
  | restoring (names : List String)
  /-- The service is built and the socket is not bound. -/
  | restored
  | serving
  | served (result : Except DaemonBinError Unit)
  /-- The lifetime token is cancelled, and the shutdown waits for the lock. -/
  | stopping (result : Except DaemonBinError Unit)
  | stopped (result : Except DaemonBinError Unit)
  | returned (result : Except DaemonBinError Unit)
  deriving DecidableEq

structure RunningDaemon where
  phase : Phase
  sup : Supervisor

def RunningDaemon.new (file : EnabledFile) : RunningDaemon := ⟨.starting .stateDir, .new file⟩

inductive RunLabel
  /-- The outcome of the next step before the supervisor is built. -/
  | startup (r : Except String Unit)
  /-- The next restored module is loaded; its failure is only logged. -/
  | restore (o : Attempt) (saved : Bool)
  /-- The service is built. -/
  | build
  /-- The control socket is bound, or cannot be. -/
  | listen (r : Except String Unit)
  /-- A load or an unload that a client asks for. -/
  | request (a : Action)
  /-- A task of the supervisor runs. -/
  | task (a : Action)
  | tick (d : Nat)
  /-- The server ends, by a signal or with an error. -/
  | serveEnds (r : Except String Unit)
  | shutdown
  | shutdownLocked
  /-- The license refresh is stopped and the socket file removed. -/
  | finish

instance : DecidablePred Action.Background
  | .timerFires _ _ | .timerAbandoned _ | .restartReports _ _ | .pollWakes _ _ | .pollApplies _ _
  | .pollEnds _ => .isTrue trivial
  | .tick _ | .load _ _ _ | .unload _ _ | .startEnabled | .shutdown | .shutdownLocked
  | .reportFailure _ _ _ => .isFalse id

def Action.Request : Action → Prop
  | .load n _ _ | .unload n _ => n ≠ ""
  | _ => False

instance : DecidablePred Action.Request
  | .load _ _ _ | .unload _ _ => inferInstanceAs (Decidable (_ ≠ _))
  | .timerFires _ _ | .timerAbandoned _ | .restartReports _ _ | .pollWakes _ _ | .pollApplies _ _
  | .pollEnds _ | .tick _ | .startEnabled | .shutdown | .shutdownLocked | .reportFailure _ _ _ =>
    .isFalse id

def Phase.Alive : Phase → Prop
  | .starting _ | .returned _ => False
  | .restoring _ | .restored | .serving | .served _ | .stopping _ | .stopped _ => True

instance : DecidablePred Phase.Alive
  | .starting _ | .returned _ => .isFalse id
  | .restoring _ | .restored | .serving | .served _ | .stopping _ | .stopped _ => .isTrue trivial

namespace RunningDaemon

def afterStartup (s : RunningDaemon) : Stage → RunningDaemon
  | .stateDir => { s with phase := .starting .lock }
  | .lock => { s with phase := .starting .telemetry }
  | .telemetry => { s with phase := .starting .secrets }
  | .secrets => ⟨.restoring (s.sup.startEnabled.persisted.sort (· ≤ ·)), s.sup.startEnabled⟩

def step (cfg : SupervisorConfig) (s : RunningDaemon) : RunLabel → Option RunningDaemon
  | .startup r =>
    match s.phase, r with
    | .starting stage, .ok () => some (s.afterStartup stage)
    | .starting stage, .error e => some { s with phase := .returned (.error (stage.error e)) }
    | _, _ => none
  | .restore o saved =>
    match s.phase with
    | .restoring (n :: names) => some ⟨.restoring names, (s.sup.load cfg n o saved).2⟩
    | _ => none
  | .build => if s.phase = .restoring [] then some { s with phase := .restored } else none
  | .listen r =>
    match s.phase, r with
    | .restored, .ok () => some { s with phase := .serving }
    -- The error is passed on with `?`; what follows the serving is not run.
    | .restored, .error e => some { s with phase := .returned (.error (.listen e)) }
    | _, _ => none
  | .request a =>
    if s.phase = .serving ∧ a.Request then
      (Daemon.step cfg s.sup a).map fun t => { s with sup := t }
    else none
  | .task a =>
    if s.phase.Alive ∧ a.Background then
      (Daemon.step cfg s.sup a).map fun t => { s with sup := t }
    else none
  | .tick d => some { s with sup := { s.sup with now := s.sup.now + d } }
  | .serveEnds r =>
    if s.phase = .serving then
      some { s with phase := .served (r.mapError DaemonBinError.serve) }
    else none
  | .shutdown =>
    match s.phase with
    | .served r => (Daemon.step cfg s.sup .shutdown).map fun t => ⟨.stopping r, t⟩
    | _ => none
  | .shutdownLocked =>
    match s.phase with
    | .stopping r => (Daemon.step cfg s.sup .shutdownLocked).map fun t => ⟨.stopped r, t⟩
    | _ => none
  | .finish =>
    match s.phase with
    | .stopped r => some { s with phase := .returned r }
    | _ => none

end RunningDaemon

def AllStopped (s : Supervisor) : Prop :=
  (∀ n, s.loaded.lookup n = none) ∧ ∀ i, (i, .init) ∈ s.calls → (i, .stop) ∈ s.calls

def BindsOrEmpty (s : RunningDaemon) : RunLabel → Prop
  | .listen (.error _) => ∀ n, s.sup.loaded.lookup n = none
  | _ => True

inductive Moves (cfg : SupervisorConfig) : RunningDaemon → RunLabel → RunningDaemon → Prop
  | stage {s : Supervisor} {stage next : Stage} :
    Moves cfg ⟨.starting stage, s⟩ (.startup (.ok ())) ⟨.starting next, s⟩
  | read {s : Supervisor} {names : List String} :
    Moves cfg ⟨.starting .secrets, s⟩ (.startup (.ok ())) ⟨.restoring names, s.startEnabled⟩
  | failStage {s : Supervisor} {stage : Stage} {e : String} :
    Moves cfg ⟨.starting stage, s⟩ (.startup (.error e)) ⟨.returned (.error (stage.error e)), s⟩
  | restore {s : Supervisor} {n : String} {names : List String} {o : Attempt} {saved : Bool} :
    Moves cfg ⟨.restoring (n :: names), s⟩ (.restore o saved)
      ⟨.restoring names, (s.load cfg n o saved).2⟩
  | build {s : Supervisor} : Moves cfg ⟨.restoring [], s⟩ .build ⟨.restored, s⟩
  | bind {s : Supervisor} : Moves cfg ⟨.restored, s⟩ (.listen (.ok ())) ⟨.serving, s⟩
  | failBind {s : Supervisor} {e : String} :
    Moves cfg ⟨.restored, s⟩ (.listen (.error e)) ⟨.returned (.error (.listen e)), s⟩
  | request {s t : Supervisor} {a : Action} (h : Daemon.step cfg s a = some t) :
    Moves cfg ⟨.serving, s⟩ (.request a) ⟨.serving, t⟩
  | task {s t : Supervisor} {p : Phase} {a : Action} (hp : p.Alive) (ha : a.Background)
    (h : Daemon.step cfg s a = some t) : Moves cfg ⟨p, s⟩ (.task a) ⟨p, t⟩
  | tick {s : Supervisor} {p : Phase} {d : Nat} :
    Moves cfg ⟨p, s⟩ (.tick d) ⟨p, { s with now := s.now + d }⟩
  | serveEnds {s : Supervisor} {r : Except String Unit} :
    Moves cfg ⟨.serving, s⟩ (.serveEnds r) ⟨.served (r.mapError DaemonBinError.serve), s⟩
  | shutdown {s t : Supervisor} {r : Except DaemonBinError Unit}
    (h : Daemon.step cfg s .shutdown = some t) :
    Moves cfg ⟨.served r, s⟩ .shutdown ⟨.stopping r, t⟩
  | shutdownLocked {s t : Supervisor} {r : Except DaemonBinError Unit}
    (h : Daemon.step cfg s .shutdownLocked = some t) :
    Moves cfg ⟨.stopping r, s⟩ .shutdownLocked ⟨.stopped r, t⟩
  | finish {s : Supervisor} {r : Except DaemonBinError Unit} :
    Moves cfg ⟨.stopped r, s⟩ .finish ⟨.returned r, s⟩

section Run

variable {cfg : SupervisorConfig} {s t : RunningDaemon} {l : RunLabel}

theorem moves_of_step (h : RunningDaemon.step cfg s l = some t) : Moves cfg s l t := by
  obtain ⟨p, s⟩ := s
  revert h
  fun_cases RunningDaemon.step cfg ⟨p, s⟩ l with first | rintro ⟨⟩ | intro h
  | case1 stage hp =>
    cases hp
    cases stage with
    | secrets => exact .read
    | _ => exact .stage
  | case2 stage e hp => cases hp; exact .failStage
  | case4 o saved n names hp => cases hp; exact .restore
  | case6 hp => cases hp; exact .build
  | case8 hp => cases hp; exact .bind
  | case9 e hp => cases hp; exact .failBind
  | case11 a hp =>
    cases hp.1
    obtain ⟨u, hu, rfl⟩ := Option.map_eq_some_iff.mp h
    exact .request hu
  | case13 a hp =>
    obtain ⟨u, hu, rfl⟩ := Option.map_eq_some_iff.mp h
    exact .task hp.1 hp.2 hu
  | case15 d => exact .tick
  | case16 r hp => cases hp; exact .serveEnds
  | case18 r hp => cases hp; exact .shutdown rfl
  | case20 r hp =>
    cases hp
    obtain ⟨u, hu, rfl⟩ := Option.map_eq_some_iff.mp h
    exact .shutdownLocked hu
  | case22 r hp => cases hp; exact .finish

/-! ## What is loaded on return -/

theorem Moves.sup (h : Moves cfg s l t) :
    t.sup = s.sup ∨ ∃ a, Daemon.step cfg s.sup a = some t.sup := by
  cases h with
  | stage | failStage | build | bind | failBind | serveEnds | finish => exact .inl rfl
  | read => exact .inr ⟨.startEnabled, rfl⟩
  | restore => exact .inr ⟨.load _ _ _, rfl⟩
  | request h | task _ _ h | shutdown h | shutdownLocked h => exact .inr ⟨_, h⟩
  | @tick _ _ d => exact .inr ⟨.tick d, rfl⟩

theorem accounted_moves (hs : ∃ madeFor, s.sup.Accounted madeFor) (h : Moves cfg s l t) :
    ∃ madeFor, t.sup.Accounted madeFor := by
  obtain ⟨madeFor, hs⟩ := hs
  rcases h.sup with he | ⟨a, ha⟩
  · exact ⟨madeFor, he ▸ hs⟩
  · exact ⟨_, accounted_step hs ha⟩

theorem allStopped_iff {s : Supervisor} {madeFor : List String} (hs : s.Accounted madeFor) :
    AllStopped s ↔ ∀ n, s.loaded.lookup n = none := by
  refine ⟨And.left, fun h => ⟨h, fun i hi => ?_⟩⟩
  refine (hs.2.inits i hi).resolve_left ?_
  rintro ⟨n, hn⟩
  have hnone : currentIn s.loaded n = none := fieldIn_of_none (h n)
  cases hnone.symm.trans hn

def Phase.Empty : Phase → Prop
  | .starting _ | .stopped _ => True
  | _ => False

def EmptyWhenDue (s : RunningDaemon) : Prop :=
  s.phase.Empty → ∀ n, s.sup.loaded.lookup n = none

def EmptyOnReturn (s : RunningDaemon) : Prop :=
  ∀ r, s.phase = .returned r → ∀ n, s.sup.loaded.lookup n = none

theorem emptyWhenDue_moves (hs : EmptyWhenDue s) (h : Moves cfg s l t) : EmptyWhenDue t := by
  cases h with
  | stage => exact fun _ => hs trivial
  | read | failStage | restore | build | bind | failBind | request | serveEnds | shutdown
  | finish => exact fun hd => absurd hd id
  | tick => exact hs
  | task _ ha h =>
    refine fun hd => no_entries_step (hs hd) ?_ h
    rintro n o saved rfl
    exact ha
  | @shutdownLocked s t _ h =>
    cases acts_of_step h
    exact fun _ => lookup_shutdownLocked_eq_none s

theorem emptyOnReturn_moves_iff (hs : EmptyWhenDue s) (h : Moves cfg s l t) :
    EmptyOnReturn t ↔ EmptyOnReturn s ∧ BindsOrEmpty s l := by
  cases h with
  | stage | read | restore | build | bind | request | serveEnds | shutdown | shutdownLocked =>
    exact ⟨fun _ => ⟨fun _ hr => (nomatch hr), trivial⟩, fun _ _ hr => nomatch hr⟩
  | tick => exact (and_iff_left trivial).symm
  | @task _ _ p _ hp =>
    have hne : ∀ r, p ≠ .returned r := by
      rintro r rfl
      exact hp
    exact ⟨fun _ => ⟨fun r hr => absurd hr (hne r), trivial⟩, fun _ r hr => absurd hr (hne r)⟩
  | failBind => exact ⟨fun ht => ⟨fun _ hr => (nomatch hr), ht _ rfl⟩, fun hb _ _ => hb.2⟩
  | failStage | finish =>
    -- These return from a phase in which nothing is loaded.
    exact ⟨fun _ => ⟨fun _ hr => (nomatch hr), trivial⟩, fun _ _ _ => hs trivial⟩

end Run

/-- **Everything is stopped on return** exactly if the socket could be bound or nothing was loaded.
-/
theorem returns_all_stopped_iff {cfg : SupervisorConfig} {file : EnabledFile}
    {ls : List RunLabel} {t : RunningDaemon} {r : Except DaemonBinError Unit}
    (hr : run (RunningDaemon.step cfg) (.new file) ls = some t) (ht : t.phase = .returned r) :
    AllStopped t.sup ↔ Along (RunningDaemon.step cfg) BindsOrEmpty (.new file) ls := by
  have hnew : EmptyWhenDue (.new file) := fun _ _ => rfl
  have hstart : EmptyOnReturn (.new file) := fun r hp => nomatch hp
  have hacc : ∃ madeFor, (RunningDaemon.new file).sup.Accounted madeFor := ⟨[], rfl, .nil⟩
  obtain ⟨madeFor, ht'⟩ : ∃ madeFor, t.sup.Accounted madeFor :=
    run_invariant_of_step (I := fun s : RunningDaemon => ∃ madeFor, s.sup.Accounted madeFor)
      (fun _ _ _ hI h => accounted_moves hI (moves_of_step h)) hacc hr
  have hiff := run_iff_of_invariant (fun _ _ _ hJ h => emptyWhenDue_moves hJ (moves_of_step h))
    (fun _ _ _ hJ h => emptyOnReturn_moves_iff hJ (moves_of_step h)) hnew hr
  rw [and_iff_right hstart] at hiff
  rw [allStopped_iff ht', ← hiff]
  exact ⟨fun h _ _ => h, fun h => h r ht⟩

def bootsWithAlpha : List RunLabel :=
  [.startup (.ok ()), .startup (.ok ()), .startup (.ok ()), .startup (.ok ()),
    .restore succeeding true, .build]

def servesUntilSignal : List RunLabel :=
  bootsWithAlpha ++ [.listen (.ok ()), .serveEnds (.ok ()), .shutdown, .shutdownLocked, .finish]

theorem servesUntilSignal_isSome :
    (run (RunningDaemon.step oneModule) (.new (.enabled {"alpha"})) servesUntilSignal).isSome =
      true := by
  decide +kernel

theorem servesUntilSignal_all_stopped :
    ((run (RunningDaemon.step oneModule) (.new (.enabled {"alpha"})) servesUntilSignal).get
        servesUntilSignal_isSome).sup.calls = [(0, .init), (0, .start), (0, .stop)] ∧
      AllStopped ((run (RunningDaemon.step oneModule) (.new (.enabled {"alpha"}))
        servesUntilSignal).get servesUntilSignal_isSome).sup := by
  refine ⟨by decide +kernel, ?_⟩
  refine (returns_all_stopped_iff (r := .ok ()) (Option.some_get servesUntilSignal_isSome).symm
    (by decide +kernel)).mpr ?_
  have hbinds : ∀ l ∈ servesUntilSignal, ∀ e, l ≠ RunLabel.listen (.error e) := by
    simp [servesUntilSignal, bootsWithAlpha]
  refine along_of_invariant (I := fun _ => True) (K := fun _ l => ∀ e, l ≠ .listen (.error e))
    (fun _ _ _ _ _ _ => trivial) ?_ trivial (along_of_forall_mem hbinds)
  intro s l _ hl
  cases l with
  | listen r =>
    cases r with
    | error e => exact absurd rfl (hl e)
    | ok => trivial
  | _ => trivial

def failsToBind : List RunLabel := bootsWithAlpha ++ [.listen (.error "address in use")]

/-- **The socket cannot be bound**: the daemon returns, and a module still runs. -/
theorem failed_bind_leaves_module :
    ∃ t, run (RunningDaemon.step oneModule) (.new (.enabled {"alpha"})) failsToBind = some t ∧
      t.phase = .returned (.error (.listen "address in use")) ∧
      t.sup.calls = [(0, .init), (0, .start)] ∧ ¬ AllStopped t.sup := by
  refine ⟨_, (Option.some_get (by decide +kernel)).symm, by decide +kernel, by decide +kernel, ?_⟩
  intro h
  have hstopped := h.2 0 (by decide +kernel)
  revert hstopped
  decide +kernel

end Penguind.Daemon
