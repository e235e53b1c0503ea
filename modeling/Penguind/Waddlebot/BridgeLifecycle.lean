import Penguind.Foundation.Run

/-!
# Starting and stopping the bridge

The bridge starts its listeners and its adapters one after the other, each in a task of its own.
If one fails, the start fails; a stop is to end what was started.
-/

namespace Penguind.Waddlebot

open Foundation

/-! ## Configuration and surroundings -/

structure ObsSection where
  enabled : Bool
  url : String
  secretKey : String

structure BridgeSection where
  enabled : Bool
  listenTcp : String
  listenUnix : String
  obs : ObsSection

inductive BridgeError
  | nonLoopbackTcp (addr : String)
  | invalidTcpAddr (addr source : String)
  | tcpBind (addr source : String)
  | unixBind (source : String)
  | adapterAttach (name : String) (source : BridgeError)
  deriving DecidableEq, Repr

def BridgeError.display (debug : String → String) : BridgeError → String
  | .nonLoopbackTcp addr => "bridge.listen_tcp " ++ debug addr ++ " must be a loopback address"
  | .invalidTcpAddr addr source =>
    "invalid bridge.listen_tcp address " ++ debug addr ++ ": " ++ source
  | .tcpBind addr source => "failed to bind bridge TCP listener on " ++ addr ++ ": " ++ source
  | .unixBind source => "failed to bind bridge unix listener: " ++ source
  | .adapterAttach name source =>
    "adapter " ++ name ++ " failed to attach: " ++ source.display debug

/-- An error, or a task, which may have ended by the time the start returns. -/
structure Adapter where
  name : String
  attach : Except BridgeError Bool

structure StartWorld (A : Type) where
  parseAddr : String → Except String A
  isLoopback : A → Bool
  bindTcp : A → Except String Unit
  bindUnix : String → Except String Unit
  secret : String → Except String (List UInt8)
  /-- Whether the connection task of the OBS adapter is there when the start returns. -/
  obsConnects : Bool
  debug : String → String

/-! ## Starting the bridge -/

inductive TaskKind
  | tcp
  | unix
  | adapter (name : String)
  deriving DecidableEq, Repr

abbrev CancelId := Nat

structure BridgeTask where
  kind : TaskKind
  cancel : Option CancelId
  deriving DecidableEq, Repr

structure BridgeHandle where
  cancel : CancelId
  tcpTask : Option BridgeTask
  unixTask : Option BridgeTask

section

variable {A : Type} (cfg : BridgeSection) (w : StartWorld A) (cancel : CancelId)

def startTcp : Except BridgeError (Option BridgeTask) :=
  if cfg.listenTcp = "" then .ok none
  else
    match w.parseAddr cfg.listenTcp with
    | .error source => .error (.invalidTcpAddr cfg.listenTcp source)
    | .ok addr =>
      if w.isLoopback addr = false then .error (.nonLoopbackTcp cfg.listenTcp)
      else
        match w.bindTcp addr with
        | .error source => .error (.tcpBind cfg.listenTcp source)
        | .ok () => .ok (some ⟨.tcp, some cancel⟩)

def startUnix : Except BridgeError (Option BridgeTask) :=
  if cfg.listenUnix = "" then .ok none
  else
    match w.bindUnix cfg.listenUnix with
    | .error source => .error (.unixBind source)
    | .ok () => .ok (some ⟨.unix, some cancel⟩)

def attachAll : List Adapter → List BridgeTask × Except BridgeError Unit
  | [] => ([], .ok ())
  | adapter :: rest =>
    match adapter.attach with
    | .error source => ([], .error (.adapterAttach adapter.name source))
    | .ok isThere =>
      let r := attachAll rest
      ((if isThere then [⟨.adapter adapter.name, none⟩] else []) ++ r.1, r.2)

def startTransports (adapters : List Adapter) :
    List BridgeTask × Except BridgeError BridgeHandle :=
  match startTcp cfg w cancel with
  | .error e => ([], .error e)
  | .ok tcpTask =>
    match startUnix cfg w cancel with
    | .error e => (tcpTask.toList, .error e)
    | .ok unixTask =>
      let attached := attachAll adapters
      (tcpTask.toList ++ unixTask.toList ++ attached.1,
        attached.2.map fun () => ⟨cancel, tcpTask, unixTask⟩)

def obsAdapters : List Adapter :=
  if cfg.obs.enabled = true ∧ cfg.obs.url ≠ "" then
    match w.secret cfg.obs.secretKey with
    | .ok _ => [⟨"obs", .ok w.obsConnects⟩]
    | .error _ => []
  else []

end

structure BridgeModule where
  running : Bool
  bridge : Option BridgeHandle
  alive : List BridgeTask
  tokens : Nat

inductive ModuleLabel (A : Type)
  | start (w : StartWorld A)
  /-- The module is stopped, and the stop returns. -/
  | stop
  /-- The connection of an adapter ends, and with it the task. -/
  | adapterEnds (i : Nat)

namespace BridgeModule

def new : BridgeModule := ⟨false, none, [], 0⟩

section

variable {A : Type} (cfg : BridgeSection) (adapters : StartWorld A → List Adapter)
  (s : BridgeModule)

def startBridge (w : StartWorld A) : BridgeModule × Except String Unit :=
  if cfg.enabled = false then (s, .ok ())
  else
    let x := startTransports cfg w s.tokens (adapters w)
    let s := { s with alive := s.alive ++ x.1, tokens := s.tokens + 1 }
    match x.2 with
    | .error e => (s, .error ("start bridge: " ++ e.display w.debug))
    | .ok handle => ({ s with bridge := some handle }, .ok ())

/-- It counts as running even if the bridge fails. -/
def start (w : StartWorld A) : BridgeModule × Except String Unit :=
  if s.running then (s, .ok ()) else startBridge cfg adapters { s with running := true } w

def stopBridge : BridgeModule :=
  match s.bridge with
  | none => s
  | some handle =>
    { s with
      bridge := none
      alive := s.alive.filter fun task => task.cancel ≠ some handle.cancel }

def stop : BridgeModule := if s.running then { s with running := false }.stopBridge else s

def step : ModuleLabel A → Option BridgeModule
  | .start w => some (s.start cfg adapters w).1
  | .stop => some s.stop
  | .adapterEnds i =>
    match s.alive[i]? with
    | some ⟨.adapter _, _⟩ => some { s with alive := s.alive.eraseIdx i }
    | some ⟨.tcp, _⟩ | some ⟨.unix, _⟩ | none => none

end

end BridgeModule

def BridgeTask.IsAdapter (task : BridgeTask) : Prop := ∃ name, task.kind = .adapter name

section

variable {A : Type} (cfg : BridgeSection) (adapters : StartWorld A → List Adapter)

def FailsToStart (s : BridgeModule) (a : ModuleLabel A) : Prop :=
  ∃ w e, a = .start w ∧ (s.start cfg adapters w).2 = .error e

def LeavesNothing (s : BridgeModule) (a : ModuleLabel A) : Prop :=
  FailsToStart cfg adapters s a ∨ a = .stop →
    ∀ t ∈ BridgeModule.step cfg adapters s a, t.alive = []

/-- It fails at the first transport, or before an adapter has a task. -/
def FailsFirst (w : StartWorld A) (cancel : CancelId) : Prop :=
  (∃ e, startTcp cfg w cancel = .error e) ∨ cfg.listenTcp = "" ∧
    ((∃ e, startUnix cfg w cancel = .error e) ∨
      cfg.listenUnix = "" ∧ (attachAll (adapters w)).1 = [])

/-- A start that fails has started nothing, and the tasks of the adapters have ended. -/
def Settled (s : BridgeModule) (a : ModuleLabel A) : Prop :=
  (∀ w, a = .start w → FailsToStart cfg adapters s a → FailsFirst cfg adapters w s.tokens) ∧
    (FailsToStart cfg adapters s a ∨ a = .stop → ∀ task ∈ s.alive, ¬ task.IsAdapter)

end

/-! ### The tasks of a start -/

section

variable {A : Type} {cfg : BridgeSection} {w : StartWorld A} {cancel : CancelId}
  {task : BridgeTask}

def BridgeTask.Untied (task : BridgeTask) : Prop := task.IsAdapter ∧ task.cancel = none

def BridgeTask.TiedTo (task : BridgeTask) (cancel : CancelId) : Prop :=
  ¬ task.IsAdapter ∧ task.cancel = some cancel

theorem untied_of_mem_attachAll {adapters : List Adapter} (h : task ∈ (attachAll adapters).1) :
    task.Untied := by
  induction adapters with
  | nil => cases h
  | cons adapter rest ih =>
    unfold attachAll at h
    split at h
    · cases h
    · rcases List.mem_append.mp h with h | h
      · split at h
        · rw [List.mem_singleton.mp h]
          exact ⟨⟨adapter.name, rfl⟩, rfl⟩
        · cases h
      · exact ih h

theorem startTcp_eq_ok {tcpTask : Option BridgeTask} (h : startTcp cfg w cancel = .ok tcpTask) :
    (tcpTask = none ↔ cfg.listenTcp = "") ∧ ∀ task ∈ tcpTask, task.TiedTo cancel := by
  revert h
  fun_cases startTcp cfg w cancel with rintro ⟨⟩
  | case1 hempty => simp [hempty]
  | case5 hne => simp [hne, BridgeTask.TiedTo, BridgeTask.IsAdapter]

theorem startUnix_eq_ok {unixTask : Option BridgeTask} (h : startUnix cfg w cancel = .ok unixTask) :
    (unixTask = none ↔ cfg.listenUnix = "") ∧ ∀ task ∈ unixTask, task.TiedTo cancel := by
  revert h
  fun_cases startUnix cfg w cancel with rintro ⟨⟩
  | case1 hempty => simp [hempty]
  | case3 hne => simp [hne, BridgeTask.TiedTo, BridgeTask.IsAdapter]

theorem untied_or_tiedTo_of_mem {adapters : List Adapter}
    (h : task ∈ (startTransports cfg w cancel adapters).1) :
    task.Untied ∨ task.TiedTo cancel := by
  revert h
  fun_cases startTransports cfg w cancel adapters with intro h
  | case1 => cases h
  | case2 tcpTask htcp => exact .inr ((startTcp_eq_ok htcp).2 task (Option.mem_toList.mp h))
  | case3 tcpTask htcp unixTask hunix =>
    rcases List.mem_append.mp h with h | h
    · rcases List.mem_append.mp h with h | h
      · exact .inr ((startTcp_eq_ok htcp).2 task (Option.mem_toList.mp h))
      · exact .inr ((startUnix_eq_ok hunix).2 task (Option.mem_toList.mp h))
    · exact .inl (untied_of_mem_attachAll h)

theorem startTransports_eq_nil_iff (adapters : StartWorld A → List Adapter) :
    (startTransports cfg w cancel (adapters w)).1 = [] ↔ FailsFirst cfg adapters w cancel := by
  unfold startTransports FailsFirst
  cases htcp : startTcp cfg w cancel with
  | error e => simp
  | ok tcpTask =>
    rw [← (startTcp_eq_ok htcp).1]
    cases hunix : startUnix cfg w cancel with
    | error e => cases tcpTask <;> simp
    | ok unixTask =>
      rw [← (startUnix_eq_ok hunix).1]
      cases tcpTask <;> cases unixTask <;> simp

theorem cancel_of_startTransports {adapters : List Adapter} {handle : BridgeHandle}
    (h : (startTransports cfg w cancel adapters).2 = .ok handle) : handle.cancel = cancel := by
  revert h
  fun_cases startTransports cfg w cancel adapters with intro h
  | case1 | case2 => cases h
  | case3 tcpTask _ unixTask _ attached =>
    cases hattached : attached.2 <;> rw [hattached] at h <;> cases h
    rfl

end

/-! ### The steps of the module -/

section

variable {A : Type} {cfg : BridgeSection} {adapters : StartWorld A → List Adapter}
  {s t : BridgeModule} {a : ModuleLabel A}

theorem start_cases (s : BridgeModule) (w : StartWorld A) :
    (∃ running, s.start cfg adapters w = ({ s with running := running }, .ok ()) ∧
        (running = false → s.running = false)) ∨
      s.running = false ∧
        ((∃ e message, (startTransports cfg w s.tokens (adapters w)).2 = .error e ∧
          s.start cfg adapters w = (⟨true, s.bridge,
            s.alive ++ (startTransports cfg w s.tokens (adapters w)).1, s.tokens + 1⟩,
            .error message)) ∨
        ∃ handle, (startTransports cfg w s.tokens (adapters w)).2 = .ok handle ∧
          s.start cfg adapters w = (⟨true, some handle,
            s.alive ++ (startTransports cfg w s.tokens (adapters w)).1, s.tokens + 1⟩,
            .ok ())) := by
  fun_cases BridgeModule.start cfg adapters s w with
  | case1 => exact .inl ⟨s.running, rfl, id⟩
  | case2 hidle =>
    fun_cases BridgeModule.startBridge with
    | case1 => exact .inl ⟨true, rfl, nofun⟩
    | case2 _ _ _ e he => exact .inr ⟨Bool.eq_false_iff.mpr hidle, .inl ⟨e, _, he, rfl⟩⟩
    | case3 _ _ _ handle hhandle =>
      exact .inr ⟨Bool.eq_false_iff.mpr hidle, .inr ⟨handle, hhandle, rfl⟩⟩

/-- Live tasks are adapters' or end with the handle's token; no handle while not running. -/
structure Tended (s : BridgeModule) : Prop where
  tied : ∀ task ∈ s.alive, task.Untied ∨ ∃ handle, s.bridge = some handle ∧
    task.TiedTo handle.cancel
  idle : s.running = false → s.bridge = none

theorem tended_new : Tended BridgeModule.new where
  tied task h := by cases h
  idle _ := rfl

theorem Tended.untied (h : Tended s) (hbridge : s.bridge = none) {task : BridgeTask}
    (hmem : task ∈ s.alive) : task.Untied := by
  rcases h.tied task hmem with huntied | ⟨handle, hhandle, -⟩
  · exact huntied
  · cases hbridge.symm.trans hhandle

theorem Tended.alive_eq_nil_iff (h : Tended s) (hbridge : s.bridge = none) :
    s.alive = [] ↔ ∀ task ∈ s.alive, ¬ task.IsAdapter := by
  rw [List.eq_nil_iff_forall_not_mem]
  constructor
  · intro hnil task hmem
    exact absurd hmem (hnil task)
  · intro hall task hmem
    exact hall task hmem (h.untied hbridge hmem).1

theorem Tended.alive_stop (h : Tended s) :
    s.stop.alive = [] ↔ ∀ task ∈ s.alive, ¬ task.IsAdapter := by
  cases hbridge : s.bridge with
  | none =>
    have hsame : s.stop.alive = s.alive := by
      unfold BridgeModule.stop BridgeModule.stopBridge
      split
      · simp [hbridge]
      · rfl
    rw [hsame, h.alive_eq_nil_iff hbridge]
  | some handle =>
    have hrunning : s.running = true := by
      cases hr : s.running with
      | true => rfl
      | false => cases (h.idle hr).symm.trans hbridge
    have hstop : s.stop.alive = s.alive.filter fun task => task.cancel ≠ some handle.cancel := by
      simp [BridgeModule.stop, BridgeModule.stopBridge, hrunning, hbridge]
    rw [hstop, List.filter_eq_nil_iff]
    refine forall₂_congr fun task hmem => ?_
    simp only [ne_eq, decide_not, Bool.not_eq_true', decide_eq_false_iff_not, not_not]
    rcases h.tied task hmem with ⟨hadapter, hnone⟩ | ⟨handle', hhandle, hlistener, hcancel⟩
    · exact iff_of_false (by rw [hnone]; intro hc; cases hc) (not_not.mpr hadapter)
    · cases hbridge.symm.trans hhandle
      exact iff_of_true hcancel hlistener

theorem leavesNothing_of_not (h : ¬ (FailsToStart cfg adapters s a ∨ a = .stop)) :
    LeavesNothing cfg adapters s a ↔ Settled cfg adapters s a :=
  iff_of_true (fun hf => absurd hf h)
    ⟨fun _ _ hf => absurd (.inl hf) h, fun hf => absurd hf h⟩

theorem not_failsToStart {w : StartWorld A} (h : (s.start cfg adapters w).2 = .ok ()) :
    ¬ (FailsToStart cfg adapters s (.start w) ∨ (.start w : ModuleLabel A) = .stop) := by
  rintro (⟨w', e, ha, he⟩ | ha)
  · cases ha
    cases h.symm.trans he
  · cases ha

theorem leavesNothing_step (h : Tended s) :
    LeavesNothing cfg adapters s a ↔ Settled cfg adapters s a := by
  cases a with
  | adapterEnds i =>
    refine leavesNothing_of_not ?_
    rintro (⟨w, e, ha, -⟩ | ha) <;> cases ha
  | stop =>
    have hleaves : LeavesNothing cfg adapters s .stop ↔ s.stop.alive = [] := by
      simp [LeavesNothing, BridgeModule.step]
    rw [hleaves, h.alive_stop]
    exact ⟨fun hall => ⟨nofun, fun _ => hall⟩, fun hs => hs.2 (.inr rfl)⟩
  | start w =>
    rcases start_cases s w with ⟨running, hstart, -⟩ | ⟨hidle, ⟨e, message, hx, hstart⟩ |
      ⟨handle, hx, hstart⟩⟩
    · exact leavesNothing_of_not (not_failsToStart (by rw [hstart]))
    · -- the start fails, and what was alive and what it has started stay
      have hfails : FailsToStart cfg adapters s (.start w) := ⟨w, message, rfl, by rw [hstart]⟩
      have hleaves : LeavesNothing cfg adapters s (.start w) ↔
          s.alive = [] ∧ (startTransports cfg w s.tokens (adapters w)).1 = [] := by
        simp [LeavesNothing, BridgeModule.step, hfails, hstart]
      rw [hleaves, startTransports_eq_nil_iff, h.alive_eq_nil_iff (h.idle hidle)]
      constructor
      · rintro ⟨hall, hfirst⟩
        refine ⟨fun w' ha _ => ?_, fun _ => hall⟩
        cases ha
        exact hfirst
      · intro hs
        exact ⟨hs.2 (.inl hfails), hs.1 w rfl hfails⟩
    · exact leavesNothing_of_not (not_failsToStart (by rw [hstart]))

theorem tended_step (h : Tended s) (hleaves : LeavesNothing cfg adapters s a)
    (ht : BridgeModule.step cfg adapters s a = some t) : Tended t := by
  cases a with
  | adapterEnds i =>
    simp only [BridgeModule.step] at ht
    split at ht <;> cases ht
    exact ⟨fun task hmem => h.tied task (List.mem_of_mem_eraseIdx hmem), h.idle⟩
  | stop =>
    have hnil := hleaves (.inr rfl) t ht
    cases ht
    refine ⟨fun task hmem => ?_, fun _ => ?_⟩
    · rw [hnil] at hmem
      cases hmem
    · unfold BridgeModule.stop BridgeModule.stopBridge
      split
      · split <;> simp_all
      · next hr => exact h.idle (by simpa using hr)
  | start w =>
    have ht : (s.start cfg adapters w).1 = t := Option.some.inj ht
    rcases start_cases s w with ⟨running, hstart, hr⟩ | ⟨hidle, ⟨e, message, hx, hstart⟩ |
      ⟨handle, hx, hstart⟩⟩
    · rw [hstart] at ht
      subst ht
      exact ⟨h.tied, fun hfalse => h.idle (hr hfalse)⟩
    · have hnil := hleaves (.inl ⟨w, message, rfl, by rw [hstart]⟩) t (congrArg some ht)
      refine ⟨fun task hmem => ?_, fun hfalse => ?_⟩
      · rw [hnil] at hmem
        cases hmem
      · rw [hstart] at ht
        subst ht
        cases hfalse
    · rw [hstart] at ht
      subst ht
      refine ⟨fun task hmem => ?_, fun hfalse => by cases hfalse⟩
      rcases List.mem_append.mp hmem with hold | hnew
      · exact .inl (h.untied (h.idle hidle) hold)
      · rcases untied_or_tiedTo_of_mem hnew with huntied | htied
        · exact .inl huntied
        · exact .inr ⟨handle, rfl, cancel_of_startTransports hx ▸ htied⟩

/-- **Nothing is left behind** exactly if failed starts have started nothing and adapters have
ended. -/
theorem leavesNothing_iff {as : List (ModuleLabel A)}
    (hr : run (BridgeModule.step cfg adapters) BridgeModule.new as = some t) :
    Along (BridgeModule.step cfg adapters) (LeavesNothing cfg adapters) BridgeModule.new as ↔
      Along (BridgeModule.step cfg adapters) (Settled cfg adapters) BridgeModule.new as :=
  along_congr (I := Tended) (fun _ _ _ hs _ => leavesNothing_step hs)
    (fun _ _ _ hs hleaves ht => tended_step hs hleaves ht) tended_new hr

end

/-! ## What is left behind, and what is not -/

def fullBridge : BridgeSection :=
  ⟨true, "127.0.0.1:7777", "/run/penguin/bridge.sock",
    ⟨true, "ws://127.0.0.1:4455", "obs_password"⟩⟩

def startWorld (bindUnix : Except String Unit) : StartWorld Unit where
  parseAddr _ := .ok ()
  isLoopback _ := true
  bindTcp _ := .ok ()
  bindUnix _ := bindUnix
  secret _ := .ok []
  obsConnects := true
  debug text := text

abbrev fullStep : BridgeModule → ModuleLabel Unit → Option BridgeModule :=
  BridgeModule.step fullBridge (obsAdapters fullBridge)

def calmCycle : List (ModuleLabel Unit) := [.start (startWorld (.ok ())), .adapterEnds 2, .stop]

theorem leavesNothing_calmCycle :
    ∃ t, run fullStep .new calmCycle = some t ∧
      Along fullStep (LeavesNothing fullBridge (obsAdapters fullBridge)) .new calmCycle ∧
      t.alive = [] := by
  have hstart : ¬ (FailsToStart fullBridge (obsAdapters fullBridge) .new
      (.start (startWorld (.ok ()))) ∨ (.start (startWorld (.ok ())) : ModuleLabel Unit) = .stop) :=
    not_failsToStart rfl
  refine ⟨_, rfl, (leavesNothing_iff rfl).mpr ⟨?_, ?_, ?_, trivial⟩, rfl⟩
  · exact ⟨fun _ _ hf => absurd (.inl hf) hstart, fun hf => absurd hf hstart⟩
  · refine ⟨nofun, ?_⟩
    rintro (⟨w, e, ha, -⟩ | ha) <;> cases ha
  · -- the two listeners are alive
    refine ⟨nofun, fun _ => ?_⟩
    rintro _ (_ | ⟨_, _ | ⟨_, ⟨⟩⟩⟩) ⟨_, ⟨⟩⟩

theorem tasks_left_behind :
    (∃ s t, run fullStep .new [.start (startWorld (.error "in use"))] = some s ∧
      s.alive.map BridgeTask.kind = [.tcp] ∧ run fullStep s [.stop] = some t ∧
      t.alive.map BridgeTask.kind = [.tcp]) ∧
    (∃ t, run fullStep .new [.start (startWorld (.ok ())), .stop] = some t ∧
      t.alive.map BridgeTask.kind = [.adapter "obs"]) ∧
    ¬ Along fullStep (LeavesNothing fullBridge (obsAdapters fullBridge)) .new
      [.start (startWorld (.error "in use"))] := by
  refine ⟨⟨_, _, rfl, rfl, rfl, rfl⟩, ⟨_, rfl, rfl⟩, fun h => ?_⟩
  have hnil := h.1 (.inl ⟨_, _, rfl, rfl⟩) _ rfl
  cases hnil

end Penguind.Waddlebot
