import Penguind.Foundation.Run

/-!
# Starting and stopping the forwarder

A start spawns the UDP and the TCP loop and records both, unless a concurrent call was first. A
stop takes the recorded run, cancels its token and waits for the loops. The UDP loop spawns a task
per query, which holds the socket until it has responded.
-/

namespace Penguind.Forwarder

structure Config where
  udpAddress : String := "127.0.0.1:53"
  tcpAddress : String := "127.0.0.1:53"
  listenUdp : Bool := true
  listenTcp : Bool := true

inductive ForwarderError
  | alreadyRunning
  | notRunning
  | udpBind (addr source : String)
  | tcpBind (addr source : String)
  deriving DecidableEq

def ForwarderError.display : ForwarderError → String
  | .alreadyRunning => "forwarder is already running"
  | .notRunning => "forwarder is not running"
  | .udpBind addr source => "failed to bind UDP socket on " ++ addr ++ ": " ++ source
  | .tcpBind addr source => "failed to bind TCP listener on " ++ addr ++ ": " ++ source

/-! ## One run -/

inductive Loop
  | absent
  | running
  | ended
  deriving DecidableEq

inductive StartPhase
  | idle
  | bindUdp
  | bindTcp
  | commit
  | returning (result : Except ForwarderError Unit)
  | returned
  deriving DecidableEq

def StartPhase.result : StartPhase → Option (Except ForwarderError Unit)
  | .returning result => some result
  | _ => none

/-- Whether a stop has returned for it is kept for the statements. -/
structure ServeRun where
  phase : StartPhase := .idle
  cancelled : Bool := false
  udp : Loop := .absent
  tcp : Loop := .absent
  queries : Nat := 0
  connections : Nat := 0
  stopped : Bool := false
  deriving DecidableEq

inductive RunLabel
  | start
  | udpBind (result : Except String Unit)
  | tcpBind (result : Except String Unit)
  | commit
  | returns
  | udpEnds
  | tcpEnds
  | receive
  | answer
  | discard
  | accept
  | close
  deriving DecidableEq

def Config.afterUdp (cfg : Config) : StartPhase := if cfg.listenTcp then .bindTcp else .commit

def Config.afterCheck (cfg : Config) : StartPhase :=
  if cfg.listenUdp then .bindUdp else cfg.afterUdp

namespace ServeRun

def fail (r : ServeRun) (error : ForwarderError) : ServeRun :=
  { r with phase := .returning (.error error) }

def Enabled (r : ServeRun) : RunLabel → Prop
  | .start => r.phase = .idle
  | .udpBind _ => r.phase = .bindUdp
  | .tcpBind _ => r.phase = .bindTcp
  | .commit => r.phase = .commit
  | .returns => r.phase.result.isSome
  | .udpEnds => r.udp = .running ∧ r.cancelled = true
  | .tcpEnds => r.tcp = .running ∧ r.cancelled = true
  | .receive => r.udp = .running
  | .answer => 0 < r.queries
  | .discard => 0 < r.queries
  | .accept => r.tcp = .running
  | .close => 0 < r.connections

instance (r : ServeRun) : DecidablePred r.Enabled
  | .start => inferInstanceAs (Decidable (_ = _))
  | .udpBind _ => inferInstanceAs (Decidable (_ = _))
  | .tcpBind _ => inferInstanceAs (Decidable (_ = _))
  | .commit => inferInstanceAs (Decidable (_ = _))
  | .returns => inferInstanceAs (Decidable (_ = true))
  | .udpEnds => inferInstanceAs (Decidable (_ ∧ _))
  | .tcpEnds => inferInstanceAs (Decidable (_ ∧ _))
  | .receive => inferInstanceAs (Decidable (_ = _))
  | .answer => inferInstanceAs (Decidable (_ < _))
  | .discard => inferInstanceAs (Decidable (_ < _))
  | .accept => inferInstanceAs (Decidable (_ = _))
  | .close => inferInstanceAs (Decidable (_ < _))

def act (cfg : Config) (recorded : Bool) (r : ServeRun) : RunLabel → ServeRun
  | .start => if recorded then r.fail .alreadyRunning else { r with phase := cfg.afterCheck }
  | .udpBind (.ok _) => { r with phase := cfg.afterUdp, udp := .running }
  | .udpBind (.error source) => r.fail (.udpBind cfg.udpAddress source)
  | .tcpBind (.ok _) => { r with phase := .commit, tcp := .running }
  | .tcpBind (.error source) => r.fail (.tcpBind cfg.tcpAddress source)
  | .commit =>
    -- a start that has lost the race cancels its token and does not wait
    if recorded then { r.fail .alreadyRunning with cancelled := true }
    else { r with phase := .returning (.ok ()) }
  | .returns => { r with phase := .returned }
  | .udpEnds => { r with udp := .ended }
  | .tcpEnds => { r with tcp := .ended }
  | .receive => { r with queries := r.queries + 1 }
  | .answer => { r with queries := r.queries - 1 }
  | .discard => { r with queries := r.queries - 1 }
  | .accept => { r with connections := r.connections + 1 }
  | .close => { r with connections := r.connections - 1 }

/-- No serve loop goes on, and no query task holds the UDP socket. -/
def Released (r : ServeRun) : Prop := r.udp ≠ .running ∧ r.tcp ≠ .running ∧ r.queries = 0

instance (r : ServeRun) : Decidable r.Released := inferInstanceAs (Decidable (_ ∧ _))

def InProgress (r : ServeRun) : Prop := r.phase ≠ .idle ∧ r.phase ≠ .returned

def Committed (r : ServeRun) : Prop := r.phase = .returning (.ok ()) ∨ r.phase = .returned

/-- The start call has neither recorded the run nor returned. -/
def Starting (r : ServeRun) : Prop := r.InProgress ∧ r.phase ≠ .returning (.ok ())

theorem starting_iff {r : ServeRun} :
    r.Starting ↔ r.phase ≠ .idle ∧ r.phase ≠ .returned ∧ r.phase ≠ .returning (.ok ()) :=
  and_assoc

end ServeRun

/-! ## All calls -/

inductive StopPhase
  | idle
  | taken (run : Nat)
  | joinUdp (run : Nat)
  | joinTcp (run : Nat)
  | returning (result : Except ForwarderError Nat)
  | returned
  deriving DecidableEq

inductive StopLabel
  | stop
  | cancel
  | joinUdp
  | joinTcp
  | returns
  deriving DecidableEq

inductive ServeLabel
  | run (n : Nat) (label : RunLabel)
  | stop (j : Nat) (label : StopLabel)
  deriving DecidableEq

structure Server where
  recorded : Option Nat
  runs : Nat → ServeRun
  stops : Nat → StopPhase

namespace Server

def idle : Server := ⟨none, fun _ => {}, fun _ => .idle⟩

variable (s : Server)

def setRun (n : Nat) (r : ServeRun) : Server := { s with runs := Function.update s.runs n r }

def setStop (j : Nat) (phase : StopPhase) : Server :=
  { s with stops := Function.update s.stops j phase }

def record (n : Nat) (label : RunLabel) : Option Nat :=
  if label = .commit ∧ s.recorded = none then some n else s.recorded

def stepStop (j : Nat) : StopLabel → Option Server
  | .stop =>
    if s.stops j = .idle then
      match s.recorded with
      | none => some (s.setStop j (.returning (.error .notRunning)))
      | some n => some ({ s with recorded := none }.setStop j (.taken n))
    else none
  | .cancel =>
    match s.stops j with
    | .taken n => some ((s.setRun n { s.runs n with cancelled := true }).setStop j (.joinUdp n))
    | _ => none
  | .joinUdp =>
    match s.stops j with
    | .joinUdp n => if (s.runs n).udp = .running then none else some (s.setStop j (.joinTcp n))
    | _ => none
  | .joinTcp =>
    match s.stops j with
    | .joinTcp n =>
      if (s.runs n).tcp = .running then none else some (s.setStop j (.returning (.ok n)))
    | _ => none
  | .returns =>
    match s.stops j with
    | .returning (.ok n) =>
      some ((s.setRun n { s.runs n with stopped := true }).setStop j .returned)
    | .returning (.error _) => some (s.setStop j .returned)
    | _ => none

def step (cfg : Config) (s : Server) : ServeLabel → Option Server
  | .run n label =>
    if (s.runs n).Enabled label then
      some { s.setRun n ((s.runs n).act cfg s.recorded.isSome label) with
        recorded := s.record n label }
    else none
  | .stop j label => s.stepStop j label

def Quiet : Prop := (∀ n, ¬ (s.runs n).InProgress) ∧ ∀ j, s.stops j = .idle ∨ s.stops j = .returned

end Server

/-! ## What holds of a run in each phase -/

namespace ServeRun

variable {cfg : Config} {recorded : Bool} {r r' : ServeRun} {label : RunLabel}

def Fresh (r : ServeRun) : Prop := r.udp = .absent ∧ r.tcp = .absent ∧ r.cancelled = false

def UdpUp (cfg : Config) (r : ServeRun) : Prop :=
  r.udp = (if cfg.listenUdp then .running else .absent) ∧ r.tcp = .absent ∧ r.cancelled = false

def Expects (cfg : Config) (r : ServeRun) : StartPhase → Prop
  | .idle => r.Fresh
  | .bindUdp => r.Fresh ∧ cfg.listenUdp = true
  | .bindTcp => r.UdpUp cfg
  | .returning (.error (.udpBind _ _)) => r.Fresh
  | .returning (.error (.tcpBind _ _)) => r.UdpUp cfg
  | .returning (.error .notRunning) => False
  | _ => True

structure WellFormed (cfg : Config) (r : ServeRun) : Prop where
  queries : r.udp = .absent → r.queries = 0
  phase : r.Expects cfg r.phase

theorem expects_congr {phase : StartPhase} (hudp : r'.udp = r.udp) (htcp : r'.tcp = r.tcp)
    (hcancelled : r'.cancelled = r.cancelled) (h : r.Expects cfg phase) :
    r'.Expects cfg phase := by
  unfold Expects Fresh UdpUp at *
  rwa [hudp, htcp, hcancelled]

theorem expects_of_cancelled {phase : StartPhase} (hcancelled : r.cancelled = true)
    (h : r.Expects cfg phase) : r'.Expects cfg phase := by
  unfold Expects Fresh UdpUp at *
  split at h <;> simp_all

theorem udpUp_afterUdp (h : r.UdpUp cfg) : r.Expects cfg cfg.afterUdp := by
  unfold Config.afterUdp
  split_ifs
  · exact h
  · trivial

theorem wellFormed_act (h : r.WellFormed cfg) (henabled : r.Enabled label) :
    (r.act cfg recorded label).WellFormed cfg := by
  obtain ⟨hqueries, hphase⟩ := h
  cases label with
  | start =>
    rw [show r.phase = .idle from henabled] at hphase
    cases recorded with
    | true => exact ⟨hqueries, trivial⟩
    | false =>
      refine ⟨hqueries, ?_⟩
      change ServeRun.Expects cfg { r with phase := cfg.afterCheck } cfg.afterCheck
      unfold Config.afterCheck
      split_ifs with hlisten
      · exact ⟨hphase, hlisten⟩
      · exact udpUp_afterUdp ⟨by rw [if_neg hlisten]; exact hphase.1, hphase.2⟩
  | udpBind result =>
    rw [show r.phase = .bindUdp from henabled] at hphase
    cases result with
    | ok =>
      refine ⟨nofun, udpUp_afterUdp ⟨?_, hphase.1.2⟩⟩
      rw [if_pos hphase.2]
      rfl
    | error source => exact ⟨hqueries, hphase.1⟩
  | tcpBind result =>
    rw [show r.phase = .bindTcp from henabled] at hphase
    cases result with
    | ok => exact ⟨hqueries, trivial⟩
    | error source => exact ⟨hqueries, hphase⟩
  | commit => cases recorded <;> exact ⟨hqueries, trivial⟩
  | returns => exact ⟨hqueries, trivial⟩
  | udpEnds => exact ⟨nofun, expects_of_cancelled henabled.2 hphase⟩
  | tcpEnds => exact ⟨hqueries, expects_of_cancelled henabled.2 hphase⟩
  | receive =>
    refine ⟨fun habsent => ?_, expects_congr rfl rfl rfl hphase⟩
    cases (show r.udp = .running from henabled).symm.trans habsent
  | answer | discard =>
    exact ⟨fun habsent => by simp [act, hqueries habsent], expects_congr rfl rfl rfl hphase⟩
  | accept | close => exact ⟨hqueries, expects_congr rfl rfl rfl hphase⟩

theorem committed_act (h : r.Committed) (henabled : r.Enabled label) :
    (r.act cfg recorded label).Committed := by
  cases label with
  | start | udpBind | tcpBind | commit => rcases h with h | h <;> cases h.symm.trans henabled
  | returns => exact .inr rfl
  | _ => exact h

theorem udp_of_udp_act (henabled : r.Enabled label)
    (h : (r.act cfg recorded label).udp = .running) : r.udp = .running ∨ r.phase = .bindUdp := by
  cases label with
  | start => cases recorded <;> exact .inl h
  | udpBind => exact .inr henabled
  | tcpBind result => cases result <;> exact .inl h
  | commit => cases recorded <;> exact .inl h
  | udpEnds => cases h
  | _ => exact .inl h

theorem tcp_of_tcp_act (henabled : r.Enabled label)
    (h : (r.act cfg recorded label).tcp = .running) : r.tcp = .running ∨ r.phase = .bindTcp := by
  cases label with
  | start => cases recorded <;> exact .inl h
  | udpBind result => cases result <;> exact .inl h
  | tcpBind => exact .inr henabled
  | commit => cases recorded <;> exact .inl h
  | tcpEnds => cases h
  | _ => exact .inl h

theorem Committed.not_binding (h : r.Committed) : r.phase ≠ .bindUdp ∧ r.phase ≠ .bindTcp := by
  rcases h with h | h <;> rw [h] <;> exact ⟨nofun, nofun⟩

end ServeRun

/-! ## What holds of all calls -/

def StopPhase.run : StopPhase → Option Nat
  | .taken n => some n
  | .joinUdp n => some n
  | .joinTcp n => some n
  | .returning (.ok n) => some n
  | _ => none

namespace Server

variable {cfg : Config} {s t : Server} {j n : Nat}

@[simp] theorem runs_setRun_self (s : Server) (n : Nat) (r : ServeRun) :
    (s.setRun n r).runs n = r := Function.update_self ..

theorem runs_setRun_of_ne (s : Server) {m n : Nat} (h : m ≠ n) (r : ServeRun) :
    (s.setRun n r).runs m = s.runs m := Function.update_of_ne h ..

@[simp] theorem stops_setStop_self (s : Server) (j : Nat) (phase : StopPhase) :
    (s.setStop j phase).stops j = phase := Function.update_self ..

theorem stops_setStop_of_ne (s : Server) {j k : Nat} (h : k ≠ j) (phase : StopPhase) :
    (s.setStop j phase).stops k = s.stops k := Function.update_of_ne h ..

inductive StopStep (s : Server) (j : Nat) : StopLabel → Server → Prop
  | refused (hj : s.stops j = .idle) (hs : s.recorded = none) :
      StopStep s j .stop (s.setStop j (.returning (.error .notRunning)))
  | taken (n : Nat) (hj : s.stops j = .idle) (hs : s.recorded = some n) :
      StopStep s j .stop ({ s with recorded := none }.setStop j (.taken n))
  | cancelled (n : Nat) (hj : s.stops j = .taken n) :
      StopStep s j .cancel
        ((s.setRun n { s.runs n with cancelled := true }).setStop j (.joinUdp n))
  | joinedUdp (n : Nat) (hj : s.stops j = .joinUdp n) (hudp : (s.runs n).udp ≠ .running) :
      StopStep s j .joinUdp (s.setStop j (.joinTcp n))
  | joinedTcp (n : Nat) (hj : s.stops j = .joinTcp n) (htcp : (s.runs n).tcp ≠ .running) :
      StopStep s j .joinTcp (s.setStop j (.returning (.ok n)))
  | stopped (n : Nat) (hj : s.stops j = .returning (.ok n)) :
      StopStep s j .returns ((s.setRun n { s.runs n with stopped := true }).setStop j .returned)
  | failed (error : ForwarderError) (hj : s.stops j = .returning (.error error)) :
      StopStep s j .returns (s.setStop j .returned)

theorem stopStep_of_stepStop {label : StopLabel} (h : s.stepStop j label = some t) :
    StopStep s j label t := by
  revert h
  fun_cases stepStop s j label with rintro ⟨⟩
  | case1 hj hs => exact .refused hj hs
  | case2 hj n hs => exact .taken n hj hs
  | case4 n hj => exact .cancelled n hj
  | case7 n hj hudp => exact .joinedUdp n hj hudp
  | case10 n hj htcp => exact .joinedTcp n hj htcp
  | case12 n hj => exact .stopped n hj
  | case13 error hj => exact .failed error hj

/-- Recorded and taken runs are committed, and loops that were waited for have ended. -/
structure Consistent (cfg : Config) (s : Server) : Prop where
  runs : ∀ n, (s.runs n).WellFormed cfg
  recorded : ∀ n, s.recorded = some n → (s.runs n).Committed
  stops : ∀ j n, (s.stops j).run = some n → (s.runs n).Committed
  udp : ∀ j n, s.stops j = .joinTcp n ∨ s.stops j = .returning (.ok n) →
    (s.runs n).udp ≠ .running
  tcp : ∀ j n, s.stops j = .returning (.ok n) → (s.runs n).tcp ≠ .running

theorem consistent_idle (cfg : Config) : Consistent cfg idle where
  runs _ := ⟨fun _ => rfl, rfl, rfl, rfl⟩
  recorded _ := nofun
  stops _ _ := nofun
  udp _ _ := nofun
  tcp _ _ := nofun

structure Advances (cfg : Config) (r r' : ServeRun) : Prop where
  wellFormed : r'.WellFormed cfg
  committed : r.Committed → r'.Committed
  udp : r.Committed → r'.udp = .running → r.udp = .running
  tcp : r.Committed → r'.tcp = .running → r.tcp = .running

theorem advances_act {r : ServeRun} {recorded : Bool} {label : RunLabel} (h : r.WellFormed cfg)
    (henabled : r.Enabled label) : Advances cfg r (r.act cfg recorded label) where
  wellFormed := r.wellFormed_act h henabled
  committed hr := r.committed_act hr henabled
  udp hr hudp := (r.udp_of_udp_act henabled hudp).resolve_right hr.not_binding.1
  tcp hr htcp := (r.tcp_of_tcp_act henabled htcp).resolve_right hr.not_binding.2

theorem advances_cancelled {r : ServeRun} (h : r.WellFormed cfg) (hr : r.Committed) :
    Advances cfg r { r with cancelled := true } where
  wellFormed := by
    refine ⟨h.queries, ?_⟩
    change ServeRun.Expects cfg { r with cancelled := true } r.phase
    rcases hr with hr | hr <;> rw [hr] <;> trivial
  committed _ := hr
  udp _ hudp := hudp
  tcp _ htcp := htcp

theorem advances_stopped {r : ServeRun} (h : r.WellFormed cfg) :
    Advances cfg r { r with stopped := true } where
  wellFormed := ⟨h.queries, ServeRun.expects_congr rfl rfl rfl h.phase⟩
  committed hr := hr
  udp _ hudp := hudp
  tcp _ htcp := htcp

theorem consistent_setRun {r : ServeRun} (h : Consistent cfg s) (hr : Advances cfg (s.runs n) r) :
    Consistent cfg (s.setRun n r) := by
  have hruns : ∀ m, Advances cfg (s.runs m) ((s.setRun n r).runs m) :=
    (Function.forall_update_iff s.runs fun m => Advances cfg (s.runs m)).mpr
      ⟨hr, fun m _ => ⟨h.runs m, id, fun _ => id, fun _ => id⟩⟩
  refine ⟨fun m => (hruns m).wellFormed, fun m hm => (hruns m).committed (h.recorded m hm),
    fun k m hm => (hruns m).committed (h.stops k m hm), fun k m hm hudp => ?_,
    fun k m hm htcp => ?_⟩
  · have hcommitted : (s.runs m).Committed := by
      refine h.stops k m ?_
      rcases hm with hm | hm <;> rw [show s.stops k = _ from hm] <;> rfl
    exact h.udp k m hm ((hruns m).udp hcommitted hudp)
  · have hcommitted : (s.runs m).Committed :=
      h.stops k m (by rw [show s.stops k = _ from hm]; rfl)
    exact h.tcp k m hm ((hruns m).tcp hcommitted htcp)

theorem consistent_setStop {phase : StopPhase} (h : Consistent cfg s)
    (hcommitted : ∀ n, phase.run = some n → (s.runs n).Committed)
    (hudp : ∀ n, phase = .joinTcp n ∨ phase = .returning (.ok n) → (s.runs n).udp ≠ .running)
    (htcp : ∀ n, phase = .returning (.ok n) → (s.runs n).tcp ≠ .running) :
    Consistent cfg (s.setStop j phase) := by
  have hstops (k : Nat) : (s.setStop j phase).stops k = phase ∨
      (s.setStop j phase).stops k = s.stops k := by
    by_cases hk : k = j
    · subst hk
      exact .inl (stops_setStop_self ..)
    · exact .inr (stops_setStop_of_ne s hk phase)
  refine ⟨h.runs, h.recorded, fun k m hm => ?_, fun k m hm => ?_, fun k m hm => ?_⟩
  · rcases hstops k with hk | hk <;> rw [hk] at hm
    · exact hcommitted m hm
    · exact h.stops k m hm
  · rcases hstops k with hk | hk <;> rw [hk] at hm
    · exact hudp m hm
    · exact h.udp k m hm
  · rcases hstops k with hk | hk <;> rw [hk] at hm
    · exact htcp m hm
    · exact h.tcp k m hm

theorem consistent_recorded {recorded : Option Nat} (h : Consistent cfg s)
    (hrecorded : ∀ n, recorded = some n → (s.runs n).Committed) :
    Consistent cfg { s with recorded := recorded } :=
  ⟨h.runs, hrecorded, h.stops, h.udp, h.tcp⟩

theorem consistent_step {a : ServeLabel} (h : Consistent cfg s) (hstep : s.step cfg a = some t) :
    Consistent cfg t := by
  cases a with
  | run n label =>
    obtain ⟨henabled, ht⟩ := Option.ite_none_right_eq_some.mp hstep
    obtain rfl := Option.some.inj ht
    have hset : Consistent cfg (s.setRun n ((s.runs n).act cfg s.recorded.isSome label)) :=
      consistent_setRun h (advances_act (h.runs n) henabled)
    refine consistent_recorded hset fun m hm => ?_
    unfold record at hm
    split_ifs at hm with hcommit
    · -- the start call that commits while no run is recorded
      obtain ⟨rfl, hnone⟩ := hcommit
      obtain rfl := Option.some.inj hm
      rw [runs_setRun_self, hnone]
      exact .inl rfl
    · exact hset.recorded m hm
  | stop j label =>
    cases stopStep_of_stepStop hstep with
    | refused => exact consistent_setStop h nofun nofun nofun
    | taken n _ hs =>
      refine consistent_setStop (consistent_recorded h nofun) ?_ nofun nofun
      rintro _ ⟨⟩
      exact h.recorded n hs
    | cancelled n hj =>
      have hcommitted : (s.runs n).Committed := h.stops j n (by rw [hj]; rfl)
      have hadv := advances_cancelled (h.runs n) hcommitted
      refine consistent_setStop (consistent_setRun h hadv) ?_ nofun nofun
      rintro _ ⟨⟩
      rw [runs_setRun_self]
      exact hcommitted
    | joinedUdp n hj hudp =>
      refine consistent_setStop h ?_ ?_ nofun
      · rintro _ ⟨⟩
        exact h.stops j n (by rw [hj]; rfl)
      · rintro m (hm | hm) <;> cases hm
        exact hudp
    | joinedTcp n hj htcp =>
      refine consistent_setStop h ?_ ?_ ?_
      · rintro _ ⟨⟩
        exact h.stops j n (by rw [hj]; rfl)
      · rintro m (hm | hm) <;> cases hm
        exact h.udp j n (.inl hj)
      · rintro _ ⟨⟩
        exact htcp
    | stopped n =>
      exact consistent_setStop (consistent_setRun h (advances_stopped (h.runs n))) nofun nofun nofun
    | failed => exact consistent_setStop h nofun nofun nofun

end Server

end Penguind.Forwarder
