import Penguind.Forwarder.Serve

/-!
# What starts and stops leave behind

A start that fails to bind the TCP listener leaves its UDP loop running, and one that lost a race
does not wait for its loop. A stop does not wait for the query tasks, which hold the socket.
-/

namespace Penguind.Forwarder

open Foundation

/-! ## Who is responsible for a loop -/

inductive LoopKind
  | udp
  | tcp

def ServeRun.loop (r : ServeRun) : LoopKind → Loop
  | .udp => r.udp
  | .tcp => r.tcp

def StopPhase.Awaits (kind : LoopKind) (n : Nat) : StopPhase → Prop
  | .taken m => m = n
  | .joinUdp m => m = n
  | .joinTcp m => kind = .tcp ∧ m = n
  | _ => False

namespace ServeRun

variable {cfg : Config} {recorded : Bool} {r : ServeRun} {label : RunLabel} {kind : LoopKind}

theorem Released.loop_ne (h : r.Released) (kind : LoopKind) : r.loop kind ≠ .running := by
  cases kind with
  | udp => exact h.1
  | tcp => exact h.2.1

theorem loop_of_loop_act (henabled : r.Enabled label)
    (h : (r.act cfg recorded label).loop kind = .running) :
    r.loop kind = .running ∨ r.Starting := by
  cases kind with
  | udp => exact (udp_of_udp_act henabled h).imp_right fun hphase => by simp [starting_iff, hphase]
  | tcp => exact (tcp_of_tcp_act henabled h).imp_right fun hphase => by simp [starting_iff, hphase]

theorem starting_act (h : r.Starting) (henabled : r.Enabled label)
    (hfail : label = .returns → ∀ error, r.phase = .returning (.error error) → r.Released) :
    (r.act cfg recorded label).Starting ∨ label = .commit ∧ recorded = false ∨
      (r.act cfg recorded label).Released := by
  cases label with
  | start => exact absurd henabled h.1.1
  | udpBind result =>
    left
    cases result with
    | ok =>
      unfold Starting InProgress act Config.afterUdp
      split_ifs <;> exact ⟨⟨nofun, nofun⟩, nofun⟩
    | error => exact ⟨⟨nofun, nofun⟩, nofun⟩
  | tcpBind result =>
    left
    cases result <;> exact ⟨⟨nofun, nofun⟩, nofun⟩
  | commit =>
    cases recorded with
    | true => exact .inl ⟨⟨nofun, nofun⟩, nofun⟩
    | false => exact .inr (.inl ⟨rfl, rfl⟩)
  | returns =>
    right; right
    cases hphase : r.phase with
    | returning result =>
      cases result with
      | ok => exact absurd hphase h.2
      | error error => exact hfail rfl error hphase
    | _ => simp [Enabled, hphase, StartPhase.result] at henabled
  | _ => exact .inl h

end ServeRun

namespace Server

variable {cfg : Config} {s t : Server} {a : ServeLabel}

/-- Every loop belongs to a start call, to the recorded run, or to a stopped one. -/
def Owned (s : Server) : Prop :=
  ∀ kind n, (s.runs n).loop kind = .running →
    (s.runs n).Starting ∨ s.recorded = some n ∨ ∃ j, (s.stops j).Awaits kind n

def FailsCleanly (s : Server) (a : ServeLabel) : Prop :=
  ∀ n error, a = .run n .returns → (s.runs n).phase = .returning (.error error) →
    (s.runs n).Released

theorem owned_idle : Owned idle := by
  intro kind n h
  cases kind <;> cases h

theorem owned_setStop {j : Nat} {phase : StopPhase} (h : Owned s)
    (hphase : ∀ kind n, (s.stops j).Awaits kind n → (s.runs n).loop kind = .running →
      phase.Awaits kind n) : Owned (s.setStop j phase) := by
  intro kind n hn
  refine (h kind n hn).imp_right (Or.imp_right ?_)
  rintro ⟨k, hk⟩
  by_cases hkj : k = j
  · subst hkj
    exact ⟨k, by rw [stops_setStop_self]; exact hphase kind n hk hn⟩
  · exact ⟨k, by rwa [stops_setStop_of_ne s hkj]⟩

theorem owned_setRun {n : Nat} {r : ServeRun} (h : Owned s)
    (hloop : ∀ kind, r.loop kind = (s.runs n).loop kind) (hphase : r.phase = (s.runs n).phase) :
    Owned (s.setRun n r) := by
  intro kind
  refine (Function.forall_update_iff s.runs fun m r => r.loop kind = .running →
    r.Starting ∨ s.recorded = some m ∨ ∃ j, (s.stops j).Awaits kind m).mpr
    ⟨?_, fun m _ => h kind m⟩
  rw [hloop, ServeRun.starting_iff, hphase, ← ServeRun.starting_iff]
  exact h kind n

theorem owned_run {n : Nat} {label : RunLabel} (h : Owned s) (hfail : s.FailsCleanly (.run n label))
    (hstep : s.step cfg (.run n label) = some t) : Owned t := by
  obtain ⟨henabled, ⟨⟩⟩ := Option.ite_none_right_eq_some.mp hstep
  have hrecord (m : Nat) (hm : s.recorded = some m) : s.record n label = some m := by
    rw [record, if_neg (by rw [hm]; rintro ⟨-, ⟨⟩⟩), hm]
  intro kind m hm
  by_cases hmn : m = n
  · subst hmn
    change ((s.setRun m _).runs m).loop kind = .running at hm
    change ((s.setRun m _).runs m).Starting ∨ s.record m label = some m ∨ _
    rw [runs_setRun_self] at hm ⊢
    have hold : (s.runs m).Starting ∨ s.recorded = some m ∨ ∃ j, (s.stops j).Awaits kind m :=
      (ServeRun.loop_of_loop_act henabled hm).elim (h kind m) .inl
    rcases hold with hstarting | hrecorded | hawaits
    · rcases ServeRun.starting_act hstarting henabled
        (fun hreturns error => hfail m error (by rw [hreturns])) with
        hon | ⟨rfl, hnone⟩ | hreleased
      · exact .inl hon
      · refine .inr (.inl ?_)
        rw [record, if_pos ⟨rfl, by simpa using hnone⟩]
      · exact absurd hm (hreleased.loop_ne kind)
    · exact .inr (.inl (hrecord m hrecorded))
    · exact .inr (.inr hawaits)
  · change ((s.setRun n _).runs m).loop kind = .running at hm
    change ((s.setRun n _).runs m).Starting ∨ s.record n label = some m ∨ _
    rw [runs_setRun_of_ne s hmn] at hm ⊢
    exact (h kind m hm).imp_right (Or.imp_left (hrecord m))

theorem owned_stop {j : Nat} {label : StopLabel} (h : Owned s)
    (hstep : s.step cfg (.stop j label) = some t) : Owned t := by
  cases stopStep_of_stepStop hstep with
  | refused hj | failed error hj =>
    refine owned_setStop h fun kind n hn _ => ?_
    rw [hj] at hn
    exact hn.elim
  | taken n hj hs =>
    intro kind m hm
    rcases h kind m hm with hstarting | hrecorded | ⟨k, hk⟩
    · exact .inl hstarting
    · refine .inr (.inr ⟨j, ?_⟩)
      rw [stops_setStop_self]
      exact Option.mem_unique hs hrecorded
    · refine .inr (.inr ⟨k, ?_⟩)
      have hkj : k ≠ j := by
        rintro rfl
        rw [hj] at hk
        exact hk
      rwa [stops_setStop_of_ne _ hkj]
  | cancelled n hj =>
    have hrun : Owned (s.setRun n { s.runs n with cancelled := true }) :=
      owned_setRun h (fun kind => by cases kind <;> rfl) rfl
    refine owned_setStop hrun fun kind m hm _ => ?_
    change (s.stops j).Awaits kind m at hm
    rwa [hj] at hm
  | joinedUdp n hj hudp =>
    refine owned_setStop h fun kind m hm hloop => ?_
    rw [hj] at hm
    obtain rfl : n = m := hm
    cases kind with
    | udp => exact absurd hloop hudp
    | tcp => exact ⟨rfl, rfl⟩
  | joinedTcp n hj htcp =>
    refine owned_setStop h fun kind m hm hloop => ?_
    rw [hj] at hm
    obtain ⟨rfl, rfl⟩ := hm
    exact absurd hloop htcp
  | stopped n hj =>
    have hrun : Owned (s.setRun n { s.runs n with stopped := true }) :=
      owned_setRun h (fun kind => by cases kind <;> rfl) rfl
    refine owned_setStop hrun fun kind m hm _ => ?_
    change (s.stops j).Awaits kind m at hm
    rw [hj] at hm
    exact hm.elim

theorem owned_step (h : Owned s) (hfail : s.FailsCleanly a) (hstep : s.step cfg a = some t) :
    Owned t := by
  cases a with
  | run n label => exact owned_run h hfail hstep
  | stop j label => exact owned_stop h hstep

/-! ## Failed starts -/

/-- A failed start leaves no socket bound, and every serve loop belongs to the recorded run. -/
def StartsCleanly (cfg : Config) (s : Server) (a : ServeLabel) : Prop :=
  s.FailsCleanly a ∧ ∀ t, s.step cfg a = some t → t.Quiet →
    ∀ n, (t.runs n).udp = .running ∨ (t.runs n).tcp = .running → t.recorded = some n

/-- A failed start had no UDP loop to leave behind, or has lost the race when all had ended. -/
def ReturnsLate (cfg : Config) (s : Server) (a : ServeLabel) : Prop :=
  ∀ n, a = .run n .returns →
    (∀ addr source, (s.runs n).phase = .returning (.error (.tcpBind addr source)) →
      cfg.listenUdp = false) ∧
    ((s.runs n).phase = .returning (.error .alreadyRunning) → (s.runs n).Released)

theorem failsCleanly_iff (h : Consistent cfg s) (a : ServeLabel) :
    s.FailsCleanly a ↔ s.ReturnsLate cfg a := by
  constructor
  · intro hfail n ha
    refine ⟨fun addr source hphase => ?_, hfail n .alreadyRunning ha⟩
    have hup := (h.runs n).phase
    rw [hphase] at hup
    have hudp := (hfail n _ ha hphase).1
    rw [hup.1] at hudp
    simpa using hudp
  · intro hlate n error ha hphase
    have hexpects := (h.runs n).phase
    rw [hphase] at hexpects
    have hreleased (hudp : (s.runs n).udp = .absent) (htcp : (s.runs n).tcp = .absent) :
        (s.runs n).Released := by
      exact ⟨hudp ▸ nofun, htcp ▸ nofun, (h.runs n).queries hudp⟩
    cases error with
    | alreadyRunning => exact (hlate n ha).2 hphase
    | notRunning => exact hexpects.elim
    | udpBind => exact hreleased hexpects.1 hexpects.2.1
    | tcpBind addr source =>
      refine hreleased ?_ hexpects.2.1
      rw [hexpects.1, (hlate n ha).1 addr source hphase]
      rfl

theorem recorded_of_quiet (kind : LoopKind) (h : Owned t) (hquiet : t.Quiet) {n : Nat}
    (hloop : (t.runs n).loop kind = .running) : t.recorded = some n := by
  rcases h kind n hloop with hstarting | hrecorded | ⟨j, hj⟩
  · exact absurd hstarting.1 (hquiet.1 n)
  · exact hrecorded
  · rcases hquiet.2 j with hphase | hphase <;> rw [hphase] at hj <;> exact hj.elim

end Server

def tcpPortTaken : List ServeLabel :=
  [.run 0 (.tcpBind (.error "address in use")), .run 0 .returns]

namespace ServeRun

variable {cfg : Config} {recorded : Bool} {r : ServeRun} {label : RunLabel}

theorem released_act (h : r.Released) (hr : r.phase ≠ .bindUdp ∧ r.phase ≠ .bindTcp)
    (henabled : r.Enabled label) : (r.act cfg recorded label).Released := by
  refine ⟨fun hudp => ?_, fun htcp => ?_, ?_⟩
  · exact (udp_of_udp_act henabled hudp).elim h.1 hr.1
  · exact (tcp_of_tcp_act henabled htcp).elim h.2.1 hr.2
  · have hqueries := h.2.2
    cases label with
    | start | commit => cases recorded <;> exact hqueries
    | udpBind result | tcpBind result => cases result <;> exact hqueries
    | receive => exact absurd henabled h.1
    | answer | discard => exact absurd hqueries (Nat.ne_of_gt henabled)
    | _ => exact hqueries

theorem stopped_act : (r.act cfg recorded label).stopped = r.stopped := by
  cases label with
  | start | commit => cases recorded <;> rfl
  | udpBind result | tcpBind result => cases result <;> rfl
  | _ => rfl

end ServeRun

namespace Server

variable {cfg : Config} {s t : Server} {a : ServeLabel}

/-- A successful stop has released both ports, and no response is sent after it. -/
def StopsCleanly (s : Server) (a : ServeLabel) : Prop :=
  (∀ j n, a = .stop j .returns → s.stops j = .returning (.ok n) → (s.runs n).Released) ∧
    ∀ n, a = .run n .answer → (s.runs n).stopped = false

def QueriesDone (s : Server) (a : ServeLabel) : Prop :=
  ∀ j n, a = .stop j .returns → s.stops j = .returning (.ok n) → (s.runs n).queries = 0

def StoppedReleased (s : Server) : Prop :=
  ∀ n, (s.runs n).stopped = true → (s.runs n).Committed ∧ (s.runs n).Released

theorem stoppedReleased_setRun {n : Nat} {r : ServeRun} (h : StoppedReleased s)
    (hr : r.stopped = true → r.Committed ∧ r.Released) : StoppedReleased (s.setRun n r) :=
  (Function.forall_update_iff s.runs fun _ r => r.stopped = true → r.Committed ∧ r.Released).mpr
    ⟨hr, fun m _ => h m⟩

theorem stoppedReleased_step (hs : Consistent cfg s) (h : StoppedReleased s)
    (hclean : s.StopsCleanly a) (hstep : s.step cfg a = some t) : StoppedReleased t := by
  cases a with
  | run n label =>
    obtain ⟨henabled, ⟨⟩⟩ := Option.ite_none_right_eq_some.mp hstep
    refine stoppedReleased_setRun h fun hstopped => ?_
    rw [ServeRun.stopped_act] at hstopped
    obtain ⟨hcommitted, hreleased⟩ := h n hstopped
    exact ⟨ServeRun.committed_act hcommitted henabled,
      ServeRun.released_act hreleased hcommitted.not_binding henabled⟩
  | stop j label =>
    cases stopStep_of_stepStop hstep with
    | cancelled n hj => exact stoppedReleased_setRun (s := s) h (h n)
    | stopped n hj =>
      refine stoppedReleased_setRun (s := s) h fun _ => ⟨?_, hclean.1 j n rfl hj⟩
      exact hs.stops j n (by rw [hj]; rfl)
    | _ => exact h

theorem stopsCleanly_iff (hs : Consistent cfg s) (h : StoppedReleased s)
    (hstep : s.step cfg a = some t) : s.StopsCleanly a ↔ s.QueriesDone a := by
  refine ⟨fun hclean j n ha hj => (hclean.1 j n ha hj).2.2, fun hdone => ⟨fun j n ha hj => ?_, ?_⟩⟩
  · exact ⟨hs.udp j n (.inr hj), hs.tcp j n hj, hdone j n ha hj⟩
  · rintro n rfl
    obtain ⟨henabled, -⟩ := Option.ite_none_right_eq_some.mp hstep
    by_contra hstopped
    have hreleased := (h n (by simpa using hstopped)).2
    exact absurd hreleased.2.2 (Nat.ne_of_gt henabled)

end Server

def stopDuringQuery : List ServeLabel :=
  [.run 0 .start, .run 0 (.udpBind (.ok ())), .run 0 (.tcpBind (.ok ())), .run 0 .commit,
    .run 0 .returns, .run 0 .receive, .stop 0 .stop, .stop 0 .cancel, .run 0 .udpEnds,
    .run 0 .tcpEnds, .stop 0 .joinUdp, .stop 0 .joinTcp]

end Penguind.Forwarder
