import Penguind.Forwarder.StartStop

/-!
# The recorded run of a forwarder with both listeners

A start records its run once both ports are bound, and a stop takes the run out of the record
before it cancels the token. So a forwarder that says it is running has both loops.
-/

namespace Penguind.Forwarder

def ServeRun.Up (r : ServeRun) : Prop :=
  r.udp = .running ∧ r.tcp = .running ∧ r.cancelled = false

namespace Server

variable {cfg : Config} {s t : Server} {a : ServeLabel} {r : ServeRun} {recorded : Bool}
  {label : RunLabel}

structure Listens (s : Server) : Prop where
  commit : ∀ n, (s.runs n).phase = .commit → (s.runs n).Up
  recorded : ∀ n, s.recorded = some n → (s.runs n).Up
  untaken : ∀ j n, (s.stops j).run = some n → s.recorded ≠ some n

theorem listens_idle : Listens idle where
  commit _ h := nomatch h
  recorded _ h := nomatch h
  untaken _ _ h := nomatch h

theorem up_act (h : r.Up) (henabled : r.Enabled label)
    (hcommit : label = .commit → recorded = false) :
    (r.act cfg recorded label).Up := by
  cases label with
  | start => cases recorded <;> exact h
  | udpBind result =>
    cases result with
    | ok => exact ⟨rfl, h.2⟩
    | error => exact h
  | tcpBind result =>
    cases result with
    | ok => exact ⟨h.1, rfl, h.2.2⟩
    | error => exact h
  | commit =>
    rw [hcommit rfl]
    exact h
  | udpEnds => cases h.2.2.symm.trans henabled.2
  | tcpEnds => cases h.2.2.symm.trans henabled.2
  | _ => exact h

theorem up_of_phase_act (hudp : cfg.listenUdp = true) (htcp : cfg.listenTcp = true)
    (hwf : r.WellFormed cfg) (h : r.phase = .commit → r.Up) (henabled : r.Enabled label)
    (hphase : (r.act cfg recorded label).phase = .commit) : (r.act cfg recorded label).Up := by
  have hexpects := hwf.phase
  cases label with
  | start =>
    cases recorded <;> simp [ServeRun.act, ServeRun.fail, Config.afterCheck, hudp] at hphase
  | udpBind result =>
    cases result <;> simp [ServeRun.act, ServeRun.fail, Config.afterUdp, htcp] at hphase
  | tcpBind result =>
    rw [show r.phase = .bindTcp from henabled] at hexpects
    cases result with
    | ok =>
      have hup : r.udp = .running := by simpa [hudp] using hexpects.1
      exact ⟨hup, rfl, hexpects.2.2⟩
    | error => simp [ServeRun.act, ServeRun.fail] at hphase
  | commit => cases recorded <;> simp [ServeRun.act, ServeRun.fail] at hphase
  | returns => cases hphase
  | _ => exact up_act (h hphase) henabled (by simp)

theorem listens_setStop {j : Nat} {phase : StopPhase} (h : Listens s)
    (hphase : ∀ n, phase.run = some n → s.recorded ≠ some n) : Listens (s.setStop j phase) where
  commit := h.commit
  recorded := h.recorded
  untaken := (Function.forall_update_iff s.stops
    fun _ p => ∀ n, p.run = some n → s.recorded ≠ some n).mpr ⟨hphase, fun k _ => h.untaken k⟩

theorem listens_setRun {n : Nat} (h : Listens s) (hcommit : r.phase = .commit → r.Up)
    (hrec : s.recorded = some n → r.Up) :
    Listens (s.setRun n r) where
  commit := (Function.forall_update_iff s.runs fun _ r => r.phase = .commit → r.Up).mpr
    ⟨hcommit, fun m _ => h.commit m⟩
  recorded := (Function.forall_update_iff s.runs fun m r => s.recorded = some m → r.Up).mpr
    ⟨hrec, fun m _ => h.recorded m⟩
  untaken := h.untaken

theorem listens_run {n : Nat} (hudp : cfg.listenUdp = true) (htcp : cfg.listenTcp = true)
    (hc : Consistent cfg s) (h : Listens s) (hstep : s.step cfg (.run n label) = some t) :
    Listens t := by
  obtain ⟨henabled, ⟨⟩⟩ := Option.ite_none_right_eq_some.mp hstep
  -- The runs of a stop call and the recorded run are committed, so they are not about to be.
  have hnot : ∀ {m}, (s.runs m).Committed → (s.runs m).phase ≠ .commit := by
    rintro m (hm | hm) <;> rw [hm] <;> exact nofun
  have hset : Listens (s.setRun n ((s.runs n).act cfg s.recorded.isSome label)) := by
    refine listens_setRun h (up_of_phase_act hudp htcp (hc.runs n) (h.commit n) henabled)
      fun hrec => up_act (h.recorded n hrec) henabled fun hl => ?_
    rw [hl] at henabled
    exact absurd henabled (hnot (hc.recorded n hrec))
  refine ⟨hset.commit, fun m hm => ?_, fun j m hm hrec => ?_⟩
  · change ((s.setRun n _).runs m).Up
    unfold record at hm
    split_ifs at hm with hcommit
    · obtain rfl := Option.some.inj hm
      rw [runs_setRun_self, hcommit.2]
      exact up_act (h.commit n (by rw [hcommit.1] at henabled; exact henabled)) henabled
        fun _ => rfl
    · exact hset.recorded m hm
  · unfold record at hrec
    split_ifs at hrec with hcommit
    · obtain rfl := Option.some.inj hrec
      rw [hcommit.1] at henabled
      exact hnot (hc.stops j n hm) henabled
    · exact h.untaken j m hm hrec

theorem listens_stop {j : Nat} {label : StopLabel} (hc : Consistent cfg s) (h : Listens s)
    (hstep : s.step cfg (.stop j label) = some t) : Listens t := by
  cases stopStep_of_stepStop hstep with
  | refused | failed => exact listens_setStop h nofun
  | taken n hj hs =>
    have hnone : Listens { s with recorded := none } := ⟨h.commit, nofun, nofun⟩
    exact listens_setStop hnone nofun
  | cancelled n hj =>
    have hrun : (s.stops j).run = some n := by rw [hj]; rfl
    have hset : Listens (s.setRun n { s.runs n with cancelled := true }) := by
      refine listens_setRun h (fun hphase => ?_) fun hrec => absurd hrec (h.untaken j n hrun)
      rcases hc.stops j n hrun with hm | hm <;> cases hm.symm.trans hphase
    refine listens_setStop hset fun m hm => ?_
    cases hm
    exact h.untaken j n hrun
  | joinedUdp n hj | joinedTcp n hj =>
    refine listens_setStop h fun m hm => ?_
    cases hm
    exact h.untaken j n (by rw [hj]; rfl)
  | stopped n hj =>
    have hset : Listens (s.setRun n { s.runs n with stopped := true }) :=
      listens_setRun h (h.commit n) (h.recorded n)
    exact listens_setStop hset nofun

theorem listens_step (hudp : cfg.listenUdp = true) (htcp : cfg.listenTcp = true)
    (hc : Consistent cfg s) (h : Listens s) (hstep : s.step cfg a = some t) : Listens t := by
  cases a with
  | run n label => exact listens_run hudp htcp hc h hstep
  | stop j label => exact listens_stop hc h hstep

/-! ## Steps that begin no start call -/

theorem phase_act_of_idle (h : r.phase = .idle) (henabled : r.Enabled label) (hl : label ≠ .start) :
    (r.act cfg recorded label).phase = .idle := by
  cases label with
  | start => exact absurd rfl hl
  | udpBind | tcpBind | commit => cases h.symm.trans henabled
  | returns => simp [ServeRun.Enabled, h, StartPhase.result] at henabled
  | _ => exact h

theorem phase_act_ne_bindUdp (h : r.phase ≠ .bindUdp) (henabled : r.Enabled label)
    (hl : label ≠ .start) :
    (r.act cfg recorded label).phase ≠ .bindUdp := by
  cases label with
  | start => exact absurd rfl hl
  | udpBind => exact absurd henabled h
  | tcpBind result => cases result <;> exact nofun
  | commit => cases recorded <;> exact nofun
  | returns => exact nofun
  | _ => exact h

theorem runs_step (hstep : s.step cfg a = some t) (m : Nat) :
    (∃ cancelled stopped, t.runs m = { s.runs m with cancelled, stopped }) ∨
      ∃ label, a = .run m label ∧ (s.runs m).Enabled label ∧
        t.runs m = (s.runs m).act cfg s.recorded.isSome label := by
  cases a with
  | run n label =>
    obtain ⟨henabled, ht⟩ := Option.ite_none_right_eq_some.mp hstep
    obtain rfl := Option.some.inj ht
    by_cases hmn : m = n
    · subst hmn
      exact .inr ⟨label, rfl, henabled, runs_setRun_self ..⟩
    · exact .inl ⟨_, _, runs_setRun_of_ne s hmn _⟩
  | stop j label =>
    cases stopStep_of_stepStop hstep with
    | cancelled n hj | stopped n hj =>
      by_cases hmn : m = n
      · subst hmn
        exact .inl ⟨_, _, runs_setRun_self ..⟩
      · exact .inl ⟨_, _, runs_setRun_of_ne s hmn _⟩
    | _ => exact .inl ⟨_, _, rfl⟩

theorem phase_idle_step {m : Nat} (ha : a ≠ .run m .start) (hstep : s.step cfg a = some t)
    (h : (s.runs m).phase = .idle) :
    (t.runs m).phase = .idle := by
  rcases runs_step hstep m with ⟨_, _, he⟩ | ⟨label, rfl, henabled, he⟩ <;> rw [he]
  · exact h
  · exact phase_act_of_idle h henabled fun hl => ha (by rw [hl])

theorem not_binding {n : Nat} (hudp : cfg.listenUdp = true) (hc : Consistent cfg s)
    (h : (s.runs n).Released) (hb : (s.runs n).phase ≠ .bindUdp) :
    (s.runs n).phase ≠ .bindUdp ∧ (s.runs n).phase ≠ .bindTcp := by
  refine ⟨hb, fun htcp => h.1 ?_⟩
  have hexpects := (hc.runs n).phase
  rw [htcp] at hexpects
  simpa [hudp] using hexpects.1

theorem released_step (hudp : cfg.listenUdp = true) (hc : Consistent cfg s)
    (h : ∀ n, (s.runs n).Released) (hb : ∀ n, (s.runs n).phase ≠ .bindUdp)
    (ha : ∀ n, a ≠ .run n .start) (hstep : s.step cfg a = some t) (m : Nat) :
    (t.runs m).Released ∧ (t.runs m).phase ≠ .bindUdp := by
  rcases runs_step hstep m with ⟨_, _, he⟩ | ⟨label, rfl, henabled, he⟩ <;> rw [he]
  · exact ⟨h m, hb m⟩
  · have hl : label ≠ .start := fun hl => ha m (by rw [hl])
    exact ⟨ServeRun.released_act (h m) (not_binding hudp hc (h m) (hb m)) henabled,
      phase_act_ne_bindUdp (hb m) henabled hl⟩

theorem starting_of_phase {phase : StartPhase} (hr : r.phase = phase)
    (h : phase ≠ .idle ∧ phase ≠ .returned ∧ phase ≠ .returning (.ok ())) : r.Starting :=
  ServeRun.starting_iff.mpr (hr ▸ h)

theorem not_starting_act (h : ¬ r.Starting) (henabled : r.Enabled label) (hl : label ≠ .start) :
    ¬ (r.act cfg recorded label).Starting := by
  cases label with
  | start => exact absurd rfl hl
  | udpBind | tcpBind | commit => exact absurd (starting_of_phase henabled (by simp)) h
  | returns => exact fun hs => hs.1.2 rfl
  | _ => exact h

theorem not_starting_step {m : Nat} (ha : a ≠ .run m .start) (hstep : s.step cfg a = some t)
    (h : ¬ (s.runs m).Starting) : ¬ (t.runs m).Starting := by
  rcases runs_step hstep m with ⟨_, _, he⟩ | ⟨label, rfl, henabled, he⟩ <;> rw [he]
  · exact h
  · exact not_starting_act h henabled fun hl => ha (by rw [hl])

theorem recorded_step (h : s.recorded = none) (hn : ∀ n, ¬ (s.runs n).Starting)
    (hstep : s.step cfg a = some t) : t.recorded = none := by
  cases a with
  | run n label =>
    obtain ⟨henabled, ht⟩ := Option.ite_none_right_eq_some.mp hstep
    obtain rfl := Option.some.inj ht
    change s.record n label = none
    rw [record, if_neg, h]
    rintro ⟨rfl, -⟩
    exact hn n (starting_of_phase henabled (by simp))
  | stop j label =>
    cases stopStep_of_stepStop hstep with
    | taken n hj hs => rfl
    | _ => exact h

theorem stops_step (hstep : s.step cfg a = some t) (k : Nat) :
    t.stops k = s.stops k ∨ ∃ label, a = .stop k label := by
  cases a with
  | run m label =>
    obtain ⟨-, ht⟩ := Option.ite_none_right_eq_some.mp hstep
    obtain rfl := Option.some.inj ht
    exact .inl rfl
  | stop j label =>
    by_cases hkj : k = j
    · exact .inr ⟨label, by rw [hkj]⟩
    · refine .inl ?_
      cases stopStep_of_stepStop hstep <;> exact stops_setStop_of_ne _ hkj _

theorem awaits_step {k n : Nat} {kind : LoopKind} (ha : a ≠ .stop k .stop)
    (hstep : s.step cfg a = some t) (h : (t.stops k).Awaits kind n) :
    (s.stops k).Awaits kind n := by
  rcases stops_step hstep k with hsame | ⟨label, rfl⟩
  · rwa [hsame] at h
  · cases stopStep_of_stepStop hstep with
    | refused | taken => exact absurd rfl ha
    | cancelled m hj =>
      rw [stops_setStop_self] at h
      rw [hj]
      exact h
    | joinedUdp m hj hudp =>
      rw [stops_setStop_self] at h
      rw [hj]
      exact h.2
    | joinedTcp | stopped | failed =>
      rw [stops_setStop_self] at h
      exact h.elim

theorem returned_step {k : Nat} (hstep : s.step cfg a = some t) (h : s.stops k = .returned) :
    t.stops k = .returned := by
  rcases stops_step hstep k with hsame | ⟨label, rfl⟩
  · rw [hsame, h]
  · -- No step of a stop call begins where the last one has ended.
    cases stopStep_of_stepStop hstep with
    | refused hj | taken _ hj | cancelled _ hj | joinedUdp _ hj | joinedTcp _ hj | stopped _ hj
    | failed _ hj => cases h.symm.trans hj

end Server

end Penguind.Forwarder
