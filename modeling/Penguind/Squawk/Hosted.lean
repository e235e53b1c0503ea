import Penguind.Forwarder.Listening

/-!
# A hosted squawk module and the commands dispatched to it

The supervisor stops a module under its lock; a dispatched command takes a handle to the instance
and runs without it. `forward start` looks neither at the entry nor at the module's own flag.
-/

namespace Penguind.Squawk

open Foundation Forwarder

structure ForwarderSettings where
  enabled : Bool
  udpAddr : String
  tcpAddr : String

def ForwarderSettings.config (c : ForwarderSettings) : Forwarder.Config where
  udpAddress := c.udpAddr
  tcpAddress := c.tcpAddr
  listenUdp := true
  listenTcp := true

inductive Command
  | forwardStart
  | forwardStop
  | other
  deriving DecidableEq

inductive CommandPhase
  | idle
  | dispatched (command : Command)
  | begun
  deriving DecidableEq

inductive StopCaller
  | unload
  | restart
  deriving DecidableEq

/-- `called` says whether the stop waits for a stop of the forwarder. -/
inductive HostPhase
  | initialised
  | starting
  | loaded
  | stopping (caller : StopCaller) (called : Bool)
  | unloaded
  | failed
  deriving DecidableEq

def StopCaller.after : StopCaller → HostPhase
  | .unload => .unloaded
  | .restart => .loaded

structure Hosted where
  phase : HostPhase
  running : Bool
  server : Server
  commands : Nat → CommandPhase

def Hosted.initialised : Hosted := ⟨.initialised, false, .idle, fun _ => .idle⟩

inductive HostLabel
  | load
  | loadEnds
  | dispatch (k : Nat) (command : Command)
  | begins (k : Nat)
  | serve (label : ServeLabel)
  | stop (caller : StopCaller)
  | stopEnds
  deriving DecidableEq

/-- A call or a task goes on; calls begin and the module's waits end by other labels. -/
def Progresses : ServeLabel → Prop
  | .run n label => label ≠ .start ∧ (n = 0 → label ≠ .returns)
  | .stop j label => label ≠ .stop ∧ (j = 0 → label ≠ .returns)

instance : DecidablePred Progresses
  | .run _ _ => inferInstanceAs (Decidable (_ ∧ _))
  | .stop _ _ => inferInstanceAs (Decidable (_ ∧ _))

namespace Hosted

/-- Neither the module's flag nor the supervisor's entry is looked at. -/
def forwardStart (c : ForwarderSettings) (server : Server) (k : Nat) : Option Server :=
  if c.enabled then server.step c.config (.run (k + 1) .start) else some server

def forwardStop (c : ForwarderSettings) (server : Server) (k : Nat) : Option Server :=
  if c.enabled then server.step c.config (.stop (k + 1) .stop) else some server

def handle (c : ForwarderSettings) (server : Server) (k : Nat) : Command → Option Server
  | .forwardStart => forwardStart c server k
  | .forwardStop => forwardStop c server k
  | .other => some server

def step (c : ForwarderSettings) (s : Hosted) : HostLabel → Option Hosted
  | .load =>
    if s.phase = .initialised then
      if c.enabled then
        (s.server.step c.config (.run 0 .start)).map fun server =>
          { s with phase := .starting, running := true, server := server }
      else some { s with phase := .loaded, running := true }
    else none
  | .loadEnds =>
    if s.phase = .starting then
      match (s.server.runs 0).phase.result with
      | some (.ok _) =>
        (s.server.step c.config (.run 0 .returns)).map fun server =>
          { s with phase := .loaded, server := server }
      | some (.error _) =>
        (s.server.step c.config (.run 0 .returns)).map fun server =>
          { s with phase := .failed, running := false, server := server }
      | none => none
    else none
  | .dispatch k command =>
    -- The handle is taken under the lock, from the entry.
    if s.phase = .loaded ∧ s.commands k = .idle then
      some { s with commands := Function.update s.commands k (.dispatched command) }
    else none
  | .begins k =>
    match s.commands k with
    | .dispatched command =>
      (handle c s.server k command).map fun server =>
        { s with server := server, commands := Function.update s.commands k .begun }
    | _ => none
  | .serve label =>
    if Progresses label then
      (s.server.step c.config label).map fun server => { s with server := server }
    else none
  | .stop caller =>
    if s.phase = .loaded then
      if s.running = true ∧ c.enabled = true then
        (s.server.step c.config (.stop 0 .stop)).map fun server =>
          { s with phase := .stopping caller true, running := false, server := server }
      else some { s with phase := .stopping caller false, running := false }
    else none
  | .stopEnds =>
    match s.phase with
    | .stopping caller true =>
      -- The result of the stop is only logged.
      (s.server.step c.config (.stop 0 .returns)).map fun server =>
        { s with phase := caller.after, server := server }
    | .stopping caller false => some { s with phase := caller.after }
    | _ => none

def PortsFree (s : Hosted) : Prop := ∀ n, (s.server.runs n).Released

/-- Nothing holds a port or is on its way to bind one. -/
structure Settled (c : ForwarderSettings) (s : Hosted) : Prop where
  ports : s.PortsFree
  binding : ∀ n, (s.server.runs n).phase ≠ .bindUdp
  pending : c.enabled = true → ∀ k, s.commands k ≠ .dispatched .forwardStart

end Hosted

def HostLabel.Acquires : HostLabel → Prop
  | .serve (.run _ (.udpBind (.ok _))) | .serve (.run _ (.tcpBind (.ok _))) => True
  | _ => False

/-! ## What holds in every state -/

namespace Hosted

variable {c : ForwarderSettings} {s t : Hosted} {l : HostLabel}

structure Fits (c : ForwarderSettings) (s : Hosted) : Prop where
  consistent : s.server.Consistent c.config
  listens : s.server.Listens
  idle : ∀ k, s.commands k ≠ .begun → (s.server.runs (k + 1)).phase = .idle

theorem fits_initialised (c : ForwarderSettings) : Fits c initialised where
  consistent := Server.consistent_idle _
  listens := Server.listens_idle
  idle _ _ := rfl

variable {server : Server} {phase : HostPhase} {running : Bool} {commands : Nat → CommandPhase}

theorem Fits.serve (h : Fits c s) {a : ServeLabel} (hs : s.server.step c.config a = some server)
    (hk : ∀ k, commands k ≠ .begun → s.commands k ≠ .begun ∧ a ≠ .run (k + 1) .start) :
    Fits c ⟨phase, running, server, commands⟩ where
  consistent := Server.consistent_step h.consistent hs
  listens := Server.listens_step rfl rfl h.consistent h.listens hs
  idle k hbegun := by
    obtain ⟨hold, ha⟩ := hk k hbegun
    exact Server.phase_idle_step ha hs (h.idle k hold)

theorem Fits.quiet (h : Fits c s) (hk : ∀ k, commands k ≠ .begun → s.commands k ≠ .begun) :
    Fits c ⟨phase, running, s.server, commands⟩ :=
  ⟨h.consistent, h.listens, fun k hbegun => h.idle k (hk k hbegun)⟩

theorem Fits.handle (h : Fits c s) {k : Nat} {command : Command}
    (hs : handle c s.server k command = some server) :
    Fits c { s with server := server, commands := Function.update s.commands k .begun } := by
  have hother : ∀ x, Function.update s.commands k .begun x ≠ .begun →
      x ≠ k ∧ s.commands x ≠ .begun := by
    intro x hx
    rw [Function.update_apply] at hx
    split_ifs at hx with hxk
    · exact absurd rfl hx
    · exact ⟨hxk, hx⟩
  cases command with
  | forwardStart =>
    simp only [Hosted.handle, forwardStart] at hs
    split at hs
    · refine h.serve hs fun x hx => ⟨(hother x hx).2, fun he => (hother x hx).1 ?_⟩
      injection he with he
      exact (Nat.succ.inj he).symm
    · cases hs
      exact h.quiet fun x hx => (hother x hx).2
  | forwardStop =>
    simp only [Hosted.handle, forwardStop] at hs
    split at hs
    · exact h.serve hs fun x hx => ⟨(hother x hx).2, nofun⟩
    · cases hs
      exact h.quiet fun x hx => (hother x hx).2
  | other =>
    cases hs
    exact h.quiet fun x hx => (hother x hx).2

theorem fits_step (hf : Fits c s) (h : s.step c l = some t) : Fits c t := by
  revert h
  fun_cases step c s l with first | rintro ⟨⟩ | intro h
  | case1 | case4 | case5 | case14 | case17 =>
    obtain ⟨server, hs, rfl⟩ := Option.map_eq_some_iff.mp h
    exact hf.serve hs fun k hk => ⟨hk, nofun⟩
  | case2 | case15 | case18 => exact hf.quiet fun k hk => hk
  | case8 k command hidle =>
    refine hf.quiet fun x hx => ?_
    by_cases hxk : x = k
    · rw [hxk, hidle.2]
      exact nofun
    · rwa [Function.update_of_ne hxk] at hx
  | case10 k command hk =>
    obtain ⟨server, hs, rfl⟩ := Option.map_eq_some_iff.mp h
    exact hf.handle hs
  | case12 label hl =>
    obtain ⟨server, hs, rfl⟩ := Option.map_eq_some_iff.mp h
    refine hf.serve hs fun k hk => ⟨hk, ?_⟩
    rintro rfl
    exact hl.1 rfl

theorem fits_run {as : List HostLabel} (hr : run (step c) initialised as = some s) : Fits c s :=
  run_invariant_of_step (fun _ _ _ hf h => fits_step hf h) (fits_initialised c) hr

/-! ## After an unload -/

theorem step_of_unloaded (hu : s.phase = .unloaded) (h : s.step c l = some t) :
    (∃ k command server, l = .begins k ∧ s.commands k = .dispatched command ∧
      handle c s.server k command = some server ∧
      t = { s with server := server, commands := Function.update s.commands k .begun }) ∨
      ∃ a server, l = .serve a ∧ Progresses a ∧ s.server.step c.config a = some server ∧
        t = { s with server := server } := by
  cases l with
  | begins k =>
    simp only [step] at h
    split at h
    · obtain ⟨server, hs, rfl⟩ := Option.map_eq_some_iff.mp h
      exact .inl ⟨k, _, server, rfl, ‹_›, hs, rfl⟩
    · cases h
  | serve a =>
    obtain ⟨hl, h⟩ := Option.ite_none_right_eq_some.mp h
    obtain ⟨server, hs, rfl⟩ := Option.map_eq_some_iff.mp h
    exact .inr ⟨a, server, rfl, hl, hs, rfl⟩
  | _ => simp [step, hu] at h

theorem update_begun_ne {x : Nat} {command : Command} (h : commands x ≠ .dispatched command)
    (k : Nat) : Function.update commands k .begun x ≠ .dispatched command := by
  by_cases hxk : x = k
  · rw [hxk, Function.update_self]
    exact nofun
  · rwa [Function.update_of_ne hxk]

theorem settled_step (hf : Fits c s) (hu : s.phase = .unloaded) (hs : Settled c s)
    (h : s.step c l = some t) : t.phase = .unloaded ∧ Settled c t ∧ ¬ l.Acquires := by
  rcases step_of_unloaded hu h with
    ⟨k, command, server, rfl, hk, hh, rfl⟩ | ⟨a, server, rfl, hp, hstep, rfl⟩
  · -- Nothing is dispatched any more, so the pending commands only get fewer.
    have hpending : c.enabled = true → ∀ x,
        Function.update s.commands k .begun x ≠ .dispatched .forwardStart :=
      fun he x => update_begun_ne (hs.pending he x) k
    refine ⟨hu, ?_, id⟩
    cases command with
    | forwardStart =>
      simp only [handle, forwardStart] at hh
      split at hh
      · exact absurd hk (hs.pending ‹_› k)
      · cases hh
        exact ⟨hs.ports, hs.binding, hpending⟩
    | forwardStop =>
      simp only [handle, forwardStop] at hh
      split at hh
      · have hstop : ∀ n, ServeLabel.stop (k + 1) .stop ≠ .run n .start := fun _ => nofun
        have hall := Server.released_step rfl hf.consistent hs.ports hs.binding hstop hh
        exact ⟨fun n => (hall n).1, fun n => (hall n).2, hpending⟩
      · cases hh
        exact ⟨hs.ports, hs.binding, hpending⟩
    | other =>
      cases hh
      exact ⟨hs.ports, hs.binding, hpending⟩
  · have hstart : ∀ n, a ≠ .run n .start := by
      rintro n rfl
      exact hp.1 rfl
    have hall := Server.released_step rfl hf.consistent hs.ports hs.binding hstart hstep
    refine ⟨hu, ⟨fun n => (hall n).1, fun n => (hall n).2, hs.pending⟩, fun hacq => ?_⟩
    cases a with
    | stop j label => exact hacq
    | run n label =>
      have henabled := (Option.ite_none_right_eq_some.mp hstep).1
      have hnot := Server.not_binding rfl hf.consistent (hs.ports n) (hs.binding n)
      cases label with
      | udpBind => exact hnot.1 henabled
      | tcpBind => exact hnot.2 henabled
      | _ => exact hacq

theorem settled_run {bs : List HostLabel} (hf : Fits c s) (hu : s.phase = .unloaded)
    (hs : Settled c s) (hr : run (step c) s bs = some t) :
    t.PortsFree ∧ ∀ l ∈ bs, ¬ l.Acquires := by
  induction hr using run_induction with
  | nil => exact ⟨hs.ports, nofun⟩
  | cons s l u bs hstep _ ih =>
    obtain ⟨hu', hs', hl⟩ := settled_step hf hu hs hstep
    obtain ⟨hfree, hbs⟩ := ih (fits_step hf hstep) hu' hs'
    exact ⟨hfree, List.forall_mem_cons.mpr ⟨hl, hbs⟩⟩

theorem exists_step_udpBind {n : Nat} (h : (s.server.runs n).phase = .bindUdp) :
    ∃ t, s.step c (.serve (.run n (.udpBind (.ok ())))) = some t := by
  have hp : Progresses (.run n (.udpBind (.ok ()))) := ⟨nofun, fun _ => nofun⟩
  have henabled : (s.server.runs n).Enabled (.udpBind (.ok ())) := h
  simp only [step, if_pos hp, Server.step, if_pos henabled]
  exact ⟨_, rfl⟩

theorem exists_step_begins (hf : Fits c s) (he : c.enabled = true) {k : Nat}
    (hnone : s.server.recorded = none) (hk : s.commands k = .dispatched .forwardStart) :
    ∃ t, s.step c (.begins k) = some t ∧ (t.server.runs (k + 1)).phase = .bindUdp := by
  have hidle : (s.server.runs (k + 1)).Enabled .start := by
    refine hf.idle k ?_
    rw [hk]
    exact nofun
  simp only [step, hk, handle, forwardStart, if_pos he, Server.step, if_pos hidle]
  refine ⟨_, rfl, ?_⟩
  change ((s.server.setRun (k + 1) _).runs (k + 1)).phase = .bindUdp
  rw [Server.runs_setRun_self, hnone]
  rfl

/-! ## An unload with no command on its way -/

/-- No forwarder command is on its way. -/
structure NoneOnTheWay (s : Hosted) : Prop where
  pending : ∀ k, s.commands k ≠ .dispatched .forwardStart ∧ s.commands k ≠ .dispatched .forwardStop
  starts : ∀ n, ¬ (s.server.runs n).Starting
  stops : ∀ j, j ≠ 0 → ∀ kind n, ¬ (s.server.stops j).Awaits kind n

structure Leaving (s : Hosted) : Prop extends NoneOnTheWay s where
  phase : s.phase = .stopping .unload true ∨ s.phase = .unloaded ∧ s.server.stops 0 = .returned
  recorded : s.server.recorded = none
  owned : s.server.Owned

theorem NoneOnTheWay.serve (h : NoneOnTheWay s) {a : ServeLabel}
    (hstep : s.server.step c.config a = some server) (hstart : ∀ n, a ≠ .run n .start)
    (hstop : ∀ j, j ≠ 0 → a ≠ .stop j .stop) :
    NoneOnTheWay ⟨phase, running, server, s.commands⟩ where
  pending := h.pending
  starts n := Server.not_starting_step (hstart n) hstep (h.starts n)
  stops j hj kind n hw := h.stops j hj kind n (Server.awaits_step (hstop j hj) hstep hw)

theorem NoneOnTheWay.failsCleanly (h : NoneOnTheWay s) (a : ServeLabel) :
    s.server.FailsCleanly a := by
  intro n error _ hphase
  exact absurd (Server.starting_of_phase hphase (by simp)) (h.starts n)

theorem leaving_step (h : Leaving s) (hstep : s.step c l = some t) : Leaving t := by
  cases l with
  | begins k =>
    simp only [step] at hstep
    split at hstep
    · rename_i command hk
      obtain ⟨server, hs, rfl⟩ := Option.map_eq_some_iff.mp hstep
      cases command with
      | forwardStart => exact absurd hk (h.pending k).1
      | forwardStop => exact absurd hk (h.pending k).2
      | other =>
        cases hs
        refine ⟨⟨fun x => ?_, h.starts, h.stops⟩, h.phase, h.recorded, h.owned⟩
        exact (h.pending x).imp (update_begun_ne · k) (update_begun_ne · k)
    · cases hstep
  | serve a =>
    obtain ⟨hp, hstep⟩ := Option.ite_none_right_eq_some.mp hstep
    obtain ⟨server, hs, rfl⟩ := Option.map_eq_some_iff.mp hstep
    have hnone : NoneOnTheWay { s with server := server } := by
      refine h.toNoneOnTheWay.serve hs ?_ ?_
      · rintro n rfl
        exact hp.1 rfl
      · rintro j - rfl
        exact hp.1 rfl
    refine ⟨hnone, ?_, Server.recorded_step h.recorded h.starts hs,
      Server.owned_step h.owned (h.failsCleanly a) hs⟩
    exact h.phase.imp_right (And.imp_right (Server.returned_step hs))
  | stopEnds =>
    rcases h.phase with hphase | ⟨hphase, -⟩
    · simp only [step, hphase] at hstep
      obtain ⟨server, hs, rfl⟩ := Option.map_eq_some_iff.mp hstep
      refine ⟨h.toNoneOnTheWay.serve hs (fun _ => nofun) fun _ _ => nofun, .inr ⟨rfl, ?_⟩,
        Server.recorded_step h.recorded h.starts hs,
        Server.owned_step h.owned (h.failsCleanly _) hs⟩
      have hret : s.server.stepStop 0 .returns = some server := hs
      cases Server.stopStep_of_stepStop hret <;> exact Server.stops_setStop_self ..
    · simp [step, hphase] at hstep
  | _ => rcases h.phase with hphase | ⟨hphase, -⟩ <;> simp [step, hphase] at hstep

theorem leaving_stop (h : NoneOnTheWay s) (howned : s.server.Owned) (hrun : s.running = true)
    (he : c.enabled = true) (hstep : s.step c (.stop .unload) = some t) : Leaving t := by
  obtain ⟨-, hstep⟩ := Option.ite_none_right_eq_some.mp hstep
  rw [if_pos ⟨hrun, he⟩] at hstep
  obtain ⟨server, hs, rfl⟩ := Option.map_eq_some_iff.mp hstep
  refine ⟨h.serve hs (fun _ => nofun) fun j hj hja => ?_, .inl rfl, ?_,
    Server.owned_step howned (h.failsCleanly _) hs⟩
  · injection hja with hja
    exact hj hja.symm
  · have htake : s.server.stepStop 0 .stop = some server := hs
    cases Server.stopStep_of_stepStop htake with
    | refused hj hnone => exact hnone
    | taken n hj hsome => rfl

/-- **An unload settles the instance** if no forwarder command is on its way. -/
theorem settled_iff_of_quiet {u : Hosted} {bs : List HostLabel} (h : NoneOnTheWay s)
    (howned : s.server.Owned) (hrun : s.running = true) (he : c.enabled = true)
    (hstop : s.step c (.stop .unload) = some u) (hr : run (step c) u bs = some t)
    (ht : t.phase = .unloaded) : Settled c t ↔ ∀ n, (t.server.runs n).queries = 0 := by
  have hl : Leaving t := by
    have hu := leaving_stop h howned hrun he hstop
    exact run_invariant_of_step (fun _ _ _ hv hstep => leaving_step hv hstep) hu hr
  have hreturned : t.server.stops 0 = .returned := by
    rcases hl.phase with hphase | ⟨-, hreturned⟩
    · cases ht.symm.trans hphase
    · exact hreturned
  -- A loop would have to belong to a start call, to the record or to a stop call.
  have hloops : ∀ kind n, (t.server.runs n).loop kind ≠ .running := by
    intro kind n hloop
    rcases hl.owned kind n hloop with hs | hrec | ⟨j, hj⟩
    · exact hl.starts n hs
    · cases hl.recorded.symm.trans hrec
    · by_cases hj0 : j = 0
      · rw [hj0, hreturned] at hj
        exact hj
      · exact hl.stops j hj0 kind n hj
  constructor
  · exact fun hs n => (hs.ports n).2.2
  · refine fun hq => ⟨fun n => ⟨hloops .udp n, hloops .tcp n, hq n⟩, fun n hn => ?_,
      fun _ k => (hl.pending k).1⟩
    exact hl.starts n (Server.starting_of_phase hn (by simp))

/-! ## Never again -/

/-- **After an unload nothing holds a port** exactly if the instance is settled. -/
theorem ports_free_iff {as : List HostLabel} (hr : run (step c) initialised as = some s)
    (hu : s.phase = .unloaded) :
    (∀ bs t, run (step c) s bs = some t → t.PortsFree ∧ ∀ l ∈ bs, ¬ l.Acquires) ↔
      Settled c s := by
  have hf := fits_run hr
  constructor
  · intro h
    have hports := (h [] s rfl).1
    refine ⟨hports, fun n hn => ?_, fun he k hk => ?_⟩
    · obtain ⟨t, ht⟩ := exists_step_udpBind (c := c) hn
      have hrun := run_cons_eq_some.mpr ⟨t, ht, run_nil t⟩
      exact (h _ t hrun).2 _ (List.mem_singleton_self _) trivial
    · -- A recorded run would have its loops.
      have hnone : s.server.recorded = none := by
        refine Option.eq_none_iff_forall_ne_some.mpr fun n hn => ?_
        exact (hports n).1 (hf.listens.recorded n hn).1
      obtain ⟨u, hu, hb⟩ := exists_step_begins hf he hnone hk
      obtain ⟨t, ht⟩ := exists_step_udpBind (c := c) hb
      have hrun := run_cons_eq_some.mpr ⟨u, hu, run_cons_eq_some.mpr ⟨t, ht, run_nil t⟩⟩
      exact (h _ t hrun).2 _ (List.mem_cons_of_mem _ (List.mem_singleton_self _)) trivial
  · exact fun hs bs t ht => settled_run hf hu hs ht

def loopback : ForwarderSettings := ⟨true, "127.0.0.1:53", "127.0.0.1:53"⟩

def loads : List HostLabel :=
  [.load, .serve (.run 0 (.udpBind (.ok ()))), .serve (.run 0 (.tcpBind (.ok ()))),
    .serve (.run 0 .commit), .loadEnds]

def stops (caller : StopCaller) : List HostLabel :=
  [.stop caller, .serve (.stop 0 .cancel), .serve (.run 0 .udpEnds), .serve (.run 0 .tcpEnds),
    .serve (.stop 0 .joinUdp), .serve (.stop 0 .joinTcp), .stopEnds]

def startsForwarder : List HostLabel :=
  [.begins 0, .serve (.run 1 (.udpBind (.ok ()))), .serve (.run 1 (.tcpBind (.ok ()))),
    .serve (.run 1 .commit), .serve (.run 1 .returns)]

theorem settled_unload :
    ∃ t, run (step loopback) initialised (loads ++ stops .unload) = some t ∧
      Settled loopback t := by
  refine ⟨_, rfl, (@settled_iff_of_quiet loopback
    ((run (step loopback) initialised loads).getD initialised) _ _ (stops .unload).tail
    ⟨fun _ => ⟨nofun, nofun⟩, ?_, fun _ _ _ _ => id⟩ ?_ rfl rfl rfl rfl rfl).mpr ?_⟩
  · rintro (_ | n) h
    · exact h.1.2 rfl
    · exact h.1.1 rfl
  · rintro kind (_ | n) h
    · exact .inr (.inl rfl)
    · cases kind <;> cases h
  · rintro (_ | n) <;> rfl

theorem unloaded_isSome :
    (run (step loopback) initialised (loads ++ stops .unload)).isSome = true := by
  decide +kernel

theorem unloaded_ports_free :
    ∃ s, run (step loopback) initialised (loads ++ stops .unload) = some s ∧
      s.phase = .unloaded ∧
      ∀ bs t, run (step loopback) s bs = some t → t.PortsFree ∧ ∀ l ∈ bs, ¬ l.Acquires := by
  have hr := (Option.some_get unloaded_isSome).symm
  refine ⟨_, hr, by decide +kernel, (ports_free_iff hr (by decide +kernel)).mpr ?_⟩
  have hrest : ∀ k, ((run (step loopback) initialised (loads ++ stops .unload)).get
      unloaded_isSome).server.runs (k + 1) = {} := fun _ => rfl
  refine ⟨fun n => ?_, fun n => ?_, fun _ _ => nofun⟩
  all_goals
    cases n with
    | zero => decide +kernel
    | succ k =>
      rw [hrest]
      decide

def lateStart : List HostLabel :=
  loads ++ [.dispatch 0 .forwardStart] ++ stops .unload ++ startsForwarder

def startAfterRestart : List HostLabel :=
  loads ++ stops .restart ++ [.dispatch 0 .forwardStart] ++ startsForwarder ++
    [.stop .unload, .stopEnds]

/-- **A listener nobody stops.** -/
theorem unloaded_forwarder_listens :
    (∃ s, run (step loopback) initialised lateStart = some s ∧ s.phase = .unloaded ∧
        s.server.recorded = some 1 ∧ ¬ s.PortsFree) ∧
      ∃ s, run (step loopback) initialised startAfterRestart = some s ∧ s.phase = .unloaded ∧
        s.server.recorded = some 1 ∧ ¬ s.PortsFree := by
  constructor
  · exact ⟨_, (Option.some_get (by decide +kernel)).symm, by decide +kernel, by decide +kernel,
      fun hfree => (hfree 1).1 (by decide +kernel)⟩
  · exact ⟨_, (Option.some_get (by decide +kernel)).symm, by decide +kernel, by decide +kernel,
      fun hfree => (hfree 1).1 (by decide +kernel)⟩

end Hosted

end Penguind.Squawk
