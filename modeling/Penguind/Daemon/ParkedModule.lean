import Penguind.Daemon.Observations

/-!
# How long a module stays parked

A module that has used up its restart budget is to stay `failed` until it is unloaded. Earlier
timers, late degraded readings and failures after the stability window do not look at this.
-/

namespace Penguind.Daemon

open Foundation Supervisor

variable (cfg : SupervisorConfig) (name : String)

def InFailed (s : Supervisor) : Prop :=
  ∃ m, s.loaded.lookup name = some m ∧ m.state = .failed

def KeepsLoaded (_ : Supervisor) : Action → Prop
  | .unload n _ => n ≠ name
  | .shutdownLocked => False
  | _ => True

def StaysParked (s : Supervisor) (a : Action) : Prop :=
  ∀ t, step cfg s a = some t →
    InFailed name t ∧ (a.subject = some name → t.nextInstance = s.nextInstance)

def OverBudget (s : Supervisor) : Prop :=
  ∀ m ∈ s.loaded.lookup name, cfg.maxRestarts ≤ s.nextAttempt cfg m

instance (s : Supervisor) : Decidable (OverBudget cfg name s) :=
  inferInstanceAs (Decidable (∀ m ∈ s.loaded.lookup name, _))

/-- Restarts of `name` make no instance, failures are over budget, no degraded reading is applied.
-/
def LeavesParked (s : Supervisor) : Action → Prop
  | .timerFires x o => x.name = name → instantiate cfg name o ≠ .ok ()
  | .reportFailure n _ _ => n = name → OverBudget cfg name s
  | .restartReports f _ => f.name = name → OverBudget cfg name s
  | .pollApplies r _ => r.name = name →
      r.report.level ≠ .degraded ∧ (r.report.level = .unhealthy → OverBudget cfg name s)
  | _ => True

instance (s : Supervisor) : ∀ a, Decidable (LeavesParked cfg name s a)
  | .timerFires _ _ | .reportFailure _ _ _ | .restartReports _ _ =>
    inferInstanceAs (Decidable (_ → _))
  | .pollApplies _ _ => inferInstanceAs (Decidable (_ → _ ∧ (_ → _)))
  | .tick _ | .load _ _ _ | .unload _ _ | .startEnabled | .shutdown | .shutdownLocked
  | .timerAbandoned _ | .pollWakes _ _ | .pollEnds _ => .isTrue trivial

instance (s : Supervisor) : ∀ a, Decidable (KeepsLoaded name s a)
  | .unload n _ => inferInstanceAs (Decidable (n ≠ name))
  | .shutdownLocked => .isFalse id
  | .tick _ | .load _ _ _ | .startEnabled | .shutdown | .reportFailure _ _ _ | .timerFires _ _
  | .timerAbandoned _ | .restartReports _ _ | .pollWakes _ _ | .pollApplies _ _ | .pollEnds _ =>
    .isTrue trivial

variable {cfg name} {s t : Supervisor}

/-! ## What each function does to a parked module -/

theorem InFailed.of_sameFor (h : SameFor name s.view t.view) (hs : InFailed name s) :
    InFailed name t := by
  obtain ⟨m, hl, hm⟩ := hs
  exact ⟨m, h.lookup.trans hl, hm⟩

theorem inFailed_reportFailure_iff (hs : InFailed name s) (reason : String)
    (src : Option InstanceId) (delay : Nat) :
    InFailed name (s.reportFailure cfg name reason src delay) ↔ OverBudget cfg name s := by
  obtain ⟨m, hl, -⟩ := hs
  have hover : OverBudget cfg name s ↔ cfg.maxRestarts ≤ s.nextAttempt cfg m := by
    simp [OverBudget, hl]
  -- The entry that a report writes is in `failed` exactly when the budget is used up.
  have hentry : (s.reportFailure cfg name reason src delay).loaded.lookup name =
      some (s.failedEntry cfg m) := by
    obtain ⟨es, h⟩ := reportFailure_of_some cfg s name reason src delay hl
    rw [h]
    exact AList.lookup_insert _
  simp only [InFailed, hentry, hover, Option.some.injEq, exists_eq_left', failedEntry]
  split <;> simp [*]

theorem staysParked_performScheduledRestart_iff (hs : InFailed name s) (o : Attempt) :
    (InFailed name (s.performScheduledRestart cfg name o) ∧
        (s.performScheduledRestart cfg name o).nextInstance = s.nextInstance) ↔
      instantiate cfg name o ≠ .ok () := by
  obtain ⟨m, hl, hm⟩ := hs
  constructor
  · rintro ⟨-, hn⟩ hi
    have hsucc : (s.performScheduledRestart cfg name o).nextInstance = s.nextInstance + 1 := by
      simp only [Supervisor.performScheduledRestart, hl, hi]
      split
      · rfl
      · split <;> rfl
    exact Nat.succ_ne_self _ (hsucc.symm.trans hn)
  · intro hi
    cases he : instantiate cfg name o with
    | ok => exact absurd he hi
    | error e =>
      simp only [Supervisor.performScheduledRestart, hl, he]
      exact ⟨⟨m, hl, hm⟩, rfl⟩

theorem inFailed_applyReport_iff {r : HealthReading} (hs : InFailed r.name s) (delay : Nat) :
    InFailed r.name (s.applyReport cfg r delay) ↔
      r.report.level ≠ .degraded ∧ (r.report.level = .unhealthy → OverBudget cfg r.name s) := by
  have hs' := hs
  obtain ⟨m, hl, hm⟩ := hs
  cases hr : r.report.level with
  | unhealthy => simp [applyReport, hr, inFailed_reportFailure_iff hs']
  | degraded =>
    have hne : m.state ≠ .degraded := by simp [hm]
    simp only [applyReport, hr, markDegraded, hl, if_neg hne, InFailed]
    simp [publish, put]
  | healthy =>
    have hne : m.state ≠ .degraded := by simp [hm]
    simp only [applyReport, hr, restoreRunningIfDegraded, hl, if_neg hne]
    simpa using hs'

theorem staysParked_step_iff {a : Action} (hs : InFailed name s) (hk : KeepsLoaded name s a)
    (hstep : step cfg s a = some t) :
    StaysParked cfg name s a ↔ LeavesParked cfg name s a := by
  have hiff : StaysParked cfg name s a ↔
      InFailed name t ∧ (a.subject = some name → t.nextInstance = s.nextInstance) := by
    simp [StaysParked, hstep]
  rw [hiff]
  by_cases hsub : a.subject = some name
  · cases acts_of_step hstep with
    | tick | startEnabled | shutdown | shutdownLocked | timerAbandoned | pollWakes | pollEnds =>
      cases hsub
    | load n o saved =>
      obtain rfl : n = name := Option.some.inj hsub
      obtain ⟨m, hl, hm⟩ := hs
      have hload : (s.load cfg n o saved).2 = s := by simp only [Supervisor.load, hl]
      rw [hload]
      exact ⟨fun _ => trivial, fun _ => ⟨⟨m, hl, hm⟩, fun _ => rfl⟩⟩
    | unload n saved => exact absurd (Option.some.inj hsub) hk
    | reportFailure n reason delay =>
      obtain rfl : n = name := Option.some.inj hsub
      simp [inFailed_reportFailure_iff hs, (untouched_reportFailure cfg s ..).nextInstance,
        LeavesParked]
    | timerFires x o =>
      obtain rfl : x.name = name := Option.some.inj hsub
      have hs' : InFailed x.name (s.dropTimer x) := hs
      rw [forall_prop_of_true hsub]
      exact ⟨fun hp _ => (staysParked_performScheduledRestart_iff hs' o).mp hp,
        fun hp => (staysParked_performScheduledRestart_iff hs' o).mpr (hp rfl)⟩
    | restartReports f delay =>
      obtain rfl : f.name = name := Option.some.inj hsub
      have hs' : InFailed f.name (s.dropFailedRestart f) := hs
      rw [inFailed_reportFailure_iff hs' f.reason (some f.old) delay,
        (untouched_reportFailure cfg (s.dropFailedRestart f) ..).nextInstance]
      exact ⟨fun h _ => h.1, fun h => ⟨h rfl, fun _ => rfl⟩⟩
    | pollApplies r delay =>
      obtain rfl : r.name = name := Option.some.inj hsub
      have hs' : InFailed r.name (s.dropReading r) := hs
      -- The loop that goes back to sleep touches neither the entry nor the instance counter.
      have hn : (spawnHealthPoll cfg ((s.dropReading r).applyReport cfg r delay) r.name r.inst
          r.cancel).nextInstance = s.nextInstance :=
        (untouched_applyReport cfg (s.dropReading r) r delay).nextInstance
      rw [hn]
      exact ⟨fun hp _ => (inFailed_applyReport_iff hs' delay).mp hp.1,
        fun hp => ⟨(inFailed_applyReport_iff hs' delay).mpr (hp rfl), fun _ => rfl⟩⟩
  · -- A step about another name keeps the entry and cannot violate the condition.
    have hno : a ≠ .shutdownLocked := by
      rintro rfl
      exact hk
    refine ⟨fun _ => ?_, fun _ => ?_⟩
    · cases a <;> simp_all [LeavesParked, Action.subject]
    · exact ⟨hs.of_sameFor (sameFor_step hstep hsub hno), fun h => absurd h hsub⟩

/-- **Parked for good** exactly if no restart makes an instance, failures are over budget, and no
degraded reading is applied. -/
theorem staysParked_iff {as : List Action} {m : LoadedModule}
    (hl : s.loaded.lookup name = some m) (hm : m.state = .failed)
    (hk : Along (step cfg) (KeepsLoaded name) s as) (hr : run (step cfg) s as = some t) :
    Along (step cfg) (StaysParked cfg name) s as ↔ Along (step cfg) (LeavesParked cfg name) s as :=
  along_congr_along (I := InFailed name) (fun _ _ _ => staysParked_step_iff)
    (fun _ _ _ _ hc h => (hc _ h).1) ⟨m, hl, hm⟩ hk hr

/-- `alpha` degrades and fails five times, with four restarts pending. -/
def fiveFailures : List Action :=
  probed ++
    [.reportFailure "alpha" "crashed" 100000000, .reportFailure "alpha" "crashed" 200000000,
      .reportFailure "alpha" "crashed" 400000000, .reportFailure "alpha" "crashed" 800000000,
      .reportFailure "alpha" "crashed" 1600000000]

def alphaParked : Supervisor :=
  (run (step oneModule) (Supervisor.new .absent) fiveFailures).get (by decide +kernel)

def harmless : List Action :=
  [.reportFailure "alpha" "crashed" 3200000000, .load "alpha" succeeding true, .tick 1000000000]

theorem harmless_staysParked :
    alphaEntry alphaParked = some (0, .failed, 5) ∧
      Along (step oneModule) (StaysParked oneModule "alpha") alphaParked harmless := by
  refine ⟨by decide +kernel, ?_⟩
  exact (staysParked_iff (Option.some_get (by decide +kernel)).symm (by decide +kernel)
    (by decide +kernel) (Option.some_get (by decide +kernel)).symm).mpr (by decide +kernel)

/-- **A parked module comes back** in three ways. -/
theorem parked_restarted :
    alphaEntry alphaParked = some (0, .failed, 5) ∧
    (run (step oneModule) alphaParked
        [.tick 100000000, .timerFires ⟨"alpha", 30100000000, 0⟩ succeeding]).map alphaEntry =
      some (some (1, .running, 5)) ∧
    (run (step oneModule) alphaParked [.pollApplies slowReading 0]).map alphaEntry =
      some (some (0, .degraded, 5)) ∧
    (run (step oneModule) alphaParked
        [.tick 300000000000, .reportFailure "alpha" "crashed" 100000000]).map alphaEntry =
      some (some (0, .degraded, 1)) := by
  decide +kernel

end Penguind.Daemon
