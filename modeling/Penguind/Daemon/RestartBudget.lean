import Penguind.Daemon.SupervisorSpec

/-!
# The restart budget

A module whose restarts keep failing is to be parked after `maxRestarts` failures. The counter is
reset whenever the last *successful* start is older than the stability window, which a failed
restart does not move.
-/

namespace Penguind.Daemon

open Foundation Supervisor

variable (cfg : SupervisorConfig) (name : String)

def KeepsFailing (_ : Supervisor) : Action → Prop
  | .unload n _ => n ≠ name
  | .shutdownLocked => False
  | .timerFires t o => t.name = name → ¬ Attempt.Succeeds cfg name o
  | _ => True

def RecordsFailure (_ : Supervisor) : Action → Bool
  | .reportFailure n _ _ => n == name
  | .restartReports f _ => f.name == name
  | .pollApplies r _ => r.name == name && r.report.level == .unhealthy
  | _ => false

def RestartsModule (_ : Supervisor) : Action → Bool
  | .timerFires t _ => t.name == name
  | _ => false

def Quiet (v : View) : Prop :=
  (∀ t ∈ v.timers, t.name ≠ name) ∧ ∀ f ∈ v.failedRestarts, f.name ≠ name

instance (v : View) : Decidable (Quiet name v) := inferInstanceAs (Decidable (_ ∧ _))

/-- The last start is recent, the counter has room, and no other restart is under way. -/
def FailureCounts (s : Supervisor) : Prop :=
  (∀ m ∈ s.loaded.lookup name,
    (cfg.maxRestarts = 1 ∨ s.stable cfg m = false) ∧ m.restartAttempt + 1 < 2 ^ 32) ∧
  Quiet name s.view

instance (s : Supervisor) : Decidable (FailureCounts cfg name s) :=
  inferInstanceAs (Decidable ((∀ m ∈ s.loaded.lookup name, _) ∧ _))

/-- Every failure of `name` is counted, and no degraded reading applied once it is parked. -/
def CountsFailures (s : Supervisor) : Action → Prop
  | .reportFailure n _ _ => n = name → FailureCounts cfg name s
  | .restartReports f _ => f.name = name → FailureCounts cfg name (s.dropFailedRestart f)
  | .pollApplies r _ =>
    r.name = name →
      (r.report.level = .unhealthy → FailureCounts cfg name s) ∧
      (r.report.level = .degraded → ∀ m ∈ s.loaded.lookup name, m.state ≠ .failed)
  | _ => True

instance (s : Supervisor) : ∀ a, Decidable (CountsFailures cfg name s a)
  | .reportFailure _ _ _ | .restartReports _ _ => inferInstanceAs (Decidable (_ → _))
  | .pollApplies _ _ =>
    inferInstanceAs (Decidable (_ → (_ → _) ∧ (_ → ∀ m ∈ s.loaded.lookup name, _)))
  | .tick _ | .load _ _ _ | .unload _ _ | .startEnabled | .shutdown | .shutdownLocked
  | .timerFires _ _ | .timerAbandoned _ | .pollWakes _ _ | .pollEnds _ => .isTrue trivial

instance (s : Supervisor) : ∀ a, Decidable (KeepsFailing cfg name s a)
  | .unload n _ => inferInstanceAs (Decidable (n ≠ name))
  | .shutdownLocked => .isFalse id
  | .timerFires _ _ => inferInstanceAs (Decidable (_ → _))
  | .tick _ | .load _ _ _ | .startEnabled | .shutdown | .reportFailure _ _ _ | .timerAbandoned _
  | .restartReports _ _ | .pollWakes _ _ | .pollApplies _ _ | .pollEnds _ => .isTrue trivial

variable {cfg name}

/-- Failed, over budget, and nothing left that could restart it. -/
def Parked (cfg : SupervisorConfig) (name : String) (v : View) (m : LoadedModule) : Prop :=
  m.state = .failed ∧ cfg.maxRestarts ≤ m.restartAttempt ∧ Quiet name v

/-- After `n` failures the module is parked, or they are counted and below the budget. -/
def BudgetKept (cfg : SupervisorConfig) (name : String) (n : Nat) (v : View) : Prop :=
  ∃ m, v.loaded.lookup name = some m ∧
    (Parked cfg name v m ∨ n ≤ m.restartAttempt ∧ n < cfg.maxRestarts)

theorem Quiet.of_sameFor {v w : View} (h : SameFor name v w) (hq : Quiet name v) :
    Quiet name w :=
  ⟨fun t ht hn => hq.1 t (h.timers t ht hn) hn,
    fun f hf hn => hq.2 f (h.failedRestarts f hf hn) hn⟩

theorem BudgetKept.of_sameFor {n : Nat} {v w : View} (h : SameFor name v w)
    (hb : BudgetKept cfg name n v) : BudgetKept cfg name n w := by
  obtain ⟨m, hm, hp | hc⟩ := hb
  · exact ⟨m, h.lookup.trans hm, .inl ⟨hp.1, hp.2.1, hp.2.2.of_sameFor h⟩⟩
  · exact ⟨m, h.lookup.trans hm, .inr hc⟩

theorem BudgetKept.of_setState {n : Nat} {v : View} {m : LoadedModule} {st : ModuleState}
    (hl : v.loaded.lookup name = some m) (hst : m.state ≠ .failed)
    (hb : BudgetKept cfg name n v) :
    BudgetKept cfg name n { v with loaded := v.loaded.insert name { m with state := st } } := by
  -- A parked entry has the state `failed`, so only the counting case is left.
  obtain ⟨m', hm', hp | hc⟩ := hb
  · obtain rfl := Option.mem_unique hl hm'
    exact absurd hp.1 hst
  · obtain rfl := Option.mem_unique hl hm'
    exact ⟨_, AList.lookup_insert _, .inr hc⟩

theorem nextAttempt_of_failureCounts {s : Supervisor} {m : LoadedModule}
    (hl : s.loaded.lookup name = some m) (hc : FailureCounts cfg name s) :
    cfg.maxRestarts = 1 ∧ s.nextAttempt cfg m = 1 ∨
      s.nextAttempt cfg m = m.restartAttempt + 1 := by
  obtain ⟨hw, hlt⟩ := hc.1 m hl
  unfold nextAttempt
  -- A stable entry is reset to zero first, which is harmless only for a budget of one.
  cases hs : s.stable cfg m with
  | true =>
    rcases hw with h₁ | h₁
    · exact .inl ⟨h₁, by simp⟩
    · rw [hs] at h₁
      cases h₁
  | false =>
    right
    rw [if_neg (by simp), Nat.mod_eq_of_lt hlt]

theorem BudgetKept.reportFailure {n : Nat} {s : Supervisor} (reason : String)
    (src : Option InstanceId) (delay : Nat) (hc : FailureCounts cfg name s)
    (hb : BudgetKept cfg name n s.view) :
    BudgetKept cfg name (n + 1) (s.reportFailure cfg name reason src delay).view := by
  obtain ⟨m, hl, hm⟩ := hb
  have hl : s.loaded.lookup name = some m := hl
  have hpos := cfg.maxRestarts_pos
  have hnext := nextAttempt_of_failureCounts hl hc
  obtain ⟨es, h⟩ := reportFailure_of_some cfg s name reason src delay hl
  rw [h]
  rcases Nat.lt_or_ge (s.nextAttempt cfg m) cfg.maxRestarts with hlt | hge
  · -- still within the budget: the failure was counted, so the counter is one further
    refine ⟨_, AList.lookup_insert _, .inr ?_⟩
    show n + 1 ≤ s.nextAttempt cfg m ∧ n + 1 < cfg.maxRestarts
    rcases hm with ⟨-, hmax, -⟩ | ⟨hn, -⟩ <;> omega
  · -- the budget is used up: nothing is scheduled, and nothing was pending
    rw [if_pos hge]
    refine ⟨_, AList.lookup_insert _, .inl ⟨?_, hge, hc.2⟩⟩
    exact if_pos hge

theorem BudgetKept.performScheduledRestart {n : Nat} {s : Supervisor} {x : RestartTimer}
    {o : Attempt} (hx : x ∈ s.timers) (hn : x.name = name) (ho : ¬ Attempt.Succeeds cfg name o)
    (hb : BudgetKept cfg name n s.view) :
    BudgetKept cfg name n ((s.dropTimer x).performScheduledRestart cfg x.name o).view := by
  subst hn
  obtain ⟨m, hl, hp | hc⟩ := hb
  -- A parked module has no timer that could fire.
  · exact absurd rfl (hp.2.2.1 x hx)
  · have hl' : (s.dropTimer x).loaded.lookup x.name = some m := hl
    obtain ⟨reason, k, cs, es, -, h⟩ := performScheduledRestart_frame_of_not cfg _ _ hl' ho
    rw [h]
    exact ⟨m, hl, .inr hc⟩

theorem BudgetKept.applyReport {n : Nat} {s : Supervisor} {r : HealthReading} (delay : Nat)
    (hc : (r.report.level = .unhealthy → FailureCounts cfg r.name s) ∧
      (r.report.level = .degraded → ∀ m ∈ s.loaded.lookup r.name, m.state ≠ .failed))
    (hb : BudgetKept cfg r.name n s.view) :
    BudgetKept cfg r.name (n + (RecordsFailure r.name s (.pollApplies r delay)).toNat)
      ((s.dropReading r).applyReport cfg r delay).view := by
  rcases view_applyReport cfg (s.dropReading r) r delay with ⟨hr, he⟩ | ⟨hr, hv⟩
  · have hb' := hb.reportFailure (s := s.dropReading r) r.report.message (some r.inst) delay
      (hc.1 hr)
    simpa [RecordsFailure, he, hr] using hb'
  · have hzero : RecordsFailure r.name s (.pollApplies r delay) = false := by
      simp [RecordsFailure, hr]
    rw [hzero]
    rcases hv with hv | ⟨m, st, hl, hm, hv⟩
    · rw [hv]
      exact hb
    · rw [hv]
      -- whether the state may be rewritten depends on the reading: a healthy one only does so to
      -- a degraded entry
      refine hb.of_setState hl ?_
      cases hlevel : r.report.level with
      | unhealthy => exact absurd hlevel hr
      | degraded => exact hc.2 hlevel m hl
      | healthy =>
        rw [hm hlevel]
        decide

theorem budgetKept_step {n : Nat} {s t : Supervisor} {a : Action}
    (hb : BudgetKept cfg name n s.view)
    (hc : KeepsFailing cfg name s a ∧ CountsFailures cfg name s a)
    (h : step cfg s a = some t) :
    BudgetKept cfg name (n + (RecordsFailure name s a).toNat) t.view := by
  obtain ⟨hk, hc⟩ := hc
  by_cases hsub : a.subject = some name
  · cases acts_of_step h with
    | tick | startEnabled | shutdown | shutdownLocked | timerAbandoned | pollWakes | pollEnds =>
      cases hsub
    | load n' o saved =>
      obtain rfl : n' = name := Option.some.inj hsub
      obtain ⟨m, hl, hm⟩ := hb
      -- the name is loaded, so the load only reports its state
      have hl' : s.loaded.lookup n' = some m := hl
      simp only [Supervisor.load, hl']
      exact ⟨m, hl, hm⟩
    -- Taking the module away would end the failures, so the hypothesis excludes it.
    | unload n' saved => exact absurd (Option.some.inj hsub) hk
    | reportFailure n' reason delay =>
      obtain rfl : n' = name := Option.some.inj hsub
      simpa [RecordsFailure] using hb.reportFailure reason none delay (hc rfl)
    | timerFires x o hx =>
      have hn : x.name = name := Option.some.inj hsub
      exact hb.performScheduledRestart hx hn (hk hn)
    | restartReports f delay =>
      obtain rfl : f.name = name := Option.some.inj hsub
      have hd : SameFor f.name s.view (s.dropFailedRestart f).view := .erase_failedRestart f
      simpa [RecordsFailure] using
        (hb.of_sameFor hd).reportFailure f.reason (some f.old) delay (hc rfl)
    | pollApplies r delay =>
      obtain rfl : r.name = name := Option.some.inj hsub
      rw [view_spawnHealthPoll]
      exact hb.applyReport delay (hc rfl)
  -- A step about another name records no failure of this one and touches nothing of it.
  · have hs : a ≠ .shutdownLocked := by
      rintro rfl
      exact hk
    have hzero : RecordsFailure name s a = false := by
      cases a <;> simp_all [RecordsFailure, Action.subject]
    rw [hzero]
    exact hb.of_sameFor (sameFor_step h hsub hs)

theorem parked_step {s t : Supervisor} {a : Action}
    (hp : BudgetKept cfg name cfg.maxRestarts s.view)
    (hc : KeepsFailing cfg name s a ∧ CountsFailures cfg name s a)
    (h : step cfg s a = some t) : BudgetKept cfg name cfg.maxRestarts t.view := by
  obtain ⟨m, hl, hm | hm⟩ := budgetKept_step hp hc h
  · exact ⟨m, hl, .inl hm⟩
  · exact absurd hm.2 (by omega)

/-- **The restart budget**: with every failure counted, `maxRestarts` failures end the restarts. -/
theorem parked_of_maxRestarts_le_failures {s t u : Supervisor} {as bs : List Action}
    {m : LoadedModule} (hl : s.loaded.lookup name = some m)
    (hk : Along (step cfg) (fun s a => KeepsFailing cfg name s a ∧ CountsFailures cfg name s a)
      s (as ++ bs))
    (has : run (step cfg) s as = some t) (hbs : run (step cfg) t bs = some u)
    (hn : cfg.maxRestarts ≤ tally (step cfg) (RecordsFailure name) s as) :
    (∃ m', u.loaded.lookup name = some m' ∧ m'.state = .failed) ∧
      tally (step cfg) (RestartsModule name) t bs = 0 := by
  -- Counting runs up to `t`; from there on the invariant only has to be kept.
  obtain ⟨hk₁, hk₂⟩ := hk.of_append has
  have h₀ : BudgetKept cfg name 0 s.view := ⟨m, hl, .inr ⟨Nat.zero_le _, cfg.maxRestarts_pos⟩⟩
  have h₁ : BudgetKept cfg name cfg.maxRestarts t.view := by
    obtain ⟨m₁, hl₁, hm₁ | hm₁⟩ :=
      tally_invariant (I := fun n s => BudgetKept cfg name n s.view)
        (fun _ _ _ _ => budgetKept_step) h₀ hk₁ has
    · exact ⟨m₁, hl₁, .inl hm₁⟩
    · exact absurd hm₁.2 (by omega)
  constructor
  · obtain ⟨m₂, hl₂, hm₂ | hm₂⟩ := run_invariant (I := fun s => BudgetKept cfg name _ s.view)
      (fun _ _ _ => parked_step) h₁ hk₂ hbs
    · exact ⟨m₂, hl₂, hm₂.1⟩
    · exact absurd hm₂.2 (by omega)
  · refine tally_eq_zero (I := fun s => BudgetKept cfg name cfg.maxRestarts s.view)
      (fun _ _ _ => parked_step) ?_ h₁ hk₂ hbs
    rintro v a w ⟨m₂, -, hm₂ | hm₂⟩ - hstep
    · -- a timer of the parked module would have to be pending
      cases acts_of_step hstep with
      | timerFires x o hx => simpa [RestartsModule] using hm₂.2.2.1 x hx
      | _ => rfl
    · exact absurd hm₂.2 (by omega)

/-! ## Runs of one module -/

def oneModule : SupervisorConfig :=
  ⟨["alpha"], 0, 30000000000, 300000000000, true⟩

def succeeding : Attempt := ⟨.ok (), .ok (), .ok ()⟩

def notStarting : Attempt := ⟨.ok (), .ok (), .error "no device"⟩

def alphaLoaded : Supervisor :=
  ((Supervisor.new .absent).load oneModule "alpha" succeeding true).2

def breaks (now : Nat) : List Nat → List Action
  | [] => []
  | delay :: delays =>
    .reportFailure "alpha" "crashed" delay :: .tick delay :: restarts (now + delay) delays
where
  restarts (deadline : Nat) : List Nat → List Action
    | [] => []
    | delay :: delays =>
      .timerFires ⟨"alpha", deadline, 0⟩ notStarting ::
        .restartReports ⟨"alpha", "restart start failed", 0⟩ delay :: .tick delay ::
        restarts (deadline + delay) delays

def brokenEarly : List Action :=
  breaks 0 [100000000, 200000000, 400000000, 800000000, 1600000000]

theorem brokenEarly_parked :
    ∃ t, run (step oneModule) alphaLoaded brokenEarly = some t ∧
      (∃ m, t.loaded.lookup "alpha" = some m ∧ m.state = .failed) ∧
      tally (step oneModule) (RestartsModule "alpha") t [] = 0 := by
  obtain ⟨t, ht⟩ : ∃ t, run (step oneModule) alphaLoaded brokenEarly = some t :=
    Option.isSome_iff_exists.mp (by decide +kernel)
  obtain ⟨m, hm⟩ : ∃ m, alphaLoaded.loaded.lookup "alpha" = some m :=
    Option.isSome_iff_exists.mp (by decide +kernel)
  exact ⟨t, ht, parked_of_maxRestarts_le_failures hm (by decide +kernel) ht (run_nil t)
    (by decide +kernel)⟩

def brokenLate : List Action :=
  .tick 300000000000 ::
    breaks 300000000000 [100000000, 100000000, 100000000, 100000000, 100000000, 100000000]

/-- **The budget is exceeded** after the stability window. -/
theorem brokenLate_restarts :
    Along (step oneModule) (KeepsFailing oneModule "alpha") alphaLoaded brokenLate ∧
      oneModule.maxRestarts <
        tally (step oneModule) (RecordsFailure "alpha") alphaLoaded brokenLate ∧
      (run (step oneModule) alphaLoaded brokenLate).map
        (fun t => ((t.loaded.lookup "alpha").map (·.state), t.timers)) =
        some (some .degraded, [⟨"alpha", 300600000000, 0⟩]) := by
  decide +kernel

end Penguind.Daemon
