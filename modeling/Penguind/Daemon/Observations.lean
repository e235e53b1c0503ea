import Penguind.Daemon.RestartTimers

/-!
# Which instance an observation is applied to

A health probe runs without the lock, and a failed restart releases it before it reports. Both act
on whatever instance the name stands for when they come back.
-/

namespace Penguind.Daemon

open Foundation Supervisor

/-- The name and the instance of the observation that a step applies. -/
def Action.observed : Action → Option (String × InstanceId)
  | .pollApplies r _ => some (r.name, r.inst)
  | .restartReports f _ => some (f.name, f.old)
  | _ => none

/-- Something recorded about the modules changes between `s` and `u`. -/
def Changes (s u : Supervisor) : Prop :=
  ¬ (u.loaded.entries = s.loaded.entries ∧ u.timers = s.timers ∧ u.cancelled = s.cancelled ∧
    u.published = s.published)

instance (s u : Supervisor) : Decidable (Changes s u) := inferInstanceAs (Decidable (¬ (_ ∧ _)))

def Unobserved (name : String) (s : Supervisor) : Prop :=
  (∀ r ∈ s.readings, r.name ≠ name) ∧ ∀ f ∈ s.failedRestarts, f.name ≠ name

instance (name : String) (s : Supervisor) : Decidable (Unobserved name s) :=
  inferInstanceAs (Decidable (_ ∧ _))

/-- Loads and restarts succeed while no observation of the name is on the way; cancelled loops do
not probe. -/
def ReplacedWhenObserved (cfg : SupervisorConfig) (s : Supervisor) : Action → Prop
  | .load n o _ => s.loaded.lookup n = none → Attempt.Succeeds cfg n o → Unobserved n s
  | .timerFires t o => Attempt.Succeeds cfg t.name o → Unobserved t.name s
  | .pollWakes p _ => p.cancel ∉ s.cancelled
  | _ => True

instance (cfg : SupervisorConfig) (s : Supervisor) :
    ∀ a, Decidable (ReplacedWhenObserved cfg s a)
  | .load _ _ _ => inferInstanceAs (Decidable (_ → _ → _))
  | .timerFires _ _ => inferInstanceAs (Decidable (_ → _))
  | .pollWakes _ _ => inferInstanceAs (Decidable (_ ∉ _))
  | .tick _ | .unload _ _ | .startEnabled | .shutdown | .shutdownLocked | .reportFailure _ _ _
  | .timerAbandoned _ | .restartReports _ _ | .pollApplies _ _ | .pollEnds _ => .isTrue trivial

/-! ## What the supervisor's functions do to the poll loops -/

structure Polling where
  polls : List HealthPoll
  readings : List HealthReading
  cancelled : List TokenId

namespace Supervisor

variable (cfg : SupervisorConfig) (s : Supervisor) (name : String)

def polling : Polling := ⟨s.polls, s.readings, s.cancelled⟩

def nextPoll : HealthPoll := ⟨name, s.nextInstance, s.nextToken, s.now + cfg.healthInterval⟩

theorem polling_markDegraded : (s.markDegraded name).polling = s.polling := by
  fun_cases markDegraded s name <;> rfl

theorem polling_restoreRunningIfDegraded :
    (s.restoreRunningIfDegraded name).polling = s.polling := by
  fun_cases restoreRunningIfDegraded s name <;> rfl

theorem polling_applyReport {r : HealthReading} (hr : r.report.level ≠ .unhealthy) (delay : Nat) :
    (s.applyReport cfg r delay).polling = s.polling := by
  unfold applyReport
  split
  next h => exact absurd h hr
  next => exact polling_markDegraded s r.name
  next => exact polling_restoreRunningIfDegraded s r.name

theorem spawnHealthPoll_applyReport (r : HealthReading) (delay : Nat) (i : InstanceId)
    (tok : TokenId) :
    spawnHealthPoll cfg (s.applyReport cfg r delay) name i tok =
      (spawnHealthPoll cfg s name i tok).applyReport cfg r delay := by
  have hs : (spawnHealthPoll cfg s name i tok).loaded = s.loaded := rfl
  cases hl : s.loaded.lookup r.name with
  | none =>
    cases hr : r.report.level <;>
      simp only [applyReport, reportFailure, markDegraded, restoreRunningIfDegraded, hr, hs, hl]
  | some m =>
    cases hr : r.report.level with
    | unhealthy =>
      have hn : (spawnHealthPoll cfg s name i tok).nextAttempt cfg m = s.nextAttempt cfg m := rfl
      simp only [applyReport, reportFailure, hr, hs, hl, hn]
      split <;> rfl
    | degraded =>
      simp only [applyReport, markDegraded, hr, hs, hl]
      split <;> rfl
    | healthy =>
      simp only [applyReport, restoreRunningIfDegraded, hr, hs, hl]
      split <;> rfl

end Supervisor

def IsCurrent (v : View) (name : String) (i : InstanceId) : Prop :=
  ∀ m ∈ v.loaded.lookup name, m.inst = i

/-- The poll loop is cancelled, or `i` is current and has its token. -/
def Watches (v : View) (cancelled : List TokenId) (name : String) (i : InstanceId)
    (tok : TokenId) : Prop :=
  tok ∈ cancelled ∨ ∃ m, v.loaded.lookup name = some m ∧ m.inst = i ∧ m.healthCancel = tok

/-- Poll loops watch, and observations are of, current instances. -/
structure ObservesCurrent (v : View) (w : Polling) : Prop where
  polls : ∀ p ∈ w.polls, Watches v w.cancelled p.name p.inst p.cancel
  loops : ∀ r ∈ w.readings, Watches v w.cancelled r.name r.inst r.cancel
  readings : ∀ r ∈ w.readings, IsCurrent v r.name r.inst
  failedRestarts : ∀ f ∈ v.failedRestarts, IsCurrent v f.name f.old

namespace ObservesCurrent

variable {v : View} {w : Polling} {n : String} {m m' : LoadedModule}

variable {ts : List RestartTimer} {k : InstanceId} {c : List TokenId}

/-- Entries may be rewritten if lost tokens are cancelled and observed names get no new instance. -/
theorem replace {l : AList fun _ : String => LoadedModule} (h : ObservesCurrent v w)
    (hc : w.cancelled ⊆ c) (hgone : ∀ x, ∀ m ∈ v.loaded.lookup x, m.healthCancel ∈ c ∨
      ∃ m', l.lookup x = some m' ∧ m'.inst = m.inst ∧ m'.healthCancel = m.healthCancel)
    (hnew : ∀ x, ∀ m' ∈ l.lookup x, (∃ m ∈ v.loaded.lookup x, m.inst = m'.inst) ∨
      (∀ r ∈ w.readings, r.name ≠ x) ∧ ∀ f ∈ v.failedRestarts, f.name ≠ x) :
    ObservesCurrent ⟨l, ts, v.failedRestarts, k⟩ { w with cancelled := c } := by
  have watches : ∀ {x i tok}, Watches v w.cancelled x i tok →
      Watches ⟨l, ts, v.failedRestarts, k⟩ c x i tok := by
    rintro x i tok (htok | ⟨m, hm, rfl, rfl⟩)
    · exact .inl (hc htok)
    · exact hgone x m hm
  constructor
  · exact fun p hp => watches (h.polls p hp)
  · exact fun r hr => watches (h.loops r hr)
  · intro r hr m' hm'
    rcases hnew r.name m' hm' with ⟨m, hm, he⟩ | hno
    · exact he.symm.trans (h.readings r hr m hm)
    · exact absurd rfl (hno.1 r hr)
  · intro f hf m' hm'
    rcases hnew f.name m' hm' with ⟨m, hm, he⟩ | hno
    · exact he.symm.trans (h.failedRestarts f hf m hm)
    · exact absurd rfl (hno.2 f hf)

theorem insert_same (h : ObservesCurrent v w) (hc : w.cancelled ⊆ c)
    (hl : v.loaded.lookup n = some m) (hi : m'.inst = m.inst)
    (ht : m'.healthCancel = m.healthCancel) :
    ObservesCurrent ⟨v.loaded.insert n m', ts, v.failedRestarts, k⟩
      { w with cancelled := c } := by
  refine h.replace hc (fun x m₀ hm₀ => .inr ?_) fun x m₁ hm₁ => .inl ?_
  · by_cases hx : x = n
    · subst hx
      obtain rfl : m = m₀ := Option.mem_unique hl hm₀
      exact ⟨m', AList.lookup_insert _, hi, ht⟩
    · exact ⟨m₀, (AList.lookup_insert_ne hx).trans hm₀, rfl, rfl⟩
  · by_cases hx : x = n
    · subst hx
      rw [AList.lookup_insert] at hm₁
      cases hm₁
      exact ⟨m, hl, hi.symm⟩
    · rw [AList.lookup_insert_ne hx] at hm₁
      exact ⟨m₁, hm₁, rfl⟩

theorem insert_fresh {p : HealthPoll} (h : ObservesCurrent v w) (hc : w.cancelled ⊆ c)
    (hold : ∀ m ∈ v.loaded.lookup n, m.healthCancel ∈ c)
    (hread : ∀ r ∈ w.readings, r.name ≠ n) (hfail : ∀ f ∈ v.failedRestarts, f.name ≠ n)
    (hp : p.name = n ∧ p.inst = m.inst ∧ p.cancel = m.healthCancel) :
    ObservesCurrent ⟨v.loaded.insert n m, ts, v.failedRestarts, k⟩
      { w with polls := w.polls ++ [p], cancelled := c } := by
  have h' : ObservesCurrent ⟨v.loaded.insert n m, ts, v.failedRestarts, k⟩
      { w with cancelled := c } := by
    refine h.replace hc (fun x m₀ hm₀ => ?_) fun x m₁ hm₁ => ?_
    · by_cases hx : x = n
      · exact .inl (hold m₀ (hx ▸ hm₀))
      · exact .inr ⟨m₀, (AList.lookup_insert_ne hx).trans hm₀, rfl, rfl⟩
    · by_cases hx : x = n
      · exact .inr (hx ▸ ⟨hread, hfail⟩)
      · rw [AList.lookup_insert_ne hx] at hm₁
        exact .inl ⟨m₁, hm₁, rfl⟩
  obtain ⟨rfl, hi, ht⟩ := hp
  exact ⟨List.forall_mem_append.mpr ⟨h'.polls, List.forall_mem_singleton.mpr
    (.inr ⟨m, AList.lookup_insert _, hi.symm, ht.symm⟩)⟩, h'.loops, h'.readings, h'.failedRestarts⟩

theorem erase (h : ObservesCurrent v w) (hl : v.loaded.lookup n = some m) :
    ObservesCurrent { v with loaded := v.loaded.erase n }
      { w with cancelled := m.healthCancel :: w.cancelled } := by
  refine h.replace (List.subset_cons_self _ _) (fun x m₀ hm₀ => ?_) fun x m₁ hm₁ => .inl ?_
  · by_cases hx : x = n
    · subst hx
      obtain rfl : m = m₀ := Option.mem_unique hl hm₀
      exact .inl List.mem_cons_self
    · exact .inr ⟨m₀, (AList.lookup_erase_ne hx).trans hm₀, rfl, rfl⟩
  · by_cases hx : x = n
    · subst hx
      rw [AList.lookup_erase] at hm₁
      cases hm₁
    · rw [AList.lookup_erase_ne hx] at hm₁
      exact ⟨m₁, hm₁, rfl⟩

end ObservesCurrent

section Step

variable {cfg : SupervisorConfig} {s t : Supervisor} {n : String}

variable (h : ObservesCurrent s.view s.polling)
include h

theorem ObservesCurrent.stopLocked (n : String) :
    ObservesCurrent (s.stopLocked n).view (s.stopLocked n).polling := by
  cases hl : s.loaded.lookup n with
  | none => rwa [stopLocked_of_none s n hl]
  | some m =>
    obtain ⟨es, hs⟩ := stopLocked_of_some s n hl
    rw [hs]
    exact h.erase hl

theorem ObservesCurrent.shutdownLocked :
    ObservesCurrent s.shutdownLocked.view s.shutdownLocked.polling :=
  shutdownLocked_induction (P := fun u => ObservesCurrent u.view u.polling)
    (fun _ n hu => hu.stopLocked n) h

theorem ObservesCurrent.reportFailure (n reason : String)
    (src : Option InstanceId) (delay : Nat) :
    ObservesCurrent (s.reportFailure cfg n reason src delay).view
      (s.reportFailure cfg n reason src delay).polling := by
  cases hl : s.loaded.lookup n with
  | none => rwa [reportFailure_of_none cfg s n reason src delay hl]
  | some m =>
    obtain ⟨es, hr⟩ := reportFailure_of_some cfg s n reason src delay hl
    rw [hr]
    exact h.insert_same (List.subset_cons_self _ _) hl rfl rfl

theorem ObservesCurrent.performScheduledRestart {o : Attempt}
    (hq : Attempt.Succeeds cfg n o → Unobserved n s) :
    ObservesCurrent (s.performScheduledRestart cfg n o).view
      (s.performScheduledRestart cfg n o).polling := by
  cases hl : s.loaded.lookup n with
  | none => rwa [performScheduledRestart_of_none cfg s n o hl]
  | some m =>
    by_cases ho : Attempt.Succeeds cfg n o
    · obtain ⟨es, hr⟩ := performScheduledRestart_of_succeeds cfg s n hl ho
      rw [hr]
      obtain ⟨hread, hfail⟩ := hq ho
      refine h.insert_fresh (List.subset_cons_self _ _) (fun m₀ hm₀ => ?_) hread hfail
        ⟨rfl, rfl, rfl⟩
      -- the old entry's poll loop was cancelled first
      obtain rfl : m = m₀ := Option.mem_unique hl hm₀
      exact List.mem_cons_self
    · obtain ⟨reason, k, cs, es, -, hr⟩ := performScheduledRestart_frame_of_not cfg s n hl ho
      rw [hr]
      have h' : ObservesCurrent { s.view with nextInstance := k }
          { s.polling with cancelled := m.healthCancel :: s.cancelled } :=
        h.replace (List.subset_cons_self _ _) (fun _ m₀ hm₀ => .inr ⟨m₀, hm₀, rfl, rfl⟩)
          fun _ m₁ hm₁ => .inl ⟨m₁, hm₁, rfl⟩
      refine ⟨h'.polls, h'.loops, h'.readings, List.forall_mem_append.mpr ⟨h'.failedRestarts,
        List.forall_mem_singleton.mpr fun m₁ hm₁ => ?_⟩⟩
      -- the failed attempt has left the entry in place
      exact congrArg LoadedModule.inst (Option.mem_unique hm₁ hl)

theorem ObservesCurrent.applyReport (r : HealthReading) (delay : Nat) :
    ObservesCurrent (s.applyReport cfg r delay).view (s.applyReport cfg r delay).polling := by
  rcases view_applyReport cfg s r delay with ⟨-, he⟩ | ⟨hr, hv | ⟨m, st, hl, -, hv⟩⟩
  · rw [he]
    exact h.reportFailure _ _ _ _
  · rw [hv, polling_applyReport cfg s hr]
    exact h
  · rw [hv, polling_applyReport cfg s hr]
    exact h.insert_same (List.Subset.refl _) hl rfl rfl

theorem ObservesCurrent.readHealth {p : HealthPoll} (hp : p ∈ s.polls)
    (hc : p.cancel ∉ s.cancelled) (report : HealthReport) :
    ObservesCurrent s.view
      { s.polling with
        polls := s.polls.erase p
        readings := s.readings ++ [⟨p.name, p.inst, p.cancel, report⟩] } := by
  have hw : Watches s.view s.cancelled p.name p.inst p.cancel := h.polls p hp
  obtain ⟨m, hm, hi, ht⟩ := hw.resolve_left hc
  refine ⟨fun q hq => h.polls q (List.mem_of_mem_erase hq),
    List.forall_mem_append.mpr ⟨h.loops, List.forall_mem_singleton.mpr (.inr ⟨m, hm, hi, ht⟩)⟩,
    List.forall_mem_append.mpr ⟨h.readings, List.forall_mem_singleton.mpr fun m₁ hm₁ => ?_⟩,
    h.failedRestarts⟩
  exact (congrArg LoadedModule.inst (Option.mem_unique hm₁ hm)).trans hi

omit h

theorem observesCurrent_step {a : Action} (h : ObservesCurrent s.view s.polling)
    (hc : ReplacedWhenObserved cfg s a) (hstep : step cfg s a = some t) :
    ObservesCurrent t.view t.polling := by
  cases acts_of_step hstep with
  | tick | startEnabled | shutdown =>
    exact h
  | load n o saved =>
    by_cases hl : s.loaded.lookup n = none ∧ Attempt.Succeeds cfg n o
    · obtain ⟨es, hload⟩ := load_of_succeeds cfg s n saved hl.1 hl.2
      rw [hload]
      obtain ⟨hread, hfail⟩ := hc hl.1 hl.2
      refine h.insert_fresh (List.Subset.refl _) (fun m₀ hm₀ => ?_) hread hfail ⟨rfl, rfl, rfl⟩
      cases hl.1.symm.trans hm₀
    · obtain ⟨k, cs, es, -, hload⟩ := load_frame_of_not cfg s n saved hl
      rw [hload]
      exact ⟨h.polls, h.loops, h.readings, h.failedRestarts⟩
  | unload n saved =>
    obtain ⟨names, file, hun⟩ := unload_frame s n saved
    rw [hun]
    exact h.stopLocked n
  | shutdownLocked =>
    exact h.shutdownLocked
  | reportFailure n reason delay =>
    exact h.reportFailure n reason none delay
  | timerFires x o =>
    exact ObservesCurrent.performScheduledRestart (s := s.dropTimer x)
      ⟨h.polls, h.loops, h.readings, h.failedRestarts⟩ hc
  | timerAbandoned x =>
    exact ⟨h.polls, h.loops, h.readings, h.failedRestarts⟩
  | restartReports f delay =>
    refine ObservesCurrent.reportFailure (s := s.dropFailedRestart f) ?_ _ _ _ _
    exact ⟨h.polls, h.loops, h.readings, fun x hx => h.failedRestarts x (List.mem_of_mem_erase hx)⟩
  | pollWakes p report hp =>
    exact h.readHealth hp hc report
  | pollApplies r delay hr =>
    rw [spawnHealthPoll_applyReport]
    apply ObservesCurrent.applyReport
    exact ⟨List.forall_mem_append.mpr ⟨h.polls, List.forall_mem_singleton.mpr (h.loops r hr)⟩,
      fun x hx => h.loops x (List.mem_of_mem_erase hx),
      fun x hx => h.readings x (List.mem_of_mem_erase hx), h.failedRestarts⟩
  | pollEnds p =>
    exact ⟨fun q hq => h.polls q (List.mem_of_mem_erase hq), h.loops, h.readings, h.failedRestarts⟩

end Step

theorem not_changes_of_lookup_eq_none {cfg : SupervisorConfig} {s t : Supervisor} {a : Action}
    {n : String} {i : InstanceId} (hstep : step cfg s a = some t)
    (hobs : a.observed = some (n, i)) (hl : s.loaded.lookup n = none) : ¬ Changes s t := by
  refine not_not_intro ?_
  cases acts_of_step hstep with
  | restartReports f delay =>
    cases hobs
    have hl' : (s.dropFailedRestart f).loaded.lookup f.name = none := hl
    simp only [reportFailure, hl']
    exact ⟨rfl, rfl, rfl, rfl⟩
  | pollApplies r delay =>
    cases hobs
    have hl' : (s.dropReading r).loaded.lookup r.name = none := hl
    have hsame : (s.dropReading r).applyReport cfg r delay = s.dropReading r := by
      cases hr : r.report.level <;>
        simp only [applyReport, reportFailure, markDegraded, restoreRunningIfDegraded, hr, hl']
    rw [hsame]
    exact ⟨rfl, rfl, rfl, rfl⟩
  | _ => cases hobs

/-- **Observations act on the instance they were made on**, along the condition. -/
theorem changes_only_observed {cfg : SupervisorConfig} {file : EnabledFile} {as : List Action}
    {s t : Supervisor} {a : Action} {n : String} {i : InstanceId}
    (hk : Along (step cfg) (ReplacedWhenObserved cfg) (Supervisor.new file) as)
    (has : run (step cfg) (Supervisor.new file) as = some s) (ha : step cfg s a = some t)
    (hobs : a.observed = some (n, i)) (hch : Changes s t) :
    ∃ m, s.loaded.lookup n = some m ∧ m.inst = i := by
  have h₀ : ObservesCurrent (Supervisor.new file).view (Supervisor.new file).polling := by
    constructor <;> rintro _ ⟨⟩
  have h : ObservesCurrent s.view s.polling :=
    run_invariant (I := fun s => ObservesCurrent s.view s.polling)
      (fun _ _ _ => observesCurrent_step) h₀ hk has
  cases hl : s.loaded.lookup n with
  | none => exact absurd hch (not_changes_of_lookup_eq_none ha hobs hl)
  | some m =>
    refine ⟨m, rfl, ?_⟩
    cases acts_of_step ha with
    | restartReports f delay hf =>
      cases hobs
      exact h.failedRestarts f hf m hl
    | pollApplies r delay hr =>
      cases hobs
      exact h.readings r hr m hl
    | _ => cases hobs

def slowReading : HealthReading := ⟨"alpha", 0, 0, ⟨.degraded, "slow"⟩⟩

def probed : List Action :=
  [.load "alpha" succeeding true, .tick 30000000000,
    .pollWakes ⟨"alpha", 0, 0, 30000000000⟩ slowReading.report]

theorem probed_changes_only_observed :
    ∃ s t, run (step oneModule) (Supervisor.new .absent) probed = some s ∧
      step oneModule s (.pollApplies slowReading 0) = some t ∧ Changes s t ∧
      ∃ m, s.loaded.lookup "alpha" = some m ∧ m.inst = 0 := by
  refine ⟨_, _, (Option.some_get (by decide +kernel)).symm,
    (Option.some_get (by decide +kernel)).symm, by decide +kernel, ?_⟩
  exact changes_only_observed (a := .pollApplies slowReading 0) (by decide +kernel)
    (Option.some_get _).symm (Option.some_get (by decide +kernel)).symm rfl (by decide +kernel)

def reloads : List Action := [.unload "alpha" true, .load "alpha" succeeding true]

def restartFailed : List Action :=
  [.load "alpha" succeeding true, .reportFailure "alpha" "crashed" 100000000, .tick 100000000,
    .timerFires ⟨"alpha", 100000000, 0⟩ notStarting]

def alphaEntry (s : Supervisor) : Option (InstanceId × ModuleState × Nat) :=
  (s.loaded.lookup "alpha").map fun m => (m.inst, m.state, m.restartAttempt)

/-- **Stale observations are applied** to an instance loaded later. -/
theorem stale_observations_applied :
    ((run (step oneModule) (Supervisor.new .absent) (probed ++ reloads)).map alphaEntry =
        some (some (1, .running, 0)) ∧
      (run (step oneModule) (Supervisor.new .absent)
          (probed ++ reloads ++ [.pollApplies slowReading 0])).map alphaEntry =
        some (some (1, .degraded, 0))) ∧
    ((run (step oneModule) (Supervisor.new .absent) (restartFailed ++ reloads)).map alphaEntry =
        some (some (2, .running, 0)) ∧
      (run (step oneModule) (Supervisor.new .absent)
          (restartFailed ++ reloads ++
            [.restartReports ⟨"alpha", "restart start failed", 0⟩ 100000000])).map alphaEntry =
        some (some (2, .degraded, 1))) := by
  decide +kernel

end Penguind.Daemon
