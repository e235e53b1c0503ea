import Penguind.Daemon.Ledger
import Penguind.Daemon.RestartBudget

/-!
# What a restart timer may stop

A restart timer is scheduled by the failure of one instance, but finds its target by name when it
fires. By then the name may stand for a fresh instance.
-/

namespace Penguind.Daemon

open Foundation Supervisor

/-- The current instance `i` is stopped or replaced between `s` and `u`. -/
def StopsOrReplaces (s u : Supervisor) (i : InstanceId) : Prop :=
  ∃ n m, s.loaded.lookup n = some m ∧ m.inst = i ∧
    ((i, .stop) ∈ u.calls.drop s.calls.length ∨ ∀ m' ∈ u.loaded.lookup n, m'.inst ≠ i)

instance (s u : Supervisor) (i : InstanceId) : Decidable (StopsOrReplaces s u i) :=
  decidable_of_iff (∃ e ∈ s.loaded.entries, e.2.inst = i ∧
      ((i, .stop) ∈ u.calls.drop s.calls.length ∨ ∀ m' ∈ u.loaded.lookup e.1, m'.inst ≠ i)) <| by
    simp only [StopsOrReplaces, ← Option.mem_def, AList.mem_lookup_iff]
    exact ⟨fun ⟨⟨n, m⟩, h⟩ => ⟨n, m, h⟩, fun ⟨n, m, h⟩ => ⟨⟨n, m⟩, h⟩⟩

/-- Loads and restarts succeed while no other restart is pending, and readings are of the current
instance. -/
def BringsUpWhenQuiet (cfg : SupervisorConfig) (s : Supervisor) : Action → Prop
  | .load n o _ =>
    s.loaded.lookup n = none → Attempt.Succeeds cfg n o → Quiet n s.view
  | .timerFires t o => Attempt.Succeeds cfg t.name o → Quiet t.name (s.dropTimer t).view
  | .pollApplies r _ =>
    r.report.level = .unhealthy → ∀ m ∈ s.loaded.lookup r.name, r.inst = m.inst
  | _ => True

instance (cfg : SupervisorConfig) (s : Supervisor) :
    ∀ a, Decidable (BringsUpWhenQuiet cfg s a)
  | .load _ _ _ => inferInstanceAs (Decidable (_ → _ → _))
  | .timerFires _ _ => inferInstanceAs (Decidable (_ → _))
  | .pollApplies r _ => inferInstanceAs (Decidable (_ → ∀ m ∈ s.loaded.lookup r.name, _))
  | .tick _ | .unload _ _ | .startEnabled | .shutdown | .shutdownLocked | .reportFailure _ _ _
  | .timerAbandoned _ | .restartReports _ _ | .pollWakes _ _ | .pollEnds _ => .isTrue trivial

structure BlamesCurrent (v : View) : Prop where
  fresh : ∀ n, ∀ m ∈ v.loaded.lookup n, m.inst < v.nextInstance
  timers : ∀ t ∈ v.timers, ∀ m ∈ v.loaded.lookup t.name, t.blamed = m.inst
  failedRestarts : ∀ f ∈ v.failedRestarts, ∀ m ∈ v.loaded.lookup f.name, f.old = m.inst

namespace BlamesCurrent

variable {v : View} {n : String} {m m' : LoadedModule} {k : InstanceId}

theorem shrink {l : AList fun _ : String => LoadedModule} (h : BlamesCurrent v)
    (hl : ∀ x, ∀ m ∈ l.lookup x, m ∈ v.loaded.lookup x) (hk : v.nextInstance ≤ k) :
    BlamesCurrent { v with loaded := l, nextInstance := k } where
  fresh x m hm := (h.fresh x m (hl x m hm)).trans_le hk
  timers t ht m hm := h.timers t ht m (hl _ m hm)
  failedRestarts f hf m hm := h.failedRestarts f hf m (hl _ m hm)

theorem erase_timer (h : BlamesCurrent v) (t : RestartTimer) :
    BlamesCurrent { v with timers := v.timers.erase t } :=
  ⟨h.fresh, fun x hx => h.timers x (List.mem_of_mem_erase hx), h.failedRestarts⟩

theorem erase_failedRestart (h : BlamesCurrent v) (f : FailedRestart) :
    BlamesCurrent { v with failedRestarts := v.failedRestarts.erase f } :=
  ⟨h.fresh, h.timers, fun x hx => h.failedRestarts x (List.mem_of_mem_erase hx)⟩

theorem insert_same (h : BlamesCurrent v) (hl : v.loaded.lookup n = some m)
    (hi : m'.inst = m.inst) : BlamesCurrent { v with loaded := v.loaded.insert n m' } := by
  -- Every entry after the write has the instance of an entry before it, under the same name.
  have key : ∀ x, ∀ m₁ ∈ (v.loaded.insert n m').lookup x,
      ∃ m₀ ∈ v.loaded.lookup x, m₁.inst = m₀.inst := by
    intro x m₁ hm₁
    by_cases hx : x = n
    · subst hx
      rw [AList.lookup_insert] at hm₁
      cases hm₁
      exact ⟨m, hl, hi⟩
    · rw [AList.lookup_insert_ne hx] at hm₁
      exact ⟨m₁, hm₁, rfl⟩
  constructor
  · intro x m₁ hm₁
    obtain ⟨m₀, hm₀, he⟩ := key x m₁ hm₁
    exact he ▸ h.fresh x m₀ hm₀
  · intro t ht m₁ hm₁
    obtain ⟨m₀, hm₀, he⟩ := key _ m₁ hm₁
    exact (h.timers t ht m₀ hm₀).trans he.symm
  · intro f hf m₁ hm₁
    obtain ⟨m₀, hm₀, he⟩ := key _ m₁ hm₁
    exact (h.failedRestarts f hf m₀ hm₀).trans he.symm

theorem insert_fresh (h : BlamesCurrent v) (hq : Quiet n v) (hi : m.inst = v.nextInstance) :
    BlamesCurrent
      { v with loaded := v.loaded.insert n m, nextInstance := v.nextInstance + 1 } := by
  constructor
  · intro x m₁ hm₁
    show m₁.inst < v.nextInstance + 1
    by_cases hx : x = n
    · subst hx
      rw [AList.lookup_insert] at hm₁
      cases hm₁
      rw [hi]
      exact Nat.lt_succ_self _
    · rw [AList.lookup_insert_ne hx] at hm₁
      exact Nat.lt_succ_of_lt (h.fresh x m₁ hm₁)
  · intro t ht m₁ hm₁
    -- Nothing pending has the new entry's name, so it finds the entry it found before.
    rw [AList.lookup_insert_ne (hq.1 t ht)] at hm₁
    exact h.timers t ht m₁ hm₁
  · intro f hf m₁ hm₁
    rw [AList.lookup_insert_ne (hq.2 f hf)] at hm₁
    exact h.failedRestarts f hf m₁ hm₁

theorem append_timer {t : RestartTimer} (h : BlamesCurrent v)
    (ht : ∀ m ∈ v.loaded.lookup t.name, t.blamed = m.inst) :
    BlamesCurrent { v with timers := v.timers ++ [t] } :=
  ⟨h.fresh, List.forall_mem_append.mpr ⟨h.timers, List.forall_mem_singleton.mpr ht⟩,
    h.failedRestarts⟩

theorem append_failedRestart {f : FailedRestart} (h : BlamesCurrent v)
    (hf : ∀ m ∈ v.loaded.lookup f.name, f.old = m.inst) :
    BlamesCurrent { v with failedRestarts := v.failedRestarts ++ [f] } :=
  ⟨h.fresh, h.timers,
    List.forall_mem_append.mpr ⟨h.failedRestarts, List.forall_mem_singleton.mpr hf⟩⟩

end BlamesCurrent

section Step

variable {cfg : SupervisorConfig} {s t : Supervisor} {n : String}

theorem BlamesCurrent.stopLocked (h : BlamesCurrent s.view) (n : String) :
    BlamesCurrent (s.stopLocked n).view := by
  rw [view_stopLocked]
  refine h.shrink (k := s.nextInstance) (fun x m hm => ?_) le_rfl
  by_cases hx : x = n
  · subst hx
    rw [AList.lookup_erase] at hm
    cases hm
  · rwa [AList.lookup_erase_ne hx] at hm

theorem BlamesCurrent.reportFailure (h : BlamesCurrent s.view) (reason : String)
    {src : Option InstanceId} (delay : Nat)
    (hsrc : ∀ i ∈ src, ∀ m ∈ s.loaded.lookup n, i = m.inst) :
    BlamesCurrent (s.reportFailure cfg n reason src delay).view := by
  cases hl : s.loaded.lookup n with
  | none =>
    rw [reportFailure_of_none cfg s n reason src delay hl]
    exact h
  | some m =>
    have hput : BlamesCurrent
        { s.view with loaded := s.view.loaded.insert n (s.failedEntry cfg m) } :=
      h.insert_same hl rfl
    obtain ⟨es, hr⟩ := reportFailure_of_some cfg s n reason src delay hl
    rw [hr]
    split
    · exact hput
    · refine hput.append_timer fun m₁ hm₁ => ?_
      rw [AList.lookup_insert] at hm₁
      cases hm₁
      show src.getD m.inst = m.inst
      cases src with
      | none => rfl
      | some i => exact hsrc i rfl m hl

theorem BlamesCurrent.performScheduledRestart (h : BlamesCurrent s.view) {o : Attempt}
    (hq : Attempt.Succeeds cfg n o → Quiet n s.view) :
    BlamesCurrent (s.performScheduledRestart cfg n o).view := by
  cases hl : s.loaded.lookup n with
  | none =>
    rw [performScheduledRestart_of_none cfg s n o hl]
    exact h
  | some m =>
    by_cases ho : Attempt.Succeeds cfg n o
    · obtain ⟨es, hr⟩ := performScheduledRestart_of_succeeds cfg s n hl ho
      rw [hr]
      exact h.insert_fresh (hq ho) rfl
    · obtain ⟨reason, k, cs, es, hk, hr⟩ := performScheduledRestart_frame_of_not cfg s n hl ho
      rw [hr]
      refine (h.shrink (fun _ _ => id) hk).append_failedRestart fun m₁ hm₁ => ?_
      -- The failed attempt has left the entry in place, and blames the instance in it.
      exact congrArg LoadedModule.inst (Option.mem_unique hl hm₁)

theorem BlamesCurrent.applyReport (h : BlamesCurrent s.view) {r : HealthReading} (delay : Nat)
    (hr : r.report.level = .unhealthy → ∀ m ∈ s.loaded.lookup r.name, r.inst = m.inst) :
    BlamesCurrent (s.applyReport cfg r delay).view := by
  rcases view_applyReport cfg s r delay with ⟨hlevel, he⟩ | ⟨-, hv | ⟨m, st, hl, -, hv⟩⟩
  · rw [he]
    refine h.reportFailure _ delay fun i hi => ?_
    cases hi
    exact hr hlevel
  · exact hv ▸ h
  · exact hv ▸ h.insert_same hl rfl

theorem blamesCurrent_step {a : Action} (h : BlamesCurrent s.view)
    (hc : BringsUpWhenQuiet cfg s a) (hstep : step cfg s a = some t) :
    BlamesCurrent t.view := by
  cases acts_of_step hstep with
  | tick | startEnabled | shutdown | pollWakes | pollEnds => exact h
  | load n o saved =>
    by_cases hl : s.loaded.lookup n = none ∧ Attempt.Succeeds cfg n o
    · obtain ⟨es, hload⟩ := load_of_succeeds cfg s n saved hl.1 hl.2
      rw [hload]
      exact h.insert_fresh (hc hl.1 hl.2) rfl
    · obtain ⟨k, cs, es, hk, hload⟩ := load_frame_of_not cfg s n saved hl
      rw [hload]
      exact h.shrink (fun _ _ => id) hk
  | unload n saved =>
    rw [view_unload_eq_stopLocked]
    exact h.stopLocked n
  | shutdownLocked =>
    -- A shutdown takes entries away but leaves the timers sleeping.
    exact shutdownLocked_induction (P := fun u => BlamesCurrent u.view)
      (fun _ n hu => hu.stopLocked n) h
  | reportFailure n reason delay =>
    -- A report from outside names no instance and blames the current one.
    exact h.reportFailure reason delay (by rintro _ ⟨⟩)
  | timerFires x o =>
    exact BlamesCurrent.performScheduledRestart (h.erase_timer x) hc
  | timerAbandoned x => exact h.erase_timer x
  | restartReports f delay hf =>
    refine BlamesCurrent.reportFailure (h.erase_failedRestart f) _ delay fun i hi => ?_
    cases hi
    exact h.failedRestarts f hf
  | pollApplies r delay =>
    rw [view_spawnHealthPoll]
    exact BlamesCurrent.applyReport (s := s.dropReading r) h delay hc

theorem blamesCurrent_new (file : EnabledFile) : BlamesCurrent (Supervisor.new file).view where
  fresh _ _ hm := by cases hm
  timers _ ht := by cases ht
  failedRestarts _ hf := by cases hf

theorem eq_current_of_stopsOrReplaces {x : RestartTimer} {o : Attempt} {i : InstanceId}
    (hf : ∀ n, ∀ m ∈ s.loaded.lookup n, m.inst < s.nextInstance)
    (h : step cfg s (.timerFires x o) = some t) (hi : StopsOrReplaces s t i) :
    ∃ m ∈ s.loaded.lookup x.name, i = m.inst := by
  cases acts_of_step h
  obtain ⟨n, m, hl, rfl, hcall | hgone⟩ := hi
  -- A call on the instance: it is the entry's, or the one just made, which was not current.
  · rcases mem_calls_performScheduledRestart cfg (s.dropTimer x) x.name hcall with hm | hm
    · exact hm
    · exact absurd hm (hf n m hl).ne
  · by_cases hn : x.name = n
    · exact ⟨m, hn ▸ hl, rfl⟩
    · -- another name's entry is as it was
      have hsame := sameFor_step h (by simpa [Action.subject] using hn) (by rintro ⟨⟩)
      exact absurd rfl (hgone m (hsame.lookup.trans hl))

/-- **A timer hits only the instance it blames**, along the condition. -/
theorem timerFires_stops_only_blamed {file : EnabledFile} {as : List Action} {x : RestartTimer}
    {o : Attempt} {i : InstanceId}
    (hc : Along (step cfg) (BringsUpWhenQuiet cfg) (Supervisor.new file) as)
    (hrun : run (step cfg) (Supervisor.new file) as = some s)
    (h : step cfg s (.timerFires x o) = some t) (hi : StopsOrReplaces s t i) :
    i = x.blamed := by
  have hb : BlamesCurrent s.view := run_invariant (I := fun s => BlamesCurrent s.view)
    (fun _ _ _ => blamesCurrent_step) (blamesCurrent_new file) hc hrun
  obtain ⟨m, hm, rfl⟩ := eq_current_of_stopsOrReplaces hb.fresh h hi
  -- The timer that fires was pending, so the invariant speaks about it.
  simp only [step, Option.ite_none_right_eq_some] at h
  exact (hb.timers x h.1.1 m hm).symm

end Step

def crashed : List Action :=
  [.load "alpha" succeeding true, .reportFailure "alpha" "crashed" 100000000, .tick 100000000]

def reloaded : List Action :=
  [.load "alpha" succeeding true, .reportFailure "alpha" "crashed" 100000000,
    .unload "alpha" true, .load "alpha" succeeding true, .tick 100000000]

def crashTimer : RestartTimer := ⟨"alpha", 100000000, 0⟩

theorem crashed_instance_replaced :
    ∃ s t, run (step oneModule) (Supervisor.new .absent) crashed = some s ∧
      step oneModule s (.timerFires crashTimer succeeding) = some t ∧
      StopsOrReplaces s t 0 ∧ ∀ i, StopsOrReplaces s t i → i = 0 := by
  refine ⟨_, _, (Option.some_get (by decide +kernel)).symm,
    (Option.some_get (by decide +kernel)).symm, by decide +kernel, fun i hi => ?_⟩
  exact timerFires_stops_only_blamed (by decide +kernel) (Option.some_get _).symm
    (Option.some_get _).symm hi

/-- **A fresh instance is hit** by the timer of an earlier one. -/
theorem reloaded_instance_stopped :
    ∃ s t, run (step oneModule) (Supervisor.new .absent) reloaded = some s ∧
      step oneModule s (.timerFires crashTimer succeeding) = some t ∧
      StopsOrReplaces s t 1 ∧ crashTimer.blamed = 0 := by
  exact ⟨_, _, (Option.some_get (by decide +kernel)).symm,
    (Option.some_get (by decide +kernel)).symm, by decide +kernel, rfl⟩

end Penguind.Daemon
