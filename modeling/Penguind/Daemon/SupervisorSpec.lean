import Penguind.Daemon.Supervisor

/-!
# What the supervisor's functions do to the entries and to the pending restarts

What the restart machinery depends on is in four fields, the `view`. There is an equation for what
each function leaves there, so that statements about runs unfold none.
-/

namespace Penguind.Daemon

structure View where
  loaded : AList fun _ : String => LoadedModule
  timers : List RestartTimer
  failedRestarts : List FailedRestart
  nextInstance : InstanceId

namespace Supervisor

variable (cfg : SupervisorConfig) (s : Supervisor) (name : String) {o : Attempt} {m : LoadedModule}

def view : View := ⟨s.loaded, s.timers, s.failedRestarts, s.nextInstance⟩

def Attempt.Succeeds (name : String) (o : Attempt) : Prop :=
  instantiate cfg name o = .ok () ∧ o.init = .ok () ∧ o.start = .ok ()

instance (o : Attempt) : Decidable (Attempt.Succeeds cfg name o) :=
  inferInstanceAs (Decidable (_ ∧ _ ∧ _))

@[simp] theorem view_spawnHealthPoll (i : InstanceId) (t : TokenId) :
    (spawnHealthPoll cfg s name i t).view = s.view := rfl

@[simp] theorem view_dropReading (r : HealthReading) : (s.dropReading r).view = s.view := rfl

def initialized : Supervisor :=
  (s.allocate.publish (s.allocate.stateEvent name .initializing)).call s.nextInstance .init

/-! ## Load -/

variable (saved : Bool)

@[elab_as_elim]
theorem load_of_not {P : Supervisor → Prop}
    (h : ¬ (s.loaded.lookup name = none ∧ Attempt.Succeeds cfg name o))
    (hs : (s.loaded.lookup name = none → instantiate cfg name o ≠ .ok ()) → P s)
    (hinit : ∀ err, s.loaded.lookup name = none → instantiate cfg name o = .ok () →
      P ((s.initialized name).failLoad name s.nextInstance err))
    (hstart : ∀ err, s.loaded.lookup name = none → instantiate cfg name o = .ok () →
      P (((s.initialized name).call s.nextInstance .start).failLoad name s.nextInstance err)) :
    P (load cfg s name o saved).2 := by
  cases hl : s.loaded.lookup name with
  | some m =>
    simp only [load, hl]
    exact hs fun hn => nomatch hl.symm.trans hn
  | none =>
    cases hi : instantiate cfg name o with
    | error e =>
      simp only [load, hl, hi]
      exact hs fun _ hn => nomatch hi.symm.trans hn
    | ok =>
      cases h₁ : o.init with
      | error e =>
        simp only [load, hl, hi, h₁]
        exact hinit e hl hi
      | ok =>
        cases h₂ : o.start with
        | error e =>
          simp only [load, hl, hi, h₁, h₂]
          exact hstart e hl hi
        | ok => exact absurd ⟨hl, hi, h₁, h₂⟩ h

def loadedEntry : LoadedModule := ⟨s.nextInstance, .running, 0, s.now, s.loadSeq, s.nextToken⟩

theorem load_of_succeeds (hl : s.loaded.lookup name = none)
    (ho : Attempt.Succeeds cfg name o) :
    ∃ es, (load cfg s name o saved).2 =
      { s with
        loaded := s.loaded.insert name s.loadedEntry
        persisted := insert name s.persisted
        enabledFile := if saved then .enabled (insert name s.persisted) else s.enabledFile
        loadSeq := s.loadSeq + 1
        nextInstance := s.nextInstance + 1
        nextToken := s.nextToken + 1
        polls := s.polls ++ [⟨name, s.nextInstance, s.nextToken, s.now + cfg.healthInterval⟩]
        calls := s.calls ++ [(s.nextInstance, .init), (s.nextInstance, .start)]
        published := es } := by
  obtain ⟨hi, h₁, h₂⟩ := ho
  simp only [load, hl, hi, h₁, h₂, install, spawnHealthPoll, put, publish, call, allocate,
    bumpLoadSeq, addPersisted, save, List.append_assoc]
  cases saved <;> exact ⟨_, rfl⟩

theorem load_frame_of_not (h : ¬ (s.loaded.lookup name = none ∧ Attempt.Succeeds cfg name o)) :
    ∃ k cs es, s.nextInstance ≤ k ∧ (load cfg s name o saved).2 =
      { s with nextInstance := k, calls := cs, published := es } := by
  refine load_of_not cfg s name saved h (fun _ => ⟨_, _, _, le_rfl, rfl⟩)
    (fun err _ _ => ?_) fun err _ _ => ?_
  all_goals
    simp only [failLoad, initialized, publish, call, allocate]
    exact ⟨_, _, _, Nat.le_succ _, rfl⟩

theorem loaded_load_of_not (h : ¬ (s.loaded.lookup name = none ∧ Attempt.Succeeds cfg name o)) :
    (load cfg s name o saved).2.loaded = s.loaded := by
  obtain ⟨k, cs, es, -, hload⟩ := load_frame_of_not cfg s name saved h
  rw [hload]

/-! ## Unload and shutdown -/

theorem stopLocked_of_none (hl : s.loaded.lookup name = none) : s.stopLocked name = s := by
  simp only [stopLocked, hl]

theorem stopLocked_of_some (hl : s.loaded.lookup name = some m) :
    ∃ es, s.stopLocked name =
      { s with
        loaded := s.loaded.erase name
        cancelled := m.healthCancel :: s.cancelled
        calls := s.calls ++ [(m.inst, .stop)]
        published := es } := by
  simp only [stopLocked, hl]
  exact ⟨_, rfl⟩

theorem view_stopLocked :
    (s.stopLocked name).view = { s.view with loaded := s.loaded.erase name } := by
  cases hl : s.loaded.lookup name with
  | some m =>
    obtain ⟨es, h⟩ := stopLocked_of_some s name hl
    rw [h]
    rfl
  | none =>
    -- The view says that the name is erased; where there was no entry, erasing changes nothing.
    have he : s.loaded.erase name = s.loaded := by
      apply AList.ext
      exact List.kerase_of_notMem_keys (AList.lookup_eq_none.mp hl)
    rw [stopLocked_of_none s name hl, he]
    rfl

theorem loaded_stopLocked : (s.stopLocked name).loaded = s.loaded.erase name :=
  congrArg View.loaded (view_stopLocked s name)

theorem nextInstance_stopLocked : (s.stopLocked name).nextInstance = s.nextInstance :=
  congrArg View.nextInstance (view_stopLocked s name)

theorem unload_frame :
    ∃ names file, s.unload name saved =
      { s.stopLocked name with persisted := names, enabledFile := file } := by
  cases hl : s.loaded.lookup name with
  | none =>
    simp only [unload, stopLocked, hl]
    exact ⟨_, _, rfl⟩
  | some m =>
    simp only [unload, hl]
    cases saved <;> exact ⟨_, _, rfl⟩

theorem view_unload_eq_stopLocked :
    (s.unload name saved).view = (s.stopLocked name).view := by
  obtain ⟨names, file, h⟩ := unload_frame s name saved
  rw [h]
  rfl

theorem view_unload :
    (s.unload name saved).view = { s.view with loaded := s.loaded.erase name } :=
  (view_unload_eq_stopLocked s name saved).trans (view_stopLocked s name)

theorem shutdownLocked_induction {P : Supervisor → Prop} (h : ∀ u n, P u → P (stopLocked u n))
    {s : Supervisor} (hs : P s) : P s.shutdownLocked :=
  List.foldlRecOn s.stopOrder stopLocked (motive := P) hs fun u hu n _ => h u n hu

/-! ## Failure reports -/

def failedEntry (m : LoadedModule) : LoadedModule :=
  { m with
    restartAttempt := s.nextAttempt cfg m
    state := if cfg.maxRestarts ≤ s.nextAttempt cfg m then .failed else .degraded }

variable (reason : String) (src : Option InstanceId) (delay : Nat)

theorem reportFailure_of_none
    (hl : s.loaded.lookup name = none) : reportFailure cfg s name reason src delay = s := by
  simp only [reportFailure, hl]

theorem reportFailure_of_some (hl : s.loaded.lookup name = some m) :
    ∃ es, reportFailure cfg s name reason src delay =
      { s with
        loaded := s.loaded.insert name (s.failedEntry cfg m)
        timers := if cfg.maxRestarts ≤ s.nextAttempt cfg m then s.timers
          else s.timers ++ [⟨name, s.now + delay, src.getD m.inst⟩]
        cancelled := m.healthCancel :: s.cancelled
        published := es } := by
  simp only [reportFailure, hl, failedEntry]
  split <;> exact ⟨_, rfl⟩

/-! ## Scheduled restarts -/

def restartedEntry (m : LoadedModule) : LoadedModule :=
  ⟨s.nextInstance, .running, m.restartAttempt, s.now, m.loadSeq, s.nextToken⟩

theorem performScheduledRestart_of_none (o : Attempt) (hl : s.loaded.lookup name = none) :
    performScheduledRestart cfg s name o = s := by
  simp only [performScheduledRestart, hl]

def retire (m : LoadedModule) : Supervisor := (s.cancel m.healthCancel).call m.inst .stop

theorem performScheduledRestart_of_succeeds (hl : s.loaded.lookup name = some m)
    (ho : Attempt.Succeeds cfg name o) :
    ∃ es, performScheduledRestart cfg s name o =
      { s with
        loaded := s.loaded.insert name (s.restartedEntry m)
        nextInstance := s.nextInstance + 1
        nextToken := s.nextToken + 1
        polls := s.polls ++ [⟨name, s.nextInstance, s.nextToken, s.now + cfg.healthInterval⟩]
        cancelled := m.healthCancel :: s.cancelled
        calls := s.calls ++
          [(m.inst, .stop), (s.nextInstance, .init), (s.nextInstance, .start)]
        published := es } := by
  obtain ⟨hi, h₁, h₂⟩ := ho
  simp only [performScheduledRestart, hl, hi, h₁, h₂, install, spawnHealthPoll, put, publish, call,
    cancel, allocate, List.append_assoc]
  exact ⟨_, rfl⟩

/-- The old instance is retired, and a new one was not made or was stopped. -/
@[elab_as_elim]
theorem performScheduledRestart_of_not {P : Supervisor → Prop}
    (hl : s.loaded.lookup name = some m) (ho : ¬ Attempt.Succeeds cfg name o)
    (hs : ∀ reason message, instantiate cfg name o ≠ .ok () →
      P ((s.retire m).failRestart name reason message m.inst))
    (hinit : ∀ reason message, instantiate cfg name o = .ok () →
      P ((((s.retire m).initialized name).call s.nextInstance .stop).failRestart name reason
        message m.inst))
    (hstart : ∀ reason message, instantiate cfg name o = .ok () →
      P (((((s.retire m).initialized name).call s.nextInstance .start).call s.nextInstance
        .stop).failRestart name reason message m.inst)) :
    P (performScheduledRestart cfg s name o) := by
  -- Three calls can fail, in this order; each failure has a reason of its own.
  cases hi : instantiate cfg name o with
  | error e =>
    simp only [performScheduledRestart, hl, hi]
    exact hs _ _ fun hn => nomatch hi.symm.trans hn
  | ok =>
    cases h₁ : o.init with
    | error e =>
      simp only [performScheduledRestart, hl, hi, h₁]
      exact hinit _ _ hi
    | ok =>
      cases h₂ : o.start with
      | error e =>
        simp only [performScheduledRestart, hl, hi, h₁, h₂]
        exact hstart _ _ hi
      | ok => exact absurd ⟨hi, h₁, h₂⟩ ho

theorem performScheduledRestart_frame_of_not (hl : s.loaded.lookup name = some m)
    (ho : ¬ Attempt.Succeeds cfg name o) :
    ∃ reason k cs es, s.nextInstance ≤ k ∧ performScheduledRestart cfg s name o =
      { s with
        failedRestarts := s.failedRestarts ++ [⟨name, reason, m.inst⟩]
        nextInstance := k
        cancelled := m.healthCancel :: s.cancelled
        calls := cs
        published := es } := by
  refine performScheduledRestart_of_not cfg s name hl ho (fun reason message _ => ?_)
    (fun reason message _ => ?_) fun reason message _ => ?_
  · exact ⟨reason, _, _, _, le_rfl, rfl⟩
  all_goals
    simp only [failRestart, retire, initialized, publish, call, cancel, allocate]
    exact ⟨reason, _, _, _, Nat.le_succ _, rfl⟩

theorem loaded_performScheduledRestart_of_not (hl : s.loaded.lookup name = some m)
    (ho : ¬ Attempt.Succeeds cfg name o) :
    (performScheduledRestart cfg s name o).loaded = s.loaded := by
  obtain ⟨reason, k, cs, es, -, h⟩ := performScheduledRestart_frame_of_not cfg s name hl ho
  rw [h]

/-! ## Health readings -/

theorem view_applyReport (r : HealthReading) (delay : Nat) :
    r.report.level = .unhealthy ∧ applyReport cfg s r delay =
        reportFailure cfg s r.name r.report.message (some r.inst) delay ∨
      r.report.level ≠ .unhealthy ∧ ((applyReport cfg s r delay).view = s.view ∨
        ∃ m st, s.loaded.lookup r.name = some m ∧
          (r.report.level = .healthy → m.state = .degraded) ∧
          (applyReport cfg s r delay).view =
            { s.view with loaded := s.loaded.insert r.name { m with state := st } }) := by
  cases hr : r.report.level with
  | unhealthy => exact .inl ⟨rfl, by simp only [applyReport, hr]⟩
  | degraded =>
    refine .inr ⟨by decide, ?_⟩
    simp only [applyReport, hr]
    fun_cases markDegraded s r.name with
    | case1 | case2 => exact .inl rfl
    | case3 m hl => exact .inr ⟨m, _, hl, nofun, rfl⟩
  | healthy =>
    refine .inr ⟨by decide, ?_⟩
    simp only [applyReport, hr]
    fun_cases restoreRunningIfDegraded s r.name with
    | case2 m hl hm => exact .inr ⟨m, _, hl, fun _ => hm, rfl⟩
    | case1 | case3 => exact .inl rfl

theorem lookup_markDegraded :
    (s.markDegraded name).loaded.lookup name =
      (s.loaded.lookup name).map fun m => { m with state := .degraded } := by
  cases hl : s.loaded.lookup name with
  | none =>
    simp only [markDegraded, hl]
    rfl
  | some m =>
    by_cases hm : m.state = .degraded
    · simp only [markDegraded, hl, if_pos hm, Option.map_some]
      rw [← hm]
    · simp only [markDegraded, hl, if_neg hm]
      exact AList.lookup_insert s.loaded

theorem lookup_restoreRunningIfDegraded :
    (s.restoreRunningIfDegraded name).loaded.lookup name =
      (s.loaded.lookup name).map fun m =>
        if m.state = .degraded then { m with state := .running } else m := by
  cases hl : s.loaded.lookup name with
  | none =>
    simp only [restoreRunningIfDegraded, hl]
    rfl
  | some m =>
    by_cases hm : m.state = .degraded
    · simp only [restoreRunningIfDegraded, hl, Option.map_some, if_pos hm]
      exact AList.lookup_insert s.loaded
    · simp only [restoreRunningIfDegraded, hl, Option.map_some, if_neg hm]

end Supervisor

/-! ## A step moves only what belongs to its subject -/

open Supervisor

structure SameFor (name : String) (v w : View) : Prop where
  lookup : w.loaded.lookup name = v.loaded.lookup name
  timers : ∀ t ∈ w.timers, t.name = name → t ∈ v.timers
  failedRestarts : ∀ f ∈ w.failedRestarts, f.name = name → f ∈ v.failedRestarts

namespace SameFor

variable {name : String} {v w x : View}

theorem refl (v : View) : SameFor name v v := ⟨rfl, fun _ h _ => h, fun _ h _ => h⟩

theorem trans (h : SameFor name v w) (k : SameFor name w x) : SameFor name v x where
  lookup := k.lookup.trans h.lookup
  timers t ht hn := h.timers t (k.timers t ht hn) hn
  failedRestarts f hf hn := h.failedRestarts f (k.failedRestarts f hf hn) hn

theorem of_eq (h : w = v) : SameFor name v w := h ▸ refl w

theorem insert {n : String} (hn : n ≠ name) (m : LoadedModule) (k : InstanceId) :
    SameFor name v { v with loaded := v.loaded.insert n m, nextInstance := k } where
  lookup := AList.lookup_insert_ne hn.symm
  timers _ ht _ := ht
  failedRestarts _ hf _ := hf

theorem erase {n : String} (hn : n ≠ name) :
    SameFor name v { v with loaded := v.loaded.erase n } where
  lookup := AList.lookup_erase_ne hn.symm
  timers _ ht _ := ht
  failedRestarts _ hf _ := hf

theorem append_timer {t : RestartTimer} (hn : t.name ≠ name) :
    SameFor name v { v with timers := v.timers ++ [t] } where
  lookup := rfl
  timers x hx hxn := by
    rcases List.mem_append.mp hx with h | h
    · exact h
    · exact absurd (List.mem_singleton.mp h ▸ hxn) hn
  failedRestarts _ hf _ := hf

theorem append_failedRestart {f : FailedRestart} (hn : f.name ≠ name) (k : InstanceId) :
    SameFor name v { v with failedRestarts := v.failedRestarts ++ [f], nextInstance := k } where
  lookup := rfl
  timers _ ht _ := ht
  failedRestarts x hx hxn := by
    rcases List.mem_append.mp hx with h | h
    · exact h
    · exact absurd (List.mem_singleton.mp h ▸ hxn) hn

theorem erase_timer (t : RestartTimer) : SameFor name v { v with timers := v.timers.erase t } :=
  ⟨rfl, fun _ h _ => List.mem_of_mem_erase h, fun _ h _ => h⟩

theorem erase_failedRestart (f : FailedRestart) :
    SameFor name v { v with failedRestarts := v.failedRestarts.erase f } :=
  ⟨rfl, fun _ h _ => h, fun _ h _ => List.mem_of_mem_erase h⟩

end SameFor

section Frame

variable {cfg : SupervisorConfig} {s : Supervisor} {name n : String}

theorem sameFor_load (hn : n ≠ name) (o : Attempt) (saved : Bool) :
    SameFor name s.view (load cfg s n o saved).2.view := by
  by_cases h : s.loaded.lookup n = none ∧ Attempt.Succeeds cfg n o
  · obtain ⟨es, hload⟩ := load_of_succeeds cfg s n saved h.1 h.2
    rw [hload]
    exact .insert hn _ _
  · obtain ⟨k, cs, es, -, hload⟩ := load_frame_of_not cfg s n saved h
    rw [hload]
    exact ⟨rfl, fun _ h _ => h, fun _ h _ => h⟩

theorem sameFor_reportFailure (hn : n ≠ name) (reason : String) (src : Option InstanceId)
    (delay : Nat) : SameFor name s.view (reportFailure cfg s n reason src delay).view := by
  cases hl : s.loaded.lookup n with
  | none => exact .of_eq (by rw [reportFailure_of_none cfg s n reason src delay hl])
  | some m =>
    -- Within the budget a timer of `n` is added as well, which is not a task of `name` either.
    obtain ⟨es, h⟩ := reportFailure_of_some cfg s n reason src delay hl
    rw [h]
    split
    · exact .insert hn _ _
    · exact (SameFor.insert hn _ _).trans (.append_timer hn)

theorem sameFor_performScheduledRestart (hn : n ≠ name) (o : Attempt) :
    SameFor name s.view (performScheduledRestart cfg s n o).view := by
  cases hl : s.loaded.lookup n with
  | none => exact .of_eq (by rw [performScheduledRestart_of_none cfg s n o hl])
  | some m =>
    by_cases ho : Attempt.Succeeds cfg n o
    · obtain ⟨es, h⟩ := performScheduledRestart_of_succeeds cfg s n hl ho
      rw [h]
      exact .insert hn _ _
    · obtain ⟨reason, k, cs, es, -, h⟩ := performScheduledRestart_frame_of_not cfg s n hl ho
      rw [h]
      exact .append_failedRestart hn _

theorem sameFor_applyReport {r : HealthReading} (hn : r.name ≠ name) (delay : Nat) :
    SameFor name s.view (applyReport cfg s r delay).view := by
  rcases view_applyReport cfg s r delay with ⟨-, h⟩ | ⟨-, h | ⟨m, st, -, -, h⟩⟩
  · rw [h]
    exact sameFor_reportFailure hn _ _ _
  · exact .of_eq h
  · rw [h]
    exact .insert hn _ _

end Frame

/-! ## What a step can be -/

inductive Acts (cfg : SupervisorConfig) (s : Supervisor) : Action → Supervisor → Prop
  | tick (d : Nat) : Acts cfg s (.tick d) { s with now := s.now + d }
  | load (n : String) (o : Attempt) (saved : Bool) :
    Acts cfg s (.load n o saved) (s.load cfg n o saved).2
  | unload (n : String) (saved : Bool) : Acts cfg s (.unload n saved) (s.unload n saved)
  | startEnabled : Acts cfg s .startEnabled s.startEnabled
  | shutdown : Acts cfg s .shutdown { s with lifeCancelled := true }
  | shutdownLocked (hlife : s.lifeCancelled = true) :
    Acts cfg s .shutdownLocked s.shutdownLocked
  | reportFailure (n reason : String) (delay : Nat) (hdelay : DelayAllowed cfg s n delay) :
    Acts cfg s (.reportFailure n reason delay) (s.reportFailure cfg n reason none delay)
  | timerFires (x : RestartTimer) (o : Attempt) (hx : x ∈ s.timers) (hdue : x.deadline ≤ s.now) :
    Acts cfg s (.timerFires x o) ((s.dropTimer x).performScheduledRestart cfg x.name o)
  | timerAbandoned (x : RestartTimer) (hx : x ∈ s.timers) (hlife : s.lifeCancelled = true) :
    Acts cfg s (.timerAbandoned x) (s.dropTimer x)
  | restartReports (f : FailedRestart) (delay : Nat) (hf : f ∈ s.failedRestarts)
    (hdelay : DelayAllowed cfg s f.name delay) :
    Acts cfg s (.restartReports f delay)
      ((s.dropFailedRestart f).reportFailure cfg f.name f.reason (some f.old) delay)
  | pollWakes (p : HealthPoll) (report : HealthReport) (hp : p ∈ s.polls)
    (hdue : p.wakeAt ≤ s.now) :
    Acts cfg s (.pollWakes p report)
      { s.dropPoll p with readings := s.readings ++ [⟨p.name, p.inst, p.cancel, report⟩] }
  | pollApplies (r : HealthReading) (delay : Nat) (hr : r ∈ s.readings)
    (hdelay : r.report.level = .unhealthy → DelayAllowed cfg s r.name delay) :
    Acts cfg s (.pollApplies r delay)
      (spawnHealthPoll cfg ((s.dropReading r).applyReport cfg r delay) r.name r.inst r.cancel)
  | pollEnds (p : HealthPoll) (hp : p ∈ s.polls) (hcancel : p.cancel ∈ s.cancelled) :
    Acts cfg s (.pollEnds p) (s.dropPoll p)

theorem acts_of_step {cfg : SupervisorConfig} {s t : Supervisor} {a : Action}
    (h : step cfg s a = some t) : Acts cfg s a t := by
  cases a with
  | tick | load | unload | startEnabled | shutdown =>
    cases h
    constructor
  | shutdownLocked | reportFailure =>
    obtain ⟨hc, ⟨⟩⟩ := Option.ite_none_right_eq_some.mp h
    constructor
    exact hc
  | timerFires | timerAbandoned | restartReports | pollWakes | pollApplies | pollEnds =>
    obtain ⟨⟨h₁, h₂⟩, ⟨⟩⟩ := Option.ite_none_right_eq_some.mp h
    constructor
    · exact h₁
    · exact h₂

def Action.subject : Action → Option String
  | .load n _ _ | .unload n _ | .reportFailure n _ _ => some n
  | .timerFires t _ => some t.name
  | .restartReports f _ => some f.name
  | .pollApplies r _ => some r.name
  | .tick _ | .startEnabled | .shutdown | .shutdownLocked | .timerAbandoned _ | .pollWakes _ _
  | .pollEnds _ => none

/-- **The frame of a step**: only a shutdown touches entries and tasks of other names. -/
theorem sameFor_step {cfg : SupervisorConfig} {s t : Supervisor} {a : Action} {name : String}
    (h : step cfg s a = some t) (ha : a.subject ≠ some name) (hs : a ≠ .shutdownLocked) :
    SameFor name s.view t.view := by
  cases acts_of_step h with
  | tick d | startEnabled | shutdown | pollWakes x report | pollEnds x => exact .refl _
  | load n o saved => exact sameFor_load (fun hn => ha (congrArg some hn)) o saved
  | unload n saved =>
    rw [view_unload]
    exact .erase fun hn => ha (congrArg some hn)
  | shutdownLocked => exact absurd rfl hs
  | reportFailure n reason delay =>
    exact sameFor_reportFailure (fun hn => ha (congrArg some hn)) _ _ _
  | timerFires x o =>
    -- The timer is taken off before the restart, so it cannot fire twice.
    have h : SameFor name s.view (s.dropTimer x).view := .erase_timer x
    exact h.trans (sameFor_performScheduledRestart (fun hn => ha (congrArg some hn)) o)
  | timerAbandoned x => exact .erase_timer x
  | restartReports f delay =>
    have h : SameFor name s.view (s.dropFailedRestart f).view := .erase_failedRestart f
    exact h.trans (sameFor_reportFailure (fun hn => ha (congrArg some hn)) _ _ _)
  | pollApplies r delay =>
    -- The poll loop that goes back to sleep is not part of the view.
    rw [view_spawnHealthPoll, ← view_dropReading s r]
    exact sameFor_applyReport (fun hn => ha (congrArg some hn)) delay

end Penguind.Daemon
