import Penguind.Daemon.Listing

/-!
# The last announced state and the listed state

Every change of a module's state is announced next to the assignment that makes it. A restart that
has announced `initializing` and failed is listed otherwise until its failure is reported.
-/

namespace Penguind.Daemon

open Foundation Supervisor

def ModuleState.shown : ModuleState → String
  | .stopped => ModuleState.disabled.asStr
  | st => st.asStr

def Event.stateFor (e : Event) (n : String) : Option String :=
  if e.eventType = .stateChanged ∧ e.moduleName = n then
    some (if e.message = ModuleState.stopped.asStr then ModuleState.disabled.asStr else e.message)
  else none

def lastState (published : List Event) (n : String) : String :=
  published.foldl (fun st e => (e.stateFor n).getD st) ModuleState.disabled.asStr

namespace Supervisor

variable (cfg : SupervisorConfig) (s : Supervisor) (name : String) {o : Attempt} {m : LoadedModule}

def announced : String → String := lastState s.published

def listed (n : String) : String := (s.listedState n).asStr

/-! ## What is announced -/

theorem announced_publish_state (st : ModuleState) (fields : List (String × String)) :
    (s.publish (s.stateEventWithFields name st fields)).announced =
      Function.update s.announced name st.shown := by
  funext n
  have happ : (s.publish (s.stateEventWithFields name st fields)).announced n =
      ((s.stateEventWithFields name st fields).stateFor n).getD (s.announced n) := by
    simp only [announced, publish, lastState, List.foldl_append, List.foldl_cons, List.foldl_nil]
  rw [happ]
  by_cases hn : n = name
  · subst hn
    rw [Function.update_self]
    cases st <;> simp [Event.stateFor, stateEventWithFields, ModuleState.asStr, ModuleState.shown]
  · rw [Function.update_of_ne hn]
    simp [Event.stateFor, stateEventWithFields, Ne.symm hn]

theorem announced_publish_stateEvent (st : ModuleState) :
    (s.publish (s.stateEvent name st)).announced = Function.update s.announced name st.shown :=
  announced_publish_state s name st []

theorem announced_publish_error (message : String) :
    (s.publish (s.errorEvent name message)).announced = s.announced := by
  funext n
  simp [announced, publish, lastState, List.foldl_append, Event.stateFor, errorEvent]

@[simp] theorem announced_call (i : InstanceId) (c : ModuleCall) :
    (s.call i c).announced = s.announced := rfl

@[simp] theorem announced_cancel (t : TokenId) : (s.cancel t).announced = s.announced := rfl

@[simp] theorem announced_put (m : LoadedModule) : (s.put name m).announced = s.announced := rfl

@[simp] theorem announced_allocate : s.allocate.announced = s.announced := rfl

@[simp] theorem announced_bumpLoadSeq : s.bumpLoadSeq.announced = s.announced := rfl

@[simp] theorem announced_addPersisted : (s.addPersisted name).announced = s.announced := rfl

@[simp] theorem announced_save (b : Bool) : (s.save b).announced = s.announced := by
  cases b <;> rfl

theorem announced_install (i : InstanceId) (a l : Nat) :
    (install cfg s name i a l).announced = Function.update s.announced name "running" :=
  announced_publish_stateEvent s name .running

theorem announced_initialized :
    (s.initialized name).announced = Function.update s.announced name "initializing" := by
  rw [initialized, announced_call, announced_publish_stateEvent, announced_allocate]
  rfl

@[simp] theorem announced_retire (m : LoadedModule) : (s.retire m).announced = s.announced := rfl

theorem announced_failLoad (i : InstanceId) (err : String) :
    (s.failLoad name i err).announced = Function.update s.announced name "disabled" := by
  simp only [failLoad, announced_publish_stateEvent, announced_publish_error, announced_call]
  rfl

theorem announced_failRestart (reason message : String) (i : InstanceId) :
    (s.failRestart name reason message i).announced = s.announced :=
  announced_publish_error s name message

theorem announced_load_of_succeeds (saved : Bool) (hl : s.loaded.lookup name = none)
    (ho : Attempt.Succeeds cfg name o) :
    (load cfg s name o saved).2.announced = Function.update s.announced name "running" := by
  obtain ⟨hi, h₁, h₂⟩ := ho
  simp only [load, hl, hi, h₁, h₂, announced_save, announced_addPersisted, announced_install,
    announced_bumpLoadSeq, announced_call, announced_publish_stateEvent, announced_allocate,
    Function.update_idem]

theorem announced_load_of_not (saved : Bool)
    (h : ¬ (s.loaded.lookup name = none ∧ Attempt.Succeeds cfg name o)) :
    (load cfg s name o saved).2.announced = s.announced ∨
      s.loaded.lookup name = none ∧
        (load cfg s name o saved).2.announced = Function.update s.announced name "disabled" := by
  refine load_of_not cfg s name saved h (fun _ => .inl rfl) (fun err hl _ => .inr ⟨hl, ?_⟩)
    fun err hl _ => .inr ⟨hl, ?_⟩
  · rw [announced_failLoad, announced_initialized, Function.update_idem]
  · rw [announced_failLoad, announced_call, announced_initialized, Function.update_idem]

theorem announced_stopLocked (hl : s.loaded.lookup name = some m) :
    (s.stopLocked name).announced = Function.update s.announced name "disabled" := by
  simp only [stopLocked, hl]
  show (((s.cancel m.healthCancel).publish _).call m.inst .stop |>.publish _).announced = _
  rw [announced_publish_stateEvent, announced_call, announced_publish_stateEvent,
    announced_cancel, Function.update_idem]
  rfl

theorem announced_reportFailure (reason : String) (src : Option InstanceId) (delay : Nat)
    (hl : s.loaded.lookup name = some m) :
    (reportFailure cfg s name reason src delay).announced =
      Function.update s.announced name (s.failedEntry cfg m).state.asStr := by
  by_cases hm : cfg.maxRestarts ≤ s.nextAttempt cfg m
  · simp only [reportFailure, hl, if_pos hm, announced_publish_error,
      announced_publish_stateEvent, announced_put, announced_cancel, failedEntry]
    rfl
  · simp only [reportFailure, hl, if_neg hm, failedEntry]
    exact announced_publish_state _ name .degraded _

theorem announced_performScheduledRestart_of_succeeds (hl : s.loaded.lookup name = some m)
    (ho : Attempt.Succeeds cfg name o) :
    (performScheduledRestart cfg s name o).announced =
      Function.update s.announced name "running" := by
  obtain ⟨hi, h₁, h₂⟩ := ho
  simp only [performScheduledRestart, hl, hi, h₁, h₂, announced_install, announced_call,
    announced_publish_stateEvent, announced_allocate, announced_cancel, Function.update_idem]

theorem announced_performScheduledRestart_of_not (hl : s.loaded.lookup name = some m)
    (ho : ¬ Attempt.Succeeds cfg name o) :
    (performScheduledRestart cfg s name o).announced =
      if Attempt.Instantiates cfg name o then Function.update s.announced name "initializing"
      else s.announced := by
  refine performScheduledRestart_of_not cfg s name hl ho (fun _ _ hi => ?_)
    (fun _ _ hi => ?_) fun _ _ hi => ?_
  · rw [announced_failRestart, announced_retire,
      if_neg (show ¬ Attempt.Instantiates cfg name o from hi)]
  · rw [announced_failRestart, announced_call, announced_initialized, announced_retire,
      if_pos (show Attempt.Instantiates cfg name o from hi)]
  · rw [announced_failRestart, announced_call, announced_call, announced_initialized,
      announced_retire, if_pos (show Attempt.Instantiates cfg name o from hi)]

theorem listed_of_none (hl : s.loaded.lookup name = none) : s.listed name = "disabled" := by
  rw [listed, listedState, hl]
  rfl

end Supervisor

section Listed

variable {s t : Supervisor} {name : String} {m : LoadedModule}

theorem listed_of_insert (h : t.loaded = s.loaded.insert name m) :
    t.listed = Function.update s.listed name m.state.asStr := by
  funext n
  by_cases hn : n = name
  · subst hn
    rw [Function.update_self, listed, listedState, h, AList.lookup_insert]
  · rw [Function.update_of_ne hn, listed, listed, listedState, listedState, h,
      AList.lookup_insert_ne hn]

theorem listed_of_erase (h : t.loaded = s.loaded.erase name) :
    t.listed = Function.update s.listed name "disabled" := by
  funext n
  by_cases hn : n = name
  · subst hn
    rw [Function.update_self, listed_of_none t n (h ▸ AList.lookup_erase n s.loaded)]
  · rw [Function.update_of_ne hn, listed, listed, listedState, listedState, h,
      AList.lookup_erase_ne hn]

theorem listed_of_eq (h : t.loaded = s.loaded) : t.listed = s.listed := by
  funext n
  rw [listed, listed, listedState, listedState, h]

end Listed

/-! ## One step and every run -/

def Consistent (s : Supervisor) : Prop := ∀ n, s.announced n = s.listed n

def RestartsCleanly (cfg : SupervisorConfig) (s : Supervisor) : Action → Prop
  | .timerFires x o =>
    s.loaded.lookup x.name ≠ none → Attempt.Instantiates cfg x.name o →
      Attempt.Succeeds cfg x.name o
  | _ => True

instance (cfg : SupervisorConfig) (s : Supervisor) : ∀ a, Decidable (RestartsCleanly cfg s a)
  | .timerFires _ _ => inferInstanceAs (Decidable (_ → _ → _))
  | .tick _ | .load _ _ _ | .unload _ _ | .startEnabled | .shutdown | .shutdownLocked
  | .reportFailure _ _ _ | .timerAbandoned _ | .restartReports _ _ | .pollWakes _ _
  | .pollApplies _ _ | .pollEnds _ => .isTrue trivial

/-- No entry is in the state that a restart announces first. -/
structure Shown (s : Supervisor) : Prop where
  consistent : s.announced = s.listed
  settled : ∀ n, s.listed n ≠ "initializing"

section Step

variable {cfg : SupervisorConfig} {s t : Supervisor} {a : Action} {name v : String}

variable (h : Shown s)
include h

theorem Shown.same (ha : t.announced = s.announced) (hl : t.listed = s.listed) :
    Shown t := ⟨ha.trans (h.consistent.trans hl.symm), hl ▸ h.settled⟩

theorem Shown.update (ha : t.announced = Function.update s.announced name v)
    (hl : t.listed = Function.update s.listed name v) (hv : v ≠ "initializing") : Shown t := by
  refine ⟨by rw [ha, hl, h.consistent], fun n => ?_⟩
  rw [hl]
  by_cases hn : n = name
  · rw [hn, Function.update_self]
    exact hv
  · rw [Function.update_of_ne hn]
    exact h.settled n

theorem Shown.load (name : String) (o : Attempt) (saved : Bool) :
    Shown (s.load cfg name o saved).2 := by
  by_cases hs : s.loaded.lookup name = none ∧ Attempt.Succeeds cfg name o
  · obtain ⟨es, hload⟩ := load_of_succeeds cfg s name saved hs.1 hs.2
    exact h.update (announced_load_of_succeeds cfg s name saved hs.1 hs.2)
      (listed_of_insert (congrArg loaded hload)) (by decide)
  · have hv := loaded_load_of_not cfg s name saved hs
    refine h.same ?_ (listed_of_eq hv)
    rcases announced_load_of_not cfg s name saved hs with ha | ⟨hl, ha⟩
    · exact ha
    · -- The name is not loaded, so `disabled` is what was announced for it before.
      have hd : s.announced name = "disabled" := by rw [h.consistent, listed_of_none s name hl]
      rw [ha, ← hd, Function.update_eq_self]

theorem Shown.stopLocked (name : String) : Shown (s.stopLocked name) := by
  cases hl : s.loaded.lookup name with
  | none => rwa [stopLocked_of_none s name hl]
  | some m =>
    exact h.update (announced_stopLocked s name hl) (listed_of_erase (loaded_stopLocked s name))
      (by decide)

theorem Shown.unload (name : String) (saved : Bool) : Shown (s.unload name saved) := by
  obtain ⟨names, file, hun⟩ := unload_frame s name saved
  rw [hun]
  exact (h.stopLocked name).same rfl rfl

theorem Shown.reportFailure (name reason : String) (src : Option InstanceId) (delay : Nat) :
    Shown (s.reportFailure cfg name reason src delay) := by
  cases hl : s.loaded.lookup name with
  | none => rwa [reportFailure_of_none cfg s name reason src delay hl]
  | some m =>
    obtain ⟨es, hr⟩ := reportFailure_of_some cfg s name reason src delay hl
    refine h.update (announced_reportFailure cfg s name reason src delay hl)
      (listed_of_insert (congrArg loaded hr)) ?_
    simp only [failedEntry]
    split <;> decide

theorem Shown.applyReport (r : HealthReading) (delay : Nat) :
    Shown (s.applyReport cfg r delay) := by
  fun_cases Supervisor.applyReport cfg s r delay with
  | case1 => exact h.reportFailure _ _ _ _
  | case2 =>
    fun_cases markDegraded s r.name with
    | case1 | case2 => exact h
    | case3 =>
      refine h.update ?_ (listed_of_insert rfl) (show "degraded" ≠ "initializing" by decide)
      exact announced_publish_stateEvent _ r.name .degraded
  | case3 =>
    fun_cases restoreRunningIfDegraded s r.name with
    | case2 =>
      refine h.update ?_ (listed_of_insert rfl) (show "running" ≠ "initializing" by decide)
      exact announced_publish_stateEvent _ r.name .running
    | case1 | case3 => exact h

theorem Shown.performScheduledRestart (name : String) (o : Attempt) :
    Shown (s.performScheduledRestart cfg name o) ∨
      s.loaded.lookup name ≠ none ∧ Attempt.Instantiates cfg name o ∧
        ¬ Attempt.Succeeds cfg name o ∧
        (s.performScheduledRestart cfg name o).announced name = "initializing" ∧
        (s.performScheduledRestart cfg name o).listed = s.listed := by
  cases hl : s.loaded.lookup name with
  | none =>
    rw [performScheduledRestart_of_none cfg s name o hl]
    exact .inl h
  | some m =>
    by_cases ho : Attempt.Succeeds cfg name o
    · obtain ⟨es, hr⟩ := performScheduledRestart_of_succeeds cfg s name hl ho
      exact .inl (h.update (announced_performScheduledRestart_of_succeeds cfg s name hl ho)
        (listed_of_insert (congrArg loaded hr)) (by decide))
    · have hv := loaded_performScheduledRestart_of_not cfg s name hl ho
      have ha := announced_performScheduledRestart_of_not cfg s name hl ho
      by_cases hi : Attempt.Instantiates cfg name o
      · rw [if_pos hi] at ha
        refine .inr ⟨Option.some_ne_none m, hi, ho, ?_, listed_of_eq hv⟩
        rw [ha, Function.update_self]
      · rw [if_neg hi] at ha
        exact .inl (h.same ha (listed_of_eq hv))

omit h

theorem shown_step (h : Shown s) (hstep : step cfg s a = some t) :
    Shown t ∧ RestartsCleanly cfg s a ∨ ¬ Consistent t ∧ ¬ RestartsCleanly cfg s a := by
  cases acts_of_step hstep with
  | tick d | startEnabled | shutdown | timerAbandoned x | pollWakes x report | pollEnds x =>
    exact .inl ⟨h.same rfl rfl, trivial⟩
  | load n o saved =>
    exact .inl ⟨h.load n o saved, trivial⟩
  | unload n saved =>
    exact .inl ⟨h.unload n saved, trivial⟩
  | shutdownLocked =>
    exact .inl ⟨shutdownLocked_induction (fun u n hu => hu.stopLocked n) h, trivial⟩
  | reportFailure n reason delay =>
    exact .inl ⟨h.reportFailure n reason none delay, trivial⟩
  | timerFires x o =>
    have hs : Shown (s.dropTimer x) := h.same rfl rfl
    rcases hs.performScheduledRestart x.name o with hsh | ⟨hl, hi, ho, ha, hli⟩
    · by_cases hc : RestartsCleanly cfg s (.timerFires x o)
      · exact .inl ⟨hsh, hc⟩
      · -- A restart that is not clean announces `initializing`, which no entry is in.
        simp only [RestartsCleanly, not_forall] at hc
        obtain ⟨hl, hi, ho⟩ := hc
        obtain ⟨m, hm⟩ := Option.ne_none_iff_exists'.mp hl
        have ha := announced_performScheduledRestart_of_not cfg (s.dropTimer x) x.name hm ho
        rw [if_pos hi, hsh.consistent] at ha
        exact absurd (by rw [ha, Function.update_self]) (hsh.settled x.name)
    · refine .inr ⟨fun hc => ?_, fun hc => ho (hc hl hi)⟩
      have hn := hc x.name
      rw [ha, hli] at hn
      exact hs.settled x.name hn.symm
  | restartReports f delay =>
    have hs : Shown (s.dropFailedRestart f) := h.same rfl rfl
    exact .inl ⟨hs.reportFailure f.name f.reason (some f.old) delay, trivial⟩
  | pollApplies r delay =>
    have hs : Shown (s.dropReading r) := h.same rfl rfl
    exact .inl ⟨(hs.applyReport r delay).same rfl rfl, trivial⟩

end Step

def ConsistentAfter (cfg : SupervisorConfig) (s : Supervisor) (a : Action) : Prop :=
  ∀ t ∈ step cfg s a, Consistent t

def failsAndRestarts (o : Attempt) : List Action :=
  [.load "alpha" succeeding true, .reportFailure "alpha" "crashed" 100000000, .tick 100000000,
    .timerFires ⟨"alpha", 100000000, 0⟩ o]

end Penguind.Daemon
