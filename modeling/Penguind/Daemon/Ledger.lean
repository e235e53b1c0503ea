import Penguind.Daemon.SupervisorSpec

/-!
# What the supervisor's functions call and save

Beside the entries, a lifecycle function leaves the calls it makes into module instances and what
it does to the enabled set. There is one equation per function for each.
-/

namespace Penguind.Daemon

/-! ## One field of the entries -/

section Field

variable {β : Type} {f : LoadedModule → β} {l : AList fun _ : String => LoadedModule}
  {n : String} {m m' : LoadedModule}

def fieldIn (f : LoadedModule → β) (l : AList fun _ : String => LoadedModule) (n : String) :
    Option β :=
  (l.lookup n).map f

theorem fieldIn_of_some (hl : l.lookup n = some m) : fieldIn f l n = some (f m) := by
  rw [fieldIn, hl]
  rfl

theorem fieldIn_of_none (hl : l.lookup n = none) : fieldIn f l n = none := by
  rw [fieldIn, hl]
  rfl

theorem fieldIn_insert (f : LoadedModule → β) (l : AList fun _ : String => LoadedModule)
    (n : String) (m : LoadedModule) :
    fieldIn f (l.insert n m) = Function.update (fieldIn f l) n (some (f m)) := by
  funext x
  by_cases hx : x = n
  · subst hx
    rw [Function.update_self, fieldIn_of_some (AList.lookup_insert l)]
  · rw [Function.update_of_ne hx, fieldIn, AList.lookup_insert_ne hx]
    rfl

theorem fieldIn_insert_same (hl : l.lookup n = some m) (hf : f m' = f m) :
    fieldIn f (l.insert n m') = fieldIn f l := by
  rw [fieldIn_insert, hf, ← fieldIn_of_some hl, Function.update_eq_self]

theorem fieldIn_erase (f : LoadedModule → β) (l : AList fun _ : String => LoadedModule)
    (n : String) : fieldIn f (l.erase n) = Function.update (fieldIn f l) n none := by
  funext x
  by_cases hx : x = n
  · subst hx
    rw [Function.update_self, fieldIn_of_none (AList.lookup_erase x l)]
  · rw [Function.update_of_ne hx, fieldIn, AList.lookup_erase_ne hx]
    rfl

end Field

namespace Supervisor

variable (cfg : SupervisorConfig) (s : Supervisor) (name : String) {o : Attempt} {m : LoadedModule}

def Attempt.calls (o : Attempt) (i : InstanceId) : List (InstanceId × ModuleCall) :=
  match instantiate cfg name o with
  | .error _ => []
  | .ok () =>
    match o.init with
    | .error _ => [(i, .init), (i, .stop)]
    | .ok () =>
      match o.start with
      | .error _ => [(i, .init), (i, .start), (i, .stop)]
      | .ok () => [(i, .init), (i, .start)]

def Attempt.Instantiates (o : Attempt) : Prop := instantiate cfg name o = .ok ()

instance (o : Attempt) : Decidable (Attempt.Instantiates cfg name o) :=
  inferInstanceAs (Decidable (_ = _))

variable {cfg name}

theorem Attempt.calls_of_succeeds (h : Attempt.Succeeds cfg name o) (i : InstanceId) :
    Attempt.calls cfg name o i = [(i, .init), (i, .start)] := by
  obtain ⟨hi, h₁, h₂⟩ := h
  simp only [Attempt.calls, hi, h₁, h₂]

theorem Attempt.calls_of_not (h : ¬ Attempt.Succeeds cfg name o) (i : InstanceId) :
    ¬ Attempt.Instantiates cfg name o ∧ Attempt.calls cfg name o i = [] ∨
      Attempt.Instantiates cfg name o ∧
        (Attempt.calls cfg name o i = [(i, .init), (i, .stop)] ∨
          Attempt.calls cfg name o i = [(i, .init), (i, .start), (i, .stop)]) := by
  cases hi : instantiate cfg name o with
  | error e =>
    refine .inl ⟨?_, by simp only [Attempt.calls, hi]⟩
    rw [Attempt.Instantiates, hi]
    exact nofun
  | ok =>
    refine .inr ⟨hi, ?_⟩
    cases h₁ : o.init with
    | error e => exact .inl (by simp only [Attempt.calls, hi, h₁])
    | ok =>
      cases h₂ : o.start with
      | error e => exact .inr (by simp only [Attempt.calls, hi, h₁, h₂])
      | ok => exact absurd ⟨hi, h₁, h₂⟩ h

theorem Attempt.of_mem_calls {i : InstanceId} {c : InstanceId × ModuleCall}
    (h : c ∈ Attempt.calls cfg name o i) : Attempt.Instantiates cfg name o ∧ c.1 = i := by
  by_cases ho : Attempt.Succeeds cfg name o
  · rw [Attempt.calls_of_succeeds ho] at h
    refine ⟨ho.1, ?_⟩
    rcases List.mem_pair.mp h with rfl | rfl <;> rfl
  · rcases Attempt.calls_of_not ho i with ⟨-, hc⟩ | ⟨hi, hc | hc⟩
    all_goals rw [hc] at h
    · cases h
    · refine ⟨hi, ?_⟩
      rcases List.mem_pair.mp h with rfl | rfl <;> rfl
    · refine ⟨hi, ?_⟩
      simp only [List.mem_cons, List.not_mem_nil, or_false] at h
      rcases h with rfl | rfl | rfl <;> rfl

theorem Attempt.stop_mem_calls (ho : ¬ Attempt.Succeeds cfg name o) {i j : InstanceId}
    (h : (j, .init) ∈ Attempt.calls cfg name o i) :
    (j, .stop) ∈ Attempt.calls cfg name o i := by
  obtain ⟨-, rfl⟩ := Attempt.of_mem_calls h
  rcases Attempt.calls_of_not ho j with ⟨-, hc⟩ | ⟨-, hc | hc⟩
  all_goals rw [hc] at h ⊢
  · cases h
  · simp
  · simp

variable (cfg name)

theorem load_of_some (o : Attempt) (saved : Bool) (hl : s.loaded.lookup name = some m) :
    load cfg s name o saved = (.ok m.state, s) := by
  simp only [load, hl]

theorem calls_load (o : Attempt) (saved : Bool) (hl : s.loaded.lookup name = none) :
    (load cfg s name o saved).2.calls = s.calls ++ Attempt.calls cfg name o s.nextInstance := by
  cases hi : instantiate cfg name o with
  | error e => simp only [load, hl, hi, Attempt.calls, List.append_nil]
  | ok =>
    cases h₁ : o.init with
    | error e => simp [load, hl, hi, h₁, Attempt.calls, failLoad, publish, call, allocate]
    | ok =>
      cases h₂ : o.start with
      | error e => simp [load, hl, hi, h₁, h₂, Attempt.calls, failLoad, publish, call, allocate]
      | ok =>
        obtain ⟨es, h⟩ := load_of_succeeds cfg s name saved hl ⟨hi, h₁, h₂⟩
        rw [h, Attempt.calls_of_succeeds ⟨hi, h₁, h₂⟩]

theorem calls_stopLocked (hl : s.loaded.lookup name = some m) :
    (s.stopLocked name).calls = s.calls ++ [(m.inst, .stop)] := by
  simp only [stopLocked, hl]
  rfl

theorem calls_performScheduledRestart (o : Attempt) (hl : s.loaded.lookup name = some m) :
    (performScheduledRestart cfg s name o).calls =
      s.calls ++ (m.inst, .stop) :: Attempt.calls cfg name o s.nextInstance := by
  cases hi : instantiate cfg name o with
  | error e =>
    simp [performScheduledRestart, hl, hi, Attempt.calls, failRestart, publish, call, cancel]
  | ok =>
    cases h₁ : o.init with
    | error e =>
      simp [performScheduledRestart, hl, hi, h₁, Attempt.calls, failRestart, publish, call, cancel,
        allocate]
    | ok =>
      cases h₂ : o.start with
      | error e =>
        simp [performScheduledRestart, hl, hi, h₁, h₂, Attempt.calls, failRestart, publish, call,
          cancel, allocate]
      | ok =>
        obtain ⟨es, h⟩ := performScheduledRestart_of_succeeds cfg s name hl ⟨hi, h₁, h₂⟩
        rw [h, Attempt.calls_of_succeeds ⟨hi, h₁, h₂⟩]

theorem mem_calls_performScheduledRestart {i : InstanceId} {c : ModuleCall}
    (h : (i, c) ∈ (performScheduledRestart cfg s name o).calls.drop s.calls.length) :
    (∃ m, s.loaded.lookup name = some m ∧ i = m.inst) ∨ i = s.nextInstance := by
  cases hl : s.loaded.lookup name with
  | none => simp [performScheduledRestart_of_none cfg s name o hl] at h
  | some m =>
    rw [calls_performScheduledRestart cfg s name o hl, List.drop_left, List.mem_cons] at h
    rcases h with h | h
    · exact .inl ⟨m, rfl, congrArg Prod.fst h⟩
    · exact .inr (Attempt.of_mem_calls h).2

theorem nextInstance_load (o : Attempt) (saved : Bool) (hl : s.loaded.lookup name = none) :
    (load cfg s name o saved).2.nextInstance =
      if Attempt.Instantiates cfg name o then s.nextInstance + 1 else s.nextInstance := by
  by_cases ho : Attempt.Succeeds cfg name o
  · obtain ⟨es, h⟩ := load_of_succeeds cfg s name saved hl ho
    rw [h, if_pos (show Attempt.Instantiates cfg name o from ho.1)]
  · refine load_of_not cfg s name saved (fun h => ho h.2) (fun hn => (if_neg (hn hl)).symm)
      (fun err _ hi => ?_) fun err _ hi => ?_
    all_goals exact (if_pos (show Attempt.Instantiates cfg name o from hi)).symm

theorem nextInstance_performScheduledRestart (o : Attempt) (hl : s.loaded.lookup name = some m) :
    (performScheduledRestart cfg s name o).nextInstance =
      if Attempt.Instantiates cfg name o then s.nextInstance + 1 else s.nextInstance := by
  by_cases ho : Attempt.Succeeds cfg name o
  · obtain ⟨es, h⟩ := performScheduledRestart_of_succeeds cfg s name hl ho
    rw [h, if_pos (show Attempt.Instantiates cfg name o from ho.1)]
  · refine performScheduledRestart_of_not cfg s name hl ho (fun _ _ hi => (if_neg hi).symm)
      (fun _ _ hi => ?_) fun _ _ hi => ?_
    all_goals exact (if_pos (show Attempt.Instantiates cfg name o from hi)).symm

section Field

variable {β : Type} {f : LoadedModule → β}

theorem fieldIn_reportFailure
    (hf : ∀ m a st, f { m with restartAttempt := a, state := st } = f m) (reason : String)
    (src : Option InstanceId) (delay : Nat) :
    fieldIn f (reportFailure cfg s name reason src delay).loaded = fieldIn f s.loaded := by
  cases hl : s.loaded.lookup name with
  | none => rw [reportFailure_of_none cfg s name reason src delay hl]
  | some m =>
    obtain ⟨es, h⟩ := reportFailure_of_some cfg s name reason src delay hl
    rw [h]
    exact fieldIn_insert_same hl (hf m _ _)

theorem fieldIn_applyReport
    (hf : ∀ m a st, f { m with restartAttempt := a, state := st } = f m) (r : HealthReading)
    (delay : Nat) :
    fieldIn f (applyReport cfg s r delay).loaded = fieldIn f s.loaded := by
  rcases view_applyReport cfg s r delay with ⟨-, h⟩ | ⟨-, h | ⟨m, st, hl, -, h⟩⟩
  · rw [h]
    exact fieldIn_reportFailure cfg s _ hf _ _ _
  · exact congrArg (fun v : View => fieldIn f v.loaded) h
  · rw [show (applyReport cfg s r delay).loaded = _ from congrArg View.loaded h]
    exact fieldIn_insert_same hl (hf m m.restartAttempt st)

end Field

def counters : Nat × TokenId := (s.loadSeq, s.nextToken)

theorem counters_stopLocked : (s.stopLocked name).counters = s.counters := by
  unfold stopLocked
  split <;> rfl

theorem counters_shutdownLocked : s.shutdownLocked.counters = s.counters := by
  refine shutdownLocked_induction (P := fun u => u.counters = s.counters) (fun u n hu => ?_) rfl
  rw [counters_stopLocked, hu]

/-! ## The enabled set -/

def kept : Finset String × EnabledFile := (s.persisted, s.enabledFile)

def keptAfter (names : Finset String) (saved : Bool) : Finset String × EnabledFile :=
  (names, if saved then .enabled names else s.enabledFile)

theorem kept_load_of_succeeds (saved : Bool) (hl : s.loaded.lookup name = none)
    (ho : Attempt.Succeeds cfg name o) :
    (load cfg s name o saved).2.kept = s.keptAfter (insert name s.persisted) saved := by
  obtain ⟨es, h⟩ := load_of_succeeds cfg s name saved hl ho
  rw [h]
  rfl

theorem kept_load_of_not (saved : Bool)
    (h : ¬ (s.loaded.lookup name = none ∧ Attempt.Succeeds cfg name o)) :
    (load cfg s name o saved).2.kept = s.kept := by
  obtain ⟨k, cs, es, -, hload⟩ := load_frame_of_not cfg s name saved h
  rw [hload]
  rfl

theorem load_eq_error {saved : Bool} {err : SupervisorError}
    (h : (load cfg s name o saved).1 = .error err) :
    s.loaded.lookup name = none ∧ ¬ Attempt.Succeeds cfg name o := by
  cases hl : s.loaded.lookup name with
  | some m => simp [load, hl] at h
  | none =>
    refine ⟨rfl, fun ho => ?_⟩
    obtain ⟨hi, h₁, h₂⟩ := ho
    simp [load, hl, hi, h₁, h₂] at h

theorem kept_stopLocked : (s.stopLocked name).kept = s.kept := by
  unfold stopLocked
  split <;> rfl

theorem kept_unload_of_some (saved : Bool) (hl : s.loaded.lookup name = some m) :
    (s.unload name saved).kept = s.keptAfter (s.persisted.erase name) saved := by
  have hk := kept_stopLocked s name
  simp only [kept, Prod.mk.injEq] at hk
  simp only [unload, hl, kept, keptAfter, save, removePersisted]
  cases saved <;> simp [hk]

theorem unload_of_none (saved : Bool) (hl : s.loaded.lookup name = none) :
    s.unload name saved = s := by
  simp only [unload, hl]

theorem kept_shutdownLocked : s.shutdownLocked.kept = s.kept := by
  refine shutdownLocked_induction (P := fun u => u.kept = s.kept) (fun u n hu => ?_) rfl
  rw [kept_stopLocked, hu]

theorem kept_performScheduledRestart (o : Attempt) :
    (performScheduledRestart cfg s name o).kept = s.kept ∧
      (performScheduledRestart cfg s name o).loadSeq = s.loadSeq := by
  cases hl : s.loaded.lookup name with
  | none =>
    rw [performScheduledRestart_of_none cfg s name o hl]
    exact ⟨rfl, rfl⟩
  | some m =>
    by_cases ho : Attempt.Succeeds cfg name o
    · obtain ⟨es, h⟩ := performScheduledRestart_of_succeeds cfg s name hl ho
      rw [h]
      exact ⟨rfl, rfl⟩
    · obtain ⟨reason, k, cs, es, -, h⟩ := performScheduledRestart_frame_of_not cfg s name hl ho
      rw [h]
      exact ⟨rfl, rfl⟩

/-! ## What a failure does not touch -/

structure Untouched (t : Supervisor) : Prop where
  calls : t.calls = s.calls
  nextInstance : t.nextInstance = s.nextInstance
  counters : t.counters = s.counters
  kept : t.kept = s.kept

theorem untouched_reportFailure (reason : String) (src : Option InstanceId) (delay : Nat) :
    Untouched s (reportFailure cfg s name reason src delay) := by
  fun_cases reportFailure cfg s name reason src delay <;> exact ⟨rfl, rfl, rfl, rfl⟩

theorem untouched_applyReport (r : HealthReading) (delay : Nat) :
    Untouched s (applyReport cfg s r delay) := by
  unfold applyReport
  split
  · exact untouched_reportFailure cfg s _ _ _ _
  · fun_cases markDegraded s r.name <;> exact ⟨rfl, rfl, rfl, rfl⟩
  · fun_cases restoreRunningIfDegraded s r.name <;> exact ⟨rfl, rfl, rfl, rfl⟩

end Supervisor

open Supervisor

def Action.OnEnabledSet : Action → Prop
  | .load _ _ _ | .unload _ _ | .startEnabled => True
  | _ => False

theorem kept_step {cfg : SupervisorConfig} {s t : Supervisor} {a : Action}
    (h : step cfg s a = some t) (ha : ¬ a.OnEnabledSet) : t.kept = s.kept := by
  cases acts_of_step h with
  | tick d | shutdown | timerAbandoned x | pollWakes x report | pollEnds x => rfl
  | load n o saved | unload n saved | startEnabled => exact absurd trivial ha
  | shutdownLocked =>
    exact kept_shutdownLocked s
  | reportFailure n reason delay =>
    exact (untouched_reportFailure cfg s n reason none delay).kept
  | timerFires x o =>
    exact (kept_performScheduledRestart cfg (s.dropTimer x) x.name o).1
  | restartReports f delay =>
    exact (untouched_reportFailure cfg (s.dropFailedRestart f) ..).kept
  | pollApplies r delay =>
    exact (untouched_applyReport cfg (s.dropReading r) r delay).kept

end Penguind.Daemon
