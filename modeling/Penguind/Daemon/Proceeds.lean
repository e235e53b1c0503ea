import Penguind.Daemon.Instances

/-!
# What a step may do to the instances

What a step may do to the instances, as one relation between the states before and after: new ones
have new numbers, and one that is initialised or was current is current afterwards or was stopped.
-/

namespace Penguind.Daemon

open Supervisor

/-- New instances have new numbers, and initialised ones become current or are stopped. -/
structure Proceeds (s t : Supervisor) : Prop where
  instances : s.nextInstance ≤ t.nextInstance
  current : ∀ n i, currentIn t.loaded n = some i →
    (∃ x, currentIn s.loaded x = some i) ∨ i < t.nextInstance
  calls : s.calls ⊆ t.calls
  called : ∀ c ∈ t.calls,
    c ∈ s.calls ∨ (∃ x, currentIn s.loaded x = some c.1) ∨ c.1 < t.nextInstance
  inits : ∀ i, (i, .init) ∈ t.calls →
    (i, .init) ∈ s.calls ∨ (∃ n, currentIn t.loaded n = some i) ∨ (i, .stop) ∈ t.calls
  leaves : ∀ n i, currentIn s.loaded n = some i →
    (∃ x, currentIn t.loaded x = some i) ∨ (i, .stop) ∈ t.calls

structure Numbered (s : Supervisor) : Prop where
  current : ∀ n i, currentIn s.loaded n = some i → i < s.nextInstance
  called : ∀ c ∈ s.calls, c.1 < s.nextInstance

section Instances

variable {cfg : SupervisorConfig} {s t : Supervisor}

theorem Numbered.proceeds (hs : Numbered s) (h : Proceeds s t) : Numbered t where
  current n i hi := by
    rcases h.current n i hi with ⟨x, hx⟩ | hlt
    · exact (hs.current x i hx).trans_le h.instances
    · exact hlt
  called c hc := by
    rcases h.called c hc with hc | ⟨x, hx⟩ | hlt
    · exact (hs.called c hc).trans_le h.instances
    · exact (hs.current x c.1 hx).trans_le h.instances
    · exact hlt

theorem Proceeds.keeps_inits (h : Proceeds s t) {broken : List (InstanceId × ModuleCall)}
    (hs : ∀ i, (i, .init) ∈ s.calls ++ broken →
      (∃ n, currentIn s.loaded n = some i) ∨ (i, .stop) ∈ s.calls) :
    ∀ i, (i, .init) ∈ t.calls ++ broken →
      (∃ n, currentIn t.loaded n = some i) ∨ (i, .stop) ∈ t.calls := by
  have hold : ∀ i, (i, .init) ∈ s.calls ++ broken →
      (∃ n, currentIn t.loaded n = some i) ∨ (i, .stop) ∈ t.calls := by
    intro i hi
    rcases hs i hi with ⟨n, hn⟩ | hstop
    · exact h.leaves n i hn
    · exact .inr (h.calls hstop)
  intro i hi
  rcases List.mem_append.mp hi with hi | hi
  · rcases h.inits i hi with hi | hnew
    · exact hold i (List.mem_append_left _ hi)
    · exact hnew
  · exact hold i (List.mem_append_right _ hi)

namespace Proceeds

theorem quiet (hc : t.calls = s.calls) (hv : currentIn t.loaded = currentIn s.loaded)
    (hn : t.nextInstance = s.nextInstance) : Proceeds s t where
  instances := hn.ge
  current n _ hi := .inl ⟨n, hv ▸ hi⟩
  calls := hc ▸ List.Subset.refl _
  called _ h := .inl (hc ▸ h)
  inits _ h := .inl (hc ▸ h)
  leaves n _ hi := .inl ⟨n, hv.symm ▸ hi⟩

theorem append {cs : List (InstanceId × ModuleCall)} (hc : t.calls = s.calls ++ cs)
    (hn : s.nextInstance ≤ t.nextInstance)
    (hcur : ∀ n i, currentIn t.loaded n = some i →
      (∃ x, currentIn s.loaded x = some i) ∨ i < t.nextInstance)
    (hcs : ∀ c ∈ cs, (∃ x, currentIn s.loaded x = some c.1) ∨ c.1 < t.nextInstance)
    (hinit : ∀ i, (i, .init) ∈ cs → (∃ n, currentIn t.loaded n = some i) ∨ (i, .stop) ∈ cs)
    (hleave : ∀ n i, currentIn s.loaded n = some i →
      (∃ x, currentIn t.loaded x = some i) ∨ (i, .stop) ∈ cs) : Proceeds s t where
  instances := hn
  current := hcur
  calls := hc ▸ List.subset_append_left _ _
  called c h := by
    rw [hc] at h
    exact (List.mem_append.mp h).imp_right (hcs c)
  inits i h := by
    rw [hc] at h ⊢
    exact (List.mem_append.mp h).imp_right fun h =>
      (hinit i h).imp_right (List.mem_append_right _)
  leaves n i hi := by
    rw [hc]
    exact (hleave n i hi).imp_right (List.mem_append_right _)

theorem stopLocked (s : Supervisor) (n : String) : Proceeds s (s.stopLocked n) := by
  cases hl : s.loaded.lookup n with
  | none =>
    rw [stopLocked_of_none s n hl]
    exact quiet rfl rfl rfl
  | some m =>
    have hm : currentIn s.loaded n = some m.inst := fieldIn_of_some hl
    obtain ⟨es, h⟩ := stopLocked_of_some s n hl
    rw [h]
    refine append rfl le_rfl (fun x i hi => .inl ⟨x, ?_⟩) (fun c hc => ?_) (fun i hi => ?_)
      fun x i hi => ?_
    · dsimp only at hi
      rw [currentIn_erase] at hi
      by_cases hx : x = n
      · rw [hx, Function.update_self] at hi
        cases hi
      · rwa [Function.update_of_ne hx] at hi
    · rw [List.mem_singleton.mp hc]
      exact .inl ⟨n, hm⟩
    · cases List.mem_singleton.mp hi
    · dsimp only
      rw [currentIn_erase]
      by_cases hx : x = n
      · subst hx
        obtain rfl : m.inst = i := Option.mem_unique hm hi
        exact .inr (List.mem_singleton_self _)
      · exact .inl ⟨x, by rwa [Function.update_of_ne hx]⟩

theorem bringUp {n : String} {m' : LoadedModule} (cs : List (InstanceId × ModuleCall))
    (hv : t.loaded = s.loaded.insert n m') (hm' : m'.inst = s.nextInstance)
    (hn : t.nextInstance = s.nextInstance + 1)
    (hc : t.calls = s.calls ++ (cs ++ [(s.nextInstance, .init), (s.nextInstance, .start)]))
    (hcs : ∀ c ∈ cs, c.2 = .stop ∧ currentIn s.loaded n = some c.1)
    (hstop : ∀ i, currentIn s.loaded n = some i → (i, .stop) ∈ cs) : Proceeds s t := by
  have hlt : s.nextInstance < t.nextInstance := hn ▸ Nat.lt_succ_self _
  have hcur : currentIn t.loaded n = some s.nextInstance := by
    rw [hv, currentIn_insert, Function.update_self, hm']
  have hother : ∀ x, x ≠ n → currentIn t.loaded x = currentIn s.loaded x := by
    intro x hx
    rw [hv, currentIn_insert, Function.update_of_ne hx]
  refine append hc hlt.le (fun x i hi => ?_) (fun c hc => ?_) (fun i hi => ?_) fun x i hi => ?_
  · by_cases hx : x = n
    · subst hx
      obtain rfl : s.nextInstance = i := Option.mem_unique hcur hi
      exact .inr hlt
    · exact .inl ⟨x, (hother x hx).symm.trans hi⟩
  · rcases List.mem_append.mp hc with hc | hc
    · exact .inl ⟨n, (hcs c hc).2⟩
    · rcases List.mem_pair.mp hc with rfl | rfl <;> exact .inr hlt
  · rcases List.mem_append.mp hi with hi | hi
    · cases (hcs _ hi).1
    · obtain rfl : i = s.nextInstance := by simpa using hi
      exact .inl ⟨n, hcur⟩
  · by_cases hx : x = n
    · exact .inr (List.mem_append_left _ (hstop i (hx ▸ hi)))
    · exact .inl ⟨x, (hother x hx).trans hi⟩

theorem fail {n : String} {o : Attempt} (cs : List (InstanceId × ModuleCall))
    (ho : ¬ Attempt.Succeeds cfg n o) (hv : t.loaded = s.loaded)
    (hn : t.nextInstance =
      if Attempt.Instantiates cfg n o then s.nextInstance + 1 else s.nextInstance)
    (hc : t.calls = s.calls ++ (cs ++ Attempt.calls cfg n o s.nextInstance))
    (hcs : ∀ c ∈ cs, c.2 = .stop ∧ currentIn s.loaded n = some c.1) : Proceeds s t := by
  refine append hc ?_ (fun x i hi => .inl ⟨x, hv ▸ hi⟩) (fun c hc => ?_) (fun i hi => ?_)
    fun x i hi => .inl ⟨x, hv.symm ▸ hi⟩
  · rw [hn]
    split
    · exact Nat.le_succ _
    · exact le_rfl
  · rcases List.mem_append.mp hc with hc | hc
    · exact .inl ⟨n, (hcs c hc).2⟩
    · obtain ⟨hi, he⟩ := Attempt.of_mem_calls hc
      refine .inr ?_
      rw [hn, if_pos hi, he]
      exact Nat.lt_succ_self _
  · rcases List.mem_append.mp hi with hi | hi
    · cases (hcs _ hi).1
    · exact .inr (List.mem_append_right _ (Attempt.stop_mem_calls ho hi))

theorem load (s : Supervisor) (n : String) (o : Attempt) (saved : Bool) :
    Proceeds s (s.load cfg n o saved).2 := by
  cases hl : s.loaded.lookup n with
  | some m =>
    rw [load_of_some cfg s n o saved hl]
    exact quiet rfl rfl rfl
  | none =>
    have hnone : currentIn s.loaded n = none := fieldIn_of_none hl
    by_cases ho : Attempt.Succeeds cfg n o
    · obtain ⟨es, h⟩ := load_of_succeeds cfg s n saved hl ho
      rw [h]
      exact bringUp [] rfl rfl rfl rfl nofun fun i hi => nomatch hnone.symm.trans hi
    · exact fail [] ho (loaded_load_of_not cfg s n saved fun h => ho h.2)
        (nextInstance_load cfg s n o saved hl) (calls_load cfg s n o saved hl) nofun

theorem performScheduledRestart (s : Supervisor) (n : String) (o : Attempt) :
    Proceeds s (s.performScheduledRestart cfg n o) := by
  cases hl : s.loaded.lookup n with
  | none =>
    rw [performScheduledRestart_of_none cfg s n o hl]
    exact quiet rfl rfl rfl
  | some m =>
    have hm : currentIn s.loaded n = some m.inst := fieldIn_of_some hl
    have hcs : ∀ c ∈ [(m.inst, ModuleCall.stop)], c.2 = .stop ∧ currentIn s.loaded n = some c.1 :=
      List.forall_mem_singleton.mpr ⟨rfl, hm⟩
    by_cases ho : Attempt.Succeeds cfg n o
    · obtain ⟨es, h⟩ := performScheduledRestart_of_succeeds cfg s n hl ho
      rw [h]
      refine bringUp [(m.inst, .stop)] rfl rfl rfl rfl hcs fun i hi => ?_
      rw [Option.mem_unique hm hi]
      exact List.mem_singleton_self _
    · exact fail [(m.inst, .stop)] ho (loaded_performScheduledRestart_of_not cfg s n hl ho)
        (nextInstance_performScheduledRestart cfg s n o hl)
        (calls_performScheduledRestart cfg s n o hl) hcs

end Proceeds

end Instances

theorem Proceeds.trans {s u t : Supervisor} (h : Proceeds s u) (k : Proceeds u t) :
    Proceeds s t where
  instances := h.instances.trans k.instances
  current n i hi := by
    rcases k.current n i hi with ⟨x, hx⟩ | hlt
    · exact (h.current x i hx).imp_right fun hlt => hlt.trans_le k.instances
    · exact .inr hlt
  calls := List.Subset.trans h.calls k.calls
  called c hc := by
    rcases k.called c hc with hc | ⟨x, hx⟩ | hlt
    · exact (h.called c hc).imp_right (Or.imp_right fun hlt => hlt.trans_le k.instances)
    · exact .inr ((h.current x c.1 hx).imp_right fun hlt => hlt.trans_le k.instances)
    · exact .inr (.inr hlt)
  inits i hi := by
    rcases k.inits i hi with hi | hi
    · rcases h.inits i hi with hi | ⟨n, hn⟩ | hi
      · exact .inl hi
      · exact .inr (k.leaves n i hn)
      · exact .inr (.inr (k.calls hi))
    · exact .inr hi
  leaves n i hi := by
    rcases h.leaves n i hi with ⟨x, hx⟩ | hi
    · exact k.leaves x i hx
    · exact .inr (k.calls hi)

theorem proceeds_step {cfg : SupervisorConfig} {s t : Supervisor} {a : Action}
    (h : step cfg s a = some t) : Proceeds s t := by
  cases acts_of_step h with
  | tick d | startEnabled | shutdown | timerAbandoned x | pollWakes x report | pollEnds x =>
    exact .quiet rfl rfl rfl
  | load n o saved =>
    exact .load s n o saved
  | unload n saved =>
    obtain ⟨names, file, hun⟩ := unload_frame s n saved
    rw [hun]
    exact (Proceeds.stopLocked s n).trans (.quiet rfl rfl rfl)
  | shutdownLocked =>
    exact shutdownLocked_induction (P := Proceeds s) (fun u n hu => hu.trans (.stopLocked u n))
      (.quiet rfl rfl rfl)
  | reportFailure n reason delay =>
    have h := untouched_reportFailure cfg s n reason none delay
    exact .quiet h.calls (fieldIn_reportFailure _ _ _ (fun _ _ _ => rfl) ..) h.nextInstance
  | timerFires x o =>
    have hdrop : Proceeds s (s.dropTimer x) := .quiet rfl rfl rfl
    exact hdrop.trans (.performScheduledRestart (s.dropTimer x) x.name o)
  | restartReports f delay =>
    have h := untouched_reportFailure cfg (s.dropFailedRestart f) f.name f.reason (some f.old) delay
    exact .quiet h.calls
      (fieldIn_reportFailure cfg (s.dropFailedRestart f) _ (fun _ _ _ => rfl) ..) h.nextInstance
  | pollApplies r delay =>
    have h := untouched_applyReport cfg (s.dropReading r) r delay
    exact .quiet h.calls (fieldIn_applyReport cfg (s.dropReading r) (fun _ _ _ => rfl) r delay)
      h.nextInstance

end Penguind.Daemon
