import Penguind.Daemon.Ledger
import Penguind.Daemon.RestartBudget

/-!
# Every instance that was initialised is current or was stopped

The lifecycle calls of the supervisor are read as a log: an instance is up from its `start` to the
next `stop`. No two of one name are up at once.
-/

namespace Penguind.Daemon

open Foundation Supervisor

/-! ## The log of the lifecycle calls -/

def ModuleCall.leavesUp (c : ModuleCall) (was : Bool) : Bool :=
  match c with
  | .init => was
  | .start => true
  | .stop => false

def up (i : InstanceId) (calls : List (InstanceId × ModuleCall)) : Bool :=
  calls.foldl (fun b c => if c.1 = i then c.2.leavesUp b else b) false

section Log

variable {i j : InstanceId} {c : ModuleCall} {calls : List (InstanceId × ModuleCall)}

theorem up_concat_self (i : InstanceId) (c : ModuleCall)
    (calls : List (InstanceId × ModuleCall)) :
    up i (calls ++ [(i, c)]) = c.leavesUp (up i calls) := by
  simp [up, List.foldl_append]

theorem up_concat_ne (h : j ≠ i) (c : ModuleCall) (calls : List (InstanceId × ModuleCall)) :
    up i (calls ++ [(j, c)]) = up i calls := by
  simp [up, List.foldl_append, h]

theorem exists_mem_of_up (h : up i calls = true) : ∃ c ∈ calls, c.1 = i := by
  induction calls using List.reverseRecOn with
  | nil => cases h
  | append_singleton calls c ih =>
    obtain ⟨j, c⟩ := c
    by_cases hj : j = i
    · exact ⟨(j, c), List.mem_append_right _ (List.mem_singleton_self _), hj⟩
    · rw [up_concat_ne hj] at h
      obtain ⟨d, hd, hi⟩ := ih h
      exact ⟨d, List.mem_append_left _ hd, hi⟩

/-- At most one of the instances made for a name is up. -/
def OneUp (madeFor : List String) (calls : List (InstanceId × ModuleCall)) : Prop :=
  ∀ cs, cs <+: calls → ∀ i j n, madeFor[i]? = some n → madeFor[j]? = some n →
    up i cs = true → up j cs = true → i = j

variable {madeFor : List String}

theorem OneUp.concat (h : OneUp madeFor calls)
    (hc : c = .start → ∀ i n, madeFor[i]? = some n → madeFor[j]? = some n → i ≠ j →
      up i calls = false) :
    OneUp madeFor (calls ++ [(j, c)]) := by
  -- What is up after the call was up before it, unless it is `j` and the call is a `start`.
  have hup : ∀ x, up x (calls ++ [(j, c)]) = true → up x calls = true ∨ x = j ∧ c = .start := by
    intro x hx
    by_cases hj : j = x
    · subst hj
      rw [up_concat_self] at hx
      cases c with
      | init => exact .inl hx
      | start => exact .inr ⟨rfl, rfl⟩
      | stop => cases hx
    · rw [up_concat_ne hj] at hx
      exact .inl hx
  intro cs hcs x y n hxn hyn hx hy
  rcases List.prefix_concat_iff.mp hcs with rfl | hcs
  · by_contra hne
    rcases hup x hx with hx' | ⟨rfl, rfl⟩
    · rcases hup y hy with hy' | ⟨rfl, rfl⟩
      · exact hne (h calls List.prefix_rfl x y n hxn hyn hx' hy')
      · cases hx'.symm.trans (hc rfl x n hxn hyn hne)
    · rcases hup y hy with hy' | ⟨rfl, -⟩
      · cases hy'.symm.trans (hc rfl y n hyn hxn (Ne.symm hne))
      · exact hne rfl
  · exact h cs hcs x y n hxn hyn hx hy

def Down (madeFor : List String) (calls : List (InstanceId × ModuleCall)) (n : String) : Prop :=
  ∀ i, madeFor[i]? = some n → up i calls = false

theorem up_append_ne (h : j ≠ i) (cs : List ModuleCall)
    (calls : List (InstanceId × ModuleCall)) :
    up i (calls ++ cs.map fun c => (j, c)) = up i calls := by
  induction cs using List.reverseRecOn with
  | nil => rw [List.map_nil, List.append_nil]
  | append_singleton cs c ih =>
    rw [List.map_append, List.map_singleton, ← List.append_assoc, up_concat_ne h, ih]

theorem OneUp.attempt {n : String} (h : OneUp madeFor calls) (hd : Down madeFor calls n)
    (hj : madeFor[j]? = some n) (cs : List ModuleCall) :
    OneUp madeFor (calls ++ cs.map fun c => (j, c)) := by
  induction cs using List.reverseRecOn with
  | nil => rwa [List.map_nil, List.append_nil]
  | append_singleton cs c ih =>
    rw [List.map_append, List.map_singleton, ← List.append_assoc]
    refine ih.concat fun _ i n' hi hj' hij => ?_
    obtain rfl : n' = n := Option.mem_unique hj' hj
    rw [up_append_ne (Ne.symm hij)]
    exact hd i hi

theorem OneUp.make (h : OneUp madeFor calls) (hcalls : ∀ c ∈ calls, c.1 < madeFor.length)
    (name : String) : OneUp (madeFor ++ [name]) calls := by
  -- Whatever is up has had a call, so it is an instance that had its name before.
  have hold : ∀ cs, cs <+: calls → ∀ x n, (madeFor ++ [name])[x]? = some n → up x cs = true →
      madeFor[x]? = some n := by
    intro cs hcs x n hx hup
    obtain ⟨c, hc, rfl⟩ := exists_mem_of_up hup
    rwa [List.getElem?_append_left (hcalls c (hcs.subset hc))] at hx
  intro cs hcs x y n hxn hyn hx hy
  exact h cs hcs x y n (hold cs hcs x n hxn hx) (hold cs hcs y n hyn hy) hx hy

end Log

/-! ## The log and the current instances -/

/-- What the log says about the instances. -/
structure Accounted (current : String → Option InstanceId) (madeFor : List String)
    (calls : List (InstanceId × ModuleCall)) : Prop where
  called : ∀ c ∈ calls, c.1 < madeFor.length
  owners : ∀ n, ∀ i ∈ current n, madeFor[i]? = some n
  inits : ∀ i, (i, .init) ∈ calls → (∃ n, current n = some i) ∨ (i, .stop) ∈ calls
  ups : ∀ i, up i calls = true → ∃ n, current n = some i
  oneUp : OneUp madeFor calls

namespace Accounted

variable {current : String → Option InstanceId} {madeFor : List String}
  {calls : List (InstanceId × ModuleCall)} {n : String} {i : InstanceId}

theorem nil : Accounted (fun _ => none) [] [] where
  called _ h := nomatch h
  owners _ _ h := nomatch h
  inits _ h := nomatch h
  ups _ h := nomatch h
  oneUp cs hcs i j n hi _ _ _ := by simp at hi

variable (h : Accounted current madeFor calls)
include h

theorem stop (hi : current n = some i) : Accounted current madeFor (calls ++ [(i, .stop)]) where
  called := List.forall_mem_append.mpr ⟨h.called,
    List.forall_mem_singleton.mpr (List.getElem?_eq_some_iff.mp (h.owners n i hi)).1⟩
  owners := h.owners
  inits j hj := by
    rcases List.mem_append.mp hj with hj | hj
    · exact (h.inits j hj).imp_right (List.mem_append_left _)
    · cases List.mem_singleton.mp hj
  ups j hj := by
    by_cases hij : i = j
    · rw [hij, up_concat_self] at hj
      cases hj
    · rw [up_concat_ne hij] at hj
      exact h.ups j hj
  oneUp := h.oneUp.concat nofun

theorem forget (hi : current n = some i) (hstop : (i, .stop) ∈ calls) (hup : up i calls = false) :
    Accounted (Function.update current n none) madeFor calls where
  called := h.called
  owners x j hj := by
    by_cases hx : x = n
    · rw [hx, Function.update_self] at hj
      cases hj
    · rw [Function.update_of_ne hx] at hj
      exact h.owners x j hj
  inits j hj := by
    rcases h.inits j hj with ⟨x, hx⟩ | hj
    · by_cases hxn : x = n
      · subst hxn
        obtain rfl : i = j := Option.mem_unique hi hx
        exact .inr hstop
      · exact .inl ⟨x, by rwa [Function.update_of_ne hxn]⟩
    · exact .inr hj
  ups j hj := by
    obtain ⟨x, hx⟩ := h.ups j hj
    refine ⟨x, ?_⟩
    rw [Function.update_of_ne, hx]
    rintro rfl
    obtain rfl : i = j := Option.mem_unique hi hx
    cases hj.symm.trans hup
  oneUp := h.oneUp

theorem down (hn : ∀ i ∈ current n, up i calls = false) : Down madeFor calls n := by
  intro j hj
  refine Bool.eq_false_iff.mpr fun hup => ?_
  obtain ⟨x, hx⟩ := h.ups j hup
  -- The instance that is up is current under the name it was made for.
  obtain rfl : x = n := Option.some.inj ((h.owners x j hx).symm.trans hj)
  cases hup.symm.trans (hn j hx)

theorem make (hd : Down madeFor calls n) :
    OneUp (madeFor ++ [n]) calls ∧ Down (madeFor ++ [n]) calls n := by
  refine ⟨h.oneUp.make h.called n, fun i hi => ?_⟩
  refine Bool.eq_false_iff.mpr fun hup => ?_
  obtain ⟨c, hc, rfl⟩ := exists_mem_of_up hup
  rw [List.getElem?_append_left (h.called c hc)] at hi
  cases hup.symm.trans (hd c.1 hi)

theorem called_append (n : String) (cs : List ModuleCall) :
    ∀ c ∈ calls ++ cs.map fun c => (madeFor.length, c), c.1 < (madeFor ++ [n]).length := by
  intro c hc
  rw [List.length_append, List.length_singleton]
  rcases List.mem_append.mp hc with hc | hc
  · exact Nat.lt_succ_of_lt (h.called c hc)
  · obtain ⟨d, -, rfl⟩ := List.mem_map.mp hc
    exact Nat.lt_succ_self _

theorem owners_append (n : String) : ∀ x, ∀ i ∈ current x, (madeFor ++ [n])[i]? = some x := by
  intro x i hi
  have hx := h.owners x i hi
  rwa [List.getElem?_append_left (List.getElem?_eq_some_iff.mp hx).1]

omit h

theorem getElem?_made (madeFor : List String) (n : String) :
    (madeFor ++ [n])[madeFor.length]? = some n := by
  rw [List.getElem?_append_right le_rfl, Nat.sub_self]
  rfl

theorem fail (h : Accounted current madeFor calls) (hd : Down madeFor calls n)
    (cs : List ModuleCall) :
    Accounted current (madeFor ++ [n])
      (calls ++ (cs ++ [ModuleCall.stop]).map fun c => (madeFor.length, c)) where
  called := h.called_append n _
  owners := h.owners_append n
  inits j hj := by
    rcases List.mem_append.mp hj with hj | hj
    · exact (h.inits j hj).imp_right (List.mem_append_left _)
    · obtain ⟨c, -, hc⟩ := List.mem_map.mp hj
      obtain ⟨rfl, -⟩ := Prod.mk.inj hc
      refine .inr (List.mem_append_right _ ?_)
      exact List.mem_map.mpr ⟨.stop, List.mem_append_right _ (List.mem_singleton_self _), rfl⟩
  ups j hj := by
    by_cases hij : madeFor.length = j
    · rw [List.map_append, List.map_singleton, ← List.append_assoc, hij, up_concat_self] at hj
      cases hj
    · rw [up_append_ne hij] at hj
      exact h.ups j hj
  oneUp := by
    obtain ⟨h₁, h₂⟩ := h.make hd
    exact h₁.attempt h₂ (getElem?_made madeFor n) _

theorem bringUp (h : Accounted current madeFor calls) (hd : Down madeFor calls n)
    (hstop : ∀ i ∈ current n, (i, .stop) ∈ calls) :
    Accounted (Function.update current n (some madeFor.length)) (madeFor ++ [n])
      (calls ++ [(madeFor.length, .init), (madeFor.length, .start)]) where
  called := h.called_append n [.init, .start]
  owners x i hi := by
    by_cases hx : x = n
    · subst hx
      rw [Function.update_self] at hi
      cases hi
      exact getElem?_made madeFor x
    · rw [Function.update_of_ne hx] at hi
      exact h.owners_append n x i hi
  inits j hj := by
    rcases List.mem_append.mp hj with hj | hj
    · rcases h.inits j hj with ⟨x, hx⟩ | hj
      · by_cases hxn : x = n
        · subst hxn
          exact .inr (List.mem_append_left _ (hstop j hx))
        · exact .inl ⟨x, by rwa [Function.update_of_ne hxn]⟩
      · exact .inr (List.mem_append_left _ hj)
    · obtain rfl : j = madeFor.length := by simpa using hj
      exact .inl ⟨n, Function.update_self _ _ _⟩
  ups j hj := by
    by_cases hij : madeFor.length = j
    · exact ⟨n, by rw [Function.update_self, hij]⟩
    · have hj' : up j calls = true := (up_append_ne hij [.init, .start] calls).symm.trans hj
      obtain ⟨x, hx⟩ := h.ups j hj'
      refine ⟨x, ?_⟩
      rw [Function.update_of_ne, hx]
      rintro rfl
      cases hj'.symm.trans (hd j (h.owners x j hx))
  oneUp := by
    obtain ⟨h₁, h₂⟩ := h.make hd
    exact h₁.attempt h₂ (getElem?_made madeFor n) [.init, .start]

end Accounted

/-! ## The supervisor -/

def currentIn : (AList fun _ : String => LoadedModule) → String → Option InstanceId :=
  fieldIn LoadedModule.inst

theorem currentIn_insert (l : AList fun _ : String => LoadedModule) (n : String)
    (m : LoadedModule) :
    currentIn (l.insert n m) = Function.update (currentIn l) n (some m.inst) :=
  fieldIn_insert LoadedModule.inst l n m

theorem currentIn_erase (l : AList fun _ : String => LoadedModule) (n : String) :
    currentIn (l.erase n) = Function.update (currentIn l) n none :=
  fieldIn_erase LoadedModule.inst l n

/-- The name each instance was made for. -/
def noteMade (s : Supervisor) (a : Action) (t : Supervisor) (madeFor : List String) :
    List String :=
  if t.nextInstance = s.nextInstance then madeFor else madeFor ++ a.subject.toList

def Supervisor.Accounted (s : Supervisor) (madeFor : List String) : Prop :=
  madeFor.length = s.nextInstance ∧ Daemon.Accounted (currentIn s.loaded) madeFor s.calls

section Step

variable {cfg : SupervisorConfig} {s u : Supervisor} {madeFor : List String} {n : String}

theorem Supervisor.Accounted.quiet (hs : s.Accounted madeFor) (hc : u.calls = s.calls)
    (hv : currentIn u.loaded = currentIn s.loaded) (hn : u.nextInstance = s.nextInstance)
    (a : Action) : u.Accounted (noteMade s a u madeFor) := by
  rw [noteMade, if_pos hn]
  refine ⟨hs.1.trans hn.symm, ?_⟩
  rw [hc, hv]
  exact hs.2

theorem Accounted.attempt {current : String → Option InstanceId}
    {calls : List (InstanceId × ModuleCall)} (h : Accounted current madeFor calls)
    (hd : Down madeFor calls n) {o : Attempt} (ho : ¬ Attempt.Succeeds cfg n o) :
    Accounted current (if Attempt.Instantiates cfg n o then madeFor ++ [n] else madeFor)
      (calls ++ Attempt.calls cfg n o madeFor.length) := by
  rcases Attempt.calls_of_not ho madeFor.length with ⟨hi, hc⟩ | ⟨hi, hc | hc⟩
  · rw [if_neg hi, hc, List.append_nil]
    exact h
  · rw [if_pos hi, hc]
    exact h.fail hd [.init]
  · rw [if_pos hi, hc]
    exact h.fail hd [.init, .start]

theorem Accounted.stopLocked (h : Accounted (currentIn u.loaded) madeFor u.calls)
    (n : String) :
    Accounted (currentIn (u.stopLocked n).loaded) madeFor (u.stopLocked n).calls := by
  cases hl : u.loaded.lookup n with
  | none => rwa [stopLocked_of_none u n hl]
  | some m =>
    have hm : currentIn u.loaded n = some m.inst := fieldIn_of_some hl
    rw [loaded_stopLocked, calls_stopLocked u n hl, currentIn_erase]
    refine (h.stop hm).forget hm ?_ (up_concat_self _ _ _)
    exact List.mem_append_right _ (List.mem_singleton_self _)

theorem noteMade_attempt {o : Attempt} {a : Action} (ha : a.subject = some n)
    (hn : u.nextInstance =
      if Attempt.Instantiates cfg n o then s.nextInstance + 1 else s.nextInstance) :
    noteMade s a u madeFor =
      if Attempt.Instantiates cfg n o then madeFor ++ [n] else madeFor := by
  rw [noteMade, ha]
  by_cases hi : Attempt.Instantiates cfg n o
  · rw [if_pos hi] at hn
    rw [if_pos hi, hn, if_neg (Nat.succ_ne_self _)]
    rfl
  · rw [if_neg hi] at hn
    rw [if_neg hi, if_pos hn]

theorem length_noteMade {o : Attempt} (hs : s.Accounted madeFor)
    (hn : u.nextInstance =
      if Attempt.Instantiates cfg n o then s.nextInstance + 1 else s.nextInstance) :
    (if Attempt.Instantiates cfg n o then madeFor ++ [n] else madeFor).length =
      u.nextInstance := by
  rw [hn]
  split
  · rw [List.length_append, List.length_singleton, hs.1]
  · exact hs.1

theorem accounted_load (hs : s.Accounted madeFor) (n : String) (o : Attempt) (saved : Bool) :
    (s.load cfg n o saved).2.Accounted
      (noteMade s (.load n o saved) (s.load cfg n o saved).2 madeFor) := by
  cases hl : s.loaded.lookup n with
  | some m =>
    rw [load_of_some cfg s n o saved hl]
    exact hs.quiet rfl rfl rfl _
  | none =>
    have hn := nextInstance_load cfg s n o saved hl
    have hnone : currentIn s.loaded n = none := fieldIn_of_none hl
    have hd : Down madeFor s.calls n := hs.2.down fun i hi => nomatch hnone.symm.trans hi
    rw [noteMade_attempt rfl hn]
    refine ⟨length_noteMade hs hn, ?_⟩
    rw [calls_load cfg s n o saved hl, ← hs.1]
    by_cases ho : Attempt.Succeeds cfg n o
    · obtain ⟨es, h⟩ := load_of_succeeds cfg s n saved hl ho
      have he : s.loadedEntry.inst = madeFor.length := hs.1.symm
      rw [h, currentIn_insert, he, Attempt.calls_of_succeeds ho,
        if_pos (show Attempt.Instantiates cfg n o from ho.1)]
      exact hs.2.bringUp hd fun i hi => nomatch hnone.symm.trans hi
    · rw [loaded_load_of_not cfg s n saved fun h => ho h.2]
      exact hs.2.attempt hd ho

theorem accounted_performScheduledRestart (hs : s.Accounted madeFor) (x : RestartTimer)
    (o : Attempt) :
    (s.performScheduledRestart cfg x.name o).Accounted
      (noteMade s (.timerFires x o) (s.performScheduledRestart cfg x.name o) madeFor) := by
  cases hl : s.loaded.lookup x.name with
  | none =>
    rw [performScheduledRestart_of_none cfg s x.name o hl]
    exact hs.quiet rfl rfl rfl _
  | some m =>
    have hn := nextInstance_performScheduledRestart cfg s x.name o hl
    have hm : currentIn s.loaded x.name = some m.inst := fieldIn_of_some hl
    -- The old instance is stopped first, so nothing of the name is up when the new one starts.
    have hs' := hs.2.stop hm
    have hdown : ∀ i ∈ currentIn s.loaded x.name, up i (s.calls ++ [(m.inst, .stop)]) = false := by
      intro i hi
      obtain rfl : m.inst = i := Option.mem_unique hm hi
      exact up_concat_self _ _ _
    rw [noteMade_attempt rfl hn]
    refine ⟨length_noteMade hs hn, ?_⟩
    rw [calls_performScheduledRestart cfg s x.name o hl, ← hs.1, List.append_cons s.calls]
    by_cases ho : Attempt.Succeeds cfg x.name o
    · obtain ⟨es, h⟩ := performScheduledRestart_of_succeeds cfg s x.name hl ho
      have he : (s.restartedEntry m).inst = madeFor.length := hs.1.symm
      rw [h, currentIn_insert, he, Attempt.calls_of_succeeds ho,
        if_pos (show Attempt.Instantiates cfg x.name o from ho.1)]
      refine hs'.bringUp (hs'.down hdown) fun i hi => ?_
      obtain rfl : m.inst = i := Option.mem_unique hm hi
      exact List.mem_append_right _ (List.mem_singleton_self _)
    · rw [loaded_performScheduledRestart_of_not cfg s x.name hl ho]
      exact hs'.attempt (hs'.down hdown) ho

end Step

theorem accounted_step {cfg : SupervisorConfig} {s t : Supervisor} {madeFor : List String}
    {a : Action} (hs : s.Accounted madeFor) (h : step cfg s a = some t) :
    t.Accounted (noteMade s a t madeFor) := by
  cases acts_of_step h with
  | tick d | startEnabled | shutdown | timerAbandoned x | pollWakes x report | pollEnds x =>
    exact hs.quiet rfl rfl rfl _
  | load n o saved =>
    exact accounted_load hs n o saved
  | unload n saved =>
    obtain ⟨names, file, hun⟩ := unload_frame s n saved
    have hn := nextInstance_stopLocked s n
    rw [hun, noteMade, if_pos hn]
    exact ⟨hs.1.trans hn.symm, hs.2.stopLocked n⟩
  | shutdownLocked =>
    -- Every stop of the shutdown keeps the log accounted for, in whatever order they come.
    obtain ⟨hn, h⟩ := shutdownLocked_induction (P := fun u => u.nextInstance = s.nextInstance ∧
        Daemon.Accounted (currentIn u.loaded) madeFor u.calls)
      (fun u n hu => ⟨(nextInstance_stopLocked u n).trans hu.1, hu.2.stopLocked n⟩) ⟨rfl, hs.2⟩
    rw [noteMade, if_pos hn]
    exact ⟨hs.1.trans hn.symm, h⟩
  | reportFailure n reason delay =>
    have h := untouched_reportFailure cfg s n reason none delay
    exact hs.quiet h.calls (fieldIn_reportFailure _ _ _ (fun _ _ _ => rfl) ..) h.nextInstance _
  | timerFires x o =>
    have hs' : (s.dropTimer x).Accounted madeFor := hs
    exact accounted_performScheduledRestart hs' x o
  | restartReports f delay =>
    have h := untouched_reportFailure cfg (s.dropFailedRestart f) f.name f.reason (some f.old) delay
    exact hs.quiet h.calls
      (fieldIn_reportFailure cfg (s.dropFailedRestart f) _ (fun _ _ _ => rfl) ..) h.nextInstance _
  | pollApplies r delay =>
    have h := untouched_applyReport cfg (s.dropReading r) r delay
    exact hs.quiet h.calls (fieldIn_applyReport cfg (s.dropReading r) (fun _ _ _ => rfl) r delay)
      h.nextInstance _

theorem accounted_run {cfg : SupervisorConfig} {file : EnabledFile} {as : List Action}
    {t : Supervisor} {madeFor : List String}
    (hr : run (ghost (step cfg) noteMade) (.new file, []) as = some (t, madeFor)) :
    t.Accounted madeFor := by
  have hnew : (Supervisor.new file).Accounted [] := ⟨rfl, .nil⟩
  refine run_invariant_of_step (I := fun s => s.1.Accounted s.2) (fun s a u hs h => ?_) hnew hr
  obtain ⟨v, hv, rfl⟩ := ghost_eq_some.mp h
  exact accounted_step hs hv

/-- **Every instance is accounted for**, no two of one name are up, and a failed load changes
nothing. -/
theorem instances_accounted_for {cfg : SupervisorConfig} {file : EnabledFile} {as : List Action}
    {t : Supervisor} {madeFor : List String}
    (hr : run (ghost (step cfg) noteMade) (.new file, []) as = some (t, madeFor)) :
    (∀ i, (i, .init) ∈ t.calls →
        (∃ n m, t.loaded.lookup n = some m ∧ m.inst = i) ∨ (i, .stop) ∈ t.calls) ∧
      (∀ cs, cs <+: t.calls → ∀ i j n, madeFor[i]? = some n → madeFor[j]? = some n →
        up i cs = true → up j cs = true → i = j) ∧
      ∀ n o saved err, (t.load cfg n o saved).1 = .error err →
        (t.load cfg n o saved).2.loaded = t.loaded ∧
          (t.load cfg n o saved).2.persisted = t.persisted ∧
          (t.load cfg n o saved).2.enabledFile = t.enabledFile := by
  have ht := accounted_run hr
  refine ⟨fun i hi => ?_, ht.2.oneUp, fun n o saved err he => ?_⟩
  · refine (ht.2.inits i hi).imp_left fun ⟨n, hn⟩ => ?_
    obtain ⟨m, hm, hi⟩ := Option.map_eq_some_iff.mp hn
    exact ⟨n, m, hm, hi⟩
  · have ho : ¬ (t.loaded.lookup n = none ∧ Attempt.Succeeds cfg n o) :=
      fun h => (load_eq_error cfg t n he).2 h.2
    have hkept := Prod.mk.inj (kept_load_of_not cfg t n saved ho)
    exact ⟨loaded_load_of_not cfg t n saved ho, hkept.1, hkept.2⟩

def bumpyRun : List Action :=
  [.load "alpha" notStarting true, .load "alpha" succeeding true,
    .reportFailure "alpha" "crashed" 100000000, .tick 100000000,
    .timerFires ⟨"alpha", 100000000, 1⟩ notStarting,
    .restartReports ⟨"alpha", "restart start failed", 1⟩ 200000000, .tick 200000000,
    .timerFires ⟨"alpha", 300000000, 1⟩ succeeding, .unload "alpha" true]

theorem bumpyRun_isSome :
    (run (ghost (step oneModule) noteMade) (.new .absent, []) bumpyRun).isSome = true := by
  decide +kernel

theorem instances_accounted_for_bumpyRun :
    ((run (ghost (step oneModule) noteMade) (.new .absent, []) bumpyRun).get
        bumpyRun_isSome).1.calls =
        [(0, .init), (0, .start), (0, .stop), (1, .init), (1, .start), (1, .stop), (2, .init),
          (2, .start), (2, .stop), (1, .stop), (3, .init), (3, .start), (3, .stop)] ∧
      ∀ cs, cs <+: ((run (ghost (step oneModule) noteMade) (.new .absent, []) bumpyRun).get
          bumpyRun_isSome).1.calls →
        up 1 cs = true → up 3 cs = true → False := by
  refine ⟨by decide +kernel, fun cs hcs h₁ h₃ => ?_⟩
  have h := (instances_accounted_for (Option.some_get bumpyRun_isSome).symm).2.1 cs hcs 1 3
    "alpha" (by decide +kernel) (by decide +kernel) h₁ h₃
  exact absurd h (by decide)

end Penguind.Daemon
