import Penguind.Daemon.Proceeds
import Penguind.Daemon.Tending

/-!
# Calls that are dropped while they wait

A load or an unload runs inside a request, and the future of a request is dropped when its client
goes away: it stops at the await point it has reached. The machine is the supervisor's, with a
label for each such point.
-/

namespace Penguind.Daemon

open Foundation Supervisor

inductive LoadPoint
  | lock
  /-- The external loader is asked for the plugin. -/
  | instantiate
  | init
  | stopAfterInit
  | start
  | stopAfterStart
  deriving DecidableEq, Repr

namespace LoadPoint

def made : LoadPoint → List ModuleCall
  | .lock | .instantiate | .init => []
  | .stopAfterInit | .start => [.init]
  | .stopAfterStart => [.init, .start]

def awaited : LoadPoint → Option ModuleCall
  | .lock | .instantiate => none
  | .init => some .init
  | .start => some .start
  | .stopAfterInit | .stopAfterStart => some .stop

def Reached (cfg : SupervisorConfig) (s : Supervisor) (name : String) (o : Attempt) :
    LoadPoint → Prop
  | .lock => True
  | .instantiate => s.loaded.lookup name = none ∧ name ∉ cfg.registry ∧ cfg.external = true
  | .init => s.loaded.lookup name = none ∧ Attempt.Instantiates cfg name o
  | .stopAfterInit =>
    s.loaded.lookup name = none ∧ Attempt.Instantiates cfg name o ∧ o.init ≠ .ok ()
  | .start => s.loaded.lookup name = none ∧ Attempt.Instantiates cfg name o ∧ o.init = .ok ()
  | .stopAfterStart =>
    s.loaded.lookup name = none ∧ Attempt.Instantiates cfg name o ∧ o.init = .ok () ∧
      o.start ≠ .ok ()

instance (cfg : SupervisorConfig) (s : Supervisor) (name : String) (o : Attempt) :
    ∀ p, Decidable (Reached cfg s name o p)
  | .lock => .isTrue trivial
  | .instantiate | .stopAfterInit | .start => inferInstanceAs (Decidable (_ ∧ _ ∧ _))
  | .init => inferInstanceAs (Decidable (_ ∧ _))
  | .stopAfterStart => inferInstanceAs (Decidable (_ ∧ _ ∧ _ ∧ _))

end LoadPoint

inductive UnloadPoint
  | lock
  | stop
  deriving DecidableEq, Repr

/-- The supervisor, and the calls that were begun and dropped. -/
structure Interrupted where
  sup : Supervisor
  broken : List (InstanceId × ModuleCall)

namespace Interrupted

def dropLoad (d : Interrupted) (name : String) (p : LoadPoint) : Interrupted :=
  match p.awaited with
  | none => d
  | some c =>
    let inst := d.sup.nextInstance
    let s := d.sup.allocate
    let s := s.publish (s.stateEvent name .initializing)
    -- No entry is written yet, so the instance is known to nobody but the dropped future.
    ⟨{ s with calls := s.calls ++ p.made.map fun c => (inst, c) }, d.broken ++ [(inst, c)]⟩

def dropUnload (d : Interrupted) (name : String) (p : UnloadPoint) : Interrupted :=
  match p, d.sup.loaded.lookup name with
  | .stop, some m =>
    -- The poll loop has been cancelled, and the entry would have been removed after `stop`.
    let s := d.sup.cancel m.healthCancel
    let s := s.publish (s.stateEvent name .stopping)
    ⟨s, d.broken ++ [(m.inst, .stop)]⟩
  | _, _ => d

end Interrupted

inductive RequestAction
  | act (a : Action)
  | dropLoad (name : String) (o : Attempt) (p : LoadPoint)
  | dropUnload (name : String) (p : UnloadPoint)
  deriving DecidableEq

def RequestAction.Drops : RequestAction → Prop
  | .act _ => False
  | .dropLoad _ _ _ | .dropUnload _ _ => True

instance : ∀ a, Decidable (RequestAction.Drops a)
  | .act _ => .isFalse id
  | .dropLoad _ _ _ | .dropUnload _ _ => .isTrue trivial

def requestStep (cfg : SupervisorConfig) (d : Interrupted) : RequestAction → Option Interrupted
  | .act a => (step cfg d.sup a).map fun s => ⟨s, d.broken⟩
  | .dropLoad name o p => if p.Reached cfg d.sup name o then some (d.dropLoad name p) else none
  | .dropUnload name p =>
    if p = .stop → d.sup.loaded.lookup name ≠ none then some (d.dropUnload name p) else none

namespace Interrupted

/-- Every instance that was initialised is current or has been stopped. -/
def Cleared (d : Interrupted) : Prop :=
  ∀ i, (i, .init) ∈ d.sup.calls ++ d.broken →
    (∃ n, currentIn d.sup.loaded n = some i) ∨ (i, .stop) ∈ d.sup.calls

structure Sound (d : Interrupted) : Prop where
  cleared : d.Cleared
  polled : ∀ n m, d.sup.loaded.lookup n = some m → m.state = .running →
    m.healthCancel ∉ d.sup.cancelled ∧ d.sup.polling.Covers n m.inst m.healthCancel

end Interrupted

/-- A load is dropped only before its instance exists, an unload only before it has the lock. -/
def Harmless (cfg : SupervisorConfig) (d : Interrupted) : RequestAction → Prop
  | .act a => TendsRunning cfg d.sup a
  | .dropLoad _ _ p => p.awaited = none
  | .dropUnload name p => p = .stop → ∀ m ∈ d.sup.loaded.lookup name, m.state ≠ .running

structure Interrupted.Kept (d : Interrupted) : Prop where
  numbered : Numbered d.sup
  polled : Polled d.sup

section Step

variable {cfg : SupervisorConfig} {d t : Interrupted} {a : RequestAction}

theorem Interrupted.dropLoad_of_some {p : LoadPoint} {c : ModuleCall} (hp : p.awaited = some c)
    (name : String) :
    (d.dropLoad name p).sup.calls = d.sup.calls ++ p.made.map (fun c => (d.sup.nextInstance, c)) ∧
      (d.dropLoad name p).broken = d.broken ++ [(d.sup.nextInstance, c)] ∧
      (d.dropLoad name p).sup.loaded = d.sup.loaded ∧
      (d.dropLoad name p).sup.polling = d.sup.polling ∧
      (d.dropLoad name p).sup.nextToken = d.sup.nextToken ∧
      (d.dropLoad name p).sup.nextInstance = d.sup.nextInstance + 1 := by
  unfold dropLoad
  rw [hp]
  exact ⟨rfl, rfl, rfl, rfl, rfl, rfl⟩

theorem Interrupted.dropUnload_of_some {name : String} {m : LoadedModule}
    (hl : d.sup.loaded.lookup name = some m) :
    (d.dropUnload name .stop).sup.calls = d.sup.calls ∧
      (d.dropUnload name .stop).broken = d.broken ++ [(m.inst, .stop)] ∧
      (d.dropUnload name .stop).sup.loaded = d.sup.loaded ∧
      (d.dropUnload name .stop).sup.polling =
        { d.sup.polling with cancelled := m.healthCancel :: d.sup.cancelled } ∧
      (d.dropUnload name .stop).sup.nextToken = d.sup.nextToken ∧
      (d.dropUnload name .stop).sup.nextInstance = d.sup.nextInstance := by
  unfold dropUnload
  rw [hl]
  exact ⟨rfl, rfl, rfl, rfl, rfl, rfl⟩

namespace Interrupted.Kept

theorem dropLoad (hd : d.Kept) (name : String) (p : LoadPoint) : (d.dropLoad name p).Kept := by
  cases hp : p.awaited with
  | none =>
    simp only [Interrupted.dropLoad, hp]
    exact hd
  | some c =>
    obtain ⟨hc, -, hl, hw, hk, hn⟩ := d.dropLoad_of_some hp name
    refine ⟨⟨fun x i hi => ?_, fun c hmem => ?_⟩, hd.polled.move hl ?_ hk fun _ _ _ _ h => ?_⟩
    · rw [hl] at hi
      rw [hn]
      exact Nat.lt_succ_of_lt (hd.numbered.current x i hi)
    · rw [hc] at hmem
      rw [hn]
      rcases List.mem_append.mp hmem with hmem | hmem
      · exact Nat.lt_succ_of_lt (hd.numbered.called c hmem)
      · obtain ⟨c', -, rfl⟩ := List.mem_map.mp hmem
        exact Nat.lt_succ_self _
    · exact congrArg Polling.cancelled hw
    · rwa [hw]

theorem tends_dropUnload {name : String} {m : LoadedModule}
    (hl : d.sup.loaded.lookup name = some m) :
    Tends name d.sup (d.dropUnload name .stop).sup := by
  obtain ⟨-, -, hv, hw, hk, -⟩ := d.dropUnload_of_some hl
  refine .of_cancel [m.healthCancel] hw (fun k h => ?_) hk (fun x _ => ?_) fun m' hm' => ?_
  · exact ⟨m, hl, List.mem_singleton.mp h⟩
  · rw [hv]
  · rw [hv] at hm'
    exact ⟨m', hm', rfl, rfl⟩

theorem dropUnload (hd : d.Kept) {name : String} {m : LoadedModule}
    (hl : d.sup.loaded.lookup name = some m) : (d.dropUnload name .stop).Kept := by
  obtain ⟨hc, -, hv, -, -, hn⟩ := d.dropUnload_of_some hl
  refine ⟨hd.numbered.proceeds (.quiet hc ?_ hn), hd.polled.tends (tends_dropUnload hl)⟩
  rw [hv]

end Interrupted.Kept

theorem requestStep_dropUnload {name : String} {p : UnloadPoint}
    (h : requestStep cfg d (.dropUnload name p) = some t) :
    p = .lock ∧ t = d ∨
      p = .stop ∧ ∃ m, d.sup.loaded.lookup name = some m ∧ t = d.dropUnload name .stop := by
  simp only [requestStep, Option.ite_none_right_eq_some, Option.some.injEq] at h
  obtain ⟨hl, rfl⟩ := h
  cases p with
  | lock => exact .inl ⟨rfl, rfl⟩
  | stop =>
    obtain ⟨m, hm⟩ := Option.ne_none_iff_exists'.mp (hl rfl)
    exact .inr ⟨rfl, m, hm, rfl⟩

theorem requestStep_dropLoad {name : String} {o : Attempt} {p : LoadPoint}
    (h : requestStep cfg d (.dropLoad name o p) = some t) : t = d.dropLoad name p := by
  simp only [requestStep, Option.ite_none_right_eq_some, Option.some.injEq] at h
  exact h.2.symm

theorem requestStep_act {a : Action} (h : requestStep cfg d (.act a) = some t) :
    ∃ s, step cfg d.sup a = some s ∧ t = ⟨s, d.broken⟩ := by
  obtain ⟨s, hs, rfl⟩ := Option.map_eq_some_iff.mp h
  exact ⟨s, hs, rfl⟩

theorem Interrupted.Kept.step (hd : d.Kept) (h : requestStep cfg d a = some t) : t.Kept := by
  cases a with
  | act a =>
    obtain ⟨s, hs, rfl⟩ := requestStep_act h
    exact ⟨hd.numbered.proceeds (proceeds_step hs), (polled_step hd.polled hs).1⟩
  | dropLoad name o p =>
    rw [requestStep_dropLoad h]
    exact hd.dropLoad name p
  | dropUnload name p =>
    rcases requestStep_dropUnload h with ⟨-, rfl⟩ | ⟨-, m, hm, rfl⟩
    · exact hd
    · exact hd.dropUnload hm

theorem Interrupted.Kept.sound_iff (hd : d.Kept) : d.Sound ↔ d.Cleared ∧ Uncut d.sup := by
  constructor
  · exact fun h => ⟨h.cleared, fun n m hm hrun => (h.polled n m hm hrun).1⟩
  · rintro ⟨hc, hu⟩
    refine ⟨hc, fun n m hm hrun => ?_⟩
    have hk := hu n m hm hrun
    exact ⟨hk, hd.polled.covered n m hm hk⟩

theorem Interrupted.Kept.not_sound_dropLoad (hd : d.Kept) (name : String) {p : LoadPoint}
    {c : ModuleCall} (hp : p.awaited = some c) : ¬ (d.dropLoad name p).Sound := by
  intro h
  obtain ⟨hc, hb, hl, -⟩ := d.dropLoad_of_some hp name
  have hinit : (d.sup.nextInstance, .init) ∈
      (d.dropLoad name p).sup.calls ++ (d.dropLoad name p).broken := by
    rw [hc, hb]
    cases p <;> cases hp <;> simp [LoadPoint.made]
  rcases h.cleared _ hinit with ⟨n, hn⟩ | hstop
  · rw [hl] at hn
    exact lt_irrefl _ (hd.numbered.current n _ hn)
  · rw [hc] at hstop
    rcases List.mem_append.mp hstop with hstop | hstop
    · exact lt_irrefl _ (hd.numbered.called _ hstop)
    · -- No `stop` has returned at any of the await points.
      obtain ⟨c', hmade, he⟩ := List.mem_map.mp hstop
      obtain rfl : c' = .stop := (Prod.mk.inj he).2
      cases p <;> simp [LoadPoint.made] at hmade

theorem Interrupted.Kept.sound_dropUnload (hd : d.Kept) {name : String} {m : LoadedModule}
    (hl : d.sup.loaded.lookup name = some m) :
    (d.dropUnload name .stop).Sound ↔ d.Sound ∧ m.state ≠ .running := by
  obtain ⟨hc, hb, hv, hw, -, -⟩ := d.dropUnload_of_some hl
  have hcan : (d.dropUnload name .stop).sup.cancelled = m.healthCancel :: d.sup.cancelled :=
    congrArg Polling.cancelled hw
  have hcleared : (d.dropUnload name .stop).Cleared ↔ d.Cleared := by
    simp only [Cleared, hc, hb, hv, List.mem_append, List.mem_singleton, Prod.mk.injEq,
      reduceCtorEq, and_false, or_false]
  rw [(hd.dropUnload hl).sound_iff, hd.sound_iff, hcleared, and_assoc]
  refine and_congr_right fun _ => ⟨fun hu => ⟨fun x m' hm' hrun hk => ?_, fun hrun => ?_⟩, ?_⟩
  · refine hu x m' (hv ▸ hm') hrun ?_
    rw [hcan]
    exact List.mem_cons_of_mem _ hk
  · refine hu name m (hv ▸ hl) hrun ?_
    rw [hcan]
    exact List.mem_cons_self
  · rintro ⟨hu, hrun⟩
    rw [hu.tends hd.polled (tends_dropUnload hl)]
    intro m' hm' hrun'
    rw [hv, hl] at hm'
    cases hm'
    exact absurd hrun' hrun

theorem sound_drop (hd : d.Kept) (ha : a.Drops) (h : requestStep cfg d a = some t) :
    t.Sound ↔ d.Sound ∧ Harmless cfg d a := by
  cases a with
  | act a => exact absurd ha id
  | dropLoad name o p =>
    rw [requestStep_dropLoad h]
    cases hp : p.awaited with
    | none =>
      simp only [Interrupted.dropLoad, hp]
      exact (and_iff_left hp).symm
    | some c =>
      refine iff_of_false (hd.not_sound_dropLoad name hp) fun hs => ?_
      exact nomatch hp.symm.trans hs.2
  | dropUnload name p =>
    rcases requestStep_dropUnload h with ⟨rfl, rfl⟩ | ⟨rfl, m, hm, rfl⟩
    · exact (and_iff_left nofun).symm
    · rw [hd.sound_dropUnload hm]
      refine and_congr_right fun _ => ⟨fun hrun _ m' hm' => ?_, fun hrun => hrun rfl m hm⟩
      rwa [← Option.mem_unique hm hm']

theorem sound_requestStep (hd : d.Kept) (hs : d.Sound) (h : requestStep cfg d a = some t) :
    t.Sound ↔ Harmless cfg d a := by
  cases a with
  | act a =>
    obtain ⟨s, hstep, rfl⟩ := requestStep_act h
    have ht : (⟨s, d.broken⟩ : Interrupted).Kept := hd.step h
    rw [ht.sound_iff]
    obtain ⟨hc, hu⟩ := hd.sound_iff.mp hs
    have hc' : (⟨s, d.broken⟩ : Interrupted).Cleared := (proceeds_step hstep).keeps_inits hc
    rw [and_iff_right hc']
    exact (polled_step hd.polled hstep).2 hu
  | dropLoad name o p =>
    have ha : (RequestAction.dropLoad name o p).Drops := trivial
    rw [sound_drop hd ha h, and_iff_right hs]
  | dropUnload name p =>
    have ha : (RequestAction.dropUnload name p).Drops := trivial
    rw [sound_drop hd ha h, and_iff_right hs]

end Step

def SoundAfter (cfg : SupervisorConfig) (d : Interrupted) (a : RequestAction) : Prop :=
  ∀ t ∈ requestStep cfg d a, t.Sound

def Interrupted.new (file : EnabledFile) : Interrupted := ⟨.new file, []⟩

theorem Interrupted.Kept.new (file : EnabledFile) : (Interrupted.new file).Kept where
  numbered := ⟨fun _ _ h => (nomatch h), fun _ h => (nomatch h)⟩
  polled := ⟨fun _ _ h => (nomatch h), fun _ h => (nomatch h), fun _ _ _ _ h => (nomatch h),
    fun _ _ h => (nomatch h)⟩

theorem Interrupted.Sound.new (file : EnabledFile) : (Interrupted.new file).Sound where
  cleared _ h := nomatch h
  polled _ _ h := nomatch h

/-- **Dropped calls** leave sound states exactly if each is harmless and meets one. -/
theorem drops_sound_iff {cfg : SupervisorConfig} {file : EnabledFile} {as : List RequestAction}
    {t : Interrupted} (hr : run (requestStep cfg) (.new file) as = some t) :
    (Along (requestStep cfg) (fun d a => a.Drops → SoundAfter cfg d a) (.new file) as ↔
        Along (requestStep cfg) (fun d a => a.Drops → d.Sound ∧ Harmless cfg d a) (.new file)
          as) ∧
      (Along (requestStep cfg) (SoundAfter cfg) (.new file) as ↔
        Along (requestStep cfg) (Harmless cfg) (.new file) as) := by
  have hafter : ∀ {d a u}, requestStep cfg d a = some u → (SoundAfter cfg d a ↔ u.Sound) := by
    intro d a u hu
    refine ⟨fun h => h u hu, fun h v hv => ?_⟩
    rwa [← Option.mem_unique hu hv]
  constructor
  · refine along_congr (I := Interrupted.Kept) (fun d a u hd hu => ?_)
      (fun d a u hd _ hu => hd.step hu) (.new file) hr
    refine forall_congr' fun ha => ?_
    rw [hafter hu, sound_drop hd ha hu]
  · refine along_congr (I := fun d => d.Kept ∧ d.Sound) (fun d a u hd hu => ?_)
      (fun d a u hd hc hu => ?_) ⟨.new file, .new file⟩ hr
    · rw [hafter hu, sound_requestStep hd.1 hd.2 hu]
    · exact ⟨hd.1.step hu, (hafter hu).mp hc⟩

def droppedAtLock : List RequestAction :=
  [.dropLoad "alpha" succeeding .lock, .act (.load "alpha" succeeding true),
    .dropUnload "alpha" .lock]

theorem droppedAtLock_sound :
    ((run (requestStep oneModule) (.new .absent) droppedAtLock).map fun d => d.sup.calls) =
        some [(0, .init), (0, .start)] ∧
      Along (requestStep oneModule) (SoundAfter oneModule) (.new .absent) droppedAtLock := by
  refine ⟨by decide +kernel, ?_⟩
  refine (drops_sound_iff (Option.some_get (by decide +kernel)).symm).2.mpr ?_
  refine ⟨rfl, trivial, ?_⟩
  exact ⟨nofun, trivial⟩

theorem Interrupted.not_sound_of_cancelled {d : Interrupted} {n : String} {k : TokenId}
    (hn : (d.sup.loaded.lookup n).map (fun m => (m.state, m.healthCancel)) = some (.running, k))
    (hk : k ∈ d.sup.cancelled) : ¬ d.Sound := by
  intro h
  obtain ⟨m, hm, he⟩ := Option.map_eq_some_iff.mp hn
  obtain ⟨hrun, rfl⟩ := Prod.mk.inj he
  exact (h.polled n m hm hrun).1 hk

/-- **Two drops that are not harmless**: a load in `start`, and an unload in `stop`. -/
theorem dropped_calls_leave_unsound :
    (∃ d, run (requestStep oneModule) (.new .absent)
          [.dropLoad "alpha" succeeding .start] = some d ∧
        d.sup.calls = [(0, .init)] ∧ d.sup.loaded.entries = [] ∧ ¬ d.Sound) ∧
      ∃ d, run (requestStep oneModule) (.new .absent)
          [.act (.load "alpha" succeeding true), .dropUnload "alpha" .stop] = some d ∧
        (d.sup.loaded.lookup "alpha").map (fun m => (m.state, m.healthCancel)) =
          some (.running, 0) ∧
        d.sup.cancelled = [0] ∧ ¬ d.Sound := by
  constructor
  · refine ⟨_, (Option.some_get (by decide +kernel)).symm, by decide +kernel, by decide +kernel,
      fun h => ?_⟩
    exact Interrupted.Kept.not_sound_dropLoad (.new .absent) "alpha" (p := .start) rfl h
  · refine ⟨_, (Option.some_get (by decide +kernel)).symm, by decide +kernel, by decide +kernel,
      ?_⟩
    exact Interrupted.not_sound_of_cancelled (n := "alpha") (k := 0) (by decide +kernel)
      (by decide +kernel)

end Penguind.Daemon
