import Penguind.Daemon.Ledger
import Penguind.Daemon.RestartBudget

/-!
# The enabled set across boots

The names a boot restores are kept in a file, and in memory as the set that the next save writes.
A boot that cannot read the file goes on with the empty set, and the next save then loses the
other names.
-/

namespace Penguind.Daemon

open Foundation Supervisor

/-! ## Boots -/

inductive FileRead
  | ok
  | ioError
  | parseError
  deriving DecidableEq, Repr

def FileRead.sees (r : FileRead) (file : EnabledFile) : EnabledFile :=
  match r with
  | .ok => file
  | .ioError => .unreadable
  | .parseError => .malformed

def Supervisor.reboot (s : Supervisor) (r : FileRead) : Supervisor :=
  { (Supervisor.new (r.sees s.enabledFile)).startEnabled with enabledFile := s.enabledFile }

inductive HostAction
  | act (a : Action)
  | boot (r : FileRead)
  deriving DecidableEq

def hostStep (cfg : SupervisorConfig) (s : Supervisor) : HostAction → Option Supervisor
  | .act a => step cfg s a
  | .boot r => some (s.reboot r)

def Supervisor.onDisk (s : Supervisor) : Finset String := EnabledFile.restored s.enabledFile

def HostAction.Unloads (x : String) (a : HostAction) : Prop := ∃ saved, a = .act (.unload x saved)

def Saves (cfg : SupervisorConfig) (s : Supervisor) : HostAction → Option String
  | .act (.load n o saved) =>
    if s.loaded.lookup n = none ∧ Attempt.Succeeds cfg n o ∧ saved = true then some n else none
  | .act (.unload n saved) =>
    if s.loaded.lookup n ≠ none ∧ saved = true then some n else none
  | _ => none

/-- A write of the file has every other name that is on disk in memory. -/
def RemembersDisk (cfg : SupervisorConfig) (s : Supervisor) (a : HostAction) : Prop :=
  ∀ n ∈ Saves cfg s a, ∀ x ∈ s.onDisk, x ≠ n → x ∈ s.persisted

inductive KeptStep (cfg : SupervisorConfig) (s : Supervisor) (a : HostAction) (t : Supervisor) :
    Prop
  | same (ha : Saves cfg s a = none) (h : t.kept = s.kept)
  | restored (r : FileRead) (ha : a = .boot r ∨ a = .act .startEnabled ∧ r = .ok)
      (h : t.kept = (EnabledFile.restored (r.sees s.enabledFile), s.enabledFile))
  | loaded (n : String) (o : Attempt) (saved : Bool) (ha : a = .act (.load n o saved))
      (hl : s.loaded.lookup n = none) (ho : Attempt.Succeeds cfg n o)
      (h : t.kept = s.keptAfter (insert n s.persisted) saved)
  | unloaded (n : String) (saved : Bool) (ha : a = .act (.unload n saved))
      (hl : s.loaded.lookup n ≠ none) (h : t.kept = s.keptAfter (s.persisted.erase n) saved)

section Step

variable {cfg : SupervisorConfig} {s t : Supervisor} {a : HostAction} {x : String}

theorem keptStep (h : hostStep cfg s a = some t) : KeptStep cfg s a t := by
  cases a with
  | boot r =>
    cases h
    exact .restored r (.inl rfl) rfl
  | act a =>
    by_cases ho : a.OnEnabledSet
    · cases a with
      | load n o saved =>
        cases h
        by_cases hl : s.loaded.lookup n = none ∧ Attempt.Succeeds cfg n o
        · exact .loaded n o saved rfl hl.1 hl.2 (kept_load_of_succeeds cfg s n saved hl.1 hl.2)
        · exact .same (if_neg fun hc => hl ⟨hc.1, hc.2.1⟩) (kept_load_of_not cfg s n saved hl)
      | unload n saved =>
        cases h
        cases hl : s.loaded.lookup n with
        | none =>
          rw [unload_of_none s n saved hl]
          exact .same (if_neg fun hc => hc.1 hl) rfl
        | some m =>
          exact .unloaded n saved rfl (by simp [hl]) (kept_unload_of_some s n saved hl)
      | startEnabled =>
        cases h
        exact .restored .ok (.inr ⟨rfl, rfl⟩) rfl
      | _ => exact absurd ho id
    · refine .same ?_ (kept_step h ho)
      cases a with
      | load | unload => exact absurd trivial ho
      | _ => rfl

theorem onDisk_of_kept {names : Finset String} {file : EnabledFile} (h : t.kept = (names, file)) :
    t.persisted = names ∧ t.onDisk = EnabledFile.restored file :=
  ⟨congrArg Prod.fst h, congrArg EnabledFile.restored (congrArg Prod.snd h)⟩

theorem onDisk_of_saves_none (h : hostStep cfg s a = some t) (ha : Saves cfg s a = none) :
    t.onDisk = s.onDisk := by
  cases keptStep h with
  | same _ hk => exact (onDisk_of_kept hk).2
  | restored r _ hk => exact (onDisk_of_kept hk).2
  | loaded n o saved hact hl ho hk =>
    subst hact
    have hsaved : saved = false := by simpa [Saves, hl, ho] using ha
    subst hsaved
    exact (onDisk_of_kept hk).2
  | unloaded n saved hact hl hk =>
    subst hact
    have hsaved : saved = false := by simpa [Saves, hl] using ha
    subst hsaved
    exact (onDisk_of_kept hk).2

theorem mem_onDisk_of_saves {n : String} (h : hostStep cfg s a = some t)
    (ha : Saves cfg s a = some n) :
    (a.Unloads n ∧ ∀ x, x ∈ t.onDisk ↔ x ≠ n ∧ x ∈ s.persisted) ∨
      ((∀ x, ¬ a.Unloads x) ∧ ∀ x, x ∈ t.onDisk ↔ x = n ∨ x ∈ s.persisted) := by
  cases keptStep h with
  | same hnone => cases hnone.symm.trans ha
  | restored r hr =>
    rcases hr with rfl | ⟨rfl, -⟩ <;> cases ha
  | loaded m o saved hact hl ho hk =>
    subst hact
    simp only [Saves, Option.ite_none_right_eq_some, Option.some.injEq] at ha
    obtain ⟨⟨-, -, rfl⟩, rfl⟩ := ha
    refine .inr ⟨?_, fun x => ?_⟩
    · rintro x ⟨b, hb⟩
      cases hb
    · rw [(onDisk_of_kept hk).2]
      exact Finset.mem_insert
  | unloaded m saved hact hl hk =>
    subst hact
    simp only [Saves, Option.ite_none_right_eq_some, Option.some.injEq] at ha
    obtain ⟨⟨-, rfl⟩, rfl⟩ := ha
    refine .inl ⟨⟨true, rfl⟩, fun x => ?_⟩
    rw [(onDisk_of_kept hk).2]
    exact Finset.mem_erase

theorem loses_only_unloaded_iff (h : hostStep cfg s a = some t) :
    (∀ x, x ∈ s.onDisk → x ∉ t.onDisk → a.Unloads x) ↔ RemembersDisk cfg s a := by
  cases hs : Saves cfg s a with
  | none =>
    have hd := onDisk_of_saves_none h hs
    constructor
    · intro _ n hn
      rw [hs] at hn
      cases hn
    · intro _ x hx hn
      rw [hd] at hn
      exact absurd hx hn
  | some n =>
    rcases mem_onDisk_of_saves h hs with ⟨hu, hd⟩ | ⟨hu, hd⟩
    · constructor
      · intro hlose m hm x hx hxm
        obtain rfl : n = m := Option.mem_unique hs hm
        by_contra hp
        have hun := hlose x hx fun hx' => hp ((hd x).mp hx').2
        obtain ⟨b, hb⟩ := hu
        obtain ⟨c, hc⟩ := hun
        rw [hb] at hc
        injection hc with hc
        injection hc with hc
        exact hxm hc.symm
      · intro hrem x hx hn
        by_cases hxn : x = n
        · exact hxn ▸ hu
        · exact absurd ((hd x).mpr ⟨hxn, hrem n hs x hx hxn⟩) hn
    · constructor
      · intro hlose m hm x hx hxm
        obtain rfl : n = m := Option.mem_unique hs hm
        by_contra hp
        refine hu x (hlose x hx fun hx' => ?_)
        rcases (hd x).mp hx' with hx' | hx'
        · exact hxm hx'
        · exact hp hx'
      · intro hrem x hx hn
        by_cases hxn : x = n
        · exact absurd ((hd x).mpr (.inl hxn)) hn
        · exact absurd ((hd x).mpr (.inr (hrem n hs x hx hxn))) hn

end Step

/-- **A name leaves the disk only by its unload** exactly if every write has in memory what is on
disk. -/
theorem enabled_names_survive_iff {cfg : SupervisorConfig} {s t : Supervisor}
    {as : List HostAction} (hr : run (hostStep cfg) s as = some t) :
    (∀ x, LostOnlyBy (hostStep cfg) (fun u => x ∈ u.onDisk) (HostAction.Unloads x) s as) ↔
      Along (hostStep cfg) (RemembersDisk cfg) s as := by
  simp only [lostOnlyBy_iff hr]
  rw [along_forall hr]
  refine along_iff (fun u a v hv => ?_) hr
  rw [← loses_only_unloaded_iff hv]
  constructor
  · exact fun h x => h x v hv
  · intro h x w hw
    obtain rfl : v = w := Option.mem_unique hv hw
    exact h x

/-- Boots read the file, and unloads are saved. -/
def HostAction.Reliable : HostAction → Prop
  | .boot r => r = .ok
  | .act (.unload _ saved) => saved = true
  | .act _ => True

theorem onDisk_subset_step {cfg : SupervisorConfig} {s t : Supervisor} {a : HostAction}
    (hs : s.onDisk ⊆ s.persisted) (ha : a.Reliable) (h : hostStep cfg s a = some t) :
    t.onDisk ⊆ t.persisted := by
  cases keptStep h with
  | same _ hk =>
    obtain ⟨hp, hd⟩ := onDisk_of_kept hk
    rw [hp, hd]
    exact hs
  | restored r hr hk =>
    obtain ⟨hp, hd⟩ := onDisk_of_kept hk
    have hok : r = .ok := by
      rcases hr with rfl | ⟨-, rfl⟩
      · exact ha
      · rfl
    rw [hp, hd, hok]
    exact Finset.Subset.refl _
  | loaded n o saved _ _ _ hk =>
    obtain ⟨hp, hd⟩ := onDisk_of_kept hk
    rw [hp, hd]
    cases saved with
    | true => exact Finset.Subset.refl _
    | false => exact hs.trans (Finset.subset_insert n _)
  | unloaded n saved hact _ hk =>
    subst hact
    obtain rfl : saved = true := ha
    obtain ⟨hp, hd⟩ := onDisk_of_kept hk
    rw [hp, hd]
    exact Finset.Subset.refl _

/-- **The two ways to forget a name** are an unreadable file and an unload that is not saved. -/
theorem remembersDisk_of_reads {cfg : SupervisorConfig} {s : Supervisor} {as : List HostAction}
    (hs : s.onDisk ⊆ s.persisted) (has : ∀ a ∈ as, a.Reliable) :
    Along (hostStep cfg) (RemembersDisk cfg) s as := by
  refine along_of_invariant (I := fun s => s.onDisk ⊆ s.persisted) (K := fun _ a => a.Reliable)
    (fun _ _ _ hI hK h => onDisk_subset_step hI hK h) ?_ hs (along_of_forall_mem has)
  intro s a hI _ n _ x hx _
  exact hI hx

def orderlyBoot : List HostAction :=
  [.boot .ok, .act (.load "alpha" succeeding true), .act (.load "beta" succeeding true),
    .act (.unload "alpha" true)]

theorem orderlyBoot_isSome :
    (run (hostStep oneModule) (Supervisor.new .absent) orderlyBoot).isSome = true := by
  decide +kernel

theorem orderlyBoot_survives :
    ((run (hostStep oneModule) (Supervisor.new .absent) orderlyBoot).get
        orderlyBoot_isSome).onDisk = {"beta"} ∧
      ∀ x, LostOnlyBy (hostStep oneModule) (fun u => x ∈ u.onDisk) (HostAction.Unloads x)
        (Supervisor.new .absent) orderlyBoot := by
  refine ⟨by decide +kernel, ?_⟩
  refine (enabled_names_survive_iff (Option.some_get orderlyBoot_isSome).symm).mpr ?_
  refine remembersDisk_of_reads (Finset.Subset.refl _) ?_
  simp [orderlyBoot, HostAction.Reliable]

def unreadBoot : List HostAction := [.boot .ioError, .act (.load "beta" succeeding true)]

/-- **A name is lost** after a boot that cannot read the file. -/
theorem enabled_name_lost :
    "alpha" ∈ (Supervisor.new (.enabled {"alpha"})).onDisk ∧
      (run (hostStep oneModule) (Supervisor.new (.enabled {"alpha"})) unreadBoot).map onDisk =
        some {"beta"} ∧
      ¬ ∀ x, LostOnlyBy (hostStep oneModule) (fun u => x ∈ u.onDisk) (HostAction.Unloads x)
        (Supervisor.new (.enabled {"alpha"})) unreadBoot := by
  refine ⟨by decide +kernel, by decide +kernel, fun h => ?_⟩
  obtain ⟨a, ha, b, hb⟩ := h "alpha" [] unreadBoot [] _ _ rfl rfl
    (Option.some_get (by decide +kernel)).symm (by decide +kernel) (by decide +kernel)
  subst hb
  simp [unreadBoot] at ha

/-! ## What an unload disables -/

def Supervisor.bootNames (s : Supervisor) (r : FileRead) : Finset String := (s.reboot r).persisted

def HostAction.Loads (x : String) (a : HostAction) : Prop := ∃ o saved, a = .act (.load x o saved)

def Disabled (x : String) (s : Supervisor) : Prop := x ∉ s.persisted ∧ x ∉ s.onDisk

theorem disabled_step {cfg : SupervisorConfig} {s t : Supervisor} {a : HostAction} {x : String}
    (hs : Disabled x s) (ha : ¬ a.Loads x) (h : hostStep cfg s a = some t) : Disabled x t := by
  -- A set without the name, written or not, leaves the name out of both halves.
  have hafter : ∀ names saved, t.kept = s.keptAfter names saved → x ∉ names → Disabled x t := by
    intro names saved hk hn
    obtain ⟨hp, hd⟩ := onDisk_of_kept hk
    rw [Disabled, hp, hd]
    cases saved with
    | true => exact ⟨hn, hn⟩
    | false => exact ⟨hn, hs.2⟩
  cases keptStep h with
  | same _ hk =>
    obtain ⟨hp, hd⟩ := onDisk_of_kept hk
    rw [Disabled, hp, hd]
    exact hs
  | restored r _ hk =>
    obtain ⟨hp, hd⟩ := onDisk_of_kept hk
    rw [Disabled, hp, hd]
    refine ⟨?_, hs.2⟩
    cases r with
    | ok => exact hs.2
    | ioError | parseError => exact Finset.notMem_empty x
  | loaded n o saved hact _ _ hk =>
    refine hafter _ saved hk fun hx => ?_
    rcases Finset.mem_insert.mp hx with rfl | hx
    · exact ha ⟨o, saved, hact⟩
    · exact hs.1 hx
  | unloaded n saved _ _ hk =>
    exact hafter _ saved hk fun hx => hs.1 (Finset.mem_of_mem_erase hx)

/-- **An unload disables the name** until its next load exactly if it was loaded, or not enabled. -/
theorem unload_disables_iff (cfg : SupervisorConfig) (s : Supervisor) (x : String) :
    (x ∉ (s.unload x true).persisted ∧ x ∉ (s.unload x true).onDisk ∧
        ∀ as t, (∀ a ∈ as, ¬ HostAction.Loads x a) →
          run (hostStep cfg) (s.unload x true) as = some t → ∀ r, x ∉ t.bootNames r) ↔
      s.loaded.lookup x ≠ none ∨ x ∉ s.persisted ∧ x ∉ s.onDisk := by
  constructor
  · rintro ⟨h₁, h₂, -⟩
    cases hl : s.loaded.lookup x with
    | some m => exact .inl nofun
    | none =>
      rw [unload_of_none s x true hl] at h₁ h₂
      exact .inr ⟨h₁, h₂⟩
  · intro h
    have hd : Disabled x (s.unload x true) := by
      cases hl : s.loaded.lookup x with
      | none =>
        rw [unload_of_none s x true hl]
        exact h.resolve_left fun hne => hne hl
      | some m =>
        obtain ⟨hp, hd⟩ := onDisk_of_kept (kept_unload_of_some s x true hl)
        rw [Disabled, hp, hd]
        exact ⟨Finset.notMem_erase x _, Finset.notMem_erase x _⟩
    refine ⟨hd.1, hd.2, fun as t has hr r => ?_⟩
    have ht : Disabled x t :=
      run_invariant (fun _ _ _ hI hC h => disabled_step hI hC h) hd
        (along_of_forall_mem (D := fun a => ¬ HostAction.Loads x a) has) hr
    have hboot : hostStep cfg t (.boot r) = some (t.reboot r) := rfl
    exact (disabled_step ht (by rintro ⟨o, saved, ho⟩; cases ho) hboot).1

def failedBoot : List HostAction := [.boot .ok, .act (.load "alpha" notStarting true)]

/-- **An unload that changes nothing**: its load has failed, and the next boot tries again. -/
theorem failed_module_not_disabled :
    ∃ s, run (hostStep oneModule) (Supervisor.new (.enabled {"alpha"})) failedBoot = some s ∧
      "alpha" ∈ (s.unload "alpha" true).persisted ∧ "alpha" ∈ (s.unload "alpha" true).onDisk ∧
      "alpha" ∈ (s.unload "alpha" true).bootNames .ok :=
  exists_run (by decide +kernel)

end Penguind.Daemon
