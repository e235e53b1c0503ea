import Penguind.Secrets.FileBackend

/-!
# Daemons on one state directory

Daemons start on one state directory and control socket, in any interleaving, and may die at any
step. Only the lock keeps them apart: the master key is read and then created, and whatever is at
the path of the socket is removed.
-/

namespace Penguind.Daemon.Boots

open Foundation Extplugin Secrets

inductive Stage
  /-- Not started, refused or ended. -/
  | out
  | locked
  /-- There is no key file, and a key was generated. -/
  | missing (key : MasterKey)
  | created (key : MasterKey)
  /-- The secret store is open. -/
  | opened
  | unlinked
  /-- Until the socket file is removed. -/
  | serving

structure Host where
  lock : Option Nat
  keyFile : Option Bytes
  /-- Whose listener is bound to the path. -/
  socket : Option Nat
  stage : Nat → Stage
  /-- Of all stores that were opened. -/
  keys : List MasterKey

inductive Event
  /-- The next step. `n` bytes of the key are written; with less than 32 the process fails. -/
  | next (fresh : MasterKey) (n : Nat)
  /-- An error or a crash. -/
  | exit

namespace Host

variable (s : Host) (p : Nat)

def enter (stage : Stage) : Host := { s with stage := Function.update s.stage p stage }

/-- The lock goes with the process, the files stay. -/
def leave : Host := { s.enter p .out with lock := if s.lock = some p then none else s.lock }

def «open» (key : MasterKey) : Host := { s.enter p .opened with keys := key :: s.keys }

def advance (fresh : MasterKey) (n : Nat) : Host :=
  match s.stage p with
  | .out => if s.lock = none then { s.enter p .locked with lock := some p } else s
  | .locked =>
    match s.keyFile with
    | none => s.enter p (.missing fresh)
    | some bytes => if h : bytes.length = 32 then s.open p ⟨bytes, h⟩ else s.leave p
  | .missing key => { s.enter p (.created key) with keyFile := some [] }
  | .created key =>
    if n < 32 then { s.leave p with keyFile := some (key.1.take n) }
    else { s.open p key with keyFile := some key.1 }
  | .opened => { s.enter p .unlinked with socket := none }
  | .unlinked => if s.socket = none then { s.enter p .serving with socket := some p } else s.leave p
  | .serving => { s.leave p with socket := none }

def step (s : Host) : Nat × Event → Option Host
  | (p, .next fresh n) => some (s.advance p fresh n)
  | (p, .exit) =>
    match s.stage p with
    | .out => none
    | _ => some (s.leave p)

/-- What a process at a stage relies on, if the key file was `before` at first. -/
def Fits (before : Option Bytes) : Stage → Prop
  | .out => True
  | .missing _ => s.lock = some p ∧ s.keyFile = none
  | .created _ => s.lock = some p ∧ s.keyFile = some [] ∧ before = none
  | .serving => s.lock = some p ∧ s.socket = some p
  | .locked | .opened | .unlinked => s.lock = some p

structure Sound (before : Option Bytes) : Prop where
  stages : ∀ p, s.Fits p before (s.stage p)
  used : ∀ key ∈ s.keys, s.keyFile = some key.1
  kept : ∀ bytes, before = some bytes → s.keyFile = some bytes

variable {s p} {before : Option Bytes} {t : Host} {stage : Stage}

namespace Sound

variable (h : s.Sound before)
include h

theorem unused (hfile : ∀ key : MasterKey, s.keyFile ≠ some key.1) {file : Option Bytes} :
    ∀ key ∈ s.keys, file = some key.1 :=
  fun key hkey => absurd (h.used key hkey) (hfile key)

theorem fits (hp : s.stage p = stage) : s.Fits p before stage := hp ▸ h.stages p

theorem lock (hp : s.stage p = stage) (hne : stage ≠ .out) : s.lock = some p := by
  have hfits := h.fits hp
  cases stage with
  | out => exact absurd rfl hne
  | missing | created | serving => exact hfits.1
  | locked | opened | unlinked => exact hfits

/-- Whoever is alone with the lock may change the files. -/
theorem move (halone : s.lock = none ∨ s.lock = some p)
    (hstage : t.stage = Function.update s.stage p stage) (hfits : t.Fits p before stage)
    (hused : ∀ key ∈ t.keys, t.keyFile = some key.1)
    (hkept : ∀ bytes, before = some bytes → t.keyFile = some bytes) : t.Sound before := by
  refine ⟨fun q => ?_, hused, hkept⟩
  rw [hstage]
  by_cases hq : q = p
  · subst hq
    rwa [Function.update_self]
  · have hout : s.stage q = .out := by
      by_contra hne
      have hlock := h.lock rfl hne
      rcases halone with hnone | hsome
      · cases hnone.symm.trans hlock
      · exact hq (Option.some.inj (hlock.symm.trans hsome))
    rw [Function.update_of_ne hq, hout]
    trivial

theorem leave (hp : s.stage p ≠ .out) : (s.leave p).Sound before :=
  h.move (.inr (h.lock rfl hp)) rfl trivial h.used h.kept

theorem advance (fresh : MasterKey) (n : Nat) : (s.advance p fresh n).Sound before := by
  -- An empty file is no key.
  have hempty (hfile : s.keyFile = some []) (key : MasterKey) : s.keyFile ≠ some key.1 := by
    intro hkey
    simpa [← Option.some.inj (hfile.symm.trans hkey)] using key.2
  fun_cases s.advance p fresh n with
  | case1 hp hnone => exact h.move (.inl hnone) rfl rfl h.used h.kept
  | case2 => exact h
  | case3 hp hfile => exact h.move (.inr (h.fits hp)) rfl ⟨h.fits hp, hfile⟩ h.used h.kept
  | case4 hp bytes hfile hlen =>
    have hused := List.forall_mem_cons (a := ⟨bytes, hlen⟩).mpr ⟨hfile, h.used⟩
    exact h.move (.inr (h.fits hp)) rfl (h.fits hp) hused h.kept
  | case6 key hp =>
    obtain ⟨hlock, hfile⟩ := h.fits hp
    cases before with
    | none => exact h.move (.inr hlock) rfl ⟨hlock, rfl, rfl⟩ (h.unused (by simp [hfile])) nofun
    | some bytes => cases hfile.symm.trans (h.kept bytes rfl)
  | case7 key hp =>
    obtain ⟨hlock, hfile, rfl⟩ := h.fits hp
    exact h.move (.inr hlock) rfl trivial (h.unused (hempty hfile)) nofun
  | case8 key hp =>
    obtain ⟨hlock, hfile, rfl⟩ := h.fits hp
    refine h.move (.inr hlock) rfl hlock (List.forall_mem_cons.mpr ⟨rfl, ?_⟩) nofun
    exact h.unused (hempty hfile)
  | case9 hp => exact h.move (.inr (h.fits hp)) rfl (h.fits hp) h.used h.kept
  | case10 hp => exact h.move (.inr (h.fits hp)) rfl ⟨h.fits hp, rfl⟩ h.used h.kept
  | case5 hp | case11 hp => exact h.leave (hp ▸ nofun)
  | case12 hp => exact h.move (.inr (h.fits hp).1) rfl trivial h.used h.kept

end Sound

section

variable {events : List (Nat × Event)} (hout : ∀ p, s.stage p = .out) (hkeys : s.keys = [])
  (hr : run step s events = some t)
include hout hkeys hr

theorem sound_run : t.Sound s.keyFile := by
  refine run_invariant_of_step (I := (Sound · s.keyFile)) (fun u a v hu => ?_)
    ⟨fun p => ?_, by simp [hkeys], fun _ => id⟩ hr
  · fun_cases u.step a with rintro ⟨⟩
    | case1 p fresh n => exact hu.advance fresh n
    | case3 p hp => exact hu.leave hp
  · rw [hout]
    trivial

/-- **One daemon at a time**, with one key for all of them; who connects while one serves reaches
it. A key file is never changed, and a torn one blocks every later boot. -/
theorem one_daemon :
    (∀ p q, t.stage p ≠ .out → t.stage q ≠ .out → p = q) ∧
      (∀ key ∈ t.keys, t.keyFile = some key.1) ∧
      (∀ p, t.stage p = .serving → t.socket = some p) ∧
      ∀ bytes, s.keyFile = some bytes →
        t.keyFile = some bytes ∧ (bytes.length ≠ 32 → t.keys = []) := by
  have h := sound_run hout hkeys hr
  refine ⟨fun p q hp hq => ?_, h.used, fun p hp => (h.fits hp).2, fun bytes hfile => ?_⟩
  · exact Option.some.inj ((h.lock rfl hp).symm.trans (h.lock rfl hq))
  · have hkept := h.kept bytes hfile
    refine ⟨hkept, fun hlen => List.eq_nil_iff_forall_not_mem.mpr fun key hkey => ?_⟩
    cases hkept.symm.trans (h.used key hkey)
    exact hlen key.2

end

def absent : Host := ⟨none, none, none, fun _ => .out, []⟩

def next (p : Nat) : Nat × Event := (p, .next ⟨List.replicate 32 0, rfl⟩ 32)

/-- The second daemon is refused at first, then the first dies. -/
def twoBoots : List (Nat × Event) :=
  next 0 :: next 1 :: .replicate 5 (next 0) ++ (0, .exit) :: .replicate 4 (next 1)

theorem one_daemon_twoBoots : ∃ t, run step absent twoBoots = some t ∧ t.socket = some 1 := by
  obtain ⟨t, ht⟩ : ∃ t, run step absent twoBoots = some t := ⟨_, rfl⟩
  refine ⟨t, ht, (one_daemon (fun _ => rfl) rfl ht).2.2.1 1 ?_⟩
  cases ht
  rfl

end Host

end Penguind.Daemon.Boots
