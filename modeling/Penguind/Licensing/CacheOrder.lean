import Penguind.Licensing.Entitlements
import Penguind.Waddleai.Keys

/-!
# Caches that are written in two steps

A refresh of the license updates the memory and then the cache file; a sync of the denylist writes
its file first. No lock covers both steps, so the last call in memory need not be the last on
disk.
-/

namespace Penguind.Licensing

open Foundation

variable {Byte : Type} {lib : Serde Byte} {s t : World Byte} {d : Process Byte} {dir : String}

def LicenseClient.cached (client : LicenseClient) : CacheFile :=
  ⟨client.state.tier, client.state.features, unixSeconds client.state.fetchedAt⟩

def CacheFile.none : CacheFile := ⟨"", ∅, 0⟩

def Label.ofRefresh : Label Byte → Bool
  | .start _ _ _ | .exit => false
  | .refresh | .respond _ _ | .update _ _ | .createDir _ _ | .persist _ _ => true

namespace World

def inMemory (s : World Byte) : CacheFile := (s.process.map (·.client.cached)).getD .none

/-- What a client that is made now would load. -/
def onDisk (lib : Serde Byte) (dir : String) (s : World Byte) : CacheFile :=
  ((s.files dir .cache).bind lib.cacheFileOf).getD .none

def Idle (s : World Byte) : Prop := ∃ d ∈ s.process, ∀ r ∈ d.refreshes, r = .finished

def updates (s : World Byte) : Label Byte → Option CacheFile
  | .refresh => s.process.bind fun d =>
    if d.client.licenseKey = "" then some d.client.clear.cached else Option.none
  | .update i now => s.process.bind fun d =>
    match d.refreshes[i]? with
    | some (.fetched info) => some (LicenseClient.cacheFile info now)
    | _ => Option.none
  | .start _ _ _ | .respond _ _ | .createDir _ _ | .persist _ _ | .exit => Option.none

def writes (lib : Serde Byte) (dir : String) (s : World Byte) : Label Byte → Option CacheFile
  | .persist i outcome => s.process.bind fun d =>
    match d.refreshes[i]? with
    | some (.persisting p) =>
      if p.dir = dir ∧ p.renames outcome = true then lib.cacheFileOf p.raw else Option.none
    | _ => Option.none
  | .start _ _ _ | .refresh | .respond _ _ | .update _ _ | .createDir _ _ | .exit => Option.none

theorem onDisk_persist (h : s.Inv lib) (hd : s.process = some d) {i : Nat}
    {outcome : IoOutcome Byte} (ht : s.persist d i outcome = some t) :
    t.inMemory = s.inMemory ∧
      t.onDisk lib dir = (s.writes lib dir (.persist i outcome)).getD (s.onDisk lib dir) := by
  obtain ⟨-, d', hd', hclient, -⟩ := h.persist hd ht
  refine ⟨by simp [inMemory, hd, hd', hclient], ?_⟩
  revert ht
  fun_cases World.persist s d i outcome with intro ht
  | case1 p hi =>
    obtain ⟨-, ⟨file, hfile, -⟩, hwritten⟩ :
        Refresh.Inv lib s.files d.pid d.counter (.persisting p) :=
      (h.process d hd).refreshes i _ hi
    obtain ⟨⟨files', next⟩, hstep, rfl⟩ := Option.map_eq_some_iff.mp ht
    simp only [writes, hd, Option.bind_some, hi, onDisk]
    obtain ⟨content, hrenames, hrename, rfl, hcontent, rfl⟩ | ⟨hno, hframe, -⟩ :=
      Persisting.step_cases hstep
    · -- what is renamed is what this refresh has rendered
      rw [hwritten (.inr hrename)] at hcontent
      cases hcontent
      rw [Files.set_of_ne (by simp)]
      by_cases hdir : p.dir = dir
      · subst hdir
        simp [hrenames, hfile]
      · rw [if_neg fun h => hdir h.1, Files.set, if_neg fun h => hdir h.1.symm]
        rfl
    · rw [hframe dir .cache (by simp), if_neg (by simp [hno])]
      rfl
  | _ => cases ht

variable (dir) in
theorem copies_step (h : s.Inv lib) {a : Label Byte} (ha : a.ofRefresh = true)
    (ht : s.step lib a = some t) :
    t.inMemory = (s.updates a).getD s.inMemory ∧
      t.onDisk lib dir = (s.writes lib dir a).getD (s.onDisk lib dir) := by
  cases a with
  | start | exit => cases ha
  | refresh =>
    obtain ⟨d, hd, rfl⟩ := Option.map_eq_some_iff.mp ht
    refine ⟨?_, rfl⟩
    by_cases hkey : d.client.licenseKey = "" <;>
      simp [inMemory, updates, hd, Process.refresh, hkey]
  | respond i outcome =>
    obtain ⟨d', hd', rfl⟩ := Option.map_eq_some_iff.mp ht
    obtain ⟨d, hd, hd'⟩ := Option.bind_eq_some_iff.mp hd'
    obtain ⟨-, hclient, -⟩ := (h.process d hd).respond hd'
    exact ⟨by simp [inMemory, updates, hd, hclient], rfl⟩
  | update i now =>
    obtain ⟨d', hd', rfl⟩ := Option.map_eq_some_iff.mp ht
    obtain ⟨d, hd, hd'⟩ := Option.bind_eq_some_iff.mp hd'
    refine ⟨?_, rfl⟩
    revert hd'
    fun_cases Process.update d i now with rintro ⟨⟩
    | case1 info hi =>
      simp only [updates, hd, Option.bind_some, hi]
      rfl
  | createDir i ok =>
    obtain ⟨d', hd', rfl⟩ := Option.map_eq_some_iff.mp ht
    obtain ⟨d, hd, hd'⟩ := Option.bind_eq_some_iff.mp hd'
    obtain ⟨-, hclient, -⟩ := (h.process d hd).createDir hd'
    exact ⟨by simp [inMemory, updates, hd, hclient], rfl⟩
  | persist i outcome =>
    obtain ⟨d, hd, ht⟩ := Option.bind_eq_some_iff.mp ht
    exact onDisk_persist h hd ht

end World

def licensed : List (Label (CacheFile ⊕ ValidateResponse)) :=
  [.start ⟨"PENG-1", "", "", some "license"⟩ 7 true]

def granted (i : Nat) (tier : String) : List (Label (CacheFile ⊕ ValidateResponse)) :=
  [.refresh, .respond i (.response 200 [.inr ⟨tier, []⟩]), .update i 1700000000]

def persisted (i : Nat) : List (Label (CacheFile ⊕ ValidateResponse)) :=
  .createDir i true :: List.replicate 5 (.persist i .done)

def synced (i : Nat) (version : String) :
    List (TaskLabel Waddleai.Effect Waddleai.Answer Waddleai.CallName) :=
  [.call .syncDenylist, .step i (Waddleai.replies "" 0)] ++
    Waddleai.steps i 4 (Waddleai.replies version 0)

end Penguind.Licensing
