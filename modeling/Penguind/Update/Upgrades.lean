import Penguind.Update.Updater

/-!
# Whether updates go forward

A check reports every release with another text than the running version, older ones included, and
an update installs the latest release whatever is installed.
-/

namespace Penguind.Update

open Foundation Extplugin

structure Installation where
  running : String
  installed : String
  deriving DecidableEq

inductive UpdateLabel
  | check (a : Answer)
  | apply (o : ApplyOutcome)
  | restart

def lastReplaced (events : List Event) : Option String :=
  (events.filterMap fun e => match e with
    | .replace tag _ => some tag
    | .get _ => none).getLast?

section

variable {V K S : Type} [LinearOrder V] (L : Libraries V K S) (cfg : UpdateConfig) (target : Target)

namespace Installation

def start : Installation := ⟨cfg.currentVersion, cfg.currentVersion⟩

def config (s : Installation) : UpdateConfig := { cfg with currentVersion := s.running }

def next (s : Installation) : UpdateLabel → Installation
  | .check _ => s
  | .apply o =>
    let events := (apply L (s.config cfg) target o []).2
    { s with installed := (lastReplaced events).getD s.installed }
  | .restart => { s with running := s.installed }

def step (s : Installation) (label : UpdateLabel) : Option Installation :=
  some (next L cfg target s label)

end Installation

def Newer (version than : String) : Prop :=
  ∃ v w, L.parseVersion (normalizeVersion version) = some v ∧
    L.parseVersion (normalizeVersion than) = some w ∧ w < v

/-- **Updates go forward**: what is reported or installed is newer than what runs or was installed.
-/
def Upgrades (s : Installation) : UpdateLabel → Prop
  | .check a => ∀ tag t, Stateful.Ends (check L (s.config cfg) a) [] (true, tag) t →
      Newer L tag s.running
  | .apply o => ∀ tag binary, .replace tag binary ∈ (apply L (s.config cfg) target o []).2 →
      Newer L tag s.running ∧ Newer L tag s.installed
  | .restart => True

/-- Lists served to checks and updates have something newer first, or the same text. -/
def ServesNewer (s : Installation) : UpdateLabel → Prop
  | .check a => ∀ releases release, a.releases L = .ok releases →
      selectLatestRelease L releases = some release →
        Newer L release.tagName s.running ∨
          normalizeVersion release.tagName = normalizeVersion s.running
  | .apply o => o.install.replaces = true → ∀ f binary, Prepared L cfg target o f binary →
      Newer L f.release.tagName s.installed
  | .restart => True

variable {L cfg target} {s t : Installation} {label : UpdateLabel}

theorem Newer.trans {a b c : String} (hab : Newer L a b) (hbc : Newer L b c) : Newer L a c := by
  obtain ⟨v, w, hv, hw, hlt⟩ := hab
  obtain ⟨w', u, hw', hu, hlt'⟩ := hbc
  obtain rfl := Option.some.inj (hw.symm.trans hw')
  exact ⟨v, u, hv, hu, hlt'.trans hlt⟩

def Ahead (L : Libraries V K S) (s : Installation) : Prop :=
  s.installed = s.running ∨ Newer L s.installed s.running

theorem Ahead.newer {tag : String} (h : Ahead L s) (hnewer : Newer L tag s.installed) :
    Newer L tag s.running := by
  rcases h with heq | h
  · exact heq ▸ hnewer
  · exact hnewer.trans h

theorem mem_of_lastReplaced {events : List Event} {tag : String}
    (h : lastReplaced events = some tag) : ∃ binary, .replace tag binary ∈ events := by
  obtain ⟨e, hmem, he⟩ := List.mem_filterMap.mp (List.mem_of_getLast? h)
  cases e with
  | get => cases he
  | replace tag' binary =>
    obtain rfl := Option.some.inj he
    exact ⟨binary, hmem⟩

theorem ahead_step (h : Ahead L s) (hupgrades : Upgrades L cfg target s label)
    (hstep : s.step L cfg target label = some t) : Ahead L t := by
  obtain rfl := Option.some.inj hstep
  cases label with
  | check => exact h
  | restart => exact .inl rfl
  | apply o =>
    simp only [Installation.next]
    cases hlast : lastReplaced (apply L (s.config cfg) target o []).2 with
    | none => exact h
    | some tag =>
      obtain ⟨binary, hmem⟩ := mem_of_lastReplaced hlast
      exact .inr (hupgrades tag binary hmem).1

theorem Prepared.congr {cfg' : UpdateConfig} (hkey : cfg'.publicKey = cfg.publicKey)
    (hname : cfg'.binaryName = cfg.binaryName) {o : ApplyOutcome} {f : Found} {binary : Bytes}
    (h : Prepared L cfg target o f binary) : Prepared L cfg' target o f binary where
  publicKey := hkey.trans h.publicKey
  os := h.os
  arch := h.arch
  releases := h.releases
  release := h.release
  asset := h.asset
  archive := h.archive
  signature := h.signature
  verified := h.verified
  binary := by rw [hname, h.binary]

theorem prepared_config {o : ApplyOutcome} {f : Found} {binary : Bytes} :
    Prepared L (s.config cfg) target o f binary ↔ Prepared L cfg target o f binary := by
  have hkey : (s.config cfg).publicKey = cfg.publicKey := rfl
  have hname : (s.config cfg).binaryName = cfg.binaryName := rfl
  exact ⟨fun h => h.congr hkey.symm hname.symm, fun h => h.congr hkey hname⟩

theorem upgrades_check_iff {a : Answer} :
    Upgrades L cfg target s (.check a) ↔ ServesNewer L cfg target s (.check a) := by
  simp only [Upgrades, ServesNewer, ends_check, ends_fetchLatestRelease, decide_eq_true_eq]
  constructor
  · intro h releases release hreleases hselect
    by_cases htext : normalizeVersion release.tagName = normalizeVersion s.running
    · exact .inr htext
    · exact .inl (h _ _ ⟨release, ⟨releases, hreleases, hselect, rfl⟩, rfl, htext⟩)
  · rintro h tag t ⟨release, ⟨releases, hreleases, hselect, -⟩, rfl, htext⟩
    exact (h releases release hreleases hselect).resolve_right htext

theorem upgrades_apply_iff (h : Ahead L s) {o : ApplyOutcome} :
    Upgrades L cfg target s (.apply o) ↔ ServesNewer L cfg target s (.apply o) := by
  simp only [Upgrades, ServesNewer, mem_apply_iff, prepared_config]
  constructor
  · intro hupgrades hreplaces f binary hf
    exact (hupgrades _ binary ⟨hreplaces, f, hf, rfl⟩).2
  · rintro hserves tag binary ⟨hreplaces, f, hf, rfl⟩
    have hnewer := hserves hreplaces f binary hf
    exact ⟨h.newer hnewer, hnewer⟩

variable (L cfg target)

/-- **Updates go forward** exactly as the lists do. -/
theorem upgrades_iff (labels : List UpdateLabel) :
    Along (Installation.step L cfg target) (Upgrades L cfg target) (.start cfg) labels ↔
      Along (Installation.step L cfg target) (ServesNewer L cfg target) (.start cfg) labels := by
  have hr := run_some (Installation.next L cfg target) (.start cfg) labels
  refine along_congr (I := Ahead L) ?_ ?_ (.inl rfl) hr
  · intro s label t hs _
    cases label with
    | check => exact upgrades_check_iff
    | apply => exact upgrades_apply_iff hs
    | restart => exact Iff.rfl
  · intro s label t hs hupgrades hstep
    exact ahead_step hs hupgrades hstep

end

def oldRelease : Libraries Nat Unit Unit where
  parseVersion text := if text = "0.1.0" then some 1 else if text = "0.2.0" then some 2 else none
  decodeReleases _ := .ok [⟨"v0.1.0", false,
    [⟨"penguin_0.1.0_linux_amd64.tar.gz", "https://host/archive"⟩,
      ⟨"penguin_0.1.0_linux_amd64.tar.gz.minisig", "https://host/signature"⟩]⟩]
  fromUtf8 _ := some ""
  decodeKey _ := some ()
  decodeSignature _ := some ()
  verifies _ _ _ := true
  untar _ := .ok [.ok ⟨true, .ok (some "bin/penguind"), .ok [7]⟩]
  unzip _ := .error ""
  windowsFileName _ := none

def newerConfig : UpdateConfig := ⟨"penguintechinc/penguin", "0.2.0", "penguind", some "key"⟩

def linuxAmd64 : Target := ⟨"linux", "x86_64"⟩

def served : Answer := .answered 200 (.ok [])

def everythingServed : ApplyOutcome := ⟨served, served, served, .installed⟩

/-- **Updates go back**: version 0.2.0 installs 0.1.0. -/
theorem older_release_installed :
    Newer oldRelease "0.2.0" "v0.1.0" ∧
      (∃ t, Stateful.Ends (check oldRelease newerConfig served) [] (true, "v0.1.0") t) ∧
      Installation.step oldRelease newerConfig linuxAmd64 (.start newerConfig)
        (.apply everythingServed) = some ⟨"0.2.0", "v0.1.0"⟩ ∧
      .replace "v0.1.0" [7] ∈ (apply oldRelease (Installation.config newerConfig
        ⟨"0.2.0", "v0.1.0"⟩) linuxAmd64 everythingServed []).2 := by
  refine ⟨⟨2, 1, by decide, by decide, by decide⟩, ⟨_, rfl⟩, by decide, by decide⟩

end Penguind.Update
