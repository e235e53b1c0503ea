import Penguind.Daemon.Supervisor
import Penguind.Extplugin.Verify

/-!
# The loader for external plugins

The loader joins the name it was asked for to the plugins directory, and the manifest's `binary`
field to that. Neither is checked, so separators and dots lead elsewhere.
-/

namespace Penguind.Daemon

open Foundation Extplugin

/-! ## The loader -/

def defaultTrustedPublishersDir : PathBuf := "/etc/penguin/trusted-publishers.d".toList

inductive VerifierSource
  | default
  | trustedDir (dir : PathBuf)
  | keys (trusted : List String)

def VerifierSource.build (h : Host) : VerifierSource → Verifier
  | .default => ⟨loadTrustedKeys h defaultTrustedPublishersDir⟩
  | .trustedDir dir => ⟨loadTrustedKeys h dir⟩
  | .keys trusted => ⟨trusted⟩

structure PluginDirLoader where
  pluginsDir : PathBuf
  verifierSource : VerifierSource
  daemonUid : UInt32

structure LaunchOutcome where
  launch : Except String Unit
  dispense : Except String Unit

namespace PluginDirLoader

variable {K S : Type} (T : Toolkit K S) (h : Host) (loader : PluginDirLoader)

def pluginDir (name : String) : PathBuf := unix.join loader.pluginsDir name.toList

def load (name : String) (o : LaunchOutcome) : HostM ExternalLoadError Unit := do
  let pluginDir := loader.pluginDir name
  -- The name is joined as it stands: neither dots nor separators in it are looked at.
  HostM.access (.isDir pluginDir)
  if ¬ h.isDir pluginDir then throw (.notFound name)
  let manifest ← ExceptT.adapt (fun err => .load err.display) (loadManifest T h pluginDir)
  let verifier := loader.verifierSource.build h
  ExceptT.adapt (fun err => .load err.display)
    (verifier.verify T h pluginDir manifest loader.daemonUid)
  -- Nothing ties the file that is launched to the bytes that were verified but its path.
  let binaryPath := manifest.binaryPath pluginDir
  HostM.access (.launch binaryPath)
  HostM.ofExcept .load o.launch
  HostM.ofExcept .load o.dispense

structure Loads (name : String) (o : LaunchOutcome) (m : Manifest) : Prop where
  isDir : h.isDir (loader.pluginDir name) = true
  manifest : ManifestOk T (h.read (unix.join (loader.pluginDir name) "plugin.json".toList)) m
  verified : Verified T h (loader.verifierSource.build h) (loader.pluginDir name) m
    loader.daemonUid
  launch : o.launch = .ok ()
  dispense : o.dispense = .ok ()

def uses (name : String) (m : Manifest) : List FileUse :=
  let dir := loader.pluginDir name
  [.isDir dir, .read (unix.join dir "plugin.json".toList), .stat dir, .stat (m.binaryPath dir),
    .read (m.binaryPath dir), .read (m.signaturePath dir), .read (m.binaryPath dir),
    .launch (m.binaryPath dir)]

variable {T h loader} {name : String} {o : LaunchOutcome}

theorem ends_load {l : List FileUse} {u : Unit} :
    HostM.Ends (loader.load T h name o) [] u l ↔
      ∃ m, loader.Loads T h name o m ∧ loader.uses name m = l := by
  -- Each stage of the load has its own lemma about how it ends; they only have to be composed.
  by_cases hd : h.isDir (loader.pluginDir name) = true
  · simp only [load, hd, not_true_eq_false, if_false, HostM.ends_bind, HostM.ends_access,
      HostM.ends_adapt, ends_loadManifest, ends_verify, HostM.ends_ofExcept]
    constructor
    · rintro ⟨_, _, rfl, m, _, ⟨hm, rfl⟩, _, _, ⟨hv, rfl⟩, _, _, rfl, _, _, ⟨hl, rfl⟩, hs, rfl⟩
      exact ⟨m, ⟨hd, hm, hv, hl, hs⟩, rfl⟩
    · rintro ⟨m, ⟨-, hm, hv, hl, hs⟩, rfl⟩
      exact ⟨(), _, rfl, m, _, ⟨hm, rfl⟩, (), _, ⟨hv, rfl⟩, (), _, rfl, (), _, ⟨hl, rfl⟩, hs,
        rfl⟩
  · simp only [load, hd, HostM.ends_bind]
    constructor
    · rintro ⟨_, _, -, hthrow⟩
      exact absurd hthrow HostM.not_ends_throw
    · rintro ⟨m, hm, -⟩
      exact absurd hm.isDir hd

structure Accepts (T : Toolkit K S) (h : Host) (loader : PluginDirLoader) (name : String)
    (o : LaunchOutcome) (m : Manifest) (l : List FileUse) : Prop where
  loaded : HostM.Ends (loader.load T h name o) [] () l
  manifest : ∃ l', HostM.Ends (loadManifest T h (loader.pluginDir name)) [] m l'

theorem accepts_iff {m : Manifest} {l : List FileUse} :
    Accepts T h loader name o m l ↔ loader.Loads T h name o m ∧ loader.uses name m = l := by
  constructor
  · rintro ⟨hl, l', hm⟩
    obtain ⟨m', hm', hu⟩ := ends_load.mp hl
    obtain ⟨data, hr, hp, -⟩ := (ends_loadManifest.mp hm).1
    obtain ⟨data', hr', hp', -⟩ := hm'.manifest
    cases hr.symm.trans hr'
    cases hp.symm.trans hp'
    exact ⟨hm', hu⟩
  · rintro ⟨hm, hu⟩
    exact ⟨ends_load.mpr ⟨m, hm, hu⟩, _, ends_loadManifest.mpr ⟨hm.manifest, rfl⟩⟩

end PluginDirLoader

/-! ## Confinement -/

open PluginDirLoader

/-- The access stays with the plugin directory at `dir`. -/
def Within (h : Host) (dir : Location Char) : FileUse → Prop
  | .isDir p => h.locate p = dir
  | .stat p => dir <+: h.locate p
  | .read p | .launch p => ∃ w ≠ [], h.locate p = dir ++ w

structure Confined (h : Host) (loader : PluginDirLoader) (name : String) (l : List FileUse) :
    Prop where
  child : ∃ seg, h.locate (loader.pluginDir name) = h.locate loader.pluginsDir ++ [seg]
  within : ∀ u ∈ l, Within h (h.locate (loader.pluginDir name)) u

def Descends (name : String) (m : Manifest) : Prop :=
  ∃ seg, unix.descent name.toList = some [seg] ∧
    ∀ file ∈ [m.binary, m.binary ++ ".minisig"],
      ∃ w ≠ [], unix.descent (unix.join name.toList file.toList) = some (seg :: w)

section Confinement

variable {K S : Type} {T : Toolkit K S} {h : Host} {loader : PluginDirLoader} {name : String}
  {o : LaunchOutcome} {m : Manifest}

theorem binaryPath_pluginDir :
    m.binaryPath (loader.pluginDir name) =
      unix.join loader.pluginsDir (unix.join name.toList m.binary.toList) :=
  unix.join_assoc _ _ _

theorem signaturePath_pluginDir :
    m.signaturePath (loader.pluginDir name) =
      unix.join loader.pluginsDir (unix.join name.toList (m.binary ++ ".minisig").toList) :=
  unix.join_assoc _ _ _

theorem locate_pluginJson (dir : PathBuf) :
    h.locate (unix.join dir "plugin.json".toList) = h.locate dir ++ ["plugin.json".toList] :=
  unix.locate_join_of_descent (by decide) h.cwd dir

theorem Descends.confined (hd : Descends name m) :
    Confined h loader name (loader.uses name m) := by
  obtain ⟨seg, hn, hf⟩ := hd
  have hdir : h.locate (loader.pluginDir name) = h.locate loader.pluginsDir ++ [seg] :=
    unix.locate_join_of_descent hn _ _
  -- The binary and its signature are reached from the plugins directory in one join.
  have hfile : ∀ file ∈ [m.binary, m.binary ++ ".minisig"], ∃ w ≠ [],
      h.locate (unix.join loader.pluginsDir (unix.join name.toList file.toList)) =
        h.locate (loader.pluginDir name) ++ w := by
    intro file hm
    obtain ⟨w, hw, hdesc⟩ := hf file hm
    refine ⟨w, hw, ?_⟩
    rw [hdir, List.append_assoc]
    exact unix.locate_join_of_descent hdesc _ _
  obtain ⟨b, hb, hbin⟩ := hfile m.binary (by simp)
  obtain ⟨s, hs, hsig⟩ := hfile (m.binary ++ ".minisig") (by simp)
  -- Of the eight accesses, only those of the manifest and of the directory are left.
  rw [← binaryPath_pluginDir] at hbin
  rw [← signaturePath_pluginDir] at hsig
  refine ⟨⟨seg, hdir⟩, ?_⟩
  simp only [uses, List.forall_mem_cons, List.not_mem_nil, IsEmpty.forall_iff, implies_true,
    and_true, Within]
  refine ⟨trivial, ⟨_, ?_, locate_pluginJson _⟩, List.prefix_refl _, ?_, ⟨b, hb, hbin⟩,
    ⟨s, hs, hsig⟩, ⟨b, hb, hbin⟩, b, hb, hbin⟩
  · simp
  · rw [hbin]
    exact List.prefix_append _ _

/-! ### A copy of the plugins directory

That the condition is needed is seen in a copy of the plugins directory, where the same plugins are
accepted. -/

def copyHost (h : Host) (loader : PluginDirLoader) (f : List Char) : Host :=
  { h with
    node := PathSyntax.graft (h.locate loader.pluginsDir)
      (h.locate (unix.sibling loader.pluginsDir f)) h.node }

def copyLoader (loader : PluginDirLoader) (f : List Char) : PluginDirLoader :=
  { loader with pluginsDir := unix.sibling loader.pluginsDir f }

def namesUsed (h : Host) (loader : PluginDirLoader) (name : String) (m : Manifest) :
    Location Char :=
  let dir := loader.pluginDir name
  h.locate dir ++ h.locate (unix.join dir "plugin.json".toList) ++
    h.locate (m.binaryPath dir) ++ h.locate (m.signaturePath dir)

variable {f : List Char}

theorem build_copyHost :
    (copyLoader loader f).verifierSource.build (copyHost h loader f) =
      loader.verifierSource.build h := by
  show loader.verifierSource.build _ = _
  cases loader.verifierSource <;> rfl

theorem PluginDirLoader.Loads.copy (hf : unix.Plain f) (hn : f ∉ namesUsed h loader name m)
    (hl : loader.Loads T h name o m) :
    (copyLoader loader f).Loads T (copyHost h loader f) name o m := by
  simp only [namesUsed, List.mem_append, not_or] at hn
  obtain ⟨⟨⟨hdir, hman⟩, hbin⟩, hsig⟩ := hn
  -- The manifest is read as a path from the plugins directory, where the copy is known.
  have hman' : ∀ L : PluginDirLoader, unix.join (L.pluginDir name) "plugin.json".toList =
      unix.join L.pluginsDir (unix.join name.toList "plugin.json".toList) :=
    fun L => unix.join_assoc _ _ _
  rw [hman'] at hman
  constructor
  · exact (Host.observe_copyDir hf hdir).1.trans hl.isDir
  · have hread := (Host.observe_copyDir hf hman).2.2
    rw [hman']
    refine hread.symm ▸ ?_
    rw [← hman']
    exact hl.manifest
  · rw [build_copyHost]
    exact hl.verified.copyDir hf hdir hbin hsig
  · exact hl.launch
  · exact hl.dispense

theorem descends_of_confined_copy (hf : unix.Plain f) (hn : f ∉ namesUsed h loader name m)
    (hc : Confined (copyHost h loader f) (copyLoader loader f) name
      ((copyLoader loader f).uses name m)) : Descends name m := by
  simp only [namesUsed, List.mem_append, not_or] at hn
  obtain ⟨⟨⟨hdir, -⟩, hbin⟩, hsig⟩ := hn
  rw [binaryPath_pluginDir] at hbin
  rw [signaturePath_pluginDir] at hsig
  obtain ⟨seg, hseg⟩ := hc.child
  refine ⟨seg, Host.descent_of_locate_copyDir hf hdir hseg, ?_⟩
  intro file hfile
  rcases List.mem_pair.mp hfile with rfl | rfl
  · obtain ⟨w, hw, hloc⟩ := hc.within
      (.launch (m.binaryPath ((copyLoader loader f).pluginDir name))) (by simp [uses])
    rw [hseg, List.append_assoc, binaryPath_pluginDir] at hloc
    exact ⟨w, hw, Host.descent_of_locate_copyDir hf hbin hloc⟩
  · obtain ⟨w, hw, hloc⟩ := hc.within
      (.read (m.signaturePath ((copyLoader loader f).pluginDir name))) (by simp [uses])
    rw [hseg, List.append_assoc, signaturePath_pluginDir] at hloc
    exact ⟨w, hw, Host.descent_of_locate_copyDir hf hsig hloc⟩

end Confinement

variable {K S : Type} {T : Toolkit K S} {n₁ n₂ : String} {m₁ m₂ : Manifest}

/-- **The condition is exact** for two plugins that one loader can accept. -/
theorem confined_iff_descends
    (hacc : ∃ loader h₁ h₂ o₁ o₂ l₁ l₂, h₁.cwd = h₂.cwd ∧
      Accepts T h₁ loader n₁ o₁ m₁ l₁ ∧ Accepts T h₂ loader n₂ o₂ m₂ l₂) :
    (∀ loader h₁ h₂ o₁ o₂ l₁ l₂, h₁.cwd = h₂.cwd →
      Accepts T h₁ loader n₁ o₁ m₁ l₁ → Accepts T h₂ loader n₂ o₂ m₂ l₂ →
      Confined h₁ loader n₁ l₁ ∧ Confined h₂ loader n₂ l₂ ∧
        (n₁ ≠ n₂ → h₁.locate (loader.pluginDir n₁) ≠ h₂.locate (loader.pluginDir n₂))) ↔
    Descends n₁ m₁ ∧ Descends n₂ m₂ ∧
      (n₁ ≠ n₂ → unix.descent n₁.toList ≠ unix.descent n₂.toList) := by
  constructor
  · intro hall
    obtain ⟨loader, h₁, h₂, o₁, o₂, l₁, l₂, hcwd, ha₁, ha₂⟩ := hacc
    obtain ⟨hl₁, -⟩ := accepts_iff.mp ha₁
    obtain ⟨hl₂, -⟩ := accepts_iff.mp ha₂
    -- The hypothesis is used on a copy: only there does being confined force a descent.
    obtain ⟨f, hf, hfresh⟩ :=
      unix.exists_plain_notMem (namesUsed h₁ loader n₁ m₁ ++ namesUsed h₂ loader n₂ m₂)
    obtain ⟨hf₁, hf₂⟩ := not_or.mp (mt List.mem_append.mpr hfresh)
    obtain ⟨hc₁, hc₂, hne⟩ := hall (copyLoader loader f) (copyHost h₁ loader f)
      (copyHost h₂ loader f) o₁ o₂ _ _ hcwd (accepts_iff.mpr ⟨hl₁.copy hf hf₁, rfl⟩)
      (accepts_iff.mpr ⟨hl₂.copy hf hf₂, rfl⟩)
    have hd₁ := descends_of_confined_copy hf hf₁ hc₁
    have hd₂ := descends_of_confined_copy hf hf₂ hc₂
    refine ⟨hd₁, hd₂, fun hn heq => hne hn ?_⟩
    obtain ⟨seg, hs, -⟩ := hd₁
    have e₁ := unix.locate_join_of_descent hs (copyHost h₁ loader f).cwd
      (copyLoader loader f).pluginsDir
    have e₂ := unix.locate_join_of_descent (heq ▸ hs) (copyHost h₂ loader f).cwd
      (copyLoader loader f).pluginsDir
    have hsame : (copyHost h₁ loader f).cwd = (copyHost h₂ loader f).cwd := hcwd
    exact e₁.trans (hsame ▸ e₂.symm)
  · rintro ⟨hd₁, hd₂, hne⟩ loader h₁ h₂ o₁ o₂ l₁ l₂ hcwd ha₁ ha₂
    obtain ⟨-, rfl⟩ := accepts_iff.mp ha₁
    obtain ⟨-, rfl⟩ := accepts_iff.mp ha₂
    refine ⟨hd₁.confined, hd₂.confined, fun hn heq => hne hn ?_⟩
    obtain ⟨s₁, hs₁, -⟩ := hd₁
    obtain ⟨s₂, hs₂, -⟩ := hd₂
    have e₁ : h₁.locate (loader.pluginDir n₁) = _ := unix.locate_join_of_descent hs₁ _ _
    have e₂ : h₂.locate (loader.pluginDir n₂) = _ := unix.locate_join_of_descent hs₂ _ _
    -- Both directories are children of one directory, so equal locations are equal names.
    rw [e₁, e₂, hcwd] at heq
    rw [hs₁, hs₂, List.append_cancel_left heq]

/-! ## A host that accepts -/

/-- Everything parses as `m` and verifies. -/
def lenient (m : Manifest) : Toolkit Unit Unit where
  parseManifest _ := .ok m
  utf8 _ := .ok ""
  sha256 _ := [0xab]
  decodeKey _ := some ()
  decodeSignature _ := some ()
  verifies _ _ _ := true

def pluginOf (binary : String) : Manifest := ⟨"hello", "1.0.0", "v1", binary, "ab", "acme"⟩

def hostWith (dir : Location Char) : Host where
  cwd := []
  node l := .ok (if l = dir then .directory ⟨0o755, some 0⟩ else .file ⟨0o755, some 0⟩ (.ok []))
  entries _ := none

def defaultLoader : PluginDirLoader :=
  ⟨"/opt/penguin/plugins".toList, .keys ["key"], 0⟩

def started : LaunchOutcome := ⟨.ok (), .ok ()⟩

theorem accepts_hostWith {name binary : String} {dir : Location Char} (hbinary : binary ≠ "")
    (hdir : unix.locate [] (defaultLoader.pluginDir name) = dir)
    (hfiles : ∀ file ∈ [unix.join (defaultLoader.pluginDir name) "plugin.json".toList,
      (pluginOf binary).binaryPath (defaultLoader.pluginDir name),
      (pluginOf binary).signaturePath (defaultLoader.pluginDir name)],
      unix.locate [] file ≠ dir) :
    Accepts (lenient (pluginOf binary)) (hostWith dir) defaultLoader name started (pluginOf binary)
      (defaultLoader.uses name (pluginOf binary)) := by
  have hread : ∀ file, unix.locate [] file ≠ dir → (hostWith dir).read file = .ok [] := by
    intro file hne
    simp [Host.read, Host.locate, hostWith, hne]
  have hstat : ∀ file, (hostWith dir).stat file = .ok ⟨0o755, some 0⟩ := by
    intro file
    by_cases h : unix.locate [] file = dir <;> simp [Host.stat, Host.locate, hostWith, h]
  have howner : ∀ file, OwnershipOk ((hostWith dir).stat file) defaultLoader.daemonUid := by
    intro file
    rw [hstat]
    exact ⟨_, rfl, by decide, by simp⟩
  simp only [List.forall_mem_cons] at hfiles
  obtain ⟨hmanifest, hbin, hsig, -⟩ := hfiles
  refine PluginDirLoader.accepts_iff.mpr ⟨⟨?_, ?_, ⟨howner _, howner _, ?_, ?_⟩, rfl, rfl⟩, rfl⟩
  · simp [Host.isDir, Host.locate, hostWith, hdir]
  · rw [hread _ hmanifest]
    exact ⟨_, rfl, rfl, by simp [pluginOf], hbinary, by simp [pluginOf]⟩
  · rw [hread _ hbin]
    exact ⟨_, rfl, (by decide : hexEncode [0xab] = "ab")⟩
  · rw [hread _ hbin, hread _ hsig]
    exact ⟨_, _, _, _, rfl, rfl, rfl, rfl, rfl⟩

theorem descends_pluginOf {name : String} (seg : List Char)
    (hname : unix.descent name.toList = some [seg])
    (hbinary : unix.descent (unix.join name.toList "bin/hello".toList) =
      some [seg, "bin".toList, "hello".toList])
    (hsignature : unix.descent (unix.join name.toList "bin/hello.minisig".toList) =
      some [seg, "bin".toList, "hello.minisig".toList]) :
    Descends name (pluginOf "bin/hello") := by
  refine ⟨seg, hname, ?_⟩
  intro file hfile
  rcases List.mem_pair.mp hfile with rfl | rfl
  · exact ⟨_, List.cons_ne_nil _ _, hbinary⟩
  · exact ⟨_, List.cons_ne_nil _ _, hsignature⟩

theorem hello_and_other_confined :
    ∃ h₁ h₂ l₁ l₂,
      Accepts (lenient (pluginOf "bin/hello")) h₁ defaultLoader "hello" started
        (pluginOf "bin/hello") l₁ ∧
      Accepts (lenient (pluginOf "bin/hello")) h₂ defaultLoader "other" started
        (pluginOf "bin/hello") l₂ ∧
      Confined h₁ defaultLoader "hello" l₁ ∧ Confined h₂ defaultLoader "other" l₂ ∧
      h₁.locate (defaultLoader.pluginDir "hello") ≠
        h₂.locate (defaultLoader.pluginDir "other") := by
  let h₁ := hostWith (unix.locate [] (defaultLoader.pluginDir "hello"))
  let h₂ := hostWith (unix.locate [] (defaultLoader.pluginDir "other"))
  have ha₁ : Accepts (lenient (pluginOf "bin/hello")) h₁ defaultLoader "hello" started
    (pluginOf "bin/hello") _ := accepts_hostWith (by decide) rfl (by decide)
  have ha₂ : Accepts (lenient (pluginOf "bin/hello")) h₂ defaultLoader "other" started
    (pluginOf "bin/hello") _ := accepts_hostWith (by decide) rfl (by decide)
  have hd₁ : Descends "hello" (pluginOf "bin/hello") :=
    descends_pluginOf "hello".toList (by decide) (by decide) (by decide)
  have hd₂ : Descends "other" (pluginOf "bin/hello") :=
    descends_pluginOf "other".toList (by decide) (by decide) (by decide)
  have hcwd : h₁.cwd = h₂.cwd := rfl
  have hall := (confined_iff_descends
    ⟨defaultLoader, h₁, h₂, started, started, _, _, hcwd, ha₁, ha₂⟩).mpr
    ⟨hd₁, hd₂, fun _ => by decide⟩
  obtain ⟨hc₁, hc₂, hne⟩ := hall defaultLoader h₁ h₂ started started _ _ hcwd ha₁ ha₂
  exact ⟨h₁, h₂, _, _, ha₁, ha₂, hc₁, hc₂, hne (by decide)⟩

/-- **The loader leaves the plugins directory**, and `hello` and `./hello` are one. -/
theorem dotted_name_escapes :
    (∃ l, Accepts (lenient (pluginOf "/bin/sh")) (hostWith ["tmp".toList, "hello".toList])
      defaultLoader "../../../tmp/hello" started (pluginOf "/bin/sh") l ∧
      FileUse.launch "/bin/sh".toList ∈ l ∧
      ¬ Confined (hostWith ["tmp".toList, "hello".toList]) defaultLoader "../../../tmp/hello" l) ∧
    ∃ h l₁ l₂,
      Accepts (lenient (pluginOf "bin")) h defaultLoader "hello" started (pluginOf "bin") l₁ ∧
      Accepts (lenient (pluginOf "bin")) h defaultLoader "./hello" started (pluginOf "bin") l₂ ∧
      h.locate (defaultLoader.pluginDir "hello") =
        h.locate (defaultLoader.pluginDir "./hello") := by
  constructor
  · refine ⟨_, accepts_hostWith (by decide) (by decide) (by decide), by decide, fun hc => ?_⟩
    obtain ⟨seg, hseg⟩ := hc.child
    have hlen := congrArg List.length hseg
    rw [List.length_append, List.length_singleton] at hlen
    exact absurd hlen (by decide)
  · exact ⟨hostWith (unix.locate [] (defaultLoader.pluginDir "hello")), _, _,
      accepts_hostWith (by decide) rfl (by decide),
      accepts_hostWith (by decide) (by decide) (by decide), by decide⟩

end Penguind.Daemon
