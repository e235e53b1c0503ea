import Penguind.Foundation.Run
import Penguind.Update.Release

/-!
# Checking for updates and applying them

A check compares the tag of the latest release with the running version as texts. Applying
downloads the archive and the signature, verifies them and replaces the executable. It compares no
versions.
-/

namespace Penguind.Update

open Foundation Extplugin

structure UpdateConfig where
  repo : String
  currentVersion : String
  binaryName : String
  publicKey : Option String

structure Target where
  os : String
  arch : String

inductive UpdateError
  | noVerificationKey
  | unsupportedOs
  | unsupportedArch
  | request (err : String)
  | responseBody (err : String)
  | httpStatus (status : UInt16)
  | decode (err : String)
  | noReleaseFound (repo : String)
  | invalidSignatureEncoding
  | assetSelection (err : SelectError)
  | verify (err : VerifyError)
  | archive (err : ArchiveError)
  | stageBinary (err : String)
  | selfReplace (err : String)
  | installTask (err : String)
  deriving DecidableEq

inductive Answer
  | failed (err : String)
  | answered (status : UInt16) (body : Except String Bytes)

inductive InstallOutcome
  | stageBinary (err : String)
  | selfReplace (err : String)
  | installTask (err : String) (replaced : Bool)
  | installed

def InstallOutcome.replaces : InstallOutcome → Bool
  | .stageBinary _ | .selfReplace _ => false
  | .installTask _ replaced => replaced
  | .installed => true

structure ApplyOutcome where
  list : Answer
  archive : Answer
  signature : Answer
  install : InstallOutcome

inductive Event
  | get (url : String)
  | replace (tag : String) (binary : Bytes)
  deriving DecidableEq

abbrev UpdateM := Stateful (List Event) UpdateError

def record (e : Event) : UpdateM Unit := modify (· ++ [e])

/-! ## The updater -/

section Updater

variable {V K S : Type} [LinearOrder V] (L : Libraries V K S) (cfg : UpdateConfig)

def Answer.releases : Answer → Except UpdateError (List GithubRelease)
  | .failed err => .error (.request err)
  | .answered _ (.error err) => .error (.responseBody err)
  | .answered status (.ok body) =>
    if status ≠ 200 then .error (.httpStatus status)
    else (L.decodeReleases body).mapError .decode

def Answer.bytes : Answer → Except UpdateError Bytes
  | .failed err => .error (.request err)
  | .answered status body =>
    if status ≠ 200 then .error (.httpStatus status) else body.mapError .responseBody

def fetchLatestRelease (a : Answer) : UpdateM GithubRelease := do
  record (.get ("https://api.github.com/repos/" ++ cfg.repo ++ "/releases"))
  let releases ← Stateful.ofExcept id (a.releases L)
  Stateful.ofOption (.noReleaseFound cfg.repo) (selectLatestRelease L releases)

def downloadBytes (url : String) (a : Answer) : UpdateM Bytes := do
  record (.get url)
  Stateful.ofExcept id a.bytes

def downloadText (url : String) (a : Answer) : UpdateM String := do
  let bytes ← downloadBytes url a
  Stateful.ofOption .invalidSignatureEncoding (L.fromUtf8 bytes)

def check (a : Answer) : UpdateM (Bool × String) := do
  let release ← fetchLatestRelease L cfg a
  let available : Bool :=
    normalizeVersion release.tagName ≠ normalizeVersion cfg.currentVersion
  pure (available, release.tagName)

def install (tag : String) (binary : Bytes) : InstallOutcome → UpdateM Unit
  | .stageBinary err => throw (.stageBinary err)
  | .selfReplace err => throw (.selfReplace err)
  | .installTask err replaced => do
    if replaced then record (.replace tag binary)
    throw (.installTask err)
  | .installed => record (.replace tag binary)

def prepare (target : Target) (o : ApplyOutcome) : UpdateM (String × Bytes) := do
  let publicKey ← Stateful.ofOption .noVerificationKey cfg.publicKey
  let os ← Stateful.ofOption .unsupportedOs (osFromStr target.os)
  let arch ← Stateful.ofOption .unsupportedArch (archFromStr target.arch)
  let release ← fetchLatestRelease L cfg o.list
  -- The running version plays no part in what follows.
  let version := normalizeVersion release.tagName
  let selected ← Stateful.ofExcept .assetSelection
    (selectAsset release (assetFilename version os arch))
  let archiveBytes ← downloadBytes selected.binaryUrl o.archive
  let signatureText ← downloadText L selected.signatureUrl o.signature
  Stateful.ofExcept .verify (verify L archiveBytes signatureText publicKey)
  let extracted ← Stateful.ofExcept .archive
    (extractBinary L os archiveBytes os.archiveFormat (binaryFilename cfg.binaryName os))
  pure (release.tagName, extracted)

def apply (target : Target) (o : ApplyOutcome) : UpdateM Unit := do
  let (tag, extracted) ← prepare L cfg target o
  install tag extracted o.install

/-! ## What was found -/

structure Found where
  publicKey : String
  os : Os
  arch : Arch
  releases : List GithubRelease
  release : GithubRelease
  asset : SelectedAsset
  archive : Bytes
  signature : String

structure Prepared (target : Target) (o : ApplyOutcome) (f : Found) (binary : Bytes) : Prop where
  publicKey : cfg.publicKey = some f.publicKey
  os : osFromStr target.os = some f.os
  arch : archFromStr target.arch = some f.arch
  releases : o.list.releases L = .ok f.releases
  release : selectLatestRelease L f.releases = some f.release
  asset : selectAsset f.release
    (assetFilename (normalizeVersion f.release.tagName) f.os f.arch) = .ok f.asset
  archive : o.archive.bytes = .ok f.archive
  signature : ∃ bytes, o.signature.bytes = .ok bytes ∧ L.fromUtf8 bytes = some f.signature
  verified : verify L f.archive f.signature f.publicKey = .ok ()
  binary : extractBinary L f.os f.archive f.os.archiveFormat (binaryFilename cfg.binaryName f.os) =
    .ok binary

variable {L cfg} {target : Target} {a : Answer} {o : ApplyOutcome} {s t : List Event}

theorem ends_fetchLatestRelease {release : GithubRelease} :
    Stateful.Ends (fetchLatestRelease L cfg a) s release t ↔
      ∃ releases, a.releases L = .ok releases ∧ selectLatestRelease L releases = some release ∧
        s ++ [.get ("https://api.github.com/repos/" ++ cfg.repo ++ "/releases")] = t := by
  simp only [fetchLatestRelease, record, Stateful.ends_modify_bind, Stateful.ends_ofExcept_bind,
    Stateful.ends_ofOption]

theorem ends_downloadBytes {url : String} {bytes : Bytes} :
    Stateful.Ends (downloadBytes url a) s bytes t ↔ a.bytes = .ok bytes ∧ s ++ [.get url] = t := by
  simp only [downloadBytes, record, Stateful.ends_modify_bind, Stateful.ends_ofExcept]

omit [LinearOrder V] in
theorem ends_downloadText {url text : String} :
    Stateful.Ends (downloadText L url a) s text t ↔
      (∃ bytes, a.bytes = .ok bytes ∧ L.fromUtf8 bytes = some text) ∧ s ++ [.get url] = t := by
  simp only [downloadText, Stateful.ends_bind, ends_downloadBytes, Stateful.ends_ofOption]
  constructor
  · rintro ⟨bytes, _, ⟨hbytes, rfl⟩, htext, rfl⟩
    exact ⟨⟨bytes, hbytes, htext⟩, rfl⟩
  · rintro ⟨⟨bytes, hbytes, htext⟩, rfl⟩
    exact ⟨bytes, _, ⟨hbytes, rfl⟩, htext, rfl⟩

theorem ends_check {available : Bool} {tag : String} :
    Stateful.Ends (check L cfg a) s (available, tag) t ↔
      ∃ release, Stateful.Ends (fetchLatestRelease L cfg a) s release t ∧ release.tagName = tag ∧
        decide (normalizeVersion tag ≠ normalizeVersion cfg.currentVersion) = available := by
  simp only [check, Stateful.ends_bind, Stateful.ends_pure, Prod.mk.injEq]
  constructor
  · rintro ⟨release, _, hfetch, ⟨rfl, rfl⟩, rfl⟩
    exact ⟨release, hfetch, rfl, rfl⟩
  · rintro ⟨release, hfetch, rfl, rfl⟩
    exact ⟨release, _, hfetch, ⟨rfl, rfl⟩, rfl⟩

def Found.requests (cfg : UpdateConfig) (f : Found) : List Event :=
  [.get ("https://api.github.com/repos/" ++ cfg.repo ++ "/releases"), .get f.asset.binaryUrl,
    .get f.asset.signatureUrl]

theorem ends_prepare {tag : String} {binary : Bytes} :
    Stateful.Ends (prepare L cfg target o) s (tag, binary) t ↔
      ∃ f, Prepared L cfg target o f binary ∧ f.release.tagName = tag ∧
        s ++ f.requests cfg = t := by
  rw [prepare]
  -- the general rule for sequences is left to the three requests
  simp only [↓Stateful.ends_ofOption_bind, ↓Stateful.ends_ofExcept_bind, Stateful.ends_bind,
    ends_fetchLatestRelease, ends_downloadBytes, ends_downloadText, Stateful.ends_pure]
  constructor
  · rintro ⟨publicKey, hkey, os, hos, arch, harch, release, _, ⟨releases, hreleases, hselect, rfl⟩,
      asset, hasset, archive, _, ⟨harchive, rfl⟩, signature, _, ⟨hsignature, rfl⟩, _, hverify,
      extracted, hextract, heq, rfl⟩
    obtain ⟨rfl, rfl⟩ := Prod.mk.inj heq
    exact ⟨⟨publicKey, os, arch, releases, release, asset, archive, signature⟩,
      ⟨hkey, hos, harch, hreleases, hselect, hasset, harchive, hsignature, hverify, hextract⟩, rfl,
      by simp [Found.requests]⟩
  · rintro ⟨f, h, rfl, rfl⟩
    exact ⟨f.publicKey, h.publicKey, f.os, h.os, f.arch, h.arch, f.release, _,
      ⟨f.releases, h.releases, h.release, rfl⟩, f.asset, h.asset, f.archive, _, ⟨h.archive, rfl⟩,
      f.signature, _, ⟨h.signature, rfl⟩, (), h.verified, binary, h.binary, rfl,
      by simp [Found.requests]⟩

/-! ## What is installed -/

def Unreplaced (s : List Event) : Prop := ∀ tag binary, .replace tag binary ∉ s

theorem keeps_record_get (url : String) : Stateful.Keeps Unreplaced (record (.get url)) := by
  refine Stateful.keeps_modify fun s hs tag binary hmem => ?_
  rw [List.mem_append, List.mem_singleton] at hmem
  rcases hmem with hmem | hmem
  · exact hs tag binary hmem
  · cases hmem

theorem keeps_fetchLatestRelease :
    Stateful.Keeps Unreplaced (fetchLatestRelease L cfg a) := by
  refine Stateful.keeps_bind (keeps_record_get _) fun _ => ?_
  exact Stateful.keeps_bind (Stateful.keeps_ofExcept _ _) fun _ => Stateful.keeps_ofOption _ _

theorem keeps_downloadBytes {url : String} : Stateful.Keeps Unreplaced (downloadBytes url a) :=
  Stateful.keeps_bind (keeps_record_get _) fun _ => Stateful.keeps_ofExcept _ _

omit [LinearOrder V] in
theorem keeps_downloadText {url : String} : Stateful.Keeps Unreplaced (downloadText L url a) :=
  Stateful.keeps_bind keeps_downloadBytes fun _ => Stateful.keeps_ofOption _ _

theorem keeps_prepare : Stateful.Keeps Unreplaced (prepare L cfg target o) := by
  refine Stateful.keeps_bind (Stateful.keeps_ofOption _ _) fun publicKey => ?_
  refine Stateful.keeps_bind (Stateful.keeps_ofOption _ _) fun os => ?_
  refine Stateful.keeps_bind (Stateful.keeps_ofOption _ _) fun arch => ?_
  refine Stateful.keeps_bind keeps_fetchLatestRelease fun release => ?_
  refine Stateful.keeps_bind (Stateful.keeps_ofExcept _ _) fun asset => ?_
  refine Stateful.keeps_bind keeps_downloadBytes fun archive => ?_
  refine Stateful.keeps_bind keeps_downloadText fun signature => ?_
  refine Stateful.keeps_bind (Stateful.keeps_ofExcept _ _) fun _ => ?_
  exact Stateful.keeps_bind (Stateful.keeps_ofExcept _ _) fun _ => Stateful.keeps_pure _

theorem mem_install_iff {tag tag' : String} {binary binary' : Bytes}
    (outcome : InstallOutcome) (hs : Unreplaced s) :
    .replace tag' binary' ∈ (install tag binary outcome s).2 ↔
      outcome.replaces = true ∧ tag' = tag ∧ binary' = binary := by
  have hrecord : .replace tag' binary' ∈ s ++ [.replace tag binary] ↔
      tag' = tag ∧ binary' = binary := by
    simp [hs tag' binary']
  cases outcome with
  | stageBinary | selfReplace => exact ⟨fun h => absurd h (hs _ _), nofun⟩
  | installed => exact hrecord.trans (by simp [InstallOutcome.replaces])
  | installTask err replaced =>
    cases replaced with
    | false => exact ⟨fun h => absurd h (hs _ _), nofun⟩
    | true => exact hrecord.trans (by simp [InstallOutcome.replaces])

theorem mem_apply_iff {tag : String} {binary : Bytes} :
    .replace tag binary ∈ (apply L cfg target o []).2 ↔
      o.install.replaces = true ∧ ∃ f, Prepared L cfg target o f binary ∧
        f.release.tagName = tag := by
  have hkeeps : Unreplaced (prepare L cfg target o []).2 := keeps_prepare [] nofun
  have hends : ∀ f, Prepared L cfg target o f binary → f.release.tagName = tag →
      prepare L cfg target o [] = (.ok (tag, binary), f.requests cfg) :=
    fun f hf htag => ends_prepare.mpr ⟨f, hf, htag, rfl⟩
  rw [apply, Stateful.bind_apply]
  rcases hprepare : prepare L cfg target o [] with ⟨err | ⟨tag', binary'⟩, u⟩
  · rw [hprepare] at hkeeps
    refine ⟨fun h => absurd h (hkeeps _ _), ?_⟩
    rintro ⟨-, f, hf, htag⟩
    cases hprepare.symm.trans (hends f hf htag)
  · rw [hprepare] at hkeeps
    refine (mem_install_iff o.install hkeeps).trans (and_congr_right fun _ => ?_)
    constructor
    · rintro ⟨rfl, rfl⟩
      obtain ⟨f, hf, htag, -⟩ := ends_prepare.mp hprepare
      exact ⟨f, hf, htag⟩
    · rintro ⟨f, hf, htag⟩
      cases hprepare.symm.trans (hends f hf htag)
      exact ⟨rfl, rfl⟩

theorem apply_of_no_key (h : cfg.publicKey = none) :
    apply L cfg target o s = (.error .noVerificationKey, s) := by
  rw [apply, Stateful.bind_apply, prepare, Stateful.bind_apply, h]
  rfl

/-- What is reported or installed is the latest release of the list, from a signed archive; without
a key nothing is fetched. -/
structure Trustworthy (L : Libraries V K S) (cfg : UpdateConfig) (target : Target) (a : Answer)
    (o : ApplyOutcome) : Prop where
  checked : ∀ available tag t, Stateful.Ends (check L cfg a) [] (available, tag) t →
    ∃ releases release v, a.releases L = .ok releases ∧ IsLatest L releases release v ∧
      release.tagName = tag
  installed : ∀ tag binary, .replace tag binary ∈ (apply L cfg target o []).2 →
    ∃ publicKey os releases release v archive signatureBytes signatureText key signature entries,
      cfg.publicKey = some publicKey ∧ osFromStr target.os = some os ∧
      o.list.releases L = .ok releases ∧ IsLatest L releases release v ∧
      release.tagName = tag ∧
      o.archive.bytes = .ok archive ∧
      o.signature.bytes = .ok signatureBytes ∧ L.fromUtf8 signatureBytes = some signatureText ∧
      L.decodeKey publicKey = some key ∧ L.decodeSignature signatureText = some signature ∧
      L.verifies key archive signature = true ∧
      L.entries os.archiveFormat archive = .ok entries ∧
      FirstMatch L os (binaryFilename cfg.binaryName os) entries binary
  keyless : cfg.publicKey = none → apply L cfg target o [] = (.error .noVerificationKey, [])

/-- **Only verified binaries are installed**, and from a latest release. -/
theorem update_trustworthy (L : Libraries V K S) (cfg : UpdateConfig) (target : Target) (a : Answer)
    (o : ApplyOutcome) :
    Trustworthy L cfg target a o ∧
      ∀ releases releases', releases.Perm releases' →
        (selectLatestRelease L releases).bind L.version =
          (selectLatestRelease L releases').bind L.version := by
  refine ⟨⟨?_, ?_, fun h => apply_of_no_key h⟩, fun _ _ h => selectLatestRelease_perm h⟩
  · intro available tag t hcheck
    obtain ⟨release, hfetch, htag, -⟩ := ends_check.mp hcheck
    obtain ⟨releases, hreleases, hselect, -⟩ := ends_fetchLatestRelease.mp hfetch
    obtain ⟨v, hlatest⟩ := selectLatestRelease_spec hselect
    exact ⟨releases, release, v, hreleases, hlatest, htag⟩
  · intro tag binary hmem
    obtain ⟨-, f, hf, htag⟩ := mem_apply_iff.mp hmem
    obtain ⟨v, hlatest⟩ := selectLatestRelease_spec hf.release
    obtain ⟨signatureBytes, hbytes, htext⟩ := hf.signature
    obtain ⟨key, signature, hkey, hsignature, hverifies⟩ := (verify_ok_iff L).mp hf.verified
    obtain ⟨entries, hentries, hmatch⟩ := extractBinary_ok_iff.mp hf.binary
    exact ⟨f.publicKey, f.os, f.releases, f.release, v, f.archive, signatureBytes, f.signature, key,
      signature, entries, hf.publicKey, hf.os, hf.releases, hlatest, htag, hf.archive, hbytes,
      htext, hkey, hsignature, hverifies, hentries, hmatch⟩

end Updater

end Penguind.Update
