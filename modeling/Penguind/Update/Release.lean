import Penguind.Extplugin.Verify

/-!
# Releases, their assets and their archives

The release is the last of those with the greatest version; its archive and its signature are the
assets with the expected names; the binary is the first regular entry with the expected name.
-/

namespace Penguind.Update

open Extplugin

/-! ## Platforms -/

inductive ArchiveFormat
  | tarGz
  | zip
  deriving DecidableEq

def ArchiveFormat.extension : ArchiveFormat → String
  | .tarGz => "tar.gz"
  | .zip => "zip"

inductive Os
  | linux
  | macos
  | windows
  deriving DecidableEq

namespace Os

def assetToken : Os → String
  | .linux => "linux"
  | .macos => "darwin"
  | .windows => "windows"

def archiveFormat : Os → ArchiveFormat
  | .windows => .zip
  | .linux | .macos => .tarGz

def exeSuffix : Os → String
  | .windows => ".exe"
  | .linux | .macos => ""

end Os

def osFromStr (value : String) : Option Os :=
  if value = "linux" then some .linux
  else if value = "macos" then some .macos
  else if value = "windows" then some .windows
  else none

inductive Arch
  | amd64
  | arm64
  deriving DecidableEq

def Arch.assetToken : Arch → String
  | .amd64 => "amd64"
  | .arm64 => "arm64"

def archFromStr (value : String) : Option Arch :=
  if value = "x86_64" then some .amd64
  else if value = "aarch64" then some .arm64
  else none

def normalizeVersion (version : String) : String :=
  match version.toList with
  | 'v' :: rest | 'V' :: rest => String.ofList rest
  | _ => version

def assetFilename (version : String) (os : Os) (arch : Arch) : String :=
  "penguin_" ++ version ++ "_" ++ os.assetToken ++ "_" ++ arch.assetToken ++ "." ++
    os.archiveFormat.extension

def binaryFilename (binaryName : String) (os : Os) : String := binaryName ++ os.exeSuffix

/-! ## Releases and archives -/

structure GithubAsset where
  name : String
  browserDownloadUrl : String
  deriving DecidableEq

structure GithubRelease where
  tagName : String
  draft : Bool
  assets : List GithubAsset
  deriving DecidableEq

structure SelectedAsset where
  binaryUrl : String
  signatureUrl : String
  deriving DecidableEq

inductive SelectError
  | assetNotFound (expected : String)
  | signatureNotFound (expected : String)
  deriving DecidableEq

inductive VerifyError
  | malformedPublicKey
  | malformedSignature
  | signatureMismatch
  deriving DecidableEq

inductive ArchiveError
  | tarRead (err : String)
  | zipRead (err : String)
  | entryRead (binaryName err : String)
  | binaryNotFound (binaryName : String)
  deriving DecidableEq

structure ArchiveEntry where
  isFile : Bool
  path : Except String (Option String)
  contents : Except String Bytes

structure ZipFile where
  isFile : Bool
  name : String
  contents : Except String Bytes

def ZipFile.entry (file : ZipFile) : ArchiveEntry :=
  ⟨file.isFile, .ok (some file.name), file.contents⟩

/-- An archive is read entry by entry, each of which may be an error. -/
structure Libraries (V K S : Type) where
  parseVersion : String → Option V
  decodeReleases : Bytes → Except String (List GithubRelease)
  fromUtf8 : Bytes → Option String
  decodeKey : String → Option K
  decodeSignature : String → Option S
  verifies : K → Bytes → S → Bool
  untar : Bytes → Except String (List (Except String ArchiveEntry))
  unzip : Bytes → Except String (List (Except String ZipFile))
  windowsFileName : String → Option String

variable {V K S : Type} (L : Libraries V K S)

def Libraries.version (release : GithubRelease) : Option V :=
  L.parseVersion (normalizeVersion release.tagName)

section Select

variable [LinearOrder V]

/-- The greater of two versions, or the later one. -/
def later {α : Type} (a b : V × α) : V × α := if b.1 < a.1 then a else b

def maxByVersion {α : Type} : List (V × α) → Option (V × α)
  | [] => none
  | a :: l => some (l.foldl later a)

def selectLatestRelease (releases : List GithubRelease) : Option GithubRelease :=
  let published := releases.filter fun release => !release.draft
  let versioned := published.filterMap fun release => (L.version release).map fun v => (v, release)
  (maxByVersion versioned).map Prod.snd

end Select

def findAsset (release : GithubRelease) (name : String) : Option GithubAsset :=
  release.assets.find? fun asset => asset.name = name

def selectAsset (release : GithubRelease) (expectedFilename : String) :
    Except SelectError SelectedAsset := do
  let binary ← (findAsset release expectedFilename).elim
    (.error (.assetNotFound expectedFilename)) .ok
  let signature ← (findAsset release (expectedFilename ++ ".minisig")).elim
    (.error (.signatureNotFound expectedFilename)) .ok
  .ok ⟨binary.browserDownloadUrl, signature.browserDownloadUrl⟩

/-! ## The signature and the archive -/

def verify (data : Bytes) (signatureText publicKeyText : String) : Except VerifyError Unit :=
  match L.decodeKey publicKeyText with
  | none => .error .malformedPublicKey
  | some publicKey =>
    match L.decodeSignature signatureText with
    | none => .error .malformedSignature
    | some signature =>
      if L.verifies publicKey data signature then .ok () else .error .signatureMismatch

def Libraries.fileName (os : Os) (path : String) : Option String :=
  match os with
  | .windows => L.windowsFileName path
  | .linux | .macos => (unix.fileName path.toList).map String.ofList

def basenameMatches (os : Os) (entryName binaryName : String) : Bool :=
  L.fileName os entryName = some binaryName

def extractFrom (readError : String → ArchiveError) (os : Os) (binaryName : String) :
    List (Except String ArchiveEntry) → Except ArchiveError Bytes
  | [] => .error (.binaryNotFound binaryName)
  | .error err :: _ => .error (readError err)
  | .ok entry :: entries =>
    if !entry.isFile then extractFrom readError os binaryName entries
    else
      match entry.path with
      | .error err => .error (readError err)
      | .ok path =>
        if path.any (basenameMatches L os · binaryName) then
          entry.contents.mapError (.entryRead binaryName)
        else extractFrom readError os binaryName entries

def extractFromTarGz (os : Os) (bytes : Bytes) (binaryName : String) : Except ArchiveError Bytes :=
  match L.untar bytes with
  | .error err => .error (.tarRead err)
  | .ok entries => extractFrom L .tarRead os binaryName entries

def extractFromZip (os : Os) (bytes : Bytes) (binaryName : String) : Except ArchiveError Bytes :=
  match L.unzip bytes with
  | .error err => .error (.zipRead err)
  | .ok files => extractFrom L .zipRead os binaryName (files.map (Except.map ZipFile.entry))

def extractBinary (os : Os) (archiveBytes : Bytes) (format : ArchiveFormat) (binaryName : String) :
    Except ArchiveError Bytes :=
  match format with
  | .tarGz => extractFromTarGz L os archiveBytes binaryName
  | .zip => extractFromZip L os archiveBytes binaryName

/-! ## What is selected -/

section Select

variable [LinearOrder V]

structure IsLatest (releases : List GithubRelease) (release : GithubRelease) (v : V) : Prop where
  mem : release ∈ releases
  published : release.draft = false
  version : L.version release = some v
  greatest : ∀ release' ∈ releases, release'.draft = false →
    ∀ v', L.version release' = some v' → v' ≤ v

theorem foldl_later {α : Type} (l : List (V × α)) (a : V × α) :
    l.foldl later a ∈ a :: l ∧ ∀ b ∈ a :: l, b.1 ≤ (l.foldl later a).1 := by
  induction l generalizing a with
  | nil => simp
  | cons b l ih =>
    obtain ⟨hmem, hle⟩ := ih (later a b)
    have hlater : a.1 ≤ (later a b).1 ∧ b.1 ≤ (later a b).1 ∧ (later a b = a ∨ later a b = b) := by
      unfold later
      split_ifs with h
      · exact ⟨le_rfl, h.le, .inl rfl⟩
      · exact ⟨not_lt.mp h, le_rfl, .inr rfl⟩
    rw [List.foldl_cons]
    rw [List.forall_mem_cons] at hle
    refine ⟨?_, ?_⟩
    · rcases List.mem_cons.mp hmem with heq | hmem
      · rw [heq]
        rcases hlater.2.2 with h | h <;> simp [h]
      · exact List.mem_cons_of_mem _ (List.mem_cons_of_mem _ hmem)
    · simp only [List.forall_mem_cons]
      exact ⟨hlater.1.trans hle.1, hlater.2.1.trans hle.1, hle.2⟩

theorem maxByVersion_spec {α : Type} {l : List (V × α)} {a : V × α}
    (h : maxByVersion l = some a) : a ∈ l ∧ ∀ b ∈ l, b.1 ≤ a.1 := by
  cases l with
  | nil => cases h
  | cons b l =>
    obtain rfl := Option.some.inj h
    exact foldl_later l b

theorem maxByVersion_eq_none_iff {α : Type} {l : List (V × α)} :
    maxByVersion l = none ↔ l = [] := by
  cases l <;> simp [maxByVersion]

variable {L}

/-- **The selected release is a latest one.** -/
theorem selectLatestRelease_spec {releases : List GithubRelease} {release : GithubRelease}
    (h : selectLatestRelease L releases = some release) : ∃ v, IsLatest L releases release v := by
  obtain ⟨⟨v, _⟩, hmax, rfl⟩ := Option.map_eq_some_iff.mp h
  obtain ⟨hmem, hle⟩ := maxByVersion_spec hmax
  simp only [List.mem_filterMap, List.mem_filter, Option.map_eq_some_iff] at hmem hle
  obtain ⟨release, ⟨hmem, hdraft⟩, v', hv, heq⟩ := hmem
  obtain ⟨rfl, rfl⟩ := Prod.mk.inj heq
  refine ⟨v', hmem, by simpa using hdraft, hv, fun release' hmem' hdraft' w hw => ?_⟩
  exact hle (w, release') ⟨release', ⟨hmem', by simpa using hdraft'⟩, w, hw, rfl⟩

theorem selectLatestRelease_eq_none_iff {releases : List GithubRelease} :
    selectLatestRelease L releases = none ↔
      ∀ release ∈ releases, release.draft = false → L.version release = none := by
  simp [selectLatestRelease, maxByVersion_eq_none_iff, List.filterMap_eq_nil_iff]

theorem IsLatest.version_eq {releases releases' : List GithubRelease}
    (hmem : ∀ release, release ∈ releases ↔ release ∈ releases') {release release' : GithubRelease}
    {v v' : V} (h : IsLatest L releases release v) (h' : IsLatest L releases' release' v') :
    v = v' := by
  apply le_antisymm
  · exact h'.greatest release ((hmem release).mp h.mem) h.published v h.version
  · exact h.greatest release' ((hmem release').mpr h'.mem) h'.published v' h'.version

/-- **The version does not depend on the order of the list.** -/
theorem selectLatestRelease_perm {releases releases' : List GithubRelease}
    (h : releases.Perm releases') :
    (selectLatestRelease L releases).bind L.version =
      (selectLatestRelease L releases').bind L.version := by
  have hmem : ∀ release, release ∈ releases ↔ release ∈ releases' := fun _ => h.mem_iff
  have hnone : selectLatestRelease L releases = none ↔ selectLatestRelease L releases' = none := by
    simp only [selectLatestRelease_eq_none_iff, hmem]
  cases hs : selectLatestRelease L releases with
  | none => rw [hnone.mp hs]
  | some release =>
    cases hs' : selectLatestRelease L releases' with
    | none => rw [hnone.mpr hs'] at hs; cases hs
    | some release' =>
      obtain ⟨v, hv⟩ := selectLatestRelease_spec hs
      obtain ⟨v', hv'⟩ := selectLatestRelease_spec hs'
      rw [Option.bind_some, Option.bind_some, hv.version, hv'.version, hv.version_eq hmem hv']

end Select

/-! ## What is verified and extracted -/

theorem verify_ok_iff {data : Bytes} {signatureText publicKeyText : String} :
    verify L data signatureText publicKeyText = .ok () ↔
      ∃ publicKey signature, L.decodeKey publicKeyText = some publicKey ∧
        L.decodeSignature signatureText = some signature ∧
        L.verifies publicKey data signature = true := by
  unfold verify
  cases L.decodeKey publicKeyText with
  | none => simp
  | some publicKey =>
    cases L.decodeSignature signatureText with
    | none => simp
    | some signature => simp

def Libraries.baseName (os : Os) (entry : ArchiveEntry) : Option String :=
  entry.path.toOption.join.bind (L.fileName os)

def FirstMatch (os : Os) (name : String) (entries : List (Except String ArchiveEntry))
    (binary : Bytes) : Prop :=
  ∃ (before : List ArchiveEntry) (entry : ArchiveEntry) (after : List (Except String ArchiveEntry)),
    entries = before.map .ok ++ .ok entry :: after ∧
    entry.isFile = true ∧ L.baseName os entry = some name ∧ entry.contents = .ok binary ∧
    ∀ skipped ∈ before, skipped.isFile = true →
      L.baseName os skipped ≠ some name ∧ skipped.path.isOk = true

def Libraries.entries (format : ArchiveFormat) (bytes : Bytes) :
    Except String (List (Except String ArchiveEntry)) :=
  match format with
  | .tarGz => L.untar bytes
  | .zip => (L.unzip bytes).map fun files => files.map (Except.map ZipFile.entry)

section Extract

variable {L} {os : Os} {name : String} {binary : Bytes}

theorem not_firstMatch_nil : ¬ FirstMatch L os name [] binary := by
  rintro ⟨before, entry, after, h, -⟩
  simp at h

variable {entries : List (Except String ArchiveEntry)}

theorem not_firstMatch_error {err : String} :
    ¬ FirstMatch L os name (.error err :: entries) binary := by
  rintro ⟨before, entry, after, h, -⟩
  cases before <;> simp at h

theorem firstMatch_cons {entry : ArchiveEntry} :
    FirstMatch L os name (.ok entry :: entries) binary ↔
      (entry.isFile = true ∧ L.baseName os entry = some name ∧ entry.contents = .ok binary) ∨
        (entry.isFile = true → L.baseName os entry ≠ some name ∧ entry.path.isOk = true) ∧
          FirstMatch L os name entries binary := by
  constructor
  · rintro ⟨before, entry', after, h, hfile, hname, hcontents, hbefore⟩
    cases before with
    | nil =>
      obtain ⟨heq, -⟩ := List.cons.inj h
      obtain rfl := Except.ok.inj heq
      exact .inl ⟨hfile, hname, hcontents⟩
    | cons skipped before =>
      obtain ⟨heq, hrest⟩ := List.cons.inj h
      obtain rfl := Except.ok.inj heq
      rw [List.forall_mem_cons] at hbefore
      exact .inr ⟨hbefore.1, before, entry', after, hrest, hfile, hname, hcontents, hbefore.2⟩
  · rintro (⟨hfile, hname, hcontents⟩ |
      ⟨hskip, before, entry', after, rfl, hfile, hname, hcontents, hbefore⟩)
    · exact ⟨[], entry, entries, rfl, hfile, hname, hcontents, nofun⟩
    · refine ⟨entry :: before, entry', after, rfl, hfile, hname, hcontents, ?_⟩
      exact List.forall_mem_cons.mpr ⟨hskip, hbefore⟩

theorem any_basenameMatches {path : Option String} :
    path.any (basenameMatches L os · name) = true ↔ path.bind (L.fileName os) = some name := by
  cases path <;> simp [basenameMatches]

theorem extractFrom_ok_iff {readError : String → ArchiveError} :
    extractFrom L readError os name entries = .ok binary ↔
      FirstMatch L os name entries binary := by
  induction entries with
  | nil => simp [extractFrom, not_firstMatch_nil]
  | cons result entries ih =>
    cases result with
    | error err => simp [extractFrom, not_firstMatch_error]
    | ok entry =>
      rw [firstMatch_cons, ← ih, extractFrom, Libraries.baseName]
      cases entry.isFile with
      | false => simp
      | true =>
        cases entry.path with
        | error err => simp [Except.toOption, Except.isOk, Except.toBool]
        | ok path =>
          have hany : path.any (basenameMatches L os · name) = true ↔
              path.bind (L.fileName os) = some name := any_basenameMatches
          by_cases h : path.bind (L.fileName os) = some name
          · cases entry.contents <;> simp [hany.mpr h, h, Except.toOption, Except.mapError]
          · simp [hany, h, Except.toOption, Except.isOk, Except.toBool]

theorem extractBinary_ok_iff {bytes : Bytes} {format : ArchiveFormat} :
    extractBinary L os bytes format name = .ok binary ↔
      ∃ entries, L.entries format bytes = .ok entries ∧ FirstMatch L os name entries binary := by
  cases format with
  | tarGz =>
    simp only [extractBinary, extractFromTarGz, Libraries.entries]
    cases L.untar bytes <;> simp [extractFrom_ok_iff]
  | zip =>
    simp only [extractBinary, extractFromZip, Libraries.entries]
    cases L.unzip bytes <;> simp [extractFrom_ok_iff, Except.map]

end Extract

end Penguind.Update
