import Penguind.Desktop.SubprocessEnd

/-!
# Signed binaries: what is run, and what was verified

An action whose binary matches its manifest and is signed by a trusted publisher is to be run, and
any other to start nothing. Nothing is ever started: the manifest is looked for inside the
manifest file.
-/

namespace Penguind.Desktop

open Foundation Extplugin

structure ActionResult where
  exitCode : Option Int32
  stdout : Bytes
  stderr : Bytes
  truncated : Bool
  deriving DecidableEq, Repr

structure ActionResponse where
  id : String
  success : Bool
  result : Option ActionResult
  error : Option String
  deriving DecidableEq, Repr

namespace SignedExecutor

variable {K S : Type}

def executeSignedBinary (L : Lib K S) (w : World) (action : ActionRequest) :
    Option ActionResponse :=
  (execute L w action).returned.map fun returned =>
    match returned.2 with
    | .ok r => ⟨action.id, true, some ⟨some r.exitCode, r.stdout, r.stderr, false⟩, none⟩
    | .error e => ⟨action.id, false, none, some ("signed binary error: " ++ e.display)⟩

/-! ## Actions that deserve to be run -/

def binaryOf (L : Lib K S) (action : ActionRequest) : Option Bytes :=
  ((action.parameters.get "binary").bind Value.asStr).bind fun text =>
    (L.decodeBase64 text).toOption

def manifestOf (L : Lib K S) (action : ActionRequest) : Option Manifest :=
  (action.parameters.get "manifest").bind fun json =>
    (L.jsonToVec json).toOption.bind fun bytes => (L.parseManifest bytes).toOption

def Supplies (action : ActionRequest) (text : String) : Prop :=
  ∃ field, (action.parameters.get field).bind Value.asStr = some text ∨
    ((action.parameters.get "manifest").bind (Value.get · field)).bind Value.asStr = some text

/-- The binary hashes to what the manifest says, and a supplied signature verifies it. -/
def CorrectlySigned (L : Lib K S) (keys : List String) (action : ActionRequest) : Prop :=
  ∃ binary m text signature, binaryOf L action = some binary ∧ manifestOf L action = some m ∧
    (m.name ≠ "" ∧ m.binary ≠ "" ∧ m.sha256 ≠ "") ∧ hexEncode (L.sha256 binary) = m.sha256 ∧
    Supplies action text ∧ L.decodeSignature text = some signature ∧
    anyKeyVerifies L.toToolkit keys binary signature = true

/-- Files can be staged, and what is launched ends in time with `code`. -/
structure Cooperates (w : World) (staging : FreshDir) (action : ActionRequest) (code : Int32) :
    Prop where
  stagingDir : w.stagingDir = .ok staging
  dirOwner : OwnershipOk (staging.host.stat staging.path) w.uid
  writeBinary : ∃ info, w.writeBinary = .ok info
  chmodBinary : OwnershipOk w.chmodBinary w.uid
  writeManifest : ∃ info, w.writeManifest = .ok info
  runs : ∀ command, ∃ child out, w.spawn command = .ok child ∧
    waitWithTimeout w.runtime action.timeout child 0 = .output out ∧ out.code = some code

def trustedKeys (staging : FreshDir) : List String :=
  loadTrustedKeys staging.host trustedPublishersDir

/-- Correctly signed actions are run and reported, others are not started. -/
structure Handled (L : Lib K S) (w : World) (action : ActionRequest) : Prop where
  executed : ∀ staging code, Cooperates w staging action code →
    CorrectlySigned L (trustedKeys staging) action →
      (execute L w action).started.isSome ∧
        ∃ response ∈ executeSignedBinary L w action, ∃ result ∈ response.result,
          result.exitCode = some code
  refused : (∀ staging, w.stagingDir = .ok staging →
    ¬ CorrectlySigned L (trustedKeys staging) action) → (execute L w action).started = none

/-- **The actions that are handled** are those that do not deserve to be run. -/
theorem handled_iff (L : Lib K S) (w : World) (action : ActionRequest) :
    Handled L w action ↔
      ¬ ∃ staging code, Cooperates w staging action code ∧
        CorrectlySigned L (trustedKeys staging) action := by
  constructor
  · rintro h ⟨staging, code, hw, hs⟩
    have hstarted := (h.executed staging code hw hs).1
    rw [started_eq_none] at hstarted
    cases hstarted
  · intro hno
    exact ⟨fun staging code hw hs => absurd ⟨staging, code, hw, hs⟩ hno,
      fun _ => started_eq_none L w action⟩

end SignedExecutor

/-! ### A correctly signed action -/

namespace SignedExecutor

def lenientLib (m : Manifest) : Lib Unit Unit where
  parseManifest _ := .ok m
  utf8 _ := .ok ""
  sha256 _ := [0xab]
  decodeKey _ := some ()
  decodeSignature _ := some ()
  verifies _ _ _ := true
  decodeBase64 _ := .ok [1, 2, 3]
  jsonToVec _ := .ok []

def toolManifest (binary : String) : Manifest := ⟨"tool", "1.0.0", "v1", binary, "ab", "acme"⟩

def emptyStaging : FreshDir where
  path := "/tmp/a".toList
  host :=
    { cwd := []
      node := fun l =>
        if l = ["tmp".toList, "a".toList] then .ok (.directory ⟨0o700, some 1000⟩)
        else .error "Not a directory (os error 20)"
      entries := fun _ => some [⟨"acme.pub", false, some "key"⟩] }
  fresh _ _ hne := ⟨_, if_neg hne⟩

def quick : Child where
  ends := some 5
  written := none
  waited := some (5, .ok ⟨some 0, [], []⟩)
  ended_of_waited := by
    rintro t out ⟨⟩
    exact ⟨_, rfl, Nat.le_refl _⟩

def quickWorld : World where
  stagingDir := .ok emptyStaging
  writeBinary := .ok ⟨0o644, some 1000⟩
  chmodBinary := .ok ⟨0o755, some 1000⟩
  writeManifest := .ok ⟨0o644, some 1000⟩
  uid := 1000
  spawn _ := .ok quick
  runtime := ⟨1000, 0, false⟩

def toolAction : ActionRequest where
  id := "act_1"
  type := "signed_binary"
  parameters := .object [("binary", .string "AQID"),
    ("manifest", .object [("name", .string "tool"), ("minisig", .string "signature")])]
  userId := "u"
  communityId := "c"
  timeout := 30

theorem cooperates_quickWorld : Cooperates quickWorld emptyStaging toolAction 0 where
  stagingDir := rfl
  dirOwner := ⟨⟨0o700, some 1000⟩, rfl, rfl, by simp [quickWorld]⟩
  writeBinary := ⟨_, rfl⟩
  chmodBinary := ⟨⟨0o755, some 1000⟩, rfl, rfl, by simp [quickWorld]⟩
  writeManifest := ⟨_, rfl⟩
  runs _ := ⟨quick, _, rfl, rfl, rfl⟩

theorem correctlySigned_toolAction :
    CorrectlySigned (lenientLib (toolManifest "binary")) (trustedKeys emptyStaging) toolAction :=
  ⟨[1, 2, 3], toolManifest "binary", "signature", (), rfl, rfl, by decide, rfl,
    ⟨"minisig", .inr rfl⟩, rfl, rfl⟩

/-- **A correctly signed binary is refused**: its manifest is not found. -/
theorem toolAction_refused :
    Cooperates quickWorld emptyStaging toolAction 0 ∧
      CorrectlySigned (lenientLib (toolManifest "binary")) (trustedKeys emptyStaging)
        toolAction ∧
      (execute (lenientLib (toolManifest "binary")) quickWorld toolAction).started.isNone ∧
      executeSignedBinary (lenientLib (toolManifest "binary")) quickWorld toolAction =
        some ⟨"act_1", false, none, some ("signed binary error: internal error: failed to load " ++
          "manifest: read /tmp/a/plugin.json/plugin.json: Not a directory (os error 20)")⟩ :=
  ⟨cooperates_quickWorld, correctlySigned_toolAction, rfl, rfl⟩

end SignedExecutor

/-! ## The file that is launched -/

namespace SignedExecutor

section Launch

variable {K S : Type} (T : Toolkit K S) (h : Host) (v : Verifier) (dir : PathBuf) (m : Manifest)
  (uid : UInt32)

def launchPath : PathBuf := unix.join dir "binary".toList

def verifyAndLaunch : HostM VerifyError Unit := do
  v.verify T h dir m uid
  HostM.access (.launch (launchPath dir))

variable {T h v dir m uid}

theorem ends_verifyAndLaunch {l : List FileUse} {u : Unit} :
    HostM.Ends (verifyAndLaunch T h v dir m uid) [] u l ↔
      Verified T h v dir m uid ∧
        [.stat dir, .stat (m.binaryPath dir), .read (m.binaryPath dir),
          .read (m.signaturePath dir), .read (m.binaryPath dir), .launch (launchPath dir)] = l := by
  simp only [verifyAndLaunch, HostM.ends_bind, ends_verify, HostM.ends_access]
  constructor
  · rintro ⟨_, _, ⟨hv, rfl⟩, rfl⟩
    exact ⟨hv, rfl⟩
  · rintro ⟨hv, rfl⟩
    exact ⟨(), _, ⟨hv, rfl⟩, rfl⟩

theorem exists_ends_of_prepare {L : Lib K S} {w : World} {action : ActionRequest}
    {command : Command} (hp : prepare L w action = .ok command) :
    ∃ (staging : FreshDir) (host : Host) (manifest : Manifest) (l : List FileUse),
      w.stagingDir = .ok staging ∧
        HostM.Ends (verifyAndLaunch L.toToolkit host ⟨loadTrustedKeys host trustedPublishersDir⟩
          staging.path manifest w.uid) [] () l ∧
        .launch command.program ∈ l := by
  obtain ⟨binaryB64, -, hp⟩ := bind_eq_ok hp
  obtain ⟨manifestJson, -, hp⟩ := bind_eq_ok hp
  obtain ⟨binaryBytes, -, hp⟩ := bind_eq_ok hp
  obtain ⟨staging, hstaging, hp⟩ := bind_eq_ok hp
  obtain ⟨_, -, hp⟩ := bind_eq_ok hp
  obtain ⟨binaryInfo, -, hp⟩ := bind_eq_ok hp
  obtain ⟨manifestBytes, -, hp⟩ := bind_eq_ok hp
  obtain ⟨manifestInfo, -, hp⟩ := bind_eq_ok hp
  obtain ⟨manifest, -, hp⟩ := bind_eq_ok hp
  obtain ⟨_, hverify, hp⟩ := bind_eq_ok hp
  cases hp
  obtain ⟨l, hends⟩ := ends_of_checked hverify
  have hdir : w.stagingDir = .ok staging := by
    cases hw : w.stagingDir <;> rw [hw] at hstaging <;> cases hstaging
    rfl
  exact ⟨staging, _, manifest, _, hdir, ends_verifyAndLaunch.mpr ⟨(ends_verify.mp hends).1, rfl⟩,
    by simp [launchPath]⟩

theorem verified_join_nil :
    Verified T h v (unix.join dir []) m uid ↔ Verified T h v dir m uid := by
  have hloc : h.locate (unix.join dir []) = h.locate dir := by
    have := unix.locate_join_of_descent (q := []) (w := []) (by decide) h.cwd dir
    rwa [List.append_nil] at this
  have hstat : h.stat (unix.join dir []) = h.stat dir := by
    unfold Host.stat
    rw [hloc]
  have hbin : m.binaryPath (unix.join dir []) = m.binaryPath dir := unix.join_join_nil _ _
  have hsig : m.signaturePath (unix.join dir []) = m.signaturePath dir := unix.join_join_nil _ _
  constructor
  · rintro ⟨h₁, h₂, h₃, h₄⟩
    rw [hstat] at h₁
    rw [hbin] at h₂ h₃ h₄
    rw [hsig] at h₄
    exact ⟨h₁, h₂, h₃, h₄⟩
  · rintro ⟨h₁, h₂, h₃, h₄⟩
    rw [← hstat] at h₁
    rw [← hbin] at h₂ h₃ h₄
    rw [← hsig] at h₄
    exact ⟨h₁, h₂, h₃, h₄⟩

theorem locate_launchPath : h.locate (launchPath dir) = h.locate dir ++ ["binary".toList] :=
  unix.locate_join_of_descent (by decide) h.cwd dir

end Launch

def installedHost : Host where
  cwd := []
  node l := .ok (if l = ["tmp".toList, "a".toList] then .directory ⟨0o700, some 0⟩
    else .file ⟨0o755, some 0⟩ (.ok []))
  entries _ := none

end SignedExecutor

end Penguind.Desktop
