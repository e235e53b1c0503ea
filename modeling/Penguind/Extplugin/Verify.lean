import Penguind.Foundation.Path
import Penguind.Foundation.Stateful

/-!
# Plugin manifests and their verification

The manifest of a plugin directory and the checks before a launch, which stop at the first
failure. Every access is recorded for the statements. JSON, UTF-8, the hash and the signature
scheme are parameters.
-/

namespace Penguind.Extplugin

open Foundation

/-! ## The host -/

def unix : PathSyntax Char := ⟨'/', '.', by decide⟩

abbrev PathBuf := List Char

abbrev Bytes := List UInt8

structure FileMeta where
  mode : UInt32
  uid : Option UInt32
  deriving DecidableEq, Repr

inductive Node
  | directory (info : FileMeta)
  | file (info : FileMeta) (content : Except String Bytes)

structure DirEntry where
  fileName : String
  isDir : Bool
  contents : Option String

/-- An `Except` in it carries the text of an I/O error. -/
structure Host where
  cwd : Location Char
  node : Location Char → Except String Node
  entries : Location Char → Option (List DirEntry)

namespace Host

def locate (h : Host) (p : PathBuf) : Location Char := unix.locate h.cwd p

def isDir (h : Host) (p : PathBuf) : Bool :=
  match h.node (h.locate p) with
  | .ok (.directory _) => true
  | _ => false

def stat (h : Host) (p : PathBuf) : Except String FileMeta :=
  match h.node (h.locate p) with
  | .ok (.directory info) | .ok (.file info _) => .ok info
  | .error source => .error source

def read (h : Host) (p : PathBuf) : Except String Bytes :=
  match h.node (h.locate p) with
  | .ok (.file _ content) => content
  | .ok (.directory _) => .error "Is a directory (os error 21)"
  | .error source => .error source

end Host

inductive FileUse
  | isDir (path : PathBuf)
  | stat (path : PathBuf)
  | read (path : PathBuf)
  | launch (path : PathBuf)
  deriving DecidableEq, Repr

abbrev HostM (ε : Type) := ExceptT ε (StateM (List FileUse))

namespace HostM

variable {ε ε' α β : Type}

def access (u : FileUse) : HostM ε Unit := modify (· ++ [u])

def ofExcept (f : ε' → ε) (x : Except ε' α) : HostM ε α :=
  match x with
  | .ok a => pure a
  | .error e => throw (f e)

def Ends (x : HostM ε β) (l : List FileUse) (b : β) (l' : List FileUse) : Prop :=
  x l = (.ok b, l')

variable {x : HostM ε α} {f : α → HostM ε β} {l l' : List FileUse} {a a' : α} {b : β}

@[simp] theorem ends_pure : Ends (pure a : HostM ε α) l a' l' ↔ a = a' ∧ l = l' :=
  Stateful.ends_pure

@[simp] theorem not_ends_throw {e : ε} : ¬ Ends (throw e : HostM ε α) l a l' :=
  Stateful.not_ends_throw

theorem ends_bind : Ends (x >>= f) l b l' ↔ ∃ a l₁, Ends x l a l₁ ∧ Ends (f a) l₁ b l' :=
  Stateful.ends_bind

@[simp] theorem ends_access {u : FileUse} {v : Unit} :
    Ends (access u : HostM ε Unit) l v l' ↔ l ++ [u] = l' :=
  Stateful.ends_modify

@[simp] theorem ends_ofExcept {g : ε' → ε} {y : Except ε' α} :
    Ends (ofExcept g y) l a l' ↔ y = .ok a ∧ l = l' := by
  cases y <;> simp [ofExcept]

@[simp] theorem ends_adapt {g : ε → ε'} :
    Ends (ExceptT.adapt g x : HostM ε' α) l a l' ↔ Ends x l a l' :=
  Stateful.ends_adapt

end HostM

/-! ## Manifests -/

structure Manifest where
  name : String
  version : String
  sdkVersion : String
  binary : String
  sha256 : String
  publisher : String
  deriving DecidableEq, Repr

namespace Manifest

def binaryPath (m : Manifest) (pluginDir : PathBuf) : PathBuf :=
  unix.join pluginDir m.binary.toList

def signaturePath (m : Manifest) (pluginDir : PathBuf) : PathBuf :=
  unix.join pluginDir (m.binary ++ ".minisig").toList

end Manifest

inductive ManifestError
  | read (path : PathBuf) (source : String)
  | parse (path : PathBuf) (source : String)
  | missingField (field : String)
  deriving DecidableEq, Repr

def ManifestError.display : ManifestError → String
  | .read path source => "read " ++ String.ofList path ++ ": " ++ source
  | .parse path source => "parse " ++ String.ofList path ++ ": " ++ source
  | .missingField field => "plugin.json: missing required field '" ++ field ++ "'"

structure Toolkit (K S : Type) where
  parseManifest : Bytes → Except String Manifest
  utf8 : Bytes → Except String String
  sha256 : Bytes → Bytes
  decodeKey : String → Option K
  decodeSignature : String → Option S
  verifies : K → Bytes → S → Bool

section Checks

variable {K S : Type} (T : Toolkit K S) (h : Host)

def requireField (field value : String) : HostM ManifestError Unit :=
  if value = "" then throw (.missingField field) else pure ()

def loadManifest (pluginDir : PathBuf) : HostM ManifestError Manifest := do
  let manifestPath := unix.join pluginDir "plugin.json".toList
  HostM.access (.read manifestPath)
  let data ← HostM.ofExcept (.read manifestPath) (h.read manifestPath)
  let manifest ← HostM.ofExcept (.parse manifestPath) (T.parseManifest data)
  -- The publisher, the version and the SDK version may be empty.
  requireField "name" manifest.name
  requireField "binary" manifest.binary
  requireField "sha256" manifest.sha256
  return manifest

/-! ## Verification -/

inductive VerifyError
  | stat (path : PathBuf) (source : String)
  | worldWritable (path : PathBuf) (mode : UInt32)
  | wrongOwner (path : PathBuf) (uid expectedUid : UInt32)
  | readBinary (path : PathBuf) (source : String)
  | sha256Mismatch (expected actual : String)
  | readSignature (path : PathBuf) (source : String)
  | malformedSignature (path : PathBuf)
  | untrustedSigner
  deriving DecidableEq, Repr

def VerifyError.display : VerifyError → String
  | .stat path source => "stat " ++ String.ofList path ++ ": " ++ source
  | .worldWritable path mode =>
    String.ofList path ++ " is world-writable (mode " ++
      String.ofList (Nat.toDigits 8 mode.toNat) ++ ")"
  | .wrongOwner path uid expectedUid =>
    String.ofList path ++ " owned by uid " ++ toString uid ++
      ", expected root (0) or daemon uid " ++ toString expectedUid
  | .readBinary path source => "read " ++ String.ofList path ++ " for hashing: " ++ source
  | .sha256Mismatch expected actual =>
    "sha256 mismatch: expected " ++ expected ++ ", got " ++ actual
  | .readSignature path source => "read signature " ++ String.ofList path ++ ": " ++ source
  | .malformedSignature path => String.ofList path ++ " is not a valid minisign signature"
  | .untrustedSigner => "no pinned publisher key verifies this signature"

def hexEncode (bytes : Bytes) : String :=
  String.ofList (bytes.flatMap fun b =>
    [Nat.digitChar (b.toNat / 16), Nat.digitChar (b.toNat % 16)])

def verifyOwnership (path : PathBuf) (expectedUid : UInt32) : HostM VerifyError Unit := do
  HostM.access (.stat path)
  let info ← HostM.ofExcept (.stat path) (h.stat path)
  -- Group-writable files pass: only the bit for all others is tested.
  if info.mode &&& 2 ≠ 0 then throw (.worldWritable path info.mode)
  match info.uid with
  -- a platform without owners skips the check
  | none => pure ()
  | some uid =>
    if uid ≠ 0 ∧ uid ≠ expectedUid then throw (.wrongOwner path uid expectedUid) else pure ()

def verifySha256 (binaryPath : PathBuf) (expectedHex : String) : HostM VerifyError Unit := do
  HostM.access (.read binaryPath)
  let data ← HostM.ofExcept (.readBinary binaryPath) (h.read binaryPath)
  let actual := hexEncode (T.sha256 data)
  if actual ≠ expectedHex then throw (.sha256Mismatch expectedHex actual) else pure ()

def anyKeyVerifies (keys : List String) (data : Bytes) (signature : S) : Bool :=
  keys.any fun text =>
    match T.decodeKey text with
    | none => false
    | some key => T.verifies key data signature

def verifySignature (keys : List String) (binaryPath sigPath : PathBuf) :
    HostM VerifyError Unit := do
  HostM.access (.read sigPath)
  let sigData ← HostM.ofExcept (.readSignature sigPath) (h.read sigPath)
  let sigText ← HostM.ofExcept (.readSignature sigPath) (T.utf8 sigData)
  match T.decodeSignature sigText with
  | none => throw (.malformedSignature sigPath)
  | some signature =>
    -- The binary is read a second time; the hash was taken of what the first read gave.
    HostM.access (.read binaryPath)
    let binaryData ← HostM.ofExcept (.readBinary binaryPath) (h.read binaryPath)
    if anyKeyVerifies T keys binaryData signature then pure () else throw .untrustedSigner

structure Verifier where
  trustedPublicKeys : List String

def Verifier.verify (v : Verifier) (pluginDir : PathBuf) (manifest : Manifest)
    (expectedUid : UInt32) : HostM VerifyError Unit := do
  verifyOwnership h pluginDir expectedUid
  let binaryPath := manifest.binaryPath pluginDir
  verifyOwnership h binaryPath expectedUid
  verifySha256 T h binaryPath manifest.sha256
  let sigPath := manifest.signaturePath pluginDir
  verifySignature T h v.trustedPublicKeys binaryPath sigPath

def loadTrustedKeys (trustedDir : PathBuf) : List String :=
  match h.entries (h.locate trustedDir) with
  | none => []
  | some entries => entries.filterMap fun e =>
    -- An entry that cannot be read is left out, like a file with another extension.
    if e.isDir ∨ ¬ ".pub".toList <:+ e.fileName.toList then none else e.contents

/-! ## When the checks succeed

Each check is characterised by what it reads from the host, not by the paths it uses. -/

def ManifestOk (found : Except String Bytes) (m : Manifest) : Prop :=
  ∃ data, found = .ok data ∧ T.parseManifest data = .ok m ∧
    m.name ≠ "" ∧ m.binary ≠ "" ∧ m.sha256 ≠ ""

def OwnershipOk (found : Except String FileMeta) (expectedUid : UInt32) : Prop :=
  ∃ info, found = .ok info ∧ info.mode &&& 2 = 0 ∧
    ∀ uid ∈ info.uid, uid = 0 ∨ uid = expectedUid

def Sha256Ok (found : Except String Bytes) (expectedHex : String) : Prop :=
  ∃ data, found = .ok data ∧ hexEncode (T.sha256 data) = expectedHex

def SignatureOk (keys : List String) (foundSig found : Except String Bytes) : Prop :=
  ∃ sigData sigText signature data, foundSig = .ok sigData ∧ T.utf8 sigData = .ok sigText ∧
    T.decodeSignature sigText = some signature ∧ found = .ok data ∧
    anyKeyVerifies T keys data signature = true

structure Verified (v : Verifier) (pluginDir : PathBuf) (m : Manifest) (expectedUid : UInt32) :
    Prop where
  dirOwner : OwnershipOk (h.stat pluginDir) expectedUid
  binaryOwner : OwnershipOk (h.stat (m.binaryPath pluginDir)) expectedUid
  sha256 : Sha256Ok T (h.read (m.binaryPath pluginDir)) m.sha256
  signature : SignatureOk T v.trustedPublicKeys (h.read (m.signaturePath pluginDir))
    (h.read (m.binaryPath pluginDir))

variable {T h} {l l' : List FileUse}

@[simp] theorem ends_requireField {field value : String} {u : Unit} :
    HostM.Ends (requireField field value) l u l' ↔ value ≠ "" ∧ l = l' := by
  unfold requireField
  split_ifs with hv <;> simp [hv]

theorem ends_loadManifest {pluginDir : PathBuf} {m : Manifest} :
    HostM.Ends (loadManifest T h pluginDir) l m l' ↔
      ManifestOk T (h.read (unix.join pluginDir "plugin.json".toList)) m ∧
        l ++ [.read (unix.join pluginDir "plugin.json".toList)] = l' := by
  simp only [loadManifest, HostM.ends_bind, HostM.ends_access, HostM.ends_ofExcept,
    ends_requireField, HostM.ends_pure, ManifestOk]
  constructor
  · rintro ⟨_, _, rfl, data, _, ⟨hr, rfl⟩, m', _, ⟨hp, rfl⟩, -, _, ⟨h₁, rfl⟩, -, _, ⟨h₂, rfl⟩,
      -, _, ⟨h₃, rfl⟩, rfl, rfl⟩
    exact ⟨⟨data, hr, hp, h₁, h₂, h₃⟩, rfl⟩
  · rintro ⟨⟨data, hr, hp, h₁, h₂, h₃⟩, rfl⟩
    exact ⟨(), _, rfl, data, _, ⟨hr, rfl⟩, m, _, ⟨hp, rfl⟩, (), _, ⟨h₁, rfl⟩, (), _, ⟨h₂, rfl⟩,
      (), _, ⟨h₃, rfl⟩, rfl, rfl⟩

theorem ends_verifyOwnership {path : PathBuf} {uid : UInt32} {u : Unit} :
    HostM.Ends (verifyOwnership h path uid) l u l' ↔
      OwnershipOk (h.stat path) uid ∧ l ++ [.stat path] = l' := by
  simp only [verifyOwnership, HostM.ends_bind, HostM.ends_access, HostM.ends_ofExcept,
    OwnershipOk]
  constructor
  · rintro ⟨_, _, rfl, info, _, ⟨hs, rfl⟩, hrest⟩
    -- The checks of the source, in its order: the mode first, then the owner if there is one.
    by_cases hw : info.mode &&& 2 = 0
    · simp only [hw, ne_eq, not_true_eq_false, if_false] at hrest
      cases hu : info.uid with
      | none =>
        simp only [hu, HostM.ends_pure] at hrest
        exact ⟨⟨info, hs, hw, by simp [hu]⟩, hrest.2⟩
      | some owner =>
        simp only [hu] at hrest
        split_ifs at hrest with ho
        · exact absurd hrest HostM.not_ends_throw
        · rw [HostM.ends_pure] at hrest
          refine ⟨⟨info, hs, hw, fun o ho' => ?_⟩, hrest.2⟩
          cases hu.symm.trans ho'
          tauto
    · simp only [ne_eq, hw, not_false_eq_true, if_true] at hrest
      exact absurd hrest (by simp)
  · rintro ⟨⟨info, hs, hw, ho⟩, rfl⟩
    refine ⟨(), _, rfl, info, _, ⟨hs, rfl⟩, ?_⟩
    simp only [hw, ne_eq, not_true_eq_false, if_false]
    cases hu : info.uid with
    | none => simp
    | some owner =>
      have hown := ho owner hu
      dsimp only
      rw [if_neg (by tauto)]
      simp

theorem ends_verifySha256 {path : PathBuf} {hex : String} {u : Unit} :
    HostM.Ends (verifySha256 T h path hex) l u l' ↔
      Sha256Ok T (h.read path) hex ∧ l ++ [.read path] = l' := by
  simp only [verifySha256, HostM.ends_bind, HostM.ends_access, HostM.ends_ofExcept, Sha256Ok]
  constructor
  · rintro ⟨_, _, rfl, data, _, ⟨hr, rfl⟩, hrest⟩
    split_ifs at hrest with hne
    · exact absurd hrest HostM.not_ends_throw
    · exact ⟨⟨data, hr, not_not.mp hne⟩, (HostM.ends_pure.mp hrest).2⟩
  · rintro ⟨⟨data, hr, he⟩, rfl⟩
    refine ⟨(), _, rfl, data, _, ⟨hr, rfl⟩, ?_⟩
    rw [if_neg (not_not.mpr he)]
    simp

theorem ends_verifySignature {keys : List String} {binaryPath sigPath : PathBuf} {u : Unit} :
    HostM.Ends (verifySignature T h keys binaryPath sigPath) l u l' ↔
      SignatureOk T keys (h.read sigPath) (h.read binaryPath) ∧
        l ++ [.read sigPath, .read binaryPath] = l' := by
  simp only [verifySignature, HostM.ends_bind, HostM.ends_access, HostM.ends_ofExcept,
    SignatureOk]
  constructor
  · rintro ⟨_, _, rfl, sigData, _, ⟨hr, rfl⟩, sigText, _, ⟨ht, rfl⟩, hrest⟩
    -- Before the binary is read again, the signature has to decode.
    cases hd : T.decodeSignature sigText with
    | none =>
      simp only [hd] at hrest
      exact absurd hrest HostM.not_ends_throw
    | some signature =>
      simp only [hd, HostM.ends_bind, HostM.ends_access, HostM.ends_ofExcept] at hrest
      obtain ⟨_, _, rfl, data, _, ⟨hb, rfl⟩, hrest⟩ := hrest
      split_ifs at hrest with hk
      · refine ⟨⟨sigData, sigText, signature, data, hr, ht, hd, hb, hk⟩, ?_⟩
        simpa using (HostM.ends_pure.mp hrest).2
      · exact absurd hrest HostM.not_ends_throw
  · rintro ⟨⟨sigData, sigText, signature, data, hr, ht, hd, hb, hk⟩, rfl⟩
    refine ⟨(), _, rfl, sigData, _, ⟨hr, rfl⟩, sigText, _, ⟨ht, rfl⟩, ?_⟩
    simp only [hd, HostM.ends_bind, HostM.ends_access, HostM.ends_ofExcept]
    refine ⟨(), _, rfl, data, _, ⟨hb, rfl⟩, ?_⟩
    rw [if_pos hk]
    simp

theorem ends_verify {v : Verifier} {pluginDir : PathBuf} {m : Manifest} {uid : UInt32}
    {u : Unit} :
    HostM.Ends (v.verify T h pluginDir m uid) l u l' ↔
      Verified T h v pluginDir m uid ∧
        l ++ [.stat pluginDir, .stat (m.binaryPath pluginDir), .read (m.binaryPath pluginDir),
          .read (m.signaturePath pluginDir), .read (m.binaryPath pluginDir)] = l' := by
  simp only [Verifier.verify, HostM.ends_bind, ends_verifyOwnership, ends_verifySha256,
    ends_verifySignature]
  constructor
  · rintro ⟨_, _, ⟨h₁, rfl⟩, _, _, ⟨h₂, rfl⟩, _, _, ⟨h₃, rfl⟩, h₄, rfl⟩
    exact ⟨⟨h₁, h₂, h₃, h₄⟩, by simp⟩
  · rintro ⟨⟨h₁, h₂, h₃, h₄⟩, rfl⟩
    exact ⟨(), _, ⟨h₁, rfl⟩, (), _, ⟨h₂, rfl⟩, (), _, ⟨h₃, rfl⟩, h₄, by simp⟩

/-! ## Copies of a directory

To see where a path leads whatever the directory it is joined to, the directory is copied to a
fresh sibling: what was found below it is found there, and a path that does not descend still
leads to the old place. -/

namespace Host

variable (h) in
def copyDir (dir : PathBuf) (f : List Char) : Host :=
  { h with node := PathSyntax.graft (h.locate dir) (h.locate (unix.sibling dir f)) h.node }

variable {dir : PathBuf} {f q : List Char}

theorem observe_copyDir (hf : unix.Plain f) (hq : f ∉ h.locate (unix.join dir q)) :
    (h.copyDir dir f).isDir (unix.join (unix.sibling dir f) q) = h.isDir (unix.join dir q) ∧
      (h.copyDir dir f).stat (unix.join (unix.sibling dir f) q) = h.stat (unix.join dir q) ∧
      (h.copyDir dir f).read (unix.join (unix.sibling dir f) q) = h.read (unix.join dir q) := by
  have hnode : (h.copyDir dir f).node
      ((h.copyDir dir f).locate (unix.join (unix.sibling dir f) q)) =
        h.node (h.locate (unix.join dir q)) :=
    unix.graft_locate_join_sibling hf h.cwd dir hq h.node
  refine ⟨?_, ?_, ?_⟩
  · rw [isDir, hnode, isDir]
  · rw [stat, hnode, stat]
  · rw [read, hnode, read]

theorem descent_of_locate_copyDir (hf : unix.Plain f) {w : Location Char}
    (hq : f ∉ h.locate (unix.join dir q))
    (hw : (h.copyDir dir f).locate (unix.join (unix.sibling dir f) q) =
      (h.copyDir dir f).locate (unix.sibling dir f) ++ w) :
    unix.descent q = some w := by
  cases hd : unix.descent q with
  | some w' =>
    have := (unix.locate_join_of_descent hd h.cwd (unix.sibling dir f)).symm.trans hw
    exact congrArg some (List.append_cancel_left this)
  | none =>
    -- the path leads to where it led before, and the new name is not on that way
    refine absurd ?_ hq
    have hold := unix.locate_join_sibling_of_descent_eq_none hf hd h.cwd dir
    have hmem : f ∈ h.locate (unix.sibling dir f) := by
      rw [Host.locate, unix.locate_sibling hf]
      simp
    rw [Host.locate, ← hold]
    exact hw.symm.subst (motive := fun x => f ∈ x) (List.mem_append_left w hmem)

end Host

theorem Verified.copyDir {v : Verifier} {dir : PathBuf} {f q : List Char} {m : Manifest}
    {uid : UInt32} (hf : unix.Plain f) (hdir : f ∉ h.locate (unix.join dir q))
    (hbin : f ∉ h.locate (m.binaryPath (unix.join dir q)))
    (hsig : f ∉ h.locate (m.signaturePath (unix.join dir q)))
    (hv : Verified T h v (unix.join dir q) m uid) :
    Verified T (h.copyDir dir f) v (unix.join (unix.sibling dir f) q) m uid := by
  -- All paths are read as paths from `dir`, where the copy is known.
  have hb : ∀ d, m.binaryPath (unix.join d q) = unix.join d (unix.join q m.binary.toList) :=
    fun d => unix.join_assoc _ _ _
  have hs : ∀ d, m.signaturePath (unix.join d q) =
      unix.join d (unix.join q (m.binary ++ ".minisig").toList) :=
    fun d => unix.join_assoc _ _ _
  obtain ⟨h₁, h₂, h₃, h₄⟩ := hv
  rw [hb] at hbin h₂ h₃ h₄
  rw [hs] at hsig h₄
  constructor
  · rw [(Host.observe_copyDir hf hdir).2.1]
    exact h₁
  · rw [hb, (Host.observe_copyDir hf hbin).2.1]
    exact h₂
  · rw [hb, (Host.observe_copyDir hf hbin).2.2]
    exact h₃
  · rw [hb, hs, (Host.observe_copyDir hf hbin).2.2, (Host.observe_copyDir hf hsig).2.2]
    exact h₄

end Checks

end Penguind.Extplugin
