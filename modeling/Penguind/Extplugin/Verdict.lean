import Mathlib.Data.Nat.Bitwise
import Penguind.Extplugin.Verify

/-!
# The verdict of the verifier

What a verifier accepts, in terms of what is found on the host.
-/

namespace Penguind.Extplugin

variable {K S : Type} {T : Toolkit K S}

/-! ## Hashing piece by piece -/

structure StreamingHash (T : Toolkit K S) where
  Hasher : Type
  new : Hasher
  update : Hasher → Bytes → Hasher
  finalize : Hasher → Bytes
  finalize_foldl : ∀ pieces : List Bytes,
    finalize (pieces.foldl update new) = T.sha256 pieces.flatten

def StreamingHash.buffered (T : Toolkit K S) : StreamingHash T where
  Hasher := Bytes
  new := []
  update kept piece := kept ++ piece
  finalize := T.sha256
  finalize_foldl pieces := by
    have h : ∀ kept, pieces.foldl (· ++ ·) kept = kept ++ pieces.flatten := by
      induction pieces with
      | nil => simp
      | cons piece pieces ih =>
        intro kept
        rw [List.foldl_cons, ih, List.flatten_cons, List.append_assoc]
    rw [h, List.nil_append]

def bufferSize : Nat := 8192

/-- What the kernel chooses, but at least a byte and no more than the buffer holds. -/
def delivered (chosen : Nat) : Nat := max 1 (min chosen bufferSize)

theorem delivered_pos (chosen : Nat) : 0 < delivered chosen :=
  Nat.lt_of_lt_of_le Nat.one_pos (Nat.le_max_left 1 _)

variable (H : StreamingHash T)

/-- From the `k`-th read on; a read that delivers nothing is the end. -/
def hashLoop (chosen : Nat → Nat) (k : Nat) (hasher : H.Hasher) (rest : Bytes) : H.Hasher :=
  if hend : rest.take (delivered (chosen k)) = [] then hasher
  else
    hashLoop chosen (k + 1) (H.update hasher (rest.take (delivered (chosen k))))
      (rest.drop (delivered (chosen k)))
termination_by rest.length
decreasing_by
  have hne : rest ≠ [] := fun hnil => hend (by rw [hnil, List.take_nil])
  rw [List.length_drop]
  exact Nat.sub_lt (List.length_pos_of_ne_nil hne) (delivered_pos _)

theorem exists_pieces_hashLoop (chosen : Nat → Nat) (k : Nat) (hasher : H.Hasher) (rest : Bytes) :
    ∃ pieces : List Bytes, pieces.flatten = rest ∧
      hashLoop H chosen k hasher rest = pieces.foldl H.update hasher := by
  induction k, hasher, rest using hashLoop.induct H chosen with
  | case1 k hasher rest hend =>
    -- a read delivers at least a byte, so an empty piece is the end of the file
    obtain hzero | rfl := List.take_eq_nil_iff.mp hend
    · exact absurd hzero (delivered_pos _).ne'
    · exact ⟨[], rfl, by rw [hashLoop, dif_pos hend, List.foldl_nil]⟩
  | case2 k hasher rest hend ih =>
    obtain ⟨pieces, hflatten, hloop⟩ := ih
    refine ⟨rest.take (delivered (chosen k)) :: pieces, ?_, ?_⟩
    · rw [List.flatten_cons, hflatten, List.take_append_drop]
    · rw [hashLoop, dif_neg hend, hloop, List.foldl_cons]

theorem hashLoop_eq (chosen : Nat → Nat) (data : Bytes) :
    H.finalize (hashLoop H chosen 0 H.new data) = T.sha256 data := by
  obtain ⟨pieces, hflatten, hloop⟩ := exists_pieces_hashLoop H chosen 0 H.new data
  rw [hloop, H.finalize_foldl, hflatten]

def verifySha256Chunked (h : Host) (chosen : Nat → Nat) (binaryPath : PathBuf)
    (expectedHex : String) : HostM VerifyError Unit := do
  HostM.access (.read binaryPath)
  let data ← HostM.ofExcept (.readBinary binaryPath) (h.read binaryPath)
  let actual := hexEncode (H.finalize (hashLoop H chosen 0 H.new data))
  if actual ≠ expectedHex then throw (.sha256Mismatch expectedHex actual) else pure ()

namespace Verifier

def withTrustedDir (h : Host) (trustedDir : PathBuf) : Verifier := ⟨loadTrustedKeys h trustedDir⟩

def verifyChunked (v : Verifier) (h : Host) (chosen : Nat → Nat) (pluginDir : PathBuf)
    (manifest : Manifest) (expectedUid : UInt32) : HostM VerifyError Unit := do
  verifyOwnership h pluginDir expectedUid
  let binaryPath := manifest.binaryPath pluginDir
  verifyOwnership h binaryPath expectedUid
  verifySha256Chunked H h chosen binaryPath manifest.sha256
  let sigPath := manifest.signaturePath pluginDir
  verifySignature T h v.trustedPublicKeys binaryPath sigPath

def Accepts (v : Verifier) (h : Host) (chosen : Nat → Nat) (pluginDir : PathBuf)
    (manifest : Manifest) (expectedUid : UInt32) : Prop :=
  ∃ accesses, HostM.Ends (v.verifyChunked H h chosen pluginDir manifest expectedUid) [] ()
    accesses

def Trusts (T : Toolkit K S) (v : Verifier) (key : K) : Prop :=
  ∃ text ∈ v.trustedPublicKeys, T.decodeKey text = some key

end Verifier

variable {H} {h : Host} {v v' : Verifier} {chosen chosen' : Nat → Nat} {pluginDir : PathBuf}
  {m : Manifest} {uid : UInt32}

theorem verifyChunked_eq :
    v.verifyChunked H h chosen pluginDir m uid = v.verify T h pluginDir m uid := by
  have hsha : ∀ path hex, verifySha256Chunked H h chosen path hex = verifySha256 T h path hex := by
    intro path hex
    simp only [verifySha256Chunked, verifySha256, hashLoop_eq]
  simp only [Verifier.verifyChunked, Verifier.verify, hsha]

/-! ## The trusted keys -/

theorem anyKeyVerifies_iff {data : Bytes} {signature : S} :
    anyKeyVerifies T v.trustedPublicKeys data signature = true ↔
      ∃ key, v.Trusts T key ∧ T.verifies key data signature = true := by
  rw [anyKeyVerifies, List.any_eq_true]
  constructor
  · rintro ⟨text, hmem, htext⟩
    cases hkey : T.decodeKey text with
    | none => simp [hkey] at htext
    | some key => exact ⟨key, ⟨text, hmem, hkey⟩, by simpa [hkey] using htext⟩
  · rintro ⟨key, ⟨text, hmem, hkey⟩, hverifies⟩
    exact ⟨text, hmem, by simpa [hkey] using hverifies⟩

theorem anyKeyVerifies_congr (hkeys : ∀ key, v.Trusts T key ↔ v'.Trusts T key) (data : Bytes)
    (signature : S) :
    anyKeyVerifies T v.trustedPublicKeys data signature =
      anyKeyVerifies T v'.trustedPublicKeys data signature := by
  rw [Bool.eq_iff_iff, anyKeyVerifies_iff, anyKeyVerifies_iff]
  simp only [hkeys]

theorem verifyChunked_congr (hkeys : ∀ key, v.Trusts T key ↔ v'.Trusts T key) :
    v.verifyChunked H h chosen pluginDir m uid =
      v'.verifyChunked H h chosen' pluginDir m uid := by
  simp only [verifyChunked_eq, Verifier.verify, verifySignature, anyKeyVerifies_congr hkeys]

def PinnedIn (T : Toolkit K S) (h : Host) (trustedDir : PathBuf) (key : K) : Prop :=
  ∃ entries, h.entries (h.locate trustedDir) = some entries ∧
    ∃ entry ∈ entries, entry.isDir = false ∧ ".pub".toList <:+ entry.fileName.toList ∧
      ∃ text, entry.contents = some text ∧ T.decodeKey text = some key

theorem trusts_withTrustedDir {trustedDir : PathBuf} :
    (Verifier.withTrustedDir h trustedDir).Trusts T = PinnedIn T h trustedDir := by
  funext key
  rw [eq_iff_iff, Verifier.Trusts, Verifier.withTrustedDir, loadTrustedKeys, PinnedIn]
  cases hentries : h.entries (h.locate trustedDir) with
  | none => simp
  | some entries =>
    simp only [List.mem_filterMap, Option.some.injEq, exists_eq_left']
    constructor
    · rintro ⟨text, ⟨entry, hmem, htext⟩, hkey⟩
      by_cases hskip : entry.isDir = true ∨ ¬ ".pub".toList <:+ entry.fileName.toList
      · rw [if_pos hskip] at htext
        cases htext
      · rw [if_neg hskip] at htext
        rw [not_or, not_not, Bool.not_eq_true] at hskip
        exact ⟨entry, hmem, hskip.1, hskip.2, text, htext, hkey⟩
    · rintro ⟨entry, hmem, hfile, hname, text, htext, hkey⟩
      refine ⟨text, ⟨entry, hmem, ?_⟩, hkey⟩
      rw [if_neg (not_or.mpr ⟨by simp [hfile], not_not.mpr hname⟩), htext]

/-! ## The verdict -/

structure Guarded (info : FileMeta) (expectedUid : UInt32) : Prop where
  notWorldWritable : info.mode.toNat.testBit 1 = false
  owner : ∀ uid, info.uid = some uid → uid = 0 ∨ uid = expectedUid

structure Genuine (T : Toolkit K S) (h : Host) (trusted : K → Prop) (pluginDir : PathBuf)
    (m : Manifest) (expectedUid : UInt32) : Prop where
  directory : ∃ info, h.stat pluginDir = .ok info ∧ Guarded info expectedUid
  binary : ∃ info, h.stat (m.binaryPath pluginDir) = .ok info ∧ Guarded info expectedUid
  content : ∃ data, h.read (m.binaryPath pluginDir) = .ok data ∧
    hexEncode (T.sha256 data) = m.sha256 ∧
    ∃ sigData sigText signature, h.read (m.signaturePath pluginDir) = .ok sigData ∧
      T.utf8 sigData = .ok sigText ∧ T.decodeSignature sigText = some signature ∧
      ∃ key, trusted key ∧ T.verifies key data signature = true

theorem mode_and_two_eq_zero_iff (mode : UInt32) :
    mode &&& 2 = 0 ↔ mode.toNat.testBit 1 = false := by
  have hmask : mode.toNat &&& 2 = (mode.toNat.testBit 1).toNat * 2 := Nat.and_two_pow mode.toNat 1
  rw [← UInt32.toNat_inj, UInt32.toNat_and]
  change mode.toNat &&& 2 = 0 ↔ _
  rw [hmask]
  simp

theorem ownershipOk_iff {found : Except String FileMeta} :
    OwnershipOk found uid ↔ ∃ info, found = .ok info ∧ Guarded info uid := by
  constructor
  · rintro ⟨info, hinfo, hmode, howner⟩
    exact ⟨info, hinfo, (mode_and_two_eq_zero_iff _).mp hmode, howner⟩
  · rintro ⟨info, hinfo, hmode, howner⟩
    exact ⟨info, hinfo, (mode_and_two_eq_zero_iff _).mpr hmode, howner⟩

theorem accepts_iff_genuine :
    v.Accepts H h chosen pluginDir m uid ↔ Genuine T h (v.Trusts T) pluginDir m uid := by
  have hverified : v.Accepts H h chosen pluginDir m uid ↔ Verified T h v pluginDir m uid := by
    simp only [Verifier.Accepts, verifyChunked_eq, ends_verify, exists_and_left, exists_eq',
      and_true]
  rw [hverified]
  constructor
  · rintro ⟨hdir, hbinary, ⟨data, hdata, hhash⟩, sigData, sigText, signature, data', hsig, htext,
      hsignature, hdata', hany⟩
    obtain rfl : data = data' := Except.ok.inj (hdata.symm.trans hdata')
    exact ⟨ownershipOk_iff.mp hdir, ownershipOk_iff.mp hbinary, data, hdata, hhash, sigData,
      sigText, signature, hsig, htext, hsignature, anyKeyVerifies_iff.mp hany⟩
  · rintro ⟨hdir, hbinary, data, hdata, hhash, sigData, sigText, signature, hsig, htext,
      hsignature, hany⟩
    exact ⟨ownershipOk_iff.mpr hdir, ownershipOk_iff.mpr hbinary, ⟨data, hdata, hhash⟩, sigData,
      sigText, signature, data, hsig, htext, hsignature, hdata, anyKeyVerifies_iff.mpr hany⟩

/-- **The verdict**: exactly the plugins that are genuine by the decoded keys are accepted. -/
theorem verdict_iff (T : Toolkit K S) (H : StreamingHash T) (h : Host)
    (trustedDir pluginDir : PathBuf) (m : Manifest) (uid : UInt32) (chosen chosen' : Nat → Nat) :
    ((Verifier.withTrustedDir h trustedDir).Accepts H h chosen pluginDir m uid ↔
      Genuine T h (PinnedIn T h trustedDir) pluginDir m uid) ∧
    (∀ v v' : Verifier, (∀ key, v.Trusts T key ↔ v'.Trusts T key) →
      v.verifyChunked H h chosen pluginDir m uid = v'.verifyChunked H h chosen' pluginDir m uid) ∧
    (∀ v : Verifier, (∀ key, ¬ v.Trusts T key) → ¬ v.Accepts H h chosen pluginDir m uid) := by
  refine ⟨?_, fun v v' hkeys => verifyChunked_congr hkeys, fun v hnone haccepts => ?_⟩
  · rw [accepts_iff_genuine, trusts_withTrustedDir]
  · obtain ⟨-, -, -, -, -, -, -, -, -, -, -, key, htrusted, -⟩ := accepts_iff_genuine.mp haccepts
    exact hnone key htrusted

def oneKey : Toolkit Unit Unit where
  parseManifest _ := .error ""
  utf8 _ := .ok ""
  sha256 _ := [0xab]
  decodeKey text := if text = "key" then some () else none
  decodeSignature _ := some ()
  verifies _ _ _ := true

def keyHost : Host where
  cwd := []
  node l :=
    .ok (if l = ["hello".toList] then .directory ⟨0o755, some 0⟩
      else .file ⟨0o755, some 0⟩ (.ok [1, 2, 3]))
  entries _ := some [⟨"README", false, some "keys"⟩, ⟨"broken.pub", false, some "?"⟩,
    ⟨"acme.pub", false, some "key"⟩]

def helloManifest : Manifest := ⟨"hello", "1.0.0", "v1", "bin", "ab", "acme"⟩

theorem hello_accepted :
    (Verifier.withTrustedDir keyHost "/keys".toList).Accepts (.buffered oneKey) keyHost
      (fun _ => 2) "/hello".toList helloManifest 1000 ∧
    (⟨["key", "?"]⟩ : Verifier).verifyChunked (.buffered oneKey) keyHost (fun _ => 2)
        "/hello".toList helloManifest 1000 =
      (⟨["?", "key"]⟩ : Verifier).verifyChunked (.buffered oneKey) keyHost (fun _ => 1)
        "/hello".toList helloManifest 1000 := by
  have hverdict := verdict_iff oneKey (.buffered oneKey) keyHost "/keys".toList "/hello".toList
    helloManifest 1000 (fun _ => 2) (fun _ => 1)
  have hguarded : Guarded ⟨0o755, some 0⟩ 1000 := ⟨by decide, by simp⟩
  constructor
  · refine hverdict.1.mpr ⟨⟨_, rfl, hguarded⟩, ⟨_, rfl, hguarded⟩, [1, 2, 3], rfl, by decide,
      [1, 2, 3], "", (), rfl, rfl, rfl, (), ?_, rfl⟩
    refine ⟨_, rfl, ⟨"acme.pub", false, some "key"⟩, by simp, rfl, by decide, "key", rfl, ?_⟩
    simp [oneKey]
  · refine hverdict.2.1 _ _ fun key => ?_
    simp [Verifier.Trusts, or_comm]

end Penguind.Extplugin
