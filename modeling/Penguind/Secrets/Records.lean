import Penguind.Secrets.FileBackend

/-!
# What the file backend returns

The cipher is ideal: the adversary cannot make content that opens, other than copies of stored
records. Then a record opens under its own key only, wherever it was moved.
-/

namespace Penguind.Secrets

open Foundation Extplugin

/-! ## File names -/

theorem digitChar_inj {a b : Nat} (ha : a < 16) (hb : b < 16)
    (h : Nat.digitChar a = Nat.digitChar b) : a = b := by
  have hall : ∀ a < 16, ∀ b < 16, Nat.digitChar a = Nat.digitChar b → a = b := by decide
  exact hall a ha b hb h

theorem digitChar_ne {n : Nat} (hn : n < 16) : Nat.digitChar n ≠ '.' ∧ Nat.digitChar n ≠ 'm' := by
  have hall : ∀ n < 16, Nat.digitChar n ≠ '.' ∧ Nat.digitChar n ≠ 'm' := by decide
  exact hall n hn

theorem hexEncode_injective : Function.Injective hexEncode := by
  intro bytes bytes' h
  replace h := congrArg String.toList h
  simp only [hexEncode, String.toList_ofList] at h
  induction bytes generalizing bytes' with
  | nil => cases bytes' with
    | nil => rfl
    | cons => cases h
  | cons b bytes ih =>
    cases bytes' with
    | nil => cases h
    | cons b' bytes' =>
      simp only [List.flatMap_cons, List.cons_append, List.nil_append, List.cons.injEq] at h
      obtain ⟨hhigh, hlow, hrest⟩ := h
      have hb := b.toNat_lt
      have hb' := b'.toNat_lt
      have hhigh := digitChar_inj (by omega) (by omega) hhigh
      have hlow := digitChar_inj (by omega) (by omega) hlow
      rw [ih hrest, UInt8.toNat_inj.mp (show b.toNat = b'.toNat by omega)]

theorem asBytes_injective : Function.Injective asBytes := by
  intro s t h
  exact String.toByteArray_inj.mp (ByteArray.ext (Array.toList_inj.mp h))

theorem recordName_injective : Function.Injective recordName := by
  intro key key' h
  have h := congrArg String.toList h
  simp only [recordName, String.toList_append] at h
  exact asBytes_injective (hexEncode_injective (String.toList_inj.mp (List.append_cancel_right h)))

theorem head_recordName (key : String) : recordName key = ".secret" ∨
    ∃ n < 16, (recordName key).toList.head? = some (Nat.digitChar n) := by
  simp only [recordName, hexEncode, String.toList_append, String.toList_ofList]
  cases asBytes key with
  | nil => exact .inl rfl
  | cons b bytes => exact .inr ⟨b.toNat / 16, by have := b.toNat_lt; omega, rfl⟩

theorem recordName_ne_masterKeyFilename (key : String) : recordName key ≠ masterKeyFilename := by
  intro h
  rcases head_recordName key with hext | ⟨n, hn, hhead⟩
  · exact absurd (h.symm.trans hext) (by decide)
  · rw [h] at hhead
    exact (digitChar_ne hn).2 (Option.some.inj hhead).symm

theorem recordName_ne_tempName (key : String) (value : UInt64) :
    recordName key ≠ tempName value := by
  intro h
  rcases head_recordName key with hext | ⟨n, hn, hhead⟩
  · have := congrArg (fun s => s.toList.length) (h.symm.trans hext)
    simp [tempName] at this
  · rw [h, tempName, String.toList_append] at hhead
    exact (digitChar_ne hn).1 (Option.some.inj hhead).symm

theorem tempName_ne_masterKeyFilename (value : UInt64) : tempName value ≠ masterKeyFilename := by
  intro h
  have := congrArg (fun s => s.toList.head?) h
  simp [tempName, masterKeyFilename] at this

/-! ## What the operations do -/

namespace FileBackend

variable {C : Cipher} {path : String} {masterKey : MasterKey} {dir dir' : Dir}

structure SameFiles (dir dir' : Dir) : Prop where
  records : ∀ key, dir' (recordName key) = dir (recordName key)
  masterKey : dir' masterKeyFilename = dir masterKeyFilename

theorem SameFiles.refl (dir : Dir) : SameFiles dir dir := ⟨fun _ => rfl, rfl⟩

theorem sameFiles_temp (dir : Dir) (value : UInt64) (content : Option Bytes) :
    SameFiles dir (Function.update dir (tempName value) content) :=
  ⟨fun key => Function.update_of_ne (recordName_ne_tempName key value) ..,
    Function.update_of_ne (tempName_ne_masterKeyFilename value).symm ..⟩

theorem createTempFile_ok {values : Nat → UInt64} {fault : Option String} {attempts i : Nat}
    {temp : String} (h : createTempFile dir values fault attempts i = .ok temp) :
    ∃ value, temp = tempName value := by
  induction attempts generalizing i with
  | zero => cases h
  | succ attempts ih =>
    simp only [createTempFile] at h
    split_ifs at h
    · exact ih h
    · cases fault with
      | some => cases h
      | none => exact ⟨values i, (Except.ok.inj h).symm⟩

theorem writeAtomic_cases (path : String) (dir : Dir) (name : String) (data : Bytes)
    (o : WriteOutcome) :
    writeAtomic path dir name data o = (.ok (), Function.update dir name (some data)) ∨
      ∃ err dir', writeAtomic path dir name data o = (.error err, dir') ∧ SameFiles dir dir' := by
  fun_cases writeAtomic path dir name data o with
  | case1 => exact .inr ⟨_, _, rfl, .refl dir⟩
  | case2 temp htemp | case3 temp htemp =>
    obtain ⟨value, rfl⟩ := createTempFile_ok htemp
    refine .inr ⟨_, _, rfl, ?_⟩
    split_ifs
    · exact sameFiles_temp dir value _
    · exact .refl dir
  | case4 => exact .inl rfl

theorem set_cases (C : Cipher) (path : String) (masterKey : MasterKey) (dir : Dir) (key : String)
    (value : Bytes) (nonce : Nonce) (o : WriteOutcome) :
    (∃ record, encryptRecord C masterKey key value nonce = .ok record ∧
        set C path masterKey dir key value nonce o =
          (.ok (), Function.update dir (recordName key) (some record))) ∨
      ∃ err dir', set C path masterKey dir key value nonce o = (.error err, dir') ∧
        SameFiles dir dir' := by
  unfold set
  cases encryptRecord C masterKey key value nonce with
  | error err => exact .inr ⟨err, dir, rfl, .refl dir⟩
  | ok record =>
    rcases writeAtomic_cases path dir (recordName key) record o with h | h
    · exact .inl ⟨record, rfl, h⟩
    · exact .inr h

theorem delete_cases (path : String) (dir : Dir) (key : String) (fault : Option String) :
    (delete path dir key fault = (.ok (), Function.update dir (recordName key) none)) ∨
      ∃ err, delete path dir key fault = (.error err, dir) := by
  fun_cases delete path dir key fault with
  | case1 | case2 => exact .inr ⟨_, rfl⟩
  | case3 => exact .inl rfl

structure Opens (dir : Dir) (result : Except SecretError MasterKey) (dir' : Dir) : Prop where
  records : ∀ key, dir' (recordName key) = dir (recordName key)
  keeps : dir masterKeyFilename ≠ none → dir' masterKeyFilename = dir masterKeyFilename
  reads : ∀ masterKey, result = .ok masterKey → dir' masterKeyFilename = some masterKey.1

theorem opens_error (dir : Dir) (err : SecretError) : Opens dir (.error err) dir :=
  ⟨fun _ => rfl, fun _ => rfl, nofun⟩

theorem opens_generateAndWriteKey (path : String) (o : OpenOutcome)
    (hnone : dir masterKeyFilename = none) :
    Opens dir (generateAndWriteKey path dir o).1 (generateAndWriteKey path dir o).2 := by
  have hrecords (content : Option Bytes) (key : String) :
      Function.update dir masterKeyFilename content (recordName key) = dir (recordName key) :=
    Function.update_of_ne (recordName_ne_masterKeyFilename key) ..
  unfold generateAndWriteKey
  split
  · exact opens_error dir _
  · exact ⟨hrecords _, fun h => absurd hnone h, nofun⟩
  · refine ⟨hrecords _, fun h => absurd hnone h, ?_⟩
    rintro _ ⟨⟩
    exact Function.update_self masterKeyFilename (some o.fresh.1) dir

theorem opens_open (path : String) (dir : Dir) (o : OpenOutcome) :
    Opens dir (FileBackend.open path dir o).1 (FileBackend.open path dir o).2 := by
  unfold FileBackend.open
  split
  · exact opens_error dir _
  · fun_cases ensureMasterKey path dir o with
    | case1 | case2 => exact opens_error dir _
    | case3 _ _ bytes hbytes =>
      refine ⟨fun _ => rfl, fun _ => rfl, fun masterKey h => ?_⟩
      unfold keyFromExistingBytes at h
      split_ifs at h
      obtain rfl := Except.ok.inj h
      exact hbytes
    | case4 _ _ hnone => exact opens_generateAndWriteKey path o hnone

theorem decryptRecord_iff (hC : C.Ideal) {key key' : String} {value value' : Bytes} {nonce : Nonce}
    {record : Bytes} {masterKey' : MasterKey}
    (h : encryptRecord C masterKey key value nonce = .ok record) :
    decryptRecord C masterKey' key' record = .ok value' ↔
      masterKey' = masterKey ∧ key' = key ∧ value' = value := by
  unfold encryptRecord at h
  split at h
  · cases h
  · rename_i ciphertext hencrypt
    obtain rfl := Except.ok.inj h
    have hlen : ¬ (nonce.1 ++ ciphertext).length < nonceLen := by
      rw [List.length_append, nonce.2]
      omega
    have htake : (nonce.1 ++ ciphertext).take nonceLen = nonce.1 :=
      List.take_left' nonce.2
    have hdrop : (nonce.1 ++ ciphertext).drop nonceLen = ciphertext := List.drop_left' nonce.2
    have hopens := hC masterKey nonce value (asBytes key) ciphertext hencrypt masterKey'
      (asBytes key') value'
    rw [asBytes_injective.eq_iff] at hopens
    rw [← hopens]
    simp only [decryptRecord, dif_neg hlen, htake, hdrop]
    cases C.decrypt masterKey' nonce ciphertext (asBytes key') <;> simp

end FileBackend

/-! ## What was set -/

namespace Disk

open FileBackend

variable {C : Cipher} {path key : String} {s t : Disk} {label : DiskLabel} {masterKey : MasterKey}
  {nonce : Nonce}

/-- Content that was stored as a record, or that opens under nothing. -/
def Unforged (C : Cipher) (log : List Done) (content : Bytes) : Prop :=
  (∃ masterKey key value, Done.set masterKey key value content ∈ log) ∨
    ∀ masterKey key value, decryptRecord C masterKey key content ≠ .ok value

def NoForgery (C : Cipher) (s : Disk) : DiskLabel → Prop
  | .tamper _ (some content) => Unforged C s.log content
  | _ => True

structure Genuine (C : Cipher) (s : Disk) : Prop where
  logged : ∀ masterKey key value record, Done.set masterKey key value record ∈ s.log →
    ∃ nonce, encryptRecord C masterKey key value nonce = .ok record
  records : ∀ key content, s.dir (recordName key) = some content → Unforged C s.log content

theorem genuine_empty (C : Cipher) : Genuine C empty := ⟨nofun, nofun⟩

theorem Unforged.mono {log log' : List Done} {content : Bytes} (h : Unforged C log content)
    (hlog : log ⊆ log') : Unforged C log' content :=
  h.imp_left fun ⟨masterKey, key, value, hmem⟩ => ⟨masterKey, key, value, hlog hmem⟩

inductive Moves (C : Cipher) (s : Disk) : DiskLabel → Disk → Prop
  | stays {label : DiskLabel} {dir : Dir} (h : SameFiles s.dir dir) :
    Moves C s label ⟨dir, s.masterKey, s.log⟩
  | opened (o : OpenOutcome) {result : Except SecretError MasterKey} {dir : Dir}
    (h : Opens s.dir result dir) : Moves C s (.open o) ⟨dir, result.toOption, s.log⟩
  | stored {masterKey : MasterKey} (key : String) (value : Bytes) (nonce : Nonce) (o : WriteOutcome)
    {record : Bytes} (hkey : s.masterKey = some masterKey)
    (h : encryptRecord C masterKey key value nonce = .ok record) :
    Moves C s (.set key value nonce o)
      ⟨Function.update s.dir (recordName key) (some record), s.masterKey,
        .set masterKey key value record :: s.log⟩
  | removed (key : String) (fault : Option String) :
    Moves C s (.delete key fault)
      ⟨Function.update s.dir (recordName key) none, s.masterKey, .delete key :: s.log⟩
  | tampered (name : String) (content : Option Bytes) :
    Moves C s (.tamper name content) { s with dir := Function.update s.dir name content }

theorem moves_step (hstep : step C path s label = some t) : Moves C s label t := by
  have hstays : Moves C s label s := .stays (.refl s.dir)
  cases label with
  | «open» o =>
    obtain rfl := Option.some.inj hstep
    have hopens := opens_open path s.dir o
    unfold afterOpen
    generalize FileBackend.open path s.dir o = opened at hopens ⊢
    rcases opened with ⟨err | masterKey, dir⟩ <;> exact .opened o hopens
  | get key fault =>
    obtain ⟨masterKey, -, rfl⟩ := Option.map_eq_some_iff.mp hstep
    exact hstays
  | set key value nonce o =>
    obtain ⟨masterKey, hkey, rfl⟩ := Option.map_eq_some_iff.mp hstep
    unfold afterSet
    rcases set_cases C path masterKey s.dir key value nonce o with
      ⟨record, hrecord, hset⟩ | ⟨err, dir, hset, hsame⟩
    · rw [hrecord, hset]
      exact .stored key value nonce o hkey hrecord
    · rw [hset]
      cases encryptRecord C masterKey key value nonce <;> exact .stays hsame
  | delete key fault =>
    obtain ⟨masterKey, -, rfl⟩ := Option.map_eq_some_iff.mp hstep
    unfold afterDelete
    rcases delete_cases path s.dir key fault with h | ⟨err, h⟩
    · rw [h]
      exact .removed key fault
    · rw [h]
      exact hstays
  | tamper name content =>
    obtain rfl := Option.some.inj hstep
    exact .tampered name content

theorem genuine_of_records {dir : Dir} {masterKey : Option MasterKey} (h : Genuine C s)
    (hrecords : ∀ key, dir (recordName key) = s.dir (recordName key)) :
    Genuine C ⟨dir, masterKey, s.log⟩ := by
  refine ⟨h.logged, fun key content hcontent => h.records key content ?_⟩
  rw [← hrecords]
  exact hcontent

theorem genuine_of_update {name : String} {content : Option Bytes} {log : List Done}
    (h : Genuine C s) (hsub : s.log ⊆ log)
    (hlogged : ∀ masterKey key value record, Done.set masterKey key value record ∈ log →
      ∃ nonce, encryptRecord C masterKey key value nonce = .ok record)
    (hcontent : ∀ record, content = some record → Unforged C log record) :
    Genuine C ⟨Function.update s.dir name content, s.masterKey, log⟩ := by
  refine ⟨hlogged, fun key found hfound => ?_⟩
  dsimp only at hfound
  by_cases hname : recordName key = name
  · rw [hname, Function.update_self] at hfound
    exact hcontent found hfound
  · rw [Function.update_of_ne hname] at hfound
    exact (h.records key found hfound).mono hsub

theorem genuine_of_set {value record : Bytes} (h : Genuine C s)
    (hrecord : encryptRecord C masterKey key value nonce = .ok record) :
    Genuine C ⟨Function.update s.dir (recordName key) (some record), s.masterKey,
      .set masterKey key value record :: s.log⟩ := by
  refine genuine_of_update h (List.subset_cons_self ..) ?_ ?_
  · rintro masterKey' key' value' record' (_ | ⟨_, hold⟩)
    · exact ⟨nonce, hrecord⟩
    · exact h.logged masterKey' key' value' record' hold
  · rintro _ ⟨⟩
    exact .inl ⟨masterKey, key, value, List.mem_cons_self⟩

theorem genuine_of_delete (key : String) (h : Genuine C s) :
    Genuine C ⟨Function.update s.dir (recordName key) none, s.masterKey, .delete key :: s.log⟩ := by
  refine genuine_of_update h (List.subset_cons_self ..) ?_ nofun
  rintro masterKey key' value record (_ | ⟨_, hold⟩)
  exact h.logged masterKey key' value record hold

theorem genuine_step (h : Genuine C s) (hhonest : NoForgery C s label)
    (hstep : step C path s label = some t) : Genuine C t := by
  cases moves_step hstep with
  | stays hsame => exact genuine_of_records h hsame.records
  | opened o hopens => exact genuine_of_records h hopens.records
  | stored key value nonce o hkey hrecord => exact genuine_of_set h hrecord
  | removed key fault => exact genuine_of_delete key h
  | tampered name content =>
    refine genuine_of_update h (List.Subset.refl _) h.logged ?_
    rintro record rfl
    exact hhonest

theorem mem_log_of_get (hC : C.Ideal) (h : Genuine C s) {fault : Option String} {value : Bytes}
    (hget : FileBackend.get C path masterKey s.dir key fault = .ok value) :
    ∃ record, Done.set masterKey key value record ∈ s.log := by
  revert hget
  fun_cases FileBackend.get C path masterKey s.dir key fault with intro hget
  | case1 | case2 => cases hget
  | case3 record hrecord =>
    rcases h.records key record hrecord with ⟨masterKey', key', value', hmem⟩ | hnone
    · obtain ⟨nonce, hencrypt⟩ := h.logged masterKey' key' value' record hmem
      obtain ⟨rfl, rfl, rfl⟩ := (decryptRecord_iff hC hencrypt).mp hget
      exact ⟨record, hmem⟩
    · exact absurd hget (hnone masterKey key value)

/-! ## Without the adversary -/

structure Mapped (C : Cipher) (s : Disk) : Prop where
  masterKey : ∀ masterKey, s.masterKey = some masterKey →
    s.dir masterKeyFilename = some masterKey.1
  absent : ∀ key, current s.log key = none → s.dir (recordName key) = none
  present : ∀ key value, current s.log key = some value →
    ∃ masterKey nonce record, s.dir masterKeyFilename = some masterKey.1 ∧
      s.dir (recordName key) = some record ∧
      encryptRecord C masterKey key value nonce = .ok record

theorem mapped_empty (C : Cipher) : Mapped C empty := ⟨nofun, fun _ _ => rfl, nofun⟩

theorem mapped_of_sameFiles {dir : Dir} (h : Mapped C s) (hsame : SameFiles s.dir dir) :
    Mapped C ⟨dir, s.masterKey, s.log⟩ := by
  refine ⟨fun masterKey hkey => ?_, fun key hnone => ?_, fun key value hsome => ?_⟩
  · exact hsame.masterKey.trans (h.masterKey masterKey hkey)
  · exact (hsame.records key).trans (h.absent key hnone)
  · obtain ⟨masterKey, nonce, record, hkey, hrecord, hencrypt⟩ := h.present key value hsome
    exact ⟨masterKey, nonce, record, hsame.masterKey.trans hkey, (hsame.records key).trans hrecord,
      hencrypt⟩

theorem mapped_of_opens {result : Except SecretError MasterKey} {dir : Dir} (h : Mapped C s)
    (hopens : Opens s.dir result dir) : Mapped C ⟨dir, result.toOption, s.log⟩ := by
  refine ⟨fun masterKey hkey => hopens.reads masterKey ?_, fun key hnone => ?_,
    fun key value hsome => ?_⟩
  · cases result with
    | error => cases hkey
    | ok => exact congrArg Except.ok (Option.some.inj hkey)
  · exact (hopens.records key).trans (h.absent key hnone)
  · obtain ⟨masterKey, nonce, record, hkey, hrecord, hencrypt⟩ := h.present key value hsome
    have hkeeps : dir masterKeyFilename = s.dir masterKeyFilename :=
      hopens.keeps (by rw [hkey]; nofun)
    exact ⟨masterKey, nonce, record, hkeeps.trans hkey, (hopens.records key).trans hrecord,
      hencrypt⟩

theorem mapped_of_update {secret content : Option Bytes} {log : List Done}
    (h : Mapped C s)
    (hcurrent : ∀ key', current log key' = if key = key' then secret else current s.log key')
    (habsent : secret = none → content = none)
    (hpresent : ∀ value, secret = some value → ∃ masterKey nonce record,
      s.dir masterKeyFilename = some masterKey.1 ∧ content = some record ∧
        encryptRecord C masterKey key value nonce = .ok record) :
    Mapped C ⟨Function.update s.dir (recordName key) content, s.masterKey, log⟩ := by
  have hmaster : Function.update s.dir (recordName key) content masterKeyFilename =
      s.dir masterKeyFilename :=
    Function.update_of_ne (recordName_ne_masterKeyFilename key).symm ..
  refine ⟨fun masterKey hkey => hmaster.trans (h.masterKey masterKey hkey), fun key' hnone => ?_,
    fun key' value hsome => ?_⟩
  · dsimp only at hnone ⊢
    rw [hcurrent] at hnone
    split_ifs at hnone with heq
    · rw [← heq, Function.update_self, habsent hnone]
    · rw [Function.update_of_ne (recordName_injective.ne (Ne.symm heq))]
      exact h.absent key' hnone
  · dsimp only at hsome ⊢
    rw [hmaster]
    rw [hcurrent] at hsome
    split_ifs at hsome with heq
    · subst heq
      rw [Function.update_self]
      exact hpresent value hsome
    · rw [Function.update_of_ne (recordName_injective.ne (Ne.symm heq))]
      exact h.present key' value hsome

theorem mapped_of_set {value record : Bytes} (h : Mapped C s) (hkey : s.masterKey = some masterKey)
    (hrecord : encryptRecord C masterKey key value nonce = .ok record) :
    Mapped C ⟨Function.update s.dir (recordName key) (some record), s.masterKey,
      .set masterKey key value record :: s.log⟩ := by
  refine mapped_of_update h (fun _ => rfl) nofun ?_
  rintro _ ⟨⟩
  exact ⟨masterKey, nonce, record, h.masterKey masterKey hkey, rfl, hrecord⟩

end Disk

def DiskLabel.isTamper : DiskLabel → Bool
  | .tamper _ _ => true
  | _ => false

namespace Disk

open FileBackend

variable {C : Cipher} {path : String} {s t : Disk} {label : DiskLabel}

theorem mapped_step (h : Mapped C s) (hlabel : label.isTamper = false)
    (hstep : step C path s label = some t) : Mapped C t := by
  cases moves_step hstep with
  | stays hsame => exact mapped_of_sameFiles h hsame
  | opened o hopens => exact mapped_of_opens h hopens
  | stored key value nonce o hkey hrecord => exact mapped_of_set h hkey hrecord
  | removed key fault => exact mapped_of_update h (fun _ => rfl) (fun _ => rfl) nofun
  | tampered => cases hlabel

theorem get_of_mapped (hC : C.Ideal) (h : Mapped C s) {masterKey : MasterKey}
    (hkey : s.masterKey = some masterKey) (key : String) :
    FileBackend.get C path masterKey s.dir key none =
      (current s.log key).elim (.error .notFound) .ok := by
  unfold FileBackend.get
  cases hvalue : current s.log key with
  | none => rw [h.absent key hvalue]; rfl
  | some value =>
    obtain ⟨masterKey', nonce, record, hkey', hrecord, hencrypt⟩ := h.present key value hvalue
    obtain rfl : masterKey' = masterKey :=
      Subtype.ext (Option.some.inj (hkey'.symm.trans (h.masterKey masterKey hkey)))
    rw [hrecord]
    exact (decryptRecord_iff hC hencrypt).mpr ⟨rfl, rfl, rfl⟩

theorem delete_of_mapped (h : Mapped C s) (key : String) :
    (FileBackend.delete path s.dir key none).1 =
      (current s.log key).elim (.error .notFound) fun _ => .ok () := by
  unfold FileBackend.delete
  cases hvalue : current s.log key with
  | none => rw [h.absent key hvalue]; rfl
  | some value =>
    obtain ⟨_, _, record, -, hrecord, -⟩ := h.present key value hvalue
    rw [hrecord]
    rfl

end Disk

/-- **The file backend returns what was set** under exactly its key; without an adversary it is a
map. -/
theorem file_backend_sound (C : Cipher) (hC : C.Ideal) (path : String) (labels : List DiskLabel)
    (t : Disk) (hr : run (Disk.step C path) .empty labels = some t)
    (hforge : Along (Disk.step C path) (Disk.NoForgery C) .empty labels) :
    (∀ masterKey key fault value,
      FileBackend.get C path masterKey t.dir key fault = .ok value →
        ∃ record, Done.set masterKey key value record ∈ t.log) ∧
      ((∀ label ∈ labels, label.isTamper = false) →
        ∀ masterKey, t.masterKey = some masterKey → ∀ key,
          FileBackend.get C path masterKey t.dir key none =
              (current t.log key).elim (.error .notFound) .ok ∧
            (FileBackend.delete path t.dir key none).1 =
              (current t.log key).elim (.error .notFound) fun _ => .ok ()) := by
  constructor
  · have hgenuine : t.Genuine C := by
      refine run_invariant (fun s label t hs hlabel hstep => ?_) (Disk.genuine_empty C) hforge hr
      exact Disk.genuine_step hs hlabel hstep
    intro masterKey key fault value hget
    exact Disk.mem_log_of_get hC hgenuine hget
  · intro hno masterKey hkey key
    have hmapped : t.Mapped C := by
      refine run_invariant (fun s label t hs hlabel hstep => ?_) (Disk.mapped_empty C)
        (along_of_forall_mem hno) hr
      exact Disk.mapped_step hs hlabel hstep
    exact ⟨Disk.get_of_mapped hC hmapped hkey key, Disk.delete_of_mapped hmapped key⟩

/-! ## An ideal cipher, and a record under another name -/

def mark : Bytes → Bytes
  | [] => [0]
  | b :: bytes => 1 :: b :: mark bytes

theorem mark_append_inj {a a' b b' : Bytes} (h : mark a ++ b = mark a' ++ b') :
    a = a' ∧ b = b' := by
  induction a generalizing a' with
  | nil =>
    cases a' with
    | nil => exact ⟨rfl, (List.cons.inj h).2⟩
    | cons => cases (List.cons.inj h).1
  | cons x a ih =>
    cases a' with
    | nil => cases (List.cons.inj h).1
    | cons x' a' =>
      obtain ⟨hx, h⟩ := List.cons.inj (List.cons.inj h).2
      obtain ⟨ha, hb⟩ := ih h
      exact ⟨by rw [hx, ha], hb⟩

def framing : Cipher where
  encrypt key _ msg aad := some (key.1 ++ mark aad ++ msg)
  decrypt key _ msg aad :=
    if key.1 ++ mark aad <+: msg then some (msg.drop (key.1 ++ mark aad).length) else none

theorem framing_ideal : framing.Ideal := by
  rintro key nonce msg aad _ ⟨⟩ key' aad' msg'
  have hiff : framing.decrypt key' nonce (key.1 ++ mark aad ++ msg) aad' = some msg' ↔
      key'.1 ++ mark aad' ++ msg' = key.1 ++ mark aad ++ msg := by
    simp only [framing, Option.ite_none_right_eq_some, Option.some.injEq]
    constructor
    · rintro ⟨⟨rest, hrest⟩, hdrop⟩
      rw [← hrest, List.drop_left] at hdrop
      rw [← hrest, hdrop]
    · intro heq
      rw [← heq]
      exact ⟨List.prefix_append .., List.drop_left⟩
  rw [hiff]
  constructor
  · intro heq
    rw [List.append_assoc, List.append_assoc] at heq
    obtain ⟨hkey, hrest⟩ := List.append_inj heq (key'.2.trans key.2.symm)
    obtain ⟨haad, hmsg⟩ := mark_append_inj hrest
    exact ⟨Subtype.ext hkey, haad, hmsg⟩
  · rintro ⟨rfl, rfl, rfl⟩
    rfl

def zeroKey : MasterKey := ⟨List.replicate 32 0, List.length_replicate ..⟩

def zeroNonce : Nonce := ⟨List.replicate nonceLen 0, List.length_replicate ..⟩

def copiedRecord : List DiskLabel :=
  [.open ⟨none, .ok 0o700, none, zeroKey, none, none⟩,
    .set "a" [7] zeroNonce ⟨fun _ => 0, none, none, none, [], false⟩,
    .tamper (recordName "b") (some (zeroNonce.1 ++ (zeroKey.1 ++ mark (asBytes "a") ++ [7])))]

theorem copiedRecord_runs :
    (run (Disk.step framing "/secrets") .empty copiedRecord).isSome := by
  decide +kernel

theorem copiedRecord_refused :
    ∃ t, run (Disk.step framing "/secrets") .empty copiedRecord = some t ∧
      FileBackend.get framing "/secrets" zeroKey t.dir "a" none = .ok [7] ∧
      ∀ fault value, FileBackend.get framing "/secrets" zeroKey t.dir "b" fault ≠ .ok value := by
  have hforge : Along (Disk.step framing "/secrets") (Disk.NoForgery framing) .empty
      copiedRecord := by
    refine ⟨trivial, trivial, .inl ⟨zeroKey, "a", [7], ?_⟩, trivial⟩
    decide +kernel
  have hlog : ((run (Disk.step framing "/secrets") .empty copiedRecord).get copiedRecord_runs).log =
      [.set zeroKey "a" [7] (zeroNonce.1 ++ (zeroKey.1 ++ mark (asBytes "a") ++ [7]))] := by
    decide +kernel
  refine ⟨_, (Option.some_get copiedRecord_runs).symm, by decide +kernel, ?_⟩
  intro fault value hget
  obtain ⟨record, hmem⟩ := (file_backend_sound framing framing_ideal "/secrets" copiedRecord _
    (Option.some_get copiedRecord_runs).symm hforge).1 zeroKey "b" fault value hget
  rw [hlog] at hmem
  simp at hmem

end Penguind.Secrets
