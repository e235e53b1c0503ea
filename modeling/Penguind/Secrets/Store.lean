import Penguind.Daemon.External
import Penguind.Secrets.Records

/-!
# The secret store and its views

All modules share one store, through views that put the module's name and a slash in front of
every key. Names and keys are not checked for slashes, so two views can reach one secret.
-/

namespace Penguind.Secrets

open Foundation Extplugin

structure Store where
  «namespace» : String

namespace Store

def root : Store := ⟨""⟩

def namespaced (_ : Store) (module : String) : Store := ⟨module⟩

def makeKey (s : Store) (key : String) : String :=
  if s.namespace = "" then key else s.namespace ++ "/" ++ key

variable (C : Cipher) (path : String) (masterKey : MasterKey) (dir : Dir) (s : Store)

def get (key : String) (fault : Option String) : Except SecretError Bytes :=
  FileBackend.get C path masterKey dir (s.makeKey key) fault

def set (key : String) (value : Bytes) (nonce : Nonce) (o : WriteOutcome) :
    Except SecretError Unit × Dir :=
  FileBackend.set C path masterKey dir (s.makeKey key) value nonce o

def delete (key : String) (fault : Option String) : Except SecretError Unit × Dir :=
  FileBackend.delete path dir (s.makeKey key) fault

end Store

def storeFor (root : Store) (module : String) : Store := root.namespaced module

abbrev Owner := Option String

def Owner.view : Owner → Store
  | none => .root
  | some module => storeFor .root module

/-! ## Accesses through views -/

inductive Access
  | get (key : String) (fault : Option String)
  | set (key : String) (value : Bytes) (nonce : Nonce) (o : WriteOutcome)
  | delete (key : String) (fault : Option String)

namespace Access

def key : Access → String
  | .get key _ | .set key _ _ _ | .delete key _ => key

def request (s : Store) : Access → DiskLabel
  | .get key fault => .get (s.makeKey key) fault
  | .set key value nonce o => .set (s.makeKey key) value nonce o
  | .delete key fault => .delete (s.makeKey key) fault

def succeeds (C : Cipher) (path : String) (masterKey : MasterKey) (dir : Dir) (s : Store) :
    Access → Bool
  | .get key fault => (s.get C path masterKey dir key fault).isOk
  | .set key value nonce o => (s.set C path masterKey dir key value nonce o).1.isOk
  | .delete key fault => (s.delete path dir key fault).1.isOk

def noted (owner : Owner) (writer : String → Option Owner) : Access → String → Option Owner
  | .get _ _ => writer
  | .set key _ _ _ => Function.update writer (owner.view.makeKey key) (some owner)
  | .delete key _ => Function.update writer (owner.view.makeKey key) none

end Access

structure Vault where
  disk : Disk
  writer : String → Option Owner

inductive VaultLabel
  | «open» (o : OpenOutcome)
  | access (owner : Owner) (a : Access)

namespace Vault

def empty : Vault := ⟨.empty, fun _ => none⟩

variable (C : Cipher) (path : String)

def step (v : Vault) : VaultLabel → Option Vault
  | .open o => (Disk.step C path v.disk (.open o)).map fun disk => { v with disk := disk }
  | .access owner a =>
    v.disk.masterKey.bind fun masterKey =>
      (Disk.step C path v.disk (a.request owner.view)).map fun disk =>
        { disk := disk
          writer := if a.succeeds C path masterKey v.disk.dir owner.view then a.noted owner v.writer
            else v.writer }

structure Foreign (v : Vault) (module : String) (a : Access) (masterKey : MasterKey)
    (owner : Owner) : Prop where
  isOpen : v.disk.masterKey = some masterKey
  succeeds : a.succeeds C path masterKey v.disk.dir (storeFor .root module) = true
  writer : v.writer ((storeFor .root module).makeKey a.key) = some owner
  ne : owner ≠ some module

end Vault

/-! ## Separated names -/

section

variable (N R : Set String)

/-- Modules with names in `N`, and the bare keys `R`. -/
def Uses : Owner → String → Prop
  | some module, _ => module ∈ N
  | none, key => key ∈ R

def VaultLabel.Within : VaultLabel → Prop
  | .open _ => True
  | .access owner a => Uses N R owner a.key

def keyPrefix (module : String) : List Char :=
  if module = "" then [] else module.toList ++ ['/']

/-- No name with its slash starts another, nor a bare key. -/
structure Separated : Prop where
  modules : ∀ m₁ ∈ N, ∀ m₂ ∈ N, m₁ ≠ m₂ → ¬ keyPrefix m₁ <+: keyPrefix m₂
  keys : ∀ m ∈ N, ∀ key ∈ R, ¬ keyPrefix m <+: key.toList

/-- **The views are isolated**: no module reaches a secret of another owner. -/
def Isolated (C : Cipher) (path : String) : Prop :=
  ∀ labels v, (∀ label ∈ labels, label.Within N R) →
    run (Vault.step C path) .empty labels = some v →
      ∀ module ∈ N, ∀ a masterKey owner, ¬ v.Foreign C path module a masterKey owner

end

theorem toList_makeKey (module key : String) :
    ((storeFor .root module).makeKey key).toList = keyPrefix module ++ key.toList := by
  by_cases h : module = "" <;>
    simp [storeFor, Store.namespaced, Store.makeKey, keyPrefix, h]

theorem exists_append_eq_append {α : Type} {a b : List α} :
    (∃ c d, a ++ c = b ++ d) ↔ a <+: b ∨ b <+: a := by
  constructor
  · rintro ⟨c, d, h⟩
    exact List.prefix_or_prefix_of_prefix (List.prefix_append a c) ⟨d, h.symm⟩
  · rintro (⟨c, rfl⟩ | ⟨d, rfl⟩)
    · exact ⟨c, [], (List.append_nil _).symm⟩
    · exact ⟨[], d, List.append_nil _⟩

theorem makeKey_collides_iff {m₁ m₂ : String} :
    (∃ k₁ k₂, (storeFor .root m₁).makeKey k₁ = (storeFor .root m₂).makeKey k₂) ↔
      keyPrefix m₁ <+: keyPrefix m₂ ∨ keyPrefix m₂ <+: keyPrefix m₁ := by
  simp only [← exists_append_eq_append, ← String.toList_inj, toList_makeKey]
  constructor
  · rintro ⟨k₁, k₂, h⟩
    exact ⟨_, _, h⟩
  · rintro ⟨c, d, h⟩
    exact ⟨.ofList c, .ofList d, by simpa using h⟩

theorem makeKey_eq_bare_iff {module key : String} :
    (∃ k, (storeFor .root module).makeKey k = key) ↔ keyPrefix module <+: key.toList := by
  simp only [← String.toList_inj, toList_makeKey]
  constructor
  · rintro ⟨k, h⟩
    exact ⟨_, h⟩
  · rintro ⟨c, h⟩
    exact ⟨.ofList c, by simpa using h⟩

def Collides (N R : Set String) : Prop :=
  ∃ module ∈ N, ∃ owner key key', owner ≠ some module ∧ Uses N R owner key' ∧
    (storeFor .root module).makeKey key = (Owner.view owner).makeKey key'

theorem separated_iff {N R : Set String} : Separated N R ↔ ¬ Collides N R := by
  constructor
  · rintro hsep ⟨m, hm, owner, key, key', hne, huses, heq⟩
    cases owner with
    | none => exact hsep.keys m hm key' huses (makeKey_eq_bare_iff.mp ⟨key, heq⟩)
    | some m' =>
      have hmm : m ≠ m' := fun h => hne (congrArg some h.symm)
      rcases makeKey_collides_iff.mp ⟨key, key', heq⟩ with h | h
      · exact hsep.modules m hm m' huses hmm h
      · exact hsep.modules m' huses m hm hmm.symm h
  · intro hno
    refine ⟨fun m₁ h₁ m₂ h₂ hne hpre => hno ?_, fun m hm key hkey hpre => hno ?_⟩
    · obtain ⟨k₁, k₂, heq⟩ := makeKey_collides_iff.mpr (.inl hpre)
      exact ⟨m₁, h₁, some m₂, k₁, k₂, fun h => hne (Option.some.inj h).symm, h₂, heq⟩
    · obtain ⟨k, heq⟩ := makeKey_eq_bare_iff.mpr hpre
      exact ⟨m, hm, none, k, key, nofun, hkey, heq⟩

/-! ## Isolation -/

namespace Vault

variable {C : Cipher} {path : String} {N R : Set String} {v w : Vault} {label : VaultLabel}

def Owned (N R : Set String) (v : Vault) : Prop :=
  ∀ key owner, v.writer key = some owner →
    ∃ key', Uses N R owner key' ∧ owner.view.makeKey key' = key

theorem owned_empty (N R : Set String) : empty.Owned N R := by
  intro key owner h
  cases h

theorem owned_update {key : String} {content : Option Owner} (h : v.Owned N R)
    (hcontent : ∀ owner, content = some owner →
      ∃ key', Uses N R owner key' ∧ owner.view.makeKey key' = key) (disk : Disk) :
    Owned N R ⟨disk, Function.update v.writer key content⟩ := by
  intro key' owner hwriter
  dsimp only at hwriter
  by_cases hkey : key' = key
  · rw [hkey, Function.update_self] at hwriter
    rw [hkey]
    exact hcontent owner hwriter
  · rw [Function.update_of_ne hkey] at hwriter
    exact h key' owner hwriter

theorem owned_noted {owner : Owner} {a : Access} (h : v.Owned N R) (huses : Uses N R owner a.key)
    (disk : Disk) : Owned N R ⟨disk, a.noted owner v.writer⟩ := by
  cases a with
  | get => exact h
  | set key =>
    refine owned_update h (fun owner' howner => ?_) disk
    obtain rfl := Option.some.inj howner
    exact ⟨key, huses, rfl⟩
  | delete =>
    refine owned_update h (fun owner' howner => ?_) disk
    cases howner

theorem owned_step (h : v.Owned N R) (hlabel : label.Within N R)
    (hstep : step C path v label = some w) : w.Owned N R := by
  cases label with
  | «open» o =>
    obtain rfl := Option.some.inj hstep
    exact h
  | access owner a =>
    obtain ⟨masterKey, -, hstep⟩ := Option.bind_eq_some_iff.mp hstep
    obtain ⟨disk, -, rfl⟩ := Option.map_eq_some_iff.mp hstep
    split_ifs
    · exact owned_noted h hlabel disk
    · exact h

theorem collides_of_foreign (h : v.Owned N R) {module : String} (hmodule : module ∈ N) {a : Access}
    {masterKey : MasterKey} {owner : Owner} (hforeign : v.Foreign C path module a masterKey owner) :
    Collides N R := by
  obtain ⟨key', huses, heq⟩ := h _ _ hforeign.writer
  exact ⟨module, hmodule, owner, a.key, key', hforeign.ne, huses, heq.symm⟩

end Vault

/-! ### A collision is an access -/

def firstOpen : OpenOutcome := ⟨none, .ok 0o700, none, zeroKey, none, none⟩

def cleanWrite : WriteOutcome := ⟨fun _ => 0, none, none, none, [], false⟩

def openedDir : Dir := Function.update (fun _ => none) masterKeyFilename (some zeroKey.1)

theorem set_openedDir {C : Cipher} {key : String} {value record : Bytes}
    (h : FileBackend.encryptRecord C zeroKey key value zeroNonce = .ok record) (path : String) :
    FileBackend.set C path zeroKey openedDir key value zeroNonce cleanWrite =
      (.ok (), Function.update openedDir (recordName key) (some record)) := by
  have htemp : openedDir (tempName 0) = none :=
    Function.update_of_ne (tempName_ne_masterKeyFilename 0) ..
  have hcreate : FileBackend.createTempFile openedDir (fun _ => 0) none 100 0 =
      .ok (tempName 0) := by
    simp [FileBackend.createTempFile, htemp]
  simp only [FileBackend.set, h, FileBackend.writeAtomic, cleanWrite, hcreate]

theorem run_first_secret {C : Cipher} {owner : Owner} {key : String} {value record : Bytes}
    (h : FileBackend.encryptRecord C zeroKey (owner.view.makeKey key) value zeroNonce = .ok record)
    (path : String) :
    run (Vault.step C path) .empty
        [.open firstOpen, .access owner (.set key value zeroNonce cleanWrite)] =
      some ⟨⟨Function.update openedDir (recordName (owner.view.makeKey key)) (some record),
        some zeroKey, [.set zeroKey (owner.view.makeKey key) value record]⟩,
        Function.update (fun _ => none) (owner.view.makeKey key) (some owner)⟩ := by
  have hset := set_openedDir h path
  have hopen : Vault.step C path .empty (.open firstOpen) =
      some ⟨⟨openedDir, some zeroKey, []⟩, fun _ => none⟩ := rfl
  rw [run_cons, hopen, Option.bind_some, run_cons]
  simp only [Vault.step, Access.request, Disk.step, Disk.afterSet, h, hset, Option.bind_some,
    Option.map_some, run_nil, Access.succeeds, Store.set, Access.noted, Except.isOk,
    Except.toBool, if_true]

theorem foreign_of_collision {C : Cipher}
    (hC : ∀ masterKey nonce aad, (C.encrypt masterKey nonce [] aad).isSome) (path : String)
    {module : String} {owner : Owner} {key key' : String} (hne : owner ≠ some module)
    (heq : (storeFor .root module).makeKey key = owner.view.makeKey key') :
    ∃ v, run (Vault.step C path) .empty
        [.open firstOpen, .access owner (.set key' [] zeroNonce cleanWrite)] = some v ∧
      v.Foreign C path module (.delete key none) zeroKey owner := by
  obtain ⟨ciphertext, hcipher⟩ :=
    Option.isSome_iff_exists.mp (hC zeroKey zeroNonce (asBytes (owner.view.makeKey key')))
  have hrecord : FileBackend.encryptRecord C zeroKey (owner.view.makeKey key') [] zeroNonce =
      .ok (zeroNonce.1 ++ ciphertext) := by
    simp [FileBackend.encryptRecord, hcipher]
  refine ⟨_, run_first_secret hrecord path, rfl, ?_, ?_, hne⟩
  · simp only [Access.succeeds, Store.delete, heq, FileBackend.delete, Function.update_self]
    rfl
  · simp only [Access.key, heq, Function.update_self]

/-- **Isolation of the views**: exactly if the names and the keys are separated. -/
theorem isolated_iff (C : Cipher)
    (hC : ∀ masterKey nonce aad, (C.encrypt masterKey nonce [] aad).isSome) (path : String)
    (N R : Set String) : Isolated N R C path ↔ Separated N R := by
  rw [separated_iff]
  constructor
  · rintro hiso ⟨module, hmodule, owner, key, key', hne, huses, heq⟩
    obtain ⟨v, hr, hforeign⟩ := foreign_of_collision hC path hne heq
    refine hiso _ v ?_ hr module hmodule _ _ _ hforeign
    simpa [VaultLabel.Within, Access.key] using huses
  · intro hno labels v hlabels hr module hmodule a masterKey owner hforeign
    have howned : v.Owned N R := by
      refine run_invariant (fun v label w hv hlabel hstep => ?_) (Vault.owned_empty N R)
        (along_of_forall_mem hlabels) hr
      exact Vault.owned_step hv hlabel hstep
    exact hno (Vault.collides_of_foreign howned hmodule hforeign)

theorem separated_plain :
    Separated {module | module ≠ "" ∧ '/' ∉ module.toList} {key | '/' ∉ key.toList} := by
  constructor
  · rintro m₁ ⟨hne₁, -⟩ m₂ ⟨hne₂, hm₂⟩ hne ⟨c, hc⟩
    simp only [keyPrefix, hne₁, hne₂, if_false, List.append_assoc, List.singleton_append] at hc
    obtain ⟨heq, -⟩ := (List.append_cons_inj_of_notMem hm₂ List.not_mem_nil).mp hc.symm
    exact hne (String.toList_inj.mp heq.symm)
  · rintro m ⟨hne, -⟩ key hkey ⟨c, hc⟩
    refine hkey ?_
    simp [← hc, keyPrefix, hne]

theorem plain_names_isolated :
    Isolated {module | module ≠ "" ∧ '/' ∉ module.toList} {key | '/' ∉ key.toList} framing
      "/secrets" :=
  (isolated_iff framing (fun _ _ _ => rfl) "/secrets" _ _).mpr separated_plain

def nestedNames : List VaultLabel :=
  [.open firstOpen, .access (some "hello") (.set "./k" [7] zeroNonce cleanWrite),
    .access none (.set "hello/k" [8] zeroNonce cleanWrite)]

/-- **Views are not isolated**: the loader accepts `hello` and `hello/.`. -/
theorem nested_name_reads_secret :
    (∃ h l₁ l₂,
      Daemon.PluginDirLoader.Accepts (Daemon.lenient (Daemon.pluginOf "bin")) h Daemon.defaultLoader
        "hello" Daemon.started (Daemon.pluginOf "bin") l₁ ∧
      Daemon.PluginDirLoader.Accepts (Daemon.lenient (Daemon.pluginOf "bin")) h Daemon.defaultLoader
        "hello/." Daemon.started (Daemon.pluginOf "bin") l₂) ∧
    ∃ v, run (Vault.step framing "/secrets") .empty nestedNames = some v ∧
      v.Foreign framing "/secrets" "hello/." (.get "k" none) zeroKey (some "hello") ∧
      (storeFor .root "hello/.").get framing "/secrets" zeroKey v.disk.dir "k" none = .ok [7] ∧
      v.Foreign framing "/secrets" "hello" (.get "k" none) zeroKey none ∧
      (storeFor .root "hello").get framing "/secrets" zeroKey v.disk.dir "k" none = .ok [8] := by
  constructor
  · exact ⟨Daemon.hostWith (unix.locate [] (Daemon.defaultLoader.pluginDir "hello")), _, _,
      Daemon.accepts_hostWith (by decide) rfl (by decide),
      Daemon.accepts_hostWith (by decide) (by decide) (by decide)⟩
  · refine ⟨_, (Option.some_get (by decide +kernel)).symm, ⟨?_, ?_, ?_, by decide⟩, ?_,
      ⟨?_, ?_, ?_, nofun⟩, ?_⟩
    all_goals decide +kernel

end Penguind.Secrets
