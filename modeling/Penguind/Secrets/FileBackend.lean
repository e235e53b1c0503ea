import Penguind.Foundation.Run
import Penguind.Extplugin.Verify

/-!
# The encrypted-file secret backend

One file per secret, named by the hexadecimal digits of its key: a nonce and a ciphertext whose
associated data is the key. Every file operation may fail, and an adversary may put any content
under any name.
-/

namespace Penguind.Secrets

open Extplugin

inductive SecretError
  | notFound
  | other (message : String)
  deriving DecidableEq

abbrev MasterKey := { bytes : Bytes // bytes.length = 32 }

def nonceLen : Nat := 24

abbrev Nonce := { bytes : Bytes // bytes.length = nonceLen }

structure Cipher where
  encrypt : MasterKey → Nonce → (msg aad : Bytes) → Option Bytes
  decrypt : MasterKey → Nonce → (msg aad : Bytes) → Option Bytes

/-- A ciphertext opens under its own nonce, key and associated data only. -/
def Cipher.Ideal (C : Cipher) : Prop :=
  ∀ key nonce msg aad ciphertext, C.encrypt key nonce msg aad = some ciphertext →
    ∀ key' aad' msg', C.decrypt key' nonce ciphertext aad' = some msg' ↔
      key' = key ∧ aad' = aad ∧ msg' = msg

def asBytes (s : String) : Bytes := s.toUTF8.data.toList

/-! ## The backend -/

abbrev Dir := String → Option Bytes

def masterKeyFilename : String := "master.key"

def recordName (key : String) : String := hexEncode (asBytes key) ++ ".secret"

def tempName (value : UInt64) : String :=
  ".secret-tmp-" ++ String.ofList (Nat.toDigits 16 value.toNat)

/-- What a failed write leaves, and whether removing it fails. -/
structure WriteOutcome where
  values : Nat → UInt64
  create : Option String
  write : Option String
  rename : Option String
  written : Bytes
  leftover : Bool

/-- A failed write of the master key leaves some of it. -/
structure OpenOutcome where
  createDir : Option String
  stat : Except String UInt32
  read : Option String
  fresh : MasterKey
  create : Option String
  write : Option (String × Bytes)

namespace FileBackend

section

variable (C : Cipher)

def encryptRecord (masterKey : MasterKey) (aadKey : String) (plaintext : Bytes) (nonce : Nonce) :
    Except SecretError Bytes :=
  match C.encrypt masterKey nonce plaintext (asBytes aadKey) with
  | none => .error (.other "failed to encrypt secret")
  | some ciphertext => .ok (nonce.1 ++ ciphertext)

def decryptRecord (masterKey : MasterKey) (aadKey : String) (record : Bytes) :
    Except SecretError Bytes :=
  if h : record.length < nonceLen then .error (.other "secret record is truncated")
  else
    let nonce : Nonce := ⟨record.take nonceLen, by rw [List.length_take]; omega⟩
    match C.decrypt masterKey nonce (record.drop nonceLen) (asBytes aadKey) with
    | none => .error (.other ("failed to decrypt secret (tampered ciphertext, wrong key, " ++
        "or record moved to a different key)"))
    | some plaintext => .ok plaintext

end

variable (C : Cipher) (path : String) (masterKey : MasterKey) (dir : Dir)

def display (name : String) : String := .ofList (unix.join path.toList name.toList)

def get (key : String) (fault : Option String) : Except SecretError Bytes :=
  match fault with
  | some err =>
    .error (.other ("failed to read secret file " ++ display path (recordName key) ++ ": " ++ err))
  | none =>
    match dir (recordName key) with
    | none => .error .notFound
    | some record => decryptRecord C masterKey key record

def createTempFile (values : Nat → UInt64) (fault : Option String) :
    (attempts i : Nat) → Except String String
  | 0, _ => .error "could not create a unique temp file after 100 attempts"
  | attempts + 1, i =>
    if (dir (tempName (values i))).isSome then createTempFile values fault attempts (i + 1)
    else
      match fault with
      | some err => .error err
      | none => .ok (tempName (values i))

def writeAtomic (name : String) (data : Bytes) (o : WriteOutcome) : Except SecretError Unit × Dir :=
  match createTempFile dir o.values o.create 100 0 with
  | .error err => (.error (.other ("failed to create temp file in " ++ path ++ ": " ++ err)), dir)
  | .ok temp =>
    match o.write, o.rename with
    | some err, _ =>
      (.error (.other ("failed to write temp file " ++ display path temp ++ ": " ++ err)),
        if o.leftover then Function.update dir temp (some o.written) else dir)
    | none, some err =>
      (.error (.other ("failed to rename " ++ display path temp ++ " to " ++ display path name ++
        ": " ++ err)), if o.leftover then Function.update dir temp (some data) else dir)
    | none, none => (.ok (), Function.update dir name (some data))

def set (key : String) (value : Bytes) (nonce : Nonce) (o : WriteOutcome) :
    Except SecretError Unit × Dir :=
  match encryptRecord C masterKey key value nonce with
  | .error err => (.error err, dir)
  | .ok record => writeAtomic path dir (recordName key) record o

def delete (key : String) (fault : Option String) : Except SecretError Unit × Dir :=
  match dir (recordName key), fault with
  | _, some err =>
    (.error (.other ("failed to delete secret file " ++ display path (recordName key) ++ ": " ++
      err)), dir)
  | none, none => (.error .notFound, dir)
  | some _, none => (.ok (), Function.update dir (recordName key) none)

def keyFromExistingBytes (bytes : Bytes) : Except SecretError MasterKey :=
  if h : bytes.length = 32 then .ok ⟨bytes, h⟩
  else .error (.other ("master key at " ++ display path masterKeyFilename ++
    " has wrong size (expected 32, got " ++ toString bytes.length ++ ")"))

def generateAndWriteKey (o : OpenOutcome) : Except SecretError MasterKey × Dir :=
  match o.create, o.write with
  | some err, _ =>
    (.error (.other ("failed to create master key file " ++ display path masterKeyFilename ++
      ": " ++ err)), dir)
  | none, some (err, written) =>
    (.error (.other ("failed to write master key to " ++ display path masterKeyFilename ++ ": " ++
      err)), Function.update dir masterKeyFilename (some written))
  | none, none => (.ok o.fresh, Function.update dir masterKeyFilename (some o.fresh.1))

def rejectWorldWritable (stat : Except String UInt32) : Except SecretError Unit :=
  match stat with
  | .error err => .error (.other ("failed to stat directory " ++ path ++ ": " ++ err))
  | .ok mode =>
    if mode &&& 2 ≠ 0 then
      .error (.other ("directory " ++ path ++ " is world-writable (security risk)"))
    else .ok ()

def ensureMasterKey (o : OpenOutcome) : Except SecretError MasterKey × Dir :=
  match rejectWorldWritable path o.stat with
  | .error err => (.error err, dir)
  | .ok _ =>
    match o.read, dir masterKeyFilename with
    | some err, _ =>
      (.error (.other ("failed to read master key at " ++ display path masterKeyFilename ++ ": " ++
        err)), dir)
    | none, some bytes => (keyFromExistingBytes path bytes, dir)
    | none, none => generateAndWriteKey path dir o

def «open» (o : OpenOutcome) : Except SecretError MasterKey × Dir :=
  match o.createDir with
  | some err => (.error (.other ("failed to create directory " ++ path ++ ": " ++ err)), dir)
  | none => ensureMasterKey path dir o

end FileBackend

/-! ## The backend, its directory and the adversary -/

inductive Done
  | set (masterKey : MasterKey) (key : String) (value record : Bytes)
  | delete (key : String)
  deriving DecidableEq

def current : List Done → String → Option Bytes
  | [], _ => none
  | .set _ key' value _ :: log, key => if key' = key then some value else current log key
  | .delete key' :: log, key => if key' = key then none else current log key

structure Disk where
  dir : Dir
  masterKey : Option MasterKey
  log : List Done

inductive DiskLabel
  | «open» (o : OpenOutcome)
  | get (key : String) (fault : Option String)
  | set (key : String) (value : Bytes) (nonce : Nonce) (o : WriteOutcome)
  | delete (key : String) (fault : Option String)
  | tamper (name : String) (content : Option Bytes)

namespace Disk

def empty : Disk := ⟨fun _ => none, none, []⟩

variable (C : Cipher) (path : String)

def afterSet (s : Disk) (masterKey : MasterKey) (key : String) (value : Bytes) (nonce : Nonce)
    (o : WriteOutcome) : Disk :=
  match FileBackend.encryptRecord C masterKey key value nonce,
      FileBackend.set C path masterKey s.dir key value nonce o with
  | .ok record, (.ok _, dir) =>
    { s with dir := dir, log := .set masterKey key value record :: s.log }
  | _, (_, dir) => { s with dir := dir }

def afterDelete (s : Disk) (key : String) (fault : Option String) : Disk :=
  match FileBackend.delete path s.dir key fault with
  | (.error _, dir) => { s with dir := dir }
  | (.ok _, dir) => { s with dir := dir, log := .delete key :: s.log }

def afterOpen (s : Disk) (o : OpenOutcome) : Disk :=
  match FileBackend.open path s.dir o with
  | (.error _, dir) => { s with dir := dir, masterKey := none }
  | (.ok masterKey, dir) => { s with dir := dir, masterKey := some masterKey }

def step (s : Disk) : DiskLabel → Option Disk
  | .open o => some (s.afterOpen path o)
  | .get _ _ => s.masterKey.map fun _ => s
  | .set key value nonce o => s.masterKey.map fun masterKey =>
      s.afterSet C path masterKey key value nonce o
  | .delete key fault => s.masterKey.map fun _ => s.afterDelete path key fault
  | .tamper name content => some { s with dir := Function.update s.dir name content }

end Disk

end Penguind.Secrets
