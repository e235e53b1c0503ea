import Penguind.Foundation.Run
import Penguind.Foundation.Stateful
import Penguind.Waddleai.Shims

/-!
# Installing and uninstalling hooks

An install keeps the bytes of the settings file and merges its entries; an uninstall puts the
bytes back. The manifest of the backup stands for the installation, but is written before the
settings are looked into.
-/

namespace Penguind.Waddleai

open Foundation Stateful

/-! ## The files -/

structure Manifest where
  targetPath : String
  existed : Bool
  deriving DecidableEq, Repr

structure HookFiles where
  settings : Option Bytes
  manifest : Option Manifest
  original : Option Bytes
  deriving DecidableEq, Repr

inductive ShimError
  | noHomeDir
  | noConfigDir
  | notAnObject (path : String)
  | invalidJson (path message : String)
  | fs (path message : String)
  | notInstalled (ecosystem : String)
  deriving DecidableEq, Repr

/-- A file that cannot be looked for counts as missing. -/
structure Faults where
  targetPath : Option ShimError
  firstLook : Bool
  look : Bool
  readTarget : Option String
  writeOriginal : Option String
  writeManifest : Option String
  readDocument : Option String
  writeTarget : Option String
  readManifest : Option String
  readOriginal : Option String
  restore : Option String
  removeManifest : Option String
  removeOriginal : Option String
  deriving DecidableEq, Repr

structure InstallReport where
  targetPath : String
  freshlyInstalled : Bool
  deriving DecidableEq, Repr

structure UninstallReport where
  targetPath : String
  deriving DecidableEq, Repr

structure ShimStatus where
  ecosystem : Ecosystem
  targetPath : String
  installed : Bool
  deriving DecidableEq, Repr

def access (path : String) : Option String → Stateful HookFiles ShimError Unit
  | none => pure ()
  | some message => throw (.fs path message)

def resolve (target : String) : Option ShimError → Stateful HookFiles ShimError String
  | none => pure target
  | some err => throw err

def backupExists (fails : Bool) (files : HookFiles) : Bool := !fails && files.manifest.isSome

section

variable (J : JsonLib) (shim : Shim) (target : String) (f : Faults)

def saveOriginal : Option Bytes → Stateful HookFiles ShimError Unit
  | some bytes => do
    access target f.writeOriginal
    modify fun files => { files with original := some bytes }
  | none => pure ()

def takeBackup (settings : Option Bytes) : Stateful HookFiles ShimError Unit := do
  access target f.readTarget
  saveOriginal target f settings
  access target f.writeManifest
  modify fun files => { files with manifest := some ⟨target, settings.isSome⟩ }

def snapshot : Stateful HookFiles ShimError Unit := do
  let files ← get
  if backupExists f.look files then pure () else takeBackup target f files.settings

def parseDocument : Option Bytes → Except ShimError (List (String × Value))
  | none | some [] => .ok []
  | some bytes =>
    match J.fromSlice bytes with
    | .error message => .error (.invalidJson target message)
    | .ok (.object fields) => .ok fields
    | .ok _ => .error (.notAnObject target)

def readDocument : Stateful HookFiles ShimError (List (String × Value)) := do
  access target f.readDocument
  let files ← get
  ofExcept id (parseDocument J target files.settings)

def documentBytes (fields : List (String × Value)) : Bytes :=
  J.toVecPretty (.object fields) ++ [10]

def writeDocument (fields : List (String × Value)) : Stateful HookFiles ShimError Unit := do
  access target f.writeTarget
  modify fun files => { files with settings := some (documentBytes J fields) }

def mergeDocument : Stateful HookFiles ShimError Unit := do
  let document ← readDocument J target f
  writeDocument J target f (shim.merge document)

def install : Stateful HookFiles ShimError InstallReport := do
  let target ← resolve target f.targetPath
  let files ← get
  let freshlyInstalled := !backupExists f.firstLook files
  snapshot target f
  mergeDocument J shim target f
  pure ⟨target, freshlyInstalled⟩

def loadOriginal (manifest : Manifest) : Stateful HookFiles ShimError (Option Bytes) :=
  if manifest.existed then do
    access target f.readOriginal
    let files ← get
    let bytes ← ofOption (.fs target "entity not found") files.original
    pure (some bytes)
  else pure none

def loadBackup : Stateful HookFiles ShimError (Option (Option Bytes)) := do
  access target f.readManifest
  let files ← get
  match files.manifest with
  | none => pure none
  | some manifest => some <$> loadOriginal target f manifest

def restore (original : Option Bytes) : Stateful HookFiles ShimError Unit := do
  access target f.restore
  modify fun files => { files with settings := original }

def clearBackup : Stateful HookFiles ShimError Unit := do
  access target f.removeManifest
  modify fun files => { files with manifest := none }
  access target f.removeOriginal
  modify fun files => { files with original := none }

def uninstall : Stateful HookFiles ShimError UninstallReport := do
  let target ← resolve target f.targetPath
  let loaded ← loadBackup target f
  let original ← ofOption (.notInstalled shim.ecosystem.asStr) loaded
  restore target f original
  clearBackup target f
  pure ⟨target⟩

def status : Stateful HookFiles ShimError ShimStatus := do
  let target ← resolve target f.targetPath
  let files ← get
  pure ⟨shim.ecosystem, target, backupExists f.look files⟩

end

/-! ## What an operation leaves -/

variable {J : JsonLib} {shim : Shim} {target : String} {f : Faults} {files : HookFiles}

def HookFiles.recorded (files : HookFiles) : Option (Option Bytes) :=
  files.manifest.bind fun manifest =>
    if manifest.existed then files.original.map some else some none

def HookFiles.saved (target : String) (files : HookFiles) : HookFiles where
  settings := files.settings
  manifest := some ⟨target, files.settings.isSome⟩
  original := files.settings.or files.original

theorem takeBackup_cases (target : String) (f : Faults) (files : HookFiles) :
    outcome (takeBackup target f files.settings) files = (true, files.saved target) ∨
      outcome (takeBackup target f files.settings) files = (false, files) ∨
      outcome (takeBackup target f files.settings) files =
        (false, { files with original := files.settings.or files.original }) := by
  obtain ⟨settings, manifest, original⟩ := files
  unfold takeBackup saveOriginal
  cases f.readTarget with
  | some e => exact .inr (.inl rfl)
  | none =>
    cases settings with
    | none =>
      cases f.writeManifest with
      | some e => exact .inr (.inl rfl)
      | none => exact .inl rfl
    | some bytes =>
      cases f.writeOriginal with
      | some e => exact .inr (.inl rfl)
      | none =>
        cases f.writeManifest with
        | some e => exact .inr (.inr rfl)
        | none => exact .inl rfl

theorem snapshot_cases (target : String) (f : Faults) (files : HookFiles) :
    files.manifest.isSome ∧ outcome (snapshot target f) files = (true, files) ∨
      outcome (snapshot target f) files = (true, files.saved target) ∨
      outcome (snapshot target f) files = (false, files) ∨
      outcome (snapshot target f) files =
        (false, { files with original := files.settings.or files.original }) := by
  have hout : outcome (snapshot target f) files =
      outcome (if backupExists f.look files then pure () else takeBackup target f files.settings)
        files := rfl
  rw [hout]
  split
  · rename_i h
    exact .inl ⟨(Bool.and_eq_true_iff.mp h).2, rfl⟩
  · exact .inr (takeBackup_cases target f files)

structure CanMerge (J : JsonLib) (target : String) (f : Faults) (files : HookFiles) : Prop where
  read : f.readDocument = none
  document : (parseDocument J target files.settings).isOk = true
  write : f.writeTarget = none

theorem readDocument_apply (h : f.readDocument = none) :
    readDocument J target f files = (parseDocument J target files.settings, files) := by
  unfold readDocument
  rw [h]
  show (ofExcept id (parseDocument J target files.settings) :
    Stateful HookFiles ShimError _) files = _
  cases parseDocument J target files.settings <;> rfl

theorem mergeDocument_cases (J : JsonLib) (shim : Shim) (target : String) (f : Faults)
    (files : HookFiles) :
    (CanMerge J target f files ∧ ∃ settings,
        outcome (mergeDocument J shim target f) files =
          (true, { files with settings := settings })) ∨
      ¬ CanMerge J target f files ∧
        outcome (mergeDocument J shim target f) files = (false, files) := by
  unfold mergeDocument
  cases hread : f.readDocument with
  | some e =>
    refine .inr ⟨fun h => ?_, ?_⟩
    · cases hread.symm.trans h.read
    · unfold readDocument
      rw [hread]
      rfl
  | none =>
    cases hdocument : parseDocument J target files.settings with
    | error e =>
      refine .inr ⟨fun h => ?_, ?_⟩
      · have hok := h.document
        rw [hdocument] at hok
        cases hok
      · exact outcome_bind_of_error ((readDocument_apply hread).trans (by rw [hdocument]))
    | ok fields =>
      rw [outcome_bind_of_ok ((readDocument_apply hread).trans (by rw [hdocument]))]
      unfold writeDocument
      cases hwrite : f.writeTarget with
      | some e =>
        refine .inr ⟨fun h => ?_, rfl⟩
        cases hwrite.symm.trans h.write
      | none => exact .inl ⟨⟨hread, by rw [hdocument]; rfl, hwrite⟩, _, rfl⟩

theorem settings_snapshot : (outcome (snapshot target f) files).2.settings = files.settings := by
  rcases snapshot_cases target f files with ⟨-, h⟩ | h | h | h <;>
    simp only [h, HookFiles.saved]

theorem canMerge_snapshot :
    CanMerge J target f (outcome (snapshot target f) files).2 ↔ CanMerge J target f files := by
  constructor
  · rintro ⟨hread, hdocument, hwrite⟩
    rw [settings_snapshot] at hdocument
    exact ⟨hread, hdocument, hwrite⟩
  · rintro ⟨hread, hdocument, hwrite⟩
    refine ⟨hread, ?_, hwrite⟩
    rwa [settings_snapshot]

theorem outcome_install (h : f.targetPath = none) :
    outcome (install J shim target f) files =
      if (outcome (snapshot target f) files).1 then
        outcome (mergeDocument J shim target f) (outcome (snapshot target f) files).2
      else (false, (outcome (snapshot target f) files).2) := by
  unfold install
  rw [h]
  show outcome (snapshot target f >>= fun _ => mergeDocument J shim target f >>= fun _ =>
    pure _) files = _
  rw [outcome_bind_unit]
  split
  · rw [outcome_bind_unit]
    rcases mergeDocument_cases J shim target f (outcome (snapshot target f) files).2 with
      ⟨-, settings, hmerge⟩ | ⟨-, hmerge⟩ <;> (rw [hmerge]; rfl)
  · rfl

theorem install_cases (J : JsonLib) (shim : Shim) (target : String) (f : Faults)
    (files : HookFiles) :
    (f.targetPath ≠ none ∧ outcome (install J shim target f) files = (false, files)) ∨
      f.targetPath = none ∧
        ((outcome (snapshot target f) files).1 = true ∧ CanMerge J target f files ∧
            (∃ settings, outcome (install J shim target f) files =
              (true, { (outcome (snapshot target f) files).2 with settings := settings })) ∨
          ¬ ((outcome (snapshot target f) files).1 = true ∧ CanMerge J target f files) ∧
            outcome (install J shim target f) files =
              (false, (outcome (snapshot target f) files).2)) := by
  cases htarget : f.targetPath with
  | some e =>
    refine .inl ⟨Option.some_ne_none e, ?_⟩
    unfold install
    rw [htarget]
    rfl
  | none =>
    refine .inr ⟨rfl, ?_⟩
    rw [outcome_install htarget]
    cases hsnapshot : (outcome (snapshot target f) files).1 with
    | false => exact .inr ⟨by simp, rfl⟩
    | true =>
      rw [if_pos rfl]
      rcases mergeDocument_cases J shim target f (outcome (snapshot target f) files).2 with
        ⟨hcan, settings, hmerge⟩ | ⟨hcan, hmerge⟩
      · exact .inl ⟨rfl, canMerge_snapshot.mp hcan, settings, hmerge⟩
      · exact .inr ⟨fun h => hcan (canMerge_snapshot.mpr h.2), hmerge⟩

structure CanLoad (f : Faults) (files : HookFiles) : Prop where
  manifest : f.readManifest = none
  original : ∀ manifest ∈ files.manifest, manifest.existed = true → f.readOriginal = none

theorem loadBackup_cases (target : String) (f : Faults) (files : HookFiles) :
    (∃ original, CanLoad f files ∧ files.recorded = some original ∧
        loadBackup target f files = (.ok (some original), files)) ∨
      (CanLoad f files → files.recorded = none) ∧
        (loadBackup target f files = (.ok none, files) ∨
          ∃ err, loadBackup target f files = (.error err, files)) := by
  obtain ⟨settings, manifest, original⟩ := files
  unfold loadBackup
  cases hread : f.readManifest with
  | some e =>
    refine .inr ⟨fun h => ?_, .inr ⟨_, rfl⟩⟩
    cases hread.symm.trans h.manifest
  | none =>
    cases manifest with
    | none => exact .inr ⟨fun _ => rfl, .inl rfl⟩
    | some manifest =>
      obtain ⟨path, existed⟩ := manifest
      cases existed with
      | false => exact .inl ⟨none, ⟨hread, by rintro _ ⟨⟩ ⟨⟩⟩, rfl, rfl⟩
      | true =>
        cases horiginal : f.readOriginal with
        | some e =>
          refine .inr ⟨fun h => ?_, .inr ⟨.fs target e, ?_⟩⟩
          · cases horiginal.symm.trans (h.original _ rfl rfl)
          · simp only [loadOriginal, horiginal]
            rfl
        | none =>
          cases original with
          | none =>
            refine .inr ⟨fun _ => rfl, .inr ⟨.fs target "entity not found", ?_⟩⟩
            simp only [loadOriginal, horiginal]
            rfl
          | some bytes =>
            refine .inl ⟨some bytes, ⟨hread, fun _ _ _ => horiginal⟩, rfl, ?_⟩
            simp only [loadOriginal, horiginal]
            rfl

structure Removes (f : Faults) (files : HookFiles) : Prop where
  targetPath : f.targetPath = none
  load : CanLoad f files
  restore : f.restore = none
  removeManifest : f.removeManifest = none

/-- An uninstall may fail at the very end, when the manifest is gone. -/
theorem uninstall_cases (shim : Shim) (target : String) (f : Faults) (files : HookFiles) :
    (∃ original, files.recorded = some original ∧ Removes f files ∧ f.removeOriginal = none ∧
      outcome (uninstall shim target f) files = (true, ⟨original, none, none⟩)) ∨
    (∃ original, files.recorded = some original ∧ Removes f files ∧ f.removeOriginal ≠ none ∧
      outcome (uninstall shim target f) files = (false, ⟨original, none, files.original⟩)) ∨
    (Removes f files → files.recorded = none) ∧ ∃ settings,
      outcome (uninstall shim target f) files = (false, { files with settings := settings }) := by
  unfold uninstall
  cases htarget : f.targetPath with
  | some e =>
    refine .inr (.inr ⟨fun h => ?_, files.settings, rfl⟩)
    cases htarget.symm.trans h.targetPath
  | none =>
    show (∃ original, _ ∧ _ ∧ _ ∧ outcome (loadBackup target f >>= _) files = _) ∨
      (∃ original, _ ∧ _ ∧ _ ∧ outcome (loadBackup target f >>= _) files = _) ∨
      _ ∧ ∃ settings, outcome (loadBackup target f >>= _) files = _
    rcases loadBackup_cases target f files with ⟨original, hload, hrecorded, happly⟩ |
      ⟨hload, happly | ⟨err, happly⟩⟩
    · rw [outcome_bind_of_ok happly]
      unfold restore clearBackup
      cases hrestore : f.restore with
      | some e =>
        refine .inr (.inr ⟨fun h => ?_, files.settings, rfl⟩)
        cases hrestore.symm.trans h.restore
      | none =>
        cases hmanifest : f.removeManifest with
        | some e =>
          refine .inr (.inr ⟨fun h => ?_, original, rfl⟩)
          cases hmanifest.symm.trans h.removeManifest
        | none =>
          have hremoves : Removes f files := ⟨htarget, hload, hrestore, hmanifest⟩
          cases horiginal : f.removeOriginal with
          | some e =>
            exact .inr (.inl ⟨original, hrecorded, hremoves, Option.some_ne_none e, rfl⟩)
          | none => exact .inl ⟨original, hrecorded, hremoves, rfl, rfl⟩
    · rw [outcome_bind_of_ok happly]
      exact .inr (.inr ⟨fun h => hload h.load, files.settings, rfl⟩)
    · rw [outcome_bind_of_error happly]
      exact .inr (.inr ⟨fun h => hload h.load, files.settings, rfl⟩)

/-! ## Sequences of operations -/

inductive HookOp
  | install (f : Faults)
  | uninstall (f : Faults)
  | edit (settings : Option Bytes)
  deriving DecidableEq, Repr

/-- Whether the last was an install, and the settings before the first install. -/
structure History where
  installed : Bool
  base : Option Bytes
  deriving DecidableEq, Repr

section

variable (J : JsonLib) (shim : Shim) (target : String)

def HookOp.result (files : HookFiles) : HookOp → Bool × HookFiles
  | .install f => outcome (Waddleai.install J shim target f) files
  | .uninstall f => outcome (Waddleai.uninstall shim target f) files
  | .edit settings => (true, { files with settings := settings })

def History.after (history : History) (files : HookFiles) (succeeded : Bool) : HookOp → History
  | .install _ =>
    if succeeded ∧ history.installed = false then ⟨true, files.settings⟩ else history
  | .uninstall _ => if succeeded then ⟨false, none⟩ else history
  | .edit _ => history

def hookNext (s : HookFiles × History) (op : HookOp) : HookFiles × History :=
  ((op.result J shim target s.1).2, s.2.after s.1 (op.result J shim target s.1).1 op)

def hookStep (s : HookFiles × History) (op : HookOp) : Option (HookFiles × History) :=
  some (hookNext J shim target s op)

def fresh (settings original : Option Bytes) : HookFiles × History :=
  (⟨settings, none, original⟩, ⟨false, none⟩)

structure Agrees (s : HookFiles × History) : Prop where
  status : ∀ f report t, f.look = false → Ends (Waddleai.status shim target f) s.1 report t →
    report.installed = s.2.installed
  restores : ∀ f report t, s.2.installed = true →
    Ends (Waddleai.uninstall shim target f) s.1 report t → t.settings = s.2.base

/-- A failed install leaves no backup that was not there. -/
structure Faithful (s : HookFiles × History) (op : HookOp) : Prop where
  agrees : Agrees shim target (hookNext J shim target s op)
  noneLeft : ∀ f, op = .install f → (op.result J shim target s.1).1 = false →
    (op.result J shim target s.1).2.manifest.isSome → s.1.manifest.isSome

def Complete (s : HookFiles × History) : HookOp → Prop
  | .install f => f.targetPath = none →
    (s.1.manifest = none → (outcome (snapshot target f) s.1).1 = true → CanMerge J target f s.1) ∧
      -- one that finds a backup leaves its bytes; it may overlook it
      (s.1.manifest ≠ none → (outcome (snapshot target f) s.1).2.recorded = s.1.recorded)
  | .uninstall f => s.1.recorded ≠ none → Removes f s.1 → f.removeOriginal = none
  | .edit _ => True

end

structure Backed (s : HookFiles × History) : Prop where
  manifest : s.1.manifest.isSome = s.2.installed
  recorded : s.2.installed = true → s.1.recorded = some s.2.base

def HookFiles.Loadable (files : HookFiles) : Prop :=
  files.recorded.isSome = files.manifest.isSome

def faultless : Faults :=
  ⟨none, false, false, none, none, none, none, none, none, none, none, none, none⟩

theorem uninstall_faultless {original : Option Bytes} (h : files.recorded = some original) :
    outcome (uninstall shim target faultless) files = (true, ⟨original, none, none⟩) := by
  have hremoves : Removes faultless files := ⟨rfl, ⟨rfl, fun _ _ _ => rfl⟩, rfl, rfl⟩
  rcases uninstall_cases shim target faultless files with ⟨original', hrecorded, -, -, hout⟩ |
    ⟨_, -, -, hfault, -⟩ | ⟨hnone, -⟩
  · rw [h] at hrecorded
    rw [hout, Option.some.inj hrecorded]
  · exact absurd rfl hfault
  · rw [hnone hremoves] at h
    cases h

theorem agrees_iff {s : HookFiles × History} (h : s.1.Loadable) :
    Agrees shim target s ↔ Backed s := by
  constructor
  · intro hs
    have hmanifest : s.1.manifest.isSome = s.2.installed :=
      hs.status faultless ⟨shim.ecosystem, target, s.1.manifest.isSome⟩ s.1 rfl rfl
    refine ⟨hmanifest, ?_⟩
    intro hinstalled
    have hsome : s.1.recorded.isSome := by rw [h, hmanifest, hinstalled]
    obtain ⟨original, hrecorded⟩ := Option.isSome_iff_exists.mp hsome
    have hout : outcome (uninstall shim target faultless) s.1 = (true, ⟨original, none, none⟩) :=
      uninstall_faultless hrecorded
    obtain ⟨report, hends⟩ := exists_ends_iff.mpr hout
    rw [hrecorded, ← hs.restores faultless report _ hinstalled hends]
  · intro hs
    constructor
    · intro f report t hlook hends
      unfold status resolve at hends
      cases htarget : f.targetPath with
      | some e =>
        rw [htarget] at hends
        cases hends
      | none =>
        rw [htarget] at hends
        cases hends
        show backupExists f.look s.1 = s.2.installed
        rw [backupExists, hlook, Bool.not_false, Bool.true_and, hs.manifest]
    · intro f report t hinstalled hends
      have hout := exists_ends_iff.mp ⟨report, hends⟩
      rcases uninstall_cases shim target f s.1 with ⟨original, hrecorded, -, -, h⟩ |
        ⟨_, -, -, -, h⟩ | ⟨-, _, h⟩
      · rw [h] at hout
        cases hout
        exact Option.some.inj (hrecorded.symm.trans (hs.recorded hinstalled))
      · rw [h] at hout
        cases hout
      · rw [h] at hout
        cases hout

/-! ### Snapshots -/

theorem recorded_saved : (files.saved target).recorded = some files.settings := by
  unfold HookFiles.recorded HookFiles.saved
  cases files.settings <;> rfl

theorem manifest_snapshot_of_ok (h : (outcome (snapshot target f) files).1 = true) :
    (outcome (snapshot target f) files).2.manifest.isSome := by
  rcases snapshot_cases target f files with ⟨hsome, hout⟩ | hout | hout | hout
  all_goals rw [hout] at h ⊢
  · exact hsome
  · rfl
  · cases h
  · cases h

theorem snapshot_of_none (h : files.manifest = none) :
    ((outcome (snapshot target f) files).1 = true ∧
        (outcome (snapshot target f) files).2.recorded = some files.settings) ∨
      (outcome (snapshot target f) files).1 = false ∧
        (outcome (snapshot target f) files).2.manifest = none := by
  rcases snapshot_cases target f files with ⟨hsome, -⟩ | hout | hout | hout
  · simp [h] at hsome
  all_goals rw [hout]
  · exact .inl ⟨rfl, recorded_saved⟩
  · exact .inr ⟨rfl, h⟩
  · exact .inr ⟨rfl, h⟩

theorem manifest_snapshot_of_some (h : files.manifest.isSome) :
    (outcome (snapshot target f) files).2.manifest.isSome := by
  rcases snapshot_cases target f files with ⟨-, hout⟩ | hout | hout | hout
  all_goals rw [hout]
  · exact h
  · rfl
  · exact h
  · exact h

theorem loadable_snapshot (h : files.Loadable) :
    (outcome (snapshot target f) files).2.Loadable := by
  rcases snapshot_cases target f files with ⟨-, hout⟩ | hout | hout | hout
  all_goals rw [hout]
  · exact h
  · rw [HookFiles.Loadable, recorded_saved]
    rfl
  · exact h
  · obtain ⟨settings, manifest, original⟩ := files
    cases manifest with
    | none => rfl
    | some manifest =>
      obtain ⟨path, existed⟩ := manifest
      cases existed with
      | false => rfl
      | true => cases settings <;> cases original <;> first | rfl | exact h

section

variable {s : HookFiles × History} {op : HookOp}

theorem loadable_hookNext (h : s.1.Loadable) : (hookNext J shim target s op).1.Loadable := by
  cases op with
  | install f =>
    show (outcome (install J shim target f) s.1).2.Loadable
    rcases install_cases J shim target f s.1 with ⟨-, hout⟩ |
      ⟨-, ⟨-, -, settings, hout⟩ | ⟨-, hout⟩⟩
    all_goals rw [hout]
    · exact h
    · exact (loadable_snapshot h : (outcome (snapshot target f) s.1).2.Loadable)
    · exact loadable_snapshot h
  | uninstall f =>
    show (outcome (uninstall shim target f) s.1).2.Loadable
    rcases uninstall_cases shim target f s.1 with ⟨_, -, -, -, hout⟩ | ⟨_, -, -, -, hout⟩ |
      ⟨-, _, hout⟩
    all_goals rw [hout]
    · rfl
    · rfl
    · exact h
  | edit settings => exact h

theorem hookNext_of_result (op : HookOp) {succeeded : Bool} {files : HookFiles}
    (h : op.result J shim target s.1 = (succeeded, files)) :
    hookNext J shim target s op = (files, s.2.after s.1 succeeded op) := by
  unfold hookNext
  rw [h]

theorem faithful_iff (hload : s.1.Loadable) (hs : Backed s) :
    Faithful J shim target s op ↔ Backed (hookNext J shim target s op) := by
  have hagrees : Agrees shim target (hookNext J shim target s op) ↔ _ :=
    agrees_iff (loadable_hookNext hload)
  constructor
  · rintro ⟨h, -⟩
    exact hagrees.mp h
  · intro h
    refine ⟨hagrees.mpr h, ?_⟩
    rintro f rfl hfailed hsome
    have hmanifest := h.manifest
    unfold hookNext at hmanifest
    rw [hfailed] at hmanifest
    exact hs.manifest.trans (hmanifest.symm.trans hsome)

theorem backed_install_installed {f : Faults} (hs : Backed s) (h : s.2.installed = true) :
    Backed (hookNext J shim target s (.install f)) ↔ Complete J target s (.install f) := by
  have hmanifest : s.1.manifest.isSome := hs.manifest.trans h
  have hne : s.1.manifest ≠ none := Option.isSome_iff_ne_none.mp hmanifest
  have hhistory : ∀ succeeded, s.2.after s.1 succeeded (.install f) = s.2 := by
    intro succeeded
    simp [History.after, h]
  -- with a target, the files are those after the snapshot, but for the settings
  have hsnapshot : ∀ succeeded settings, f.targetPath = none →
      HookOp.result J shim target s.1 (.install f) =
        (succeeded, { (outcome (snapshot target f) s.1).2 with settings := settings }) →
      (Backed (hookNext J shim target s (.install f)) ↔ Complete J target s (.install f)) := by
    intro succeeded settings htarget hout
    rw [hookNext_of_result (.install f) hout, hhistory]
    constructor
    · intro hb _
      refine ⟨fun hnone => absurd hnone hne, fun _ => ?_⟩
      exact (hb.recorded h).trans (hs.recorded h).symm
    · intro hc
      refine ⟨(manifest_snapshot_of_some hmanifest).trans h.symm, fun _ => ?_⟩
      exact ((hc htarget).2 hne).trans (hs.recorded h)
  rcases install_cases J shim target f s.1 with ⟨htarget, hout⟩ |
    ⟨htarget, ⟨-, -, settings, hout⟩ | ⟨-, hout⟩⟩
  · rw [hookNext_of_result (.install f) hout, hhistory]
    exact ⟨fun _ h => absurd h htarget, fun _ => hs⟩
  · exact hsnapshot true settings htarget hout
  · exact hsnapshot false _ htarget hout

theorem backed_install_none {f : Faults} (hs : Backed s) (h : s.2.installed = false) :
    Backed (hookNext J shim target s (.install f)) ↔ Complete J target s (.install f) := by
  have hnone : s.1.manifest = none := by
    have hmanifest := hs.manifest
    rw [h] at hmanifest
    exact Option.not_isSome_iff_eq_none.mp (by simp [hmanifest])
  rcases install_cases J shim target f s.1 with ⟨htarget, hout⟩ |
    ⟨htarget, ⟨hok, hcan, settings, hout⟩ | ⟨hnot, hout⟩⟩
  · rw [hookNext_of_result (.install f) hout]
    exact ⟨fun _ h => absurd h htarget, fun _ => hs⟩
  · rw [hookNext_of_result (.install f) hout]
    have hhistory : s.2.after s.1 true (.install f) = ⟨true, s.1.settings⟩ := by
      simp [History.after, h]
    rw [hhistory]
    constructor
    · intro _ _
      exact ⟨fun _ _ => hcan, fun hne => absurd hnone hne⟩
    · intro _
      refine ⟨manifest_snapshot_of_ok hok, fun _ => ?_⟩
      rcases snapshot_of_none hnone with ⟨-, hrecorded⟩ | ⟨hfailed, -⟩
      · exact hrecorded
      · rw [hfailed] at hok
        cases hok
  · rw [hookNext_of_result (.install f) hout]
    constructor
    · intro hb _
      refine ⟨fun _ hok => ?_, fun hne => absurd hnone hne⟩
      -- a backup was taken, and the history knows nothing of it
      have hmanifest : (outcome (snapshot target f) s.1).2.manifest.isSome = s.2.installed :=
        hb.manifest
      rw [manifest_snapshot_of_ok hok, h] at hmanifest
      cases hmanifest
    · intro hc
      rcases snapshot_of_none hnone with ⟨hok, -⟩ | ⟨-, hleft⟩
      · exact absurd ⟨hok, (hc htarget).1 hnone hok⟩ hnot
      · refine ⟨?_, fun hinstalled => ?_⟩
        · show (outcome (snapshot target f) s.1).2.manifest.isSome = s.2.installed
          rw [hleft, h]
          rfl
        · cases h.symm.trans hinstalled

theorem backed_uninstall {f : Faults} (hload : s.1.Loadable) (hs : Backed s) :
    Backed (hookNext J shim target s (.uninstall f)) ↔ Complete J target s (.uninstall f) := by
  rcases uninstall_cases shim target f s.1 with ⟨original, hrecorded, hremoves, hall, hout⟩ |
    ⟨original, hrecorded, hremoves, hfault, hout⟩ | ⟨hremoves, settings, hout⟩
  · rw [hookNext_of_result (.uninstall f) hout]
    exact ⟨fun _ _ _ => hall, fun _ => ⟨rfl, by rintro ⟨⟩⟩⟩
  · rw [hookNext_of_result (.uninstall f) hout]
    constructor
    · intro hb
      have hinstalled : s.2.installed = true := by
        rw [← hs.manifest, ← hload, hrecorded]
        rfl
      have hmanifest : false = s.2.installed := hb.manifest
      cases hmanifest.trans hinstalled
    · intro hc
      exact absurd (hc (by rw [hrecorded]; exact Option.some_ne_none _) hremoves) hfault
  · rw [hookNext_of_result (.uninstall f) hout]
    exact ⟨fun _ hne h => absurd (hremoves h) hne, fun _ => ⟨hs.manifest, hs.recorded⟩⟩

theorem complete_iff (hload : s.1.Loadable) (hs : Backed s) :
    Complete J target s op ↔ Backed (hookNext J shim target s op) := by
  cases op with
  | install f =>
    cases h : s.2.installed with
    | false => exact (backed_install_none hs h).symm
    | true => exact (backed_install_installed hs h).symm
  | uninstall f => exact (backed_uninstall hload hs).symm
  | edit settings => exact ⟨fun _ => ⟨hs.manifest, hs.recorded⟩, fun _ => trivial⟩

end

/-- **The hooks keep to the history** exactly if every step is complete. -/
theorem hooksFaithful_iff (J : JsonLib) (shim : Shim) (target : String)
    (settings original : Option Bytes) (ops : List HookOp) :
    Along (hookStep J shim target) (Faithful J shim target) (fresh settings original) ops ↔
      Along (hookStep J shim target) (Complete J target) (fresh settings original) ops := by
  symm
  refine along_congr (I := fun s => s.1.Loadable ∧ Backed s) ?_ ?_ ?_
    (run_some (hookNext J shim target) _ _)
  · rintro s op t ⟨hload, hs⟩ -
    rw [complete_iff hload hs, faithful_iff hload hs]
  · rintro s op t ⟨hload, hs⟩ hc ⟨⟩
    exact ⟨loadable_hookNext hload, (complete_iff hload hs).mp hc⟩
  · exact ⟨rfl, rfl, by rintro ⟨⟩⟩

def braces : JsonLib where
  fromStr _ := .error "expected value"
  fromSlice bytes := if bytes = [123, 125] then .ok (.object []) else .error "expected value"
  document _ := .error "expected value"
  shapeError _ := "invalid type"
  toText _ := ""
  toVec _ := []
  toVecPretty _ := [123, 125]
  fromUtf8Lossy _ := ""

def mended : List HookOp := [.install faultless, .edit (some [123, 125]), .install faultless]

/-- **A failed install counts**: its backup is put back after a later install. -/
theorem failed_install_leaves_backup :
    let next := hookNext braces (shimFor .vsCode) "settings.json"
    let failed := next (fresh (some [33]) none) (.install faultless)
    let last := mended.foldl next (fresh (some [33]) none)
    (failed.1.manifest.isSome = true ∧ failed.2.installed = false) ∧
      last.2 = ⟨true, some [123, 125]⟩ ∧
      (next last (.uninstall faultless)).1.settings = some [33] ∧
      ¬ Along (hookStep braces (shimFor .vsCode) "settings.json")
        (Faithful braces (shimFor .vsCode) "settings.json") (fresh (some [33]) none) mended := by
  refine ⟨by decide, by decide, by decide, fun h => ?_⟩
  cases h.1.noneLeft faultless rfl rfl rfl

end Penguind.Waddleai
