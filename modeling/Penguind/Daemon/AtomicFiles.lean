import Penguind.Foundation.Run

/-!
# Writing files by renaming

Four functions replace a file by writing a temporary one and renaming it. They differ in the
failures they answer by removing the temporary file. The process may die at every moment.
-/

namespace Penguind.Daemon.AtomicFiles

open Foundation

inductive Op
  | parent | createDir | render | stat | create | setMode | write | sync | rename
  deriving DecidableEq

/-- Whether the temporary file is removed on failure, and the error. -/
structure Step where
  op : Op
  removes : Bool
  message : String → String

structure Place where
  dir : String
  tmpPath : String
  path : String

inductive Writer
  | enabledState | licenseCache | secretRecord | hookFile

/-- `PersistedState::save`. -/
def saveSteps (p : Place) : List Step :=
  [⟨.createDir, false, ("create state dir " ++ p.dir ++ ": " ++ ·)⟩,
    ⟨.render, false, ("marshal enabled.json: " ++ ·)⟩,
    ⟨.create, false, ("create temp file in " ++ p.dir ++ ": " ++ ·)⟩,
    ⟨.setMode, true, ("chmod " ++ p.tmpPath ++ ": " ++ ·)⟩,
    ⟨.write, true, ("write " ++ p.tmpPath ++ ": " ++ ·)⟩,
    ⟨.rename, false, ("rename " ++ p.tmpPath ++ " -> " ++ p.path ++ ": " ++ ·)⟩]

/-- `persist` of the license cache. -/
def persistSteps : List Step :=
  [⟨.createDir, false, id⟩, ⟨.render, false, id⟩, ⟨.create, false, id⟩, ⟨.setMode, true, id⟩,
    ⟨.write, true, id⟩, ⟨.sync, true, id⟩, ⟨.rename, false, id⟩]

/-- The only one that removes the file if it cannot be renamed. -/
def secretSteps (p : Place) : List Step :=
  let writing : String → String := ("failed to write temp file " ++ p.tmpPath ++ ": " ++ ·)
  [⟨.parent, false, fun _ => "secret path " ++ p.path ++ " has no parent directory"⟩,
    ⟨.create, false, ("failed to create temp file in " ++ p.dir ++ ": " ++ ·)⟩,
    ⟨.write, true, writing⟩, ⟨.sync, true, writing⟩,
    ⟨.rename, true, ("failed to rename " ++ p.tmpPath ++ " to " ++ p.path ++ ": " ++ ·)⟩]

/-- `write_atomic` of the hooks and the denylist. -/
def hookSteps (p : Place) : List Step :=
  [⟨.parent, false, fun _ => p.path ++ " has no parent directory"⟩, ⟨.createDir, false, id⟩,
    ⟨.stat, false, id⟩, ⟨.create, false, id⟩, ⟨.setMode, true, id⟩, ⟨.write, true, id⟩,
    ⟨.sync, true, id⟩, ⟨.rename, false, id⟩]

def Writer.steps (p : Place) : Writer → List Step
  | enabledState => saveSteps p
  | licenseCache => persistSteps
  | secretRecord => secretSteps p
  | hookFile => hookSteps p

/-- At first no file has the temporary path. -/
@[ext] structure Files (Byte : Type) where
  target : Option (List Byte)
  temp : Option (List Byte)

inductive Status
  | running (step : Step) (rest : List Step)
  | removing (err : String)
  | returned (result : Except String Unit)
  | dead

inductive Event (Byte : Type)
  | done
  | failed (err : String)
  | wrote (content : List Byte)
  | removed (ok : Bool)
  | die

variable {Byte : Type} (data : List Byte)

def Op.perform (f : Files Byte) : Op → Files Byte
  | .create => { f with temp := some [] }
  | .write => { f with temp := some data }
  | .rename => ⟨f.temp, none⟩
  | .parent | .createDir | .render | .stat | .setMode | .sync => f

def Status.next : List Step → Status
  | [] => .returned (.ok ())
  | s :: rest => .running s rest

def step : Files Byte × Status → Event Byte → Option (Files Byte × Status)
  | (f, .running s rest), .done => some (s.op.perform data f, .next rest)
  | (f, .running s _), .failed err =>
    some (f, if s.removes then .removing (s.message err) else .returned (.error (s.message err)))
  -- a part of the data, or of what is left of it
  | (f, .running s rest), .wrote content =>
    if s.op = .write then some ({ f with temp := some content }, .running s rest) else none
  | (f, .removing err), .removed ok =>
    some (if ok then { f with temp := none } else f, .returned (.error err))
  | (f, .running _ _), .die | (f, .removing _), .die => some (f, .dead)
  | _, _ => none

structure Right (old : Option (List Byte)) (s : Files Byte × Status) : Prop where
  whole : s.1.target = old ∨ s.1.target = some data
  success : s.2 = .returned (.ok ()) → s.1 = ⟨some data, none⟩
  failure (err : String) : s.2 = .returned (.error err) → s.1.target = old

def Clean (s : Files Byte × Status) : Prop :=
  ∀ err, s.2 = .returned (.error err) → s.1.temp = none

/-- A failure with a temporary file is answered by removing it. -/
def Removes (s : Files Byte × Status) : Event Byte → Prop
  | .failed _ => ∀ t rest, s.2 = .running t rest → t.removes ∨ s.1.temp = none
  | .removed ok => ok ∨ s.1.temp = none
  | .done | .wrote _ | .die => True

/-- The last step alone changes the target, to the data. -/
def Plan (old : Option (List Byte)) : Files Byte → List Step → Prop
  | f, [] => f = ⟨some data, none⟩
  | f, s :: rest => f.target = old ∧ Plan old (s.op.perform data f) rest

def Invariant (old : Option (List Byte)) : Files Byte × Status → Prop
  | (f, .running s rest) => Plan data old f (s :: rest)
  | (f, .returned (.ok _)) => f = ⟨some data, none⟩
  | (f, .removing _) | (f, .returned (.error _)) | (f, .dead) => f.target = old

variable {data} {old : Option (List Byte)}

theorem Writer.invariant (w : Writer) (p : Place) :
    Invariant data old (⟨old, none⟩, .next (w.steps p)) := by
  cases w <;> exact ⟨rfl, by simp [Plan, Op.perform]⟩

theorem step_invariant {s t : Files Byte × Status} {a : Event Byte} (h : Invariant data old s)
    (ht : step data s a = some t) : Invariant data old t := by
  revert ht
  fun_cases step data s a with rintro ⟨⟩
  | case1 f s rest =>
    cases rest with
    | nil => exact h.2
    | cons => exact h.2
  | case2 f s rest err =>
    cases s.removes
    · exact h.1
    · exact h.1
  | case3 f s rest content hwrite =>
    obtain ⟨op, removes, message⟩ := s
    obtain rfl : op = .write := hwrite
    exact h
  | case5 f err ok =>
    cases ok
    · exact h
    · exact h
  | case6 => exact h.1
  | case7 => exact h

theorem Invariant.right {s : Files Byte × Status} (h : Invariant data old s) :
    Right data old s := by
  obtain ⟨f, ⟨s, rest⟩ | err | (err | ok) | _⟩ := s
  · exact ⟨.inl h.1, fun hs => (by cases hs), fun _ hs => (by cases hs)⟩
  · exact ⟨.inl h, fun hs => (by cases hs), fun _ hs => (by cases hs)⟩
  · exact ⟨.inl h, fun hs => (by cases hs), fun _ _ => h⟩
  · obtain rfl : f = _ := h
    exact ⟨.inr rfl, fun _ => rfl, fun _ hs => (by cases hs)⟩
  · exact ⟨.inl h, fun hs => (by cases hs), fun _ hs => (by cases hs)⟩

theorem clean_iff {s t : Files Byte × Status} {a : Event Byte} (ht : step data s a = some t) :
    Clean t ↔ Clean s ∧ Removes s a := by
  revert ht
  fun_cases step data s a with rintro ⟨⟩
  | case1 f s rest => cases rest <;> simp [Clean, Removes, Status.next]
  | case2 f s rest err => cases hremoves : s.removes <;> simp [Clean, Removes, hremoves]
  | case3 f s rest content hwrite => simp [Clean, Removes]
  | case5 f err ok => cases ok <;> simp [Clean, Removes]
  | case6 | case7 => simp [Clean, Removes]

/-- **Writes by renaming** are whole; an error leaves no temporary file exactly if every failure is
answered. -/
theorem write_right (w : Writer) (p : Place) (events : List (Event Byte)) {t : Files Byte × Status}
    (ht : run (step data) (⟨old, none⟩, .next (w.steps p)) events = some t) :
    Right data old t ∧
      (Clean t ↔ Along (step data) Removes (⟨old, none⟩, .next (w.steps p)) events) := by
  have hinvariant := run_invariant_of_step (fun _ _ _ => step_invariant) (w.invariant p) ht
  have hclean := run_iff (fun _ _ _ => clean_iff) ht
  refine ⟨hinvariant.right, hclean.trans (and_iff_right ?_)⟩
  cases w <;> exact fun err herr => by cases herr

def examplePlace : Place :=
  ⟨"/var/lib/penguin", "/var/lib/penguin/.tmp-1f", "/var/lib/penguin/file"⟩

theorem secret_right_of_failed_rename :
    Right [1, 2] (some [0]) (⟨some [0], none⟩, .returned (.error ("failed to rename " ++
      "/var/lib/penguin/.tmp-1f to /var/lib/penguin/file: denied"))) :=
  (write_right .secretRecord examplePlace
    [.done, .done, .wrote [1], .done, .done, .failed "denied", .removed true] rfl).1

/-- **A file is left behind** when it cannot be renamed. -/
theorem failed_rename_leaves_file :
    ∃ t, run (step [1, 2]) (⟨some [0], none⟩, .next (Writer.enabledState.steps examplePlace))
        [.done, .done, .done, .done, .done, .failed "denied"] = some t ∧
      t.1 = ⟨some [0], some [1, 2]⟩ ∧ ¬ Clean t :=
  ⟨_, rfl, rfl, fun h => absurd (h _ rfl) (by decide)⟩

end Penguind.Daemon.AtomicFiles
