import Penguind.Foundation.File
import Penguind.Foundation.Json
import Penguind.Foundation.Run

/-!
# The configuration a module is given

A module is given the bytes of its configuration file once they were parsed and validated against
its schema, or nothing.
-/

namespace Penguind.Daemon

open Foundation

/-! ## The check -/

abbrev ConfigBytes := List UInt8

structure ConfigLib where
  Validator : Type
  parseYaml : ConfigBytes → Except String Value
  parseJson : ConfigBytes → Except String Value
  compile : Value → Except String Validator
  /-- The paths at which a document fails. -/
  errorPaths : Validator → Value → List String

inductive ConfigError
  | invalidName (name : String)
  | io (message : String)
  | parse (message : String)
  | schema (message : String)
  | validation (module details : String)
  deriving DecidableEq, Repr

namespace ConfigStore

variable (L : ConfigLib)

def quoted (name : String) : String := "\"" ++ name ++ "\""

def checkName (name : String) : Except ConfigError Unit :=
  if '/' ∈ name.toList ∨ '\\' ∈ name.toList ∨ "..".toList <:+: name.toList then
    .error (.invalidName name)
  else .ok ()

def normalizeDocument (value : Value) (name : String) : Except ConfigError Value :=
  match value with
  | .null => .ok (.object [])
  | .object fields => .ok (.object fields)
  | .bool _ | .int _ | .float _ | .string _ | .array _ =>
    .error (.parse ("parse module config " ++ quoted name ++
      ": top-level document must be a mapping"))

def validateSchema (document : Value) (schemaBytes : ConfigBytes) (module : String) :
    Except ConfigError Unit :=
  match L.parseJson schemaBytes with
  | .error err => .error (.schema ("parse schema for module " ++ quoted module ++ ": " ++ err))
  | .ok schema =>
    match L.compile schema with
    | .error err => .error (.schema ("compile schema for module " ++ quoted module ++ ": " ++ err))
    | .ok validator =>
      match L.errorPaths validator document with
      | [] => .ok ()
      | path :: paths => .error (.validation module ("; ".intercalate (path :: paths)))

def check (name : String) (schema : Option ConfigBytes) (data : ConfigBytes) :
    Except ConfigError Value := do
  let parsed ← (L.parseYaml data).mapError fun err =>
    .parse ("parse module config " ++ quoted name ++ ": " ++ err)
  let value ← normalizeDocument parsed name
  match schema with
  | none | some [] => return value
  | some (b :: bs) => do
    validateSchema L value (b :: bs) name
    return value

/-- A missing file is an empty document. -/
def moduleOf (name : String) (schema : Option ConfigBytes) :
    ReadResult UInt8 → Except ConfigError Value
  | .notFound => .ok (.object [])
  | .failed err => .error (.io ("read module config " ++ quoted name ++ ": " ++ err))
  | .bytes data => check L name schema data

def rawOf (name : String) : ReadResult UInt8 → Except ConfigError (Option ConfigBytes)
  | .bytes data => .ok (some data)
  | .notFound => .ok none
  | .failed err => .error (.io ("read module config " ++ quoted name ++ ": " ++ err))

end ConfigStore

def resolveConfig : Except ConfigError (Option ConfigBytes) → ConfigBytes
  | .ok (some bytes) => bytes
  | .ok none => []
  | .error _ => []

def Passes (L : ConfigLib) (name : String) (schema : Option ConfigBytes) (data : ConfigBytes) :
    Prop :=
  ∃ value, ConfigStore.check L name schema data = .ok value

inductive ConfigPhase
  | called
  | first (r : Reading UInt8)
  | second (r : Reading UInt8)
  | finished (result : Except ConfigError (Option ConfigBytes))

/-- What was checked, and what the second read has collected, are kept for the statements. -/
structure ConfigCall where
  disk : Disk UInt8
  phase : ConfigPhase
  checked : Option ConfigBytes
  seen : ConfigBytes

inductive ConfigLabel
  | edit (e : Edit UInt8)
  | call
  | read (a : ReadLabel)

namespace ConfigCall

variable (L : ConfigLib) (name : String) (schema : Option ConfigBytes)

def fresh (disk : Disk UInt8) : ConfigCall := ⟨disk, .called, none, []⟩

def afterFirst (s : ConfigCall) (result : ReadResult UInt8) : ConfigCall :=
  match ConfigStore.moduleOf L name schema result with
  | .error err => { s with phase := .finished (.error err) }
  -- the value that was parsed is dropped: the module gets bytes, and they are read again
  | .ok _ => { s with phase := .second .opening, checked := result.data? }

def taken : Reading UInt8 → ConfigBytes
  | .opening => []
  | .reading _ got => got

def step (s : ConfigCall) : ConfigLabel → Option ConfigCall
  | .edit e => some { s with disk := s.disk.edit e }
  | .call =>
    match s.phase with
    | .called =>
      match ConfigStore.checkName name with
      | .error err => some { s with phase := .finished (.error err) }
      | .ok () => some { s with phase := .first .opening }
    | .first _ | .second _ | .finished _ => none
  | .read a =>
    match s.phase with
    | .first r =>
      (r.step s.disk a).map fun
        | .inl r' => { s with phase := .first r' }
        | .inr result => s.afterFirst L name schema result
    | .second r =>
      -- this read begins with opening the path anew
      (r.step s.disk a).map fun
        | .inl r' => { s with phase := .second r', seen := taken r' }
        | .inr result => { s with phase := .finished (ConfigStore.rawOf name result) }
    | .called | .finished _ => none

def given (s : ConfigCall) : Option ConfigBytes :=
  match s.phase with
  | .finished result => some (resolveConfig result)
  | .called | .first _ | .second _ => none

/-- The second read finds what the first had found. -/
def AsBefore (s : ConfigCall) : ConfigLabel → Prop
  | .read (.piece n) =>
    match s.phase with
    | .second (.reading file got) =>
      ((s.disk.content file).drop got.length).take n =
        ((s.checked.getD []).drop got.length).take n
    | .second .opening | .called | .first _ | .finished _ => True
  | .read .atEnd =>
    match s.phase with
    | .second (.reading _ got) => (s.checked.getD []).length ≤ got.length
    | .second .opening | .called | .first _ | .finished _ => True
  | .read .openFile | .read (.fail _) | .edit _ | .call => True

instance (s : ConfigCall) : ∀ a, Decidable (s.AsBefore a)
  | .read (.piece n) =>
    match h : s.phase with
    | .second (.reading file got) =>
      decidable_of_iff (((s.disk.content file).drop got.length).take n =
        ((s.checked.getD []).drop got.length).take n) (by simp [AsBefore, h])
    | .second .opening | .called | .first _ | .finished _ => .isTrue (by simp [AsBefore, h])
  | .read .atEnd =>
    match h : s.phase with
    | .second (.reading _ got) =>
      decidable_of_iff ((s.checked.getD []).length ≤ got.length) (by simp [AsBefore, h])
    | .second .opening | .called | .first _ | .finished _ => .isTrue (by simp [AsBefore, h])
  | .read .openFile | .read (.fail _) | .edit _ | .call => .isTrue trivial

/-! ## What the second read collects -/

variable {L name schema} {s t : ConfigCall} {a : ConfigLabel}

def Kept (L : ConfigLib) (name : String) (schema : Option ConfigBytes) (s : ConfigCall) : Prop :=
  (∀ data, s.checked = some data → Passes L name schema data) ∧
    match s.phase with
    | .called | .first _ => s.checked = none ∧ s.seen = []
    | .second r => s.seen = taken r
    | .finished result => ∀ data, result = .ok (some data) → s.seen = data

/-- What the second read has collected is what was checked. -/
def Follows (s : ConfigCall) : Prop :=
  s.seen <+: s.checked.getD [] ∧
    ∀ data, s.phase = .finished (.ok (some data)) → (s.checked.getD []).length ≤ s.seen.length

theorem follows_of_seen_eq_nil (hseen : s.seen = [])
    (hphase : ∀ data, s.phase ≠ .finished (.ok (some data))) : s.Follows :=
  ⟨hseen ▸ List.nil_prefix, fun data h => absurd h (hphase data)⟩

theorem afterFirst_spec (h : Kept L name schema s) (hphase : s.checked = none ∧ s.seen = [])
    (result : ReadResult UInt8) :
    Kept L name schema (s.afterFirst L name schema result) ∧
      (s.afterFirst L name schema result).Follows := by
  rw [afterFirst]
  cases hmodule : ConfigStore.moduleOf L name schema result with
  | error err =>
    refine ⟨⟨h.1, ?_⟩, follows_of_seen_eq_nil hphase.2 ?_⟩ <;> rintro data ⟨⟩
  | ok value =>
    refine ⟨⟨?_, hphase.2⟩, follows_of_seen_eq_nil hphase.2 ?_⟩
    · intro data hdata
      cases result with
      | bytes data' =>
        cases hdata
        exact ⟨value, hmodule⟩
      | notFound => cases hdata
      | failed message => cases hdata
    · rintro data ⟨⟩

theorem second_spec {r : Reading UInt8} {b : ReadLabel} (h : Kept L name schema s)
    (hphase : s.phase = .second r) (ht : s.step L name schema (.read b) = some t) :
    Kept L name schema t ∧ (t.Follows ↔ s.Follows ∧ s.AsBefore (.read b)) := by
  obtain ⟨disk, phase, checked, seen⟩ := s
  cases hphase
  obtain ⟨hpasses, hseen⟩ := h
  obtain ⟨next, hnext, rfl⟩ := Option.map_eq_some_iff.mp ht
  cases r with
  | opening =>
    cases hseen
    cases b with
    | openFile =>
      cases hname : disk.name with
      | none =>
        simp only [Reading.step, hname, Option.some.injEq] at hnext
        subst hnext
        refine ⟨⟨hpasses, ?_⟩, ?_⟩
        · rintro data ⟨⟩
        · simp [Follows, AsBefore, ConfigStore.rawOf]
      | some file =>
        simp only [Reading.step, hname, Option.some.injEq] at hnext
        subst hnext
        exact ⟨⟨hpasses, rfl⟩, by simp [Follows, AsBefore, taken]⟩
    | fail message =>
      cases hnext
      refine ⟨⟨hpasses, ?_⟩, ?_⟩
      · rintro data ⟨⟩
      · simp [Follows, AsBefore, ConfigStore.rawOf]
    | piece n => cases hnext
    | atEnd => cases hnext
  | reading file got =>
    cases hseen
    cases b with
    | piece n =>
      simp only [Reading.step, Option.ite_none_right_eq_some, Option.some.injEq] at hnext
      obtain ⟨⟨-, hroom⟩, rfl⟩ := hnext
      have hlen : (((disk.content file).drop seen.length).take n).length = n := by
        rw [List.length_take, List.length_drop]
        omega
      refine ⟨⟨hpasses, rfl⟩, ?_⟩
      -- the piece continues what was checked exactly if it is the next part of it
      simp only [Follows, AsBefore, taken, append_prefix_iff, hlen]
      simp
    | atEnd =>
      simp only [Reading.step, Option.ite_none_right_eq_some, Option.some.injEq] at hnext
      obtain ⟨-, rfl⟩ := hnext
      refine ⟨⟨hpasses, ?_⟩, ?_⟩
      · rintro data ⟨⟩
        rfl
      · simp [Follows, AsBefore, ConfigStore.rawOf]
    | fail message =>
      cases hnext
      refine ⟨⟨hpasses, ?_⟩, ?_⟩
      · rintro data ⟨⟩
      · simp [Follows, AsBefore, ConfigStore.rawOf]
    | openFile => cases hnext

theorem first_spec (hs : s.Follows) (ha : s.AsBefore a) (ht : Kept L name schema t ∧ t.Follows) :
    Kept L name schema t ∧ (t.Follows ↔ s.Follows ∧ s.AsBefore a) :=
  ⟨ht.1, iff_of_true ht.2 ⟨hs, ha⟩⟩

theorem kept_follows_of_step (h : Kept L name schema s) (ht : s.step L name schema a = some t) :
    Kept L name schema t ∧ (t.Follows ↔ s.Follows ∧ s.AsBefore a) := by
  cases a with
  | edit e =>
    cases ht
    exact ⟨h, (and_iff_left trivial).symm⟩
  | call =>
    obtain ⟨disk, phase, checked, seen⟩ := s
    cases phase with
    | called =>
      obtain ⟨hpasses, rfl, rfl⟩ := h
      refine first_spec (follows_of_seen_eq_nil rfl (by rintro data ⟨⟩)) trivial ?_
      cases hname : ConfigStore.checkName name with
      | error err =>
        simp only [step, hname, Option.some.injEq] at ht
        subst ht
        refine ⟨⟨hpasses, ?_⟩, follows_of_seen_eq_nil rfl ?_⟩ <;> rintro data ⟨⟩
      | ok _ =>
        simp only [step, hname, Option.some.injEq] at ht
        subst ht
        exact ⟨⟨hpasses, rfl, rfl⟩, follows_of_seen_eq_nil rfl (by rintro data ⟨⟩)⟩
    | first | second | finished => cases ht
  | read b =>
    cases hphase : s.phase with
    | first r =>
      have hnone : s.checked = none ∧ s.seen = [] := by
        have hkept := h.2
        rw [hphase] at hkept
        exact hkept
      have hs : s.Follows := follows_of_seen_eq_nil hnone.2 (by simp [hphase])
      have ha : s.AsBefore (.read b) := by cases b <;> simp [AsBefore, hphase]
      refine first_spec hs ha ?_
      rw [step, hphase] at ht
      obtain ⟨next, -, rfl⟩ := Option.map_eq_some_iff.mp ht
      cases next with
      | inl r' =>
        exact ⟨⟨h.1, hnone⟩, follows_of_seen_eq_nil hnone.2 (by rintro data ⟨⟩)⟩
      | inr result => exact afterFirst_spec h hnone result
    | second r => exact second_spec h hphase ht
    | called =>
      rw [step, hphase] at ht
      cases ht
    | finished result =>
      rw [step, hphase] at ht
      cases ht

theorem kept_fresh (disk : Disk UInt8) : Kept L name schema (fresh disk) :=
  ⟨by rintro data ⟨⟩, rfl, rfl⟩

theorem follows_iff {disk : Disk UInt8} {as : List ConfigLabel}
    (h : run (step L name schema) (fresh disk) as = some s) :
    s.Follows ↔ Along (step L name schema) AsBefore (fresh disk) as := by
  have hfresh : (fresh disk).Follows := follows_of_seen_eq_nil rfl (by rintro data ⟨⟩)
  have hiff := run_iff_of_invariant (I := Follows) (J := Kept L name schema) (C := AsBefore)
    (fun _ _ _ hu hv => (kept_follows_of_step hu hv).1)
    (fun _ _ _ hu hv => (kept_follows_of_step hu hv).2) (kept_fresh disk) h
  rw [hiff, and_iff_right hfresh]

theorem kept_of_run {disk : Disk UInt8} {as : List ConfigLabel}
    (h : run (step L name schema) (fresh disk) as = some s) : Kept L name schema s :=
  run_invariant_of_step (I := Kept L name schema)
    (fun _ _ _ hu hv => (kept_follows_of_step hu hv).1) (kept_fresh disk) h

theorem phase_of_given {data : ConfigBytes} (h : s.given = some data) (hne : data ≠ []) :
    s.phase = .finished (.ok (some data)) := by
  obtain ⟨disk, phase, checked, seen⟩ := s
  cases phase with
  | called | first | second => cases h
  | finished result =>
    have hdata : resolveConfig result = data := Option.some.inj h
    rcases result with err | (_ | data')
    · exact absurd hdata.symm hne
    · exact absurd hdata.symm hne
    · have hsame : data' = data := hdata
      rw [hsame]

end ConfigCall

/-- **Modules are given checked bytes** exactly if the second read finds what the first had found.
-/
theorem given_checked_iff (L : ConfigLib) (name : String) (schema : Option ConfigBytes)
    (disk : Disk UInt8) {s : ConfigCall} {as : List ConfigLabel}
    (h : run (ConfigCall.step L name schema) (.fresh disk) as = some s) :
    (∀ data, s.given = some data →
        data = [] ∨ s.checked = some data ∧ Passes L name schema data) ↔
      ∀ data, s.given = some data →
        data = [] ∨ Along (ConfigCall.step L name schema) ConfigCall.AsBefore (.fresh disk) as := by
  refine forall₂_congr fun data hdata => ?_
  by_cases hne : data = []
  · simp [hne]
  · have hphase := ConfigCall.phase_of_given hdata hne
    obtain ⟨hpasses, hseen⟩ := ConfigCall.kept_of_run h
    rw [hphase] at hseen
    have hseen : s.seen = data := hseen data rfl
    rw [← ConfigCall.follows_iff h, or_iff_right hne, or_iff_right hne]
    constructor
    · rintro ⟨hchecked, -⟩
      rw [ConfigCall.Follows, hchecked, hseen]
      exact ⟨List.prefix_rfl, fun _ _ => le_rfl⟩
    · rintro ⟨hbegins, hend⟩
      have hsame : data = s.checked.getD [] := by
        rw [← hseen]
        exact hbegins.eq_of_length_le (hend data hphase)
      cases hchecked : s.checked with
      | none =>
        rw [hchecked] at hsame
        exact absurd hsame hne
      | some data' =>
        rw [hchecked] at hsame
        have hsame : data = data' := hsame
        exact ⟨by rw [hsame], hsame ▸ hpasses data' hchecked⟩

/-! ### An edit between the two reads -/

section Sample

def digitLib : ConfigLib where
  Validator := Unit
  parseYaml
    | [b] => .ok (.object [("interval", .int b.toNat)])
    | _ => .error "not a document"
  parseJson _ := .ok .null
  compile _ := .ok ()
  errorPaths _ document :=
    match document.get "interval" with
    | some (.int n) => if n < 10 then [] else ["/interval"]
    | _ => ["/"]

def readOnce : List ConfigLabel := [.read .openFile, .read (.piece 1), .read .atEnd]

def fiveOnDisk : Disk UInt8 := ⟨some 0, fun _ => [5]⟩

def undisturbed : List ConfigLabel := .call :: readOnce ++ readOnce

def editedBetween : List ConfigLabel :=
  .call :: readOnce ++ .edit (.write 0 [77]) :: readOnce

theorem given_checked_undisturbed :
    ∃ s, run (ConfigCall.step digitLib "squawk" (some [1])) (.fresh fiveOnDisk) undisturbed =
        some s ∧
      s.given = some [5] ∧ ∀ data, s.given = some data →
        data = [] ∨ s.checked = some data ∧ Passes digitLib "squawk" (some [1]) data := by
  refine ⟨_, (Option.some_get (by decide +kernel)).symm, by decide +kernel, ?_⟩
  exact (given_checked_iff digitLib "squawk" (some [1]) fiveOnDisk
    (Option.some_get (by decide +kernel)).symm).mpr fun _ _ => .inr (by decide +kernel)

theorem given_unchecked_editedBetween :
    ∃ s, run (ConfigCall.step digitLib "squawk" (some [1])) (.fresh fiveOnDisk) editedBetween =
        some s ∧
      s.given = some [77] ∧ s.checked = some [5] ∧
        ¬ Passes digitLib "squawk" (some [1]) [77] := by
  refine ⟨_, (Option.some_get (by decide +kernel)).symm, by decide +kernel, by decide +kernel, ?_⟩
  rintro ⟨value, hvalue⟩
  have hfails : ConfigStore.check digitLib "squawk" (some [1]) [77] =
      .error (.validation "squawk" "/interval") := rfl
  rw [hfails] at hvalue
  cases hvalue

end Sample

end Penguind.Daemon
