import Penguind.Squawk.CrashMarker

/-!
# The copy of the resolver file and the records

An apply on the resolver file keeps a copy of the file, the crash marker and a record in memory.
The copy is replaced before the others, and a restore puts it back, whatever snapshot it is from.
-/

namespace Penguind.Squawk

open Foundation

variable {Ip : Type}

/-! ## The notes -/

/-- What the resolver file held, and whether the running apply took it. -/
structure Origin where
  content : Option Bytes
  current : Bool
  deriving DecidableEq

/-- With what the snapshots behind the records found. -/
structure Traced (Ip : Type) where
  world : World Ip
  kept : Option Bytes
  taken : Option Bytes
  marker : Origin
  memory : Origin

namespace Traced

abbrev backup (s : Traced Ip) : Option Bytes := s.world.files .backup

def note (s : Traced Ip) : (e : Effect Ip) → Answer e → Traced Ip
  | .read .resolvConf => fun
    | .content data => { s with taken := some data }
    | .notFound => { s with taken := none }
    | .failed _ => s
  | .openTruncate .marker _ => fun
    | .ok () => { s with marker := ⟨s.taken, true⟩ }
    | .error _ => s
  | .writeAll .marker _ _ => fun _ => { s with marker := ⟨s.taken, true⟩ }
  | .setState (some _) => fun _ => { s with memory := ⟨s.taken, true⟩ }
  | _ => fun _ => s

def act [DecidableEq Ip] (s : Traced Ip) (e : Effect Ip) (a : Answer e) : Option (Traced Ip) :=
  (Squawk.act s.world e a).map fun w => { s.note e a with world := w }

def close (s : Traced Ip) : Traced Ip where
  world := s.world
  kept := s.backup
  taken := s.taken
  marker := { s.marker with current := false }
  memory := { s.memory with current := false }

def start (live backup : Option Bytes) : Traced Ip where
  world :=
    { files := fun
        | .marker => none
        | .backup => backup
        | .resolvConf => live
      links := []
      state := none
      outstanding := []
      reports := [] }
  kept := backup
  taken := none
  marker := ⟨none, false⟩
  memory := ⟨none, false⟩

end Traced

def SysResolver.onResolvConf (r : SysResolver) : SysResolver := { r with backends := [.resolvConf] }

def applies [DecidableEq Ip] (L : ResolverLib Ip) (r : SysResolver) :
    CrashMachine (Traced Ip) (Effect Ip) Answer (List Ip) (Except SysResolverError Outcome)
      (Option Bytes) where
  act := Traced.act
  code servers := apply L r.onResolvConf servers
  finish result s := Traced.close { s with world := (sysResolver L r).finish result s.world }
  crash s := Traced.close { s with world := (sysResolver L r).crash s.world }
  env content s := some { s with world := s.world.setFile .resolvConf content }

/-! ## The property and the condition -/

def World.Loads (L : ResolverLib Ip) (w : World Ip) : Prop :=
  ∃ data m, w.files .marker = some data ∧ L.decodeMarker data = .ok m

instance (L : ResolverLib Ip) (w : World Ip) : Decidable (w.Loads L) :=
  match h : w.files .marker with
  | none => .isFalse (by rintro ⟨data, m, hdata, -⟩; rw [h] at hdata; cases hdata)
  | some data =>
    match h' : L.decodeMarker data with
    | .ok m => .isTrue ⟨data, m, h, h'⟩
    | .error source => .isFalse (by
        rintro ⟨data', m, hdata, hm⟩
        obtain rfl : data = data' := Option.mem_unique h hdata
        rw [h'] at hm
        cases hm)

namespace Traced

def Matches (s : Traced Ip) (o : Origin) : Prop :=
  o.content ≠ none ∧ s.backup = o.content

/-- The copy and the records are of the same moment. -/
def Agrees (L : ResolverLib Ip) (s : Traced Ip) : Prop :=
  (s.world.Loads L → s.Matches s.marker) ∧ (s.world.state ≠ none → s.Matches s.memory)

def Sound (s : Traced Ip) (o : Origin) : Prop :=
  if o.current then o.content ≠ none else s.backup = s.kept

/-- **The condition** at the end of an apply: its records, or earlier ones with the copy untouched.
-/
def EndsWell (L : ResolverLib Ip) (s : Traced Ip) : Prop :=
  (s.world.Loads L → s.Sound s.marker) ∧ (s.world.state ≠ none → s.Sound s.memory)

def CrashesWell (L : ResolverLib Ip) (s : Traced Ip) : Prop :=
  s.world.Loads L → s.Sound s.marker

instance (s : Traced Ip) (o : Origin) : Decidable (s.Sound o) :=
  inferInstanceAs (Decidable (if o.current then o.content ≠ none else s.backup = s.kept))

instance [DecidableEq Ip] (L : ResolverLib Ip) (s : Traced Ip) : Decidable (s.EndsWell L) :=
  inferInstanceAs (Decidable (_ ∧ _))

instance (L : ResolverLib Ip) (s : Traced Ip) : Decidable (s.CrashesWell L) :=
  inferInstanceAs (Decidable (_ → _))

end Traced

/-- If the operation ends with `outcome`, the resolver file holds `content`. -/
def LeavesFile [DecidableEq Ip] (outcome : Outcome) (content : Option Bytes) (q : Op Ip Outcome)
    (w : World Ip) : Prop :=
  Safe act (fun _ => True) (fun _ _ _ => True)
    (fun result t => result = .ok outcome → content ≠ none ∧ t.files .resolvConf = content) q w

namespace Traced

def record (s : Traced Ip) : Origin := if s.world.state = none then s.marker else s.memory

/-- Restores and recoveries put back what the snapshot behind their record found. -/
def PutsBack [DecidableEq Ip] (L : ResolverLib Ip) (r : SysResolver) (s : Traced Ip) : Prop :=
  LeavesFile .restored s.record.content (restore L r.onResolvConf) s.world ∧
    LeavesFile .recovered s.marker.content (recoverFromCrash L r.onResolvConf) s.world

end Traced

/-! ## What is known while an apply runs -/

/-- An earlier record has the copy of its time behind it, a new one the present copy. -/
structure Origin.Known (o : Origin) (kept backup : Option Bytes) (present : Prop) : Prop where
  earlier : o.current = false → present → o.content = kept ∧ kept ≠ none
  own : o.current = true → o.content ≠ none → backup = o.content

section Known

variable (L : ResolverLib Ip)

structure Known (s : Traced Ip) : Prop where
  marker : s.marker.Known s.kept s.backup (s.world.Loads L)
  memory : s.memory.Known s.kept s.backup (s.world.state ≠ none)
  backup : s.kept ≠ none → s.backup ≠ none

structure Before (s : Traced Ip) : Prop extends Known L s where
  markerEarlier : s.marker.current = false
  memoryEarlier : s.memory.current = false

structure Ready (s : Traced Ip) : Prop extends Known L s where
  snapshot : s.taken ≠ none → s.backup = s.taken

structure Rest (s : Traced Ip) : Prop extends Before L s where
  kept : s.kept = s.backup

variable {L} {s t : Traced Ip} {o : Origin} {present : Prop}

theorem Origin.Known.matches_iff (h : o.Known s.kept s.backup present) (hpresent : present) :
    s.Matches o ↔ s.Sound o := by
  unfold Traced.Matches Traced.Sound
  cases hcurrent : o.current with
  | false =>
    obtain ⟨hkept, hsome⟩ := h.earlier hcurrent hpresent
    rw [if_neg Bool.false_ne_true, hkept, and_iff_right hsome]
  | true =>
    rw [if_pos rfl]
    exact and_iff_left_of_imp (h.own hcurrent)

theorem Known.agrees_iff (h : Known L s) : s.Agrees L ↔ s.EndsWell L :=
  and_congr (forall_congr' h.marker.matches_iff) (forall_congr' h.memory.matches_iff)

theorem Traced.Agrees.rest (h : s.Agrees L) (hmarker : s.marker.current = false)
    (hmemory : s.memory.current = false) (hkept : s.kept = s.backup) : Rest L s := by
  have hknown : ∀ {o : Origin} {present : Prop}, o.current = false → (present → s.Matches o) →
      o.Known s.kept s.backup present := by
    intro o present hcurrent hmatches
    refine ⟨fun _ hpresent => ?_, fun hown => ?_⟩
    · obtain ⟨hsome, hbackup⟩ := hmatches hpresent
      rw [hkept, hbackup]
      exact ⟨rfl, hsome⟩
    · rw [hcurrent] at hown
      cases hown
  exact
    { marker := hknown hmarker h.1
      memory := hknown hmemory h.2
      backup := by rw [hkept]; exact id
      markerEarlier := hmarker
      memoryEarlier := hmemory
      kept := hkept }

theorem Rest.agrees (h : Rest L s) : s.Agrees L := by
  refine h.toKnown.agrees_iff.mpr ⟨fun _ => ?_, fun _ => ?_⟩
  · rw [Traced.Sound, if_neg (by simp [h.markerEarlier]), h.kept]
  · rw [Traced.Sound, if_neg (by simp [h.memoryEarlier]), h.kept]

end Known

section Effects

variable {L : ResolverLib Ip} {s t : Traced Ip}

@[simp] theorem files_setFile (w : World Ip) (file other : FileId) (c : Option Bytes) :
    (w.setFile file c).files other = if other = file then c else w.files other := by
  by_cases h : other = file <;> simp [World.setFile, h]

theorem loads_of_remove {w : World Ip} {file : FileId} (h : (w.setFile file none).Loads L) :
    w.Loads L := by
  obtain ⟨data, m, hdata, hm⟩ := h
  rw [files_setFile] at hdata
  by_cases hfile : FileId.marker = file
  · rw [if_pos hfile] at hdata
    cases hdata
  · rw [if_neg hfile] at hdata
    exact ⟨data, m, hdata, hm⟩

theorem Ready.frame (h : Ready L s) (hkept : t.kept = s.kept) (htaken : t.taken = s.taken)
    (hbackup : t.backup = s.backup)
    (hmarker : t.marker = ⟨s.taken, true⟩ ∨
      t.marker = s.marker ∧ (t.world.Loads L → s.world.Loads L))
    (hmemory : t.memory = ⟨s.taken, true⟩ ∨
      t.memory = s.memory ∧ (t.world.state ≠ none → s.world.state ≠ none)) : Ready L t := by
  have hknown : ∀ {o o' : Origin} {present present' : Prop}, o.Known s.kept s.backup present →
      (o' = ⟨s.taken, true⟩ ∨ o' = o ∧ (present' → present)) →
      o'.Known t.kept t.backup present' := by
    rintro o o' present present' ho (rfl | ⟨rfl, hpresent⟩)
    · refine ⟨fun hcurrent => (by cases hcurrent), fun _ hsome => ?_⟩
      rw [hbackup]
      exact h.snapshot hsome
    · rw [hkept, hbackup]
      exact ⟨fun hcurrent hp => ho.earlier hcurrent (hpresent hp), ho.own⟩
  exact
    { marker := hknown h.marker hmarker
      memory := hknown h.memory hmemory
      backup := by rw [hkept, hbackup]; exact h.backup
      snapshot := by rw [htaken, hbackup]; exact h.snapshot }

theorem Before.setBackup (h : Before L s) (w : World Ip)
    (hfiles : w.files .marker = s.world.files .marker) (hstate : w.state = s.world.state)
    (hbackup : w.files .backup ≠ none) : Before L { s with world := w } := by
  have hknown : ∀ {o : Origin} {present present' : Prop}, o.current = false →
      o.Known s.kept s.backup present → (present' → present) →
      o.Known s.kept (w.files .backup) present' := by
    intro o present present' hcurrent ho hpresent
    refine ⟨fun _ hp => ho.earlier hcurrent (hpresent hp), fun hown => ?_⟩
    rw [hcurrent] at hown
    cases hown
  exact
    { marker := hknown h.markerEarlier h.marker (by rw [World.Loads, hfiles]; exact id)
      memory := hknown h.memoryEarlier h.memory (by rw [hstate]; exact id)
      backup := fun _ => hbackup
      markerEarlier := h.markerEarlier
      memoryEarlier := h.memoryEarlier }

def AfterSnapshot : Effect Ip → Prop
  | .now | .dirExists | .createDir | .chmod _ _ | .setState (some _) => True
  | .openTruncate file _ | .writeAll file _ _ | .remove file => file ≠ .backup
  | _ => False

variable [DecidableEq Ip]

theorem Ready.act {e : Effect Ip} {a : Answer e} (h : Ready L s) (he : AfterSnapshot e)
    (ht : s.act e a = some t) : Ready L t := by
  obtain ⟨w, hw, rfl⟩ := Option.map_eq_some_iff.mp ht
  cases e with
  | now | dirExists | createDir | chmod => cases hw; exact h
  | setState state =>
    cases state with
    | none => exact he.elim
    | some applied =>
      cases hw
      exact h.frame rfl rfl rfl (.inr ⟨rfl, id⟩) (.inl rfl)
  | openTruncate file purpose =>
    cases hw
    cases file with
    | backup => exact absurd rfl he
    | marker =>
      cases a with
      | error fault => exact h
      | ok u => exact h.frame rfl rfl rfl (.inl rfl) (.inr ⟨rfl, id⟩)
    | resolvConf =>
      cases a with
      | error fault => exact h
      | ok u => cases purpose <;> exact h.frame rfl rfl rfl (.inr ⟨rfl, id⟩) (.inr ⟨rfl, id⟩)
  | writeAll file purpose data =>
    cases hw
    cases file with
    | backup => exact absurd rfl he
    | marker => cases a <;> exact h.frame rfl rfl rfl (.inl rfl) (.inr ⟨rfl, id⟩)
    | resolvConf =>
      cases a <;> cases purpose <;>
        exact h.frame rfl rfl rfl (.inr ⟨rfl, id⟩) (.inr ⟨rfl, id⟩)
  | remove file =>
    obtain rfl | rfl := remove_cases hw
    · exact h
    · have hbackup := (files_setFile s.world file .backup none).trans (if_neg (Ne.symm he))
      exact h.frame rfl rfl hbackup (.inr ⟨rfl, loads_of_remove⟩) (.inr ⟨rfl, id⟩)
  | _ => exact he.elim

end Effects

section Uses

variable {L : ResolverLib Ip} {r : SysResolver}

variable (L r) in
def applyAfterSnapshot (previous servers : List Ip) : Op Ip Outcome := do
  let appliedAt ← Sys.now
  MarkerStore.write L r ⟨previous.map L.showIp, Backend.resolvConf.name, appliedAt⟩
  let committed ← ProgE.attempt (ResolvConf.commit L r .commit servers)
  match committed with
  | .error err =>
    let _cleanup ← ProgE.attempt (MarkerStore.delete r)
    throw err
  | .ok () =>
    Sys.setState (some ⟨Backend.resolvConf.name, previous⟩)
    return .applied

theorem uses_applyAfterSnapshot (previous servers : List Ip) :
    Prog.Uses AfterSnapshot (applyAfterSnapshot L r previous servers) := by
  have hwrite : ∀ {file : FileId} {purpose : Purpose} {data : Bytes}, file ≠ .backup →
      Prog.Uses AfterSnapshot (writeOwnerOnly r file purpose data : Op Ip Unit) :=
    fun hfile => uses_writeOwnerOnly hfile hfile trivial
  refine uses_bindE (uses_call trivial) fun appliedAt => ?_
  refine uses_bindE (uses_bindE (uses_createDirAllOwnerOnly trivial trivial) fun _ =>
    hwrite (by decide)) fun _ => ?_
  refine uses_bindE (uses_attempt (hwrite (by decide))) fun committed => ?_
  cases committed with
  | error err =>
    have hmarker : FileId.marker ≠ .backup := by decide
    exact uses_bindE (uses_attempt (uses_delete hmarker)) fun _ => trivial
  | ok u => exact uses_bindE (uses_call trivial) fun _ => trivial

end Uses

section Program

variable [DecidableEq Ip] (L : ResolverLib Ip) (r : SysResolver) {A : Type}

def Traces (P : Traced Ip → Prop) (q : Op Ip A)
    (Q : Except SysResolverError A → Traced Ip → Prop) : Prop :=
  Triple Traced.act (Known L) (fun _ _ _ => True) P q Q

def Gives (ok : A → Traced Ip → Prop) : Except SysResolverError A → Traced Ip → Prop
  | .ok a, s => ok a s
  | .error _, s => Known L s

variable {L r}

theorem traces_bind {B : Type} {P : Traced Ip → Prop} {q : Op Ip A} {f : A → Op Ip B}
    {ok : A → Traced Ip → Prop} {ok' : B → Traced Ip → Prop} (h : Traces L P q (Gives L ok))
    (hok : ∀ a, Traces L (ok a) (f a) (Gives L ok')) :
    Traces L P (q >>= f : Op Ip B) (Gives L ok') :=
  Triple.bind h hok fun _ _ hs => hs

theorem traces_of_uses {q : Op Ip A} (hq : Prog.Uses AfterSnapshot q) :
    Traces L (Ready L) q fun _ => Ready L := by
  intro s hs
  exact hq.safe (fun s e a t hs he ht => hs.act he ht) (fun _ h => h.toKnown) hs

theorem traces_writeBackup (data : Bytes) :
    Traces L (fun s => Before L s ∧ s.taken = some data)
      (writeOwnerOnly r .backup .record data) (Gives L fun _ => Ready L) := by
  have hset : ∀ {s : Traced Ip} (copy : Bytes), Before L s →
      Before L { s with world := s.world.setFile .backup (some copy) } :=
    fun _ hs => hs.setBackup _ rfl rfl (by simp)
  rintro s ⟨hs, htaken⟩ (fault | opened) t - ⟨⟩
  · exact ⟨hs.toKnown, hs.toKnown⟩
  have hopened := hset [] hs
  refine ⟨hopened.toKnown, ?_⟩
  rintro (fault | written) t - ⟨⟩
  · have hpart := hset (data.take fault.progress) hopened
    exact ⟨hpart.toKnown, hpart.toKnown⟩
  have hwritten := hset data hopened
  refine ⟨hwritten.toKnown, ?_⟩
  rintro (fault | moded) t - ⟨⟩
  · exact ⟨hwritten.toKnown, hwritten.toKnown⟩
  · refine ⟨hwritten.toKnown, hwritten.toKnown, fun _ => ?_⟩
    exact (files_setFile _ .backup .backup (some data)).trans htaken.symm

theorem traces_snapshot :
    Traces L (Before L) (ResolvConf.snapshot L r) (Gives L fun _ => Ready L) := by
  intro s hs found t _ ht
  obtain ⟨w, hw, rfl⟩ := Option.map_eq_some_iff.mp ht
  obtain ⟨rfl, -⟩ := read_eq_some hw
  cases found with
  | failed source => exact ⟨hs.toKnown, hs.toKnown⟩
  | notFound =>
    have hbefore : Before L { s with taken := none } := { hs with }
    exact ⟨hbefore.toKnown, hbefore.toKnown, fun hsome => absurd rfl hsome⟩
  | content content =>
    have hbefore : Before L { s with taken := some content } := { hs with }
    refine ⟨hbefore.toKnown, traces_bind (traces_writeBackup content) (fun _ => ?_) _
      ⟨hbefore, rfl⟩⟩
    exact fun _ h => h

theorem traces_selectAndSnapshot (lastErr : SysResolverError) :
    Traces L (Before L) (selectAndSnapshot L r lastErr [.resolvConf])
      (Gives L fun x s => x.1 = .resolvConf ∧ Ready L s) := by
  refine traces_bind (Triple.attempt traces_snapshot) fun attempt => ?_
  cases attempt with
  | ok previous => exact fun _ h => ⟨rfl, h⟩
  | error err => exact fun _ h => h

theorem traces_apply (servers : List Ip) :
    Traces L (Before L) (apply L r.onResolvConf servers) fun _ => Known L := by
  rw [apply]
  by_cases hservers : servers = []
  · rw [if_pos hservers]
    exact fun _ h => h.toKnown
  rw [if_neg hservers]
  refine Triple.bind (traces_selectAndSnapshot .noBackendAvailable) (fun x => ?_) fun _ _ h => h
  obtain ⟨b, previous⟩ := x
  rintro s ⟨rfl, hready⟩
  exact Safe.mono (traces_of_uses (uses_applyAfterSnapshot _ _) s hready) fun _ _ h => h.toKnown

end Program

/-! ## Putting back -/

section PutBack

variable {L : ResolverLib Ip} {r : SysResolver} {content : Option Bytes} {A B : Type}

theorem findBackend_onResolvConf (name : String) :
    (findBackend r.onResolvConf name : Op Ip Backend) = pure .resolvConf := by
  unfold findBackend
  have hfind : r.onResolvConf.backends.find? (·.name = name) = some .resolvConf ∨
      r.onResolvConf.backends.find? (·.name = name) = none := by
    by_cases hname : Backend.resolvConf.name = name
    · exact .inl (List.find?_cons_of_pos (by simpa using hname))
    · exact .inr (by simp [SysResolver.onResolvConf, hname])
  obtain hfind | hfind := hfind
  · rw [hfind]
  · rw [hfind]
    rfl

def Copied (content : Option Bytes) (w : World Ip) : Prop :=
  content ≠ none ∧ w.files .backup = content

def Holds (content : Option Bytes) (w : World Ip) : Prop :=
  content ≠ none ∧ w.files .resolvConf = content

def IfOk (ok : A → World Ip → Prop) : Except SysResolverError A → World Ip → Prop
  | .ok a, w => ok a w
  | .error _, _ => True

variable [DecidableEq Ip]

def Goes (P : World Ip → Prop) (q : Op Ip A) (Q : A → World Ip → Prop) : Prop :=
  Triple act (fun _ => True) (fun _ _ _ => True) P q (IfOk Q)

variable {P : World Ip → Prop} {q : Op Ip A} {Q : A → World Ip → Prop}

theorem goes_bind {f : A → Op Ip B} {Q' : B → World Ip → Prop} (h : Goes P q Q)
    (hf : ∀ a, Goes (Q a) (f a) Q') : Goes P (q >>= f : Op Ip B) Q' :=
  Triple.bind h hf fun _ _ _ => trivial

theorem goes_call {e : Effect Ip} {Q : Answer e → World Ip → Prop}
    (h : ∀ w a t, P w → act w e a = some t → Q a t) : Goes P (ProgE.call e) Q :=
  Triple.call fun w hw a t _ ht => ⟨trivial, h w a t hw ht⟩

omit [DecidableEq Ip] in
theorem ifOk_of_forall {a : Except SysResolverError A} {w : World Ip} (h : ∀ a, Q a w) :
    IfOk Q a w := by
  cases a with
  | ok a => exact h a
  | error err => exact trivial

omit [DecidableEq Ip] in
theorem IfOk.mono {Q Q' : A → World Ip → Prop} {a : Except SysResolverError A} {w : World Ip}
    (h : IfOk Q a w) (hQ : ∀ a, Q a w → Q' a w) : IfOk Q' a w := by
  cases a with
  | ok a => exact hQ a h
  | error err => exact trivial

theorem goes_any : Goes P q fun _ _ => True :=
  fun _ _ => safe_true.mono fun _ _ _ => ifOk_of_forall fun _ => trivial

def AfterPutBack : Effect Ip → Prop
  | .chmod _ _ | .setState _ => True
  | .remove file => file ≠ .resolvConf
  | _ => False

theorem goes_of_uses (hq : Prog.Uses AfterPutBack q) :
    Goes (Holds content) q fun _ => Holds content := by
  intro w hw
  refine (hq.safe ?_ (fun _ _ => trivial) hw).mono fun a t ht => ifOk_of_forall fun _ => ht
  intro w e a t hw he ht
  cases e with
  | chmod | setState =>
    cases ht
    exact hw
  | remove file =>
    obtain rfl | rfl := remove_cases ht
    · exact hw
    · exact ⟨hw.1, (files_setFile w file .resolvConf none).trans
        ((if_neg (Ne.symm he)).trans hw.2)⟩
  | _ => exact he.elim

theorem goes_writeOwnerOnly (file : FileId) (purpose : Purpose) (data : Bytes) :
    Goes (fun _ => True) (writeOwnerOnly r file purpose data : Op Ip Unit)
      fun _ w => w.files file = some data := by
  have hfile : ∀ w : World Ip, (w.writeAll file purpose data (.ok ())).files file = some data := by
    intro w
    have hset : (w.setFile file (some data)).files file = some data := by simp
    unfold World.writeAll
    split_ifs <;> exact hset
  rintro w - (fault | opened) t - ⟨⟩
  · exact ⟨trivial, trivial⟩
  refine ⟨trivial, ?_⟩
  rintro (fault | written) t - ⟨⟩
  · exact ⟨trivial, trivial⟩
  refine ⟨trivial, ?_⟩
  rintro (fault | moded) t - ⟨⟩
  · exact ⟨trivial, trivial⟩
  · exact ⟨trivial, hfile _⟩

def restoredFile (L : ResolverLib Ip) (fallback : List Ip) (w : World Ip) : Bytes :=
  (w.files .backup).getD (L.encodeUtf8 (formatResolvConf L fallback))

theorem goes_restoreFile (fallback : List Ip) (data : Bytes) :
    Goes (fun w => restoredFile L fallback w = data) (ResolvConf.restore L r fallback)
      fun _ => Holds (some data) := by
  have hwrite : ∀ w : World Ip, Safe act (fun _ => True) (fun _ _ _ => True)
      (IfOk fun _ => Holds (some data))
      (writeOwnerOnly r .resolvConf .restore data : Op Ip Unit) w :=
    fun w => (goes_writeOwnerOnly .resolvConf .restore data w trivial).mono fun a t ht =>
      ht.mono fun _ hfile => ⟨by simp, hfile⟩
  rintro w rfl found t - ht
  obtain ⟨rfl, hnone, hdata⟩ := read_eq_some ht
  refine ⟨trivial, ?_⟩
  cases found with
  | failed source => exact trivial
  | notFound =>
    rw [restoredFile, hnone rfl, Option.getD_none] at hwrite ⊢
    exact hwrite t
  | content backup =>
    rw [restoredFile, hdata backup rfl, Option.getD_some] at hwrite ⊢
    refine goes_bind (P := fun _ => True) (fun w _ => hwrite w) (fun _ => goes_of_uses ?_) t trivial
    exact uses_bindE (uses_call (by decide : FileId.backup ≠ .resolvConf)) fun _ => trivial

theorem goes_restoreCopied (fallback : List Ip) :
    Goes (Copied content) (ResolvConf.restore L r fallback) fun _ => Holds content := by
  rintro w ⟨hsome, hbackup⟩
  obtain ⟨data, rfl⟩ := Option.ne_none_iff_exists'.mp hsome
  have hdata : restoredFile L fallback w = data := by
    rw [restoredFile, hbackup, Option.getD_some]
  exact goes_restoreFile fallback data w hdata

def World.LoadsMarker (L : ResolverLib Ip) (w : World Ip) (m : Marker) : Prop :=
  ∃ data, w.files .marker = some data ∧ L.decodeMarker data = .ok m

variable {K : List Ip → World Ip → Prop}

def Marked (L : ResolverLib Ip) (K : List Ip → World Ip → Prop) (w : World Ip) : Prop :=
  ∀ m, w.LoadsMarker L m → K (m.parseServers L) w

def Recorded (L : ResolverLib Ip) (K : List Ip → World Ip → Prop) (w : World Ip) : Prop :=
  (∀ applied, w.state = some applied → K applied.previousServers w) ∧
    (w.state = none → Marked L K w)

def LoadedFrom (L : ResolverLib Ip) (K : List Ip → World Ip → Prop) :
    Option Marker → World Ip → Prop
  | some m, w => K (m.parseServers L) w
  | none, _ => True

theorem goes_load : Goes (Marked L K) (MarkerStore.load L r) (LoadedFrom L K) := by
  have hread : Goes (Marked L K) (Sys.read .marker : Op Ip ReadAnswer) fun found w =>
      Marked L K w ∧ ∀ data, found = .content data → w.files .marker = some data := by
    refine goes_call fun w a t hw ht => ?_
    obtain ⟨rfl, -, hdata⟩ := read_eq_some ht
    exact ⟨hw, hdata⟩
  refine goes_bind hread fun found => ?_
  cases found with
  | notFound => exact fun _ _ => trivial
  | failed source => exact fun _ _ => trivial
  | content data =>
    dsimp only
    cases hdecode : L.decodeMarker data with
    | ok marker => exact fun w h => h.1 marker ⟨data, h.2 data rfl, hdecode⟩
    | error source =>
      exact goes_bind goes_any fun stamp => goes_bind goes_any fun renamed => fun _ _ => trivial

theorem goes_findBackend_bind {name : String} {f : Backend → Op Ip A}
    (hf : Goes P (f .resolvConf) Q) :
    Goes P (findBackend r.onResolvConf name >>= f : Op Ip A) Q := by
  rw [findBackend_onResolvConf]
  exact hf

theorem goes_restore (hfile : ∀ previous, Goes (K previous)
      (ResolvConf.restore L r.onResolvConf previous) fun _ => Holds content) :
    Goes (Recorded L K) (restore L r.onResolvConf) fun _ => Holds content := by
  intro w hw cached t _ ht
  obtain ⟨rfl, rfl⟩ := getState_eq_some ht
  refine ⟨trivial, goes_bind (Q := fun resolved => K resolved.2) (P := (· = t)) ?_
    (fun resolved => ?_) t rfl⟩
  · -- the record in memory, or else the marker
    rintro w rfl
    cases hstate : w.state with
    | some applied => exact hw.1 applied hstate
    | none =>
      refine goes_bind goes_load (fun loaded => ?_) w (hw.2 hstate)
      cases loaded with
      | none => exact fun _ _ => trivial
      | some marker => exact fun _ h => h
  refine goes_findBackend_bind (goes_bind (hfile _) fun _ => goes_of_uses ?_)
  have hmarker : FileId.marker ≠ .resolvConf := by decide
  exact uses_bindE (uses_call trivial) fun _ =>
    uses_bindE (uses_attempt (uses_delete hmarker)) fun _ => trivial

theorem goes_recoverFromCrash (hfile : ∀ previous, Goes (K previous)
      (ResolvConf.restore L r.onResolvConf previous) fun _ => Holds content) :
    Goes (Marked L K) (recoverFromCrash L r.onResolvConf)
      fun outcome w => outcome = .recovered → Holds content w := by
  refine goes_bind goes_load fun loaded => ?_
  cases loaded with
  | none => exact fun _ _ h => (by cases h)
  | some marker =>
    have hback : Goes (K (marker.parseServers L))
        (do
          let b ← findBackend r.onResolvConf marker.backend
          b.restore L r.onResolvConf (marker.parseServers L)
          MarkerStore.delete r.onResolvConf
          Sys.setState none
          return .recovered : Op Ip Outcome) fun _ => Holds content := by
      refine goes_findBackend_bind (goes_bind (hfile _) fun _ => goes_of_uses ?_)
      exact uses_bindE (uses_delete (by decide : FileId.marker ≠ .resolvConf)) fun _ =>
        uses_bindE (uses_call trivial) fun _ => trivial
    exact fun w hw => (hback w hw).mono fun a t ht => ht.mono fun _ hholds _ => hholds

end PutBack

/-! ### A restore that meets no failure -/

section Smooth

variable {L : ResolverLib Ip} {r : SysResolver} {w : World Ip}

def smooth : (e : Effect Ip) → World Ip → Answer e × World Ip
  | .dirExists, w | .isAvailable, w => (true, w)
  | .createDir, w | .chmod _ _, w => (.ok (), w)
  | .openTruncate file purpose, w => (.ok (), w.openTruncate file purpose (.ok ()))
  | .writeAll file purpose data, w => (.ok (), w.writeAll file purpose data (.ok ()))
  | .read file, w => ((w.files file).elim .notFound .content, w)
  | .remove file, w =>
    if w.files file = none then (.notFound, w) else (.ok, w.setFile file none)
  | .quarantine _, w => (.ok (), w.quarantine (.ok ()))
  | .now, w => ((0 : Nat), w)
  | .readNetDir, w => (.ok w.links, w)
  | .setLinkDns index _, w | .setLinkDefaultRoute index _, w =>
    if index ∈ w.linkIndices then (.ok (), w.change (.link index)) else (.error ⟨"", 0⟩, w)
  | .revertLink index, w => (.ok (), w.revertLink index (.ok ()))
  | .getState, w => (w.state, w)
  | .setState state, w => ((), w.setMemory state)

theorem act_smooth [DecidableEq Ip] (e : Effect Ip) (w : World Ip) :
    act w e (smooth e w).1 = some (smooth e w).2 := by
  have hlink : ∀ index : Int, w.configureLink index
      (if index ∈ w.linkIndices then (Except.ok (), w.change (.link index))
        else (Except.error ⟨"", 0⟩, w)).1 = some (if index ∈ w.linkIndices then
          ((Except.ok (), w.change (.link index)) : Except Fault Unit × World Ip)
        else (Except.error ⟨"", 0⟩, w)).2 := by
    intro index
    by_cases hindex : index ∈ w.linkIndices <;> simp [hindex, World.configureLink]
  cases e with
  | read file =>
    change w.read file ((w.files file).elim .notFound .content) = some w
    cases hfile : w.files file with
    | none => simp [World.read, hfile]
    | some data => simp [World.read, hfile]
  | remove file =>
    by_cases hfile : w.files file = none <;> simp [act, smooth, World.remove, hfile]
  | setLinkDns index servers => exact hlink index
  | setLinkDefaultRoute index enable => exact hlink index
  | readNetDir => exact if_pos rfl
  | getState => exact if_pos rfl
  | _ => rfl

theorem exec_read (file : FileId) (w : World Ip) :
    Prog.exec smooth (Sys.read file : Op Ip ReadAnswer) w =
      (.ok ((w.files file).elim .notFound .content), w) := rfl

variable (r) in
theorem exec_delete (w : World Ip) :
    ∃ w', Prog.exec smooth (MarkerStore.delete r) w = (.ok (), w') := by
  rw [MarkerStore.delete]
  by_cases hfile : w.files .marker = none
  · exact ⟨w, exec_call_bind.trans (by simp only [smooth, if_pos hfile]; rfl)⟩
  · exact ⟨_, exec_call_bind.trans (by simp only [smooth, if_neg hfile]; rfl)⟩

variable (L r) in
theorem exec_restoreFile (fallback : List Ip) (w : World Ip) :
    ∃ w', Prog.exec smooth (ResolvConf.restore L r fallback) w = (.ok (), w') := by
  rw [ResolvConf.restore]
  cases hbackup : w.files .backup with
  | none => exact ⟨_, (exec_bind_ok (exec_read .backup w)).trans (by rw [hbackup]; rfl)⟩
  | some data => exact ⟨_, (exec_bind_ok (exec_read .backup w)).trans (by rw [hbackup]; rfl)⟩

theorem exec_findBackend (name : String) (w : World Ip) :
    Prog.exec smooth (findBackend r.onResolvConf name : Op Ip Backend) w =
      (.ok .resolvConf, w) := by
  rw [findBackend_onResolvConf]
  rfl

def World.Records (L : ResolverLib Ip) (w : World Ip) (servers : List Ip) : Prop :=
  (∃ name, w.state = some ⟨name, servers⟩) ∨
    w.state = none ∧ ∃ m, w.LoadsMarker L m ∧ m.parseServers L = servers

theorem exec_load {m : Marker} (hm : w.LoadsMarker L m) :
    Prog.exec smooth (MarkerStore.load L r : Op Ip (Option Marker)) w = (.ok (some m), w) := by
  obtain ⟨data, hdata, hdecode⟩ := hm
  rw [MarkerStore.load, exec_bind_ok (exec_read .marker w), hdata, Option.elim_some]
  simp only [hdecode]
  rfl

theorem exec_restore {servers : List Ip} (hrecords : w.Records L servers) :
    ∃ w', Prog.exec smooth (restore L r.onResolvConf) w = (.ok .restored, w') := by
  obtain ⟨w₁, hback⟩ := exec_restoreFile L r.onResolvConf servers w
  obtain ⟨w₂, hdelete⟩ := exec_delete r.onResolvConf (w₁.setMemory none)
  refine ⟨w₂, exec_call_bind.trans ?_⟩
  obtain ⟨name, hstate⟩ | ⟨hstate, m, hm, rfl⟩ := hrecords <;>
    rw [show (smooth Effect.getState w).1 = _ from hstate]
  on_goal 2 => refine (exec_bind_ok (exec_bind_ok (exec_load hm))).trans ?_
  all_goals
    refine (exec_bind_ok (exec_findBackend _ w)).trans ((exec_bind_ok hback).trans ?_)
    refine exec_attempt_bind.trans ?_
    exact congrArg (fun x => (Except.ok Outcome.restored, x.2)) hdelete

theorem exec_recoverFromCrash {m : Marker} (hm : w.LoadsMarker L m) :
    ∃ w', Prog.exec smooth (recoverFromCrash L r.onResolvConf) w = (.ok .recovered, w') := by
  obtain ⟨w₁, hback⟩ := exec_restoreFile L r.onResolvConf (m.parseServers L) w
  obtain ⟨w₂, hdelete⟩ := exec_delete r.onResolvConf w₁
  refine ⟨w₂.setMemory none, (exec_bind_ok (exec_load hm)).trans ?_⟩
  refine (exec_bind_ok (exec_findBackend m.backend w)).trans ((exec_bind_ok hback).trans ?_)
  exact exec_bind_ok hdelete

end Smooth

section Runs

variable [DecidableEq Ip] {L : ResolverLib Ip} {r : SysResolver} {s : Traced Ip}

def Traced.HasCopy (L : ResolverLib Ip) (s : Traced Ip) : Prop :=
  (s.world.Loads L → s.marker.content ≠ none → s.backup ≠ none) ∧
    (s.world.state ≠ none → s.memory.content ≠ none → s.backup ≠ none)

omit [DecidableEq Ip] in
theorem Known.hasCopy (h : Known L s) : s.HasCopy L := by
  have hcopy : ∀ {o : Origin} {present : Prop}, o.Known s.kept s.backup present → present →
      o.content ≠ none → s.backup ≠ none := by
    intro o present ho hpresent hsome
    cases hcurrent : o.current with
    | false => exact h.backup (ho.earlier hcurrent hpresent).2
    | true =>
      rw [ho.own hcurrent hsome]
      exact hsome
  exact ⟨hcopy h.marker, hcopy h.memory⟩

variable {content : Option Bytes} {w : World Ip}

theorem leavesFile_restore (h : Recorded L (fun _ => Copied content) w) :
    LeavesFile .restored content (restore L r.onResolvConf) w := by
  refine (goes_restore goes_restoreCopied w h).mono fun result t ht => ?_
  rintro rfl
  exact ht

theorem leavesFile_recoverFromCrash (h : Marked L (fun _ => Copied content) w) :
    LeavesFile .recovered content (recoverFromCrash L r.onResolvConf) w := by
  refine (goes_recoverFromCrash goes_restoreCopied w h).mono fun result t ht => ?_
  rintro rfl
  exact ht rfl

theorem LeavesFile.copied {outcome : Outcome} {q : Op Ip Outcome}
    (h : LeavesFile outcome content q w) (hexec : ∃ w', Prog.exec smooth q w = (.ok outcome, w'))
    (hback : w.files .backup ≠ none → LeavesFile outcome (w.files .backup) q w)
    (hcopy : content ≠ none → w.files .backup ≠ none) : Copied content w := by
  obtain ⟨w', hexec⟩ := hexec
  have hleaves := Safe.exec act_smooth (fun _ _ => trivial) h
  rw [hexec] at hleaves
  obtain ⟨hsome, hcontent⟩ := hleaves rfl
  have hbackup := Safe.exec act_smooth (fun _ _ => trivial) (hback (hcopy hsome))
  rw [hexec] at hbackup
  exact ⟨hsome, (hbackup rfl).2.symm.trans hcontent⟩

/-- **What is put back is right** exactly if the copy and the records are of the same moment. -/
theorem putsBack_iff (hcopy : s.HasCopy L) : s.PutsBack L r ↔ s.Agrees L := by
  constructor
  · rintro ⟨hrestore, hrecover⟩
    refine ⟨fun hloads => ?_, fun hstate => ?_⟩
    · have ⟨data, m, hm⟩ := hloads
      exact hrecover.copied (exec_recoverFromCrash ⟨data, hm⟩)
        (fun h => leavesFile_recoverFromCrash fun _ _ => ⟨h, rfl⟩) (hcopy.1 hloads)
    · obtain ⟨applied, happlied⟩ := Option.ne_none_iff_exists'.mp hstate
      rw [Traced.record, if_neg hstate] at hrestore
      exact hrestore.copied (exec_restore (L := L) (.inl ⟨applied.backend, happlied⟩))
        (fun h => leavesFile_restore ⟨fun _ _ => ⟨h, rfl⟩, fun _ _ _ => ⟨h, rfl⟩⟩)
        (hcopy.2 hstate)
  · rintro ⟨hmarker, hmemory⟩
    have hmarked : Marked L (fun _ => Copied s.marker.content) s.world :=
      fun m hm => hm.elim fun data hdata => hmarker ⟨data, m, hdata⟩
    refine ⟨leavesFile_restore ⟨fun applied happlied => ?_, fun hstate => ?_⟩,
      leavesFile_recoverFromCrash hmarked⟩
    · have hstate : s.world.state ≠ none := by simp [happlied]
      rw [Traced.record, if_neg hstate]
      exact hmemory hstate
    · rw [Traced.record, if_pos hstate]
      exact hmarked

/-! ### The end of an apply -/

theorem agrees_finish_iff (h : Known L s) (result : Except SysResolverError Outcome) :
    ((applies L r).finish result s).Agrees L ↔ s.EndsWell L := h.agrees_iff

theorem agrees_crash_iff (h : Known L s) :
    ((applies L r).crash s).Agrees L ↔ s.CrashesWell L := by
  refine Iff.trans ?_ (forall_congr' h.marker.matches_iff)
  exact and_iff_left fun hstate => absurd rfl hstate

theorem hasCopy_finish (h : Known L s) (result : Except SysResolverError Outcome) :
    ((applies L r).finish result s).HasCopy L := h.hasCopy

theorem hasCopy_crash (h : Known L s) : ((applies L r).crash s).HasCopy L :=
  ⟨h.hasCopy.1, fun hstate => absurd rfl hstate⟩

omit [DecidableEq Ip] in
theorem rest_start (live backup : Option Bytes) : Rest L (.start live backup : Traced Ip) := by
  refine Traced.Agrees.rest ⟨?_, fun hstate => absurd rfl hstate⟩ rfl rfl rfl
  rintro ⟨data, m, hdata, -⟩
  cases hdata

abbrev ApplyProcess (Ip : Type) :=
  Process (Traced Ip) (Effect Ip) Answer (Except SysResolverError Outcome)

abbrev ApplyLabel (Ip : Type) := CrashLabel (Effect Ip) Answer (List Ip) (Option Bytes)

theorem idle_iff_endsWell {P : Traced Ip → Prop}
    (hP : ∀ s : Traced Ip, s.HasCopy L → (P s ↔ s.Agrees L)) {live backup : Option Bytes}
    {p : ApplyProcess Ip} {labels : List (ApplyLabel Ip)}
    (hr : run (applies L r).step ⟨.start live backup, none⟩ labels = some p) :
    Throughout (applies L r).step (fun p => p.running = none → P p.world)
        ⟨.start live backup, none⟩ labels ↔
      Along (applies L r).step
        ((applies L r).Ends (fun _ s => s.EndsWell L) fun s => s.CrashesWell L)
        ⟨.start live backup, none⟩ labels := by
  refine CrashMachine.idle_iff (I := Rest L) (J := Known L) (fun _ h => h.toKnown)
    (fun s h => (hP s h.toKnown.hasCopy).mpr h.agrees) ?_ ?_ ?_ (rest_start live backup) hr
  · intro servers s hs
    refine (traces_apply servers s hs.toBefore).mono fun result t ht => ?_
    rw [hP _ (hasCopy_finish ht result), agrees_finish_iff ht]
    exact ⟨Iff.rfl, fun h => ((agrees_finish_iff ht result).mpr h).rest rfl rfl rfl⟩
  · intro s hs
    rw [hP _ (hasCopy_crash hs), agrees_crash_iff hs]
    exact ⟨Iff.rfl, fun h => ((agrees_crash_iff hs).mpr h).rest rfl rfl rfl⟩
  · rintro content s t hs ⟨⟩
    exact { hs with }

/-- **The copy and the records** agree, and are put back, exactly if every apply ends well. -/
theorem agrees_and_putsBack_iff (L : ResolverLib Ip) (r : SysResolver)
    {live backup : Option Bytes} {p : ApplyProcess Ip} {labels : List (ApplyLabel Ip)}
    (hr : run (applies L r).step ⟨.start live backup, none⟩ labels = some p) :
    (Throughout (applies L r).step (fun p => p.running = none → p.world.Agrees L)
        ⟨.start live backup, none⟩ labels ↔
      Along (applies L r).step
        ((applies L r).Ends (fun _ s => s.EndsWell L) fun s => s.CrashesWell L)
        ⟨.start live backup, none⟩ labels) ∧
    (Throughout (applies L r).step (fun p => p.running = none → p.world.PutsBack L r)
        ⟨.start live backup, none⟩ labels ↔
      Along (applies L r).step
        ((applies L r).Ends (fun _ s => s.EndsWell L) fun s => s.CrashesWell L)
        ⟨.start live backup, none⟩ labels) :=
  ⟨idle_iff_endsWell (fun _ _ => Iff.rfl) hr, idle_iff_endsWell (fun _ h => putsBack_iff h) hr⟩

end Runs

def resolvFile : SysResolver where
  backends := [.resolvConf]
  dataDir := "/d"
  markerPath := "/d/dns-applied.json"
  backupPath := "/d/resolv.conf.backup"
  resolvConfPath := "/etc/resolv.conf"

def replies (found : Bytes) (opened : Except Fault Unit) : (e : Effect Nat) → Answer e
  | .openTruncate .marker _ => opened
  | e => answers (.content found) (fun _ => .ok ()) e

def appliedOnce : List (ApplyLabel Nat) :=
  .call [9] :: List.replicate 13 (.answer (replies [65] (.ok ()))) ++ [.crash]

theorem putsBack_appliedOnce :
    Throughout (applies numbers resolvFile).step
      (fun p => p.running = none → p.world.PutsBack numbers resolvFile)
      ⟨.start (some [65]) none, none⟩ appliedOnce :=
  (agrees_and_putsBack_iff numbers resolvFile
    (Option.some_get (by decide +kernel)).symm).2.mpr (by decide +kernel)

def changedFile : Bytes := numbers.encodeUtf8 (formatResolvConf numbers [9])

def secondFails : List (ApplyLabel Nat) :=
  .call [9] :: List.replicate 13 (.answer (replies [65] (.ok ()))) ++
    .call [8] :: List.replicate 7 (.answer (replies changedFile (.error ⟨"no space left", 0⟩)))

theorem failed_apply_replaces_backup :
    ∃ p, run (applies numbers resolvFile).step ⟨.start (some [65]) none, none⟩ secondFails =
        some p ∧
      p.running.isNone = true ∧ p.world.world.state = some ⟨"resolv.conf", []⟩ ∧
      p.world.memory.content = some [65] ∧
      let restored := Prog.exec smooth (restore numbers resolvFile.onResolvConf) p.world.world
      restored.1 = .ok .restored ∧ restored.2.files .resolvConf = some changedFile ∧
        changedFile ≠ [65] :=
  exists_run (by decide +kernel)

end Penguind.Squawk
