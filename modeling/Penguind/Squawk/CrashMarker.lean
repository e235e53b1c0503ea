import Penguind.Squawk.SysResolver

/-!
# The crash marker covers every change

While a part of the DNS configuration is changed and not put back, a marker that names the backend
is to be on disk after every single effect.
-/

namespace Penguind.Squawk

open Foundation

variable {Ip : Type}

/-- The marker is written and effects fail only while nothing is changed. -/
def CommitsCleanly (w : World Ip) : (e : Effect Ip) → Answer e → Prop
  | .openTruncate file purpose => fun a =>
    (file = .marker → a = .ok () → w.outstanding = []) ∧
      (purpose = .commit → a ≠ .ok () → w.outstanding = [])
  | .writeAll _ purpose _ => fun a => purpose = .commit → a ≠ .ok () → w.outstanding = []
  | .chmod _ purpose => fun a => purpose = .commit → a ≠ .ok () → w.outstanding = []
  | .setLinkDns _ _ => failsCleanly
  | .setLinkDefaultRoute _ _ => failsCleanly
  | .dirExists | .createDir | .read _ | .remove _ | .quarantine _ | .now | .isAvailable
  | .readNetDir | .revertLink _ | .getState | .setState _ => fun _ => True
where
  failsCleanly : Except Fault Unit → Prop
    | .ok () => True
    | .error fault => fault.progress = 0 ∧ w.outstanding = []

instance : DecidableEq (Except Fault Unit)
  | .ok (), .ok () => .isTrue rfl
  | .error a, .error b =>
    if h : a = b then .isTrue (h ▸ rfl) else .isFalse fun h' => h (Except.error.inj h')
  | .ok (), .error _ => .isFalse nofun
  | .error _, .ok () => .isFalse nofun

instance (w : World Ip) (a : Except Fault Unit) : Decidable (CommitsCleanly.failsCleanly w a) :=
  match a with
  | .ok () => .isTrue trivial
  | .error fault => inferInstanceAs (Decidable (fault.progress = 0 ∧ w.outstanding = []))

instance (w : World Ip) : ∀ (e : Effect Ip) (a : Answer e), Decidable (CommitsCleanly w e a)
  | .openTruncate file purpose, (a : Except Fault Unit) => inferInstanceAs (Decidable
      ((file = .marker → a = .ok () → w.outstanding = []) ∧
        (purpose = .commit → a ≠ .ok () → w.outstanding = [])))
  | .writeAll _ purpose _, (a : Except Fault Unit) | .chmod _ purpose, (a : Except Fault Unit) =>
    inferInstanceAs (Decidable (purpose = .commit → a ≠ .ok () → w.outstanding = []))
  | .setLinkDns _ _, (a : Except Fault Unit) | .setLinkDefaultRoute _ _, (a : Except Fault Unit) =>
    inferInstanceAs (Decidable (CommitsCleanly.failsCleanly w a))
  | .dirExists, _ | .createDir, _ | .read _, _ | .remove _, _ | .quarantine _, _ | .now, _
  | .isAvailable, _ | .readNetDir, _ | .revertLink _, _ | .getState, _ | .setState _, _ =>
    .isTrue trivial

/-! ## The view

What the statements speak about: the marker, the links, the in-memory record, the changes and the
reports.  The other files do not matter for them. -/

structure View (Ip : Type) where
  marker : Option Bytes
  links : List Link
  state : Option (AppliedState Ip)
  outstanding : List Part
  reports : List (Except SysResolverError Outcome × Bool)

def World.view (w : World Ip) : View Ip :=
  ⟨w.files .marker, w.links, w.state, w.outstanding, w.reports⟩

def View.linkIndices (v : View Ip) : List Int :=
  (v.links.filter (·.name ≠ loopback)).map Link.index

section Answers

variable {w t : World Ip} {file : FileId}

theorem read_eq_some {a : ReadAnswer} (h : w.read file a = some t) :
    t = w ∧ (a = .notFound → w.files file = none) ∧
      ∀ data, a = .content data → w.files file = some data := by
  cases a with
  | content data =>
    obtain ⟨hdata, rfl⟩ := by simpa [World.read] using h
    exact ⟨rfl, nofun, by rintro _ ⟨⟩; exact hdata⟩
  | notFound =>
    obtain ⟨hnone, rfl⟩ := by simpa [World.read] using h
    exact ⟨rfl, fun _ => hnone, nofun⟩
  | failed message =>
    cases h
    exact ⟨rfl, nofun, nofun⟩

theorem remove_cases {a : RemoveAnswer} (h : w.remove file a = some t) :
    t = w ∨ t = w.setFile file none := by
  cases a with
  | ok =>
    simp only [World.remove, Option.ite_none_left_eq_some, Option.some.injEq] at h
    exact .inr h.2.symm
  | notFound =>
    simp only [World.remove, Option.ite_none_right_eq_some, Option.some.injEq] at h
    exact .inl h.2.symm
  | failed message =>
    cases h
    exact .inl rfl

theorem getState_eq_some [DecidableEq Ip] {state : Option (AppliedState Ip)}
    (h : w.getState state = some t) : state = w.state ∧ t = w := by
  simp only [World.getState, Option.ite_none_right_eq_some, Option.some.injEq] at h
  exact ⟨h.1, h.2.symm⟩

end Answers

/-! ## Assertions -/

section Assertions

variable (L : ResolverLib Ip) (r : SysResolver)

def MarkerNames (v : View Ip) (name : String) : Prop :=
  ∃ data m, v.marker = some data ∧ L.decodeMarker data = .ok m ∧ m.backend = name

def RecoveriesRight (v : View Ip) : Prop :=
  ∀ x ∈ v.reports, x.1 = .ok .nothingToRecover → x.2 = false

/-- **The property.** A marker names the backend of every change, and recovery is right to report
nothing. -/
structure Covered (v : View Ip) : Prop where
  marker : ∀ p ∈ v.outstanding, MarkerNames L v p.backend.name
  backend : ∀ p ∈ v.outstanding, p.backend ∈ r.backends
  links : ∀ i, Part.link i ∈ v.outstanding → i ∈ v.linkIndices
  recoveries : RecoveriesRight v

structure Idle (v : View Ip) : Prop extends Covered L r v where
  state : ∀ a ∈ v.state, ∀ p ∈ v.outstanding, a.backend = p.backend.name

structure Clean (v : View Ip) : Prop where
  outstanding : v.outstanding = []
  recoveries : RecoveriesRight v

structure Committing (b : Backend) (v : View Ip) : Prop where
  marker : MarkerNames L v b.name
  parts : ∀ p ∈ v.outstanding, p.backend = b
  backend : b ∈ r.backends
  links : ∀ i, Part.link i ∈ v.outstanding → i ∈ v.linkIndices
  recoveries : RecoveriesRight v

structure Restoring (b : Backend) (v : View Ip) : Prop extends Idle L r v where
  parts : ∀ p ∈ v.outstanding, p.backend = b

variable {L r} {v : View Ip} {b : Backend}

theorem Clean.idle (h : Clean v) : Idle L r v where
  marker p hp := by rw [h.outstanding] at hp; cases hp
  backend p hp := by rw [h.outstanding] at hp; cases hp
  links i hi := by rw [h.outstanding] at hi; cases hi
  recoveries := h.recoveries
  state a ha p hp := by rw [h.outstanding] at hp; cases hp

theorem Idle.clean (h : Idle L r v) (ho : v.outstanding = []) : Clean v := ⟨ho, h.recoveries⟩

theorem Committing.covered (h : Committing L r b v) : Covered L r v where
  marker p hp := (h.parts p hp).symm ▸ h.marker
  backend p hp := (h.parts p hp).symm ▸ h.backend
  links := h.links
  recoveries := h.recoveries

theorem Committing.clean (h : Committing L r b v) (ho : v.outstanding = []) : Clean v :=
  ⟨ho, h.recoveries⟩

theorem Committing.change (h : Committing L r b v) {p : Part} (hp : p.backend = b)
    (hl : ∀ i, p = .link i → i ∈ v.linkIndices) :
    Committing L r b { v with outstanding := p :: v.outstanding } where
  marker := h.marker
  parts q hq := by
    rcases List.mem_cons.mp hq with rfl | hq
    · exact hp
    · exact h.parts q hq
  backend := h.backend
  links i hi := by
    rcases List.mem_cons.mp hi with hi | hi
    · exact hl i hi.symm
    · exact h.links i hi
  recoveries := h.recoveries

theorem Restoring.putBack (h : Restoring L r b v) (p : Part) :
    Restoring L r b { v with outstanding := v.outstanding.filter (· ≠ p) } := by
  have hsub : ∀ q ∈ v.outstanding.filter (· ≠ p), q ∈ v.outstanding :=
    fun q hq => List.mem_of_mem_filter hq
  exact
    { marker := fun q hq => h.marker q (hsub q hq)
      backend := fun q hq => h.backend q (hsub q hq)
      links := fun i hi => h.links i (hsub _ hi)
      recoveries := h.recoveries
      state := fun a ha q hq => h.state a ha q (hsub q hq)
      parts := fun q hq => h.parts q (hsub q hq) }

end Assertions

section Specs

variable [DecidableEq Ip] (L : ResolverLib Ip) (r : SysResolver) {A B : Type}

def Spec (P : View Ip → Prop) (p : Op Ip A) (Q : Except SysResolverError A → View Ip → Prop) :
    Prop :=
  Triple act (fun w => Covered L r w.view) CommitsCleanly (fun w => P w.view) p
    fun a w => Q a w.view

def Post (ok : A → View Ip → Prop) (err : View Ip → Prop) :
    Except SysResolverError A → View Ip → Prop
  | .ok a, v => ok a v
  | .error _, v => err v

def Answered (ok err : View Ip → Prop) : Except Fault Unit → View Ip → Prop
  | .ok (), v => ok v
  | .error _, v => err v

variable {L r} {P : View Ip → Prop} {p : Op Ip A}

theorem Spec.bind {f : A → Op Ip B} {ok : A → View Ip → Prop} {err : View Ip → Prop}
    {Q : Except SysResolverError B → View Ip → Prop} (h : Spec L r P p (Post ok err))
    (hok : ∀ a, Spec L r (ok a) (f a) Q) (herr : ∀ e v, err v → Q (.error e) v) :
    Spec L r P (p >>= f : Op Ip B) Q :=
  Triple.bind h hok fun e s => herr e s.view

theorem Spec.conseq {P' : View Ip → Prop} {Q Q' : Except SysResolverError A → View Ip → Prop}
    (h : Spec L r P p Q) (hP : ∀ v, P' v → P v) (hQ : ∀ a v, Q a v → Q' a v) :
    Spec L r P' p Q' :=
  Triple.conseq h (fun s => hP s.view) fun a s => hQ a s.view

theorem Spec.attempt {Q : Except SysResolverError (Except SysResolverError A) → View Ip → Prop}
    (h : Spec L r P p fun a => Q (.ok a)) :
    Spec L r P (ProgE.attempt p : Op Ip (Except SysResolverError A)) Q :=
  Triple.attempt h

/-! ### Programs that keep the view -/

variable {S : Effect Ip → Prop}

omit [DecidableEq Ip] in
theorem uses_orIo (context : String) (a : Except Fault Unit) :
    Prog.Uses S (orIo context a : Op Ip Unit) := by
  cases a with
  | ok u => exact trivial
  | error fault => exact trivial

omit [DecidableEq Ip] in
theorem uses_createDirAllOwnerOnly (hexists : S .dirExists) (hcreate : S .createDir) :
    Prog.Uses S (createDirAllOwnerOnly r : Op Ip Unit) := by
  refine uses_bindE (uses_call hexists) fun existing => ?_
  cases existing with
  | true => exact trivial
  | false => exact uses_bindE (uses_call hcreate) fun created => uses_orIo _ created

omit [DecidableEq Ip] in
theorem uses_writeOwnerOnly {file : FileId} {purpose : Purpose} {data : Bytes}
    (hopen : S (.openTruncate file purpose)) (hwrite : S (.writeAll file purpose data))
    (hmode : S (.chmod file purpose)) :
    Prog.Uses S (writeOwnerOnly r file purpose data : Op Ip Unit) := by
  refine uses_bindE (uses_call hopen) fun opened => uses_bindE (uses_orIo _ opened) fun _ => ?_
  refine uses_bindE (uses_call hwrite) fun written => uses_bindE (uses_orIo _ written) fun _ => ?_
  exact uses_bindE (uses_call hmode) fun moded => uses_orIo _ moded

def Unseen : Effect Ip → Prop
  | .dirExists | .createDir | .chmod _ _ | .read _ | .now | .isAvailable => True
  | .openTruncate file _ | .writeAll file _ _ | .remove file => file = .backup
  | _ => False

theorem Unseen.view_eq {w t : World Ip} {e : Effect Ip} {a : Answer e} (he : Unseen e)
    (ht : act w e a = some t) : t.view = w.view := by
  cases e with
  | dirExists | createDir | chmod | now | isAvailable =>
    cases ht
    rfl
  | read file => rw [(read_eq_some ht).1]
  | openTruncate | writeAll =>
    cases he
    cases ht
    cases a <;> rfl
  | remove file =>
    cases he
    obtain rfl | rfl := remove_cases ht <;> rfl
  | _ => exact he.elim

theorem spec_of_uses (hp : Prog.Uses Unseen p) (hP : ∀ v, P v → Covered L r v) :
    Spec L r P p (Post (fun _ => P) P) := by
  intro w hw
  refine (hp.safe (I := fun w => P w.view) (fun w e a t hw he ht => he.view_eq ht ▸ hw)
    (fun w => hP w.view) hw).mono fun a t ht => ?_
  cases a <;> exact ht

omit [DecidableEq Ip] in
theorem uses_snapshot (b : Backend) : Prog.Uses Unseen (b.snapshot L r : Op Ip (List Ip)) := by
  cases b with
  | resolved =>
    refine uses_bindE (uses_call trivial) fun available => ?_
    cases available with
    | true => exact trivial
    | false => exact trivial
  | resolvConf =>
    refine uses_bindE (uses_call trivial) fun found => ?_
    cases found with
    | notFound | failed => exact trivial
    | content content => exact uses_bindE (uses_writeOwnerOnly rfl rfl trivial) fun _ => trivial

theorem spec_selectAndSnapshot (lastErr : SysResolverError) (hP : ∀ v, P v → Covered L r v)
    (bs : List Backend) (hbs : ∀ b ∈ bs, b ∈ r.backends) :
    Spec L r P (selectAndSnapshot L r lastErr bs)
      (Post (fun x v => x.1 ∈ r.backends ∧ P v) P) := by
  -- a snapshot that fails leaves the host alone, so the next backend starts from the same view
  induction bs generalizing lastErr with
  | nil => exact fun _ h => h
  | cons b bs ih =>
    refine (spec_of_uses (uses_attempt (uses_snapshot b)) hP).bind (fun attempt => ?_)
      fun _ _ => id
    cases attempt with
    | ok previous => exact fun w hw => ⟨hbs b (by simp), hw⟩
    | error err => exact ih err fun b hb => hbs b (List.mem_cons_of_mem _ hb)

/-! ### The marker -/

theorem spec_write (m : Marker) :
    Spec L r (Idle L r) (MarkerStore.write L r m)
      (Post (fun _ v => Clean v ∧ v.marker = some (L.encodeMarker m)) (Idle L r)) := by
  refine (spec_of_uses (uses_createDirAllOwnerOnly trivial trivial) fun _ h => h.toCovered).bind
    (fun _ => ?_) fun _ _ => id
  rintro w hw (fault | opened) t hc ⟨⟩
  · exact ⟨hw.toCovered, hw⟩
  -- the condition allows to empty the marker only while nothing is changed
  have hclean : ∀ data, Clean (w.setFile .marker data).view :=
    fun _ => ⟨hc.1 rfl rfl, hw.recoveries⟩
  refine ⟨(hclean _).idle.toCovered, ?_⟩
  rintro (fault | written) t - ⟨⟩
  · exact ⟨(hclean (some (_ : Bytes))).idle.toCovered, (hclean _).idle⟩
  refine ⟨(hclean _).idle.toCovered, ?_⟩
  rintro (fault | moded) t - ⟨⟩
  · exact ⟨(hclean _).idle.toCovered, (hclean _).idle⟩
  · exact ⟨(hclean _).idle.toCovered, hclean _, rfl⟩

def Harmless : Effect Ip → Prop
  | .remove _ | .quarantine _ | .now | .setState _ => True
  | _ => False

theorem spec_clean (hp : Prog.Uses Harmless p) :
    Spec L r Clean p (Post (fun _ => Clean) Clean) := by
  intro w hw
  refine (hp.safe (I := fun w : World Ip => Clean w.view) (fun w e a t hw he ht => ?_)
    (fun _ h => h.idle.toCovered) hw).mono fun a t ht => by cases a <;> exact ht
  cases e with
  | now | setState =>
    cases ht
    exact ⟨hw.outstanding, hw.recoveries⟩
  | quarantine stamp =>
    cases ht
    cases a <;> exact ⟨hw.outstanding, hw.recoveries⟩
  | remove file =>
    obtain rfl | rfl := remove_cases ht
    · exact hw
    · exact ⟨hw.outstanding, hw.recoveries⟩
  | _ => exact he.elim

omit [DecidableEq Ip] in
theorem uses_delete (hS : S (.remove .marker)) :
    Prog.Uses S (MarkerStore.delete r : Op Ip Unit) := by
  refine uses_bindE (uses_call hS) fun removed => ?_
  cases removed with
  | ok | notFound | failed => exact trivial

/-- A missing marker means no changes, and a marker names the backend of every change. -/
def Loaded (L : ResolverLib Ip) (r : SysResolver) : Option Marker → View Ip → Prop
  | none, v => Clean v
  | some m, v => Idle L r v ∧ ∀ p ∈ v.outstanding, m.backend = p.backend.name

/-- A marker that cannot be read is moved away only while nothing is changed. -/
theorem spec_load : Spec L r (Idle L r) (MarkerStore.load L r) (Post (Loaded L r) (Idle L r)) := by
  -- without a marker that can be loaded, nothing is changed
  have hnone : ∀ v : View Ip, Idle L r v → (∀ name, ¬ MarkerNames L v name) → Clean v := by
    intro v hv hno
    refine hv.clean (List.eq_nil_iff_forall_not_mem.mpr fun p hp => ?_)
    exact hno _ (hv.marker p hp)
  -- the answer says what is on disk, and so what is changed
  have hread : Spec L r (Idle L r) (Sys.read .marker)
      (Post (fun a v => Idle L r v ∧
        (a = .notFound → v.marker = none) ∧ ∀ data, a = .content data → v.marker = some data)
        (Idle L r)) := by
    intro w hw a t _ ht
    obtain ⟨rfl, hdisk⟩ := read_eq_some ht
    exact ⟨hw.toCovered, hw, hdisk⟩
  refine hread.bind (fun found => ?_) fun _ _ => id
  rintro w ⟨hi, hn, hc⟩
  cases found with
  | notFound =>
    refine hnone _ hi ?_
    rintro name ⟨data, m, hm, -⟩
    cases (hn rfl).symm.trans hm
  | failed source => exact hi
  | content data =>
    cases hd : L.decodeMarker data with
    | ok m =>
      simp only [hd]
      refine ⟨hi, fun p hp => ?_⟩
      obtain ⟨data', m', hm', hd', hb⟩ := hi.marker p hp
      cases (hc data rfl).symm.trans hm'
      cases hd.symm.trans hd'
      exact hb
    | error source =>
      simp only [hd]
      have hclean : Clean w.view := by
        refine hnone _ hi ?_
        rintro name ⟨data', m', hm', hd', -⟩
        cases (hc data rfl).symm.trans hm'
        cases hd.symm.trans hd'
      have hreport : Prog.Uses Harmless (MarkerStore.quarantineAndReport r source : Op Ip _) :=
        uses_bindE (uses_call trivial) fun _ => uses_bindE (uses_call trivial) fun _ => trivial
      refine (spec_clean hreport w hclean).mono fun a t ht => ?_
      rcases a with err | _ | m
      · exact Clean.idle ht
      · exact ht
      · exact ⟨Clean.idle ht, by simp [Clean.outstanding ht]⟩

/-! ### Commits -/

omit [DecidableEq Ip] in
theorem Committing.configureLink {w t : World Ip} {i : Int} {a : Except Fault Unit}
    (hw : Committing L r .resolved w.view) (hc : CommitsCleanly.failsCleanly w a)
    (ht : w.configureLink i a = some t) :
    Covered L r t.view ∧ Answered (Committing L r .resolved) Clean a t.view := by
  cases a with
  | ok u =>
    simp only [World.configureLink, Option.ite_none_right_eq_some, Option.some.injEq] at ht
    obtain ⟨hi, rfl⟩ := ht
    have h : Committing L r .resolved (w.change (.link i)).view := by
      refine hw.change rfl ?_
      rintro _ ⟨⟩
      exact hi
    exact ⟨h.covered, h⟩
  | error fault =>
    obtain ⟨h0, ho⟩ := hc
    simp only [World.configureLink, h0, if_true, Option.some.injEq] at ht
    subst ht
    exact ⟨hw.covered, hw.clean ho⟩

theorem spec_commitLinks (servers : List Ip) (links : List Link) :
    Spec L r (Committing L r .resolved) (Resolved.commitLinks servers links)
      (Post (fun _ => Committing L r .resolved) Clean) := by
  -- the first call that fails ends the loop, and by the condition nothing was changed before it
  induction links with
  | nil => exact fun _ h => h
  | cons link links ih =>
    intro w hw set t hc ht
    obtain ⟨hcovered, hset⟩ := hw.configureLink hc ht
    refine ⟨hcovered, ?_⟩
    cases set with
    | error fault => exact hset
    | ok u =>
      intro routed t' hc' ht'
      obtain ⟨hcovered', hrouted⟩ := Committing.configureLink hset hc' ht'
      refine ⟨hcovered', ?_⟩
      cases routed with
      | error fault => exact hrouted
      | ok u => exact ih t' hrouted

theorem spec_enumerateLinks (hP : ∀ v, P v → Covered L r v) :
    Spec L r P enumerateLinks
      (Post (fun targets v => P v ∧ ∀ i ∈ v.linkIndices, ∃ link ∈ targets, link.index = i) P) := by
  intro w hw found t _ ht
  have ht : w.readNetDir found = some t := ht
  cases found with
  | error err =>
    cases ht
    exact ⟨hP _ hw, hw⟩
  | ok links =>
    simp only [World.readNetDir, Option.ite_none_right_eq_some, Option.some.injEq] at ht
    obtain ⟨rfl, rfl⟩ := ht
    refine ⟨hP _ hw, hw, fun i hi => ?_⟩
    obtain ⟨link, hlink, rfl⟩ := List.mem_map.mp hi
    exact ⟨link, (List.mem_insertionSort _).mpr hlink, rfl⟩

theorem spec_writeOwnerOnly_commit (data : Bytes) :
    Spec L r (fun v => Clean v ∧ Committing L r .resolvConf v)
      (writeOwnerOnly r .resolvConf .commit data)
      (Post (fun _ => Committing L r .resolvConf) Clean) := by
  rintro w ⟨hclean, hw⟩ (fault | opened) t - ⟨⟩
  · exact ⟨hw.covered, hclean⟩
  have hchanged : Committing L r .resolvConf
      { w.view with outstanding := .resolvConf :: w.view.outstanding } :=
    hw.change rfl (by rintro _ ⟨⟩)
  refine ⟨hchanged.covered, ?_⟩
  rintro (fault | written) t hc ⟨⟩
  · exact ⟨hchanged.covered, hchanged.clean (hc rfl (by rintro ⟨⟩))⟩
  refine ⟨hchanged.covered, ?_⟩
  rintro (fault | moded) t hc ⟨⟩
  · exact ⟨hchanged.covered, hchanged.clean (hc rfl (by rintro ⟨⟩))⟩
  · exact ⟨hchanged.covered, hchanged⟩

theorem spec_commit (servers : List Ip) (b : Backend) :
    Spec L r (fun v => Clean v ∧ Committing L r b v) (b.commit L r servers)
      (Post (fun _ => Committing L r b) Clean) := by
  -- the links are read before the first change, so a failure there has changed nothing either
  cases b with
  | resolvConf => exact spec_writeOwnerOnly_commit _
  | resolved =>
    refine (spec_enumerateLinks fun v hv => hv.2.covered).bind (fun targets => ?_)
      fun _ _ hv => hv.1
    by_cases ht : targets = []
    · simp only [ht, if_true]
      exact fun _ h => h.1.1
    · simp only [ht, if_false]
      exact (spec_commitLinks servers targets).conseq (fun _ h => h.1.2) fun _ _ => id

/-! ### Restores -/

theorem spec_revertLinks (links : List Link) :
    Spec L r (fun v => Restoring L r .resolved v ∧
        ∀ p ∈ v.outstanding, ∃ link ∈ links, p = .link link.index)
      (Resolved.revertLinks links) (Post (fun _ => Clean) (Idle L r)) := by
  -- the invariant of the loop: what is still changed is on a link yet to be reverted
  induction links with
  | nil =>
    rintro w ⟨hw, hlinks⟩
    refine hw.clean (List.eq_nil_iff_forall_not_mem.mpr fun p hp => ?_)
    obtain ⟨link, hlink, -⟩ := hlinks p hp
    cases hlink
  | cons link links ih =>
    rintro w ⟨hw, hlinks⟩ (fault | reverted) t - ⟨⟩
    · have hidle : Idle L r (w.revertLink link.index (.error fault)).view := by
        by_cases h0 : fault.progress = 0
        · rw [World.revertLink, if_pos h0]
          exact hw.toIdle
        · rw [World.revertLink, if_neg h0]
          exact (hw.putBack (.link link.index)).toIdle
      exact ⟨hidle.toCovered, hidle⟩
    · have hput := hw.putBack (.link link.index)
      refine ⟨hput.toCovered, ih _ ⟨hput, fun p hp => ?_⟩⟩
      obtain ⟨hmem, hne⟩ := List.mem_filter.mp hp
      obtain ⟨l, hl, rfl⟩ := hlinks p hmem
      rcases List.mem_cons.mp hl with rfl | hl
      · simp at hne
      · exact ⟨l, hl, rfl⟩

theorem spec_writeOwnerOnly_restore (data : Bytes) :
    Spec L r (Restoring L r .resolvConf) (writeOwnerOnly r .resolvConf .restore data)
      (Post (fun _ => Clean) (Idle L r)) := by
  rintro w hw (fault | opened) t - ⟨⟩
  · exact ⟨hw.toCovered, hw.toIdle⟩
  refine ⟨hw.toCovered, ?_⟩
  rintro (fault | written) t - ⟨⟩
  · exact ⟨hw.toCovered, hw.toIdle⟩
  have hput := hw.putBack .resolvConf
  have hclean : Clean
      { w.view with outstanding := w.view.outstanding.filter (· ≠ .resolvConf) } := by
    refine hput.clean (List.eq_nil_iff_forall_not_mem.mpr fun p hp => ?_)
    obtain ⟨hmem, hne⟩ := List.mem_filter.mp hp
    cases p with
    | link i => exact absurd (hw.parts _ hmem) (by simp [Part.backend])
    | resolvConf => simp at hne
  refine ⟨hput.toCovered, ?_⟩
  rintro (fault | moded) t - ⟨⟩
  · exact ⟨hput.toCovered, hput.toIdle⟩
  · exact ⟨hput.toCovered, hclean⟩

theorem spec_restore (fallbackServers : List Ip) (b : Backend) :
    Spec L r (Restoring L r b) (b.restore L r fallbackServers)
      (Post (fun _ => Clean) (Idle L r)) := by
  cases b with
  | resolved =>
    refine (spec_enumerateLinks fun v hv => hv.toCovered).bind (fun targets => ?_)
      fun _ _ h => h.toIdle
    refine (spec_revertLinks targets).conseq (fun v hv => ⟨hv.1, fun p hp => ?_⟩) fun _ _ => id
    -- a changed link is still there, so the enumeration has found it
    cases p with
    | resolvConf => exact absurd (hv.1.parts _ hp) (by decide)
    | link i =>
      obtain ⟨link, hlink, rfl⟩ := hv.2 i (hv.1.links i hp)
      exact ⟨link, hlink, rfl⟩
  | resolvConf =>
    intro w hw found t _ ht
    obtain ⟨rfl, -⟩ := read_eq_some ht
    refine ⟨hw.toCovered, ?_⟩
    cases found with
    | notFound => exact spec_writeOwnerOnly_restore _ t hw
    | failed source => exact hw.toIdle
    | content backup =>
      have hremove : Prog.Uses Harmless (Sys.remove .backup >>= fun _ => pure () : Op Ip Unit) :=
        uses_bindE (uses_call trivial) fun _ => trivial
      exact (spec_writeOwnerOnly_restore backup).bind (fun _ => (spec_clean hremove).conseq
        (fun _ => id) fun a v hv => by cases a with | ok u => exact hv | error e => exact hv.idle)
        (fun _ _ => id) t hw

theorem spec_findBackend (name : String) :
    Spec L r (fun v => Idle L r v ∧ ∀ p ∈ v.outstanding, name = p.backend.name)
      (findBackend r name : Op Ip Backend) (Post (Restoring L r) (Idle L r)) := by
  unfold findBackend
  cases hf : r.backends.find? (·.name = name) with
  | some b =>
    rintro w ⟨hw, hname⟩
    have hb : b.name = name := by simpa using List.find?_some hf
    exact { hw with parts := fun p hp => Backend.name_injective ((hname p hp).symm.trans hb.symm) }
  | none =>
    -- no backend has the name, so there is no change that could have been made by it
    have hnone : ∀ v, (Idle L r v ∧ ∀ p ∈ v.outstanding, name = p.backend.name) →
        ∀ b, Restoring L r b v := by
      rintro v ⟨hv, hname⟩ b
      refine { hv with parts := fun p hp => ?_ }
      have := List.find?_eq_none.mp hf p.backend (hv.backend p hp)
      exact absurd (hname p hp).symm (by simpa using this)
    cases hh : r.backends.head? with
    | some first => exact fun w hw => hnone w.view hw first
    | none => exact fun w hw => hw.1

def Ended (L : ResolverLib Ip) (r : SysResolver) :
    Except SysResolverError Outcome → View Ip → Prop :=
  Post (fun o v => Idle L r v ∧ (o = .nothingToRecover → v.outstanding = [])) (Idle L r)

omit [DecidableEq Ip] in
theorem ended_of_clean {v : View Ip} {result : Except SysResolverError Outcome}
    (h : Post (fun _ => Clean) Clean result v) : Ended L r result v := by
  cases result with
  | ok o => exact ⟨Clean.idle h, fun _ => Clean.outstanding h⟩
  | error e => exact Clean.idle h

theorem spec_setState_committed (b : Backend) (previous : List Ip) :
    Spec L r (Committing L r b) (Sys.setState (some ⟨b.name, previous⟩))
      (Post (fun _ => Idle L r) (Idle L r)) := by
  rintro w hw a t - ⟨⟩
  have hidle : Idle L r (w.setMemory (some ⟨b.name, previous⟩)).view :=
    { marker := hw.covered.marker
      backend := hw.covered.backend
      links := hw.links
      recoveries := hw.recoveries
      state := by
        rintro _ ⟨⟩ p hp
        rw [hw.parts p hp] }
  exact ⟨hidle.toCovered, hidle⟩

theorem spec_apply (servers : List Ip) :
    Spec L r (Idle L r) (apply L r servers) (Ended L r) := by
  unfold apply
  by_cases hs : servers = []
  · simp only [hs, if_true]
    exact fun _ h => h
  simp only [hs, if_false]
  refine (spec_selectAndSnapshot _ (fun _ h => h.toCovered) r.backends fun _ => id).bind ?_
    fun _ _ => id
  rintro ⟨b, previous⟩
  -- the selected backend is remembered for the commit, through the write of the marker
  rintro w ⟨hb, hw⟩ appliedAt _ - ⟨⟩
  refine ⟨hw.toCovered, (spec_write ⟨previous.map L.showIp, b.name, appliedAt⟩).bind (fun _ => ?_)
    (fun _ _ => id) w hw⟩
  have hcommit : Spec L r
      (fun v => Clean v ∧
        v.marker = some (L.encodeMarker ⟨previous.map L.showIp, b.name, appliedAt⟩))
      (ProgE.attempt (b.commit L r servers))
      (Post (Post (fun _ => Committing L r b) Clean) Clean) := by
    refine Spec.attempt ((spec_commit servers b).conseq (fun v hv => ⟨hv.1, ?_⟩) fun _ _ => id)
    exact
      { marker := ⟨_, _, hv.2, L.decode_encode _, rfl⟩
        parts := fun p hp => by rw [hv.1.outstanding] at hp; cases hp
        backend := hb
        links := fun i hi => by rw [hv.1.outstanding] at hi; cases hi
        recoveries := hv.1.recoveries }
  refine hcommit.bind (fun committed => ?_) fun _ _ h => h.idle
  cases committed with
  -- the commit failed and the marker is deleted: fine, since nothing was changed
  | error err =>
    exact (spec_clean (uses_attempt (uses_delete trivial))).bind (fun _ _ h => h.idle)
      fun _ _ h => h.idle
  | ok u =>
    refine (spec_setState_committed b previous).bind (fun _ _ h => ⟨h, ?_⟩) fun _ _ => id
    rintro ⟨⟩

theorem spec_loadMarkerOrFail :
    Spec L r (Idle L r) (loadMarkerOrFail L r)
      (Post (fun x v => Idle L r v ∧ ∀ p ∈ v.outstanding, x.1 = p.backend.name) (Idle L r)) := by
  refine spec_load.bind (fun loaded => ?_) fun _ _ => id
  cases loaded with
  | none => exact fun _ h => h.idle
  | some m => exact fun _ h => h

theorem spec_restoreRecorded (name : String) (previous : List Ip) :
    Spec L r (fun v => Idle L r v ∧ ∀ p ∈ v.outstanding, name = p.backend.name)
      (do
        let b ← findBackend r name
        b.restore L r previous
        Sys.setState none
        let _cleanup ← ProgE.attempt (MarkerStore.delete r)
        return .restored)
      (Ended L r) := by
  refine (spec_findBackend name).bind (fun b => ?_) fun _ _ => id
  refine (spec_restore previous b).bind (fun _ => ?_) fun _ _ => id
  refine (spec_clean ?_).conseq (fun _ => id) fun a v hv => ?_
  · exact uses_bindE (uses_call trivial) fun _ =>
      uses_bindE (uses_attempt (uses_delete trivial)) fun _ => trivial
  · exact ended_of_clean hv

theorem spec_restoreOperation : Spec L r (Idle L r) (restore L r) (Ended L r) := by
  intro w hw cached t _ ht
  obtain ⟨rfl, rfl⟩ := getState_eq_some ht
  refine ⟨hw.toCovered, ?_⟩
  -- the record in memory is preferred, and `Idle` says that it agrees with the marker
  cases hstate : t.state with
  | none =>
    refine spec_loadMarkerOrFail.bind ?_ (fun _ _ => id) t hw
    rintro ⟨name, previous⟩
    exact spec_restoreRecorded name previous
  | some applied =>
    exact spec_restoreRecorded applied.backend applied.previousServers t
      ⟨hw, hw.state applied hstate⟩

theorem spec_recoverFromCrash : Spec L r (Idle L r) (recoverFromCrash L r) (Ended L r) := by
  refine spec_load.bind (fun loaded => ?_) fun _ _ => id
  cases loaded with
  | none => exact fun _ h => ⟨h.idle, fun _ => h.outstanding⟩
  | some m =>
    refine (spec_findBackend m.backend).bind (fun b => ?_) fun _ _ => id
    refine (spec_restore _ b).bind (fun _ => ?_) fun _ _ => id
    refine (spec_clean ?_).conseq (fun _ => id) fun a v hv => ?_
    · exact uses_bindE (uses_delete trivial) fun _ =>
        uses_bindE (uses_call trivial) fun _ => trivial
    · exact ended_of_clean hv

end Specs

section Runs

variable [DecidableEq Ip] {L : ResolverLib Ip} {r : SysResolver}

theorem spec_program (op : Operation Ip) : Spec L r (Idle L r) (program L r op) (Ended L r) := by
  cases op with
  | apply servers => exact spec_apply servers
  | restore => exact spec_restoreOperation
  | recoverFromCrash => exact spec_recoverFromCrash

theorem Ended.idle_finish {result : Except SysResolverError Outcome} {w : World Ip}
    (h : Ended L r result w.view) : Idle L r ((sysResolver L r).finish result w).view := by
  have hidle : Idle L r w.view := by
    cases result with
    | ok o => exact h.1
    | error e => exact h
  refine { hidle with recoveries := fun x hx hnothing => ?_ }
  rcases List.mem_append.mp hx with hx | hx
  · exact hidle.recoveries x hx hnothing
  · rw [List.mem_singleton] at hx
    subst hx
    have hnothing : result = .ok .nothingToRecover := hnothing
    subst hnothing
    -- the flag noted with the report says whether something was changed
    have ho : w.outstanding = [] := h.2 rfl
    simp [ho]

theorem Covered.idle_crash {w : World Ip} (h : Covered L r w.view) :
    Idle L r ((sysResolver L r).crash w).view :=
  { marker := h.marker
    backend := h.backend
    links := h.links
    recoveries := h.recoveries
    state := by rintro _ ⟨⟩ }

omit [DecidableEq Ip] in
theorem Idle.relink {w : World Ip} (h : Idle L r w.view) (links : List Link) :
    Idle L r (relink links w).view := by
  have hsub : ∀ p ∈ (Squawk.relink links w).outstanding, p ∈ w.outstanding :=
    fun p hp => List.mem_of_mem_filter hp
  exact
    { marker := fun p hp => h.marker p (hsub p hp)
      backend := fun p hp => h.backend p (hsub p hp)
      links := fun i hi => by
        have hlink := List.of_mem_filter hi
        simp only [decide_eq_true_eq] at hlink
        exact hlink
      recoveries := h.recoveries
      state := fun a ha p hp => h.state a ha p (hsub p hp) }

/-- **The marker covers every change**, along the condition, and recovery never misses one. -/
theorem marker_names_every_change {w : World Ip} (ho : w.outstanding = []) (hn : w.reports = [])
    {as : List (CrashLabel (Effect Ip) Answer (Operation Ip) (List Link))}
    (hc : Along (sysResolver L r).step (CrashMachine.Meets CommitsCleanly) ⟨w, none⟩ as)
    {p : Process (World Ip) (Effect Ip) Answer (Except SysResolverError Outcome)}
    (hr : run (sysResolver L r).step ⟨w, none⟩ as = some p) :
    (∀ q ∈ p.world.outstanding, MarkerNames L p.world.view q.backend.name) ∧
      RecoveriesRight p.world.view := by
  have hclean : Clean w.view := by
    refine ⟨ho, fun x hx => ?_⟩
    have hx : x ∈ w.reports := hx
    rw [hn] at hx
    cases hx
  have hcovered : Covered L r p.world.view := by
    -- `Idle` between operations, `Covered` after every effect within one
    refine CrashMachine.crash_invariant (I := fun w => Idle L r w.view)
      (J := fun w => Covered L r w.view) (fun _ h => h.toCovered) (fun op w hw => ?_)
      (fun _ h => h.idle_crash) (fun links w t hw ht => ?_) hclean.idle hc hr
    · exact (spec_program op w hw).mono fun result t h => h.idle_finish
    · cases ht
      exact hw.relink links
  exact ⟨hcovered.marker, hcovered.recoveries⟩

end Runs

def unary (ns : List Nat) : Bytes := ns.flatMap fun n => List.replicate n 1 ++ [0]

def readUnary : Bytes → Nat → List Nat
  | [], _ => []
  | b :: bs, n => if b = 0 then n :: readUnary bs 0 else readUnary bs (n + 1)

theorem readUnary_replicate (n k : Nat) (bs : Bytes) :
    readUnary (List.replicate n 1 ++ 0 :: bs) k = (k + n) :: readUnary bs 0 := by
  induction n generalizing k with
  | zero => simp [readUnary]
  | succ n ih =>
    rw [List.replicate_succ, List.cons_append, readUnary, if_neg (by decide), ih]
    congr 1
    omega

theorem readUnary_unary (ns : List Nat) : readUnary (unary ns) 0 = ns := by
  induction ns with
  | nil => rfl
  | cons n ns ih =>
    have hcons : unary (n :: ns) = List.replicate n 1 ++ 0 :: unary ns := by simp [unary]
    rw [hcons, readUnary_replicate, ih, Nat.zero_add]

def spell (m : Marker) : List Nat :=
  m.appliedAt :: [0].intercalate
    (((m.backend :: m.previousServers).map fun s => s.toList.map fun c => c.toNat + 1) ++ [[]])

def unspell : List Nat → Except String Marker
  | [] => .error "empty"
  | time :: rest =>
    match (rest.splitOn 0).dropLast.map fun l =>
      String.ofList (l.map fun n => Char.ofNat (n - 1)) with
    | [] => .error "no backend"
    | backend :: servers => .ok ⟨servers, backend, time⟩

theorem unspell_spell (m : Marker) : unspell (spell m) = .ok m := by
  have hback : ∀ s : String,
      String.ofList ((s.toList.map fun c => c.toNat + 1).map fun n => Char.ofNat (n - 1)) = s := by
    intro s
    simp [List.map_map, Function.comp_def]
  have hno : ∀ l ∈ ((m.backend :: m.previousServers).map fun s =>
      s.toList.map fun c => c.toNat + 1) ++ [[]], 0 ∉ l := by
    intro l hl
    rcases List.mem_append.mp hl with hl | hl
    · obtain ⟨s, -, rfl⟩ := List.mem_map.mp hl
      simp
    · rw [List.mem_singleton.mp hl]
      exact List.not_mem_nil
  have htexts : (([0].intercalate (((m.backend :: m.previousServers).map fun s =>
      s.toList.map fun c => c.toNat + 1) ++ [[]])).splitOn 0).dropLast.map (fun l =>
      String.ofList (l.map fun n => Char.ofNat (n - 1))) = m.backend :: m.previousServers := by
    rw [List.splitOn_intercalate 0 hno (by simp), List.dropLast_concat, List.map_map]
    exact (List.map_congr_left fun s _ => hback s).trans (List.map_id' _)
  simp only [unspell, spell, htexts]

def numbers : ResolverLib Nat where
  showIp := toString
  parseIp := String.toNat?
  encodeUtf8 s := s.toList.map fun c => c.toNat.toUInt8
  decodeUtf8Lossy bs := bs.map fun b => Char.ofNat b.toNat
  isWhitespace c := c = ' '
  encodeMarker m := unary (spell m)
  decodeMarker bs := unspell (readUnary bs 0)
  decode_encode m := by rw [readUnary_unary, unspell_spell]

def resolvedOnly : SysResolver where
  backends := [.resolved]
  dataDir := "/d"
  markerPath := "/d/dns-applied.json"
  backupPath := "/d/resolv.conf.bak"
  resolvConfPath := "/etc/resolv.conf"

def twoLinks : List Link := [⟨"eth0", 2⟩, ⟨"eth1", 3⟩]

def pristine : World Nat := ⟨fun _ => none, twoLinks, none, [], []⟩

def answers (found : ReadAnswer) (dns : Int → Except Fault Unit) : (e : Effect Nat) → Answer e
  | .dirExists | .isAvailable => true
  | .createDir | .openTruncate _ _ | .writeAll _ _ _ | .chmod _ _ | .quarantine _
  | .setLinkDefaultRoute _ _ | .revertLink _ => Except.ok ()
  | .setLinkDns index _ => dns index
  | .read _ => found
  | .remove _ => RemoveAnswer.ok
  | .now => (7 : Nat)
  | .readNetDir => Except.ok twoLinks
  | .getState => (none : Option (AppliedState Nat))
  | .setState _ => ()

abbrev ResolverLabel := CrashLabel (Effect Nat) Answer (Operation Nat) (List Link)

def crashedApply : List ResolverLabel :=
  .call (.apply [9]) :: List.replicate 8 (.answer (answers .notFound fun _ => .ok ())) ++ [.crash]

theorem crashedApply_covered :
    ∃ p, run (sysResolver numbers resolvedOnly).step ⟨pristine, none⟩ crashedApply = some p ∧
      p.world.outstanding = [.link 2] ∧
      (∀ q ∈ p.world.outstanding, MarkerNames numbers p.world.view q.backend.name) ∧
      RecoveriesRight p.world.view := by
  have hr := (Option.some_get (x := run (sysResolver numbers resolvedOnly).step ⟨pristine, none⟩
    crashedApply) (by decide +kernel)).symm
  exact ⟨_, hr, by decide +kernel, marker_names_every_change rfl rfl (by decide +kernel) hr⟩

def halfCommit : List ResolverLabel :=
  .call (.apply [9]) ::
    List.replicate 11 (.answer (answers .notFound fun index =>
      if index = 2 then .ok () else .error ⟨"no such link", 0⟩)) ++
    [.call .recoverFromCrash, .answer (answers .notFound fun _ => .ok ())]

theorem half_commit_loses_marker :
    ∃ p, run (sysResolver numbers resolvedOnly).step ⟨pristine, none⟩ halfCommit = some p ∧
      .link 2 ∈ p.world.outstanding ∧ p.world.files .marker = none ∧
      p.world.reports.getLast? = some (.ok .nothingToRecover, true) := by
  exact exists_run (by decide +kernel)

end Penguind.Squawk
