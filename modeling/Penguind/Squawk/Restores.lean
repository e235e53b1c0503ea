import Penguind.Squawk.Backup

/-!
# What a restore of the resolver file leaves

An apply copies the resolver file before it writes its own, and a restore writes the copy back.
What a restore puts back is the file that the last apply found.
-/

namespace Penguind.Squawk

open Foundation

variable {Ip : Type} [DecidableEq Ip] {L : ResolverLib Ip} {r : SysResolver}

/-! ## Applies and a restore -/

section Applies

def Unfailing (_ : World Ip) : (e : Effect Ip) → Answer e → Prop
  | .createDir | .openTruncate _ _ | .writeAll _ _ _ | .chmod _ _ | .quarantine _
  | .setLinkDns _ _ | .setLinkDefaultRoute _ _ | .revertLink _ =>
    fun answer : Except Fault Unit => answer = .ok ()
  | .read _ => fun answer : ReadAnswer => ∀ message, answer ≠ .failed message
  | .remove _ => fun answer : RemoveAnswer => ∀ message, answer ≠ .failed message
  | .readNetDir => fun answer : Except SysResolverError (List Link) => answer.isOk = true
  | .dirExists | .isAvailable | .now | .getState | .setState _ => fun _ => True

def applyAll (L : ResolverLib Ip) (r : SysResolver) : List (List Ip) → Op Ip Unit
  | [] => pure ()
  | servers :: rest => do
    let _applied ← apply L r servers
    applyAll L r rest

theorem backup_act {w t : World Ip} {e : Effect Ip} {a : Answer e} (he : AfterSnapshot e)
    (ht : act w e a = some t) : t.files .backup = w.files .backup := by
  cases e with
  | now | dirExists | createDir | chmod | setState =>
    cases ht
    rfl
  | openTruncate file purpose =>
    cases ht
    cases a with
    | error fault => rfl
    | ok u => cases file <;> cases purpose <;> first | rfl | exact absurd rfl he
  | writeAll file purpose data =>
    cases ht
    cases a <;> cases file <;> cases purpose <;> first | rfl | exact absurd rfl he
  | remove file =>
    obtain rfl | rfl := remove_cases ht
    · rfl
    · rw [files_setFile, if_neg (Ne.symm he)]
  | _ => exact he.elim

theorem goes_of_uses_afterSnapshot {A : Type} {q : Op Ip A} {backup : Option Bytes}
    (hq : Prog.Uses AfterSnapshot q) :
    Goes (fun w => w.files .backup = backup) q fun _ w => w.files .backup = backup := by
  intro w hw
  exact (hq.safe (fun _ _ _ _ hs he ht => (backup_act he ht).trans hs) (fun _ _ => trivial)
    hw).mono fun a t ht => ifOk_of_forall fun _ => ht

theorem goes_applyAfterSnapshot (previous servers : List Ip) :
    Goes (fun _ => True) (applyAfterSnapshot L r previous servers)
      fun _ w => w.files .resolvConf ≠ none := by
  have hcommit : Goes (fun _ => True)
      (ProgE.attempt (ResolvConf.commit L r .commit servers) : Op Ip (Except SysResolverError Unit))
      (IfOk fun _ w => w.files .resolvConf ≠ none) := by
    exact Triple.attempt fun w hw => (goes_writeOwnerOnly .resolvConf .commit
      (L.encodeUtf8 (formatResolvConf L servers)) w hw).mono fun a t ht =>
        ht.mono fun _ hfile => by simp [hfile]
  refine goes_bind goes_any fun appliedAt => goes_bind goes_any fun _ =>
    goes_bind hcommit fun committed => ?_
  cases committed with
  | error err => exact goes_bind goes_any fun _ _ _ => trivial
  | ok u => exact goes_bind (goes_call fun w a t hw ht => by cases ht; exact hw) fun _ _ h => h

theorem goes_apply (content : Bytes) (servers : List Ip) :
    Goes (fun w => w.files .resolvConf = some content) (apply L r.onResolvConf servers)
      fun _ w => w.files .backup = some content ∧ w.files .resolvConf ≠ none := by
  rw [apply]
  by_cases hservers : servers = []
  · rw [if_pos hservers]
    exact fun _ _ => trivial
  rw [if_neg hservers]
  have hsnapshot : Goes (fun w => w.files .resolvConf = some content)
      (ResolvConf.snapshot L r.onResolvConf) fun _ w => w.files .backup = some content := by
    intro w hw found t _ ht
    obtain ⟨rfl, hnone, hdata⟩ := read_eq_some ht
    refine ⟨trivial, ?_⟩
    cases found with
    | notFound => cases (hnone rfl).symm.trans hw
    | failed source => exact trivial
    | content data =>
      obtain rfl : data = content := Option.some.inj ((hdata data rfl).symm.trans hw)
      refine goes_bind (goes_writeOwnerOnly .backup .record data) (fun _ => ?_) t trivial
      exact fun _ h => h
  have hselect : Goes (fun w => w.files .resolvConf = some content)
      (selectAndSnapshot L r.onResolvConf .noBackendAvailable r.onResolvConf.backends)
      fun x w => x.1 = .resolvConf ∧ w.files .backup = some content := by
    refine Triple.bind (Q := fun x w => IfOk (fun a => IfOk (fun _ (w : World Ip) =>
      w.files .backup = some content) a) x w) (Triple.attempt hsnapshot) (fun attempt => ?_)
      fun _ _ _ => trivial
    cases attempt with
    | ok previous => exact fun _ h => ⟨rfl, h⟩
    | error err => exact fun _ _ => trivial
  refine goes_bind hselect fun x => ?_
  obtain ⟨b, previous⟩ := x
  rintro w ⟨rfl, hbackup⟩
  refine (Safe.and (goes_of_uses_afterSnapshot (uses_applyAfterSnapshot _ _) w hbackup)
    (goes_applyAfterSnapshot previous servers w trivial) fun _ _ _ h => h).mono fun a t ht => ?_
  cases a with
  | ok outcome => exact ht
  | error err => exact trivial

def Unhindered {A : Type} (P : World Ip → Prop) (q : Op Ip A) (Q : A → World Ip → Prop) : Prop :=
  Triple act (fun _ => True) Unfailing P q (IfOk Q)

theorem Goes.unhindered {A : Type} {P : World Ip → Prop} {q : Op Ip A} {Q : A → World Ip → Prop}
    (h : Goes P q Q) : Unhindered P q Q :=
  fun w hw => ((h w hw).and safe_true fun _ _ _ _ => trivial).mono fun _ _ ht => ht.1

theorem unhindered_bind {A B : Type} {P : World Ip → Prop} {q : Op Ip A} {f : A → Op Ip B}
    {Q : A → World Ip → Prop} {Q' : B → World Ip → Prop} (h : Unhindered P q Q)
    (hf : ∀ a, Unhindered (Q a) (f a) Q') : Unhindered P (q >>= f : Op Ip B) Q' :=
  Triple.bind h hf fun _ _ _ => trivial

theorem unhindered_remove {P : World Ip → Prop} (file : FileId)
    (hP : ∀ w, P w → P (w.setFile file none)) :
    Unhindered P (Sys.remove file) fun a w =>
      (∀ message, a ≠ .failed message) ∧ P w ∧ w.files file = none := by
  refine Triple.call fun w hw a t hfail ht => ⟨trivial, hfail, ?_⟩
  have ht : w.remove file a = some t := ht
  cases a with
  | ok =>
    simp only [World.remove, Option.ite_none_left_eq_some, Option.some.injEq] at ht
    obtain ⟨-, rfl⟩ := ht
    exact ⟨hP w hw, by simp⟩
  | notFound =>
    simp only [World.remove, Option.ite_none_right_eq_some, Option.some.injEq] at ht
    obtain ⟨hnone, rfl⟩ := ht
    exact ⟨hw, hnone⟩
  | failed message => exact absurd rfl (hfail message)

theorem unhindered_restoreFile (fallback : List Ip) :
    Unhindered (fun _ => True) (ResolvConf.restore L r fallback)
      fun _ w => w.files .backup = none := by
  intro w _ found t _ ht
  obtain ⟨rfl, hnone, -⟩ := read_eq_some ht
  refine ⟨trivial, ?_⟩
  cases found with
  | notFound =>
    have hfile : FileId.resolvConf ≠ .backup := by decide
    exact (goes_of_uses_afterSnapshot (uses_writeOwnerOnly hfile hfile trivial)).unhindered t
      (hnone rfl)
  | failed source => exact trivial
  | content backup =>
    refine unhindered_bind (P := fun _ => True) goes_any.unhindered (fun _ => ?_) t trivial
    exact unhindered_bind (unhindered_remove .backup fun _ h => h) fun _ _ h => h.2.2

theorem unhindered_restore :
    Unhindered (fun _ => True) (restore L r.onResolvConf)
      fun _ w => w.files .backup = none ∧ w.files .marker = none := by
  have hdelete : Unhindered (fun w => w.files .backup = none)
      (ProgE.attempt (MarkerStore.delete r.onResolvConf) : Op Ip (Except SysResolverError Unit))
      fun _ w => w.files .backup = none ∧ w.files .marker = none := by
    have hremove := unhindered_remove (P := fun w : World Ip => w.files .backup = none) .marker
      fun w h => by rw [files_setFile, if_neg (by decide), h]
    refine Triple.attempt fun w hw a t hfail ht => ⟨trivial, ?_⟩
    obtain ⟨-, hanswer, hnone⟩ := hremove w hw a t hfail ht
    cases a with
    | ok | notFound => exact hnone
    | failed source => exact absurd rfl (hanswer source)
  refine unhindered_bind goes_any.unhindered fun cached => ?_
  refine unhindered_bind goes_any.unhindered fun resolved => ?_
  refine unhindered_bind (Q := fun b _ => b = .resolvConf) ?_ fun b => ?_
  · rw [findBackend_onResolvConf]
    exact fun _ _ => rfl
  rintro w rfl
  have hset : Goes (fun w : World Ip => w.files .backup = none) (Sys.setState none)
      fun _ w => w.files .backup = none := goes_call fun w a t hw ht => by cases ht; exact hw
  refine unhindered_bind (unhindered_restoreFile _) (fun _ => unhindered_bind hset.unhindered
    fun _ => unhindered_bind hdelete fun _ => ?_) w trivial
  exact fun _ h => h

/-- **Applies and a restore** without a failure put back the file from before the last apply. -/
theorem restore_puts_back_last (L : ResolverLib Ip) (r : SysResolver) {w : World Ip}
    (hfile : w.files .resolvConf ≠ none) (earlier : List (List Ip)) (last : List Ip) :
    Safe act (fun _ => True) Unfailing
      (IfOk fun _ t => ∃ content, t.files .resolvConf = some content ∧
        Safe act (fun _ => True) Unfailing
          (IfOk fun _ u => u.files .resolvConf = some content ∧ u.files .backup = none ∧
            u.files .marker = none)
          (apply L r.onResolvConf last >>= fun _ => restore L r.onResolvConf : Op Ip Outcome) t)
      (applyAll L r.onResolvConf earlier) w := by
  have hearlier : Goes (fun w => w.files .resolvConf ≠ none) (applyAll L r.onResolvConf earlier)
      fun _ w => w.files .resolvConf ≠ none := by
    induction earlier with
    | nil => exact fun _ h => h
    | cons servers rest ih =>
      refine goes_bind (fun w hw => ?_) fun _ => ih
      obtain ⟨content, hcontent⟩ := Option.ne_none_iff_exists'.mp hw
      exact (goes_apply content servers w hcontent).mono fun a t ht => ht.mono fun _ h => h.2
  refine (hearlier.unhindered w hfile).mono fun a t ht => ?_
  cases a with
  | error err => exact trivial
  | ok u =>
    obtain ⟨content, hcontent⟩ := Option.ne_none_iff_exists'.mp ht
    refine ⟨content, hcontent, ?_⟩
    refine unhindered_bind (goes_apply content last).unhindered (fun _ t ht => ?_) t hcontent
    have hcopied : Copied (some content) t := ⟨by simp, ht.1⟩
    have hback := goes_restore (L := L) (r := r) (K := fun _ => Copied (some content))
      goes_restoreCopied t ⟨fun _ _ => hcopied, fun _ _ _ => hcopied⟩
    refine (hback.and (unhindered_restore t trivial) fun _ _ _ _ => trivial).mono fun a u hu => ?_
    cases a with
    | ok outcome => exact ⟨hu.1.2, hu.2⟩
    | error err => exact trivial

def oneByte : World Nat := pristine.setFile .resolvConf (some [65])

theorem restore_puts_back_second :
    (Prog.exec smooth (applyAll numbers resolvFile.onResolvConf [[9], [8]] >>= fun _ =>
      restore numbers resolvFile.onResolvConf : Op Nat Outcome) oneByte).1 = .ok .restored ∧
    Safe act (fun _ => True) Unfailing
      (IfOk fun _ t => ∃ content, t.files .resolvConf = some content ∧
        Safe act (fun _ => True) Unfailing
          (IfOk fun _ u => u.files .resolvConf = some content ∧ u.files .backup = none ∧
            u.files .marker = none)
          (apply numbers resolvFile.onResolvConf [8] >>= fun _ =>
            restore numbers resolvFile.onResolvConf : Op Nat Outcome) t)
      (applyAll numbers resolvFile.onResolvConf [[9]]) oneByte :=
  ⟨by decide +kernel, restore_puts_back_last numbers resolvFile (by simp [oneByte]) [[9]] [8]⟩

end Applies

/-! ## Restores without a copy -/

section Careful

def NameserverLine (text : List Char) : Prop :=
  ∃ before after, text = before ++ "nameserver ".toList ++ after ∧
    (before = [] ∨ before.getLast? = some '\n')

/-- With no server to go back to and no copy a restore fails, and a file it writes names a server or
is the copy. -/
def Careful (L : ResolverLib Ip) (outcome : Outcome) (servers : List Ip) (w : World Ip)
    (result : Except SysResolverError Outcome) (t : World Ip) : Prop :=
  (servers = [] → w.files .backup = none →
    result.isOk = false ∧ t.files .resolvConf = w.files .resolvConf) ∧
  (result = .ok outcome →
    ∃ data, t.files .resolvConf = some data ∧
      (w.files .backup = some data ∨
        ∃ text, data = L.encodeUtf8 text ∧ NameserverLine text.toList))

omit [DecidableEq Ip] in
theorem nameserverLine_formatResolvConf {servers : List Ip} (h : servers ≠ []) :
    NameserverLine (formatResolvConf L servers).toList := by
  obtain ⟨server, rest, rfl⟩ := List.exists_cons_of_ne_nil h
  refine ⟨("# Generated by penguin squawk module" ++ "\n").toList, (L.showIp server ++ "\n" ++
    String.intercalate "\n" (rest.map (fun server => "nameserver " ++ L.showIp server) ++
      [""])).toList, ?_, .inr (by decide)⟩
  simp only [formatResolvConf, List.map_cons, List.cons_append, List.nil_append]
  rw [String.intercalate_cons_of_ne_nil (by simp), String.intercalate_cons_of_ne_nil (by simp)]
  simp only [String.toList_append, List.append_assoc]

theorem careful_iff_of {servers : List Ip} {w : World Ip} {q : Op Ip Outcome} {outcome : Outcome}
    (hexec : ∃ w', Prog.exec smooth q w = (.ok outcome, w'))
    (hgoes : Safe act (fun _ => True) (fun _ _ _ => True)
      (fun result t => result = .ok outcome → Holds (some (restoredFile L servers w)) t) q w) :
    Safe act (fun _ => True) (fun _ _ _ => True) (Careful L outcome servers w) q w ↔
      (servers = [] → w.files .backup ≠ none) := by
  constructor
  · intro h hservers hbackup
    obtain ⟨w', hexec⟩ := hexec
    have hcareful := Safe.exec act_smooth (fun _ _ => trivial) h
    rw [hexec] at hcareful
    cases (hcareful.1 hservers hbackup).1
  · refine fun h => hgoes.mono fun result t ht => ?_
    refine ⟨fun hservers hbackup => absurd hbackup (h hservers), fun hresult => ?_⟩
    refine ⟨restoredFile L servers w, (ht hresult).2, ?_⟩
    cases hbackup : w.files .backup with
    | some data => exact .inl (by rw [restoredFile, hbackup, Option.getD_some])
    | none =>
      have hservers : servers ≠ [] := fun hservers => h hservers hbackup
      exact .inr ⟨formatResolvConf L servers, by rw [restoredFile, hbackup, Option.getD_none],
        nameserverLine_formatResolvConf hservers⟩

/-- **Restores leave a server** exactly if there is a copy wherever the list of servers is empty. -/
theorem restores_careful_iff (L : ResolverLib Ip) (r : SysResolver) (w : World Ip) :
    (∀ servers, w.Records L servers →
      (Safe act (fun _ => True) (fun _ _ _ => True) (Careful L .restored servers w)
          (restore L r.onResolvConf) w ↔ (servers = [] → w.files .backup ≠ none))) ∧
    (∀ m, w.LoadsMarker L m →
      (Safe act (fun _ => True) (fun _ _ _ => True) (Careful L .recovered (m.parseServers L) w)
          (recoverFromCrash L r.onResolvConf) w ↔
        (m.parseServers L = [] → w.files .backup ≠ none))) := by
  have hfile : ∀ (servers previous : List Ip),
      Goes (fun t => previous = servers ∧ restoredFile L servers t = restoredFile L servers w)
        (ResolvConf.restore L r.onResolvConf previous)
        fun _ => Holds (some (restoredFile L servers w)) := by
    rintro servers previous t ⟨rfl, hdata⟩
    exact goes_restoreFile previous _ t hdata
  have hmarked : ∀ {m m' : Marker}, w.LoadsMarker L m → w.LoadsMarker L m' → m = m' := by
    rintro m m' ⟨data, hdata, hm⟩ ⟨data', hdata', hm'⟩
    obtain rfl : data = data' := Option.mem_unique hdata hdata'
    exact Except.ok.inj (hm.symm.trans hm')
  refine ⟨fun servers hrecords => careful_iff_of ?_ ?_, fun m hm => careful_iff_of ?_ ?_⟩
  · exact exec_restore hrecords
  · refine (goes_restore (hfile servers) w ⟨fun applied happlied => ⟨?_, rfl⟩,
      fun hstate m hm => ⟨?_, rfl⟩⟩).mono fun result t ht => ?_
    · obtain ⟨name, hstate⟩ | ⟨hstate, -⟩ := hrecords
      · rw [happlied] at hstate
        cases hstate
        rfl
      · rw [happlied] at hstate
        cases hstate
    · obtain ⟨name, hstate'⟩ | ⟨-, m', hm', rfl⟩ := hrecords
      · rw [hstate] at hstate'
        cases hstate'
      · rw [hmarked hm hm']
    · rintro rfl
      exact ht
  · exact exec_recoverFromCrash hm
  · refine (goes_recoverFromCrash (hfile (m.parseServers L)) w fun m' hm' =>
      ⟨by rw [hmarked hm' hm], rfl⟩).mono fun result t ht => ?_
    rintro rfl
    exact ht rfl

theorem restore_writes_no_server :
    let applied := Prog.exec smooth (apply numbers resolvFile.onResolvConf [9]) pristine
    let restored := Prog.exec smooth (restore numbers resolvFile.onResolvConf) applied.2
    applied.2.Records numbers [] ∧ applied.2.files .backup = none ∧ restored.1 = .ok .restored ∧
      restored.2.files .resolvConf =
        some (numbers.encodeUtf8 "# Generated by penguin squawk module\n") := by
  refine ⟨.inl ⟨"resolv.conf", ?_⟩, ?_⟩ <;> decide +kernel

end Careful

end Penguind.Squawk
