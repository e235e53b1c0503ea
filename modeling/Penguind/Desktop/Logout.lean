import Penguind.Desktop.Keychain

/-!
# Logging out

A logout deletes the three records of the keychain, whatever becomes of each deletion. The daemon
is not told, and its proxy keeps the credentials.
-/

namespace Penguind.Desktop

open Foundation Stateful Waddlebot

variable {U : Type}

structure Deletes where
  access : Delivery
  refresh : Delivery
  hub : Delivery
  deriving DecidableEq, Repr

def TokenStore.clear (d : Deletes) : Stateful (Client U) DesktopError Unit := do
  attempt (remote d.access (fun e => e)
    (modify fun c : Client U => { c with keychain.accessToken := none }))
  attempt (remote d.refresh (fun e => e)
    (modify fun c : Client U => { c with keychain.refreshToken := none }))
  attempt (remote d.hub (fun e => e)
    (modify fun c : Client U => { c with keychain.hubBaseUrl := none }))

/-- There is no call to the daemon yet. -/
def logout (d : Deletes) : Stateful (Client U) DesktopError Unit := TokenStore.clear d

def Keychain.cleared (d : Deletes) (k : Keychain U) : Keychain U where
  accessToken := if d.access.takesEffect then none else k.accessToken
  refreshToken := if d.refresh.takesEffect then none else k.refreshToken
  hubBaseUrl := if d.hub.takesEffect then none else k.hubBaseUrl

variable {d : Deletes} {c t : Client U}

theorem outcome_logout :
    outcome (logout d) c = (true, { c with keychain := c.keychain.cleared d }) := by
  unfold logout TokenStore.clear
  simp only [outcome_bind_unit, outcome_attempt, outcome_remote_modify, if_true]
  unfold Keychain.cleared
  cases d.access.takesEffect <;> cases d.refresh.takesEffect <;> cases d.hub.takesEffect <;> rfl

theorem ends_logout :
    Ends (logout d) c () t ↔ { c with keychain := c.keychain.cleared d } = t := by
  have h : (∃ v, Ends (logout d) c v t) ↔ { c with keychain := c.keychain.cleared d } = t := by
    rw [exists_ends_iff, outcome_logout, Prod.mk.injEq]
    exact and_iff_right rfl
  exact exists_const Unit |>.symm.trans h

theorem storesHub_cleared {L : SessionLib U} {k : Keychain U} {hubUrl : String} :
    (k.cleared d).StoresHub L hubUrl ↔
      d.access.takesEffect = false ∧ d.hub.takesEffect = false ∧ k.StoresHub L hubUrl := by
  unfold Keychain.StoresHub Keychain.cleared
  cases d.access.takesEffect <;> cases d.hub.takesEffect <;> simp

theorem loadable_iff {L : SessionLib U} :
    (∃ w session t, Ends (TokenStore.load L w) c session t) ↔
      ∃ hubUrl, c.keychain.StoresHub L hubUrl := by
  constructor
  · rintro ⟨w, session, t, h⟩
    exact ⟨_, (storesHub_of_ends_load h).2⟩
  · rintro ⟨hubUrl, h⟩
    obtain ⟨session, hload, -⟩ := exists_ends_load (w := smooth .timeout) h rfl rfl rfl
    exact ⟨_, session, c, hload⟩

/-! ## The proxy -/

variable {L : WebLib U} {s t : SessionProxy U} {id : RequestId} {r : InFlight U} {a : Action}

/-- What a step of the request `id` leaves as it was. -/
structure Frame (id : RequestId) (s t : SessionProxy U) : Prop where
  slot : s.credentials = none → t.credentials = none
  number : t.nextRequest = s.nextRequest
  others : ∀ x ≠ id, t.inFlight.lookup x = s.inFlight.lookup x
  results : ∃ new, t.results = s.results ++ new ∧ ∀ x ∈ new, x.1 = id

theorem frame_finish {result : Except SessionProxyError HttpResponse} :
    Frame id s (s.finish id result) where
  slot h := h
  number := rfl
  others _ hx := AList.lookup_erase_ne hx
  results := ⟨[(id, result)], rfl, by simp⟩

theorem frame_goTo {u : SessionProxy U} {phase : Phase U}
    (hslot : s.credentials = none → u.credentials = none) (hnumber : u.nextRequest = s.nextRequest)
    (hflight : u.inFlight = s.inFlight) (hresults : u.results = s.results) :
    Frame id s (u.goTo id r phase) where
  slot := hslot
  number := hnumber
  others x hx := (AList.lookup_insert_ne hx).trans (by rw [hflight])
  results := ⟨[], by rw [List.append_nil]; exact hresults, by simp⟩

theorem frame_stepRequest (hstep : stepRequest L s id r a = some t) : Frame id s t := by
  cases turn_stepRequest hstep with
  | finish result left => exact frame_finish
  | goTo u phase slot number flight results left => exact frame_goTo slot number flight results

theorem step_cases (hstep : step L s a = some t) :
    (∃ x y z, a = .setSession x y z) ∨ (∃ req, a = .accept req ∧ t = s.accept req) ∨
      (t.results = s.results ∧ t.inFlight = s.inFlight ∧ t.nextRequest = s.nextRequest ∧
        (s.credentials = none → t.credentials = none)) ∨
      ∃ id r, s.inFlight.lookup id = some r ∧ Frame id s t := by
  cases a with
  | setSession x y z => exact .inl ⟨x, y, z, rfl⟩
  | accept req =>
    cases hstep
    exact .inr (.inl ⟨req, rfl, rfl⟩)
  | clearSession =>
    cases hstep
    exact .inr (.inr (.inl ⟨rfl, rfl, rfl, fun _ => rfl⟩))
  | resetFlag =>
    simp only [step, Option.ite_none_right_eq_some, Option.some.injEq] at hstep
    obtain ⟨-, rfl⟩ := hstep
    exact .inr (.inr (.inl ⟨rfl, rfl, rfl, fun h => h⟩))
  | send i | reply i | refreshed i | store i | flag i | reacquire i =>
    cases hr : s.inFlight.lookup i with
    | none => simp [step, hr] at hstep
    | some r =>
      simp only [step, hr] at hstep
      exact .inr (.inr (.inr ⟨i, r, hr, frame_stepRequest hstep⟩))

structure Numbered (s : SessionProxy U) : Prop where
  inFlight : ∀ id, s.nextRequest ≤ id → s.inFlight.lookup id = none
  results : ∀ x ∈ s.results, x.1 < s.nextRequest

theorem Numbered.accept (h : Numbered s) (req : HttpRequest) : Numbered (s.accept req) := by
  cases hslot : s.credentials with
  | none =>
    simp only [SessionProxy.accept, hslot]
    constructor
    · intro id hid
      exact (AList.lookup_erase_ne (Nat.ne_of_gt hid)).trans (h.inFlight id (Nat.le_of_succ_le hid))
    · exact List.forall_mem_append.mpr ⟨fun x hx => Nat.lt_succ_of_lt (h.results x hx),
        List.forall_mem_singleton.mpr (Nat.lt_succ_self _)⟩
  | some c =>
    simp only [SessionProxy.accept, hslot]
    constructor
    · intro id hid
      exact (AList.lookup_insert_ne (Nat.ne_of_gt hid)).trans
        (h.inFlight id (Nat.le_of_succ_le hid))
    · intro x hx
      exact Nat.lt_succ_of_lt (h.results x hx)

theorem Numbered.setSession (h : Numbered s) (accessToken : String) (refreshToken : Option String)
    (hubBaseUrl : String) : Numbered (s.setSession L accessToken refreshToken hubBaseUrl).2 := by
  unfold SessionProxy.setSession
  split
  · exact h
  · exact ⟨h.inFlight, h.results⟩

theorem Numbered.of_frame (h : Numbered s) (hr : s.inFlight.lookup id = some r)
    (hframe : Frame id s t) : Numbered t := by
  have hid : id < s.nextRequest := by
    by_contra hid
    rw [h.inFlight id (not_lt.mp hid)] at hr
    cases hr
  constructor
  · intro x hx
    rw [hframe.number] at hx
    rw [hframe.others x (lt_of_lt_of_le hid hx).ne']
    exact h.inFlight x hx
  · obtain ⟨new, hnew, hids⟩ := hframe.results
    rw [hframe.number, hnew]
    exact List.forall_mem_append.mpr ⟨h.results, fun x hx => hids x hx ▸ hid⟩

theorem Numbered.step (h : Numbered s) (hstep : step L s a = some t) : Numbered t := by
  rcases step_cases hstep with ⟨x, y, z, rfl⟩ | ⟨req, rfl, rfl⟩ | ⟨hres, hfl, hnum, -⟩ |
    ⟨id, r, hr, hframe⟩
  · cases hstep
    exact h.setSession x y z
  · exact h.accept req
  · constructor
    · rw [hnum, hfl]
      exact h.inFlight
    · rw [hres, hnum]
      exact h.results
  · exact h.of_frame hr hframe

/-- Since the next number was `n`, the slot is empty, and requests were answered so. -/
structure Refusing (n : RequestId) (s : SessionProxy U) : Prop where
  slot : s.credentials = none
  number : n ≤ s.nextRequest
  inFlight : ∀ id, n ≤ id → s.inFlight.lookup id = none
  answered : ∀ id, n ≤ id → id < s.nextRequest → (id, .error .noSession) ∈ s.results
  results : ∀ x ∈ s.results, n ≤ x.1 → x.2 = .error .noSession

def NoNewSession (as : List Action) : Prop := ∀ x y z, Action.setSession x y z ∉ as

/-- Until a session is set, every request is answered that there is none. -/
def Refused (L : WebLib U) (s : SessionProxy U) : Prop :=
  ∀ as t, run (step L) s as = some t → NoNewSession as → ∀ id, s.nextRequest ≤ id →
    (id < t.nextRequest → (id, .error .noSession) ∈ t.results) ∧
      ∀ result, (id, result) ∈ t.results → result = .error .noSession

theorem Refusing.accept {n : RequestId} (h : Refusing n s) (req : HttpRequest) :
    Refusing n (s.accept req) := by
  simp only [SessionProxy.accept, h.slot]
  constructor
  · exact h.slot
  · exact Nat.le_succ_of_le h.number
  · intro id hid
    by_cases hnew : id = s.nextRequest
    · rw [hnew]
      exact AList.lookup_erase _ _
    · exact (AList.lookup_erase_ne hnew).trans (h.inFlight id hid)
  · intro id hid hlt
    have hlt : id < s.nextRequest + 1 := hlt
    by_cases hnew : id = s.nextRequest
    · rw [hnew]
      exact List.mem_append_right _ (List.mem_singleton.mpr rfl)
    · exact List.mem_append_left _ (h.answered id hid (lt_of_le_of_ne (Nat.le_of_lt_succ hlt) hnew))
  · exact List.forall_mem_append.mpr ⟨h.results, List.forall_mem_singleton.mpr fun _ => rfl⟩

theorem Refusing.of_frame {n : RequestId} (h : Refusing n s) (hr : s.inFlight.lookup id = some r)
    (hframe : Frame id s t) : Refusing n t := by
  have hid : id < n := by
    by_contra hid
    rw [h.inFlight id (not_lt.mp hid)] at hr
    cases hr
  obtain ⟨new, hnew, hids⟩ := hframe.results
  constructor
  · exact hframe.slot h.slot
  · rw [hframe.number]
    exact h.number
  · intro x hx
    rw [hframe.others x (lt_of_lt_of_le hid hx).ne']
    exact h.inFlight x hx
  · intro x hx hlt
    rw [hframe.number] at hlt
    rw [hnew]
    exact List.mem_append_left _ (h.answered x hx hlt)
  · rw [hnew]
    refine List.forall_mem_append.mpr ⟨h.results, fun x hx hn => ?_⟩
    exact absurd (hids x hx ▸ hn) (not_le.mpr hid)

theorem Refusing.step {n : RequestId} (h : Refusing n s) (hset : ∀ x y z, a ≠ .setSession x y z)
    (hstep : step L s a = some t) : Refusing n t := by
  rcases step_cases hstep with ⟨x, y, z, ha⟩ | ⟨req, rfl, rfl⟩ | ⟨hres, hfl, hnum, hslot⟩ |
    ⟨id, r, hr, hframe⟩
  · exact absurd ha (hset x y z)
  · exact h.accept req
  · refine ⟨hslot h.slot, ?_, ?_, ?_, ?_⟩
    · rw [hnum]
      exact h.number
    · rw [hfl]
      exact h.inFlight
    · rw [hres, hnum]
      exact h.answered
    · rw [hres]
      exact h.results
  · exact h.of_frame hr hframe

theorem Refusing.of_none (hnum : Numbered s) (h : s.credentials = none) :
    Refusing s.nextRequest s where
  slot := h
  number := le_rfl
  inFlight := hnum.inFlight
  answered _ hid hlt := absurd hlt (not_lt.mpr hid)
  results x hx hid := absurd (hnum.results x hx) (not_lt.mpr hid)

theorem Refusing.run {n : RequestId} {as : List Action} (h : Refusing n s)
    (hset : NoNewSession as) (hrun : run (Waddlebot.step L) s as = some t) : Refusing n t := by
  have halong : Along (Waddlebot.step L) (fun _ a => ∀ x y z, a ≠ .setSession x y z) s as := by
    apply along_of_forall_mem
    rintro a hmem x y z rfl
    exact hset x y z hmem
  exact run_invariant (fun _ _ _ => Refusing.step) h halong hrun

def pathless : HttpRequest := ⟨"GET", "", [], []⟩

theorem buildRequest_pathless (creds : SessionCredentials U) :
    buildRequest L creds pathless = .error (.hubRequest "path must be absolute") := rfl

theorem run_pathless {session : SessionId} {creds : SessionCredentials U}
    (h : s.credentials = some (session, creds)) :
    ∃ t, run (step L) s [.accept pathless, .send s.nextRequest] = some t ∧
      (s.nextRequest, .error (.hubRequest "path must be absolute")) ∈ t.results := by
  let u := s.takeId.track s.nextRequest ⟨session, pathless, .ready creds false⟩
  have haccept : step L s (.accept pathless) = some u := by
    rw [step, SessionProxy.accept, h]
  have hlookup : u.inFlight.lookup s.nextRequest = some ⟨session, pathless, .ready creds false⟩ :=
    AList.lookup_insert _
  refine ⟨u.finish s.nextRequest (.error (.hubRequest "path must be absolute")), ?_, ?_⟩
  · rw [run_cons, haccept, Option.bind_some, run_cons]
    simp only [step, hlookup, stepRequest, SessionProxy.send, buildRequest_pathless]
    rfl
  · exact List.mem_append_right _ (List.mem_singleton.mpr rfl)

theorem refused_iff (hnum : Numbered s) : Refused L s ↔ s.credentials = none := by
  constructor
  · intro h
    cases hslot : s.credentials with
    | none => rfl
    | some c =>
      obtain ⟨t, hrun, hmem⟩ := run_pathless (L := L) hslot
      have hset : NoNewSession [.accept pathless, .send s.nextRequest] := by
        intro x y z hmem
        simp at hmem
      cases (h _ t hrun hset s.nextRequest le_rfl).2 _ hmem
  · intro hslot as t hrun hset id hid
    have h := (Refusing.of_none hnum hslot).run hset hrun
    exact ⟨h.answered id hid, fun result hmem => h.results _ hmem hid⟩

/-! ## Both processes -/

def Reached (L : WebLib U) (s : SessionProxy U) : Prop := ∃ as, run (step L) .new as = some s

theorem Reached.numbered (h : Reached L s) : Numbered s := by
  obtain ⟨as, hrun⟩ := h
  refine run_invariant_of_step (fun _ _ _ => Numbered.step) ?_ hrun
  exact ⟨fun _ _ => rfl, by rintro x ⟨⟩⟩

def Client.Primes (c : Client U) (s : SessionProxy U) : Prop :=
  c.daemon.map Primed.creds = s.credentials.map Prod.snd

structure LoggedOut (L : SessionLib U) (c : Client U) : Prop where
  keychain : ∀ w session t, ¬ Ends (TokenStore.load L w) c session t
  proxy : ∀ s, Reached L.toWebLib s → c.Primes s → Refused L.toWebLib s

/-- **A logout logs out** exactly if the proxy had no session, and the token or the hub is deleted.
-/
theorem loggedOut_iff {L : SessionLib U} {c : Client U} {s : SessionProxy U} {d : Deletes}
    (hs : Reached L.toWebLib s) (hc : c.Primes s) :
    (∀ t, Ends (logout d) c () t → LoggedOut L t) ↔
      s.credentials = none ∧ (d.access.takesEffect = true ∨ d.hub.takesEffect = true ∨
        ∀ hubUrl, ¬ c.keychain.StoresHub L hubUrl) := by
  have hkeychain : (∀ w session t, ¬ Ends (TokenStore.load L w)
      { c with keychain := c.keychain.cleared d } session t) ↔
      d.access.takesEffect = true ∨ d.hub.takesEffect = true ∨
        ∀ hubUrl, ¬ c.keychain.StoresHub L hubUrl := by
    have hload := not_congr (loadable_iff (L := L)
      (c := { c with keychain := c.keychain.cleared d }))
    simp only [storesHub_cleared] at hload
    push Not at hload
    rw [hload]
    cases d.access.takesEffect <;> cases d.hub.takesEffect <;> simp
  have hdaemon : ∀ q : SessionProxy U,
      Client.Primes { c with keychain := c.keychain.cleared d } q →
        (q.credentials = none ↔ s.credentials = none) := by
    intro q hq
    have hsame : s.credentials.map Prod.snd = q.credentials.map Prod.snd := hc.symm.trans hq
    rw [← Option.map_eq_none_iff, ← hsame, Option.map_eq_none_iff]
  constructor
  · intro h
    have hout := h _ (ends_logout.mpr rfl)
    refine ⟨?_, hkeychain.mp hout.keychain⟩
    -- the proxy is as it was before the logout
    exact (refused_iff hs.numbered).mp (hout.proxy s hs hc)
  · rintro ⟨hslot, hdeleted⟩ t ht
    rw [← ends_logout.mp ht]
    refine ⟨hkeychain.mpr hdeleted, ?_⟩
    intro q hq hprimes
    exact (refused_iff hq.numbered).mpr ((hdaemon q hprimes).mpr hslot)

def deletesAll : Deletes := ⟨.delivered, .delivered, .delivered⟩

theorem loggedOut_oldSession :
    Reached utf8Lib.toWebLib .new ∧ LoggedOut utf8Lib (logout deletesAll oldSession).2 := by
  have hnew : Reached utf8Lib.toWebLib .new := ⟨[], rfl⟩
  have hprimes : oldSession.Primes .new := rfl
  exact ⟨hnew, (loggedOut_iff hnew hprimes).mpr ⟨rfl, .inl rfl⟩ _ rfl⟩

def primedSession : Client PlainUrl :=
  { oldSession with daemon := some ⟨⟨"old", none, oldHub⟩, none⟩ }

def primedProxy : SessionProxy PlainUrl :=
  (SessionProxy.new.setSession utf8Lib.toWebLib "old" none "https://old.example").2

/-- **The daemon stays signed in** after a logout that deletes all records. -/
theorem token_sent_after_logout :
    Reached utf8Lib.toWebLib primedProxy ∧ primedSession.Primes primedProxy ∧
      (logout deletesAll primedSession).1.isOk ∧
      (logout deletesAll primedSession).2.Primes primedProxy ∧
      (∃ t, run (step utf8Lib.toWebLib) primedProxy [.accept (getRequest "/api/v1/me"), .send 0] =
        some t ∧ t.sent.map Sent.accessToken = ["old"]) ∧
      ¬ LoggedOut utf8Lib (logout deletesAll primedSession).2 := by
  have hslot : primedProxy.credentials = some (0, ⟨"old", none, oldHub⟩) := by rfl
  have hreached : Reached utf8Lib.toWebLib primedProxy :=
    ⟨[.setSession "old" none "https://old.example"], rfl⟩
  have hprimes : primedSession.Primes primedProxy := by
    unfold Client.Primes
    rw [hslot]
    rfl
  refine ⟨hreached, hprimes, rfl, hprimes, ?_, ?_⟩
  · exact exists_run (by decide +kernel)
  · intro h
    have hnone := (refused_iff hreached.numbered).mp (h.proxy primedProxy hreached hprimes)
    rw [hslot] at hnone
    cases hnone

end Penguind.Desktop
