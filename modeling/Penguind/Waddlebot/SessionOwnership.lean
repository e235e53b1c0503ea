import Penguind.Waddlebot.SessionProxy

/-!
# Sessions stay apart

A refreshed token is to go only into the session it was refreshed for, and a request is to be sent
only with a token and to a hub of the session it was accepted in.
-/

namespace Penguind.Waddlebot

open Foundation

variable {U : Type} {L : WebLib U}

def StoresOwn (s : SessionProxy U) : Prop :=
  ∀ x ∈ s.stored, x.into = x.refreshed

def SendsOwn (s : SessionProxy U) : Prop :=
  ∀ x ∈ s.sent, (x.session, x.accessToken) ∈ s.issued ∧ (x.session, x.hub) ∈ s.hubs

instance (s : SessionProxy U) : Decidable (StoresOwn s) :=
  inferInstanceAs (Decidable (∀ x ∈ s.stored, _))

instance [DecidableEq U] (s : SessionProxy U) : Decidable (SendsOwn s) :=
  inferInstanceAs (Decidable (∀ x ∈ s.sent, _))

def Phase.held : Phase U → Option (SessionCredentials U)
  | .ready creds _ | .waiting creds _ => some creds
  | .refreshing _ | .storing _ | .flagging | .reacquiring => none

/-- The request has not been retried, and has or had a refresh token. -/
def Phase.mayReacquire : Phase U → Bool
  | .ready creds retried | .waiting creds retried => !retried && creds.refreshToken.isSome
  | .refreshing _ | .storing _ | .flagging | .reacquiring => true

/-- Sessions are set only while no request in flight can come back to the slot. -/
def SetsWhenSettled (L : WebLib U) (s : SessionProxy U) : Action → Prop
  | .setSession _ _ hubBaseUrl =>
    (checkHub L hubBaseUrl).isOk = true →
      ∀ e ∈ s.inFlight.entries, e.2.phase.mayReacquire = false
  | _ => True

instance (L : WebLib U) (s : SessionProxy U) : ∀ a, Decidable (SetsWhenSettled L s a)
  | .setSession _ _ _ => inferInstanceAs (Decidable (_ → ∀ e ∈ s.inFlight.entries, _))
  | .clearSession | .resetFlag | .accept _ | .send _ | .reply _ _ | .refreshed _ _ | .store _
  | .flag _ | .reacquire _ => .isTrue trivial

def Belongs (s : SessionProxy U) (session : SessionId) (creds : SessionCredentials U) : Prop :=
  (session, creds.accessToken) ∈ s.issued ∧ (session, creds.hubBaseUrl) ∈ s.hubs

theorem Belongs.mono {s t : SessionProxy U} {session : SessionId} {creds : SessionCredentials U}
    (h : Belongs s session creds) (hi : s.issued ⊆ t.issued) (hh : s.hubs ⊆ t.hubs) :
    Belongs t session creds := ⟨hi h.1, hh h.2⟩

/-- The session of a request will be in the slot if it comes back. -/
structure Owns (s : SessionProxy U) (r : InFlight U) : Prop where
  held : ∀ creds ∈ r.phase.held, Belongs s r.session creds
  token : ∀ token, r.phase = .storing token → (r.session, token) ∈ s.issued
  slot : r.phase.mayReacquire = true → ∀ c ∈ s.credentials, c.1 = r.session

theorem Owns.mono {s t : SessionProxy U} {r : InFlight U} (h : Owns s r)
    (hi : s.issued ⊆ t.issued) (hh : s.hubs ⊆ t.hubs) (hc : t.credentials = s.credentials) :
    Owns t r where
  held creds hcreds := (h.held creds hcreds).mono hi hh
  token token ht := hi (h.token token ht)
  slot hm c hslot := h.slot hm c (hc ▸ hslot)

structure SessionsApart (s : SessionProxy U) : Prop where
  slot : ∀ c ∈ s.credentials, Belongs s c.1 c.2
  requests : ∀ id, ∀ r ∈ s.inFlight.lookup id, Owns s r
  stored : StoresOwn s
  sent : SendsOwn s

namespace SessionsApart

variable {s : SessionProxy U} {id : RequestId} {r : InFlight U}

variable (h : SessionsApart s)
include h

theorem of_same {t : SessionProxy U} (hc : t.credentials = s.credentials)
    (hf : t.inFlight = s.inFlight) (hi : t.issued = s.issued) (hh : t.hubs = s.hubs)
    (hstored : t.stored = s.stored) (hsent : t.sent = s.sent) : SessionsApart t where
  slot c hslot := (h.slot c (hc ▸ hslot)).mono (hi ▸ List.Subset.refl _) (hh ▸ List.Subset.refl _)
  requests x r' hr' :=
    (h.requests x r' (hf ▸ hr')).mono (hi ▸ List.Subset.refl _) (hh ▸ List.Subset.refl _) hc
  stored x hx := h.stored x (hstored ▸ hx)
  sent x hx := by
    rw [hi, hh]
    exact h.sent x (hsent ▸ hx)

theorem track (ho : Owns s r) : SessionsApart (s.track id r) := by
  refine ⟨h.slot, ?_, h.stored, h.sent⟩
  intro x r' hr'
  -- the request itself must own what it holds; every other one is where it was
  by_cases hx : x = id
  · subst hx
    rw [SessionProxy.track, AList.lookup_insert] at hr'
    cases hr'
    exact ho.mono (List.Subset.refl _) (List.Subset.refl _) rfl
  · rw [SessionProxy.track, AList.lookup_insert_ne hx] at hr'
    exact (h.requests x r' hr').mono (List.Subset.refl _) (List.Subset.refl _) rfl

theorem goTo {phase : Phase U} (ho : Owns s { r with phase := phase }) :
    SessionsApart (s.goTo id r phase) :=
  h.track ho

theorem finish {result : Except SessionProxyError HttpResponse} :
    SessionsApart (s.finish id result) := by
  refine ⟨h.slot, ?_, h.stored, h.sent⟩
  intro x r' hr'
  by_cases hx : x = id
  · subst hx
    rw [SessionProxy.finish, AList.lookup_erase] at hr'
    cases hr'
  · rw [SessionProxy.finish, AList.lookup_erase_ne hx] at hr'
    exact (h.requests x r' hr').mono (List.Subset.refl _) (List.Subset.refl _) rfl

theorem issue (session : SessionId) (token : String) : SessionsApart (s.issue session token) := by
  have hi : s.issued ⊆ (s.issue session token).issued := List.subset_cons_self _ _
  have hh : s.hubs ⊆ (s.issue session token).hubs := List.Subset.refl _
  refine ⟨fun c hc => (h.slot c hc).mono hi hh, ?_, h.stored, ?_⟩
  · intro x r' hr'
    exact (h.requests x r' hr').mono hi hh rfl
  · intro x hx
    exact ⟨hi (h.sent x hx).1, (h.sent x hx).2⟩

theorem recordSent {x : Sent U} (ht : (x.session, x.accessToken) ∈ s.issued)
    (hh : (x.session, x.hub) ∈ s.hubs) : SessionsApart (s.recordSent x) := by
  refine ⟨h.slot, fun i r' hr' => ?_, h.stored, ?_⟩
  · exact (h.requests i r' hr').mono (List.Subset.refl _) (List.Subset.refl _) rfl
  · intro y hy
    rcases List.mem_append.mp hy with hy | hy
    · exact h.sent y hy
    · rw [List.mem_singleton.mp hy]
      exact ⟨ht, hh⟩

theorem recordPost {x : RefreshPost} : SessionsApart (s.recordPost x) :=
  h.of_same rfl rfl rfl rfl rfl rfl

theorem setSession {accessToken : String} {refreshToken : Option String} {hubBaseUrl : String}
    (hc : SetsWhenSettled L s (.setSession accessToken refreshToken hubBaseUrl)) :
    SessionsApart (s.setSession L accessToken refreshToken hubBaseUrl).2 := by
  unfold SessionProxy.setSession
  cases hu : checkHub L hubBaseUrl with
  | error err => exact h
  | ok hub =>
    have hidle := hc (by rw [hu]; rfl)
    constructor
    · intro c hc
      cases hc
      exact ⟨List.mem_cons_self, List.mem_cons_self⟩
    · intro x r hr
      -- the slot has changed hands, so `Owns.mono` does not apply
      obtain ⟨h₁, h₂, -⟩ := h.requests x r hr
      refine ⟨?_, fun t ht => List.mem_cons_of_mem _ (h₂ t ht), fun hm => ?_⟩
      · intro creds hcreds
        exact (h₁ creds hcreds).mono (List.subset_cons_self _ _) (List.subset_cons_self _ _)
      · -- no request in flight comes back to the slot
        have := hidle ⟨x, r⟩ (AList.mem_lookup_iff.mp hr)
        exact absurd (this.symm.trans hm) (by decide)
    · exact h.stored
    · intro x hx
      obtain ⟨ht, hh⟩ := h.sent x hx
      exact ⟨List.mem_cons_of_mem _ ht, List.mem_cons_of_mem _ hh⟩

theorem clearSession : SessionsApart s.clearSession := by
  refine ⟨fun c hc => (by cases hc), fun x r hr => ?_, h.stored, h.sent⟩
  obtain ⟨h₁, h₂, -⟩ := h.requests x r hr
  exact ⟨h₁, h₂, fun _ c hc => by cases hc⟩

theorem takeId : SessionsApart s.takeId :=
  h.of_same rfl rfl rfl rfl rfl rfl

theorem accept (req : HttpRequest) : SessionsApart (s.accept req) := by
  unfold SessionProxy.accept
  cases hc : s.credentials with
  | none => exact h.takeId.finish
  | some c =>
    -- the copy was just taken, so what holds of the slot holds of it
    refine h.takeId.track ⟨?_, fun _ ht => (by cases ht), ?_⟩
    · intro creds hcreds
      cases hcreds
      exact h.slot c hc
    · intro _ c' hc'
      cases hc.symm.trans hc'
      rfl

theorem send {creds : SessionCredentials U} {retried : Bool} (ho : Owns s r)
    (hp : r.phase = .ready creds retried) : SessionsApart (s.send L id r creds retried) := by
  have hb : Belongs s r.session creds := ho.held creds (by rw [hp]; rfl)
  unfold SessionProxy.send
  cases buildRequest L creds r.request with
  | error err => exact h.finish
  | ok outgoing =>
    -- the copy and the right to come back to the slot are carried over to `waiting`
    refine (h.recordSent hb.1 hb.2).goTo ⟨?_, by rintro _ ⟨⟩, fun hm => ho.slot ?_⟩
    · intro creds' hcreds
      cases hcreds
      exact hb
    · rw [hp]
      exact hm

theorem reply {creds : SessionCredentials U} {retried : Bool} {outcome : SendOutcome}
    (ho : Owns s r) (hp : r.phase = .waiting creds retried) :
    SessionsApart (s.reply L id r creds retried outcome) := by
  unfold SessionProxy.reply
  cases receive L outcome with
  | error err => exact h.finish
  | ok response =>
    dsimp only
    split_ifs with h401
    · cases hrt : creds.refreshToken with
      | none => exact h.finish
      | some refreshToken =>
        -- only a first `401` with a refresh token gets here: the phase that may come back
        refine h.recordPost.goTo ⟨by rintro _ ⟨⟩, by rintro _ ⟨⟩, fun _ => ho.slot ?_⟩
        rw [hp]
        simp [Phase.mayReacquire, h401.2, hrt]
    · exact h.finish

theorem refreshed {response : HttpResponse} {outcome : RefreshOutcome} (ho : Owns s r)
    (hp : r.phase = .refreshing response) : SessionsApart (s.refreshed id r response outcome) := by
  unfold SessionProxy.refreshed
  cases refreshResult outcome with
  | error err => exact h.finish
  | ok token =>
    refine (h.issue r.session token).goTo ⟨by rintro _ ⟨⟩, ?_, fun _ => ho.slot (by rw [hp]; rfl)⟩
    rintro _ ⟨⟩
    exact List.mem_cons_self

theorem store {token : String} (ho : Owns s r) (hp : r.phase = .storing token) :
    SessionsApart (s.store id r token) := by
  have hslot := ho.slot (by rw [hp]; rfl)
  unfold SessionProxy.store
  cases hc : s.credentials with
  | none =>
    refine h.goTo ⟨by rintro _ ⟨⟩, by rintro _ ⟨⟩, fun _ c hc' => ?_⟩
    cases hc.symm.trans hc'
  | some c =>
    obtain ⟨current, creds⟩ := c
    -- this is where the condition pays: the slot still holds the session that was refreshed
    obtain rfl : current = r.session := hslot _ hc
    apply SessionsApart.goTo
    · constructor
      · intro c' hc'
        cases hc'
        exact ⟨ho.token token hp, (h.slot _ hc).2⟩
      · intro x r' hr'
        obtain ⟨h₁, h₂, h₃⟩ := h.requests x r' hr'
        refine ⟨h₁, h₂, fun hm c' hc' => ?_⟩
        cases hc'
        exact h₃ hm (r.session, creds) hc
      · intro x hx
        rcases List.mem_append.mp hx with hx | hx
        · exact h.stored x hx
        · rw [List.mem_singleton.mp hx]
      · exact h.sent
    · refine ⟨by rintro _ ⟨⟩, by rintro _ ⟨⟩, fun _ c' hc' => ?_⟩
      cases hc'
      rfl

theorem reacquire (ho : Owns s r) (hp : r.phase = .reacquiring) :
    SessionsApart (s.reacquire id r) := by
  have hslot := ho.slot (by rw [hp]; rfl)
  unfold SessionProxy.reacquire
  cases hc : s.credentials with
  | none => exact h.finish
  | some c =>
    obtain ⟨current, creds⟩ := c
    obtain rfl : current = r.session := hslot _ hc
    -- a retried request does not come back, so the slot is of no further account to it
    refine h.goTo ⟨?_, by rintro _ ⟨⟩, by rintro ⟨⟩⟩
    intro creds' hcreds
    cases hcreds
    exact h.slot _ hc

theorem stepRequest {t : SessionProxy U} {a : Action} (hr : s.inFlight.lookup id = some r)
    (hstep : stepRequest L s id r a = some t) : SessionsApart t := by
  have ho : Owns s r := h.requests id r hr
  unfold Waddlebot.stepRequest at hstep
  -- first the action, then the phase it belongs to; every other pair has no step
  split at hstep
  all_goals try cases hstep
  all_goals
    split at hstep
    all_goals cases hstep
  · exact h.send ho ‹_›
  · exact h.reply ho ‹_›
  · exact h.refreshed ho ‹_›
  · exact h.store ho ‹_›
  · rename_i hp
    have hf : SessionsApart { s with hasRotated := true } := h.of_same rfl rfl rfl rfl rfl rfl
    exact hf.goTo ⟨by rintro _ ⟨⟩, by rintro _ ⟨⟩, fun _ => ho.slot (by rw [hp]; rfl)⟩
  · exact h.reacquire ho ‹_›

omit h

theorem step {t : SessionProxy U} {a : Action} (h : SessionsApart s) (hc : SetsWhenSettled L s a)
    (hstep : step L s a = some t) : SessionsApart t := by
  cases a with
  | setSession accessToken refreshToken hubBaseUrl =>
    cases hstep
    exact h.setSession hc
  | clearSession =>
    cases hstep
    exact h.clearSession
  | resetFlag =>
    simp only [Waddlebot.step, Option.ite_none_right_eq_some, Option.some.injEq] at hstep
    obtain ⟨-, rfl⟩ := hstep
    exact h.of_same rfl rfl rfl rfl rfl rfl
  | accept req =>
    cases hstep
    exact h.accept req
  | send i | reply i | refreshed i | store i | flag i | reacquire i =>
    cases hr : s.inFlight.lookup i with
    | none => simp [Waddlebot.step, hr] at hstep
    | some r =>
      simp only [Waddlebot.step, hr] at hstep
      exact h.stepRequest hr hstep

theorem new : SessionsApart (SessionProxy.new : SessionProxy U) where
  slot _ hc := by cases hc
  requests _ _ hr := by cases hr
  stored _ hx := by cases hx
  sent _ hx := by cases hx

end SessionsApart

/-- **Sessions stay apart** if they are set only while no request can come back to the slot. -/
theorem sessionsApart_of_setsWhenSettled {L : WebLib U} {s : SessionProxy U} {as : List Action}
    (hc : Along (step L) (SetsWhenSettled L) SessionProxy.new as)
    (hrun : run (step L) SessionProxy.new as = some s) : StoresOwn s ∧ SendsOwn s := by
  have h : SessionsApart s :=
    run_invariant (fun _ _ _ => SessionsApart.step) SessionsApart.new hc hrun
  exact ⟨h.stored, h.sent⟩

def textUrls : WebLib String where
  parse text := if "https".toList <+: text.toList then some text else none
  join base path := some (base ++ path)
  scheme _ := "https"
  hostStr _ := some "hub"
  display := id
  toUppercase := id
  toLowercase := id

def getMe : HttpRequest := ⟨"GET", "/api/v1/me", [], []⟩

def expired : SendOutcome := .replied 401 [] (.ok [])

def newToken (token : String) : RefreshOutcome :=
  .replied 200 "200 OK" (.ok (.object [("access_token", .string token)]))

def oneAfterTheOther : List Action :=
  [.setSession "a1" (some "ra") "https://a", .accept getMe, .send 0, .reply 0 expired,
    .refreshed 0 (newToken "a2"), .store 0, .flag 0, .reacquire 0, .send 0,
    .setSession "b1" (some "rb") "https://b", .accept getMe, .send 1]

theorem oneAfterTheOther_apart :
    ∃ s, run (step textUrls) SessionProxy.new oneAfterTheOther = some s ∧
      s.sent.map (fun x => (x.session, x.accessToken, x.hub)) =
        [(0, "a1", "https://a"), (0, "a2", "https://a"), (1, "b1", "https://b")] ∧
      StoresOwn s ∧ SendsOwn s := by
  have hs := (Option.some_get (x := run (step textUrls) .new oneAfterTheOther)
    (by decide +kernel)).symm
  exact ⟨_, hs, by decide +kernel, sessionsApart_of_setsWhenSettled (by decide +kernel) hs⟩

def userSwitch : List Action :=
  [.setSession "a1" (some "ra") "https://a", .accept getMe, .send 0, .reply 0 expired,
    .setSession "b1" (some "rb") "https://b", .refreshed 0 (newToken "a2"), .store 0, .flag 0,
    .reacquire 0, .send 0]

/-- **A token crosses sessions.** -/
theorem refresh_crosses_sessions :
    ∃ s, run (step textUrls) SessionProxy.new userSwitch = some s ∧
      s.stored = [⟨0, 1, "a2"⟩] ∧
      s.sent.map (fun x => (x.session, x.accessToken, x.hub)) =
        [(0, "a1", "https://a"), (0, "a2", "https://b")] ∧
      ¬ StoresOwn s ∧ ¬ SendsOwn s := by
  exact exists_run (by decide +kernel)

end Penguind.Waddlebot
