import Penguind.Waddlebot.SessionProxy

/-!
# One forwarded request on its own

`forward_request` when no other call comes between its steps, as one function of the slot and of
what the network answers.
-/

namespace Penguind.Waddlebot

open Foundation

variable {U : Type} (L : WebLib U)

structure Answers where
  first : SendOutcome
  refresh : RefreshOutcome
  second : SendOutcome

structure Forwarded (U : Type) where
  result : Except SessionProxyError HttpResponse
  slot : Option (SessionCredentials U)
  sent : List (Outgoing U)

def sendRequest (creds : SessionCredentials U) (req : HttpRequest) (outcome : SendOutcome) :
    Except SessionProxyError HttpResponse × List (Outgoing U) :=
  match buildRequest L creds req with
  | .error err => (.error err, [])
  | .ok outgoing => (receive L outcome, [outgoing])

def afterAnswer (creds : SessionCredentials U) (req : HttpRequest) (response : HttpResponse)
    (answers : Answers) : Forwarded U :=
  if response.status = 401 then
    match creds.refreshToken with
    | none => ⟨.ok response, some creds, []⟩
    | some _ =>
      match refreshResult answers.refresh with
      | .error _ => ⟨.ok response, some creds, []⟩
      | .ok token =>
        let creds := { creds with accessToken := token }
        let second := sendRequest L creds req answers.second
        ⟨second.1, some creds, second.2⟩
  else ⟨.ok response, some creds, []⟩

def forwardRequest (slot : Option (SessionCredentials U)) (req : HttpRequest) (answers : Answers) :
    Forwarded U :=
  match slot with
  | none => ⟨.error .noSession, none, []⟩
  | some creds =>
    let first := sendRequest L creds req answers.first
    match first.1 with
    | .error err => ⟨.error err, slot, first.2⟩
    | .ok response =>
      let rest := afterAnswer L creds req response answers
      ⟨rest.result, rest.slot, first.2 ++ rest.sent⟩

def sessionCredentials (accessToken : String) (refreshToken : Option String)
    (hubBaseUrl : String) : Except SessionProxyError (SessionCredentials U) :=
  (checkHub L hubBaseUrl).map fun hub => ⟨accessToken, refreshToken, hub⟩

/-! ## Where the requests go -/

section Facts

variable {L} {creds : SessionCredentials U} {slot : Option (SessionCredentials U)}
  {req : HttpRequest} {answers : Answers} {response : HttpResponse}

theorem exists_buildRequest_of_mem_sent {out : Outgoing U}
    (h : out ∈ (forwardRequest L slot req answers).sent) :
    ∃ creds ∈ slot, ∃ token,
      buildRequest L { creds with accessToken := token } req = .ok out := by
  have hsend : ∀ {creds : SessionCredentials U} {outcome : SendOutcome},
      out ∈ (sendRequest L creds req outcome).2 → buildRequest L creds req = .ok out := by
    intro creds outcome h
    revert h
    fun_cases sendRequest L creds req outcome with intro h
    | case1 => cases h
    | case2 outgoing hb => rw [hb, List.mem_singleton.mp h]
  cases slot with
  | none => simp [forwardRequest] at h
  | some creds =>
    refine ⟨creds, rfl, ?_⟩
    simp only [forwardRequest] at h
    split at h
    · exact ⟨creds.accessToken, hsend h⟩
    · rcases List.mem_append.mp h with h | h
      · exact ⟨creds.accessToken, hsend h⟩
      · -- the retry is built with the refreshed token
        revert h
        fun_cases afterAnswer with intro h
        | case3 _ _ _ token => exact ⟨token, hsend h⟩
        | case1 | case2 | case4 => cases h

theorem hub_slot_forwardRequest : (forwardRequest L slot req answers).slot.map
    SessionCredentials.hubBaseUrl = slot.map SessionCredentials.hubBaseUrl := by
  cases slot with
  | none => rfl
  | some creds =>
    simp only [forwardRequest]
    split
    · rfl
    · fun_cases afterAnswer <;> rfl

theorem sent_ne_nil_of_result (h : (forwardRequest L slot req answers).result = .ok response) :
    (forwardRequest L slot req answers).sent ≠ [] ∧
      ∃ response, receive L answers.first = .ok response := by
  cases slot with
  | none => simp [forwardRequest] at h
  | some creds =>
    unfold forwardRequest sendRequest at h ⊢
    cases hb : buildRequest L creds req with
    | error err => simp [hb] at h
    | ok outgoing =>
      cases hr : receive L answers.first with
      | error err => simp [hb, hr] at h
      | ok response => simp [hb]

theorem mem_sent_of_buildRequest {out : Outgoing U} (h : buildRequest L creds req = .ok out) :
    out ∈ (forwardRequest L (some creds) req answers).sent := by
  unfold forwardRequest sendRequest
  cases receive L answers.first <;> simp [h]

theorem forwardRequest_of_ok {out : Outgoing U} (h : buildRequest L creds req = .ok out)
    (hr : receive L answers.first = .ok response) (hstatus : response.status ≠ 401) :
    forwardRequest L (some creds) req answers = ⟨.ok response, some creds, [out]⟩ := by
  simp [forwardRequest, sendRequest, afterAnswer, h, hr, hstatus]

end Facts

theorem setSession_eq (s : SessionProxy U) (accessToken : String) (refreshToken : Option String)
    (hubBaseUrl : String) :
    let creds := sessionCredentials L accessToken refreshToken hubBaseUrl
    let r := s.setSession L accessToken refreshToken hubBaseUrl
    r.1 = creds.map (fun _ => ()) ∧
      r.2.credentials.map Prod.snd = creds.toOption.or (s.credentials.map Prod.snd) := by
  unfold sessionCredentials SessionProxy.setSession
  cases checkHub L hubBaseUrl <;> exact ⟨rfl, rfl⟩

section

/-- The steps of one request, as far as it gets. -/
def turns (id : RequestId) (req : HttpRequest) (answers : Answers) : List Action :=
  [.accept req, .send id, .reply id answers.first, .refreshed id answers.refresh, .store id,
    .flag id, .reacquire id, .send id, .reply id answers.second]

attribute [local simp] turns run_cons step stepRequest SessionProxy.accept SessionProxy.takeId
  SessionProxy.track SessionProxy.send SessionProxy.finish SessionProxy.reply SessionProxy.goTo
  SessionProxy.recordSent SessionProxy.recordPost SessionProxy.refreshed SessionProxy.issue
  SessionProxy.store SessionProxy.reacquire

/-- **The function is a run of the machine**, with no other call in between. -/
theorem exists_run_forwardRequest (s : SessionProxy U) (req : HttpRequest) (answers : Answers) :
    let f := forwardRequest L (s.credentials.map Prod.snd) req answers
    ∃ n t, run (step L) s ((turns s.nextRequest req answers).take n) = some t ∧
      t.results = s.results ++ [(s.nextRequest, f.result)] ∧
      t.credentials.map Prod.snd = f.slot ∧
      t.sent.map Sent.outgoing = s.sent.map Sent.outgoing ++ f.sent := by
  cases hslot : s.credentials with
  | none => exact ⟨1, by simp [forwardRequest, hslot]⟩
  | some x =>
    obtain ⟨sid, accessToken, refreshToken?, hub⟩ := x
    simp only [Option.map_some, forwardRequest, afterAnswer, sendRequest]
    cases hb : buildRequest L ⟨accessToken, refreshToken?, hub⟩ req with
    | error err => exact ⟨2, by simp [*]⟩
    | ok outgoing =>
      cases hr : receive L answers.first with
      | error err => exact ⟨3, by simp [*]⟩
      | ok response =>
        by_cases h401 : response.status = 401
        · cases refreshToken? with
          | none => exact ⟨3, by simp [*]⟩
          | some refreshToken =>
            cases hf : refreshResult answers.refresh with
            | error err => exact ⟨4, by simp [*]⟩
            | ok token =>
              -- the retry goes out with the new token
              cases hb' : buildRequest L ⟨token, some refreshToken, hub⟩ req with
              | error err => exact ⟨8, by simp [*]⟩
              | ok outgoing' => cases hr' : receive L answers.second <;> exact ⟨9, by simp [*]⟩
        · exact ⟨3, by simp [*]⟩

end

variable {L} {s t : SessionProxy U} {id : RequestId} {r : InFlight U} {a : Action}

theorem step_of_lookup (ha : a.request = some id) (hl : s.inFlight.lookup id = some r) :
    step L s a = stepRequest L s id r a := by
  cases a <;> cases ha <;> simp only [step, hl]

@[simp] theorem lookup_goTo (phase : Phase U) :
    (s.goTo id r phase).inFlight.lookup id = some { r with phase := phase } :=
  AList.lookup_insert _

/-! ## What a step of a request does -/

def Phase.sendsLeft : Phase U → Nat
  | .ready _ false => 2
  | .waiting _ true => 0
  | .ready _ true | .waiting _ false | .refreshing _ | .storing _ | .flagging | .reacquiring => 1

theorem Phase.sendsLeft_le_two (phase : Phase U) : phase.sendsLeft ≤ 2 := by
  fun_cases Phase.sendsLeft phase <;> omega

def Action.sends (id : RequestId) : Action → Bool
  | .send i => i = id
  | _ => false

/-- The request ends, or changes its phase and nothing of others. -/
inductive Turn (s : SessionProxy U) (id : RequestId) (r : InFlight U) (a : Action) :
    SessionProxy U → Prop
  | finish (result : Except SessionProxyError HttpResponse)
      (left : (a.sends id).toNat ≤ r.phase.sendsLeft) : Turn s id r a (s.finish id result)
  | goTo (u : SessionProxy U) (phase : Phase U)
      (slot : s.credentials = none → u.credentials = none)
      (number : u.nextRequest = s.nextRequest) (flight : u.inFlight = s.inFlight)
      (results : u.results = s.results)
      (left : phase.sendsLeft + (a.sends id).toNat ≤ r.phase.sendsLeft) :
      Turn s id r a (u.goTo id r phase)

theorem turn_stepRequest (hstep : stepRequest L s id r a = some t) : Turn s id r a t := by
  have hsend : ∀ i, ((Action.send i).sends id).toNat ≤ 1 := fun i => Bool.toNat_le _
  revert hstep
  fun_cases stepRequest L s id r a with rintro ⟨⟩
  | case1 i creds retried hp =>
    specialize hsend i
    fun_cases SessionProxy.send with
    | case1 =>
      refine .finish _ ?_
      cases retried <;> simp only [hp, Phase.sendsLeft] <;> omega
    | case2 =>
      refine .goTo _ _ (fun h => h) rfl rfl rfl ?_
      cases retried <;> simp only [hp, Phase.sendsLeft] <;> omega
  | case3 _ outcome creds retried hp =>
    fun_cases SessionProxy.reply with
    | case2 _ _ h401 =>
      refine .goTo _ _ (fun h => h) rfl rfl rfl ?_
      rw [hp, h401.2]
      exact le_rfl
    | case1 | case3 | case4 => exact .finish _ (Nat.zero_le _)
  | case5 _ outcome response hp =>
    fun_cases SessionProxy.refreshed with
    | case1 => exact .finish _ (Nat.zero_le _)
    | case2 => exact .goTo _ _ (fun h => h) rfl rfl rfl (hp ▸ le_rfl)
  | case7 _ token hp =>
    fun_cases SessionProxy.store with
    | case1 => exact .goTo _ _ (fun h => h) rfl rfl rfl (hp ▸ le_rfl)
    | case2 _ _ hslot =>
      exact .goTo _ _ (fun h => nomatch h.symm.trans hslot) rfl rfl rfl (hp ▸ le_rfl)
  | case9 _ hp => exact .goTo _ _ (fun h => h) rfl rfl rfl (hp ▸ le_rfl)
  | case11 _ hp =>
    fun_cases SessionProxy.reacquire with
    | case1 => exact .finish _ (Nat.zero_le _)
    | case2 => exact .goTo _ _ (fun h => h) rfl rfl rfl (hp ▸ le_rfl)

end Penguind.Waddlebot
