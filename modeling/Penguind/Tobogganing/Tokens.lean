import Penguind.Tobogganing.StopClean

/-!
# The tokens of the VPN module

The auth manager keeps its tokens in memory and, as a copy that survives a restart, in the secret
store. Its operations are executed here one after the other.
-/

namespace Penguind.Tobogganing

open Foundation

variable {ε A : Type}

namespace AuthManager

variable (L : Lib) (cfg : ModuleConfig)

def loadCachedToken : Op ε TokenState := do
  let access ← call (.getSecret .accessToken)
  match access with
  | .error _ => pure default
  | .ok access => do
    let refresh ← call (.getSecret .refreshToken)
    pure ⟨access, refresh.toOption.getD "", (extractExpiry L access).getD 0⟩

def new : Op ε Unit := do
  let state ← loadCachedToken L
  call (.writeAuth state)

inductive RefreshError
  | noRefreshToken
  | auth (err : AuthError)
  deriving DecidableEq, Repr

def refreshToken : Op RefreshError Unit := withAuth do
  let state ← call .readAuth
  if state.refreshToken = "" then throw .noRefreshToken
  else ProgE.mapError .auth (refreshLocked L cfg state)

end AuthManager

/-! ## Execution of one operation -/

/-- The clock's readings in order, and the entries that cannot be read or written. -/
structure Surroundings where
  clock : Nat → SystemTime
  manager : Request → Except String Reply
  unreadable : SecretKey → Option String
  unwritable : SecretKey → Option String

structure Course where
  world : World
  readings : Nat
  requests : List Request

namespace Surroundings

variable (env : Surroundings)

def access (failures : SecretKey → Option String) (key : SecretKey) : Except String Unit :=
  match failures key with
  | some err => .error err
  | none => .ok ()

def readSecret (w : World) (key : SecretKey) : Except String String :=
  match env.unreadable key, w.secrets key with
  | some err, _ => .error err
  | none, some value => .ok value
  | none, none => .error "secret not found"

def answer (s : Course) : (e : Effect) → Answer e
  | .swapRunning _ | .isRunning => s.world.running
  | .newCancel => s.world.nextCancel
  | .select _ _ => Selected.tick
  | .now => env.clock s.readings
  | .readAuth => s.world.auth
  | .getSecret key => env.readSecret s.world key
  | .setSecret key _ | .deleteSecret key => access env.unwritable key
  | .http request => env.manager request
  | .readVpn => s.world.vpn
  | .generateKey => (0 : Key)
  | .apply _ _ | .teardown _ | .peerStats _ => (.ok () : Except String Unit)
  | .takeCancel | .spawn _ | .report _ | .stopReturns _ | .inc _ | .lockAuth | .unlockAuth
  | .writeAuth _ | .lockVpn | .unlockVpn | .writeVpn _ => ()

def changed (w : World) : (e : Effect) → Answer e → World
  | .lockAuth, _ | .unlockAuth, _ | .lockVpn, _ | .unlockVpn, _ => w
  | e, r => (act w e r).getD w

def looks : Effect → Nat
  | .now => 1
  | _ => 0

def sends : Effect → List Request
  | .http request => [request]
  | _ => []

def handle (e : Effect) (s : Course) : Answer e × Course :=
  (env.answer s e,
    ⟨changed s.world e (env.answer s e), s.readings + looks e, sends e ++ s.requests⟩)

def perform (p : Op ε A) (w : World) : Except ε A × Course :=
  Prog.exec env.handle p ⟨w, 0, []⟩

def Writable : Prop := ∀ key, env.unwritable key = none

def Readable : Prop := ∀ key, env.unreadable key = none

section Exec

variable {env} {s : Course} {B : Type}

@[simp] theorem exec_authLocked {p : Op ε A} :
    Prog.exec env.handle (withAuth p) s = Prog.exec env.handle p s :=
  exec_bracket (fun _ => rfl) fun _ => rfl

@[simp] theorem exec_call {e : Effect} :
    Prog.exec env.handle (call e : Op ε (Answer e)) s =
      (.ok (env.handle e s).1, (env.handle e s).2) := rfl

@[simp] theorem exec_writeAuth_bind {state : TokenState} {q : Op ε B} :
    Prog.exec env.handle (do call (.writeAuth state); q : Op ε B) s =
      Prog.exec env.handle q { s with world.auth := state } := rfl

@[simp] theorem exec_withAuth_writeAuth {state : TokenState} :
    Prog.exec env.handle (withAuth (call (.writeAuth state)) : Op ε Unit) s =
      (.ok (), { s with world.auth := state }) := exec_authLocked

theorem handle_of_changed {e : Effect} (hlooks : looks e = 0) (hsends : sends e = [])
    (h : changed s.world e (env.answer s e) = s.world) : env.handle e s = (env.answer s e, s) := by
  rw [handle, h, hlooks, hsends]
  rfl

@[simp] theorem handle_readAuth : env.handle .readAuth s = (s.world.auth, s) :=
  handle_of_changed rfl rfl (by simp only [changed, answer, act, if_true, Option.getD_some])

@[simp] theorem handle_getSecret (key : SecretKey) :
    env.handle (.getSecret key) s = (env.readSecret s.world key, s) := by
  refine handle_of_changed rfl rfl ?_
  show (act s.world (.getSecret key) (env.readSecret s.world key)).getD s.world = s.world
  unfold readSecret
  split
  · rfl
  · next hv => simp only [act, hv, if_true, Option.getD_some]
  · rfl

@[simp] theorem handle_now :
    env.handle .now s = (env.clock s.readings, { s with readings := s.readings + 1 }) := rfl

@[simp] theorem handle_http (request : Request) :
    env.handle (.http request) s =
      (env.manager request, { s with requests := request :: s.requests }) := rfl

def put (env : Surroundings) (key : SecretKey) (value : Option String) (w : World) : World :=
  match env.unwritable key with
  | some _ => w
  | none => { w with secrets := Function.update w.secrets key value }

@[simp] theorem handle_setSecret (key : SecretKey) (value : String) :
    env.handle (.setSecret key value) s =
      (access env.unwritable key, { s with world := env.put key (some value) s.world }) := by
  simp only [handle, answer, changed, access, put]
  cases env.unwritable key <;> rfl

@[simp] theorem handle_deleteSecret (key : SecretKey) :
    env.handle (.deleteSecret key) s =
      (access env.unwritable key, { s with world := env.put key none s.world }) := by
  simp only [handle, answer, changed, access, put]
  cases env.unwritable key <;> rfl

@[simp] theorem put_auth (key : SecretKey) (value : Option String) (w : World) :
    (env.put key value w).auth = w.auth := by
  unfold put
  split <;> rfl

@[simp] theorem put_counters (key : SecretKey) (value : Option String) (w : World) :
    (env.put key value w).counters = w.counters := by
  unfold put
  split <;> rfl

end Exec

end Surroundings

/-! ## What an operation of the auth manager does -/

section

variable (L : Lib) (cfg : ModuleConfig) (env : Surroundings)

def World.afterResponse (w : World) (response : TokenResponse) (overwrite : Bool) : World :=
  let w := { w with auth := applied L w.auth response overwrite }
  let w := env.put .accessToken (some response.accessToken) w
  if response.refreshToken = "" then w
  else env.put .refreshToken (some response.refreshToken) w

def refreshRequest (state : TokenState) : Request :=
  .refresh (cfg.managerUrl ++ "/api/v1/auth/refresh") state.refreshToken

def obtainRequest (apiKey : String) : Request :=
  .obtain (cfg.managerUrl ++ "/api/v1/auth/token") apiKey

def issued (request : Request) : Option TokenResponse :=
  (AuthManager.readTokenReply L (env.manager request)).toOption

def refreshResponse (w : World) : Option TokenResponse :=
  if w.auth.refreshToken = "" then none else issued L env (refreshRequest cfg w.auth)

def obtainResponse (w : World) : Option TokenResponse :=
  (env.readSecret w .apiKey).toOption.bind fun apiKey => issued L env (obtainRequest cfg apiKey)

def World.Valid (w : World) (now : SystemTime) : Prop :=
  w.auth.accessToken ≠ "" ∧ isExpiredAt w.auth.expiresAt now 0 = false

instance (w : World) (now : SystemTime) : Decidable (w.Valid now) :=
  inferInstanceAs (Decidable (_ ∧ _))

variable {L cfg env} {s : Course}

theorem exec_postToken (L : Lib) (env : Surroundings) (s : Course) (request : Request) :
    Prog.exec env.handle (AuthManager.postToken L request) s =
      (AuthManager.readTokenReply L (env.manager request),
        { s with requests := request :: s.requests }) := by
  simp [AuthManager.postToken]

theorem exec_applyResponse (response : TokenResponse) (overwrite : Bool) :
    Prog.exec env.handle (AuthManager.applyResponse L s.world.auth response overwrite : Op ε Unit)
        s =
      (.ok (), { s with world := s.world.afterResponse L env response overwrite }) := by
  by_cases h : response.refreshToken = ""
  · simp [AuthManager.applyResponse, World.afterResponse, h]
  · simp [AuthManager.applyResponse, World.afterResponse, h]

def Course.responded (L : Lib) (env : Surroundings) (s : Course) (request : Request)
    (overwrite : Bool) : Except AuthError Unit × Course :=
  match AuthManager.readTokenReply L (env.manager request) with
  | .ok response => (.ok (), { s with
      world := s.world.afterResponse L env response overwrite
      requests := request :: s.requests })
  | .error err => (.error err, { s with requests := request :: s.requests })

theorem exec_postToken_apply (request : Request) (overwrite : Bool) :
    Prog.exec env.handle (AuthManager.postToken L request >>= fun response =>
        AuthManager.applyResponse L s.world.auth response overwrite : Op AuthError Unit) s =
      s.responded L env request overwrite := by
  unfold Course.responded
  cases h : AuthManager.readTokenReply L (env.manager request) with
  | error err => simp [exec_postToken, h]
  | ok response =>
    simp only [exec_bindE, exec_postToken, h]
    exact exec_applyResponse (s := { s with requests := request :: s.requests }) response overwrite

theorem exec_refreshLocked (L : Lib) (cfg : ModuleConfig) (env : Surroundings) (s : Course) :
    Prog.exec env.handle (AuthManager.refreshLocked L cfg s.world.auth) s =
      s.responded L env (refreshRequest cfg s.world.auth) false :=
  exec_postToken_apply _ _

theorem exec_obtainLocked (apiKey : String) :
    Prog.exec env.handle (AuthManager.obtainLocked L cfg s.world.auth apiKey) s =
      s.responded L env (obtainRequest cfg apiKey) true :=
  exec_postToken_apply _ _

theorem responded_cases (L : Lib) (env : Surroundings) (s : Course) (request : Request)
    (overwrite : Bool) :
    (∃ response, issued L env request = some response ∧
      s.responded L env request overwrite = (.ok (), { s with
        world := s.world.afterResponse L env response overwrite
        requests := request :: s.requests })) ∨
    (issued L env request = none ∧ ∃ err, s.responded L env request overwrite =
      (.error err, { s with requests := request :: s.requests })) := by
  unfold issued Course.responded
  cases AuthManager.readTokenReply L (env.manager request) with
  | error err => exact .inr ⟨rfl, err, rfl⟩
  | ok response => exact .inl ⟨response, rfl, rfl⟩

def Course.looked (s : Course) : Course :=
  if s.world.auth.accessToken = "" then s else { s with readings := s.readings + 1 }

@[simp] theorem looked_world : s.looked.world = s.world := by
  unfold Course.looked
  split <;> rfl

@[simp] theorem looked_requests : s.looked.requests = s.requests := by
  unfold Course.looked
  split <;> rfl

theorem exec_isValid :
    Prog.exec env.handle (AuthManager.isValid s.world.auth : Op ε Bool) s =
      (.ok (decide (s.world.Valid (env.clock s.readings))), s.looked) := by
  by_cases h : s.world.auth.accessToken = ""
  · simp [AuthManager.isValid, Course.looked, World.Valid, h]
  · simp [AuthManager.isValid, Course.looked, World.Valid, h]

theorem exec_isTokenExpired (threshold : Duration) :
    Prog.exec env.handle (AuthManager.isTokenExpired threshold : Op ε Bool) s =
      (.ok (decide (s.world.auth.accessToken = "" ∨
        isExpiredAt s.world.auth.expiresAt (env.clock s.readings) threshold = true)),
        s.looked) := by
  by_cases h : s.world.auth.accessToken = "" <;> simp [AuthManager.isTokenExpired, Course.looked, h]

inductive Ensured (L : Lib) (cfg : ModuleConfig) (env : Surroundings) (s : Course) :
    Except AuthError Unit × Course → Prop
  | valid (hv : s.world.Valid (env.clock s.readings)) : Ensured L cfg env s (.ok (), s.looked)
  | refreshed {response : TokenResponse} (hv : ¬ s.world.Valid (env.clock s.readings))
    (hr : refreshResponse L cfg env s.world = some response) :
    Ensured L cfg env s (.ok (), { s.looked with
      world := s.world.afterResponse L env response false
      requests := refreshRequest cfg s.world.auth :: s.requests })
  | obtained {response : TokenResponse} {apiKey : String} {requests : List Request}
    (hv : ¬ s.world.Valid (env.clock s.readings)) (hr : refreshResponse L cfg env s.world = none)
    (hk : env.readSecret s.world .apiKey = .ok apiKey)
    (ho : issued L env (obtainRequest cfg apiKey) = some response) :
    Ensured L cfg env s (.ok (), { s.looked with
      world := s.world.afterResponse L env response true
      requests := obtainRequest cfg apiKey :: requests })
  | failed {err : AuthError} {requests : List Request}
    (hv : ¬ s.world.Valid (env.clock s.readings)) (hr : refreshResponse L cfg env s.world = none)
    (ho : obtainResponse L cfg env s.world = none) :
    Ensured L cfg env s (.error err, { s.looked with requests := requests })

theorem exec_tryRefresh (L : Lib) (cfg : ModuleConfig) (env : Surroundings) (s : Course) :
    (∃ response, refreshResponse L cfg env s.world = some response ∧
      Prog.exec env.handle (AuthManager.tryRefresh L cfg s.world.auth) s =
        (.ok true, { s with
          world := s.world.afterResponse L env response false
          requests := refreshRequest cfg s.world.auth :: s.requests })) ∨
    (refreshResponse L cfg env s.world = none ∧ ∃ requests,
      Prog.exec env.handle (AuthManager.tryRefresh L cfg s.world.auth) s =
        (.ok false, { s with requests := requests })) := by
  by_cases h : s.world.auth.refreshToken = ""
  · exact .inr ⟨if_pos h, s.requests, by simp [AuthManager.tryRefresh, h]⟩
  rw [refreshResponse, if_neg h]
  obtain ⟨response, hi, hr⟩ | ⟨hi, err, hr⟩ :=
    responded_cases L env s (refreshRequest cfg s.world.auth) false
  · exact .inl ⟨response, hi, by
      simp [AuthManager.tryRefresh, h, exec_refreshLocked, hr, Except.isOk, Except.toBool]⟩
  · exact .inr ⟨hi, refreshRequest cfg s.world.auth :: s.requests, by
      simp [AuthManager.tryRefresh, h, exec_refreshLocked, hr, Except.isOk, Except.toBool]⟩

theorem exec_getApiKey (env : Surroundings) (s : Course) :
    Prog.exec env.handle AuthManager.getApiKey s =
      ((env.readSecret s.world .apiKey).mapError AuthError.noApiKey, s) := by
  simp [AuthManager.getApiKey]

theorem ensured_ensureValidToken (L : Lib) (cfg : ModuleConfig) (env : Surroundings) (s : Course) :
    Ensured L cfg env s (Prog.exec env.handle (AuthManager.ensureValidToken L cfg) s) := by
  by_cases hv : s.world.Valid (env.clock s.readings)
  · have hexec : Prog.exec env.handle (AuthManager.ensureValidToken L cfg) s =
        (.ok (), s.looked) := by
      simp [AuthManager.ensureValidToken, exec_isValid, hv]
    rw [hexec]
    exact .valid hv
  have hrefresh := exec_tryRefresh L cfg env s.looked
  simp only [looked_world, looked_requests] at hrefresh
  rcases hrefresh with ⟨response, hr, hexec⟩ | ⟨hr, requests, hexec⟩
  · have hexec : Prog.exec env.handle (AuthManager.ensureValidToken L cfg) s =
        (.ok (), { s.looked with
          world := s.world.afterResponse L env response false
          requests := refreshRequest cfg s.world.auth :: s.requests }) := by
      simp [AuthManager.ensureValidToken, exec_isValid, hv, hexec]
    rw [hexec]
    exact .refreshed hv hr
  cases hk : env.readSecret s.world .apiKey with
  | error text =>
    have hexec : Prog.exec env.handle (AuthManager.ensureValidToken L cfg) s =
        (.error (.noApiKey text), { s.looked with requests := requests }) := by
      simp [AuthManager.ensureValidToken, exec_isValid, hv, hexec, exec_getApiKey, hk,
        Except.mapError]
    rw [hexec]
    exact .failed hv hr (by rw [obtainResponse, hk]; rfl)
  | ok apiKey =>
    have hexec : Prog.exec env.handle (AuthManager.ensureValidToken L cfg) s =
        Course.responded L env ⟨s.world, s.looked.readings, requests⟩
          (obtainRequest cfg apiKey) true := by
      rw [← exec_obtainLocked]
      simp [AuthManager.ensureValidToken, exec_isValid, hv, hexec, exec_getApiKey, hk,
        Except.mapError]
    rw [hexec]
    obtain ⟨response, hi, hresponded⟩ | ⟨hi, err, hresponded⟩ := responded_cases L env
      ⟨s.world, s.looked.readings, requests⟩ (obtainRequest cfg apiKey) true
    · rw [hresponded]
      exact .obtained hv hr hk hi
    · rw [hresponded, ← looked_world (s := s)]
      exact .failed hv hr (by rw [obtainResponse, hk]; exact hi)

end

/-! ## A tick of the refresh loop -/

section

open Surroundings

variable (L : Lib) (cfg : ModuleConfig) (env : Surroundings) (w : World)

def tick : Course := (env.perform (authRefreshTick L cfg) w).2

def Due : Prop :=
  w.auth.accessToken = "" ∨
    isExpiredAt w.auth.expiresAt (env.clock 0) authRefreshThreshold = true

instance : Decidable (Due env w) := inferInstanceAs (Decidable (_ ∨ _))

def ExpiresSoon : Prop :=
  w.auth.accessToken ≠ "" ∧ env.clock 0 ≤ w.auth.expiresAt ∧
    w.auth.expiresAt - env.clock 0 < authRefreshThreshold

instance : Decidable (ExpiresSoon env w) := inferInstanceAs (Decidable (_ ∧ _ ∧ _))

def Accepts : Prop :=
  refreshResponse L cfg env w ≠ none ∨ obtainResponse L cfg env w ≠ none

def takenResponse : Option TokenResponse :=
  (refreshResponse L cfg env w).or (obtainResponse L cfg env w)

def Renewed (c : Course) : Prop :=
  ∃ request ∈ c.requests, ∃ response, issued L env request = some response ∧
    response.accessToken ≠ "" ∧ c.world.auth.accessToken = response.accessToken

/-- A tick renews a token that expires soon, and only these ticks are counted. -/
structure TickRefreshes : Prop where
  renews : ExpiresSoon env w → Accepts L cfg env w →
    (tick L cfg env w).requests ≠ [] ∧ Renewed L env (tick L cfg env w)
  counts : w.counters .tokenRefreshes < (tick L cfg env w).world.counters .tokenRefreshes →
    Renewed L env (tick L cfg env w)

/-- A token that the loop would refresh has expired by the next look, and the response has one. -/
def LapsesBetween : Prop :=
  Due env w → ¬ w.Valid (env.clock 1) ∧
    ∀ response ∈ takenResponse L cfg env w, response.accessToken ≠ ""

variable {L cfg env w}

theorem due_of_expiresSoon (h : ExpiresSoon env w) : Due env w := by
  obtain ⟨-, hnow, hsoon⟩ := h
  right
  rw [isExpiredAt, if_pos hnow]
  exact decide_eq_true hsoon

def Course.begin (w : World) : Course := ⟨w, 0, []⟩

theorem valid_looked :
    w.Valid (env.clock (Course.begin w).looked.readings) ↔ w.Valid (env.clock 1) := by
  unfold Course.looked
  by_cases h : w.auth.accessToken = ""
  · exact iff_of_false (fun hv => hv.1 h) fun hv => hv.1 h
  · rw [if_neg (show ¬ (Course.begin w).world.auth.accessToken = "" from h)]
    rfl

theorem exec_due :
    Prog.exec env.handle (AuthManager.isTokenExpired authRefreshThreshold : Op ModuleError Bool)
        (Course.begin w) =
      (.ok (decide (Due env w)), (Course.begin w).looked) := exec_isTokenExpired _

theorem tick_of_not_due (h : ¬ Due env w) : tick L cfg env w = (Course.begin w).looked := by
  have hexec : env.perform (authRefreshTick L cfg) w = _ := exec_bind_ok exec_due
  rw [tick, hexec, decide_eq_false h]
  rfl

def countedBy : Except AuthError Unit → Counter
  | .ok _ => .tokenRefreshes
  | .error _ => .connectionErrors

theorem tick_of_due (L : Lib) (cfg : ModuleConfig) (h : Due env w) :
    ∃ r c, Ensured L cfg env (Course.begin w).looked (r, c) ∧
      tick L cfg env w = { c with
        world.counters := Function.update c.world.counters (countedBy r)
          (c.world.counters (countedBy r) + 1) } := by
  have hexec : env.perform (authRefreshTick L cfg) w = _ := exec_bind_ok exec_due
  rw [tick, hexec, decide_eq_true h, if_pos rfl, exec_attempt_bind]
  have hensured := ensured_ensureValidToken L cfg env (Course.begin w).looked
  generalize Prog.exec env.handle (AuthManager.ensureValidToken L cfg) (Course.begin w).looked = x
    at hensured ⊢
  obtain ⟨r, c⟩ := x
  refine ⟨r, c, hensured, ?_⟩
  cases r with
  | ok _ => rfl
  | error _ => rfl

@[simp] theorem afterResponse_auth (response : TokenResponse) (overwrite : Bool) :
    (w.afterResponse L env response overwrite).auth = applied L w.auth response overwrite := by
  unfold World.afterResponse
  split
  · rw [put_auth]
  · rw [put_auth, put_auth]

@[simp] theorem afterResponse_counters (response : TokenResponse) (overwrite : Bool) :
    (w.afterResponse L env response overwrite).counters = w.counters := by
  unfold World.afterResponse
  split
  · rw [put_counters]
  · rw [put_counters, put_counters]

inductive Ticked (L : Lib) (cfg : ModuleConfig) (env : Surroundings) (w : World) (t : Course) : Prop
  | skipped (hdue : ¬ Due env w)
    (hcount : t.world.counters .tokenRefreshes = w.counters .tokenRefreshes)
  | unasked (hdue : Due env w) (hv : w.Valid (env.clock 1)) (hreq : t.requests = [])
    (hcount : t.world.counters .tokenRefreshes = w.counters .tokenRefreshes + 1)
  | answered (hdue : Due env w) (hv : ¬ w.Valid (env.clock 1)) {request : Request}
    {response : TokenResponse} (htaken : takenResponse L cfg env w = some response)
    (hmem : request ∈ t.requests) (hi : issued L env request = some response)
    (ha : t.world.auth.accessToken = response.accessToken)
    (hcount : t.world.counters .tokenRefreshes = w.counters .tokenRefreshes + 1)
  | failed (hdue : Due env w) (hv : ¬ w.Valid (env.clock 1))
    (hr : refreshResponse L cfg env w = none)
    (ho : obtainResponse L cfg env w = none)
    (hcount : t.world.counters .tokenRefreshes = w.counters .tokenRefreshes)

theorem issued_of_refreshResponse {response : TokenResponse}
    (h : refreshResponse L cfg env w = some response) :
    issued L env (refreshRequest cfg w.auth) = some response := by
  unfold refreshResponse at h
  split at h
  · cases h
  · exact h

theorem obtainResponse_of_issued {apiKey : String} {response : TokenResponse}
    (hk : env.readSecret w .apiKey = .ok apiKey)
    (h : issued L env (obtainRequest cfg apiKey) = some response) :
    obtainResponse L cfg env w = some response := by
  rw [obtainResponse, hk]
  exact h

theorem ticked_tick (L : Lib) (cfg : ModuleConfig) (env : Surroundings) (w : World) :
    Ticked L cfg env w (tick L cfg env w) := by
  by_cases hdue : Due env w
  · obtain ⟨r, c, hc, htick⟩ := tick_of_due L cfg hdue
    rw [htick]
    have hw : (Course.begin w).looked.world = w := looked_world
    cases hc with
    | valid hv =>
      rw [hw, valid_looked] at hv
      refine .unasked hdue hv ?_ ?_
      · simp only [looked_requests]
        rfl
      · simp only [looked_world, countedBy, Function.update_self]
        rfl
    | @refreshed response hv hr =>
      rw [hw] at hr hv
      rw [valid_looked] at hv
      have hi := issued_of_refreshResponse hr
      refine .answered hdue hv (by rw [takenResponse, hr]; rfl) List.mem_cons_self
        (by rw [hw]; exact hi) ?_ ?_
      · simp only [afterResponse_auth, applied]
      · simp only [afterResponse_counters, hw, countedBy, Function.update_self]
    | @obtained response apiKey requests hv hr hk hi =>
      rw [hw] at hr hv hk
      rw [valid_looked] at hv
      have ho := obtainResponse_of_issued hk hi
      refine .answered hdue hv (by rw [takenResponse, hr, ho]; rfl) List.mem_cons_self hi ?_ ?_
      · simp only [afterResponse_auth, applied]
      · simp only [afterResponse_counters, hw, countedBy, Function.update_self]
    | failed hv hr ho =>
      rw [hw] at hr hv ho
      rw [valid_looked] at hv
      refine .failed hdue hv hr ho ?_
      simp only [looked_world, countedBy]
      rfl
  · rw [tick_of_not_due hdue]
    refine .skipped hdue ?_
    rw [looked_world]
    rfl

theorem renewed_iff {c : Course} {request : Request} {response : TokenResponse}
    (hmem : request ∈ c.requests) (hi : issued L env request = some response)
    (ha : c.world.auth.accessToken = response.accessToken) :
    Renewed L env c ↔ response.accessToken ≠ "" := by
  constructor
  · rintro ⟨request', -, response', -, hne, ha'⟩
    rw [← ha, ha']
    exact hne
  · intro hne
    exact ⟨request, hmem, response, hi, hne, ha⟩

theorem tickRefreshes_of_counted
    (h : (tick L cfg env w).world.counters .tokenRefreshes = w.counters .tokenRefreshes + 1) :
    TickRefreshes L cfg env w ↔ Renewed L env (tick L cfg env w) := by
  constructor
  · intro hsound
    exact hsound.counts (by omega)
  · rintro ⟨request, hmem, hrest⟩
    have hrenewed : Renewed L env (tick L cfg env w) := ⟨request, hmem, hrest⟩
    exact ⟨fun _ _ => ⟨List.ne_nil_of_mem hmem, hrenewed⟩, fun _ => hrenewed⟩

/-- **A tick refreshes** exactly if the token expires between its two looks. -/
theorem tickRefreshes_iff : TickRefreshes L cfg env w ↔ LapsesBetween L cfg env w := by
  cases ticked_tick L cfg env w with
  | skipped hdue hcount =>
    refine iff_of_true ⟨fun hsoon => absurd (due_of_expiresSoon hsoon) hdue, fun h => ?_⟩
      fun h => absurd h hdue
    omega
  | unasked hdue hv hreq hcount =>
    rw [tickRefreshes_of_counted hcount]
    refine iff_of_false ?_ fun h => (h hdue).1 hv
    rintro ⟨request, hmem, -⟩
    rw [hreq] at hmem
    exact absurd hmem List.not_mem_nil
  | @answered hdue hv request response htaken hmem hi ha hcount =>
    rw [tickRefreshes_of_counted hcount, renewed_iff hmem hi ha]
    constructor
    · intro hne _
      refine ⟨hv, fun response' h => ?_⟩
      rw [htaken] at h
      cases h
      exact hne
    · intro h
      exact (h hdue).2 response htaken
  | failed hdue hv hr ho hcount =>
    refine iff_of_true ⟨fun _ haccepts => ?_, fun h => ?_⟩ fun _ => ⟨hv, fun response h => ?_⟩
    · rcases haccepts with h | h
      · exact absurd hr h
      · exact absurd ho h
    · omega
    · rw [takenResponse, hr, ho] at h
      cases h

def accepting : Surroundings where
  clock _ := 0
  manager _ := .ok ⟨200, "fresh"⟩
  unreadable _ := none
  unwritable _ := none

def fourMinutesLeft : World :=
  { freshWorld with auth := ⟨"token", "refresh", Duration.fromSecs 240⟩ }

/-- **A tick does nothing about a token that expires soon**, and counts a refresh. -/
theorem unasked_tick_counted :
    ExpiresSoon accepting fourMinutesLeft ∧
      Accepts plainLib plainConfig accepting fourMinutesLeft ∧
      ¬ TickRefreshes plainLib plainConfig accepting fourMinutesLeft ∧
      (tick plainLib plainConfig accepting fourMinutesLeft).requests = [] ∧
      (tick plainLib plainConfig accepting fourMinutesLeft).world.auth = fourMinutesLeft.auth ∧
      (tick plainLib plainConfig accepting fourMinutesLeft).world.counters .tokenRefreshes = 1 := by
  have hnone : (tick plainLib plainConfig accepting fourMinutesLeft).requests = [] := by decide
  refine ⟨by decide, .inl (by decide), fun h => ?_, hnone, by decide, by decide⟩
  obtain ⟨request, hmem, -⟩ := h.counts (by decide)
  rw [hnone] at hmem
  exact absurd hmem List.not_mem_nil

end

/-! ## Sequences of operations -/

section

open Surroundings

variable (L : Lib) (cfg : ModuleConfig)

inductive TokenOp
  | ensureValidToken
  | refreshToken
  | revokeToken
  deriving DecidableEq, Repr

structure TokenCall where
  op : TokenOp
  env : Surroundings
  writable : env.Writable

def TokenCall.step (w : World) (x : TokenCall) : Option World :=
  match x.op with
  | .ensureValidToken => some (x.env.perform (AuthManager.ensureValidToken L cfg) w).2.world
  | .refreshToken => some (x.env.perform (AuthManager.refreshToken L cfg) w).2.world
  | .revokeToken => some (x.env.perform (AuthManager.revokeToken cfg) w).2.world

def rebuilt (env : Surroundings) (w : World) : TokenState :=
  (env.perform (AuthManager.new L : Op AuthError Unit) w).2.world.auth

/-- A new auth manager holds the tokens of the running one. -/
def Restorable (w : World) : Prop :=
  ∀ env : Surroundings, env.Readable →
    (rebuilt L env w).accessToken = w.auth.accessToken ∧
      (rebuilt L env w).refreshToken = w.auth.refreshToken

/-- A response without a refresh token finds none in the store. -/
def StoresObtained (w : World) (x : TokenCall) : Prop :=
  match x.op with
  | .ensureValidToken =>
    ¬ w.Valid (x.env.clock 0) → refreshResponse L cfg x.env w = none →
      ∀ response ∈ obtainResponse L cfg x.env w, response.refreshToken = "" →
        (w.secrets .refreshToken).getD "" = ""
  | .refreshToken | .revokeToken => True

variable {L cfg} {env : Surroundings} {w : World}

def cachedTokens (L : Lib) (secrets : SecretKey → Option String) : TokenState :=
  match secrets .accessToken with
  | none => default
  | some access =>
    ⟨access, (secrets .refreshToken).getD "", (extractExpiry L access).getD 0⟩

theorem rebuilt_eq (h : env.Readable) : rebuilt L env w = cachedTokens L w.secrets := by
  have hread : ∀ key, env.readSecret w key =
      (w.secrets key).elim (.error "secret not found") .ok := by
    intro key
    unfold readSecret
    rw [h key]
    cases w.secrets key <;> rfl
  have hload : Prog.exec env.handle (AuthManager.loadCachedToken L : Op AuthError TokenState)
      ⟨w, 0, []⟩ = (.ok (cachedTokens L w.secrets), ⟨w, 0, []⟩) := by
    unfold cachedTokens
    cases ha : w.secrets .accessToken with
    | none => simp [AuthManager.loadCachedToken, hread, ha]
    | some access =>
      cases hr : w.secrets .refreshToken <;>
        simp [AuthManager.loadCachedToken, hread, ha, hr, Except.toOption]
  have hexec : env.perform (AuthManager.new L : Op AuthError Unit) w = _ := exec_bind_ok hload
  rw [rebuilt, hexec]
  rfl

theorem restorable_iff_cached :
    Restorable L w ↔
      (cachedTokens L w.secrets).accessToken = w.auth.accessToken ∧
        (cachedTokens L w.secrets).refreshToken = w.auth.refreshToken := by
  constructor
  · intro h
    have hreadable : (⟨fun _ => 0, fun _ => .error "", fun _ => none, fun _ => none⟩ :
      Surroundings).Readable := fun _ => rfl
    rw [← rebuilt_eq (w := w) hreadable]
    exact h _ hreadable
  · intro h env henv
    rw [rebuilt_eq henv]
    exact h

theorem put_of_writable (h : env.Writable) (key : SecretKey) (value : Option String) :
    env.put key value w = { w with secrets := Function.update w.secrets key value } := by
  rw [put, h key]

theorem restorable_afterResponse (h : env.Writable) (response : TokenResponse) (overwrite : Bool) :
    Restorable L (w.afterResponse L env response overwrite) ↔
      (response.refreshToken = "" → (w.secrets .refreshToken).getD "" =
        (applied L w.auth response overwrite).refreshToken) := by
  rw [restorable_iff_cached, afterResponse_auth]
  unfold World.afterResponse
  by_cases hr : response.refreshToken = "" <;> simp [hr, put_of_writable h, cachedTokens, applied]

theorem restorable_refreshed (hw : Restorable L w) (h : env.Writable) {response : TokenResponse}
    (hr : refreshResponse L cfg env w = some response) :
    Restorable L (w.afterResponse L env response false) := by
  rw [restorable_afterResponse h]
  intro hempty
  obtain ⟨-, hrefresh⟩ := restorable_iff_cached.mp hw
  have hne : w.auth.refreshToken ≠ "" := by
    intro he
    rw [refreshResponse, if_pos he] at hr
    cases hr
  simp only [applied, hempty, Bool.false_or, ne_eq, not_true, decide_false, Bool.false_eq_true,
    if_false]
  rw [← hrefresh] at hne ⊢
  unfold cachedTokens at hne ⊢
  cases ha : w.secrets .accessToken with
  | none =>
    rw [ha] at hne
    exact absurd rfl hne
  | some access => rfl

theorem refreshToken_cases (L : Lib) (cfg : ModuleConfig) (env : Surroundings) (w : World) :
    (env.perform (AuthManager.refreshToken L cfg) w).2.world = w ∨
      ∃ response, refreshResponse L cfg env w = some response ∧
        (env.perform (AuthManager.refreshToken L cfg) w).2.world =
          w.afterResponse L env response false := by
  by_cases h : w.auth.refreshToken = ""
  · simp [perform, AuthManager.refreshToken, h]
  have hrefresh := exec_refreshLocked L cfg env ⟨w, 0, []⟩
  obtain ⟨response, hi, hr⟩ | ⟨hi, err, hr⟩ :=
    responded_cases L env ⟨w, 0, []⟩ (refreshRequest cfg w.auth) false
  · refine .inr ⟨response, by rw [refreshResponse, if_neg h, hi], ?_⟩
    simp [perform, AuthManager.refreshToken, h, ProgE.mapError, hrefresh, hr]
  · exact .inl (by simp [perform, AuthManager.refreshToken, h, ProgE.mapError, hrefresh, hr])

theorem revokeToken_cases (cfg : ModuleConfig) (env : Surroundings) (w : World) :
    (env.perform (AuthManager.revokeToken cfg) w).2.world = w ∨
      (env.perform (AuthManager.revokeToken cfg) w).2.world =
        env.put .refreshToken none (env.put .accessToken none { w with auth := default }) := by
  by_cases h : w.auth.accessToken = ""
  · simp [perform, AuthManager.revokeToken, AuthManager.token, h]
  cases hr : AuthManager.readRevokeReply (env.manager
      (.revoke (cfg.managerUrl ++ "/api/v1/auth/revoke") w.auth.accessToken)) with
  | error err => simp [perform, AuthManager.revokeToken, AuthManager.token, h, hr]
  | ok u => simp [perform, AuthManager.revokeToken, AuthManager.token, h, hr]

theorem restorable_ensured (hw : Restorable L w) (h : env.Writable)
    {x : Except AuthError Unit × Course} (hx : Ensured L cfg env (Course.begin w) x) :
    Restorable L x.2.world ↔
      (¬ w.Valid (env.clock 0) → refreshResponse L cfg env w = none →
        ∀ response ∈ obtainResponse L cfg env w, response.refreshToken = "" →
          (w.secrets .refreshToken).getD "" = "") := by
  cases hx with
  | valid hv =>
    rw [looked_world]
    exact iff_of_true hw fun hn => absurd hv hn
  | refreshed hv hr =>
    refine iff_of_true (restorable_refreshed hw h hr) fun _ hn => ?_
    exact absurd (hr.symm.trans hn) (Option.some_ne_none _)
  | @obtained response apiKey requests hv hr hk hi =>
    have ho : obtainResponse L cfg env w = some response := obtainResponse_of_issued hk hi
    rw [restorable_afterResponse h]
    simp only [applied, Bool.true_or, if_true]
    constructor
    · intro hstored _ _ response' hmem hempty
      rw [ho] at hmem
      cases hmem
      exact (hstored hempty).trans hempty
    · intro hcond hempty
      rw [hempty]
      exact hcond hv hr response ho hempty
  | failed hv hr ho =>
    refine iff_of_true (by rw [looked_world]; exact hw) fun _ _ response hmem => ?_
    exact absurd (ho.symm.trans hmem) nofun

theorem restorable_step {x : TokenCall} {t : World} (hw : Restorable L w)
    (h : x.step L cfg w = some t) : Restorable L t ↔ StoresObtained L cfg w x := by
  obtain ⟨op, env, hwritable⟩ := x
  cases op with
  | ensureValidToken =>
    obtain rfl := Option.some.inj h
    exact restorable_ensured hw hwritable (ensured_ensureValidToken ..)
  | refreshToken =>
    obtain rfl := Option.some.inj h
    refine iff_of_true ?_ trivial
    rcases refreshToken_cases L cfg env w with hsame | ⟨response, hr, hafter⟩
    · rw [hsame]
      exact hw
    · rw [hafter]
      exact restorable_refreshed hw hwritable hr
  | revokeToken =>
    obtain rfl := Option.some.inj h
    refine iff_of_true ?_ trivial
    rcases revokeToken_cases cfg env w with hsame | hafter
    · rw [hsame]
      exact hw
    · rw [hafter, restorable_iff_cached, put_of_writable hwritable, put_of_writable hwritable]
      simp [cachedTokens]

theorem exists_run_step (L : Lib) (cfg : ModuleConfig) (w : World) (as : List TokenCall) :
    ∃ t, run (TokenCall.step L cfg) w as = some t := by
  induction as generalizing w with
  | nil => exact ⟨w, rfl⟩
  | cons x as ih =>
    obtain ⟨u, hu⟩ : ∃ u, x.step L cfg w = some u := by
      unfold TokenCall.step
      split <;> exact ⟨_, rfl⟩
    obtain ⟨t, ht⟩ := ih u
    exact ⟨t, run_cons_eq_some.mpr ⟨u, hu, ht⟩⟩

/-- **The tokens survive a restart** exactly if no response drops a stored refresh token. -/
theorem restorable_iff (hw : Restorable L w) (as : List TokenCall) :
    Throughout (TokenCall.step L cfg) (Restorable L) w as ↔
      Along (TokenCall.step L cfg) (StoresObtained L cfg) w as := by
  obtain ⟨t, ht⟩ := exists_run_step L cfg w as
  exact throughout_iff_along (J := fun _ => True) (fun _ _ _ _ _ _ => trivial)
    (fun _ _ _ _ hw h => restorable_step hw h) trivial hw ht

theorem restorable_obtained :
    Restorable plainLib freshWorld ∧
      Throughout (TokenCall.step plainLib plainConfig) (Restorable plainLib) freshWorld
        [⟨.ensureValidToken, accepting, fun _ => rfl⟩] := by
  have hfresh : Restorable plainLib freshWorld := restorable_iff_cached.mpr ⟨rfl, rfl⟩
  exact ⟨hfresh, (restorable_iff hfresh _).mpr ⟨fun _ _ _ _ _ => rfl, trivial⟩⟩

def refusingRefresh : Surroundings :=
  { accepting with
    manager := fun
      | .refresh _ _ => .ok ⟨401, "refused"⟩
      | _ => .ok ⟨200, "fresh"⟩ }

def staleTokens : World :=
  { freshWorld with
    auth := ⟨"stale", "old refresh", 0⟩
    secrets := fun
      | .apiKey => some "key"
      | .accessToken => some "stale"
      | .refreshToken => some "old refresh" }

/-- **A refused refresh token comes back.** -/
theorem refused_refresh_token_returns :
    Restorable plainLib staleTokens ∧
      ∃ w, TokenCall.step plainLib plainConfig staleTokens
          ⟨.ensureValidToken, { refusingRefresh with clock := fun _ => 1 }, fun _ => rfl⟩ = some w ∧
        w.auth.refreshToken = "" ∧ (rebuilt plainLib accepting w).refreshToken = "old refresh" ∧
        ¬ Restorable plainLib w := by
  refine ⟨restorable_iff_cached.mpr ⟨rfl, rfl⟩, _, rfl, by decide, by decide, fun h => ?_⟩
  have hsame := (restorable_iff_cached.mp h).2
  exact absurd hsame (by decide)

end

end Penguind.Tobogganing
