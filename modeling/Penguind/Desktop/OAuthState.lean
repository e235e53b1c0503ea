import Penguind.Desktop.LoginHub

/-!
# The state parameter of OAuth flows

A completion should be accepted only for a state that was issued and that no accepted completion
has used. The log of states is kept for the statements only.
-/

namespace Penguind.Desktop.OAuth

open Foundation Stateful Waddlebot

def desktopErrorToString : DesktopError → String
  | .invalidCredentials => "Invalid email or password"
  | .noSession => "No active session"
  | .keychainError message => "Keychain error: " ++ message
  | .grpcError message => "IPC error: " ++ message
  | .oauthError message => "OAuth error: " ++ message
  | .apiRequest status => "API request failed with status " ++ toString status
  | .invalidCallback message => "OAuth callback error: " ++ message
  | .urlError message => "URL error: " ++ message
  | .internal message => "Internal error: " ++ message

structure StartReply where
  authorizeUrl : String
  state : String
  platform : String
  deriving DecidableEq, Repr

structure CompleteReply where
  success : Bool
  message : String
  deriving DecidableEq, Repr

variable {U : Type} (L : SessionLib U)

namespace Commands

def platformOf (platform : String) : Option OAuthPlatform :=
  let name := L.toLowercase platform
  if name = "google" then some .google
  else if name = "github" then some .gitHub
  else if name = "discord" then some .discord
  else none

def oauthStart (w : World) (platform hubUrl : String) :
    Stateful (Client U) String StartReply := do
  let platform ← ofOption "Unsupported OAuth platform" (platformOf L platform)
  let (authorizeUrl, context) ← ExceptT.adapt desktopErrorToString
    (Desktop.oauthStart L w hubUrl platform)
  pure ⟨authorizeUrl, context.state, context.platform⟩

def oauthComplete (w : World) (token stateParam storedState : String) :
    Stateful (Client U) String CompleteReply := do
  ensure (stateParam = storedState) "OAuth state mismatch"
  ExceptT.adapt desktopErrorToString (Desktop.oauthComplete L w ⟨token, stateParam⟩ storedState)
  pure ⟨true, "OAuth login successful"⟩

end Commands

inductive Event
  | issued (state : String)
  | accepted (state : String)
  deriving DecidableEq, Repr

structure App (U : Type) where
  client : Client U
  log : List Event

/-- Whatever else happens to the session between two commands is one label. -/
inductive Command (U : Type)
  | start (platform hubUrl : String) (w : World)
  | complete (token stateParam storedState : String) (w : World)
  | elsewhere (client : Client U)

def step (s : App U) : Command U → Option (App U)
  | .start platform hubUrl w =>
    match Commands.oauthStart L w platform hubUrl s.client with
    | (.ok reply, client) => some ⟨client, .issued reply.state :: s.log⟩
    | (.error _, client) => some { s with client := client }
  | .complete token stateParam storedState w =>
    match Commands.oauthComplete L w token stateParam storedState s.client with
    | (.ok _, client) => some ⟨client, .accepted stateParam :: s.log⟩
    | (.error _, client) => some { s with client := client }
  | .elsewhere client => some { s with client := client }

def Fresh (log : List Event) (state : String) : Prop :=
  .issued state ∈ log ∧ .accepted state ∉ log

def OnceIssued : List Event → Prop
  | [] => True
  | .issued _ :: log => OnceIssued log
  | .accepted state :: log => Fresh log state ∧ OnceIssued log

variable {L} {c t : Client U} {w : World} {token stateParam storedState : String}

variable (L w) in
/-- There is an access token, and a session to store and hand on. -/
def Completes (c : Client U) (token : String) : Prop :=
  ∃ tokens session t, extractTokensFromJwt L token = .ok tokens ∧
    Ends (TokenStore.load L w) c session c ∧
    Ends (adopt L w ⟨tokens.accessToken, tokens.refreshToken, session.hubBaseUrl⟩) c () t

/-- **A completion is accepted** exactly if its two states are equal and the token can be adopted.
-/
theorem accepted_iff :
    (∃ reply t, Ends (Commands.oauthComplete L w token stateParam storedState) c reply t) ↔
      stateParam = storedState ∧ Completes L w c token := by
  simp only [Commands.oauthComplete, ends_bind, ends_ensure, ends_adapt, ends_oauthComplete,
    ends_pure]
  constructor
  · rintro ⟨_, _, _, _, ⟨rfl, rfl⟩, _, t, ⟨tokens, session, _, htok, hload, hadopt⟩, -⟩
    obtain ⟨rfl, -⟩ := storesHub_of_ends_load hload
    refine ⟨rfl, tokens, session, t, ?_, hload, hadopt⟩
    simpa [completeOauth, verifyOauthState] using htok
  · rintro ⟨rfl, tokens, session, t, htok, hload, hadopt⟩
    refine ⟨_, t, (), c, ⟨rfl, rfl⟩, (), t, ⟨tokens, session, c, ?_, hload, hadopt⟩, rfl, rfl⟩
    simpa [completeOauth, verifyOauthState] using htok

variable (L) in
/-- A completion that is accepted brings an issued, unused state. -/
def Proper (s : App U) : Command U → Prop
  | .start _ _ _ | .elsewhere _ => True
  | .complete token stateParam storedState w =>
    stateParam = storedState → Completes L w s.client token → Fresh s.log storedState

variable {s s' : App U} {a : Command U}

theorem onceIssued_step (h : step L s a = some s') :
    OnceIssued s'.log ↔ OnceIssued s.log ∧ Proper L s a := by
  revert h
  fun_cases step L s a with rintro ⟨⟩
  | case1 | case2 | case5 => simp [OnceIssued, Proper]
  | case3 token stateParam storedState w reply t heq =>
    obtain ⟨rfl, hcompletes⟩ := accepted_iff.mp ⟨reply, t, heq⟩
    simp [OnceIssued, Proper, hcompletes, and_comm]
  | case4 token stateParam storedState w e t heq =>
    refine (and_iff_left fun hstate hcompletes => ?_).symm
    obtain ⟨reply, u, hends⟩ := accepted_iff.mpr ⟨hstate, hcompletes⟩
    cases heq.symm.trans hends

theorem issued_step (h64 : ∀ bytes : Vector UInt8 32, L.base64Url bytes.toList ≠ "")
    (h : step L s a = some s') (hs : .issued "" ∉ s.log) : .issued "" ∉ s'.log := by
  revert h
  fun_cases step L s a with rintro ⟨⟩
  | case1 platform hubUrl w reply t heq =>
    have hends : Ends (Commands.oauthStart L w platform hubUrl) s.client reply t := heq
    simp only [Commands.oauthStart, ends_bind, ends_ofOption, ends_adapt, ends_oauthStart,
      ends_pure] at hends
    obtain ⟨_, _, -, ⟨_, context⟩, _, hstart, hreply, -⟩ := hends
    obtain ⟨_, state, _, -, hstate, -, -, hcontext⟩ := hstart
    have hne : reply.state ≠ "" := by
      rw [← hreply, ← congrArg (fun x => x.2.state) hcontext]
      revert hstate
      fun_cases generateOauthState with rintro ⟨⟩
      | case1 => exact h64 _
    simp [hs, hne.symm]
  | case3 => simpa using hs
  | _ => exact hs

theorem OnceIssued.issued {log : List Event} (h : OnceIssued log) {state : String}
    (hmem : .accepted state ∈ log) : .issued state ∈ log := by
  induction log with
  | nil => cases hmem
  | cons e log ih =>
    rcases List.mem_cons.mp hmem with rfl | hmem
    · exact List.mem_cons_of_mem _ h.1.1
    · refine List.mem_cons_of_mem _ (ih ?_ hmem)
      cases e with
      | issued _ => exact h
      | accepted _ => exact h.2

/-- **The callers have to see to it** that accepted states were issued and are unused. -/
theorem onceIssued_iff {L : SessionLib U}
    (h64 : ∀ bytes : Vector UInt8 32, L.base64Url bytes.toList ≠ "")
    {c : Client U} {as : List (Command U)} {t : App U} (hr : run (step L) ⟨c, []⟩ as = some t) :
    (OnceIssued t.log ↔ Along (step L) (Proper L) ⟨c, []⟩ as) ∧
      (OnceIssued t.log → .accepted "" ∉ t.log) := by
  have hiff := run_iff (fun s a s' => onceIssued_step) hr
  have hissued : .issued "" ∉ t.log :=
    run_invariant_of_step (I := fun s : App U => .issued "" ∉ s.log)
      (fun s a s' hs h => issued_step h64 h hs) (by simp) hr
  exact ⟨hiff.trans (and_iff_right trivial), fun h hmem => hissued (h.issued hmem)⟩

def storedClient : Client PlainUrl := signedIn "https://hub.example:8443" exampleHub

def completion (state : String) : Command PlainUrl :=
  .complete "jwt" state state (smooth .timeout)

def beginning : Command PlainUrl := .start "Google" "https://hub.example:8443" (smooth .timeout)

theorem flow_onceIssued : ∃ t, run (step exampleLib) ⟨storedClient, []⟩
    [beginning, completion "state"] = some t ∧ .accepted "state" ∈ t.log ∧ OnceIssued t.log := by
  let s₁ := (step exampleLib ⟨storedClient, []⟩ beginning).get (by decide +kernel)
  let s₂ := (step exampleLib s₁ (completion "state")).get (by decide +kernel)
  have h₁ : step exampleLib ⟨storedClient, []⟩ beginning = some s₁ := (Option.some_get _).symm
  have h₂ : step exampleLib s₁ (completion "state") = some s₂ := (Option.some_get _).symm
  have hr : run (step exampleLib) ⟨storedClient, []⟩ [beginning, completion "state"] = some s₂ :=
    run_cons_eq_some.mpr ⟨s₁, h₁, run_cons_eq_some.mpr ⟨s₂, h₂, rfl⟩⟩
  have h64 : ∀ bytes : Vector UInt8 32, exampleLib.base64Url bytes.toList ≠ "" := by
    intro bytes
    show "state" ≠ ""
    decide
  refine ⟨s₂, hr, by decide +kernel, (onceIssued_iff h64 hr).1.mpr ?_⟩
  rw [along_cons h₁, along_cons h₂]
  exact ⟨trivial, fun _ _ => ⟨by decide +kernel, by decide +kernel⟩, trivial⟩

/-- **Completions are accepted** for empty, invented and used states. -/
theorem invented_states_accepted :
    let log (as : List (Command PlainUrl)) :=
      (run (step exampleLib) ⟨storedClient, []⟩ as).map App.log
    log [completion ""] = some [.accepted ""] ∧
      log [completion "invented"] = some [.accepted "invented"] ∧
      log [beginning, completion "state", completion "state"] =
        some [.accepted "state", .accepted "state", .issued "state"] ∧
      ¬ OnceIssued [.accepted ""] ∧ ¬ OnceIssued [.accepted "invented"] ∧
      ¬ OnceIssued [.accepted "state", .accepted "state", .issued "state"] := by
  refine ⟨by decide +kernel, by decide +kernel, by decide +kernel, ?_, ?_, ?_⟩ <;>
    simp [OnceIssued, Fresh]

end Penguind.Desktop.OAuth
