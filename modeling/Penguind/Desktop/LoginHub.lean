import Penguind.Desktop.Session

/-!
# The hub a login is for

A login should bring the credentials to its hub only, be possible without a session, and leave the
keychain and the daemon with that hub and its tokens.
-/

namespace Penguind.Desktop

open Foundation Stateful Extplugin Waddlebot

/-! ## Hubs -/

variable {U : Type}

/-- Joining keeps scheme, host and port; the login request can be written; tokens can be carried. -/
structure SessionLaws (L : SessionLib U) where
  port : U → Option UInt16
  join_origin : ∀ (base : U) (ref : String) (url : U), Url.IsPathAbsolute ref.toList →
    L.join base ref = some url → L.scheme url = L.scheme base ∧ L.hostStr url = L.hostStr base ∧
      port url = port base
  join_isSome : ∀ (base : U) (ref : String), L.scheme base ∈ sendableSchemes →
    Url.IsPathAbsolute ref.toList → (L.join base ref).isSome
  toUppercase_post : L.toUppercase "POST" = "POST"
  toVec_loginBody : ∀ email password, ∃ body, L.toVec (loginBody email password) = .ok body
  fromSlice_token : ∃ body token, L.fromSlice body = .ok (.object [("access_token", .string token)])
  insecureDecode_token : ∃ jwt token,
    L.insecureDecode jwt = .ok (.object [("access_token", .string token)])

variable {L : SessionLib U} (W : SessionLaws L)

structure SameHub (v u : U) : Prop where
  scheme : L.scheme v = L.scheme u
  host : L.hostStr v = L.hostStr u
  port : W.port v = W.port u

def IssuedAt (u : U) (issuer : Option U) : Prop := ∃ v ∈ issuer, SameHub W v u

variable {W}

theorem SameHub.refl (u : U) : SameHub W u u := ⟨rfl, rfl, rfl⟩

theorem SameHub.symm {v u : U} (h : SameHub W v u) : SameHub W u v :=
  ⟨h.scheme.symm, h.host.symm, h.port.symm⟩

theorem SameHub.trans {v u t : U} (h : SameHub W v u) (h' : SameHub W u t) : SameHub W v t :=
  ⟨h.scheme.trans h'.scheme, h.host.trans h'.host, h.port.trans h'.port⟩

theorem sameHub_of_join {base url : U} {ref : String} (hp : "/api/v1/".toList <+: ref.toList)
    (h : L.join base ref = some url) : SameHub W url base := by
  obtain ⟨hscheme, hhost, hport⟩ := W.join_origin base ref url (isPathAbsolute_of_prefixed hp) h
  exact ⟨hscheme, hhost, hport⟩

theorem sameHub_of_buildRequest {creds : SessionCredentials U} {req : HttpRequest}
    {out : Outgoing U} (h : buildRequest L.toWebLib creds req = .ok out) :
    SameHub W out.url creds.hubBaseUrl := by
  obtain ⟨hvalid, hjoin⟩ := join_of_buildRequest h
  exact sameHub_of_join (prefix_of_validateRequestPath hvalid) hjoin

theorem issuedAt_getLast {u : U} {contacted : List U} (hne : contacted ≠ [])
    (h : ∀ v ∈ contacted, SameHub W v u) : IssuedAt W u contacted.getLast? :=
  ⟨_, List.getLast?_eq_some_getLast hne, h _ (List.getLast_mem hne)⟩

def Client.NoSession (c : Client U) : Prop :=
  c.daemon = none ∧ c.keychain = ⟨none, none, none⟩

variable (W) in
structure Holds (u : U) (c : Client U) : Prop where
  hub : ∃ text v, c.keychain.hubBaseUrl = some (L.asBytes text) ∧ L.parse text = some v ∧
    SameHub W v u
  access : ∃ entry ∈ c.keychain.accessToken, IssuedAt W u entry.issuer
  refresh : ∀ entry ∈ c.keychain.refreshToken, IssuedAt W u entry.issuer
  daemon : ∃ p ∈ c.daemon, SameHub W p.creds.hubBaseUrl u ∧ IssuedAt W u p.issuer

variable (W) in
/-- Credentials go to the hub of `u` only, success leaves its tokens, and success is possible. -/
structure LoginSafe {Ω : Type} (login : Ω → Stateful (Client U) DesktopError Unit) (u : U)
    (c : Client U) : Prop where
  contacts : ∀ w, ∀ v ∈ (login w c).2.contacted, SameHub W v u
  holds : ∀ w t, Ends (login w) c () t → Holds W u t
  possible : c.NoSession → ∃ w t, Ends (login w) c () t

def Client.before (keychain : Keychain U) (daemon : Option (Primed U)) : Client U :=
  ⟨keychain, daemon, []⟩

theorem holds_adopted {u hub : U} {c : Client U} {w : World} {session : StoredSession}
    (hcontacted : c.contacted ≠ []) (hsame : ∀ v ∈ c.contacted, SameHub W v u)
    (hparse : L.parse session.hubBaseUrl = some hub) (hhub : SameHub W hub u)
    (hrefresh : ∀ entry ∈ c.keychain.refreshToken, IssuedAt W u entry.issuer) :
    Holds W u (c.adopted L w session hub) := by
  have hissued := issuedAt_getLast hcontacted hsame
  refine ⟨⟨_, hub, rfl, hparse, hhub⟩, ⟨_, rfl, hissued⟩, ?_, _, rfl, hhub, hissued⟩
  intro entry hentry
  simp only [Client.adopted, Keychain.written, refreshEntry] at hentry
  split at hentry
  · cases hentry
    exact hissued
  · exact hrefresh entry hentry
  · cases hentry

/-! ## Logging in with a password -/

section Password

variable {u : U} {hubUrl email password : String} {c : Client U} {w : World} {req : HttpRequest}

variable (W u) in
structure Bound (c : Client U) : Prop where
  contacted : ∀ v ∈ c.contacted, SameHub W v u
  daemon : ∀ p ∈ c.daemon, L.scheme p.creds.hubBaseUrl ∈ sendableSchemes →
    SameHub W p.creds.hubBaseUrl u

theorem hub_afterForward {p : Primed U} (h : p ∈ (c.afterForward L w req).daemon) :
    ∃ p₀ ∈ c.daemon, p.creds.hubBaseUrl = p₀.creds.hubBaseUrl := by
  obtain ⟨creds, hcreds, rfl⟩ := Option.map_eq_some_iff.mp h
  have hhub : (c.daemon.map Primed.creds).map SessionCredentials.hubBaseUrl =
      some creds.hubBaseUrl := by
    rw [← hub_slot_forwardRequest]
    exact congrArg (Option.map SessionCredentials.hubBaseUrl) hcreds
  obtain ⟨creds₀, hcreds₀, heq⟩ := Option.map_eq_some_iff.mp hhub
  obtain ⟨p₀, hp₀, rfl⟩ := Option.map_eq_some_iff.mp hcreds₀
  exact ⟨p₀, hp₀, heq.symm⟩

variable (W) in
theorem sameHub_of_mem_sent {out : Outgoing U} (h : out ∈ (c.forward L w req).sent) :
    ∃ p ∈ c.daemon, SameHub W out.url p.creds.hubBaseUrl := by
  obtain ⟨creds, hcreds, token, hbuild⟩ := exists_buildRequest_of_mem_sent h
  obtain ⟨p, hp, rfl⟩ := Option.map_eq_some_iff.mp hcreds
  have hsame := sameHub_of_buildRequest (W := W) hbuild
  exact ⟨p, hp, hsame⟩

theorem contacted_afterForward {v : U} (h : v ∈ (c.afterForward L w req).contacted) :
    v ∈ c.contacted ∨ ∃ p ∈ c.daemon, L.scheme p.creds.hubBaseUrl ∈ sendableSchemes ∧
      SameHub W v p.creds.hubBaseUrl := by
  rcases List.mem_append.mp h with h | h
  · exact .inl h
  obtain ⟨h, hscheme⟩ := List.mem_filter.mp h
  obtain ⟨out, hout, rfl⟩ := List.mem_map.mp h
  obtain ⟨p, hp, hsame⟩ := sameHub_of_mem_sent W hout
  refine .inr ⟨p, hp, ?_, hsame⟩
  rw [← hsame.scheme]
  exact of_decide_eq_true hscheme

theorem Bound.afterForward (h : Bound W u c) (req : HttpRequest) :
    Bound W u (c.afterForward L w req) where
  contacted v hv := by
    rcases contacted_afterForward (W := W) hv with hv | ⟨p, hp, hscheme, hsame⟩
    · exact h.contacted v hv
    · exact hsame.trans (h.daemon p hp hscheme)
  daemon p hp hscheme := by
    obtain ⟨p₀, hp₀, heq⟩ := hub_afterForward hp
    rw [heq] at hscheme ⊢
    exact h.daemon p₀ hp₀ hscheme

theorem keeps_bound_login (hu : L.parse hubUrl = some u) :
    Keeps (Bound W u) (login L w hubUrl email password) := by
  refine keeps_bind (keeps_ofExcept _ _) fun body => ?_
  refine keeps_bind (keeps_proxyRequest fun c hc => hc.afterForward _) fun response => ?_
  refine keeps_bind (keeps_ofExcept _ _) fun tokens => ?_
  refine keeps_adopt (fun c k hc => ⟨hc.contacted, hc.daemon⟩) fun c p hp hc =>
    ⟨hc.contacted, ?_⟩
  rintro _ ⟨⟩ -
  obtain rfl : u = p.creds.hubBaseUrl :=
    Option.some.inj (hu.symm.trans (parse_of_checkHub hp))
  exact .refl _

theorem mem_contacted (W : SessionLaws L) {out : Outgoing U}
    (hscheme : ∀ p ∈ c.daemon, L.scheme p.creds.hubBaseUrl ∈ sendableSchemes)
    (hout : out ∈ (c.forward L w req).sent) :
    out.url ∈ (c.afterForward L w req).contacted := by
  obtain ⟨p, hp, hsame⟩ := sameHub_of_mem_sent W hout
  refine List.mem_append_right _ (List.mem_filter.mpr ⟨List.mem_map_of_mem hout, ?_⟩)
  rw [hsame.scheme]
  exact decide_eq_true (hscheme p hp)

theorem contacted_of_result (W : SessionLaws L) {response : HttpResponse}
    (h : (c.forward L w req).result = .ok response) :
    (∃ p ∈ c.daemon, L.scheme p.creds.hubBaseUrl ∈ sendableSchemes) ∧
      (c.afterForward L w req).contacted ≠ [] := by
  obtain ⟨hsent, r, hr⟩ := sent_ne_nil_of_result h
  cases hd : c.daemon with
  | none => simp [Client.forward, hd, forwardRequest] at h
  | some p =>
    have hscheme : L.scheme p.creds.hubBaseUrl ∈ sendableSchemes := by
      by_contra hno
      simp [hd, reached, hno, receive] at hr
    refine ⟨⟨p, rfl, hscheme⟩, ?_⟩
    obtain ⟨out, hout⟩ := List.exists_mem_of_ne_nil _ hsent
    refine List.ne_nil_of_mem (mem_contacted W (fun q hq => ?_) hout)
    cases hd.symm.trans hq
    exact hscheme

variable (W hubUrl u) in
/-- There is a session for the hub of `u`, and refresh tokens are from it. -/
structure PasswordReady (c : Client U) : Prop where
  session : ¬ c.NoSession
  sameHub : ∀ p ∈ c.daemon, L.scheme p.creds.hubBaseUrl ∈ sendableSchemes →
    SameHub W p.creds.hubBaseUrl u
  refresh : (∃ p ∈ c.daemon, L.scheme p.creds.hubBaseUrl ∈ sendableSchemes) →
    checkHub L.toWebLib hubUrl = .ok u →
      ∀ entry ∈ c.keychain.refreshToken, IssuedAt W u entry.issuer

theorem loginSafe_of_passwordReady (hu : L.parse hubUrl = some u)
    (h : PasswordReady W u hubUrl (.before keychain daemon)) :
    LoginSafe W (fun w => login L w hubUrl email password) u (.before keychain daemon) := by
  have hbound : Bound W u (.before keychain daemon) := ⟨by simp [Client.before], h.sameHub⟩
  refine ⟨fun w => (keeps_bound_login hu _ hbound).contacted, fun w t ht => ?_,
    fun hno => absurd hno h.session⟩
  obtain ⟨body, response, tokens, -, -, hres, -, hadopt⟩ := ends_login.mp ht
  obtain ⟨-, -, hub, hhub, rfl⟩ := ends_adopt.mp hadopt
  obtain ⟨hdaemon, hne⟩ := contacted_of_result W hres
  obtain rfl : u = hub := Option.some.inj (hu.symm.trans (parse_of_checkHub hhub))
  exact holds_adopted hne (hbound.afterForward _).contacted hu (.refl _)
    (h.refresh hdaemon hhub)

theorem exists_buildRequest_loginRequest (W : SessionLaws L) (creds : SessionCredentials U)
    (body : Bytes) (h : L.scheme creds.hubBaseUrl ∈ sendableSchemes) :
    ∃ out, buildRequest L.toWebLib creds (loginRequest body) = .ok out := by
  have hp : "/api/v1/".toList <+: loginPath.toList := by decide
  obtain ⟨url, hurl⟩ := Option.isSome_iff_exists.mp
    (W.join_isSome creds.hubBaseUrl loginPath h (isPathAbsolute_of_prefixed hp))
  have hsame : SameHub W url creds.hubBaseUrl := sameHub_of_join hp hurl
  have hvalid : validateRequestPath loginPath = .ok () := by rfl
  simp [buildRequest, loginRequest, hvalid, hurl, hsame.scheme, hsame.host, W.toUppercase_post,
    bind, Except.bind]

theorem proxyRequest_state (h : w.proxied = .delivered) :
    (proxyRequest L w req c).2 = c.afterForward L w req := by
  rw [proxyRequest, h]
  show ((get >>= _ : Stateful (Client U) DesktopError HttpResponse) c).2 = _
  rw [bind_apply_of_ends (ends_get.mpr ⟨rfl, rfl⟩),
    bind_apply_of_ends (a := ()) (ends_modify.mpr rfl)]
  exact keeps_ofExcept (P := (· = c.afterForward L w req)) _ _ _ rfl

theorem mem_contacted_login {body : Bytes} {v : U}
    (hbody : L.toVec (loginBody email password) = .ok body) (hprox : w.proxied = .delivered)
    (hv : v ∈ (c.afterForward L w (loginRequest body)).contacted) :
    v ∈ (login L w hubUrl email password c).2.contacted := by
  unfold login
  rw [bind_apply_of_ends (ends_ofExcept.mpr ⟨hbody, rfl⟩)]
  refine state_bind_of_ends (P := fun c : Client U => v ∈ c.contacted) ?_ fun response t _ => ?_
  · rw [proxyRequest_state hprox]
    exact hv
  · exact keeps_bind (keeps_ofExcept _ _) fun tokens =>
      keeps_adopt (fun _ _ h => h) fun _ _ _ h => h

/-- Only the refresh token can be neither read nor deleted. -/
def smooth (answer : SendOutcome) : World where
  proxied := .delivered
  answers := ⟨answer, .timeout, .timeout⟩
  setAccess := .delivered
  setRefresh := .delivered
  deleteRefresh := .requestLost ""
  setHub := .delivered
  getAccess := none
  getRefresh := some ""
  getHub := none
  primed := .delivered
  random := .ok (Vector.replicate 32 0)

theorem exists_ends_login (W : SessionLaws L) {p : Primed U} (hp : c.daemon = some p)
    (hscheme : L.scheme p.creds.hubBaseUrl ∈ sendableSchemes)
    (hhub : checkHub L.toWebLib hubUrl = .ok u) :
    ∃ w t, Ends (login L w hubUrl email password) c () t ∧
      t.keychain.refreshToken = c.keychain.refreshToken := by
  obtain ⟨body, hbody⟩ := W.toVec_loginBody email password
  obtain ⟨answer, token, hanswer⟩ := W.fromSlice_token
  obtain ⟨out, hout⟩ := exists_buildRequest_loginRequest W p.creds body hscheme
  let w := smooth (.replied 200 [] (.ok answer))
  have hforward : c.forward L w (loginRequest body) =
      ⟨.ok ⟨200, [], answer⟩, some p.creds, [out]⟩ := by
    have hreached : reached L p.creds.hubBaseUrl w.answers = w.answers := if_pos hscheme
    simp only [Client.forward, hp, Option.map_some, hreached]
    exact forwardRequest_of_ok hout rfl fun h => absurd h (by decide : (200 : UInt16) ≠ 401)
  have htokens : loginTokens L ⟨200, [], answer⟩ = .ok ⟨token, none⟩ := by
    simp only [loginTokens, hanswer]
    rfl
  exact ⟨w, _, ends_login.mpr ⟨body, _, _, hbody, rfl, by rw [hforward], htokens,
    ends_adopt.mpr ⟨⟨rfl, fun _ => rfl, rfl⟩, rfl, u, hhub, rfl⟩⟩, rfl⟩

theorem passwordReady_of_loginSafe
    (h : LoginSafe W (fun w => login L w hubUrl email password) u (.before keychain daemon)) :
    PasswordReady W u hubUrl (.before keychain daemon) where
  session hno := by
    obtain ⟨w, t, ht⟩ := h.possible hno
    obtain ⟨body, response, tokens, -, -, hres, -⟩ := ends_login.mp ht
    obtain ⟨⟨p, hp, -⟩, -⟩ := contacted_of_result W hres
    rw [hno.1] at hp
    cases hp
  sameHub p hp hscheme := by
    obtain ⟨body, hbody⟩ := W.toVec_loginBody email password
    obtain ⟨out, hout⟩ := exists_buildRequest_loginRequest W p.creds body hscheme
    have hsent : out ∈ (Client.forward L (smooth .timeout) (.before keychain daemon)
        (loginRequest body)).sent := by
      rw [Client.forward, hp]
      exact mem_sent_of_buildRequest hout
    have hcontact := mem_contacted W (fun q hq => by cases hp.symm.trans hq; exact hscheme) hsent
    have hsame := h.contacts _ _ (mem_contacted_login hbody rfl hcontact)
    exact (sameHub_of_buildRequest hout).symm.trans hsame
  refresh := by
    rintro ⟨p, hp, hscheme⟩ hhub
    obtain ⟨w, t, ht, hrefresh⟩ := exists_ends_login W hp hscheme hhub
    rw [← hrefresh]
    exact (h.holds w t ht).refresh

end Password

/-! ## Logging in through OAuth -/

section Oauth

variable {u : U} {hubUrl : String} {platform : OAuthPlatform} {c t : Client U}
  {x : World × CallbackParams}

def oauthLogin (L : SessionLib U) (hubUrl : String) (platform : OAuthPlatform)
    (x : World × CallbackParams) : Stateful (Client U) DesktopError Unit := do
  let (_, context) ← oauthStart L x.1 hubUrl platform
  oauthComplete L x.1 x.2 context.state

theorem prefix_authorizePath (platform : OAuthPlatform) :
    "/api/v1/".toList <+: (authorizePath platform).toList := by
  cases platform <;> decide

theorem keeps_contacted_oauthLogin (hu : L.parse hubUrl = some u) :
    Keeps (fun c => ∀ v ∈ c.contacted, SameHub W v u) (oauthLogin L hubUrl platform x) := by
  refine keeps_bind ?_ fun r => ?_
  · refine keeps_bind_of_ends (keeps_ofOption _ _) fun _ hub _ hhub => ?_
    obtain ⟨hhub, -⟩ := ends_ofOption.mp hhub
    obtain rfl : u = hub := Option.mem_unique hu hhub
    refine keeps_bind (keeps_ofExcept _ _) fun state => ?_
    refine keeps_bind_of_ends (keeps_ofOption _ _) fun _ url _ hurl => ?_
    obtain ⟨hurl, -⟩ := ends_ofOption.mp hurl
    refine keeps_bind (keeps_modify fun c hc v hv => ?_) fun _ => keeps_pure _
    rcases List.mem_append.mp hv with hv | hv
    · exact hc v hv
    · rw [List.mem_singleton.mp hv]
      exact sameHub_of_join (prefix_authorizePath platform) hurl
  · refine keeps_bind (keeps_ofExcept _ _) fun tokens => keeps_bind keeps_load fun session => ?_
    exact keeps_adopt (fun _ _ h => h) fun _ _ _ h => h

theorem ends_oauthLogin (hu : L.parse hubUrl = some u) :
    Ends (oauthLogin L hubUrl platform x) c () t ↔ ∃ state url tokens session,
      generateOauthState L x.1 = .ok state ∧
        L.join u (authorizePath platform) = some url ∧
        completeOauth L x.2 state = .ok tokens ∧
        Ends (TokenStore.load L x.1) { c with contacted := c.contacted ++ [url] } session
          { c with contacted := c.contacted ++ [url] } ∧
        Ends (adopt L x.1 ⟨tokens.accessToken, tokens.refreshToken, session.hubBaseUrl⟩)
          { c with contacted := c.contacted ++ [url] } () t := by
  simp only [oauthLogin, ends_bind, ends_oauthStart, ends_oauthComplete]
  constructor
  · rintro ⟨_, _, ⟨hub, state, url, hhub, hstate, hurl, rfl, rfl⟩, hcomplete⟩
    obtain ⟨tokens, session, _, htok, hload, h⟩ := hcomplete
    obtain rfl : u = hub := Option.mem_unique hu hhub
    obtain ⟨rfl, -⟩ := storesHub_of_ends_load hload
    exact ⟨state, url, tokens, session, hstate, hurl, htok, hload, h⟩
  · rintro ⟨state, url, tokens, session, hstate, hurl, htok, hload, h⟩
    exact ⟨_, _, ⟨u, state, url, hu, hstate, hurl, rfl, rfl⟩, tokens, session, _, htok, hload, h⟩

variable (W u) in
/-- There is a session, and a hub that the flow would use is that of `u`. -/
structure OauthReady (platform : OAuthPlatform) (c : Client U) : Prop where
  session : ¬ c.NoSession
  stored : (L.join u (authorizePath platform)).isSome →
    ∀ text hub, c.keychain.StoresHub L text → checkHub L.toWebLib text = .ok hub →
      SameHub W hub u ∧ ∀ entry ∈ c.keychain.refreshToken, IssuedAt W u entry.issuer

theorem loginSafe_of_oauthReady {keychain : Keychain U} {daemon : Option (Primed U)}
    (hu : L.parse hubUrl = some u) (h : OauthReady W u platform (.before keychain daemon)) :
    LoginSafe W (oauthLogin L hubUrl platform) u (.before keychain daemon) := by
  have hcontacts : ∀ x,
      ∀ v ∈ (oauthLogin L hubUrl platform x (.before keychain daemon)).2.contacted, SameHub W v u :=
    fun _ => keeps_contacted_oauthLogin hu _ (by simp [Client.before])
  refine ⟨hcontacts, fun x t ht => ?_, fun hno => absurd hno h.session⟩
  obtain ⟨state, url, tokens, session, -, hurl, -, hload, hadopt⟩ := (ends_oauthLogin hu).mp ht
  obtain ⟨-, hstored⟩ := storesHub_of_ends_load hload
  obtain ⟨-, -, hub, hhub, rfl⟩ := ends_adopt.mp hadopt
  obtain ⟨hsame, hrefresh⟩ := h.stored (by simp [hurl]) _ hub hstored hhub
  refine holds_adopted (by simp) ?_ (parse_of_checkHub hhub) hsame hrefresh
  intro v hv
  rw [List.mem_singleton.mp hv]
  exact sameHub_of_join (prefix_authorizePath platform) hurl

theorem exists_ends_oauthLogin (W : SessionLaws L) {text : String} {hub : U}
    (hu : L.parse hubUrl = some u) (hjoin : (L.join u (authorizePath platform)).isSome)
    (hstored : c.keychain.StoresHub L text) (hhub : checkHub L.toWebLib text = .ok hub) :
    ∃ x t, Ends (oauthLogin L hubUrl platform x) c () t ∧
      t.keychain.refreshToken = c.keychain.refreshToken ∧
      ∃ p ∈ t.daemon, p.creds.hubBaseUrl = hub := by
  obtain ⟨url, hurl⟩ := Option.isSome_iff_exists.mp hjoin
  obtain ⟨jwt, token, hjwt⟩ := W.insecureDecode_token
  let w := smooth .timeout
  let state := L.base64Url (Vector.replicate 32 0).toList
  obtain ⟨session, hload, rfl⟩ := exists_ends_load (w := w)
    (c := { c with contacted := c.contacted ++ [url] }) hstored rfl rfl rfl
  have htokens : completeOauth L ⟨jwt, state⟩ state = .ok ⟨token, none⟩ := by
    simp only [completeOauth, verifyOauthState, extractTokensFromJwt, hjwt, decide_true, not_true,
      if_false]
    rfl
  refine ⟨(w, ⟨jwt, state⟩), _, (ends_oauthLogin hu).mpr ⟨state, url, _, session, rfl, hurl,
    htokens, hload, ends_adopt.mpr ⟨⟨rfl, fun _ => rfl, rfl⟩, rfl, hub, hhub, rfl⟩⟩, rfl, ?_⟩
  exact ⟨_, rfl, rfl⟩

theorem oauthReady_of_loginSafe {keychain : Keychain U} {daemon : Option (Primed U)}
    (hu : L.parse hubUrl = some u)
    (h : LoginSafe W (oauthLogin L hubUrl platform) u (.before keychain daemon)) :
    OauthReady W u platform (.before keychain daemon) where
  session hno := by
    obtain ⟨x, t, ht⟩ := h.possible hno
    obtain ⟨-, url, -, session, -, -, -, hload, -⟩ := (ends_oauthLogin hu).mp ht
    obtain ⟨-, ⟨entry, hentry, -⟩, -⟩ := storesHub_of_ends_load hload
    rw [hno.2] at hentry
    cases hentry
  stored hjoin text hub hstored hhub := by
    obtain ⟨x, t, ht, hrefresh, p, hp, rfl⟩ := exists_ends_oauthLogin W hu hjoin hstored hhub
    have hholds := h.holds x t ht
    obtain ⟨q, hq, hsame, -⟩ := hholds.daemon
    cases Option.mem_unique hp hq
    exact ⟨hsame, hrefresh ▸ hholds.refresh⟩

end Oauth

/-- **A login is safe** exactly if there is a session for the hub, and stored refresh tokens are
from it. -/
theorem loginSafe_iff {L : SessionLib U} (W : SessionLaws L) {hubUrl : String} {u : U}
    (hu : L.parse hubUrl = some u) (keychain : Keychain U) (daemon : Option (Primed U))
    (email password : String) (platform : OAuthPlatform) :
    (LoginSafe W (fun w => login L w hubUrl email password) u (.before keychain daemon) ↔
        PasswordReady W u hubUrl (.before keychain daemon)) ∧
      (LoginSafe W (oauthLogin L hubUrl platform) u (.before keychain daemon) ↔
        OauthReady W u platform (.before keychain daemon)) :=
  ⟨⟨passwordReady_of_loginSafe, loginSafe_of_passwordReady hu⟩,
    ⟨oauthReady_of_loginSafe hu, loginSafe_of_oauthReady hu⟩⟩

def oldHub : PlainUrl := ⟨"https", "old.example", none, "/"⟩

def exampleLib : SessionLib PlainUrl where
  toWebLib := { plainLib with
    parse := fun text => if text = "https://old.example" then some oldHub else plainLib.parse text }
  parseError _ := "relative URL without a base"
  joinError _ _ := "invalid reference"
  refusal _ := "builder error"
  toVec _ := .ok []
  fromSlice _ := .ok (.object [("access_token", .string "issued")])
  insecureDecode _ := .ok (.object [("access_token", .string "issued")])
  asBytes text := text.toList.map fun x => x.toNat.toUInt8
  fromUtf8 bytes := some (String.ofList (bytes.map fun x => Char.ofNat x.toNat))
  base64Url _ := "state"
  urlencode text := text
  statusText status := status.message

def exampleLaws : SessionLaws exampleLib where
  port := PlainUrl.port
  join_origin base ref url _ h := by
    cases h
    exact ⟨rfl, rfl, rfl⟩
  join_isSome _ _ _ _ := rfl
  toUppercase_post := by decide +kernel
  toVec_loginBody _ _ := ⟨[], rfl⟩
  fromSlice_token := ⟨[], "issued", rfl⟩
  insecureDecode_token := ⟨"", "issued", rfl⟩

def signedIn (text : String) (hub : PlainUrl) : Client PlainUrl :=
  .before ⟨some ⟨exampleLib.asBytes "old", some hub⟩, none, some (exampleLib.asBytes text)⟩
    (some ⟨⟨"old", none, hub⟩, some hub⟩)

theorem signIn_again_safe :
    let c := signedIn "https://hub.example:8443" exampleHub
    LoginSafe exampleLaws
        (fun w => login exampleLib w "https://hub.example:8443" "user" "secret") exampleHub c ∧
      LoginSafe exampleLaws (oauthLogin exampleLib "https://hub.example:8443" .google)
        exampleHub c := by
  have hsession : ¬ (signedIn "https://hub.example:8443" exampleHub).NoSession := by
    rintro ⟨⟨⟩, -⟩
  have hstored : ∀ text hub,
      (signedIn "https://hub.example:8443" exampleHub).keychain.StoresHub exampleLib text →
        checkHub exampleLib.toWebLib text = .ok hub → hub = exampleHub := by
    rintro text hub ⟨-, ⟨_, ⟨⟩, htext⟩, -⟩ hhub
    obtain rfl : "https://hub.example:8443" = text := by
      rw [← Option.some.inj htext]
      decide +kernel
    have hparse : exampleLib.parse "https://hub.example:8443" = some exampleHub := by
      decide +kernel
    exact Option.some.inj ((parse_of_checkHub hhub).symm.trans hparse)
  have h := loginSafe_iff exampleLaws (by decide +kernel :
    exampleLib.parse "https://hub.example:8443" = some exampleHub)
    (signedIn "https://hub.example:8443" exampleHub).keychain
    (signedIn "https://hub.example:8443" exampleHub).daemon "user" "secret" .google
  refine ⟨h.1.mpr ⟨hsession, ?_, ?_⟩, h.2.mpr ⟨hsession, ?_⟩⟩
  · rintro _ ⟨⟩ -
    exact .refl _
  · rintro - - _ ⟨⟩
  · intro _ text hub htext hhub
    rw [hstored text hub htext hhub]
    exact ⟨.refl _, by rintro _ ⟨⟩⟩

def held (c : Client PlainUrl) : Option Bytes × Option (Option PlainUrl) ×
    Option (PlainUrl × Option PlainUrl) :=
  (c.keychain.hubBaseUrl, c.keychain.accessToken.map Entry.issuer,
    c.daemon.map fun p => (p.creds.hubBaseUrl, p.issuer))

/-- **Logins pair one hub with the tokens of another.** -/
theorem login_pairs_hubs :
    let c := signedIn "https://old.example" oldHub
    let w := smooth (.replied 200 [] (.ok []))
    let oldLogin : PlainUrl := { oldHub with path := "/api/v1/auth/login" }
    let authorize : PlainUrl := { exampleHub with path := "/api/v1/auth/oauth/google" }
    let byPassword := login exampleLib w "https://hub.example:8443" "user" "secret" c
    let byOauth := oauthLogin exampleLib "https://hub.example:8443" .google (w, ⟨"jwt", "state"⟩) c
    (byPassword.1.isOk ∧ byPassword.2.contacted = [oldLogin] ∧
        held byPassword.2 = (some (exampleLib.asBytes "https://hub.example:8443"),
          some (some oldLogin), some (exampleHub, some oldLogin))) ∧
      (byOauth.1.isOk ∧ byOauth.2.contacted = [authorize] ∧
        held byOauth.2 = (some (exampleLib.asBytes "https://old.example"),
          some (some authorize), some (oldHub, some authorize))) ∧
      ∀ w params t,
        ¬ Ends (login exampleLib w "https://hub.example:8443" "user" "secret")
            (.before ⟨none, none, none⟩ none) () t ∧
          ¬ Ends (oauthLogin exampleLib "https://hub.example:8443" .google (w, params))
            (.before ⟨none, none, none⟩ none) () t := by
  refine ⟨by decide +kernel, by decide +kernel, fun w params t => ⟨fun h => ?_, fun h => ?_⟩⟩
  · obtain ⟨body, response, tokens, -, -, hres, -⟩ := ends_login.mp h
    obtain ⟨⟨p, ⟨⟩, -⟩, -⟩ := contacted_of_result exampleLaws hres
  · obtain ⟨-, url, -, session, -, -, -, hload, -⟩ := (ends_oauthLogin (u := exampleHub)
      (by decide +kernel)).mp h
    obtain ⟨-, ⟨entry, ⟨⟩, -⟩, -⟩ := storesHub_of_ends_load hload

end Penguind.Desktop
