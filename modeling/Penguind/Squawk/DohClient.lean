import Mathlib.Data.List.Infix

/-!
# The servers a DoH client accepts

The host of a server has to be an IP address, `localhost`, or a pinned provider or a subdomain of
one. The URL library is a parameter, with what is used of it as laws.
-/

namespace Penguind.Squawk

/-! ## The URL library -/

inductive Host (V4 V6 : Type)
  | domain (name : String)
  | ipv4 (addr : V4)
  | ipv6 (addr : V6)

structure UrlLib where
  Url : Type
  V4 : Type
  V6 : Type
  parse : String → Except String Url
  scheme : Url → String
  host : Url → Option (Host V4 V6)
  path : Url → String
  setPath : Url → String → Url
  toText : Url → String
  showV4 : V4 → String
  showV6 : V6 → String
  /-- The text can be read as an IP address. -/
  isIpAddr : String → Bool
  /-- A URL is not empty. -/
  parse_empty : ∀ u, parse "" ≠ .ok u
  isIpAddr_showV4 : ∀ a, isIpAddr (showV4 a) = true
  /-- No address begins with a bracket. -/
  isIpAddr_bracket : ∀ s, isIpAddr ("[" ++ s) = false
  /-- In a URL with one of these schemes, a host that reads as an address is one. -/
  isIpAddr_domain : ∀ u name, scheme u = "https" ∨ scheme u = "http" →
    host u = some (.domain name) → isIpAddr name = false
  scheme_setPath : ∀ u p, scheme (setPath u p) = scheme u
  host_setPath : ∀ u p, host (setPath u p) = host u

namespace UrlLib

variable (L : UrlLib)

def renderHost : Host L.V4 L.V6 → String
  | .domain name => name
  | .ipv4 a => L.showV4 a
  | .ipv6 a => "[" ++ (L.showV6 a ++ "]")

def hostStr (u : L.Url) : Option String := (L.host u).map L.renderHost

end UrlLib

def asciiLower (s : String) : String := String.ofList (s.toList.map Char.toLower)

def allowedDohHosts : List String :=
  ["dns.google", "dns.google.com", "cloudflare-dns.com", "1.1.1.1", "1.0.0.1", "dns.quad9.net",
    "dns.opendns.com", "doh.opendns.com", "dns.nextdns.io", "doh.cleanbrowsing.org"]

def BeginsPinned (host : String) : Prop :=
  ∃ allowed ∈ allowedDohHosts, (allowed ++ ".").toList <+: host.toList

def EndsPinned (host : String) : Prop :=
  ∃ allowed ∈ allowedDohHosts, ("." ++ allowed).toList <:+ host.toList

instance (host : String) : Decidable (BeginsPinned host) :=
  inferInstanceAs (Decidable (∃ allowed ∈ allowedDohHosts, _))

instance (host : String) : Decidable (EndsPinned host) :=
  inferInstanceAs (Decidable (∃ allowed ∈ allowedDohHosts, _))

section Checks

variable (L : UrlLib)

def validateHost (host : String) : Except String Unit :=
  if L.isIpAddr host then .ok ()
  else if asciiLower host = "localhost" then .ok ()
  -- `starts_with` the pinned name and a dot, where the rule asks for a host that ends with them
  else if asciiLower host ∈ allowedDohHosts ∨ BeginsPinned (asciiLower host) then .ok ()
  else
    .error ("server URL must use an IP address (not hostname '" ++ host ++
      "') to prevent DNS resolution loops. Use the IP address of your DNS server instead")

def validateServerUrl (serverUrl : String) : Except String Unit :=
  if serverUrl = "" then .error "server URL cannot be empty"
  else
    match L.parse serverUrl with
    | .error err => .error ("invalid server URL format: " ++ err)
    | .ok parsed =>
      if L.scheme parsed ≠ "https" ∧ L.scheme parsed ≠ "http" then
        .error ("server URL must use http or https scheme, got: " ++ L.scheme parsed)
      else
        match L.hostStr parsed with
        | none => .error "server URL must include a host"
        | some host => validateHost L host

def normalizeServerUrl (serverUrl : String) : String :=
  match L.parse serverUrl with
  | .error _ => serverUrl
  | .ok parsed =>
    if L.path parsed ≠ "" ∧ L.path parsed ≠ "/" then L.toText parsed
    else
      let host := asciiLower ((L.hostStr parsed).getD "")
      if "dns.google".toList <:+: host.toList then L.toText (L.setPath parsed "/resolve")
      else L.toText (L.setPath parsed "/dns-query")

end Checks

structure Config (Tls : Type) where
  serverUrl : String
  serverUrls : List String
  authToken : String
  tls : Tls
  maxRetries : Nat
  retryDelay : Nat

inductive DohError
  | noServerUrls
  | invalidServerUrl (index : Nat) (message : String)
  | invalidName (message : String)
  | invalidRecordType (message : String)
  | httpSetup (message : String)
  | cancelled
  | allServersFailed (attempts : Nat) (errors : List String)
  deriving DecidableEq, Repr

structure DohClient where
  serverUrls : List String
  authToken : String
  maxRetries : Nat
  retryDelay : Nat
  deriving DecidableEq, Repr

namespace DohClient

variable {Tls : Type} (L : UrlLib) (buildHttpClient : Config Tls → Except String Unit)

def checkUrls : Nat → List String → Except DohError (List String)
  | _, [] => pure []
  | index, serverUrl :: rest => do
    (validateServerUrl L serverUrl).mapError (.invalidServerUrl index)
    let urls ← checkUrls (index + 1) rest
    return normalizeServerUrl L serverUrl :: urls

def configuredUrls (config : Config Tls) : Except DohError (List String) :=
  if config.serverUrls ≠ [] then .ok config.serverUrls
  else if config.serverUrl ≠ "" then .ok [config.serverUrl]
  else .error .noServerUrls

def new (config : Config Tls) : Except DohError DohClient := do
  let serverUrls ← configuredUrls config
  let serverUrls ← checkUrls L 0 serverUrls
  let maxRetries := if 0 < config.maxRetries then config.maxRetries else serverUrls.length * 2
  let retryDelay := if 0 < config.retryDelay then config.retryDelay else 2
  (buildHttpClient config).mapError .httpSetup
  return { serverUrls, authToken := config.authToken, maxRetries, retryDelay }

end DohClient

section Rule

variable (L : UrlLib)

def IsHttp (u : L.Url) : Prop := L.scheme u = "https" ∨ L.scheme u = "http"

/-- An address, the local host, a pinned provider or a subdomain of one. -/
def PermittedHost : Host L.V4 L.V6 → Prop
  | .ipv4 _ | .ipv6 _ => True
  | .domain name =>
    asciiLower name = "localhost" ∨ asciiLower name ∈ allowedDohHosts ∨
      EndsPinned (asciiLower name)

def Permitted (serverUrl : String) : Prop :=
  ∃ u h, L.parse serverUrl = .ok u ∧ IsHttp L u ∧ L.host u = some h ∧ PermittedHost L h

/-- Not an IPv6 address, and not a name that is pinned at one end only. -/
def AgreesOn : Host L.V4 L.V6 → Prop
  | .ipv4 _ => True
  | .ipv6 _ => False
  | .domain name =>
    asciiLower name = "localhost" ∨ asciiLower name ∈ allowedDohHosts ∨
      (BeginsPinned (asciiLower name) ↔ EndsPinned (asciiLower name))

def Agrees (serverUrl : String) : Prop :=
  ∀ u h, L.parse serverUrl = .ok u → IsHttp L u → L.host u = some h → AgreesOn L h

def Accepts {Tls : Type} (buildHttpClient : Config Tls → Except String Unit) (config : Config Tls)
    (serverUrl : String) : Prop :=
  ∀ index message,
    DohClient.new L buildHttpClient { config with serverUrls := [serverUrl] } ≠
      .error (.invalidServerUrl index message)

end Rule

section Accepted

variable {L : UrlLib}

def AcceptedHost (L : UrlLib) : Host L.V4 L.V6 → Prop
  | .ipv4 _ => True
  | .ipv6 _ => False
  | .domain name =>
    asciiLower name = "localhost" ∨ asciiLower name ∈ allowedDohHosts ∨
      BeginsPinned (asciiLower name)

theorem validateHost_eq_ok_iff {host : String} :
    validateHost L host = .ok () ↔
      L.isIpAddr host = true ∨ asciiLower host = "localhost" ∨
        asciiLower host ∈ allowedDohHosts ∨ BeginsPinned (asciiLower host) := by
  rw [validateHost]
  split_ifs with hip hlocal hpinned
  · simp [hip]
  · simp [hlocal]
  · simp [hpinned]
  · simp [hip, hlocal, hpinned]

theorem validateServerUrl_eq_ok_iff_host {serverUrl : String} :
    validateServerUrl L serverUrl = .ok () ↔
      ∃ u h, L.parse serverUrl = .ok u ∧ IsHttp L u ∧ L.host u = some h ∧
        validateHost L (L.renderHost h) = .ok () := by
  fun_cases validateServerUrl L serverUrl with
  | case1 hempty =>
    have hparse : ∀ u, L.parse "" ≠ .ok u := L.parse_empty
    simp [hempty, hparse]
  | case2 _ err hparse => simp [hparse]
  | case3 _ u hparse hscheme => simp [hparse, IsHttp, hscheme]
  | case4 _ u hparse _ hhost =>
    simp [hparse, Option.map_eq_none_iff.mp hhost]
  | case5 _ u hparse hscheme host hhost =>
    obtain ⟨h, hh, rfl⟩ := Option.map_eq_some_iff.mp hhost
    have hhttp : IsHttp L u := or_iff_not_and_not.mpr hscheme
    simp [hparse, hh, hhttp]

/-! ### The host as text -/

theorem toList_asciiLower_bracket (s : String) :
    ∃ cs, (asciiLower ("[" ++ s)).toList = '[' :: cs := by
  refine ⟨s.toList.map Char.toLower, ?_⟩
  rw [asciiLower, String.toList_ofList, String.toList_append, List.map_append]
  rfl

theorem bracket_not_pinned {host : String} {cs : List Char} (h : host.toList = '[' :: cs) :
    host ≠ "localhost" ∧ host ∉ allowedDohHosts ∧ ¬ BeginsPinned host := by
  have hfirst : ∀ allowed ∈ allowedDohHosts,
      allowed.toList ≠ [] ∧ allowed.toList.head? ≠ some '[' := by decide
  refine ⟨?_, ?_, ?_⟩
  · rintro rfl
    have hhead : "localhost".toList.head? = some '[' := congrArg List.head? h
    exact absurd hhead (by decide)
  · intro hmem
    refine (hfirst host hmem).2 ?_
    rw [h]
    rfl
  · rintro ⟨allowed, hmem, hpre⟩
    obtain ⟨c, rest, hallowed⟩ := List.exists_cons_of_ne_nil (hfirst allowed hmem).1
    refine (hfirst allowed hmem).2 ?_
    rw [String.toList_append, hallowed, h, List.cons_append, List.cons_prefix_cons] at hpre
    rw [hallowed, hpre.1]
    rfl

theorem validateHost_renderHost_iff {u : L.Url} {h : Host L.V4 L.V6} (hscheme : IsHttp L u)
    (hhost : L.host u = some h) :
    validateHost L (L.renderHost h) = .ok () ↔ AcceptedHost L h := by
  rw [validateHost_eq_ok_iff]
  cases h with
  | domain name =>
    have hip : L.isIpAddr name = false := L.isIpAddr_domain u name hscheme hhost
    simp [UrlLib.renderHost, AcceptedHost, hip]
  | ipv4 a => simp [UrlLib.renderHost, AcceptedHost, L.isIpAddr_showV4]
  | ipv6 a =>
    obtain ⟨cs, hcs⟩ := toList_asciiLower_bracket (L.showV6 a ++ "]")
    obtain ⟨hlocal, hpinned, hbegins⟩ := bracket_not_pinned hcs
    simp [UrlLib.renderHost, AcceptedHost, L.isIpAddr_bracket, hlocal, hpinned, hbegins]

theorem validateServerUrl_eq_ok_iff {serverUrl : String} :
    validateServerUrl L serverUrl = .ok () ↔
      ∃ u h, L.parse serverUrl = .ok u ∧ IsHttp L u ∧ L.host u = some h ∧ AcceptedHost L h := by
  rw [validateServerUrl_eq_ok_iff_host]
  refine exists_congr fun u => exists_congr fun h => and_congr_right fun _ => ?_
  refine and_congr_right fun hscheme => and_congr_right fun hhost => ?_
  exact validateHost_renderHost_iff hscheme hhost

theorem checkUrls_spec (start : Nat) (urls : List String) :
    match DohClient.checkUrls L start urls with
    | .ok out => (∀ url ∈ urls, validateServerUrl L url = .ok ()) ∧
        out = urls.map (normalizeServerUrl L)
    | .error err => ∃ i url message, urls[i]? = some url ∧
        validateServerUrl L url = .error message ∧
        err = .invalidServerUrl (start + i) message := by
  induction urls generalizing start with
  | nil => exact ⟨nofun, rfl⟩
  | cons url rest ih =>
    rw [DohClient.checkUrls]
    cases hurl : validateServerUrl L url with
    | error message => exact ⟨0, url, message, rfl, hurl, rfl⟩
    | ok _ =>
      have hrest := ih (start + 1)
      cases hcheck : DohClient.checkUrls L (start + 1) rest <;> rw [hcheck] at hrest
      · obtain ⟨i, other, message, hi, hother, rfl⟩ := hrest
        refine ⟨i + 1, other, message, hi, hother, ?_⟩
        rw [Nat.add_right_comm, Nat.add_assoc]
      · exact ⟨List.forall_mem_cons.mpr ⟨hurl, hrest.1⟩, congrArg _ hrest.2⟩

variable {Tls : Type} {buildHttpClient : Config Tls → Except String Unit}

theorem new_eq_invalidServerUrl_iff {config : Config Tls} :
    (∃ index message, DohClient.new L buildHttpClient config =
        .error (.invalidServerUrl index message)) ↔
      ∃ urls, DohClient.configuredUrls config = .ok urls ∧
        ∃ url ∈ urls, validateServerUrl L url ≠ .ok () := by
  rw [DohClient.new]
  cases hurls : DohClient.configuredUrls config with
  | error err =>
    have hnone : err = .noServerUrls := by
      rw [DohClient.configuredUrls] at hurls
      split_ifs at hurls
      exact (Except.error.inj hurls).symm
    simp [hnone, bind, Except.bind]
  | ok urls =>
    have hspec := checkUrls_spec (L := L) 0 urls
    cases hcheck : DohClient.checkUrls L 0 urls with
    | error err =>
      rw [hcheck] at hspec
      obtain ⟨i, url, message, hi, hurl, rfl⟩ := hspec
      have hmem : url ∈ urls := List.mem_of_getElem? hi
      simp only [hcheck, bind, Except.bind, Except.error.injEq, DohError.invalidServerUrl.injEq,
        Except.ok.injEq]
      refine ⟨fun _ => ⟨urls, rfl, url, hmem, ?_⟩, fun _ => ⟨_, _, rfl, rfl⟩⟩
      simp [hurl]
    | ok out =>
      rw [hcheck] at hspec
      have hnone : ¬ ∃ url ∈ urls, validateServerUrl L url ≠ .ok () := by
        rintro ⟨url, hmem, hne⟩
        exact hne (hspec.1 url hmem)
      cases buildHttpClient config <;>
        simp [hcheck, hnone, bind, Except.bind, Except.mapError, pure, Except.pure]

theorem serverUrls_accepted {config : Config Tls} {client : DohClient}
    (h : DohClient.new L buildHttpClient config = .ok client) :
    ∀ serverUrl ∈ client.serverUrls, ∃ u host, serverUrl = L.toText u ∧ IsHttp L u ∧
      L.host u = some host ∧ AcceptedHost L host := by
  rw [DohClient.new] at h
  cases hurls : DohClient.configuredUrls config with
  | error err =>
    rw [hurls] at h
    cases h
  | ok urls =>
    rw [hurls] at h
    change (DohClient.checkUrls L 0 urls >>= _) = _ at h
    have hspec := checkUrls_spec (L := L) 0 urls
    cases hcheck : DohClient.checkUrls L 0 urls <;> rw [hcheck] at h hspec
    · cases h
    · obtain ⟨hall, rfl⟩ := hspec
      change (Except.mapError _ (buildHttpClient config) >>= _) = _ at h
      cases hhttp : buildHttpClient config <;> rw [hhttp] at h <;> cases h
      intro serverUrl hmem
      obtain ⟨url, hurl, rfl⟩ := List.mem_map.mp hmem
      obtain ⟨u, host, hparse, hscheme, hhost, haccepted⟩ :=
        validateServerUrl_eq_ok_iff.mp (hall url hurl)
      have hnormal : ∃ u', normalizeServerUrl L url = L.toText u' ∧ L.scheme u' = L.scheme u ∧
          L.host u' = L.host u := by
        simp only [normalizeServerUrl, hparse]
        split_ifs
        · exact ⟨u, rfl, rfl, rfl⟩
        all_goals exact ⟨_, rfl, L.scheme_setPath u _, L.host_setPath u _⟩
      obtain ⟨u', htext, hsame, hsameHost⟩ := hnormal
      refine ⟨u', host, htext, ?_, hsameHost.trans hhost, haccepted⟩
      rw [IsHttp, hsame]
      exact hscheme

theorem accepts_iff {config : Config Tls} {serverUrl : String} :
    Accepts L buildHttpClient config serverUrl ↔ validateServerUrl L serverUrl = .ok () := by
  have hurls : DohClient.configuredUrls { config with serverUrls := [serverUrl] } =
      .ok [serverUrl] := by
    simp [DohClient.configuredUrls]
  rw [Accepts, ← not_iff_not]
  push Not
  rw [new_eq_invalidServerUrl_iff]
  simp [hurls]

theorem accepted_iff_permitted_iff {h : Host L.V4 L.V6} :
    (AcceptedHost L h ↔ PermittedHost L h) ↔ AgreesOn L h := by
  cases h with
  | domain name =>
    have hprop : ∀ a b c d : Prop, ((a ∨ b ∨ c ↔ a ∨ b ∨ d) ↔ a ∨ b ∨ (c ↔ d)) := by tauto
    exact hprop _ _ _ _
  | ipv4 | ipv6 => simp [AcceptedHost, PermittedHost, AgreesOn]

end Accepted

/-- **Acceptance follows the rule** exactly if the host is no IPv6 address and not pinned at one end
only. -/
theorem accepts_permitted_iff (L : UrlLib) {Tls : Type}
    (buildHttpClient : Config Tls → Except String Unit) (config : Config Tls)
    (serverUrl : String) :
    (Accepts L buildHttpClient config serverUrl ↔ Permitted L serverUrl) ↔
      Agrees L serverUrl := by
  rw [accepts_iff, validateServerUrl_eq_ok_iff, Permitted]
  constructor
  · intro h u host hparse hscheme hhost
    refine accepted_iff_permitted_iff.mp ⟨fun ha => ?_, fun hp => ?_⟩
    · obtain ⟨u', host', hparse', -, hhost', hp⟩ := h.mp ⟨u, host, hparse, hscheme, hhost, ha⟩
      cases hparse.symm.trans hparse'
      cases hhost.symm.trans hhost'
      exact hp
    · obtain ⟨u', host', hparse', -, hhost', ha⟩ := h.mpr ⟨u, host, hparse, hscheme, hhost, hp⟩
      cases hparse.symm.trans hparse'
      cases hhost.symm.trans hhost'
      exact ha
  · intro h
    refine exists_congr fun u => exists_congr fun host => and_congr_right fun hparse => ?_
    refine and_congr_right fun hscheme => and_congr_right fun hhost => ?_
    exact accepted_iff_permitted_iff.mpr (h u host hparse hscheme hhost)

/-! ### Two hosts the code gets wrong -/

section Sample

def isDotted (s : String) : Bool := s.toList.all fun c => c.isDigit || c == '.'

def plainUrls : UrlLib where
  Url := String × String
  V4 := { s : String // isDotted s = true }
  V6 := String
  parse text :=
    if "https://".toList <+: text.toList then
      let rest := text.toList.drop 8
      .ok (String.ofList (rest.takeWhile (· ≠ '/')), String.ofList (rest.dropWhile (· ≠ '/')))
    else .error "relative URL without a base"
  scheme _ := "https"
  host u :=
    if u.1.toList.head? = some '[' then
      some (.ipv6 (String.ofList (u.1.toList.drop 1).dropLast))
    else if h : isDotted u.1 = true then some (.ipv4 ⟨u.1, h⟩)
    else some (.domain u.1)
  path u := u.2
  setPath u p := (u.1, p)
  toText u := "https://" ++ u.1 ++ u.2
  showV4 a := a.1
  showV6 a := a
  isIpAddr := isDotted
  parse_empty u h := by simp at h
  isIpAddr_showV4 a := a.2
  isIpAddr_bracket s := by simp [isDotted, String.toList_append]
  isIpAddr_domain u name _ h := by
    split_ifs at h with hbracket hdotted <;> cases h
    exact Bool.eq_false_iff.mpr hdotted
  scheme_setPath _ _ := rfl
  host_setPath _ _ := rfl

def bareConfig : Config Unit where
  serverUrl := ""
  serverUrls := []
  authToken := "token"
  tls := ()
  maxRetries := 0
  retryDelay := 0

theorem serverUrls_google :
    ∃ u host, "https://dns.google/resolve" = plainUrls.toText u ∧ IsHttp plainUrls u ∧
      plainUrls.host u = some host ∧ AcceptedHost plainUrls host := by
  have h : DohClient.new plainUrls (fun _ => .ok ())
      { bareConfig with serverUrl := "https://dns.google" } =
        .ok ⟨["https://dns.google/resolve"], "token", 2, 2⟩ := rfl
  exact serverUrls_accepted h _ List.mem_cons_self

theorem foreign_host_accepted :
    (Accepts plainUrls (fun _ => .ok ()) bareConfig "https://dns.google.attacker.example/" ∧
      ¬ Permitted plainUrls "https://dns.google.attacker.example/") ∧
    (¬ Accepts plainUrls (fun _ => .ok ()) bareConfig "https://[2001:db8::1]/" ∧
      Permitted plainUrls "https://[2001:db8::1]/") := by
  have hforeign : plainUrls.parse "https://dns.google.attacker.example/" =
      .ok ("dns.google.attacker.example", "/") := rfl
  have haddress : plainUrls.parse "https://[2001:db8::1]/" = .ok ("[2001:db8::1]", "/") := rfl
  refine ⟨⟨accepts_iff.mpr (validateServerUrl_eq_ok_iff.mpr ?_), ?_⟩, ⟨fun h => ?_, ?_⟩⟩
  · refine ⟨_, .domain "dns.google.attacker.example", hforeign, .inl rfl, rfl, ?_⟩
    exact .inr (.inr (by decide))
  · rintro ⟨u, h, hparse, -, hhost, hpermitted⟩
    cases hforeign.symm.trans hparse
    cases (rfl : plainUrls.host ("dns.google.attacker.example", "/") =
      some (.domain "dns.google.attacker.example")).symm.trans hhost
    simp only [PermittedHost] at hpermitted
    exact absurd hpermitted (by decide)
  · obtain ⟨u, h, hparse, -, hhost, haccepted⟩ :=
      validateServerUrl_eq_ok_iff.mp (accepts_iff.mp h)
    cases haddress.symm.trans hparse
    cases (rfl : plainUrls.host ("[2001:db8::1]", "/") =
      some (.ipv6 "2001:db8::1")).symm.trans hhost
    exact haccepted
  · exact ⟨_, .ipv6 "2001:db8::1", haddress, .inl rfl, rfl, trivial⟩

end Sample

end Penguind.Squawk
