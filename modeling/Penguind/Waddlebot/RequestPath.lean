import Penguind.Foundation.Url
import Penguind.Waddlebot.SessionProxy

/-!
# Where a forwarded request is sent

A path has to start with `/api/v1/` and to pass five more tests on its text. Joining it to the
hub's URL normalises it, so `%2e%2e`, `.%2e` or two dots with a tab between them leave `/api/v1/`.
-/

namespace Penguind.Waddlebot

open Foundation

def sendableSchemes : List String := ["http", "https"]

/-- Joining a path-absolute reference keeps scheme, host and port, and the path is normalised. -/
structure Whatwg {U : Type} (L : WebLib U) where
  port : U → Option UInt16
  path : U → String
  join_pathAbsolute : ∀ (base : U) (ref : String), L.scheme base ∈ sendableSchemes →
    Url.IsPathAbsolute ref.toList →
      ∃ url, L.join base ref = some url ∧ L.scheme url = L.scheme base ∧
        L.hostStr url = L.hostStr base ∧ port url = port base ∧
        (path url).toList = Url.serialize (Url.resolve ref.toList)

def apiDir : List Url.Segment := ["api".toList, "v1".toList]

/-- The segments behind `/api/v1/` name again every level they leave. -/
def StaysInApi (path : String) : Prop :=
  Url.Returns apiDir (Url.displacement ((Url.segments path.toList).drop 2))

theorem prefix_of_validateRequestPath {path : String}
    (h : validateRequestPath path = .ok ()) : "/api/v1/".toList <+: path.toList := by
  unfold validateRequestPath at h
  split at h
  · cases h
  next hno =>
    have hfails := List.find?_eq_none.mp hno _ (List.mem_cons_of_mem _ List.mem_cons_self)
    simpa only [decide_eq_true_eq, not_not] using hfails

theorem join_of_buildRequest {U : Type} {L : WebLib U} {creds : SessionCredentials U}
    {req : HttpRequest} {out : Outgoing U} (h : buildRequest L creds req = .ok out) :
    validateRequestPath req.path = .ok () ∧ L.join creds.hubBaseUrl req.path = some out.url := by
  unfold buildRequest at h
  cases hv : validateRequestPath req.path with
  | error e =>
    rw [hv] at h
    cases h
  | ok =>
    rw [hv] at h
    cases hj : L.join creds.hubBaseUrl req.path with
    | none => simp [hj, bind, Except.bind] at h
    | some url =>
      simp only [hj, bind, Except.bind] at h
      split_ifs at h
      cases h
      exact ⟨rfl, rfl⟩

/-! ## References that start with `/api/v1/` -/

section Api

variable {path : List Char} (hp : "/api/v1/".toList <+: path)

include hp

theorem exists_pathPart_strip : ∃ rest, Url.strip path = "/api/v1/".toList ++ rest ∧
    Url.pathPart (Url.strip path) = "/api/v1/".toList ++ Url.pathPart rest := by
  obtain ⟨ys, rfl⟩ := hp
  refine Url.pathPart_strip_append (by decide) ?_ ys
  simp [Url.isControlOrSpace, Url.isTabOrNewline]

theorem isPathAbsolute_of_prefixed : Url.IsPathAbsolute path := by
  obtain ⟨rest, hrest, -⟩ := exists_pathPart_strip hp
  exact ⟨_, hrest, rfl⟩

theorem segments_of_prefixed : ∃ segs ≠ [], Url.segments path = apiDir ++ segs := by
  obtain ⟨rest, -, hrest⟩ := exists_pathPart_strip hp
  refine ⟨(Url.pathPart rest).splitOnP Url.isSlash, List.splitOnP_ne_nil _ _, ?_⟩
  unfold Url.segments
  rw [hrest]
  show ("api".toList ++ '/' :: ("v1".toList ++ '/' :: Url.pathPart rest)).splitOnP Url.isSlash = _
  rw [List.splitOnP_append_cons_of_forall_mem (by simp [Url.isSlash]) _ rfl,
    List.splitOnP_append_cons_of_forall_mem (by simp [Url.isSlash]) _ rfl]
  rfl

theorem resolve_of_prefixed :
    Url.resolve path = (Url.displacement ((Url.segments path).drop 2)).apply apiDir := by
  obtain ⟨segs, hne, hsegs⟩ := segments_of_prefixed hp
  have hdrop : (Url.segments path).drop 2 = segs := by
    rw [hsegs]
    rfl
  unfold Url.resolve
  rw [hdrop, hsegs, Url.walk_append hne, Url.walk_eq_apply]
  rfl

end Api

/-- **A request is sent to the hub**, and below `/api/v1/` exactly if every level that is left is
named again. -/
theorem sent_in_api_iff {U : Type} {L : WebLib U} (W : Whatwg L) {creds : SessionCredentials U}
    {req : HttpRequest} {out : Outgoing U} (hsend : L.scheme creds.hubBaseUrl ∈ sendableSchemes)
    (hout : buildRequest L creds req = .ok out) :
    L.scheme out.url = L.scheme creds.hubBaseUrl ∧ L.hostStr out.url = L.hostStr creds.hubBaseUrl ∧
      W.port out.url = W.port creds.hubBaseUrl ∧
      ("/api/v1/".toList <+: (W.path out.url).toList ↔ StaysInApi req.path) := by
  obtain ⟨hvalid, hjoin⟩ := join_of_buildRequest hout
  have hp := prefix_of_validateRequestPath hvalid
  obtain ⟨url, hurl, hscheme, hhost, hport, hpath⟩ :=
    W.join_pathAbsolute creds.hubBaseUrl req.path hsend (isPathAbsolute_of_prefixed hp)
  obtain rfl : out.url = url := Option.mem_unique hjoin hurl
  refine ⟨hscheme, hhost, hport, ?_⟩
  -- The text of the path starts with that of the directory and a slash.
  have htext : "/api/v1/".toList = Url.serialize apiDir ++ ['/'] := by decide
  have hne : Url.resolve req.path.toList ≠ [] := Url.walk_ne_nil (List.splitOnP_ne_nil _ _)
  rw [hpath, htext, Url.prefix_serialize_iff (by decide) hne (by decide)
    (Url.slash_notMem_resolve _), resolve_of_prefixed hp, Url.below_apply_iff]
  rfl

/-! ## URLs in parts -/

structure PlainUrl where
  scheme : String
  host : String
  port : Option UInt16
  path : String
  deriving DecidableEq, Repr

def exampleHub : PlainUrl := ⟨"https", "hub.example", some 8443, "/"⟩

def plainLib : WebLib PlainUrl where
  parse text := if text = "https://hub.example:8443" then some exampleHub else none
  join base ref :=
    some { base with path := String.ofList (Url.serialize (Url.resolve ref.toList)) }
  scheme := PlainUrl.scheme
  hostStr url := some url.host
  display url := url.scheme ++ "://" ++ url.host ++ url.path
  toUppercase := String.toUpper
  toLowercase := String.toLower

def plainWhatwg : Whatwg plainLib where
  port := PlainUrl.port
  path := PlainUrl.path
  join_pathAbsolute _ _ _ _ := ⟨_, rfl, rfl, rfl, rfl, String.toList_ofList⟩

def exampleCredentials : SessionCredentials PlainUrl := ⟨"access", none, exampleHub⟩

def getRequest (path : String) : HttpRequest := ⟨"GET", path, [], []⟩

def sentTo (path : String) : Option PlainUrl :=
  match buildRequest plainLib exampleCredentials (getRequest path) with
  | .ok out => some out.url
  | .error _ => none

theorem plain_path_sent_in_api :
    ∃ out, buildRequest plainLib exampleCredentials (getRequest "/api/v1/users/7?all=1") = .ok out ∧
      out.url.port = some 8443 ∧ "/api/v1/".toList <+: out.url.path.toList := by
  have hsend : plainLib.scheme exampleCredentials.hubBaseUrl ∈ sendableSchemes := by decide
  have hsome : (sentTo "/api/v1/users/7?all=1").isSome := by decide +kernel
  cases hout : buildRequest plainLib exampleCredentials (getRequest "/api/v1/users/7?all=1") with
  | error e =>
    rw [sentTo, hout] at hsome
    cases hsome
  | ok out =>
    obtain ⟨-, -, hport, hpath⟩ := sent_in_api_iff plainWhatwg hsend hout
    exact ⟨out, rfl, hport, hpath.mpr ⟨"users".toList, ["7".toList], by decide⟩⟩

/-- **Requests leave `/api/v1/`** by encoded dots, tabs and backslashes. -/
theorem encoded_dots_escape :
    sentTo "/api/v1/%2e%2e/%2e%2e/admin" = some { exampleHub with path := "/admin" } ∧
      sentTo "/api/v1/.\t./.\n./admin" = some { exampleHub with path := "/admin" } ∧
      sentTo "/api/v1/.%2E\\.%2E\\admin" = some { exampleHub with path := "/admin" } := by
  decide +kernel

end Penguind.Waddlebot
