import Penguind.Desktop.LoginHub

/-!
# Sessions in the keychain

A session is three records, written one after the other. A failed write ends the operation and
leaves what was written; a failed delete is ignored. The check for a session looks at the access
token only.
-/

namespace Penguind.Desktop

open Foundation Stateful Extplugin Waddlebot

variable {U : Type} (L : SessionLib U) (w : World)

namespace TokenStore

def changeRefresh (err : String → DesktopError) :
    Option String → Stateful (Client U) DesktopError Unit
  | some refresh =>
    remote w.setRefresh err (modify fun c => { c with
      keychain.refreshToken := some ⟨L.asBytes refresh, c.contacted.getLast?⟩ })
  | none =>
    attempt (remote w.deleteRefresh (fun e => e)
      (modify fun c => { c with keychain.refreshToken := none }))

def updateTokens (accessToken : String) (refreshToken : Option String) :
    Stateful (Client U) DesktopError Unit := do
  remote w.setAccess (fun e => .keychainError ("failed to update access token: " ++ e))
    (modify fun c => { c with
      keychain.accessToken := some ⟨L.asBytes accessToken, c.contacted.getLast?⟩ })
  changeRefresh L w (fun e => .keychainError ("failed to update refresh token: " ++ e)) refreshToken

def hasSession (keychain : Keychain U) : Bool :=
  match read w.getAccess keychain.accessToken with
  | .ok entry => entry.bytes ≠ []
  | .error _ => false

end TokenStore

/-! ## What is loaded -/

namespace Keychain

/-- A record that cannot be read might as well be missing. -/
def seen (k : Keychain U) : Keychain U where
  accessToken := if w.getAccess.isSome then none else k.accessToken
  refreshToken := if w.getRefresh.isSome then none else k.refreshToken
  hubBaseUrl := if w.getHub.isSome then none else k.hubBaseUrl

variable (k : Keychain U)

def access : Option String :=
  (k.accessToken.bind fun entry => L.fromUtf8 entry.bytes).filter (· ≠ "")

def refresh : Option (Option String) :=
  match k.refreshToken with
  | none => some none
  | some entry => if entry.bytes = [] then some none else (L.fromUtf8 entry.bytes).map some

def hub : Option String := (k.hubBaseUrl.bind L.fromUtf8).filter (· ≠ "")

def session : Option StoredSession := do
  let accessToken ← k.access L
  let refreshToken ← k.refresh L
  let hubBaseUrl ← k.hub L
  pure ⟨accessToken, refreshToken, hubBaseUrl⟩

variable {L w k}

theorem session_eq_some {s : StoredSession} :
    k.session L = some s ↔ k.access L = some s.accessToken ∧ k.refresh L = some s.refreshToken ∧
      k.hub L = some s.hubBaseUrl := by
  obtain ⟨a, r, h⟩ := s
  simp only [session, Option.bind_eq_bind, Option.bind_eq_some_iff, Option.pure_def,
    Option.some.injEq, StoredSession.mk.injEq]
  constructor
  · rintro ⟨a', ha, r', hr, h', hh, rfl, rfl, rfl⟩
    exact ⟨ha, hr, hh⟩
  · rintro ⟨ha, hr, hh⟩
    exact ⟨a, ha, r, hr, h, hh, rfl, rfl, rfl⟩

theorem isSome_session :
    (k.session L).isSome ↔
      (k.access L).isSome ∧ (k.refresh L).isSome ∧ (k.hub L).isSome := by
  unfold session
  cases k.access L <;> cases k.refresh L <;> cases k.hub L <;> simp

theorem access_eq_some {a : String} :
    k.access L = some a ↔
      (∃ entry ∈ k.accessToken, L.fromUtf8 entry.bytes = some a) ∧ a ≠ "" := by
  simp [access, Option.filter_eq_some_iff, Option.bind_eq_some_iff]

theorem hub_eq_some {h : String} :
    k.hub L = some h ↔ (∃ bytes ∈ k.hubBaseUrl, L.fromUtf8 bytes = some h) ∧ h ≠ "" := by
  simp [hub, Option.filter_eq_some_iff, Option.bind_eq_some_iff]

theorem mem_accessToken_seen {entry : Entry U} :
    entry ∈ (k.seen w).accessToken ↔ w.getAccess = none ∧ k.accessToken = some entry := by
  cases h : w.getAccess <;> simp [seen, h]

theorem mem_hubBaseUrl_seen {bytes : Bytes} :
    bytes ∈ (k.seen w).hubBaseUrl ↔ w.getHub = none ∧ k.hubBaseUrl = some bytes := by
  cases h : w.getHub <;> simp [seen, h]

theorem access_seen : (k.seen w).access L = if w.getAccess = none then k.access L else none := by
  unfold access seen
  cases w.getAccess <;> rfl

theorem refresh_seen :
    (k.seen w).refresh L = if w.getRefresh = none then k.refresh L else some none := by
  unfold refresh seen
  cases w.getRefresh <;> rfl

theorem hub_seen : (k.seen w).hub L = if w.getHub = none then k.hub L else none := by
  unfold hub seen
  cases w.getHub <;> rfl

theorem loadRefresh_eq_ok {r : Option String} :
    TokenStore.loadRefresh L w k = .ok r ↔ (k.seen w).refresh L = some r := by
  unfold refresh seen TokenStore.loadRefresh TokenStore.read
  cases w.getRefresh with
  | some e => simp
  | none =>
    cases k.refreshToken with
    | none => simp
    | some entry =>
      by_cases he : entry.bytes = []
      · simp [he]
      · cases hf : L.fromUtf8 entry.bytes <;> simp [he, hf]

end Keychain

variable {L w} {c t : Client U} {session : StoredSession}

theorem ends_load_iff :
    Ends (TokenStore.load L w) c session t ↔
      c = t ∧ (c.keychain.seen w).session L = some session := by
  rw [Keychain.session_eq_some, Keychain.access_eq_some, Keychain.hub_eq_some,
    ← Keychain.loadRefresh_eq_ok]
  simp only [TokenStore.load, ends_get_bind, ends_ofExcept_bind, ends_ofOption_bind,
    ends_ensure_bind, ends_pure, read_eq_ok]
  constructor
  · rintro ⟨entry, hentry, token, htoken, hne, r, hr, bytes, hbytes, hubUrl, hhub, hhubne, rfl, rfl⟩
    exact ⟨rfl, ⟨⟨entry, Keychain.mem_accessToken_seen.mpr hentry, htoken⟩, hne⟩, hr,
      ⟨bytes, Keychain.mem_hubBaseUrl_seen.mpr hbytes, hhub⟩, hhubne⟩
  · rintro ⟨rfl, ⟨⟨entry, hentry, htoken⟩, hne⟩, hr, ⟨bytes, hbytes, hhub⟩, hhubne⟩
    exact ⟨entry, Keychain.mem_accessToken_seen.mp hentry, _, htoken, hne, _, hr, bytes,
      Keychain.mem_hubBaseUrl_seen.mp hbytes, _, hhub, hhubne, rfl, rfl⟩

theorem isSome_loaded :
    (∃ session t, Ends (TokenStore.load L w) c session t) ↔
      ((c.keychain.seen w).session L).isSome := by
  rw [Option.isSome_iff_exists]
  constructor
  · rintro ⟨session, t, h⟩
    exact ⟨session, (ends_load_iff.mp h).2⟩
  · rintro ⟨session, h⟩
    exact ⟨session, c, ends_load_iff.mpr ⟨rfl, h⟩⟩

/-! ## What an operation writes -/

inductive TokenWrite
  | store (session : StoredSession)
  | updateTokens (accessToken : String) (refreshToken : Option String)
  deriving DecidableEq, Repr

namespace TokenWrite

def run (L : SessionLib U) (w : World) : TokenWrite → Stateful (Client U) DesktopError Unit
  | .store session => TokenStore.store L w session
  | .updateTokens accessToken refreshToken => TokenStore.updateTokens L w accessToken refreshToken

def accessToken : TokenWrite → String
  | .store session => session.accessToken
  | .updateTokens accessToken _ => accessToken

def refreshToken : TokenWrite → Option String
  | .store session => session.refreshToken
  | .updateTokens _ refreshToken => refreshToken

def hubBaseUrl : TokenWrite → Option String
  | .store session => some session.hubBaseUrl
  | .updateTokens _ _ => none

end TokenWrite

structure Written where
  access : Bool
  refresh : Bool
  hub : Bool
  deriving DecidableEq, Repr

def refreshChanges (w : World) : Option String → Bool
  | some _ => w.setRefresh.takesEffect
  | none => w.deleteRefresh.takesEffect

/-- A delete that fails is ignored. -/
def refreshPasses (w : World) : Option String → Bool
  | some _ => w.setRefresh = .delivered
  | none => true

def TokenWrite.written (L : SessionLib U) (w : World) (op : TokenWrite) : Written :=
  let checked := op.hubBaseUrl.all fun hub => (L.parse hub).isSome
  let accessPasses := checked && w.setAccess = .delivered
  { access := checked && w.setAccess.takesEffect
    refresh := accessPasses && refreshChanges w op.refreshToken
    hub := op.hubBaseUrl.isSome && accessPasses && refreshPasses w op.refreshToken &&
      w.setHub.takesEffect }

def TokenWrite.succeeds (L : SessionLib U) (w : World) (op : TokenWrite) : Bool :=
  (op.hubBaseUrl.all fun hub => (L.parse hub).isSome) && w.setAccess = .delivered &&
    refreshPasses w op.refreshToken && (op.hubBaseUrl.isNone || w.setHub = .delivered)

def Keychain.after (L : SessionLib U) (op : TokenWrite) (done : Written) (issuer : Option U)
    (k : Keychain U) : Keychain U where
  accessToken := if done.access then some ⟨L.asBytes op.accessToken, issuer⟩ else k.accessToken
  refreshToken :=
    if done.refresh then op.refreshToken.map fun refresh => ⟨L.asBytes refresh, issuer⟩
    else k.refreshToken
  hubBaseUrl := if done.hub then op.hubBaseUrl.map L.asBytes else k.hubBaseUrl

def TokenWrite.after (L : SessionLib U) (w : World) (op : TokenWrite) (c : Client U) : Client U :=
  { c with keychain := c.keychain.after L op (op.written L w) c.contacted.getLast? }

theorem outcome_setAccess (accessToken : String) (err : String → DesktopError) :
    outcome (remote w.setAccess err (modify fun c : Client U => { c with
        keychain.accessToken := some ⟨L.asBytes accessToken, c.contacted.getLast?⟩ })) c =
      (decide (w.setAccess = .delivered), { c with
        keychain.accessToken :=
          if w.setAccess.takesEffect then some ⟨L.asBytes accessToken, c.contacted.getLast?⟩
          else c.keychain.accessToken }) := by
  rw [outcome_remote_modify]
  cases w.setAccess.takesEffect <;> rfl

theorem outcome_setHub (hubBaseUrl : String) (err : String → DesktopError) :
    outcome (remote w.setHub err (modify fun c : Client U => { c with
        keychain.hubBaseUrl := some (L.asBytes hubBaseUrl) })) c =
      (decide (w.setHub = .delivered), { c with
        keychain.hubBaseUrl :=
          if w.setHub.takesEffect then some (L.asBytes hubBaseUrl)
          else c.keychain.hubBaseUrl }) := by
  rw [outcome_remote_modify]
  cases w.setHub.takesEffect <;> rfl

theorem outcome_changeRefresh (refresh : Option String) (err : String → DesktopError) :
    outcome (TokenStore.changeRefresh L w err refresh) c =
      (refreshPasses w refresh, { c with
        keychain.refreshToken :=
          if refreshChanges w refresh then
            refresh.map fun refresh => ⟨L.asBytes refresh, c.contacted.getLast?⟩
          else c.keychain.refreshToken }) := by
  cases refresh with
  | some refresh =>
    rw [TokenStore.changeRefresh, outcome_remote_modify, refreshPasses, refreshChanges]
    cases w.setRefresh.takesEffect <;> rfl
  | none =>
    rw [TokenStore.changeRefresh, outcome_attempt, outcome_remote_modify, refreshPasses,
      refreshChanges]
    cases w.deleteRefresh.takesEffect <;> rfl

theorem storeRefresh_eq (refresh : Option String) :
    TokenStore.storeRefresh L w refresh =
      TokenStore.changeRefresh L w
        (fun e => .keychainError ("failed to store refresh token: " ++ e)) refresh := by
  cases refresh <;> rfl

theorem outcome_run (op : TokenWrite) (c : Client U) :
    outcome (op.run L w) c = (op.succeeds L w, op.after L w c) := by
  cases op with
  | store session =>
    show outcome (TokenStore.store L w session) c = _
    cases hp : L.parse session.hubBaseUrl with
    | none =>
      have hrun : outcome (TokenStore.store L w session) c = (false, c) := by
        unfold TokenStore.store
        rw [hp]
        rfl
      rw [hrun]
      simp [TokenWrite.succeeds, TokenWrite.after, TokenWrite.written, Keychain.after,
        TokenWrite.hubBaseUrl, hp]
    | some u =>
      unfold TokenStore.store
      rw [hp]
      simp only [ofOption, pure_bind]
      rw [outcome_bind_unit, outcome_setAccess, outcome_bind_unit, storeRefresh_eq,
        outcome_changeRefresh, outcome_setHub]
      simp only [TokenWrite.succeeds, TokenWrite.after, TokenWrite.written, Keychain.after,
        TokenWrite.hubBaseUrl, TokenWrite.refreshToken, TokenWrite.accessToken]
      by_cases ha : w.setAccess = .delivered
      · by_cases hr : refreshPasses w session.refreshToken = true <;> simp [ha, hr, hp]
      · simp [ha, hp]
  | updateTokens accessToken refreshToken =>
    show outcome (TokenStore.updateTokens L w accessToken refreshToken) c = _
    unfold TokenStore.updateTokens
    rw [outcome_bind_unit, outcome_setAccess, outcome_changeRefresh]
    simp only [TokenWrite.succeeds, TokenWrite.after, TokenWrite.written, Keychain.after,
      TokenWrite.hubBaseUrl, TokenWrite.refreshToken, TokenWrite.accessToken]
    by_cases ha : w.setAccess = .delivered <;> simp [ha]

/-! ## Whole sessions -/

structure TextLaws (L : SessionLib U) : Prop where
  fromUtf8_eq_some : ∀ bytes text, L.fromUtf8 bytes = some text ↔ L.asBytes text = bytes
  asBytes_empty : L.asBytes "" = []

theorem TextLaws.fromUtf8_asBytes (T : TextLaws L) (text : String) :
    L.fromUtf8 (L.asBytes text) = some text :=
  (T.fromUtf8_eq_some _ _).mpr rfl

def TokenWrite.kept (op : TokenWrite) : Option String := op.refreshToken.filter (· ≠ "")

def TokenWrite.newSession (L : SessionLib U) (op : TokenWrite) (k : Keychain U) :
    Option StoredSession :=
  (op.hubBaseUrl.or (k.hub L)).map fun hub => ⟨op.accessToken, op.kept, hub⟩

structure StoredSession.Full (session : StoredSession) : Prop where
  access : session.accessToken ≠ ""
  refresh : session.refreshToken ≠ some ""
  hub : session.hubBaseUrl ≠ ""

structure World.Reads (w : World) : Prop where
  access : w.getAccess = none
  refresh : w.getRefresh = none
  hub : w.getHub = none

def World.readable (w : World) : World :=
  { w with getAccess := none, getRefresh := none, getHub := none }

/-- The session that was there or the new one is loaded, and a stored one is loaded back. -/
structure StoredWhole (L : SessionLib U) (op : TokenWrite) (w r : World) (c : Client U) : Prop where
  unmixed : ∀ session t, Ends (TokenStore.load L r) (op.run L w c).2 session t →
    c.keychain.session L = some session ∨ op.newSession L c.keychain = some session
  loadsBack : ∀ session, op = .store session → session.Full → (op.run L w c).1.isOk →
    ∀ r' : World, r'.Reads →
      Ends (TokenStore.load L r') (op.run L w c).2 session (op.run L w c).2
  found : TokenStore.hasSession r (op.run L w c).2.keychain = true ↔
    ∃ session t, Ends (TokenStore.load L r) (op.run L w c).2 session t

@[mk_iff]
structure HoldsNew (L : SessionLib U) (op : TokenWrite) (w r : World) (k : Keychain U) : Prop where
  access : (op.written L w).access = false → k.access L = some op.accessToken
  refresh : r.getRefresh = none → (op.written L w).refresh = false → k.refresh L = some op.kept
  unread : r.getRefresh ≠ none → op.kept = none
  hub : (op.written L w).hub = false → ∀ hub ∈ op.hubBaseUrl, k.hub L = some hub

structure HoldsOld (L : SessionLib U) (op : TokenWrite) (w r : World) (k : Keychain U)
    (previous : StoredSession) : Prop where
  session : k.session L = some previous
  access : (op.written L w).access = true → previous.accessToken = op.accessToken
  refresh : r.getRefresh = none → (op.written L w).refresh = true →
    previous.refreshToken = op.kept
  unread : r.getRefresh ≠ none → previous.refreshToken = none
  hub : (op.written L w).hub = true → op.hubBaseUrl = some previous.hubBaseUrl

structure WritesWhole (L : SessionLib U) (op : TokenWrite) (w r : World) (c : Client U) :
    Prop where
  /-- If a session can be loaded, all writes that matter took effect, or none. -/
  all_or_none : (((op.after L w c).keychain.seen r).session L).isSome →
    HoldsNew L op w r c.keychain ∨ ∃ previous, HoldsOld L op w r c.keychain previous
  /-- A session without a refresh token finds none, or deletes it. -/
  deletes : ∀ session, op = .store session → session.Full → op.succeeds L w = true →
    session.refreshToken = none →
      w.deleteRefresh.takesEffect = true ∨ c.keychain.refresh L = some none
  /-- An access token that can be read is a text, and comes with a hub and, if with one at all,
  with a refresh token that is a text. -/
  complete : ∀ entry ∈ ((op.after L w c).keychain.seen r).accessToken, entry.bytes ≠ [] →
    (L.fromUtf8 entry.bytes).isSome ∧ (((op.after L w c).keychain.seen r).refresh L).isSome ∧
      (((op.after L w c).keychain.seen r).hub L).isSome

section

variable {k : Keychain U} {op : TokenWrite} {r : World} (T : TextLaws L)

include T

theorem access_after (done : Written) (issuer : Option U) :
    (k.after L op done issuer).access L =
      if done.access then (some op.accessToken).filter (· ≠ "") else k.access L := by
  unfold Keychain.access Keychain.after
  dsimp only
  split
  · rw [Option.bind_some, T.fromUtf8_asBytes]
  · rfl

theorem hub_after (done : Written) (issuer : Option U) :
    (k.after L op done issuer).hub L =
      if done.hub then op.hubBaseUrl.filter (· ≠ "") else k.hub L := by
  unfold Keychain.hub Keychain.after
  dsimp only
  split
  · cases op.hubBaseUrl with
    | none => rfl
    | some hub => rw [Option.map_some, Option.bind_some, T.fromUtf8_asBytes]
  · rfl

theorem asBytes_eq_nil {text : String} : L.asBytes text = [] ↔ text = "" := by
  constructor
  · intro h
    have htext := T.fromUtf8_asBytes text
    rw [h, ← T.asBytes_empty, T.fromUtf8_asBytes] at htext
    exact (Option.some.inj htext).symm
  · rintro rfl
    exact T.asBytes_empty

theorem refresh_after (done : Written) (issuer : Option U) :
    (k.after L op done issuer).refresh L =
      if done.refresh then some op.kept else k.refresh L := by
  unfold Keychain.refresh Keychain.after TokenWrite.kept
  cases done.refresh with
  | false => rfl
  | true =>
    cases op.refreshToken with
    | none => rfl
    | some refresh =>
      by_cases h : refresh = ""
      · simp [h, T.asBytes_empty, Option.filter]
      · simp [h, asBytes_eq_nil T, T.fromUtf8_asBytes, Option.filter]

theorem session_seen_after {s : StoredSession} {done : Written} {issuer : Option U} :
    ((k.after L op done issuer).seen r).session L = some s ↔
      (r.getAccess = none ∧ r.getHub = none) ∧
        (if done.access then op.accessToken = s.accessToken ∧ s.accessToken ≠ ""
          else k.access L = some s.accessToken) ∧
        (if r.getRefresh = none then
          if done.refresh then op.kept = s.refreshToken else k.refresh L = some s.refreshToken
          else none = s.refreshToken) ∧
        (if done.hub then op.hubBaseUrl = some s.hubBaseUrl ∧ s.hubBaseUrl ≠ ""
          else k.hub L = some s.hubBaseUrl) := by
  rw [Keychain.session_eq_some, Keychain.access_seen, Keychain.refresh_seen, Keychain.hub_seen,
    access_after T, refresh_after T, hub_after T]
  have haccess : (some op.accessToken).filter (· ≠ "") = some s.accessToken ↔
      op.accessToken = s.accessToken ∧ s.accessToken ≠ "" := by
    simp [Option.filter_eq_some_iff]
  have hhub : op.hubBaseUrl.filter (· ≠ "") = some s.hubBaseUrl ↔
      op.hubBaseUrl = some s.hubBaseUrl ∧ s.hubBaseUrl ≠ "" := by
    simp [Option.filter_eq_some_iff]
  by_cases ha : r.getAccess = none
  · by_cases hh : r.getHub = none
    · simp only [ha, hh, if_true, true_and, and_self, apply_ite (· = some s.accessToken),
        apply_ite (· = some s.refreshToken), apply_ite (· = some s.hubBaseUrl), haccess, hhub,
        Option.some.injEq]
    · simp [hh]
  · simp [ha]

variable {s : StoredSession} {c : Client U}

theorem newSession_eq_some (h : ((op.after L w c).keychain.seen r).session L = some s) :
    op.newSession L c.keychain = some s ↔ HoldsNew L op w r c.keychain := by
  obtain ⟨-, haccess, hrefresh, hhub⟩ := (session_seen_after T).mp h
  have ha : op.accessToken = s.accessToken ↔
      ((op.written L w).access = false → c.keychain.access L = some op.accessToken) := by
    cases hdone : (op.written L w).access with
    | true => simp_all
    | false => simp_all [@eq_comm _ op.accessToken]
  have hr : op.kept = s.refreshToken ↔
      (r.getRefresh = none → (op.written L w).refresh = false →
        c.keychain.refresh L = some op.kept) ∧ (r.getRefresh ≠ none → op.kept = none) := by
    by_cases hread : r.getRefresh = none
    · cases hdone : (op.written L w).refresh with
      | true => simp_all
      | false => simp_all [@eq_comm _ op.kept]
    · simp_all
  have hh : op.hubBaseUrl.or (c.keychain.hub L) = some s.hubBaseUrl ↔
      ((op.written L w).hub = false → ∀ hub ∈ op.hubBaseUrl, c.keychain.hub L = some hub) := by
    cases hdone : (op.written L w).hub with
    | true => simp_all
    | false => cases hop : op.hubBaseUrl <;> simp_all [@eq_comm _ _ s.hubBaseUrl]
  have hnew : op.newSession L c.keychain = some s ↔ op.accessToken = s.accessToken ∧
      op.kept = s.refreshToken ∧ op.hubBaseUrl.or (c.keychain.hub L) = some s.hubBaseUrl := by
    obtain ⟨a, b, d⟩ := s
    simp [TokenWrite.newSession, and_comm, and_left_comm]
  rw [hnew, ha, hr, hh, and_assoc, holdsNew_iff]

theorem session_eq_loaded (h : ((op.after L w c).keychain.seen r).session L = some s) :
    c.keychain.session L = some s ↔ ∃ previous, HoldsOld L op w r c.keychain previous := by
  obtain ⟨-, haccess, hrefresh, hhub⟩ := (session_seen_after T).mp h
  constructor
  · intro hold
    refine ⟨s, hold, ?_, ?_, ?_, ?_⟩
    · intro ha
      rw [if_pos ha] at haccess
      exact haccess.1.symm
    · intro hread hr
      rw [if_pos hread, if_pos hr] at hrefresh
      exact hrefresh.symm
    · intro hread
      rw [if_neg hread] at hrefresh
      exact hrefresh.symm
    · intro hh
      rw [if_pos hh] at hhub
      exact hhub.1
  · rintro ⟨previous, hold⟩
    obtain ⟨hpa, hpr, hph⟩ := Keychain.session_eq_some.mp hold.session
    have ha : previous.accessToken = s.accessToken := by
      cases hdone : (op.written L w).access with
      | true => simp_all [hold.access hdone]
      | false => simp_all
    have hr : previous.refreshToken = s.refreshToken := by
      by_cases hread : r.getRefresh = none
      · cases hdone : (op.written L w).refresh with
        | true => simp_all [hold.refresh hread hdone]
        | false => simp_all
      · simp_all [hold.unread hread]
    have hh : previous.hubBaseUrl = s.hubBaseUrl := by
      cases hdone : (op.written L w).hub with
      | true => simp_all [hold.hub hdone]
      | false => simp_all
    rw [Keychain.session_eq_some, ← ha, ← hr, ← hh]
    exact ⟨hpa, hpr, hph⟩

theorem session_seen_stored (hr : r.Reads) (hs : s.Full)
    (hok : (TokenWrite.store s).succeeds L w = true) :
    (((TokenWrite.store s).after L w c).keychain.seen r).session L = some s ↔
      (s.refreshToken = none →
        w.deleteRefresh.takesEffect = true ∨ c.keychain.refresh L = some none) := by
  simp only [TokenWrite.succeeds, TokenWrite.hubBaseUrl, TokenWrite.refreshToken, Bool.and_eq_true,
    Bool.or_eq_true, decide_eq_true_eq, Option.isNone_some, Bool.false_eq_true, false_or,
    Option.all_some] at hok
  obtain ⟨⟨⟨hparse, ha⟩, hp⟩, hh⟩ := hok
  unfold TokenWrite.after
  rw [session_seen_after T]
  simp only [hr.access, hr.hub, hr.refresh, TokenWrite.written, TokenWrite.hubBaseUrl,
    TokenWrite.accessToken, TokenWrite.refreshToken, TokenWrite.kept, Option.all_some, hparse, ha,
    hp, hh, hs.access, hs.hub, takesEffect_delivered, Option.isSome_some, Bool.and_true,
    decide_true, Bool.true_and, if_true, true_and, and_true, ne_eq, not_false_eq_true]
  cases hrefresh : s.refreshToken with
  | none =>
    rw [refreshChanges]
    cases w.deleteRefresh.takesEffect <;> simp
  | some refresh =>
    rw [hrefresh, refreshPasses, decide_eq_true_eq] at hp
    have hne : refresh ≠ "" := by
      rintro rfl
      exact hs.refresh hrefresh
    simp [refreshChanges, hp, hne, Option.filter]

omit T in
theorem hasSession_eq_true :
    TokenStore.hasSession r k = true ↔ ∃ entry ∈ (k.seen r).accessToken, entry.bytes ≠ [] := by
  unfold TokenStore.hasSession
  constructor
  · intro h
    split at h
    · rename_i entry hread
      exact ⟨entry, Keychain.mem_accessToken_seen.mpr (read_eq_ok.mp hread), by simpa using h⟩
    · cases h
  · rintro ⟨entry, hmem, hne⟩
    rw [read_eq_ok.mpr (Keychain.mem_accessToken_seen.mp hmem)]
    simpa using hne

theorem isSome_access :
    (k.access L).isSome ↔
      ∃ entry ∈ k.accessToken, entry.bytes ≠ [] ∧ (L.fromUtf8 entry.bytes).isSome := by
  have hempty : ∀ {bytes text}, L.fromUtf8 bytes = some text → (bytes ≠ [] ↔ text ≠ "") := by
    intro bytes text h
    rw [← (T.fromUtf8_eq_some _ _).mp h]
    exact (asBytes_eq_nil T).not
  simp only [Option.isSome_iff_exists, Keychain.access_eq_some]
  constructor
  · rintro ⟨a, ⟨entry, hmem, hutf⟩, hne⟩
    exact ⟨entry, hmem, (hempty hutf).mpr hne, a, hutf⟩
  · rintro ⟨entry, hmem, hne, a, hutf⟩
    exact ⟨a, ⟨entry, hmem, hutf⟩, (hempty hutf).mp hne⟩

theorem hasSession_iff_isSome_session :
    (TokenStore.hasSession r k = true ↔ ((k.seen r).session L).isSome) ↔
      ∀ entry ∈ (k.seen r).accessToken, entry.bytes ≠ [] →
        (L.fromUtf8 entry.bytes).isSome ∧ ((k.seen r).refresh L).isSome ∧
          ((k.seen r).hub L).isSome := by
  rw [hasSession_eq_true, Keychain.isSome_session, isSome_access T]
  constructor
  · intro h entry hmem hne
    obtain ⟨⟨entry', hmem', -, hutf⟩, hr, hh⟩ := h.mp ⟨entry, hmem, hne⟩
    obtain rfl := Option.mem_unique hmem' hmem
    exact ⟨hutf, hr, hh⟩
  · intro h
    constructor
    · rintro ⟨entry, hmem, hne⟩
      obtain ⟨hutf, hr, hh⟩ := h entry hmem hne
      exact ⟨⟨entry, hmem, hne, hutf⟩, hr, hh⟩
    · rintro ⟨⟨entry, hmem, hne, -⟩, -, -⟩
      exact ⟨entry, hmem, hne⟩

theorem storedWhole_iff : StoredWhole L op w r c ↔ WritesWhole L op w r c := by
  have hafter : (op.run L w c).2 = op.after L w c := congrArg Prod.snd (outcome_run op c)
  have hok : (op.run L w c).1.isOk = op.succeeds L w := congrArg Prod.fst (outcome_run op c)
  constructor
  · rintro ⟨hunmixed, hback, hfound⟩
    rw [hafter] at hunmixed hback hfound
    rw [hok] at hback
    rw [isSome_loaded, hasSession_iff_isSome_session T] at hfound
    refine ⟨?_, ?_, hfound⟩
    · intro hsome
      obtain ⟨s, hs⟩ := Option.isSome_iff_exists.mp hsome
      rw [← newSession_eq_some T hs, ← session_eq_loaded T hs]
      exact (hunmixed s _ (ends_load_iff.mpr ⟨rfl, hs⟩)).symm
    · rintro s rfl hfull hsucceeds
      have hreads : World.Reads w.readable := ⟨rfl, rfl, rfl⟩
      have hload := hback s rfl hfull hsucceeds w.readable hreads
      exact (session_seen_stored T hreads hfull hsucceeds).mp (ends_load_iff.mp hload).2
  · rintro ⟨hall, hdeletes, hcomplete⟩
    refine ⟨?_, ?_, ?_⟩
    · intro s t hload
      rw [hafter] at hload
      have hs := (ends_load_iff.mp hload).2
      rw [newSession_eq_some T hs, session_eq_loaded T hs]
      exact (hall (Option.isSome_iff_exists.mpr ⟨s, hs⟩)).symm
    · rintro s rfl hfull hsucceeds r' hreads
      rw [hok] at hsucceeds
      rw [hafter, ends_load_iff]
      exact ⟨rfl, (session_seen_stored T hreads hfull hsucceeds).mpr
        (hdeletes s rfl hfull hsucceeds)⟩
    · rw [hafter, isSome_loaded, hasSession_iff_isSome_session T]
      exact hcomplete

end

def utf8Lib : SessionLib PlainUrl :=
  { exampleLib with
    asBytes := fun text => text.toUTF8.data.toList
    fromUtf8 := fun bytes => String.fromUTF8? ⟨bytes.toArray⟩ }

theorem utf8Laws : TextLaws utf8Lib where
  fromUtf8_eq_some bytes text := by
    show String.fromUTF8? ⟨bytes.toArray⟩ = some text ↔ text.toUTF8.data.toList = bytes
    unfold String.fromUTF8?
    split
    · rw [Option.some.injEq]
      constructor
      · rintro rfl
        rfl
      · rintro rfl
        rfl
    · rename_i hvalid
      constructor
      · rintro ⟨⟩
      · rintro rfl
        exact absurd text.isValidUTF8 hvalid
  asBytes_empty := rfl

def oldSession : Client PlainUrl :=
  .before ⟨some ⟨utf8Lib.asBytes "old", none⟩, none, some (utf8Lib.asBytes "https://old.example")⟩
    none

def newLogin : TokenWrite := .store ⟨"new", some "rotated", "https://hub.example:8443"⟩

def calm : World :=
  { (smooth (.replied 200 [] (.ok []))).readable with deleteRefresh := .delivered }

theorem storedWhole_calm : StoredWhole utf8Lib newLogin calm calm oldSession := by
  have hdone : newLogin.written utf8Lib calm = ⟨true, true, true⟩ := by decide +kernel
  apply (storedWhole_iff utf8Laws).mpr
  refine ⟨?_, ?_, ?_⟩
  · intro _
    left
    exact ⟨by simp [hdone], by simp [hdone], fun hread => absurd rfl hread, by simp [hdone]⟩
  · rintro session ⟨⟩ - - ⟨⟩
  · decide +kernel

def hubLocked : World := { calm with setHub := .requestLost "locked" }

/-- **A session is mixed**: new tokens are loaded with the old hub. -/
theorem new_tokens_with_old_hub :
    let t := (newLogin.run utf8Lib hubLocked oldSession).2
    let t' := (newLogin.run utf8Lib hubLocked (.before ⟨none, none, none⟩ none)).2
    Ends (TokenStore.load utf8Lib calm) t ⟨"new", some "rotated", "https://old.example"⟩ t ∧
      ¬ StoredWhole utf8Lib newLogin hubLocked calm oldSession ∧
      TokenStore.hasSession calm t'.keychain = true ∧
      (TokenStore.load utf8Lib calm t').1.isOk = false := by
  have hload : Ends (TokenStore.load utf8Lib calm) (newLogin.run utf8Lib hubLocked oldSession).2
      ⟨"new", some "rotated", "https://old.example"⟩
      (newLogin.run utf8Lib hubLocked oldSession).2 :=
    ends_load_iff.mpr ⟨rfl, by decide +kernel⟩
  refine ⟨hload, ?_, by decide +kernel, by decide +kernel⟩
  intro h
  rcases h.unmixed _ _ hload with h | h <;> exact absurd h (by decide +kernel)

end Penguind.Desktop
