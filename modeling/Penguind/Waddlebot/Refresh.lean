import Penguind.Waddlebot.Forward
import Penguind.Waddlebot.SessionOwnership

/-!
# Hubs and refreshes

Which hubs a session may have, and where the refresh of its token goes.
-/

namespace Penguind.Waddlebot

open Foundation

variable {U : Type} {L : WebLib U}

/-! ## The rule for hubs -/

def HubAllowed (L : WebLib U) (hubBaseUrl : String) : Prop :=
  ∃ u, L.parse hubBaseUrl = some u ∧ (L.scheme u = "https" ∨
    L.scheme u = "http" ∧ ∃ host ∈ ["127.0.0.1", "localhost", "[::1]"], L.hostStr u = some host)

def TestsSuffice (L : WebLib U) (u : U) : Prop :=
  L.scheme u = "https" ∨ L.hostStr u ≠ some "::1" ∧
    if L.scheme u = "http" then L.hostStr u ≠ some "[::1]"
    else L.hostStr u ≠ some "127.0.0.1" ∧ L.hostStr u ≠ some "localhost"

theorem checkHub_isOk_iff {hubBaseUrl : String} : (checkHub L hubBaseUrl).isOk ↔
    ∃ u, L.parse hubBaseUrl = some u ∧
      (L.scheme u = "https" ∨ ∃ host ∈ loopbackHosts, L.hostStr u = some host) := by
  unfold checkHub
  cases L.parse hubBaseUrl with
  | none => simp [Except.isOk, Except.toBool]
  | some u =>
    simp only [Option.some.injEq, exists_eq_left', ← not_or]
    split_ifs with h
    · exact iff_of_true rfl h
    · exact iff_of_false (by simp [Except.isOk, Except.toBool]) h

theorem testsSuffice_iff {u : U} :
    ((L.scheme u = "https" ∨ ∃ host ∈ loopbackHosts, L.hostStr u = some host) ↔
        (L.scheme u = "https" ∨
          L.scheme u = "http" ∧ ∃ host ∈ ["127.0.0.1", "localhost", "[::1]"],
            L.hostStr u = some host)) ↔ TestsSuffice L u := by
  unfold TestsSuffice
  by_cases hs : L.scheme u = "https"
  · simp [hs]
  · by_cases hh : L.scheme u = "http"
    · simp only [hh, loopbackHosts, List.exists_mem_cons_iff, List.not_mem_nil, false_and,
        exists_false, or_false, true_and, if_true]
      -- the two lists differ in the spelling of the IPv6 loopback
      by_cases h1 : L.hostStr u = some "::1"
      · simp [h1]
      · by_cases h2 : L.hostStr u = some "[::1]"
        · simp [h2]
        · simp [h1, h2]
    · simp only [hs, hh, loopbackHosts, List.exists_mem_cons_iff, List.not_mem_nil, false_and,
        exists_false, or_false, false_or, if_false, iff_false, not_or]
      tauto

/-- **Setting a session follows the rule** exactly if the two tests suffice. -/
theorem setSession_follows_rule_iff (s : SessionProxy U) (accessToken : String)
    (refreshToken : Option String) (hubBaseUrl : String) :
    let r := s.setSession L accessToken refreshToken hubBaseUrl
    ((r.1.isOk ↔ HubAllowed L hubBaseUrl) ↔
      ∀ u, L.parse hubBaseUrl = some u → TestsSuffice L u) ∧ (r.1.isOk = false → r.2 = s) := by
  have hok : (s.setSession L accessToken refreshToken hubBaseUrl).1.isOk =
      (checkHub L hubBaseUrl).isOk := by
    unfold SessionProxy.setSession
    cases checkHub L hubBaseUrl <;> rfl
  constructor
  · rw [hok, checkHub_isOk_iff]
    unfold HubAllowed
    cases L.parse hubBaseUrl with
    | none => simp
    | some u =>
      simp only [Option.some.injEq, exists_eq_left', forall_eq']
      exact testsSuffice_iff
  · intro hfails
    unfold SessionProxy.setSession at hfails ⊢
    cases hc : checkHub L hubBaseUrl with
    | error err => rfl
    | ok hub =>
      rw [hc] at hfails
      cases hfails

def schemesAndHosts : WebLib (String × String) where
  parse text :=
    if text = "ftp://localhost" then some ("ftp", "localhost")
    else if text = "http://[::1]:8080" then some ("http", "[::1]")
    else none
  join base _ := some base
  scheme := Prod.fst
  hostStr u := some u.2
  display u := u.1 ++ "://" ++ u.2
  toUppercase := id
  toLowercase := id

/-- **The rule is broken both ways**: for an ftp URL, and for the IPv6 loopback. -/
theorem hub_rule_broken :
    let set := fun text => (SessionProxy.new.setSession schemesAndHosts "a" none text).1
    (set "ftp://localhost").isOk = true ∧ ¬ HubAllowed schemesAndHosts "ftp://localhost" ∧
      (set "http://[::1]:8080").isOk = false ∧
      HubAllowed schemesAndHosts "http://[::1]:8080" := by
  refine ⟨by decide, ?_, by decide, ("http", "[::1]"), by decide, .inr (by decide)⟩
  rintro ⟨u, hu, h⟩
  obtain rfl : ("ftp", "localhost") = u := Option.some.inj hu
  revert h
  decide

/-! ## No request is sent more than twice -/

def SessionProxy.sendsLeft (s : SessionProxy U) (id : RequestId) : Nat :=
  match s.inFlight.lookup id with
  | some r => r.phase.sendsLeft
  | none => if id < s.nextRequest then 0 else 2

def SessionProxy.NumbersUsed (s : SessionProxy U) : Prop :=
  ∀ id, s.nextRequest ≤ id → s.inFlight.lookup id = none

section Sends

variable {s t u : SessionProxy U} {id i : RequestId} {r r' : InFlight U} {a : Action}

theorem sendsLeft_of_lookup_eq (hl : t.inFlight.lookup i = s.inFlight.lookup i)
    (hn : t.nextRequest = s.nextRequest) : t.sendsLeft i = s.sendsLeft i := by
  rw [SessionProxy.sendsLeft, SessionProxy.sendsLeft, hl, hn]

theorem sendsLeft_of_some (hl : s.inFlight.lookup i = some r) :
    s.sendsLeft i = r.phase.sendsLeft := by
  rw [SessionProxy.sendsLeft, hl]

theorem sends_of_ne (ha : a.request = some id) (hne : i ≠ id) : a.sends i = false := by
  cases a with
  | send id' =>
    cases ha
    exact decide_eq_false hne.symm
  | _ => rfl

theorem sendsLeft_turn (hs : s.NumbersUsed) (hl : s.inFlight.lookup id = some r)
    (ha : a.request = some id) (h : Turn s id r a t) :
    t.NumbersUsed ∧ t.sendsLeft i + (a.sends i).toNat ≤ s.sendsLeft i := by
  have hid : id < s.nextRequest := by
    by_contra hid
    cases (hs id (not_lt.mp hid)).symm.trans hl
  have hothers : t.nextRequest = s.nextRequest ∧
      ∀ x ≠ id, t.inFlight.lookup x = s.inFlight.lookup x := by
    cases h with
    | finish result left => exact ⟨rfl, fun x hx => AList.lookup_erase_ne hx⟩
    | goTo u phase slot number flight results left =>
      exact ⟨number, fun x hx => (AList.lookup_insert_ne hx).trans (by rw [flight])⟩
  refine ⟨fun x hx => ?_, ?_⟩
  · rw [hothers.1] at hx
    rw [hothers.2 x (hid.trans_le hx).ne']
    exact hs x hx
  · by_cases hi : i = id
    · subst hi
      rw [sendsLeft_of_some hl]
      cases h with
      | finish result left =>
        have hnone : (s.finish i result).inFlight.lookup i = none := AList.lookup_erase _ _
        rw [SessionProxy.sendsLeft, hnone]
        simpa [SessionProxy.finish, hid] using left
      | goTo u phase slot number flight results left =>
        rw [sendsLeft_of_some (lookup_goTo phase)]
        exact left
    · rw [sends_of_ne ha hi, sendsLeft_of_lookup_eq (hothers.2 i hi) hothers.1]
      exact le_rfl

theorem sendsLeft_accept (hs : s.NumbersUsed) (req : HttpRequest) :
    (s.accept req).NumbersUsed ∧ (s.accept req).sendsLeft i ≤ s.sendsLeft i := by
  have hfree : s.inFlight.lookup s.nextRequest = none := hs _ le_rfl
  have hnumber : (s.accept req).nextRequest = s.nextRequest + 1 := by
    unfold SessionProxy.accept
    split <;> rfl
  have hothers : ∀ x ≠ s.nextRequest,
      (s.accept req).inFlight.lookup x = s.inFlight.lookup x := by
    intro x hx
    unfold SessionProxy.accept
    split
    · exact AList.lookup_erase_ne hx
    · exact AList.lookup_insert_ne hx
  refine ⟨fun x hx => ?_, ?_⟩
  · rw [hnumber] at hx
    rw [hothers x (Nat.ne_of_gt hx)]
    exact hs x (Nat.le_of_succ_le hx)
  · by_cases hi : i = s.nextRequest
    · subst hi
      -- the new request has both sends before it, as its number had
      have htwo : s.sendsLeft s.nextRequest = 2 := by simp [SessionProxy.sendsLeft, hfree]
      rw [htwo, SessionProxy.sendsLeft]
      split
      · exact Phase.sendsLeft_le_two _
      · split_ifs <;> omega
    · rw [SessionProxy.sendsLeft, SessionProxy.sendsLeft, hothers i hi, hnumber]
      split
      · exact le_rfl
      · split_ifs with hnew hold hold
        · exact le_rfl
        · exact Nat.zero_le _
        · exact absurd (Nat.lt_succ_of_lt hold) hnew
        · exact le_rfl

theorem sendsLeft_step (hs : s.NumbersUsed) (hstep : step L s a = some t) :
    t.NumbersUsed ∧ t.sendsLeft i + (a.sends i).toNat ≤ s.sendsLeft i := by
  have hsame : t.inFlight = s.inFlight → t.nextRequest = s.nextRequest → a.sends i = false →
      t.NumbersUsed ∧ t.sendsLeft i + (a.sends i).toNat ≤ s.sendsLeft i := by
    intro hf hn ha
    rw [ha, sendsLeft_of_lookup_eq (by rw [hf]) hn]
    refine ⟨?_, le_rfl⟩
    unfold SessionProxy.NumbersUsed
    rw [hf, hn]
    exact hs
  cases a with
  | setSession x y z =>
    cases hstep
    refine hsame ?_ ?_ rfl
    all_goals
      unfold SessionProxy.setSession
      split <;> rfl
  | clearSession =>
    cases hstep
    exact hsame rfl rfl rfl
  | resetFlag =>
    simp only [step, Option.ite_none_right_eq_some, Option.some.injEq] at hstep
    obtain ⟨-, rfl⟩ := hstep
    exact hsame rfl rfl rfl
  | accept req =>
    cases hstep
    exact sendsLeft_accept hs req
  | send id | reply id | refreshed id | store id | flag id | reacquire id =>
    cases hr : s.inFlight.lookup id with
    | none => simp [step, hr] at hstep
    | some r =>
      rw [step_of_lookup rfl hr] at hstep
      exact sendsLeft_turn hs hr rfl (turn_stepRequest hstep)

theorem countP_sends_le {as : List Action} (hs : s.NumbersUsed) (hr : run (step L) s as = some t) :
    as.countP (Action.sends i) ≤ s.sendsLeft i := by
  induction hr using run_induction with
  | nil => exact Nat.zero_le _
  | cons s a u as hstep _ ih =>
    obtain ⟨hu, hle⟩ := sendsLeft_step (i := i) hs hstep
    have hrest := ih hu
    have hone : (if a.sends i = true then 1 else 0) = (a.sends i).toNat := by
      cases a.sends i <;> rfl
    rw [List.countP_cons, hone]
    exact (Nat.add_le_add_right hrest _).trans hle

end Sends

/-! ## Where the refresh is posted -/

def refreshPath : String := "/api/v1/auth/refresh"

/-- A URL is its origin and the rest; joining a path keeps the origin alone. -/
structure Serialized (L : WebLib U) where
  origin : U → String
  rest : U → String
  display_eq : ∀ u, L.display u = origin u ++ rest u
  display_injective : Function.Injective L.display
  parse_append : ∀ text u, checkHub L text = .ok u →
    ∃ v, L.parse (L.display u ++ refreshPath) = some v ∧ L.display v = L.display u ++ refreshPath
  join_refreshPath : ∀ text u, checkHub L text = .ok u →
    ∃ v, L.join u refreshPath = some v ∧ L.display v = origin u ++ refreshPath

theorem parse_refreshUrl_iff (S : Serialized L) {text : String} {creds : SessionCredentials U}
    (hhub : checkHub L text = .ok creds.hubBaseUrl) :
    L.parse (refreshUrl L creds) = L.join creds.hubBaseUrl refreshPath ↔
      S.rest creds.hubBaseUrl = "" := by
  obtain ⟨v, hv, hvtext⟩ := S.parse_append text _ hhub
  obtain ⟨w, hw, hwtext⟩ := S.join_refreshPath text _ hhub
  have hparse : L.parse (refreshUrl L creds) = some v := hv
  rw [hparse, hw, Option.some.injEq, ← S.display_injective.eq_iff, hvtext, hwtext, S.display_eq,
    String.append_left_inj, String.append_eq_left_iff]

theorem buildRequest_of_token {creds : SessionCredentials U} {req : HttpRequest} {out : Outgoing U}
    (h : buildRequest L creds req = .ok out) (token : String) :
    buildRequest L { creds with accessToken := token } req =
      .ok { out with authorization := "Bearer " ++ token } := by
  unfold buildRequest at h ⊢
  cases hv : validateRequestPath req.path with
  | error e =>
    rw [hv] at h
    cases h
  | ok =>
    simp only [hv, bind, Except.bind] at h ⊢
    split at h
    · cases h
    · split_ifs at h ⊢
      cases h
      rfl

def exampleUrls : WebLib String where
  parse := some
  join base path := some (String.ofList (base.toList.take 19) ++ path)
  scheme _ := "https"
  hostStr _ := some "hub.example"
  display := id
  toUppercase := id
  toLowercase := id

def exampleSerialized : Serialized exampleUrls where
  origin u := String.ofList (u.toList.take 19)
  rest u := String.ofList (u.toList.drop 19)
  display_eq u := by
    rw [← String.ofList_append, List.take_append_drop, String.ofList_toList]
    rfl
  display_injective := Function.injective_id
  parse_append _ _ _ := ⟨_, rfl, rfl⟩
  join_refreshPath _ _ _ := ⟨_, rfl, rfl⟩

end Penguind.Waddlebot
