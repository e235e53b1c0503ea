import Penguind.Tobogganing.Kernel
import Penguind.Tobogganing.StopClean

/-!
# Interfaces that are left behind

While the VPN manager is not connected, no interface it has created should exist. One stays behind
when a connect fails after the creation, and when a teardown takes an interface that cannot be
read for one that is gone.
-/

namespace Penguind.Tobogganing

open Foundation Stateful

inductive Call
  | connect
  | disconnect
  | rotate
  /-- A stop of the module. -/
  | stop
  deriving DecidableEq, Repr

inductive VpnLabel
  /-- A call, what becomes of the steps of the backend, and the answers of everything else. -/
  | call (c : Call) (o : KernelOutcomes) (f : (e : Effect) → Answer e)
  /-- Someone else removes the interface, or creates one where there is none. -/
  | removed
  | created (config : Option InterfaceConfiguration)

variable (L : Lib) (cfg : ModuleConfig)

def Tunnel.exec {ε : Type} (p : Op ε Unit) (o : KernelOutcomes) (f : (e : Effect) → Answer e)
    (s : Tunnel) : Bool × Tunnel :=
  let r := Prog.exec (handle o f) p s
  (r.1.isOk, r.2)

def Tunnel.call (c : Call) (o : KernelOutcomes) (f : (e : Effect) → Answer e) (s : Tunnel) :
    Bool × Tunnel :=
  match c with
  | .connect => s.exec (VpnManager.connect L cfg) o f
  | .disconnect => s.exec (VpnManager.disconnect cfg) o f
  | .rotate => s.exec (VpnManager.rotate L cfg) o f
  | .stop => s.exec (stop cfg) o f

def Tunnel.step (s : Tunnel) : VpnLabel → Option Tunnel
  | .call c o f => some (s.call L cfg c o f).2
  | .removed => some { s with device := none }
  | .created config =>
    if s.device = none then some { s with device := some ⟨false, config, []⟩ } else none

/-- While the manager is not connected, no interface it has created exists. -/
def NoLeftover (s : Tunnel) : Prop := s.vpn.connected = false → s.device.hasOwn = false

instance : DecidablePred NoLeftover := fun s =>
  inferInstanceAs (Decidable (s.vpn.connected = false → s.device.hasOwn = false))

def fetchedConfig (f : (e : Effect) → Answer e) (key : Key) :
    Except VpnError TunnelConfigResponse :=
  let token := (f .readAuth : TokenState).accessToken
  if token = "" then .error .noToken
  else VpnManager.readConfigReply L
    (f (.http (.config (cfg.managerUrl ++ "/api/v1/config") token (L.publicKey key))))

def fetchedSpec (f : (e : Effect) → Answer e) (key : Key) : Except VpnError TunnelSpec :=
  (fetchedConfig L cfg f key).bind (VpnManager.buildTunnelSpec L cfg key)

def Readable (s : Tunnel) (o : KernelOutcomes) : Prop :=
  s.vpn.connected → s.device.hasOwn → o.read = none

/-- Connects complete what they create, and disconnects can read it. -/
def LeavesNothing (s : Tunnel) : VpnLabel → Prop
  | .call .connect o f => s.vpn.connected = false → s.device = none →
      ∀ spec, fetchedSpec L cfg f (f .generateKey) = .ok spec → CreatesCleanly o spec
  | .call .disconnect o _ => Readable s o
  | .call .stop o f => f (.swapRunning false) = true → Readable s o
  | .call .rotate _ _ | .removed | .created _ => True

/-! ## What the calls do -/

section

variable {L cfg} {o : KernelOutcomes} {f : (e : Effect) → Answer e} {s : Tunnel} {ε A : Type}

theorem exec_withVpn {p : Op ε A} :
    Prog.exec (handle o f) (withVpn p) s = Prog.exec (handle o f) p s :=
  exec_bracket (fun _ => rfl) fun _ => rfl

theorem exec_token : Prog.exec (handle o f) (AuthManager.token : Op ε String) s =
    (.ok (f .readAuth : TokenState).accessToken, s) :=
  exec_bracket (fun _ => rfl) fun _ => rfl

theorem exec_fetchTunnelConfig {key : Key} :
    Prog.exec (handle o f) (VpnManager.fetchTunnelConfig L cfg (L.publicKey key)) s =
      (fetchedConfig L cfg f key, s) := by
  by_cases h : (f .readAuth : TokenState).accessToken = ""
  · simp [VpnManager.fetchTunnelConfig, exec_token, fetchedConfig, h]
  · simp only [VpnManager.fetchTunnelConfig, exec_bindE, exec_token, fetchedConfig, if_neg h]
    exact exec_ofExcept

section Fetch

variable {key : Key} {k : TunnelSpec → Op VpnError Unit}

def fetchThen (L : Lib) (cfg : ModuleConfig) (key : Key) (k : TunnelSpec → Op VpnError Unit) :
    Op VpnError Unit := do
  let tunnelConfig ← VpnManager.fetchTunnelConfig L cfg (L.publicKey key)
  let spec ← ProgE.ofExcept (VpnManager.buildTunnelSpec L cfg key tunnelConfig)
  k spec

theorem exec_fetchThen : Prog.exec (handle o f) (fetchThen L cfg key k) s =
    match fetchedSpec L cfg f key with
    | .ok spec => Prog.exec (handle o f) (k spec) s
    | .error err => (.error err, s) := by
  unfold fetchedSpec
  cases hc : fetchedConfig L cfg f key with
  | error err => simp [fetchThen, exec_fetchTunnelConfig, hc, Except.bind]
  | ok config =>
    cases hb : VpnManager.buildTunnelSpec L cfg key config <;>
      simp [fetchThen, exec_fetchTunnelConfig, hc, hb, Except.bind]

end Fetch

/-! ### Steps of the backend -/

section Backend

variable {p : Op VpnError (Except String Unit)} {m : Stateful Device WgBackendError Unit}

def Backs (o : KernelOutcomes) (f : (e : Effect) → Answer e) (p : Op VpnError (Except String Unit))
    (m : Stateful Device WgBackendError Unit) : Prop :=
  ∀ s : Tunnel, Prog.exec (handle o f) p s =
    (.ok ((m s.device).1.mapError WgBackendError.display), { s with device := (m s.device).2 })

theorem backs_apply (interface : String) (spec : TunnelSpec) :
    Backs o f (call (.apply interface spec)) (KernelBackend.apply o interface spec) := fun _ => rfl

theorem Backs.exec (h : Backs o f p m) :
    Prog.exec (handle o f)
        (do
          let result ← p
          ProgE.ofExcept (result.mapError VpnError.backend) : Op VpnError Unit) s =
      (((m s.device).1.mapError WgBackendError.display).mapError VpnError.backend,
        { s with device := (m s.device).2 }) := by
  rw [exec_bind_ok (h s), exec_ofExcept]

theorem Backs.exec_write (h : Backs o f p m) (vpn : VpnState) :
    (Prog.exec (handle o f) (do
      let result ← p
      ProgE.ofExcept (result.mapError VpnError.backend)
      call (.writeVpn vpn) : Op VpnError Unit) s).2 =
    ⟨if (m s.device).1.isOk then vpn else s.vpn, (m s.device).2⟩ := by
  rw [exec_bind_ok (h s)]
  cases (m s.device).1 with
  | error err => rfl
  | ok => rfl

theorem isOk_iff_ends {d : Device} : (m d).1.isOk ↔ ∃ t, Ends m d () t := by
  unfold Ends
  rcases m d with ⟨err | ⟨⟩, t⟩
  · refine iff_of_false Bool.false_ne_true ?_
    rintro ⟨_, ht⟩
    cases ht
  · exact iff_of_true rfl ⟨t, rfl⟩

end Backend

theorem connect_connected (h : s.vpn.connected = true) :
    (Prog.exec (handle o f) (VpnManager.connect L cfg) s).2 = s := by
  obtain ⟨⟨connected, key⟩, d⟩ := s
  obtain rfl : connected = true := h
  exact congrArg Prod.snd exec_withVpn

def connectWith (cfg : ModuleConfig) (key : Key) (spec : TunnelSpec) : Op VpnError Unit := do
  let result ← call (.apply cfg.interfaceName spec)
  ProgE.ofExcept (result.mapError VpnError.backend)
  call (.writeVpn ⟨true, some key⟩)

theorem connect_eq (h : s.vpn.connected = false) :
    Prog.exec (handle o f) (VpnManager.connect L cfg) s =
      match fetchedSpec L cfg f (f .generateKey) with
      | .ok spec => Prog.exec (handle o f) (connectWith cfg (f .generateKey) spec) s
      | .error err => (.error err, s) := by
  obtain ⟨⟨connected, key⟩, d⟩ := s
  obtain rfl : connected = false := h
  exact exec_withVpn.trans exec_fetchThen

theorem connect_ok (h : s.vpn.connected = false) {spec : TunnelSpec}
    (hspec : fetchedSpec L cfg f (f .generateKey) = .ok spec) :
    (Prog.exec (handle o f) (VpnManager.connect L cfg) s).2 =
      ⟨if (KernelBackend.apply o cfg.interfaceName spec s.device).1.isOk
        then ⟨true, some (f .generateKey)⟩ else s.vpn,
        (KernelBackend.apply o cfg.interfaceName spec s.device).2⟩ := by
  rw [connect_eq h, hspec]
  exact (backs_apply _ spec).exec_write _

theorem disconnect_connected (h : s.vpn.connected = true) :
    (Prog.exec (handle o f) (VpnManager.disconnect cfg) s).2 =
      ⟨if (KernelBackend.teardown o s.device).1.isOk then ⟨false, none⟩ else s.vpn,
        (KernelBackend.teardown o s.device).2⟩ := by
  obtain ⟨⟨connected, key⟩, d⟩ := s
  obtain rfl : connected = true := h
  exact (congrArg Prod.snd exec_withVpn).trans (Backs.exec_write (fun _ => rfl) _)

theorem disconnect_disconnected (h : s.vpn.connected = false) :
    (Prog.exec (handle o f) (VpnManager.disconnect cfg) s).2 = s := by
  obtain ⟨⟨connected, key⟩, d⟩ := s
  obtain rfl : connected = false := h
  exact congrArg Prod.snd exec_withVpn

theorem rotate_no_key (h : s.vpn.privateKey = none) :
    (Prog.exec (handle o f) (VpnManager.rotate L cfg) s).2 = s := by
  obtain ⟨⟨connected, key⟩, d⟩ := s
  obtain rfl : key = none := h
  exact congrArg Prod.snd exec_withVpn

def rotateWith (cfg : ModuleConfig) (spec : TunnelSpec) : Op VpnError Unit := do
  let result ← call (.apply cfg.interfaceName spec)
  ProgE.ofExcept (result.mapError VpnError.backend)

theorem rotate_eq {key : Key} (h : s.vpn.privateKey = some key) :
    Prog.exec (handle o f) (VpnManager.rotate L cfg) s =
      Prog.exec (handle o f) (fetchThen L cfg key (rotateWith cfg)) s := by
  obtain ⟨⟨connected, key'⟩, d⟩ := s
  obtain rfl : key' = some key := h
  exact exec_withVpn

theorem rotate_vpn : (Prog.exec (handle o f) (VpnManager.rotate L cfg) s).2.vpn = s.vpn := by
  cases hkey : s.vpn.privateKey with
  | none => rw [rotate_no_key hkey]
  | some key =>
    rw [rotate_eq hkey, exec_fetchThen]
    cases fetchedSpec L cfg f key with
    | error err => rfl
    | ok spec => exact congrArg (·.2.vpn) (backs_apply cfg.interfaceName spec).exec

theorem revokeToken_state : (Prog.exec (handle o f) (AuthManager.revokeToken cfg) s).2 = s := by
  unfold AuthManager.revokeToken
  rw [exec_bind_ok exec_token]
  by_cases h : (f .readAuth : TokenState).accessToken = ""
  · rw [if_pos h]
    rfl
  · simp only [if_neg h]
    cases hr : AuthManager.readRevokeReply
        (f (.http (.revoke (cfg.managerUrl ++ "/api/v1/auth/revoke")
          (f .readAuth : TokenState).accessToken))) with
    | error err =>
      exact congrArg Prod.snd (exec_bind_error (exec_ofExcept.trans (congrArg (·, s) hr)))
    | ok => exact congrArg Prod.snd (exec_bind_ok (exec_ofExcept.trans (congrArg (·, s) hr)))

def stopFrom (cfg : ModuleConfig) (wasRunning : Bool) : Op ModuleError Unit :=
  if wasRunning then do
    call .takeCancel
    let disconnected : Except VpnError Unit ← ProgE.attempt (VpnManager.disconnect cfg)
    let revoked : Except AuthError Unit ← ProgE.attempt (AuthManager.revokeToken cfg)
    call (.stopReturns (stopResult disconnected revoked))
  else call (.stopReturns (.ok ()))

theorem stop_eq {wasRunning : Bool} (h : f (.swapRunning false) = wasRunning) :
    Prog.exec (handle o f) (stop cfg) s = Prog.exec (handle o f) (stopFrom cfg wasRunning) s := by
  subst h
  exact exec_call_bind

theorem stop_running (h : f (.swapRunning false) = true) :
    (Prog.exec (handle o f) (stop cfg) s).2 =
      (Prog.exec (handle o f) (VpnManager.disconnect cfg) s).2 := by
  rw [stop_eq h]
  refine (congrArg Prod.snd exec_attempt_bind).trans ?_
  exact (congrArg Prod.snd exec_attempt_bind).trans revokeToken_state

theorem stop_stopped (h : f (.swapRunning false) = false) :
    (Prog.exec (handle o f) (stop cfg) s).2 = s := by
  rw [stop_eq h]
  rfl

/-! ## What the calls leave -/

def Keyless (s : Tunnel) : Prop := s.vpn.connected = false → s.vpn.privateKey = none

theorem connect_leaves_iff (hs : NoLeftover s) :
    NoLeftover (Prog.exec (handle o f) (VpnManager.connect L cfg) s).2 ↔
      LeavesNothing L cfg s (.call .connect o f) := by
  cases hc : s.vpn.connected with
  | true =>
    rw [connect_connected hc]
    exact iff_of_true hs fun h => by simp [hc] at h
  | false =>
    cases hspec : fetchedSpec L cfg f (f .generateKey) with
    | error err =>
      rw [connect_eq hc, hspec]
      refine iff_of_true hs fun _ _ spec h => ?_
      cases hspec.symm.trans h
    | ok spec =>
      rw [connect_ok hc hspec]
      have hiff := @apply_leaves_none_iff o s.device cfg.interfaceName spec (hs hc)
      rw [← isOk_iff_ends] at hiff
      -- the manager is not connected exactly if the specification could not be applied
      have hleft : NoLeftover ⟨if (KernelBackend.apply o cfg.interfaceName spec s.device).1.isOk
            then ⟨true, some (f .generateKey)⟩ else s.vpn,
            (KernelBackend.apply o cfg.interfaceName spec s.device).2⟩ ↔
          (s.device = none → CreatesCleanly o spec) := by
        rw [← hiff, NoLeftover]
        split_ifs with hok <;> simp [hok, hc]
      rw [hleft]
      constructor
      · intro h _ hnone spec' hspec'
        cases hspec.symm.trans hspec'
        exact h hnone
      · exact fun h hnone => h hc hnone spec hspec

theorem disconnect_leaves_iff (hs : NoLeftover s) :
    NoLeftover (Prog.exec (handle o f) (VpnManager.disconnect cfg) s).2 ↔ Readable s o := by
  cases hc : s.vpn.connected with
  | false =>
    rw [disconnect_disconnected hc]
    exact iff_of_true hs fun h => by simp [hc] at h
  | true =>
    rw [disconnect_connected hc]
    rw [Readable, forall_prop_of_true hc, ← teardown_leaves_none_iff, NoLeftover]
    rcases hm : KernelBackend.teardown o s.device with ⟨err | ⟨⟩, t⟩
    · refine iff_of_true (fun h => ?_) fun _ h => ?_
      · cases hc.symm.trans h
      · cases hm.symm.trans h
    · constructor
      · intro h t' ht'
        cases hm.symm.trans ht'
        exact h rfl
      · exact fun h _ => h t hm

theorem call_leaves_iff (hs : NoLeftover s) (hk : Keyless s) (c : Call) :
    NoLeftover (s.call L cfg c o f).2 ↔ LeavesNothing L cfg s (.call c o f) := by
  cases c with
  | connect => exact connect_leaves_iff hs
  | disconnect => exact disconnect_leaves_iff hs
  | rotate =>
    refine iff_of_true (fun h => ?_) trivial
    have hc : s.vpn.connected = false := (congrArg VpnState.connected rotate_vpn).symm.trans h
    have hsame : (s.call L cfg .rotate o f).2 = s := rotate_no_key (hk hc)
    exact (congrArg (·.device.hasOwn) hsame).trans (hs hc)
  | stop =>
    cases hr : (f (.swapRunning false) : Bool) with
    | true =>
      rw [LeavesNothing, forall_prop_of_true hr, ← disconnect_leaves_iff hs]
      exact iff_of_eq (congrArg NoLeftover (stop_running hr))
    | false =>
      refine iff_of_true ?_ fun h => ?_
      · exact (congrArg NoLeftover (stop_stopped hr)).mpr hs
      · cases hr.symm.trans h

theorem call_keyless (hk : Keyless s) (c : Call) : Keyless (s.call L cfg c o f).2 := by
  have hdisconnect : Keyless (Prog.exec (handle o f) (VpnManager.disconnect cfg) s).2 := by
    cases hc : s.vpn.connected with
    | false =>
      rw [disconnect_disconnected hc]
      exact hk
    | true =>
      rw [disconnect_connected hc, Keyless]
      split_ifs
      · exact fun _ => rfl
      · exact hk
  cases c with
  | connect =>
    show Keyless (Prog.exec (handle o f) (VpnManager.connect L cfg) s).2
    cases hc : s.vpn.connected with
    | true =>
      rw [connect_connected hc]
      exact hk
    | false =>
      cases hspec : fetchedSpec L cfg f (f .generateKey) with
      | error err =>
        rw [connect_eq hc, hspec]
        exact hk
      | ok spec =>
        rw [connect_ok hc hspec, Keyless]
        split_ifs
        · exact fun h => by cases h
        · exact hk
  | disconnect => exact hdisconnect
  | rotate =>
    have hvpn : (s.call L cfg .rotate o f).2.vpn = s.vpn := rotate_vpn
    rw [Keyless, hvpn]
    exact hk
  | stop =>
    cases hr : (f (.swapRunning false) : Bool) with
    | true => exact (congrArg Keyless (stop_running hr)).mpr hdisconnect
    | false => exact (congrArg Keyless (stop_stopped hr)).mpr hk

end

section

variable {L cfg} {s t : Tunnel} {as : List VpnLabel}

theorem step_leaves_iff {a : VpnLabel} (hs : NoLeftover s) (hk : Keyless s)
    (h : s.step L cfg a = some t) : NoLeftover t ↔ LeavesNothing L cfg s a := by
  revert h
  fun_cases Tunnel.step L cfg s a with rintro ⟨⟩
  | case1 c => exact call_leaves_iff hs hk c
  | case2 | case3 => exact iff_of_true (fun _ => rfl) trivial

theorem step_keyless {a : VpnLabel} (hk : Keyless s) (h : s.step L cfg a = some t) : Keyless t := by
  revert h
  fun_cases Tunnel.step L cfg s a with rintro ⟨⟩
  | case1 c => exact call_keyless hk c
  | case2 | case3 => exact hk

/-- **No interface is left behind** exactly if connects complete theirs and disconnects can read it.
-/
theorem no_leftover_iff (hvpn : s.vpn = default) (hdevice : s.device.hasOwn = false)
    (hr : run (Tunnel.step L cfg) s as = some t) :
    Along (Tunnel.step L cfg) (fun s a => ∀ t, s.step L cfg a = some t → NoLeftover t) s as ↔
      Along (Tunnel.step L cfg) (LeavesNothing L cfg) s as := by
  have hs : NoLeftover s ∧ Keyless s := by
    rw [NoLeftover, Keyless, hvpn]
    exact ⟨fun _ => hdevice, fun _ => rfl⟩
  refine along_congr (I := fun s => NoLeftover s ∧ Keyless s) ?_ ?_ hs hr
  · rintro s a t ⟨hs, hk⟩ hst
    rw [← step_leaves_iff hs hk hst, hst]
    exact ⟨fun h => h t rfl, fun h u hu => by cases hu; exact h⟩
  · rintro s a t ⟨-, hk⟩ hleft hst
    exact ⟨hleft t hst, step_keyless hk hst⟩

end

def allDelivered : KernelOutcomes where
  read := none
  missing := "No such device"
  present := "File exists"
  create := .delivered
  configure := .delivered
  dns := .delivered
  remove := .delivered

def unconnected : Tunnel := ⟨default, none⟩

theorem connectThenDisconnect_no_leftover :
    let as := [VpnLabel.call .connect allDelivered (replies true obtained default),
      .call .disconnect allDelivered (replies true obtained default)]
    ∃ t, run (Tunnel.step plainLib plainConfig) unconnected as = some t ∧ t.device = none ∧
      Along (Tunnel.step plainLib plainConfig)
        (fun s a => ∀ t, s.step plainLib plainConfig a = some t → NoLeftover t) unconnected as := by
  intro as
  obtain ⟨t, ht, hnone⟩ : ∃ t, run (Tunnel.step plainLib plainConfig) unconnected as = some t ∧
      t.device = none := exists_run (by decide +kernel)
  refine ⟨t, ht, hnone, (no_leftover_iff rfl rfl ht).mpr ?_⟩
  refine (along_cons rfl).mpr ⟨fun _ _ _ _ => .inr ⟨rfl, rfl, fun _ => rfl⟩, ?_⟩
  exact (along_cons rfl).mpr ⟨fun _ _ => rfl, trivial⟩

/-- **Interfaces are left behind** by connects, disconnects and stops. -/
theorem interfaces_left_behind :
    let f := replies true obtained default
    let unconfigured := unconnected.call plainLib plainConfig .connect
      { allDelivered with configure := .requestLost "Operation not permitted" } f
    let up := unconnected.call plainLib plainConfig .connect allDelivered f
    let unreadable := { allDelivered with read := some "No buffer space available" }
    (unconfigured.1 = false ∧ ¬ NoLeftover unconfigured.2) ∧
      (∀ c ∈ [Call.disconnect, .stop],
        (unconfigured.2.call plainLib plainConfig c allDelivered f).1 = true ∧
        ¬ NoLeftover (unconfigured.2.call plainLib plainConfig c allDelivered f).2) ∧
      up.1 = true ∧
      ∀ c ∈ [Call.disconnect, .stop],
        (up.2.call plainLib plainConfig c unreadable f).1 = true ∧
        ¬ NoLeftover (up.2.call plainLib plainConfig c unreadable f).2 := by
  decide +kernel

end Penguind.Tobogganing
