import Penguind.Foundation.Stateful
import Penguind.Tobogganing.Module

/-!
# The kernel backend

Applying reads the interface, creates it if the read fails, and configures it; tearing down reads
it and removes it if the read succeeds. Each step may fail, before or after it has taken effect.
-/

namespace Penguind.Tobogganing

open Foundation Stateful

inductive WgBackendError
  | interface (text : String)
  deriving DecidableEq, Repr

def WgBackendError.display : WgBackendError → String
  | .interface text => "wireguard interface error: " ++ text

structure Peer where
  publicKey : Key
  endpoint : Option SocketAddr
  allowedIps : List IpAddrMask
  persistentKeepaliveInterval : Option UInt16
  deriving DecidableEq, Repr

structure InterfaceConfiguration where
  name : String
  prvkey : Key
  addresses : List IpAddrMask
  port : Nat
  peers : List Peer
  mtu : Option Nat
  fwmark : Option Nat
  deriving DecidableEq, Repr

structure Interface where
  own : Bool
  config : Option InterfaceConfiguration
  dns : List IpAddr
  deriving DecidableEq, Repr

abbrev Device := Option Interface

/-- `missing` and `present` are the errors of interfaces that do not, or do, exist. -/
structure KernelOutcomes where
  read : Option String
  missing : String
  present : String
  create : Delivery
  configure : Delivery
  dns : Delivery
  remove : Delivery

namespace KernelBackend

variable (o : KernelOutcomes)

def readInterfaceData (d : Device) : Except String Interface :=
  match d, o.read with
  | none, _ => .error o.missing
  | some _, some err => .error err
  | some i, none => .ok i

def createInterface : Stateful Device WgBackendError Unit := do
  let d ← get
  ensure (d.isNone) (.interface o.present)
  remote o.create .interface (modify fun _ => some ⟨true, none, []⟩)

def ensureInterface : Stateful Device WgBackendError Unit := do
  let d ← get
  if (readInterfaceData o d).isOk then pure () else createInterface o

def peerOf (spec : TunnelSpec) : Peer where
  publicKey := spec.peerPublicKey
  endpoint := some spec.endpoint
  allowedIps := spec.allowedIps
  persistentKeepaliveInterval := spec.keepalive.map fun keepalive =>
    UInt16.ofNat (min (keepalive / Duration.fromSecs 1).toNat 65535)

def configurationOf (interface : String) (spec : TunnelSpec) : InterfaceConfiguration where
  name := interface
  prvkey := spec.privateKey
  addresses := [spec.clientAddress]
  port := 0
  peers := [peerOf spec]
  mtu := some spec.mtu
  fwmark := none

def configureInterface (config : InterfaceConfiguration) :
    Stateful Device WgBackendError Unit :=
  remote o.configure .interface
    (modify fun d => d.map fun i => { i with config := some config })

def configureDns (dns : List IpAddr) : Stateful Device WgBackendError Unit :=
  if dns = [] then pure ()
  else remote o.dns (fun err => .interface ("configure DNS: " ++ err))
    (modify fun d => d.map fun i => { i with dns := dns })

def configure (interface : String) (spec : TunnelSpec) : Stateful Device WgBackendError Unit := do
  configureInterface o (configurationOf interface spec)
  configureDns o spec.dns

def apply (interface : String) (spec : TunnelSpec) : Stateful Device WgBackendError Unit := do
  ensureInterface o
  configure o interface spec

def teardown : Stateful Device WgBackendError Unit := do
  let d ← get
  if (readInterfaceData o d).isOk then remote o.remove .interface (modify fun _ => none)
  else pure ()

end KernelBackend

structure Tunnel where
  vpn : VpnState
  device : Device

def handle (o : KernelOutcomes) (f : (e : Effect) → Answer e) :
    (e : Effect) → Tunnel → Answer e × Tunnel
  | .readVpn, s => (s.vpn, s)
  | .writeVpn vpn, s => ((), { s with vpn := vpn })
  | .apply interface spec, s =>
    let r := KernelBackend.apply o interface spec s.device
    (r.1.mapError WgBackendError.display, { s with device := r.2 })
  | .teardown _, s =>
    let r := KernelBackend.teardown o s.device
    (r.1.mapError WgBackendError.display, { s with device := r.2 })
  | e, s => (f e, s)

/-! ## What the steps do to the interface -/

def Device.hasOwn (d : Device) : Bool := d.any Interface.own

section

variable {o : KernelOutcomes} {d : Device} {interface : String} {spec : TunnelSpec}

theorem isOk_readInterfaceData :
    (KernelBackend.readInterfaceData o d).isOk ↔ d.isSome ∧ o.read = none := by
  unfold KernelBackend.readInterfaceData
  cases d <;> cases o.read <;> simp [Except.isOk, Except.toBool]

def Configures (o : KernelOutcomes) (spec : TunnelSpec) : Prop :=
  o.configure = .delivered ∧ (spec.dns ≠ [] → o.dns = .delivered)

theorem keeps_hasOwn_configure (b : Bool) :
    Keeps (fun d => Device.hasOwn d = b) (KernelBackend.configure o interface spec) := by
  refine keeps_bind (keeps_remote _ _ (keeps_modify fun d hd => ?_)) fun _ => ?_
  · cases d <;> exact hd
  · unfold KernelBackend.configureDns
    split_ifs
    · exact keeps_pure ()
    · refine keeps_remote _ _ (keeps_modify fun d hd => ?_)
      cases d <;> exact hd

theorem exists_ends_configure :
    (∃ t, Ends (KernelBackend.configure o interface spec) d () t) ↔ Configures o spec := by
  unfold KernelBackend.configure KernelBackend.configureInterface KernelBackend.configureDns
    Configures
  split_ifs with h <;> simp [ends_bind, h]

def CreatesCleanly (o : KernelOutcomes) (spec : TunnelSpec) : Prop :=
  (∃ message, o.create = .requestLost message) ∨ o.create = .delivered ∧ Configures o spec

theorem ensureInterface_some (i : Interface) :
    (KernelBackend.ensureInterface o (some i)).2 = some i := by
  unfold KernelBackend.ensureInterface
  rw [bind_apply_of_ends (ends_get.mpr ⟨rfl, rfl⟩)]
  split_ifs
  · rfl
  · unfold KernelBackend.createInterface
    rw [bind_apply_of_ends (ends_get.mpr ⟨rfl, rfl⟩)]
    rfl

theorem ensureInterface_none : KernelBackend.ensureInterface o none =
    (remote o.create .interface (modify fun _ => some ⟨true, none, []⟩) :
      Stateful Device WgBackendError Unit) none := by
  unfold KernelBackend.ensureInterface
  rw [bind_apply_of_ends (ends_get.mpr ⟨rfl, rfl⟩), if_neg (by simp [isOk_readInterfaceData])]
  unfold KernelBackend.createInterface
  rw [bind_apply_of_ends (ends_get.mpr ⟨rfl, rfl⟩)]
  rfl

theorem apply_leaves_none_iff (hd : d.hasOwn = false) :
    ((∃ t, Ends (KernelBackend.apply o interface spec) d () t) ∨
        Device.hasOwn (KernelBackend.apply o interface spec d).2 = false) ↔
      (d = none → CreatesCleanly o spec) := by
  cases d with
  | some i =>
    refine iff_of_true (.inr ?_) (fun h => by cases h)
    refine state_bind_of_ends (P := fun d => Device.hasOwn d = false) ?_
      fun _ _ _ => keeps_hasOwn_configure false
    rw [ensureInterface_some]
    exact hd
  | none =>
    simp only [forall_const, CreatesCleanly]
    cases hc : o.create with
    | requestLost message =>
      have h : KernelBackend.apply o interface spec none = (.error (.interface message), none) := by
        unfold KernelBackend.apply
        rw [bind_apply, ensureInterface_none, hc]
        rfl
      simp [h, Device.hasOwn]
    | replyLost message =>
      have h : KernelBackend.apply o interface spec none =
          (.error (.interface message), some ⟨true, none, []⟩) := by
        unfold KernelBackend.apply
        rw [bind_apply, ensureInterface_none, hc]
        rfl
      have hfails : ∀ t, ¬ Ends (KernelBackend.apply o interface spec) none () t := by
        intro t ht
        cases h.symm.trans ht
      simp [h, hfails, Device.hasOwn]
    | delivered =>
      have h : KernelBackend.apply o interface spec none =
          KernelBackend.configure o interface spec (some ⟨true, none, []⟩) := by
        refine bind_apply_of_ends (a := ()) ?_
        rw [Ends, ensureInterface_none, hc]
        rfl
      have hown : Device.hasOwn (KernelBackend.configure o interface spec
          (some ⟨true, none, []⟩)).2 = true := keeps_hasOwn_configure true _ rfl
      simp only [Ends, h, hown, Bool.true_eq_false, or_false, reduceCtorEq, exists_const, false_or,
        true_and]
      exact exists_ends_configure

theorem ends_teardown {t : Device} : Ends (KernelBackend.teardown o) d () t ↔
    if d.isSome ∧ o.read = none then o.remove = .delivered ∧ none = t else d = t := by
  simp only [KernelBackend.teardown, ends_bind, ends_get, isOk_readInterfaceData]
  constructor
  · rintro ⟨_, _, ⟨rfl, rfl⟩, ht⟩
    split_ifs at ht ⊢ <;> simpa using ht
  · intro ht
    refine ⟨d, d, ⟨rfl, rfl⟩, ?_⟩
    split_ifs at ht ⊢ <;> simpa using ht

theorem teardown_leaves_none_iff :
    (∀ t, Ends (KernelBackend.teardown o) d () t → Device.hasOwn t = false) ↔
      (d.hasOwn → o.read = none) := by
  simp only [ends_teardown]
  cases d with
  | none => simp [Device.hasOwn]
  | some i =>
    split_ifs with h
    · refine iff_of_true ?_ fun _ => h.2
      rintro t ⟨-, rfl⟩
      rfl
    · have hread : o.read ≠ none := fun hread => h ⟨rfl, hread⟩
      simp [Device.hasOwn, hread]

end

end Penguind.Tobogganing
