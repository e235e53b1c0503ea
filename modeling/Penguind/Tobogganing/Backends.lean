import Penguind.Tobogganing.Userspace

/-!
# The contract of the backends

An apply that succeeds leaves an interface with exactly its specification, and a teardown that
succeeds leaves none.
-/

namespace Penguind.Tobogganing

open Foundation Stateful

structure Provided where
  addresses : List IpAddrMask
  mtu : Nat
  privateKey : Key
  publicKey : Key
  endpoint : Option SocketAddr
  keepalive : Option UInt16
  allows : IpAddr → Bool

def Peer.provided (peer : Peer) (addresses : List IpAddrMask) (mtu : Nat) (privateKey : Key) :
    Provided where
  addresses := addresses
  mtu := mtu
  privateKey := privateKey
  publicKey := peer.publicKey
  endpoint := peer.endpoint
  keepalive := peer.persistentKeepaliveInterval
  allows ip := peer.allowedIps.any fun m => m.contains ip

def TunnelSpec.provided (spec : TunnelSpec) : Provided :=
  (KernelBackend.peerOf spec).provided [spec.clientAddress] spec.mtu spec.privateKey

section

variable {σ : Type} (seen : σ → Option (Option Provided))

/-- A successful apply leaves an interface that provides what was asked for. -/
def Applies (x : Stateful σ WgBackendError Unit) (spec : TunnelSpec) (s : σ) : Prop :=
  ∀ t, Ends x s () t → seen t = some (some spec.provided)

def Removes (x : Stateful σ WgBackendError Unit) (s : σ) : Prop :=
  ∀ t, Ends x s () t → seen t = none

end

/-! ## The kernel backend -/

def InterfaceConfiguration.provided (config : InterfaceConfiguration) : Option Provided :=
  match config.peers, config.mtu with
  | [peer], some mtu => some (peer.provided config.addresses mtu config.prvkey)
  | _, _ => none

def Device.seen (d : Device) : Option (Option Provided) :=
  d.map fun i => i.config.bind InterfaceConfiguration.provided

inductive KernelLabel
  | apply (spec : TunnelSpec) (o : KernelOutcomes)
  | teardown (o : KernelOutcomes)

def kernelStep (interface : String) (d : Device) : KernelLabel → Option Device
  | .apply spec o => some (KernelBackend.apply o interface spec d).2
  | .teardown o => some (KernelBackend.teardown o d).2

def KernelHonours (interface : String) (d : Device) : KernelLabel → Prop
  | .apply spec o => Applies Device.seen (KernelBackend.apply o interface spec) spec d
  | .teardown o => Removes Device.seen (KernelBackend.teardown o) d

def DeviceReadable (d : Device) : KernelLabel → Prop
  | .apply _ _ => True
  | .teardown o => d.isSome → o.read = none

section

variable {o : KernelOutcomes} {d : Device} {interface : String} {spec : TunnelSpec}

theorem isSome_of_ends_ensureInterface {t : Device}
    (h : Ends (KernelBackend.ensureInterface o) d () t) : t.isSome := by
  cases d with
  | some i =>
    have ht : t = some i := by
      rw [← ensureInterface_some (o := o) i, h]
    rw [ht]
    rfl
  | none =>
    rw [Ends, ensureInterface_none] at h
    obtain ⟨-, hcreated⟩ := ends_remote.mp h
    rw [← ends_modify.mp hcreated]
    rfl

theorem kernel_applies : Applies Device.seen (KernelBackend.apply o interface spec) spec d := by
  intro t h
  obtain ⟨_, d₁, hensure, h⟩ := ends_bind.mp h
  obtain ⟨_, d₂, hconfigure, hdns⟩ := ends_bind.mp h
  obtain ⟨i, rfl⟩ := Option.isSome_iff_exists.mp (isSome_of_ends_ensureInterface hensure)
  obtain ⟨-, hconfigure⟩ := ends_remote.mp hconfigure
  obtain rfl := ends_modify.mp hconfigure
  unfold KernelBackend.configureDns at hdns
  split_ifs at hdns
  · obtain ⟨-, rfl⟩ := ends_pure.mp hdns
    rfl
  · obtain ⟨-, hdns⟩ := ends_remote.mp hdns
    obtain rfl := ends_modify.mp hdns
    rfl

theorem kernel_removes_iff :
    Removes Device.seen (KernelBackend.teardown o) d ↔ (d.isSome → o.read = none) := by
  simp only [Removes, ends_teardown]
  cases d with
  | none => simp [Device.seen]
  | some i =>
    split_ifs with h
    · refine iff_of_true ?_ fun _ => h.2
      rintro t ⟨-, rfl⟩
      rfl
    · have hread : o.read ≠ none := fun hread => h ⟨rfl, hread⟩
      simp [Device.seen, hread]

theorem kernelHonours_iff (a : KernelLabel) :
    KernelHonours interface d a ↔ DeviceReadable d a := by
  cases a with
  | apply spec o => exact iff_of_true kernel_applies trivial
  | teardown o => exact kernel_removes_iff

end

/-! ## The userspace backend -/

/-- The loop that holds its handle, and whether the device stays without one. -/
structure TunInterface where
  addresses : List IpAddrMask
  mtu : Nat
  persistent : Bool
  holder : Option (Nat × TunnelSpec)

def TunInterface.fresh : TunInterface := ⟨[], 1500, false, none⟩

def TunInterface.close (i : TunInterface) : Option TunInterface :=
  if i.persistent then some { i with holder := none } else none

structure UserspaceHost where
  device : Option TunInterface
  current : Option Nat
  spawned : Nat

/-- `ioctl` says whether the device can be had if it is not attached. -/
structure UserspaceOutcomes where
  devNetTun : Bool
  ioctl : Bool
  asyncFd : Except String Unit
  bind : Except String Unit

def UserspaceHost.seen (s : UserspaceHost) : Option (Option Provided) :=
  s.device.map fun i => i.holder.map fun loop =>
    { loop.2.provided with addresses := i.addresses, mtu := i.mtu, allows := fun _ => true }

def TunFd.openDevice (o : UserspaceOutcomes) (name : String) (device : Option TunInterface) :
    Except WgBackendError TunInterface :=
  if o.devNetTun = false then .error (.interface "failed to open /dev/net/tun")
  else if 16 ≤ name.utf8ByteSize then .error (.interface "TUN interface name too long")
  else if o.ioctl = false ∨ (device.getD .fresh).holder.isSome then
    .error (.interface "TUNSETIFF ioctl failed")
  else .ok (device.getD .fresh)

namespace UserspaceBackend

/-- Cancels the old instance. -/
def spawn (tun : TunInterface) (spec : TunnelSpec) (s : UserspaceHost) : UserspaceHost where
  device := some { tun with holder := some (s.spawned, spec) }
  current := some s.spawned
  spawned := s.spawned + 1

/-- A failure closes the device again. -/
def apply (o : UserspaceOutcomes) (interface : String) (spec : TunnelSpec) :
    Stateful UserspaceHost WgBackendError Unit := do
  let s ← get
  let tun ← ofExcept id (TunFd.openDevice o interface s.device)
  ofExcept (fun err => .interface ("AsyncFd wrapping failed: " ++ err)) o.asyncFd
  ofExcept (fun err => .interface ("UDP bind failed: " ++ err)) o.bind
  modify (spawn tun spec)

def teardown (ended : Bool) : Stateful UserspaceHost WgBackendError Unit :=
  modify fun s =>
    { s with
      current := none
      device := if ended then s.device.bind TunInterface.close else s.device }

end UserspaceBackend

inductive UserspaceLabel
  | apply (spec : TunnelSpec) (o : UserspaceOutcomes)
  | teardown (ended : Bool)
  /-- The loop that holds the device ends, because it is cancelled or has panicked. -/
  | ends (panics : Bool)

def userspaceStep (interface : String) (s : UserspaceHost) : UserspaceLabel → Option UserspaceHost
  | .apply spec o => some (UserspaceBackend.apply o interface spec s).2
  | .teardown ended => some (UserspaceBackend.teardown ended s).2
  | .ends panics => do
    let i ← s.device
    let loop ← i.holder
    if panics ∨ s.current ≠ some loop.1 then some { s with device := i.close } else none

def UserspaceHonours (interface : String) (s : UserspaceHost) : UserspaceLabel → Prop
  | .apply spec o =>
    Applies UserspaceHost.seen (UserspaceBackend.apply o interface spec) spec s
  | .teardown ended => Removes UserspaceHost.seen (UserspaceBackend.teardown ended) s
  | .ends _ => True

/-- Applies find the right address and MTU, and teardowns end the loop in time. -/
def Prepared (interface : String) (s : UserspaceHost) : UserspaceLabel → Prop
  | .apply spec o => (∃ t, Ends (UserspaceBackend.apply o interface spec) s () t) →
    (s.device.getD .fresh).addresses = [spec.clientAddress] ∧
      (s.device.getD .fresh).mtu = spec.mtu ∧ ∀ ip, spec.allows (some ip)
  | .teardown ended => ∀ i, s.device = some i → ended ∧ i.persistent = false
  | .ends _ => True

section

variable {o : UserspaceOutcomes} {s t : UserspaceHost} {interface : String} {spec : TunnelSpec}

theorem openDevice_eq_ok {device : Option TunInterface} {tun : TunInterface}
    (h : TunFd.openDevice o interface device = .ok tun) :
    device.getD .fresh = tun ∧ tun.holder = none := by
  unfold TunFd.openDevice at h
  split_ifs at h with _ _ hattached
  cases h
  exact ⟨rfl, by simpa using (not_or.mp hattached).2⟩

theorem ends_userspaceApply (h : Ends (UserspaceBackend.apply o interface spec) s () t) :
    (s.device.getD .fresh).holder = none ∧
      UserspaceBackend.spawn (s.device.getD .fresh) spec s = t := by
  obtain ⟨_, _, hget, h⟩ := ends_bind.mp h
  obtain ⟨rfl, rfl⟩ := ends_get.mp hget
  obtain ⟨tun, hopen, h⟩ := ends_ofExcept_bind.mp h
  obtain ⟨_, -, h⟩ := ends_ofExcept_bind.mp h
  obtain ⟨_, -, h⟩ := ends_ofExcept_bind.mp h
  obtain ⟨rfl, hfree⟩ := openDevice_eq_ok hopen
  exact ⟨hfree, ends_modify.mp h⟩

theorem seen_spawn (tun : TunInterface) :
    (UserspaceBackend.spawn tun spec s).seen = some (some spec.provided) ↔
      tun.addresses = [spec.clientAddress] ∧ tun.mtu = spec.mtu ∧
        ∀ ip, spec.allows (some ip) := by
  simp only [UserspaceHost.seen, UserspaceBackend.spawn, Option.map_some, Option.some.injEq,
    TunnelSpec.provided, Peer.provided, Provided.mk.injEq, true_and, TunnelSpec.allows,
    Option.any_some]
  refine and_congr_right' (and_congr_right' ?_)
  exact funext_iff.trans (forall_congr' fun _ => eq_comm)

theorem userspaceHonours_iff (a : UserspaceLabel) :
    UserspaceHonours interface s a ↔ Prepared interface s a := by
  cases a with
  | apply spec o =>
    constructor
    · rintro h ⟨t, ht⟩
      have hseen := h t ht
      rw [← (ends_userspaceApply ht).2] at hseen
      exact (seen_spawn _).mp hseen
    · intro h t ht
      rw [← (ends_userspaceApply ht).2]
      exact (seen_spawn _).mpr (h ⟨t, ht⟩)
  | teardown ended =>
    simp only [UserspaceHonours, Removes, UserspaceBackend.teardown, ends_modify, forall_eq',
      UserspaceHost.seen, Option.map_eq_none_iff, Prepared]
    cases s.device with
    | none => cases ended <;> simp
    | some i => cases ended <;> simp [TunInterface.close]
  | ends panics => exact Iff.rfl

end

/-! ## Both backends -/

theorem along_iff_of_forall {σ α : Type} {step : σ → α → Option σ} {C D : σ → α → Prop}
    (h : ∀ s a, C s a ↔ D s a) (s : σ) (as : List α) :
    Along step C s as ↔ Along step D s as := by
  rw [show C = D from funext fun s => funext fun a => propext (h s a)]

/-- **The backends keep the contract** exactly if interfaces can be read and devices are prepared.
-/
theorem backends_honour_iff (interface : String) :
    (∀ d as, Along (kernelStep interface) (KernelHonours interface) d as ↔
      Along (kernelStep interface) DeviceReadable d as) ∧
    (∀ s as, Along (userspaceStep interface) (UserspaceHonours interface) s as ↔
      Along (userspaceStep interface) (Prepared interface) s as) ∧
    ∀ s o spec, (s.device.bind TunInterface.holder).isSome →
      ∀ t, ¬ Ends (UserspaceBackend.apply o interface spec) s () t := by
  refine ⟨along_iff_of_forall fun _ => kernelHonours_iff,
    along_iff_of_forall fun _ => userspaceHonours_iff, ?_⟩
  intro s o spec hactive t ht
  have hfree := (ends_userspaceApply ht).1
  cases hd : s.device with
  | none => simp [hd] at hactive
  | some i => simp_all

def allWell : UserspaceOutcomes := ⟨true, true, .ok (), .ok ()⟩

/-- **The userspace backend breaks the contract** in three ways. -/
theorem apply_leaves_no_address :
    let s : UserspaceHost := ⟨none, none, 0⟩
    let applied := (UserspaceBackend.apply allWell "wg0" officeSpec s).2
    (∃ i, Ends (UserspaceBackend.apply allWell "wg0" officeSpec) s () applied ∧
      applied.device = some i ∧ i.addresses = [] ∧ i.mtu = 1500) ∧
    ¬ UserspaceHonours "wg0" s (.apply officeSpec allWell) ∧
    UserspaceBackend.apply allWell "wg0" officeSpec applied =
      (.error (.interface "TUNSETIFF ioctl failed"), applied) ∧
    ¬ UserspaceHonours "wg0" applied (.teardown false) := by
  have happlied : Ends (UserspaceBackend.apply allWell "wg0" officeSpec) ⟨none, none, 0⟩ ()
      ⟨some ⟨[], 1500, false, some (0, officeSpec)⟩, some 0, 1⟩ := by rfl
  refine ⟨⟨_, happlied, rfl, rfl, rfl⟩, ?_, rfl, ?_⟩
  · rw [userspaceHonours_iff]
    intro h
    cases (h ⟨_, happlied⟩).1
  · rw [userspaceHonours_iff]
    intro h
    cases (h _ rfl).1

end Penguind.Tobogganing
