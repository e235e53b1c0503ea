import Penguind.Tobogganing.Kernel

/-!
# The userspace backend

An event loop between a TUN device, a UDP socket and the engine of the Noise protocol, a library
whose calls take an argument of an arbitrary type for its randomness and its clock.
-/

namespace Penguind.Tobogganing

open Foundation

/-! ## Addresses -/

abbrev Packet := List UInt8

def ofBytes (w : Nat) (bytes : List UInt8) : BitVec w :=
  BitVec.ofNat w (bytes.foldl (fun n b => 256 * n + b.toNat) 0)

def addressAt (v4 v6 : Nat) (packet : Packet) : Option IpAddr :=
  let version := packet.head?.map fun b => b.toNat / 16
  if version = some 4 ∧ 20 ≤ packet.length then
    some (.v4 (ofBytes 32 ((packet.drop v4).take 4)))
  else if version = some 6 ∧ 40 ≤ packet.length then
    some (.v6 (ofBytes 128 ((packet.drop v6).take 16)))
  else none

def sourceAddress (packet : Packet) : Option IpAddr := addressAt 12 8 packet

def destinationAddress (packet : Packet) : Option IpAddr := addressAt 16 24 packet

def samePrefix {w : Nat} (cidr : Nat) (a b : BitVec w) : Bool :=
  a >>> (w - cidr) == b >>> (w - cidr)

def IpAddrMask.contains (m : IpAddrMask) (ip : IpAddr) : Bool :=
  match m.address, ip with
  | .v4 a, .v4 b => samePrefix m.cidr a b
  | .v6 a, .v6 b => samePrefix m.cidr a b
  | .v4 _, .v6 _ | .v6 _, .v4 _ => false

def TunnelSpec.allows (spec : TunnelSpec) (address : Option IpAddr) : Bool :=
  address.any fun ip => spec.allowedIps.any fun m => m.contains ip

/-- With one peer the longest of its prefixes does not matter. -/
def InterfaceConfiguration.route (config : InterfaceConfiguration) (address : Option IpAddr) :
    Option Peer :=
  address.bind fun ip => config.peers.find? fun peer => peer.allowedIps.any fun m => m.contains ip

theorem route_configurationOf (interface : String) (spec : TunnelSpec) (address : Option IpAddr) :
    ((KernelBackend.configurationOf interface spec).route address).isSome =
      spec.allows address := by
  cases address with
  | none => rfl
  | some ip =>
    show ([KernelBackend.peerOf spec].find? fun peer =>
      peer.allowedIps.any fun m => m.contains ip).isSome = _
    rw [List.isSome_find?, List.any_cons, List.any_nil, Bool.or_false]
    rfl

/-- Handshakes, cookies and keepalives carry no packet. -/
structure Datagram where
  bytes : Packet
  carries : Option Packet
  deriving DecidableEq, Repr

inductive TunnResult
  | done
  | err
  | writeToNetwork (datagram : Datagram)
  | writeToTunnelV4 (packet : Packet) (source : BitVec 32)
  | writeToTunnelV6 (packet : Packet) (source : BitVec 128)
  deriving DecidableEq, Repr

def TunnResult.delivered : TunnResult → Option Packet
  | .writeToTunnelV4 packet _ | .writeToTunnelV6 packet _ => some packet
  | .done | .err | .writeToNetwork _ => none

def TunnResult.carried : TunnResult → Option Packet
  | .writeToNetwork datagram => datagram.carries
  | .done | .err | .writeToTunnelV4 _ _ | .writeToTunnelV6 _ _ => none

structure Engine (T X : Type) where
  new (privateKey peerPublicKey : Key) (keepalive : Option UInt16) : T
  encapsulate (x : X) (packet : Packet) (tunn : T) : TunnResult × T
  decapsulate (x : X) (datagram : Packet) (tunn : T) : TunnResult × T
  updateTimers (x : X) (tunn : T) : TunnResult × T

/-! ## The event loop -/

structure EventLoopState (T : Type) where
  tunn : T
  peerAddr : SocketAddr
  lastHandshake : Option SystemTime
  rxBytes : UInt64
  txBytes : UInt64

structure EventLoop (T : Type) where
  state : EventLoopState T
  running : Bool
  toHost : List Packet
  toNetwork : List (Datagram × SocketAddr)

inductive LoopLabel (X : Type)
  /-- A packet is read from the device. -/
  | read (packet : Packet) (x : X)
  /-- A datagram is received from the socket. -/
  | recv (datagram : Packet) (addr : SocketAddr) (x : X) (now : SystemTime)
  | tick (x : X)
  | cancel

def LoopLabel.given {X : Type} : LoopLabel X → Option Packet
  | .read packet _ => some packet
  | .recv _ _ _ _ | .tick _ | .cancel => none

variable {T X : Type}

namespace EventLoop

def setTunn (s : EventLoop T) (tunn : T) : EventLoop T :=
  { s with state := { s.state with tunn := tunn } }

def send (s : EventLoop T) (datagram : Datagram) (count : Nat) : EventLoop T where
  state := { s.state with txBytes := s.state.txBytes + UInt64.ofNat count }
  running := s.running
  toHost := s.toHost
  toNetwork := s.toNetwork ++ [(datagram, s.state.peerAddr)]

def write (s : EventLoop T) (packet : Packet) (now : SystemTime) : EventLoop T where
  state :=
    { s.state with
      rxBytes := s.state.rxBytes + UInt64.ofNat packet.length
      lastHandshake := some now }
  running := s.running
  toHost := s.toHost ++ [packet]
  toNetwork := s.toNetwork

def afterRead (s : EventLoop T) (packet : Packet) : TunnResult → EventLoop T
  | .writeToNetwork datagram => s.send datagram packet.length
  | .done | .err | .writeToTunnelV4 _ _ | .writeToTunnelV6 _ _ => s

/-- The addresses the engine reports are not looked at. -/
def afterRecv (s : EventLoop T) (datagram : Packet) (now : SystemTime) : TunnResult → EventLoop T
  | .writeToTunnelV4 packet _ => s.write packet now
  | .writeToTunnelV6 packet _ => s.write packet now
  | .writeToNetwork answer => s.send answer datagram.length
  | .done | .err => s

def afterTick (s : EventLoop T) : TunnResult → EventLoop T
  | .writeToNetwork datagram => s.send datagram datagram.bytes.length
  | .done | .err | .writeToTunnelV4 _ _ | .writeToTunnelV6 _ _ => s

end EventLoop

namespace Engine

variable (E : Engine T X)

def buildTunn (spec : TunnelSpec) : T :=
  E.new spec.privateKey spec.peerPublicKey
    (spec.keepalive.map fun keepalive =>
      UInt16.ofNat (min (keepalive / Duration.fromSecs 1).toNat 65535))

def start (spec : TunnelSpec) : EventLoop T where
  state := ⟨E.buildTunn spec, spec.endpoint, none, 0, 0⟩
  running := true
  toHost := []
  toNetwork := []

def react (s : EventLoop T) : LoopLabel X → TunnResult × T
  | .read packet x => E.encapsulate x packet s.state.tunn
  | .recv datagram _ x _ => E.decapsulate x datagram s.state.tunn
  | .tick x => E.updateTimers x s.state.tunn
  | .cancel => (.done, s.state.tunn)

def branch (s : EventLoop T) (a : LoopLabel X) : EventLoop T :=
  let r := E.react s a
  match a with
  | .read packet _ => (s.setTunn r.2).afterRead packet r.1
  | .recv datagram _ _ now => (s.setTunn r.2).afterRecv datagram now r.1
  | .tick _ => (s.setTunn r.2).afterTick r.1
  | .cancel => { s with running := false }

def step (s : EventLoop T) (a : LoopLabel X) : Option (EventLoop T) :=
  if s.running then some (E.branch s a) else none

def passed (s : EventLoop T) : LoopLabel X → Option Packet
  | .recv datagram _ x _ => (E.decapsulate x datagram s.state.tunn).1.delivered
  | .read _ _ | .tick _ | .cancel => none

def encrypted (s : EventLoop T) (a : LoopLabel X) : Option Packet := (E.react s a).1.carried

end Engine

def EventLoop.encrypted (s : EventLoop T) : List Packet :=
  s.toNetwork.filterMap fun d => d.1.carries

section

variable {E : Engine T X} {s t : EventLoop T} {a : LoopLabel X}

theorem encrypted_send (s : EventLoop T) (datagram : Datagram) (count : Nat) :
    (s.send datagram count).encrypted = s.encrypted ++ datagram.carries.toList := by
  unfold EventLoop.encrypted EventLoop.send
  rw [List.filterMap_append]
  cases h : datagram.carries <;> simp [h]

theorem branch_toHost : (E.branch s a).toHost = s.toHost ++ (E.passed s a).toList := by
  cases a with
  | read packet x =>
    simp only [Engine.branch, Engine.react, Engine.passed, Option.toList_none, List.append_nil]
    cases (E.encapsulate x packet s.state.tunn).1 <;> rfl
  | recv datagram addr x now =>
    simp only [Engine.branch, Engine.react, Engine.passed]
    cases (E.decapsulate x datagram s.state.tunn).1 with
    | writeToTunnelV4 | writeToTunnelV6 => rfl
    | done | err | writeToNetwork => exact (List.append_nil _).symm
  | tick x =>
    simp only [Engine.branch, Engine.react, Engine.passed, Option.toList_none, List.append_nil]
    cases (E.updateTimers x s.state.tunn).1 <;> rfl
  | cancel => exact (List.append_nil _).symm

theorem branch_encrypted :
    (E.branch s a).encrypted = s.encrypted ++ (E.encrypted s a).toList := by
  cases a with
  | read packet x =>
    simp only [Engine.branch, Engine.encrypted, Engine.react]
    cases (E.encapsulate x packet s.state.tunn).1 with
    | writeToNetwork => exact encrypted_send _ _ _
    | done | err | writeToTunnelV4 | writeToTunnelV6 => exact (List.append_nil _).symm
  | recv datagram addr x now =>
    simp only [Engine.branch, Engine.encrypted, Engine.react]
    cases (E.decapsulate x datagram s.state.tunn).1 with
    | writeToNetwork => exact encrypted_send _ _ _
    | done | err | writeToTunnelV4 | writeToTunnelV6 => exact (List.append_nil _).symm
  | tick x =>
    simp only [Engine.branch, Engine.encrypted, Engine.react]
    cases (E.updateTimers x s.state.tunn).1 with
    | writeToNetwork => exact encrypted_send _ _ _
    | done | err | writeToTunnelV4 | writeToTunnelV6 => exact (List.append_nil _).symm
  | cancel => exact (List.append_nil _).symm

theorem branch_tunn : (E.branch s a).state.tunn = (E.react s a).2 := by
  cases a with
  | read | recv | tick =>
    simp only [Engine.branch]
    generalize E.react s _ = r
    cases r.1 <;> rfl
  | cancel => rfl

end

/-! ## Filtering -/

/-- Packets passed to the host or encrypted have allowed addresses. -/
def Filters (spec : TunnelSpec) (s : EventLoop T) : Prop :=
  (∀ packet ∈ s.toHost, spec.allows (sourceAddress packet)) ∧
    ∀ packet ∈ s.encrypted, spec.allows (destinationAddress packet)

def Passable (E : Engine T X) (spec : TunnelSpec) (s : EventLoop T) (a : LoopLabel X) : Prop :=
  (∀ packet ∈ E.passed s a, spec.allows (sourceAddress packet)) ∧
    ∀ packet ∈ E.encrypted s a, spec.allows (destinationAddress packet)

instance (spec : TunnelSpec) : DecidablePred (Filters (T := T) spec) := fun s =>
  inferInstanceAs (Decidable ((∀ packet ∈ s.toHost, spec.allows (sourceAddress packet)) ∧
    ∀ packet ∈ s.encrypted, spec.allows (destinationAddress packet)))

instance (E : Engine T X) (spec : TunnelSpec) (s : EventLoop T) (a : LoopLabel X) :
    Decidable (Passable E spec s a) :=
  inferInstanceAs (Decidable ((∀ packet ∈ E.passed s a, spec.allows (sourceAddress packet)) ∧
    ∀ packet ∈ E.encrypted s a, spec.allows (destinationAddress packet)))

section

variable {E : Engine T X} {spec : TunnelSpec} {s t : EventLoop T} {a : LoopLabel X}
  {as : List (LoopLabel X)}

theorem filters_branch_iff :
    Filters spec (E.branch s a) ↔ Filters spec s ∧ Passable E spec s a := by
  simp only [Filters, Passable, branch_toHost, branch_encrypted, List.forall_mem_append,
    Option.mem_toList]
  exact and_and_and_comm

theorem step_eq_some : E.step s a = some t ↔ s.running ∧ E.branch s a = t := by
  unfold Engine.step
  split_ifs with h <;> simp [h]

theorem filters_of_nil (hhost : s.toHost = []) (hpeer : s.encrypted = []) : Filters spec s := by
  simp [Filters, hhost, hpeer]

/-- **The event loop does not filter**: it passes what the engine does. -/
theorem filters_iff (hr : run E.step (E.start spec) as = some t) :
    Filters spec t ↔ Along E.step (Passable E spec) (E.start spec) as := by
  have h := run_iff (I := Filters spec) (C := Passable E spec) (fun s a t hst => by
    obtain ⟨-, rfl⟩ := step_eq_some.mp hst
    exact filters_branch_iff) hr
  rw [h]
  exact and_iff_right (filters_of_nil rfl rfl)

theorem filters_all_iff (hr : run E.step (E.start spec) as = some t) :
    (∀ ips u, run E.step (E.start { spec with allowedIps := ips }) as = some u →
      Filters { spec with allowedIps := ips } u) ↔ t.toHost = [] ∧ t.encrypted = [] := by
  constructor
  · intro h
    obtain ⟨hhost, hpeer⟩ := h [] t hr
    have hnone : ∀ address, TunnelSpec.allows { spec with allowedIps := [] } address = false := by
      intro address
      cases address <;> rfl
    constructor
    · exact List.eq_nil_iff_forall_not_mem.mpr fun p hp => by simpa [hnone] using hhost p hp
    · exact List.eq_nil_iff_forall_not_mem.mpr fun p hp => by simpa [hnone] using hpeer p hp
  · rintro ⟨hhost, hpeer⟩ ips u hu
    obtain rfl : t = u := Option.mem_unique hr hu
    exact filters_of_nil hhost hpeer

end

/-! ## The routing of the kernel -/

namespace Engine

variable (E : Engine T X) (config : InterfaceConfiguration)

/-- With the routing of the kernel: packets without a peer are dropped. -/
def kernelBranch (s : EventLoop T) (a : LoopLabel X) : EventLoop T :=
  match a with
  | .read packet _ =>
    if (config.route (destinationAddress packet)).isSome then E.branch s a else s
  | .recv _ _ _ _ =>
    if ∀ packet ∈ E.passed s a, (config.route (sourceAddress packet)).isSome then E.branch s a
    else s.setTunn (E.react s a).2
  | .tick _ | .cancel => E.branch s a

def kernelStep (s : EventLoop T) (a : LoopLabel X) : Option (EventLoop T) :=
  if s.running then some (E.kernelBranch config s a) else none

/-- The engine may hold packets back, but makes up none. -/
structure Queue (E : Engine T X) where
  pending : T → List Packet
  new : ∀ privateKey peerPublicKey keepalive,
    pending (E.new privateKey peerPublicKey keepalive) = []
  encapsulate : ∀ x packet tunn,
    (E.encapsulate x packet tunn).1.carried.toList ++ pending (E.encapsulate x packet tunn).2 ⊆
      packet :: pending tunn
  decapsulate : ∀ x datagram tunn,
    (E.decapsulate x datagram tunn).1.carried.toList ++ pending (E.decapsulate x datagram tunn).2 ⊆
      pending tunn
  updateTimers : ∀ x tunn,
    (E.updateTimers x tunn).1.carried.toList ++ pending (E.updateTimers x tunn).2 ⊆ pending tunn

end Engine

section

variable {E : Engine T X} {interface : String} {spec : TunnelSpec} {s t : EventLoop T}
  {a : LoopLabel X} {as : List (LoopLabel X)}

def PendingAllowed (Q : E.Queue) (spec : TunnelSpec) (tunn : T) : Prop :=
  ∀ packet ∈ Q.pending tunn, spec.allows (destinationAddress packet)

def Routed (E : Engine T X) (spec : TunnelSpec) (s : EventLoop T) (a : LoopLabel X) : Prop :=
  (∀ packet ∈ a.given, spec.allows (destinationAddress packet)) ∧
    ∀ packet ∈ E.passed s a, spec.allows (sourceAddress packet)

theorem Engine.Queue.react (Q : E.Queue) (hs : PendingAllowed Q spec s.state.tunn)
    (ha : ∀ packet ∈ a.given, spec.allows (destinationAddress packet)) :
    (∀ packet ∈ E.encrypted s a, spec.allows (destinationAddress packet)) ∧
      PendingAllowed Q spec (E.react s a).2 := by
  have hall : ∀ packet ∈ (E.encrypted s a).toList ++ Q.pending (E.react s a).2,
      spec.allows (destinationAddress packet) := by
    intro packet hp
    cases a with
    | read packet' x =>
      rcases List.mem_cons.mp (Q.encapsulate x packet' s.state.tunn hp) with rfl | hp
      · exact ha packet rfl
      · exact hs packet hp
    | recv datagram addr x now => exact hs packet (Q.decapsulate x datagram s.state.tunn hp)
    | tick x => exact hs packet (Q.updateTimers x s.state.tunn hp)
    | cancel => exact hs packet hp
  rw [List.forall_mem_append] at hall
  exact ⟨fun packet hp => hall.1 packet (Option.mem_toList.mpr hp), hall.2⟩

open Classical in
theorem kernelBranch_configurationOf (interface : String) :
    E.kernelBranch (KernelBackend.configurationOf interface spec) s a =
      if Routed E spec s a then E.branch s a
      else if a.given.isSome then s else s.setTunn (E.react s a).2 := by
  unfold Engine.kernelBranch
  simp only [route_configurationOf]
  cases a <;> simp [Routed, LoopLabel.given, Engine.passed]

/-- **The kernel filters.** -/
theorem kernel_filters (Q : E.Queue)
    (hr : run (E.kernelStep (KernelBackend.configurationOf interface spec)) (E.start spec) as =
      some t) : Filters spec t := by
  refine (run_invariant_of_step
    (I := fun s => Filters spec s ∧ PendingAllowed Q spec s.state.tunn) ?_ ?_ hr).1
  · rintro s a t ⟨hs, hpending⟩ hst
    unfold Engine.kernelStep at hst
    split_ifs at hst
    cases hst
    rw [kernelBranch_configurationOf]
    split_ifs with h hgiven
    · rw [filters_branch_iff, branch_tunn]
      obtain ⟨hencrypted, hleft⟩ := Q.react hpending h.1
      exact ⟨⟨hs, h.2, hencrypted⟩, hleft⟩
    · exact ⟨hs, hpending⟩
    · exact ⟨hs, (Q.react hpending (by simp_all)).2⟩
  · refine ⟨filters_of_nil rfl rfl, ?_⟩
    rw [PendingAllowed]
    simp [Engine.start, Engine.buildTunn, Q.new]

theorem run_eq_kernel (interface : String) (h : Along E.step (Routed E spec) s as) :
    run E.step s as = run (E.kernelStep (KernelBackend.configurationOf interface spec)) s as := by
  refine run_congr (fun s a ha => ?_) h
  rw [Engine.step, Engine.kernelStep, kernelBranch_configurationOf, if_pos ha]

end

def plainEngine : Engine Unit Unit where
  new _ _ _ := ()
  encapsulate _ packet _ := (.writeToNetwork ⟨packet, some packet⟩, ())
  decapsulate _ datagram _ :=
    (match sourceAddress datagram with
      | some (.v4 source) => .writeToTunnelV4 datagram source
      | some (.v6 source) => .writeToTunnelV6 datagram source
      | none => .err, ())
  updateTimers _ _ := (.done, ())

def packetOf (source destination : List UInt8) : Packet :=
  [0x45, 0, 0, 20, 0, 0, 0, 0, 64, 17, 0, 0] ++ source ++ destination

def officeSpec : TunnelSpec where
  privateKey := 1
  clientAddress := ⟨.v4 0x0a000002, 32⟩
  peerPublicKey := 2
  endpoint := ⟨.v4 0xcb007101, 51820⟩
  allowedIps := [⟨.v4 0x0a000000, 24⟩]
  dns := []
  mtu := 1420
  keepalive := some (Duration.fromSecs 25)

def exchange (address : List UInt8) : List (LoopLabel Unit) :=
  [.read (packetOf [10, 0, 0, 2] address) (),
    .recv (packetOf address [10, 0, 0, 2]) officeSpec.endpoint () 0]

theorem allowedExchange_filters :
    ∃ t, run plainEngine.step (plainEngine.start officeSpec) (exchange [10, 0, 0, 7]) = some t ∧
      t.toHost.length = 1 ∧ t.encrypted.length = 1 ∧ Filters officeSpec t := by
  have ht := (Option.some_get (x := run plainEngine.step (plainEngine.start officeSpec)
    (exchange [10, 0, 0, 7])) (by decide +kernel)).symm
  exact ⟨_, ht, by decide +kernel, by decide +kernel, (filters_iff ht).mpr (by decide +kernel)⟩

/-- **Packets are not filtered**, and would be with the routing of the kernel. -/
theorem packets_not_filtered :
    let as := exchange [8, 8, 8, 8]
    (∃ t, run plainEngine.step (plainEngine.start officeSpec) as = some t ∧ ¬ Filters officeSpec t ∧
      t.toHost = [packetOf [8, 8, 8, 8] [10, 0, 0, 2]] ∧
      t.encrypted = [packetOf [10, 0, 0, 2] [8, 8, 8, 8]]) ∧
    ∃ t, run (plainEngine.kernelStep (KernelBackend.configurationOf "wg0" officeSpec))
        (plainEngine.start officeSpec) as = some t ∧ t.toHost = [] ∧ t.encrypted = [] := by
  intro as
  exact ⟨exists_run (by decide +kernel), exists_run (by decide +kernel)⟩

/-! ## The buffers of the loop -/

def bufferLen : Nat := 1500

def dataOverhead : Nat := 32

/-- What does not fit is cut off; a read that fails has no label. -/
def LoopLabel.buffered : LoopLabel X → LoopLabel X
  | .read packet x => .read (packet.take bufferLen) x
  | .recv datagram addr x now => .recv (datagram.take bufferLen) addr x now
  | .tick x => .tick x
  | .cancel => .cancel

/-- The engine panics if a packet does not fit with what it adds. -/
def LoopLabel.overflows (a : LoopLabel X) : Bool :=
  a.given.any fun packet => bufferLen < packet.length + dataOverhead

inductive LoopTask (T : Type)
  | running (loop : EventLoop T)
  | returned
  | panicked

def Engine.turn (E : Engine T X) : LoopTask T → LoopLabel X → LoopTask T
  | .running _, .cancel => .returned
  | .running s, a =>
    if a.buffered.overflows then .panicked else .running (E.branch s a.buffered)
  | .returned, _ => .returned
  | .panicked, _ => .panicked

def LoopLabel.Harmless (a : LoopLabel X) : Prop :=
  a ≠ .cancel ∧ ∀ packet ∈ a.given, packet.length + dataOverhead ≤ bufferLen

theorem overflows_buffered_iff {a : LoopLabel X} :
    a.buffered.overflows = false ↔
      ∀ packet ∈ a.given, packet.length + dataOverhead ≤ bufferLen := by
  cases a with
  | read packet x =>
    simp only [LoopLabel.overflows, LoopLabel.buffered, LoopLabel.given, Option.any_some,
      List.length_take, Option.mem_some_iff, forall_eq', decide_eq_false_iff_not, bufferLen,
      dataOverhead]
    omega
  | recv | tick | cancel => simp [LoopLabel.overflows, LoopLabel.buffered, LoopLabel.given]

theorem turn_running {E : Engine T X} {s : EventLoop T} {a : LoopLabel X} (h : a.Harmless) :
    E.turn (.running s) a = .running (E.branch s a.buffered) := by
  have hfits := overflows_buffered_iff.mpr h.2
  cases a with
  | cancel => exact absurd rfl h.1
  | read | recv | tick => simp [Engine.turn, hfits]

theorem turn_not_running {E : Engine T X} {s : EventLoop T} {a : LoopLabel X} (h : ¬ a.Harmless) :
    E.turn (.running s) a = .returned ∨ E.turn (.running s) a = .panicked := by
  cases a with
  | cancel => exact .inl rfl
  | read | recv | tick =>
    have hoverflows := mt overflows_buffered_iff.mp fun hfits => h ⟨nofun, hfits⟩
    simp [Engine.turn, hoverflows]

theorem foldl_turn_of_ended {E : Engine T X} {task : LoopTask T}
    (h : task = .returned ∨ task = .panicked) (as : List (LoopLabel X)) :
    as.foldl E.turn task = task := by
  induction as with
  | nil => rfl
  | cons a as ih =>
    rw [List.foldl_cons]
    rcases h with rfl | rfl <;> exact ih

/-- **The event loop goes on** until it is cancelled or a packet has more than 1468 bytes. -/
theorem goes_on_iff (E : Engine T X) (spec : TunnelSpec) (as : List (LoopLabel X)) :
    (∃ loop, as.foldl E.turn (.running (E.start spec)) = .running loop) ↔
      ∀ a ∈ as, a.Harmless := by
  generalize E.start spec = s
  induction as generalizing s with
  | nil => simp
  | cons a as ih =>
    rw [List.foldl_cons, List.forall_mem_cons]
    by_cases h : a.Harmless
    · rw [turn_running h, ih]
      exact (and_iff_right h).symm
    · refine iff_of_false ?_ fun hall => h hall.1
      rintro ⟨loop, hloop⟩
      have hended := turn_not_running (E := E) (s := s) h
      rw [foldl_turn_of_ended hended] at hloop
      rcases hended with heq | heq <;> cases heq.symm.trans hloop

/-- **A packet of 1500 bytes ends the loop.** -/
theorem large_packet_panics :
    officeSpec.mtu = 1420 ∧ plainEngine.turn (.running (plainEngine.start officeSpec))
      (.read (List.replicate 1500 0) ()) = .panicked := by
  have hoverflows : (LoopLabel.read (List.replicate 1500 0) ()).buffered.overflows = true := by
    simp only [LoopLabel.overflows, LoopLabel.buffered, LoopLabel.given, Option.any_some,
      List.length_take, List.length_replicate, bufferLen, dataOverhead]
    decide
  exact ⟨rfl, by simp only [Engine.turn, hoverflows, if_true]⟩

end Penguind.Tobogganing
