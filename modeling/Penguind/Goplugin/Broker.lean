import Penguind.Foundation.Run

/-!
# Announced connections

Both ends of the broker keep a slot for each id: a channel for one announcement, whose receiving
end the first dial takes. The host opens one stream; the plugin serves any number, starts a loop
for each, and then rejects all but one.
-/

namespace Penguind.Goplugin.Broker

open Foundation Function

structure ConnInfo where
  serviceId : Nat
  network : String
  address : String
  deriving DecidableEq

inductive Receiver
  | inSlot
  | withDial (k : Nat)
  | droppedBy (k : Nat)
  deriving DecidableEq

structure PendingSlot where
  buffer : Option ConnInfo
  receiver : Receiver

def newPendingSlot : PendingSlot := ⟨none, .inSlot⟩

def PendingSlot.trySend (info : ConnInfo) (slot : PendingSlot) : PendingSlot :=
  match slot.buffer, slot.receiver with
  | some _, _ | none, .droppedBy _ => slot
  | none, .inSlot | none, .withDial _ => { slot with buffer := some info }

inductive Dial
  | waiting (id : Nat)
  | calledTwice (id : Nat)
  | timedOut (id : Nat)
  | obtained (id : Nat) (info : ConnInfo)
  deriving DecidableEq

/-- Whether it was accepted, and the announcement that is about to be sent on. -/
structure Stream where
  accepted : Option Bool
  holding : Option ConnInfo
  deriving DecidableEq

inductive Side
  | host | plugin
  deriving DecidableEq

/-- A slot that is not in the table is a new one; `arrived` is a note. -/
structure State where
  slots : Nat → PendingSlot := fun _ => newPendingSlot
  outboundTaken : Bool := false
  streams : Nat → Option Stream := fun _ => none
  dials : Nat → Option Dial := fun _ => none
  arrived : List (Nat × ConnInfo) := []

inductive Label
  | startStream (i : Nat)
  | takeOutbound (i : Nat)
  | message (i : Nat) (info : ConnInfo)
  | trySend (i : Nat)
  | dial (k id : Nat)
  | receive (k : Nat)
  | timeOut (k : Nat)

def step (side : Side) (s : State) : Label → Option State
  | .startStream i =>
    if s.streams i = none ∧ (side = .host → i = 0) then
      let accepted := if side = .host then some true else none
      some { s with streams := update s.streams i (some ⟨accepted, none⟩) }
    else none
  | .takeOutbound i =>
    match s.streams i with
    | some ⟨none, holding⟩ =>
      some { s with
        streams := update s.streams i (some ⟨some !s.outboundTaken, holding⟩)
        outboundTaken := true }
    | _ => none
  | .message i info =>
    match s.streams i with
    | some ⟨accepted, none⟩ =>
      some { s with streams := update s.streams i (some ⟨accepted, some info⟩) }
    | _ => none
  | .trySend i =>
    match s.streams i with
    | some ⟨accepted, some info⟩ =>
      let id := info.serviceId
      some { s with
        streams := update s.streams i (some ⟨accepted, none⟩)
        slots := update s.slots id ((s.slots id).trySend info)
        arrived := s.arrived ++ [(i, info)] }
    | _ => none
  | .dial k id =>
    if s.dials k ≠ none then none
    else if (s.slots id).receiver = .inSlot then
      some { s with
        slots := update s.slots id { s.slots id with receiver := .withDial k }
        dials := update s.dials k (some (.waiting id)) }
    else some { s with dials := update s.dials k (some (.calledTwice id)) }
  | .receive k =>
    match s.dials k with
    | some (.waiting id) =>
      match (s.slots id).buffer with
      | some info =>
        some { s with
          slots := update s.slots id ⟨none, .droppedBy k⟩
          dials := update s.dials k (some (.obtained id info)) }
      | none => none
    | _ => none
  | .timeOut k =>
    match s.dials k with
    | some (.waiting id) =>
      if (s.slots id).buffer = none then
        some { s with
          slots := update s.slots id ⟨none, .droppedBy k⟩
          dials := update s.dials k (some (.timedOut id)) }
      else none
    | _ => none

def firstFor (arrived : List (Nat × ConnInfo)) (id : Nat) : Option ConnInfo :=
  (arrived.find? fun x => x.2.serviceId = id).map Prod.snd

def State.firstOn (s : State) (i id : Nat) : Option ConnInfo :=
  firstFor (s.arrived.filter (·.1 = i)) id

structure Right (side : Side) (i : Nat) (s : State) : Prop where
  once {k k' id : Nat} {info info' : ConnInfo} : s.dials k = some (.obtained id info) →
    s.dials k' = some (.obtained id info') → k = k'
  first {k id : Nat} {info : ConnInfo} : s.dials k = some (.obtained id info) →
    s.firstOn i id = some info
  arrived {k id : Nat} {info : ConnInfo} : s.dials k = some (.waiting id) →
    s.firstOn i id = some info → step side s (.timeOut k) = none ∧
      ∃ t, step side s (.receive k) = some t ∧ t.dials k = some (.obtained id info)

/-! ## The slots -/

structure Consistent (slots : Nat → PendingSlot) (dials : Nat → Option Dial)
    (first : Nat → Option ConnInfo) : Prop where
  buffer (id : Nat) : (∀ k, (slots id).receiver ≠ .droppedBy k) → (slots id).buffer = first id
  waiting {k id : Nat} : dials k = some (.waiting id) → (slots id).receiver = .withDial k
  timedOut {k id : Nat} : dials k = some (.timedOut id) → (slots id).receiver = .droppedBy k
  obtained {k id : Nat} {info : ConnInfo} : dials k = some (.obtained id info) →
    (slots id).receiver = .droppedBy k ∧ first id = some info

theorem trySend_receiver (info : ConnInfo) (slot : PendingSlot) :
    (slot.trySend info).receiver = slot.receiver := by
  fun_cases PendingSlot.trySend info slot <;> rfl

theorem trySend_buffer (info : ConnInfo) {slot : PendingSlot}
    (h : ∀ k, slot.receiver ≠ .droppedBy k) :
    (slot.trySend info).buffer = slot.buffer.or (some info) := by
  fun_cases PendingSlot.trySend info slot <;> simp_all

theorem firstFor_append (arrived : List (Nat × ConnInfo)) (i : Nat) (info : ConnInfo) :
    firstFor (arrived ++ [(i, info)]) = fun id =>
      (firstFor arrived id).or (if info.serviceId = id then some info else none) := by
  funext id
  rw [firstFor, List.find?_append, firstFor]
  cases arrived.find? fun x => x.2.serviceId = id with
  | some x => rfl
  | none => by_cases h : info.serviceId = id <;> simp [h]

namespace Consistent

variable {slots : Nat → PendingSlot} {dials : Nat → Option Dial} {first : Nat → Option ConnInfo}
  (h : Consistent slots dials first)
include h

theorem trySend (info : ConnInfo) :
    Consistent (update slots info.serviceId ((slots info.serviceId).trySend info)) dials
      fun id => (first id).or (if info.serviceId = id then some info else none) := by
  have hreceiver (id : Nat) : (update slots info.serviceId
      ((slots info.serviceId).trySend info) id).receiver = (slots id).receiver := by
    by_cases hid : id = info.serviceId
    · rw [hid, update_self, trySend_receiver]
    · rw [update_of_ne hid]
  refine ⟨fun id hid => ?_, fun hk => ?_, fun hk => ?_, fun hk => ?_⟩
  · simp only [hreceiver] at hid
    rw [← h.buffer id hid]
    by_cases hinfo : id = info.serviceId
    · subst hinfo
      rw [update_self, trySend_buffer info hid, if_pos rfl]
    · rw [update_of_ne hinfo, if_neg (Ne.symm hinfo), Option.or_none]
  · exact (hreceiver _).trans (h.waiting hk)
  · exact (hreceiver _).trans (h.timedOut hk)
  · rw [(h.obtained hk).2]
    exact ⟨(hreceiver _).trans (h.obtained hk).1, rfl⟩

theorem dial {k id : Nat} (hslot : (slots id).receiver = .inSlot) :
    Consistent (update slots id { slots id with receiver := .withDial k })
      (update dials k (some (.waiting id))) first := by
  refine ⟨?_, ?_, ?_, ?_⟩
  · grind [h.buffer]
  · grind [h.waiting]
  · grind [h.timedOut]
  · grind [h.obtained]

theorem calledTwice (k id : Nat) :
    Consistent slots (update dials k (some (.calledTwice id))) first := by
  refine ⟨h.buffer, ?_, ?_, ?_⟩
  · grind [h.waiting]
  · grind [h.timedOut]
  · grind [h.obtained]

/-- A dial ends, and drops its receiver. -/
theorem finish {k id : Nat} {d : Dial} (hk : dials k = some (.waiting id))
    (hd : d = .timedOut id ∨ ∃ info, d = .obtained id info ∧ first id = some info) :
    Consistent (update slots id ⟨none, .droppedBy k⟩) (update dials k (some d)) first := by
  have hwith := h.waiting hk
  refine ⟨?_, ?_, ?_, ?_⟩
  · grind [h.buffer]
  · grind [h.waiting]
  · grind [h.timedOut]
  · grind [h.obtained]

end Consistent

theorem step_consistent {side : Side} {s t : State} {a : Label}
    (h : Consistent s.slots s.dials (firstFor s.arrived)) (ht : step side s a = some t) :
    Consistent t.slots t.dials (firstFor t.arrived) := by
  revert ht
  fun_cases step side s a with rintro ⟨⟩
  | case1 | case3 | case5 => exact h
  | case7 i accepted info =>
    rw [firstFor_append]
    exact h.trySend info
  | case10 k id hk hslot => exact h.dial hslot
  | case11 k id => exact h.calledTwice k id
  | case12 k id hk info hinfo =>
    refine h.finish hk (.inr ⟨info, rfl, ?_⟩)
    rw [← h.buffer id (by simp [h.waiting hk]), hinfo]
  | case15 k id hk => exact h.finish hk (.inl rfl)

theorem run_consistent {side : Side} {labels : List Label} {t : State}
    (ht : run (step side) {} labels = some t) :
    Consistent t.slots t.dials (firstFor t.arrived) := by
  refine run_invariant_of_step (I := fun s => Consistent s.slots s.dials (firstFor s.arrived))
    (fun _ _ _ => step_consistent) ?_ ht
  exact ⟨fun _ _ => rfl, fun hk => (by cases hk), fun hk => (by cases hk), fun hk => (by cases hk)⟩

theorem right_of_consistent {side : Side} {s : State} {i : Nat}
    (h : Consistent s.slots s.dials (firstFor s.arrived)) (hi : ∀ x ∈ s.arrived, x.1 = i) :
    Right side i s := by
  have hfirst (id : Nat) : s.firstOn i id = firstFor s.arrived id := by
    rw [State.firstOn, List.filter_eq_self.mpr (by simpa using hi)]
  refine ⟨fun hk hk' => ?_, fun hk => ?_, fun hk hinfo => ?_⟩
  · have hsame := (h.obtained hk).1.symm.trans (h.obtained hk').1
    exact Receiver.droppedBy.inj hsame
  · rw [hfirst]
    exact (h.obtained hk).2
  · rw [hfirst, ← h.buffer _ (by simp [h.waiting hk])] at hinfo
    simp [step, hk, hinfo]

/-- A host has one stream. -/
theorem host_arrived {s t : State} {a : Label}
    (h : (∀ j, s.streams j ≠ none → j = 0) ∧ ∀ x ∈ s.arrived, x.1 = 0)
    (ht : step .host s a = some t) :
    (∀ j, t.streams j ≠ none → j = 0) ∧ ∀ x ∈ t.arrived, x.1 = 0 := by
  revert ht
  fun_cases step .host s a with rintro ⟨⟩
  | case1 | case3 | case5 | case7 => grind
  | case10 | case11 | case12 | case15 => exact h

/-- **Dials are right** on the host's side, and on the plugin's if one stream only is used. -/
theorem dials_right (labels : List Label) (t : State) :
    (run (step .host) {} labels = some t → Right .host 0 t) ∧
    (run (step .plugin) {} labels = some t → ∀ i, (∀ x ∈ t.arrived, x.1 = i) →
      Right .plugin i t) := by
  refine ⟨fun ht => ?_, fun ht i hi => right_of_consistent (run_consistent ht) hi⟩
  have hstreams := run_invariant_of_step
    (I := fun s => (∀ j, s.streams j ≠ none → j = 0) ∧ ∀ x ∈ s.arrived, x.1 = 0)
    (fun _ _ _ => host_arrived) ⟨fun _ h => absurd rfl h, fun _ h => (by cases h)⟩ ht
  exact right_of_consistent (run_consistent ht) hstreams.2

/-- **A rejected stream is heard**: its loop was started before the stream was rejected. -/
theorem rejected_stream_heard : ∃ t, run (step .plugin) {}
      [.startStream 0, .takeOutbound 0, .startStream 1, .takeOutbound 1,
        .message 1 ⟨1, "unix", "b"⟩, .trySend 1, .message 0 ⟨1, "unix", "a"⟩, .trySend 0,
        .dial 0 1, .receive 0] = some t ∧
    t.streams 1 = some ⟨some false, none⟩ ∧
    t.dials 0 = some (.obtained 1 ⟨1, "unix", "b"⟩) ∧ ¬ Right .plugin 0 t := by
  refine ⟨_, rfl, rfl, rfl, fun h => ?_⟩
  exact absurd (@Right.first _ _ _ h 0 1 ⟨1, "unix", "b"⟩ rfl) (by decide)

end Penguind.Goplugin.Broker
