import Mathlib.Algebra.Group.Nat.Defs
import Mathlib.Data.List.DropRight
import Mathlib.Data.List.Nodup
import Mathlib.Data.Nat.Log
import Penguind.Foundation.Run

/-!
# Tailing a log

The daemon keeps the last lines of each log source in a ring and sends every line to the
subscribers. A request to tail a log subscribes first, then reads the ring; lines may be appended
in between.
-/

namespace Penguind.Daemon

open Foundation

variable {Line : Type}

/-! ## The ring -/

structure LogEntry (Line : Type) where
  source : String
  number : Nat
  line : Line
  deriving DecidableEq

structure SourceLog (Line : Type) where
  lines : List (LogEntry Line)
  tail : List (LogEntry Line)

structure LogRing (Line : Type) where
  capacity : Nat
  sources : String → Option (SourceLog Line)

namespace LogRing

def new (capacity : Nat) : LogRing Line where
  capacity := capacity
  sources _ := none

def sourceEntry (ring : LogRing Line) (source : String) : SourceLog Line :=
  (ring.sources source).getD ⟨[], []⟩

def append (ring : LogRing Line) (source : String) (line : Line) : LogRing Line :=
  let entry := ring.sourceEntry source
  let lines := if ring.capacity ≤ entry.lines.length then entry.lines.drop 1 else entry.lines
  let e : LogEntry Line := ⟨source, entry.tail.length, line⟩
  let entry' : SourceLog Line := { lines := lines ++ [e], tail := entry.tail ++ [e] }
  { ring with sources := Function.update ring.sources source (some entry') }

def backlog (ring : LogRing Line) (source : String) (n : Nat) : List (LogEntry Line) :=
  match ring.sources source with
  | none => []
  | some entry => entry.lines.drop (entry.lines.length - n)

def subscribe (ring : LogRing Line) (source : String) : Nat × LogRing Line :=
  let entry := ring.sourceEntry source
  (entry.tail.length, { ring with sources := Function.update ring.sources source (some entry) })

/-- The least power of two that is not below the capacity. -/
def channelCapacity (ring : LogRing Line) : Nat := 2 ^ Nat.clog 2 (max ring.capacity 1)

def Lagged (ring : LogRing Line) (source : String) (next : Nat) : Prop :=
  next + ring.channelCapacity < (ring.sourceEntry source).tail.length

instance (ring : LogRing Line) (source : String) (next : Nat) :
    Decidable (ring.Lagged source next) :=
  inferInstanceAs (Decidable (_ < _))

end LogRing

/-! ## The request -/

structure TailLogsRequest where
  apiVersion : String
  module : String
  lines : Int32
  follow : Bool

def apiVersion : String := "v1"

def TailLogsRequest.count (req : TailLogsRequest) : Nat :=
  if 0 < req.lines then req.lines.toInt.toNat else 0

inductive TailEnd
  | done
  | disconnected
  | lagged
  deriving DecidableEq, Repr

inductive TailPhase (Line : Type)
  | called
  | refused (message : String)
  | accepted
  | subscribed
  | forwarding (e : LogEntry Line) (rest : List (LogEntry Line))
  | following
  | holding (e : LogEntry Line)
  | ended (why : TailEnd)

structure Tailing (Line : Type) where
  ring : LogRing Line
  phase : TailPhase Line
  next : Nat
  connected : Bool
  delivered : List (LogEntry Line)
  /-- The place of the subscription. -/
  start : Nat
  /-- The number of lines of the source when the ring was read. -/
  readAt : Nat

inductive TailLabel (Line : Type)
  | append (source : String) (line : Line)
  | subscribeOther (source : String)
  | check
  | subscribe
  | read
  | send
  | recv
  | disconnect

namespace Tailing

variable (req : TailLogsRequest)

def fresh (capacity : Nat) : Tailing Line where
  ring := .new capacity
  phase := .called
  next := 0
  connected := true
  delivered := []
  start := 0
  readAt := 0

def afterBacklog : List (LogEntry Line) → TailPhase Line
  | [] => if req.follow then .following else .ended .done
  | e :: rest => .forwarding e rest

def history (s : Tailing Line) : List (LogEntry Line) := (s.ring.sourceEntry req.module).tail

def sendLine (s : Tailing Line) (e : LogEntry Line) (phase : TailPhase Line) : Tailing Line :=
  if s.connected then { s with delivered := s.delivered ++ [e], phase := phase }
  else { s with phase := .ended .disconnected }

def step (s : Tailing Line) : TailLabel Line → Option (Tailing Line)
  | .append source line => some { s with ring := s.ring.append source line }
  | .subscribeOther source => some { s with ring := (s.ring.subscribe source).2 }
  | .disconnect => some { s with connected := false }
  | .check =>
    match s.phase with
    | .called =>
      if req.apiVersion = "" ∨ req.apiVersion = apiVersion then some { s with phase := .accepted }
      else
        some { s with
          phase := .refused ("api_version \"" ++ req.apiVersion ++ "\" not supported") }
    | _ => none
  | .subscribe =>
    match s.phase with
    | .accepted =>
      if req.follow then
        -- from here on the lines come over the channel as well
        let (next, ring) := s.ring.subscribe req.module
        some { s with ring, next, start := next, phase := .subscribed }
      else some { s with phase := .subscribed }
    | _ => none
  | .read =>
    match s.phase with
    | .subscribed =>
      some { s with
        phase := afterBacklog req (s.ring.backlog req.module req.count)
        readAt := (s.history req).length }
    | _ => none
  | .send =>
    match s.phase with
    | .forwarding e rest => some (s.sendLine e (afterBacklog req rest))
    | .holding e => some (s.sendLine e .following)
    | _ => none
  | .recv =>
    match s.phase with
    | .following =>
      -- the channel has dropped a line: the stream ends instead of going on with a gap
      if s.ring.Lagged req.module s.next then some { s with phase := .ended .lagged }
      else
        ((s.history req)[s.next]?).map fun e => { s with phase := .holding e, next := s.next + 1 }
    | _ => none

/-- The last lines held, as many as asked for, and the lines appended since if it follows. -/
def expected (s : Tailing Line) : List (LogEntry Line) :=
  (((s.history req).take s.readAt).rtake s.ring.capacity).rtake req.count ++
    if req.follow then (s.history req).drop s.start else []

def live (s : Tailing Line) : List (LogEntry Line) :=
  if req.follow then (s.history req).drop s.next else []

def pending (s : Tailing Line) : Option (List (LogEntry Line)) :=
  match s.phase with
  | .forwarding e rest => some (e :: rest ++ s.live req)
  | .following => some (s.live req)
  | .holding e => some (e :: s.live req)
  | .ended .done => some []
  | .ended .disconnected | .ended .lagged | .called | .refused _ | .accepted | .subscribed => none

def HasRead (s : Tailing Line) : Prop :=
  match s.phase with
  | .forwarding _ _ | .following | .holding _ | .ended _ => True
  | .called | .refused _ | .accepted | .subscribed => False

instance (s : Tailing Line) : Decidable s.HasRead :=
  match h : s.phase with
  | .forwarding _ _ | .following | .holding _ | .ended _ => .isTrue (by simp [HasRead, h])
  | .called | .refused _ | .accepted | .subscribed => .isFalse (by simp [HasRead, h])

end Tailing

/-! ## The ring holds the last lines -/

namespace LogRing

variable {ring : LogRing Line}

def WellFormed (ring : LogRing Line) : Prop :=
  ∀ source, (ring.sourceEntry source).lines = (ring.sourceEntry source).tail.rtake ring.capacity ∧
    ∀ i (e : LogEntry Line), (ring.sourceEntry source).tail[i]? = some e →
      e.source = source ∧ e.number = i

theorem sourceEntry_append_of_ne {source other : String} (h : other ≠ source) (line : Line) :
    (ring.append source line).sourceEntry other = ring.sourceEntry other := by
  simp [append, sourceEntry, Function.update_of_ne h]

theorem tail_append_self (source : String) (line : Line) :
    ((ring.append source line).sourceEntry source).tail = (ring.sourceEntry source).tail ++
      [⟨source, (ring.sourceEntry source).tail.length, line⟩] := by
  simp [append, sourceEntry]

theorem sourceEntry_subscribe (source other : String) :
    (ring.subscribe source).2.sourceEntry other = ring.sourceEntry other := by
  by_cases h : other = source
  · subst h
    simp [subscribe, sourceEntry]
  · simp [subscribe, sourceEntry, Function.update_of_ne h]

theorem backlog_eq_rtake (ring : LogRing Line) (source : String) (n : Nat) :
    ring.backlog source n = (ring.sourceEntry source).lines.rtake n := by
  rw [backlog, sourceEntry]
  cases ring.sources source with
  | none => simp
  | some entry => rfl

theorem rtake_push {A : Type} (t : List A) (e : A) {capacity : Nat} (hcap : 1 ≤ capacity) :
    (if capacity ≤ (t.rtake capacity).length then (t.rtake capacity).drop 1
      else t.rtake capacity) ++ [e] = (t ++ [e]).rtake capacity := by
  obtain ⟨c, rfl⟩ : ∃ c, capacity = c + 1 := ⟨capacity - 1, by omega⟩
  rw [List.rtake_concat_succ]
  congr 1
  simp only [List.rtake, List.length_drop]
  split_ifs with hfull
  · rw [List.drop_drop]
    congr 1
    omega
  · congr 1
    omega

theorem WellFormed.append (h : ring.WellFormed) (hcap : 1 ≤ ring.capacity) (source : String)
    (line : Line) : (ring.append source line).WellFormed := by
  intro other
  by_cases hother : other = source
  · subst hother
    obtain ⟨hlines, hplaces⟩ := h other
    constructor
    · have hlines' : ((ring.append other line).sourceEntry other).lines =
          (if ring.capacity ≤ (ring.sourceEntry other).lines.length
            then (ring.sourceEntry other).lines.drop 1 else (ring.sourceEntry other).lines) ++
            [⟨other, (ring.sourceEntry other).tail.length, line⟩] := by
        simp [LogRing.append, sourceEntry]
      rw [hlines', hlines, tail_append_self]
      exact rtake_push _ _ hcap
    · intro i e he
      rw [tail_append_self, List.getElem?_append] at he
      split_ifs at he with hi
      · exact hplaces i e he
      · obtain ⟨hlast, rfl⟩ := List.getElem?_eq_some_iff.mp he
        rw [List.length_singleton] at hlast
        refine ⟨by simp, ?_⟩
        simp only [List.getElem_singleton]
        omega
  · rw [sourceEntry_append_of_ne hother]
    exact h other

theorem WellFormed.subscribe (h : ring.WellFormed) (source : String) :
    (ring.subscribe source).2.WellFormed := by
  intro other
  rw [sourceEntry_subscribe]
  exact h other

theorem WellFormed.nodup (h : ring.WellFormed) (source : String) :
    (ring.sourceEntry source).tail.Nodup := by
  refine List.pairwise_iff_getElem.mpr fun i j hi hj hij hsame => ?_
  have hplace := ((h source).2 i _ (List.getElem?_eq_getElem hi)).2
  have hplace' := ((h source).2 j _ (List.getElem?_eq_getElem hj)).2
  rw [hsame] at hplace
  omega

end LogRing

/-! ## Nothing is lost -/

namespace Tailing

variable {req : TailLogsRequest} {s t : Tailing Line} {ring : LogRing Line} {a : TailLabel Line}
  {e : LogEntry Line} {p more rest : List (LogEntry Line)} {capacity : Nat}

def Follows (s : Tailing Line) : Prop :=
  match s.phase with
  | .following | .holding _ => True
  | .called | .refused _ | .accepted | .subscribed | .forwarding _ _ | .ended _ => False

structure Inv (req : TailLogsRequest) (s : Tailing Line) : Prop where
  ring : s.ring.WellFormed
  capacity : 1 ≤ s.ring.capacity
  subscribed : s.phase = .subscribed → req.follow = true →
    s.next = s.start ∧ s.start ≤ (s.history req).length
  follows : s.Follows → req.follow = true
  done : s.phase = .ended .done → req.follow = false
  gone : s.phase = .ended .disconnected → s.connected = false
  unread : ¬ s.HasRead → s.delivered = []
  read : s.HasRead → s.readAt ≤ (s.history req).length ∧
    (req.follow = true → s.start ≤ s.readAt ∧ s.next ≤ (s.history req).length)
  stream : ∀ p, s.pending req = some p → s.delivered ++ p = s.expected req
  delivered : s.HasRead → s.delivered <+: s.expected req

theorem expected_grow (hcapacity : ring.capacity = s.ring.capacity)
    (hmore : ({ s with ring } : Tailing Line).history req = s.history req ++ more)
    (hread : s.readAt ≤ (s.history req).length)
    (hstart : req.follow = true → s.start ≤ (s.history req).length) :
    ({ s with ring := ring } : Tailing Line).expected req =
      s.expected req ++ if req.follow then more else [] := by
  simp only [expected, hmore, hcapacity, List.take_append_of_le_length hread,
    List.append_assoc]
  congr 1
  split_ifs with hfollow
  · exact List.drop_append_of_le_length (hstart hfollow)
  · rfl

theorem live_grow (hmore : ({ s with ring } : Tailing Line).history req = s.history req ++ more)
    (hnext : req.follow = true → s.next ≤ (s.history req).length) :
    ({ s with ring := ring } : Tailing Line).live req =
      s.live req ++ if req.follow then more else [] := by
  simp only [live, hmore]
  split_ifs with hfollow
  · exact List.drop_append_of_le_length (hnext hfollow)
  · rfl

theorem hasRead_of_pending (h : s.pending req = some p) :
    s.HasRead := by
  obtain ⟨ring, phase, next, connected, delivered, start, readAt⟩ := s
  cases phase <;> trivial

theorem pending_grow (hmore : ({ s with ring } : Tailing Line).history req = s.history req ++ more)
    (hnext : req.follow = true → s.next ≤ (s.history req).length)
    (hdone : s.phase = .ended .done → req.follow = false) :
    ({ s with ring := ring } : Tailing Line).pending req =
      (s.pending req).map (· ++ if req.follow then more else []) := by
  have hlive := live_grow (s := s) hmore hnext
  obtain ⟨ring', phase, next, connected, delivered, start, readAt⟩ := s
  cases phase with
  | forwarding | following | holding => simp [pending, hlive]
  | ended why =>
    cases why with
    | done => simp [pending, hdone rfl]
    | disconnected => rfl
    | lagged => rfl
  | called | refused | accepted | subscribed => rfl

theorem Inv.grow (h : Inv req s) (hring : ring.WellFormed)
    (hcapacity : ring.capacity = s.ring.capacity)
    (hmore : ({ s with ring } : Tailing Line).history req = s.history req ++ more) :
    Inv req { s with ring := ring } := by
  have hlen : (s.history req).length ≤
      (({ s with ring := ring } : Tailing Line).history req).length := by
    simp [hmore]
  have hexpected : s.HasRead → _ := fun hread =>
    expected_grow (s := s) hcapacity hmore (h.read hread).1
      fun hfollow => ((h.read hread).2 hfollow).1.trans (h.read hread).1
  exact
    { ring := hring
      capacity := hcapacity ▸ h.capacity
      subscribed := fun hphase hfollow =>
        ⟨(h.subscribed hphase hfollow).1, (h.subscribed hphase hfollow).2.trans hlen⟩
      follows := h.follows
      done := h.done
      gone := h.gone
      unread := h.unread
      read := fun hread => ⟨(h.read hread).1.trans hlen, fun hfollow =>
        ⟨((h.read hread).2 hfollow).1, ((h.read hread).2 hfollow).2.trans hlen⟩⟩
      stream := by
        intro p hp
        have hread : s.HasRead := hasRead_of_pending (s := { s with ring := ring }) hp
        rw [pending_grow (s := s) hmore (fun hf => ((h.read hread).2 hf).2) h.done] at hp
        obtain ⟨p', hp', rfl⟩ := Option.map_eq_some_iff.mp hp
        rw [hexpected hread, ← h.stream p' hp', List.append_assoc]
      delivered := by
        intro hread
        rw [hexpected hread]
        exact (h.delivered hread).trans (List.prefix_append _ _) }

theorem pending_afterBacklog (h : s.phase = afterBacklog req rest) :
    s.pending req = some (rest ++ s.live req) := by
  rw [pending, h]
  cases rest with
  | cons e rest => rfl
  | nil =>
    cases hfollow : req.follow with
    | true => simp [afterBacklog, hfollow]
    | false => simp [afterBacklog, hfollow, live]

theorem phases_afterBacklog (h : s.phase = afterBacklog req rest) :
    s.HasRead ∧ s.phase ≠ .subscribed ∧ (s.Follows → req.follow = true) ∧
      (s.phase = .ended .done → req.follow = false) := by
  rw [HasRead, Follows, h]
  cases rest with
  | cons e rest => simp [afterBacklog]
  | nil => cases hfollow : req.follow <;> simp [afterBacklog, hfollow]

theorem Inv.of_pending (hring : s.ring.WellFormed) (hcapacity : 1 ≤ s.ring.capacity)
    (hp : s.pending req = some p)
    (hfollows : s.Follows → req.follow = true)
    (hdone : s.phase = .ended .done → req.follow = false)
    (hbounds : s.readAt ≤ (s.history req).length ∧
      (req.follow = true → s.start ≤ s.readAt ∧ s.next ≤ (s.history req).length))
    (hstream : s.delivered ++ p = s.expected req) : Inv req s where
  ring := hring
  capacity := hcapacity
  subscribed hphase := by
    rw [pending, hphase] at hp
    cases hp
  follows := hfollows
  done := hdone
  gone hphase := by
    rw [pending, hphase] at hp
    cases hp
  unread hread := absurd (hasRead_of_pending hp) hread
  read _ := hbounds
  stream p' hp' := by
    cases hp.symm.trans hp'
    exact hstream
  delivered _ := hstream ▸ List.prefix_append _ _

theorem Inv.cut (h : Inv req s) (hread : s.HasRead) {why : TailEnd} (hwhy : why ≠ .done)
    (hgone : why = .disconnected → s.connected = false) :
    Inv req { s with phase := .ended why } where
  ring := h.ring
  capacity := h.capacity
  subscribed := by rintro ⟨⟩
  follows := by rintro ⟨⟩
  done hphase := absurd (TailPhase.ended.inj hphase) hwhy
  gone hphase := hgone (TailPhase.ended.inj hphase)
  unread hno := absurd trivial hno
  read _ := h.read hread
  stream p hp := by
    cases why with
    | done => exact absurd rfl hwhy
    | disconnected => cases hp
    | lagged => cases hp
  delivered _ := h.delivered hread

theorem Inv.append (h : Inv req s) (source : String) (line : Line) :
    Inv req { s with ring := s.ring.append source line } := by
  by_cases hsource : req.module = source
  · subst hsource
    exact h.grow (h.ring.append h.capacity _ _) rfl (LogRing.tail_append_self _ _)
  · have hsame : ((s.ring.append source line).sourceEntry req.module).tail =
        s.history req ++ [] := by
      rw [LogRing.sourceEntry_append_of_ne hsource, List.append_nil]
      rfl
    exact h.grow (h.ring.append h.capacity _ _) rfl hsame

theorem Inv.subscribeOther (h : Inv req s) (source : String) :
    Inv req { s with ring := (s.ring.subscribe source).2 } := by
  have hsame : ((s.ring.subscribe source).2.sourceEntry req.module).tail =
      s.history req ++ [] := by
    rw [LogRing.sourceEntry_subscribe, List.append_nil]
    rfl
  exact h.grow (h.ring.subscribe source) rfl hsame

theorem Inv.of_unread (hring : s.ring.WellFormed) (hcapacity : 1 ≤ s.ring.capacity)
    (hread : ¬ s.HasRead) (hdelivered : s.delivered = [])
    (hsubscribed : s.phase = .subscribed → req.follow = true →
      s.next = s.start ∧ s.start ≤ (s.history req).length) : Inv req s where
  ring := hring
  capacity := hcapacity
  subscribed := hsubscribed
  follows hfollows := by
    refine absurd ?_ hread
    obtain ⟨ring, phase, next, connected, delivered, start, readAt⟩ := s
    cases phase <;> trivial
  done hphase := by
    rw [HasRead, hphase] at hread
    exact absurd trivial hread
  gone hphase := by
    rw [HasRead, hphase] at hread
    exact absurd trivial hread
  unread _ := hdelivered
  read h := absurd h hread
  stream p hp := absurd (hasRead_of_pending hp) hread
  delivered h := absurd h hread

theorem Inv.readRing (h : Inv req s) (hphase : s.phase = .subscribed) :
    Inv req { s with
      phase := afterBacklog req (s.ring.backlog req.module req.count)
      readAt := (s.history req).length } := by
  have hunread : ¬ s.HasRead := by
    rw [HasRead, hphase]
    exact id
  obtain ⟨-, -, hfollows, hdone⟩ := phases_afterBacklog (s := { s with
      phase := afterBacklog req (s.ring.backlog req.module req.count)
      readAt := (s.history req).length }) rfl
  refine Inv.of_pending h.ring h.capacity (pending_afterBacklog rfl) hfollows hdone ?_ ?_
  · refine ⟨le_rfl, fun hfollow => ?_⟩
    obtain ⟨hnext, hstart⟩ := h.subscribed hphase hfollow
    exact ⟨hstart, hnext ▸ hstart⟩
  · have hlines : s.ring.backlog req.module req.count =
        ((s.history req).rtake s.ring.capacity).rtake req.count := by
      rw [LogRing.backlog_eq_rtake, (h.ring req.module).1]
      rfl
    have hlive : s.live req = if req.follow then (s.history req).drop s.start else [] := by
      rw [live]
      split_ifs with hfollow
      · rw [(h.subscribed hphase hfollow).1]
      · rfl
    show s.delivered ++ (s.ring.backlog req.module req.count ++ s.live req) =
      (((s.history req).take (s.history req).length).rtake s.ring.capacity).rtake req.count ++
        if req.follow then (s.history req).drop s.start else []
    rw [h.unread hunread, List.nil_append, hlines, hlive, List.take_length]

theorem Inv.sendLine (h : Inv req s) {phase : TailPhase Line} (hp : s.pending req = some (e :: p))
    (hphase : ∀ delivered, ({ s with delivered, phase } : Tailing Line).pending req = some p)
    (hfollows : ({ s with phase } : Tailing Line).Follows → req.follow = true)
    (hdone : phase = .ended .done → req.follow = false) :
    Inv req (s.sendLine e phase) := by
  have hread : s.HasRead := hasRead_of_pending hp
  rw [Tailing.sendLine]
  split_ifs with hconnected
  · refine Inv.of_pending h.ring h.capacity (hphase _) hfollows hdone (h.read hread) ?_
    rw [List.append_assoc]
    exact h.stream _ hp
  · exact h.cut hread (by decide) fun _ => by simpa using hconnected

theorem Inv.recv (h : Inv req s) (hphase : s.phase = .following)
    (he : (s.history req)[s.next]? = some e) :
    Inv req { s with phase := .holding e, next := s.next + 1 } := by
  have hread : s.HasRead := by
    rw [HasRead, hphase]
    trivial
  have hfollow : req.follow = true := h.follows (by rw [Follows, hphase]; trivial)
  obtain ⟨hlt, rfl⟩ := List.getElem?_eq_some_iff.mp he
  have hlive : s.live req = (s.history req)[s.next] ::
      ({ s with phase := .holding (s.history req)[s.next], next := s.next + 1 } :
        Tailing Line).live req := by
    rw [live, live, if_pos hfollow, if_pos hfollow, List.drop_eq_getElem_cons hlt]
    rfl
  refine Inv.of_pending h.ring h.capacity rfl (fun _ => hfollow) (by rintro ⟨⟩) ?_ ?_
  · exact ⟨(h.read hread).1, fun _ => ⟨((h.read hread).2 hfollow).1, hlt⟩⟩
  · rw [← hlive]
    refine h.stream _ ?_
    rw [pending, hphase]

theorem Inv.proceed (h : Inv req s) (hread : ¬ s.HasRead) {phase : TailPhase Line}
    (hphase : ¬ ({ s with phase } : Tailing Line).HasRead)
    (hsubscribed : phase = .subscribed → req.follow = false) :
    Inv req { s with phase } := by
  refine Inv.of_unread h.ring h.capacity hphase (h.unread hread) fun hsub hfollow => ?_
  rw [hsubscribed hsub] at hfollow
  cases hfollow

theorem inv_of_step (h : Inv req s) (ht : s.step req a = some t) :
    Inv req t := by
  have hunread : ∀ {phase : TailPhase Line}, s.phase = phase →
      ¬ ({ s with phase } : Tailing Line).HasRead → ¬ s.HasRead := by
    rintro _ rfl
    exact id
  revert ht
  fun_cases step req s a with first | rintro ⟨⟩ | intro ht
  | case1 source line => exact h.append source line
  | case2 source => exact h.subscribeOther source
  | case3 => exact { h with gone := fun _ => rfl }
  | case4 hphase | case5 hphase => exact h.proceed (hunread hphase id) id (by rintro ⟨⟩)
  | case7 hphase _ next ring hring =>
    cases hring
    refine Inv.of_unread (h.ring.subscribe req.module) h.capacity id
      (h.unread (hunread hphase id)) ?_
    rintro - -
    have hsame : (s.ring.subscribe req.module).2.sourceEntry req.module = _ :=
      LogRing.sourceEntry_subscribe req.module req.module
    exact ⟨rfl, (congrArg (·.tail.length) hsame).ge⟩
  | case8 hphase hfollow =>
    exact h.proceed (hunread hphase id) id fun _ => Bool.eq_false_iff.mpr hfollow
  | case10 hphase => exact h.readRing hphase
  | case12 e rest hphase =>
    have hp : s.pending req = some (e :: (rest ++ s.live req)) := by
      rw [pending, hphase]
      rfl
    obtain ⟨-, -, hfollows, hdone⟩ :=
      phases_afterBacklog (s := { s with phase := afterBacklog req rest }) rfl
    exact h.sendLine hp (fun _ => pending_afterBacklog rfl) hfollows hdone
  | case13 e hphase =>
    have hp : s.pending req = some (e :: s.live req) := by
      rw [pending, hphase]
    have hfollow : req.follow = true := h.follows (by rw [Follows, hphase]; trivial)
    exact h.sendLine hp (fun _ => rfl) (fun _ => hfollow) (by rintro ⟨⟩)
  | case15 hphase => exact h.cut (by rw [HasRead, hphase]; trivial) (by decide) (by rintro ⟨⟩)
  | case16 hphase =>
    obtain ⟨e, he, rfl⟩ := Option.map_eq_some_iff.mp ht
    exact h.recv hphase he

theorem inv_fresh (hcap : 1 ≤ capacity) :
    Inv req (fresh capacity : Tailing Line) := by
  refine Inv.of_unread ?_ hcap id rfl (by rintro ⟨⟩)
  intro source
  simp [fresh, LogRing.new, LogRing.sourceEntry]

theorem inv_of_run (hcap : 1 ≤ capacity) {as : List (TailLabel Line)}
    (h : run (step req) (fresh capacity) as = some s) : Inv req s := by
  refine run_invariant_of_step (I := Inv req) ?_ (inv_fresh hcap) h
  intro u a v hu hv
  exact inv_of_step hu hv

/-! ## Everything can be delivered -/

def IsOwn : TailLabel Line → Prop
  | .send | .recv => True
  | .append _ _ | .subscribeOther _ | .check | .subscribe | .read | .disconnect => False

theorem exists_run_cons {b : TailLabel Line} {P : Tailing Line → Prop}
    (hstep : s.step req b = some t) (hb : IsOwn b)
    (h : ∃ bs u, (∀ b ∈ bs, IsOwn b) ∧ run (step req) t bs = some u ∧ P u) :
    ∃ bs u, (∀ b ∈ bs, IsOwn b) ∧ run (step req) s bs = some u ∧ P u := by
  obtain ⟨bs, u, hown, hrun, hu⟩ := h
  exact ⟨b :: bs, u, List.forall_mem_cons.mpr ⟨hb, hown⟩, by rw [run_cons, hstep]; exact hrun, hu⟩

theorem exists_run_followed (hconnected : s.connected = true) (hphase : s.phase = .following)
    (hlag : ¬ s.ring.Lagged req.module s.next) {n : Nat}
    (hn : ((s.history req).drop s.next).length = n) :
    ∃ bs t, (∀ b ∈ bs, IsOwn b) ∧ run (step req) s bs = some t ∧ t.ring = s.ring ∧
      t.delivered = s.delivered ++ (s.history req).drop s.next := by
  induction n generalizing s with
  | zero =>
    rw [List.eq_nil_of_length_eq_zero hn, List.append_nil]
    exact ⟨[], s, List.forall_mem_nil _, rfl, rfl, rfl⟩
  | succ n ih =>
    rw [List.length_drop] at hn
    have hlt : s.next < (s.history req).length := by omega
    -- a line takes two steps, a receive and a send, and then there is one line less to come
    have hrecv : s.step req .recv =
        some { s with phase := .holding (s.history req)[s.next], next := s.next + 1 } := by
      simp [step, hphase, hlag, List.getElem?_eq_getElem hlt]
    let sent : Tailing Line :=
      { s with
        phase := .following, next := s.next + 1
        delivered := s.delivered ++ [(s.history req)[s.next]] }
    have hlag' : ¬ sent.ring.Lagged req.module sent.next := by
      simp only [LogRing.Lagged, sent] at hlag ⊢
      omega
    have hn' : ((sent.history req).drop sent.next).length = n := by
      rw [List.length_drop]
      show (s.history req).length - (s.next + 1) = n
      omega
    refine exists_run_cons hrecv trivial (exists_run_cons (b := .send) (t := sent) ?_ trivial ?_)
    · simp [sent, step, sendLine, hconnected]
    · rw [List.drop_eq_getElem_cons hlt, List.append_cons]
      exact ih (s := sent) hconnected rfl hlag' hn'

theorem exists_run_forwarded (hconnected : s.connected = true)
    (hlag : ¬ s.ring.Lagged req.module s.next) (hphase : s.phase = afterBacklog req rest) :
    ∃ bs t, (∀ b ∈ bs, IsOwn b) ∧ run (step req) s bs = some t ∧ t.ring = s.ring ∧
      t.delivered = s.delivered ++ (rest ++ s.live req) := by
  induction rest generalizing s with
  | nil =>
    rw [List.nil_append, live]
    split_ifs with hfollow
    · rw [afterBacklog, if_pos hfollow] at hphase
      exact exists_run_followed hconnected hphase hlag rfl
    · exact ⟨[], s, List.forall_mem_nil _, rfl, rfl, (List.append_nil _).symm⟩
  | cons e rest ih =>
    rw [List.cons_append, List.append_cons]
    refine exists_run_cons (b := .send) ?_ trivial
      (ih (s := { s with delivered := s.delivered ++ [e], phase := _ }) hconnected hlag rfl)
    rw [step, hphase]
    simp [afterBacklog, sendLine, hconnected]

/-- **What is on its way can be delivered** if the client is there and has not lagged. -/
theorem Inv.exists_run_delivered (h : Inv req s) (hconnected : s.connected = true)
    (hlag : ¬ s.ring.Lagged req.module s.next) (hp : s.pending req = some p) :
    ∃ bs t, (∀ b ∈ bs, IsOwn b) ∧ run (step req) s bs = some t ∧ t.ring = s.ring ∧
      t.delivered = s.expected req := by
  rw [← h.stream p hp]
  have hbacklog : ∀ rest, s.phase = afterBacklog req rest → ∃ bs t, (∀ b ∈ bs, IsOwn b) ∧
      run (step req) s bs = some t ∧ t.ring = s.ring ∧ t.delivered = s.delivered ++ p := by
    intro rest hphase
    cases hp.symm.trans (pending_afterBacklog hphase)
    exact exists_run_forwarded hconnected hlag hphase
  cases hphase : s.phase with
  | forwarding e rest => exact hbacklog (e :: rest) hphase
  | following =>
    have hfollow : req.follow = true := h.follows (by rw [Follows, hphase]; trivial)
    exact hbacklog [] (by rw [hphase, afterBacklog, if_pos hfollow])
  | holding e =>
    have hfollow : req.follow = true := h.follows (by rw [Follows, hphase]; trivial)
    rw [pending, hphase, live, if_pos hfollow, Option.some.injEq] at hp
    rw [← hp, List.append_cons]
    refine exists_run_cons (b := .send)
      (t := { s with delivered := s.delivered ++ [e], phase := .following }) ?_ trivial
      (exists_run_followed hconnected rfl hlag rfl)
    simp [step, hphase, Tailing.sendLine, hconnected]
  | ended why =>
    cases why with
    | done => exact hbacklog [] (by simp [hphase, afterBacklog, h.done hphase])
    | disconnected | lagged => rw [pending, hphase] at hp; cases hp
  | called | refused | accepted | subscribed => rw [pending, hphase] at hp; cases hp

/-! ## What a client receives -/

def appendedTo (source : String) (as : List (TailLabel Line)) : List Line :=
  as.filterMap fun
    | .append other line => if other = source then some line else none
    | .subscribeOther _ | .check | .subscribe | .read | .send | .recv | .disconnect => none

theorem ring_of_step (ht : s.step req a = some t) :
    (∃ source line, a = .append source line ∧ t.ring = s.ring.append source line) ∨
      (∀ source, appendedTo source [a] = []) ∧
        (t.ring = s.ring ∨ ∃ source, t.ring = (s.ring.subscribe source).2) := by
  revert ht
  fun_cases step req s a with first | rintro ⟨⟩ | intro ht
  | case1 source line => exact .inl ⟨source, line, rfl, rfl⟩
  | case2 source => exact .inr ⟨fun _ => rfl, .inr ⟨source, rfl⟩⟩
  | case7 _ _ next ring hring => exact .inr ⟨fun _ => rfl, .inr ⟨req.module, by rw [hring]⟩⟩
  | case12 | case13 =>
    rw [sendLine]
    split_ifs <;> exact .inr ⟨fun _ => rfl, .inl rfl⟩
  | case16 =>
    obtain ⟨e, -, rfl⟩ := Option.map_eq_some_iff.mp ht
    exact .inr ⟨fun _ => rfl, .inl rfl⟩
  | _ => exact .inr ⟨fun _ => rfl, .inl rfl⟩

theorem history_of_step (ht : s.step req a = some t) :
    t.ring.capacity = s.ring.capacity ∧ (t.history req).map LogEntry.line =
      (s.history req).map LogEntry.line ++ appendedTo req.module [a] := by
  obtain ⟨source, line, rfl, hring⟩ | ⟨hnone, hring | ⟨source, hring⟩⟩ := ring_of_step ht
  · rw [history, history, hring]
    refine ⟨rfl, ?_⟩
    by_cases hsource : source = req.module
    · subst hsource
      rw [LogRing.tail_append_self]
      simp [appendedTo]
    · rw [LogRing.sourceEntry_append_of_ne (Ne.symm hsource)]
      simp [appendedTo, hsource]
  · rw [history, history, hring, hnone, List.append_nil]
    exact ⟨rfl, rfl⟩
  · rw [history, history, hring, hnone, List.append_nil, LogRing.sourceEntry_subscribe]
    exact ⟨rfl, rfl⟩

theorem history_of_run {as : List (TailLabel Line)} (h : run (step req) s as = some t) :
    t.ring.capacity = s.ring.capacity ∧ (t.history req).map LogEntry.line =
      (s.history req).map LogEntry.line ++ appendedTo req.module as := by
  induction h using run_induction with
  | nil => exact ⟨rfl, by simp [appendedTo]⟩
  | cons s a u as hu _ ih =>
    obtain ⟨hcapacity, hhistory⟩ := history_of_step hu
    obtain ⟨hcapacity', hhistory'⟩ := ih
    refine ⟨hcapacity'.trans hcapacity, ?_⟩
    rw [hhistory', hhistory, List.append_assoc]
    congr 1
    exact (List.filterMap_append (l := [a])).symm

theorem Inv.cut_of_pending_eq_none (h : Inv req s) (hread : s.HasRead)
    (hp : s.pending req = none) :
    s.phase = .ended .disconnected ∧ s.connected = false ∨ s.phase = .ended .lagged := by
  rw [pending] at hp
  rw [HasRead] at hread
  cases hphase : s.phase with
  | ended why =>
    cases why with
    | done => rw [hphase] at hp; cases hp
    | disconnected => exact .inl ⟨rfl, h.gone hphase⟩
    | lagged => exact .inr rfl
  | forwarding | following | holding => rw [hphase] at hp; cases hp
  | called | refused | accepted | subscribed => rw [hphase] at hread; cases hread

theorem Inv.count_expected_le [DecidableEq Line] (h : Inv req s) (e : LogEntry Line) :
    (s.expected req).count e ≤ 2 := by
  have hnodup : (s.history req).Nodup := h.ring.nodup req.module
  have hheld : ((((s.history req).take s.readAt).rtake s.ring.capacity).rtake req.count).Nodup :=
    ((hnodup.sublist (List.take_sublist _ _)).sublist (List.drop_sublist _ _)).sublist
      (List.drop_sublist _ _)
  have hlive : (if req.follow then (s.history req).drop s.start else []).Nodup := by
    split_ifs
    · exact hnodup.sublist (List.drop_sublist _ _)
    · exact List.nodup_nil
  -- once in what was read, once in what came over the channel: the two overlap, but neither repeats
  rw [expected, List.count_append]
  exact Nat.add_le_add (List.nodup_iff_count_le_one.mp hheld e)
    (List.nodup_iff_count_le_one.mp hlive e)

theorem Inv.source_of_mem_history (h : Inv req s) (he : e ∈ s.history req) :
    e.source = req.module := by
  obtain ⟨i, hi, rfl⟩ := List.mem_iff_getElem.mp he
  exact ((h.ring req.module).2 i _ (List.getElem?_eq_getElem hi)).1

theorem mem_history_of_mem_expected (he : e ∈ s.expected req) :
    e ∈ s.history req := by
  rw [expected, List.mem_append] at he
  obtain he | he := he
  · exact List.mem_of_mem_take (List.mem_of_mem_drop (List.mem_of_mem_drop he))
  · split_ifs at he
    · exact List.mem_of_mem_drop he
    · cases he

end Tailing

open Tailing in
/-- **What a client receives** is a beginning of what it is to get; the rest can be delivered unless
it left or lagged. -/
theorem tailLogs_delivers [DecidableEq Line] {capacity : Nat} (hcap : 1 ≤ capacity)
    (req : TailLogsRequest) {s : Tailing Line} {as : List (TailLabel Line)}
    (h : run (Tailing.step req) (.fresh capacity) as = some s) (hread : s.HasRead) :
    (s.ring.capacity = capacity ∧ (s.history req).map LogEntry.line = appendedTo req.module as ∧
      s.readAt ≤ (s.history req).length ∧ (req.follow = true → s.start ≤ s.readAt)) ∧
    s.delivered <+: s.expected req ∧
    (∀ p, s.pending req = some p → s.delivered ++ p = s.expected req) ∧
    (s.pending req = none →
      s.phase = .ended .disconnected ∧ s.connected = false ∨ s.phase = .ended .lagged) ∧
    (∀ p, s.pending req = some p → s.connected = true → ¬ s.ring.Lagged req.module s.next →
      ∃ bs t, (∀ b ∈ bs, IsOwn b) ∧ run (Tailing.step req) s bs = some t ∧ t.ring = s.ring ∧
        t.delivered = s.expected req) ∧
    (∀ e ∈ s.delivered, e.source = req.module) ∧
    ∀ e, s.delivered.count e ≤ 2 := by
  have hinv : Inv req s := inv_of_run hcap h
  obtain ⟨hcapacity, hhistory⟩ := history_of_run h
  have hdelivered := hinv.delivered hread
  refine ⟨⟨hcapacity, hhistory, (hinv.read hread).1, ?_⟩, hdelivered, hinv.stream, ?_, ?_, ?_, ?_⟩
  · exact fun hfollow => ((hinv.read hread).2 hfollow).1
  · exact hinv.cut_of_pending_eq_none hread
  · exact fun p hp hconnected hlag => hinv.exists_run_delivered hconnected hlag hp
  · intro e he
    exact hinv.source_of_mem_history (mem_history_of_mem_expected (hdelivered.subset he))
  · exact fun e => (hdelivered.sublist.count_le e).trans (hinv.count_expected_le e)

def followDns : TailLogsRequest := ⟨"v1", "dns", 3, true⟩

/-- A line is appended between subscribing and reading, and comes twice. -/
def followedRun : List (TailLabel Nat) :=
  [.append "dns" 0, .append "vpn" 1, .append "dns" 2, .check, .subscribe, .append "dns" 3, .read,
    .append "vpn" 4, .send, .send, .recv, .send, .append "dns" 5, .recv, .send]

theorem isSome_followedRun :
    (run (Tailing.step followDns) (.fresh 2) followedRun).isSome = true := by
  decide +kernel

theorem tailLogs_delivers_followedRun :
    ((run (Tailing.step followDns) (.fresh 2) followedRun).get
      isSome_followedRun).delivered.map LogEntry.line = [2, 3, 3, 5] ∧
    ∀ e, ((run (Tailing.step followDns) (.fresh 2) followedRun).get
      isSome_followedRun).delivered.count e ≤ 2 :=
  ⟨by decide +kernel, (tailLogs_delivers (by decide) followDns
    (Option.some_get isSome_followedRun).symm (by decide +kernel)).2.2.2.2.2.2⟩

end Penguind.Daemon
