import Penguind.Desktop.Action
import Penguind.Foundation.Run

/-!
# The poll loop

A login, or a session found at startup, starts a loop that executes the hub's actions. A logout or
another login cancels it and waits for its end, but for five seconds only.
-/

namespace Penguind.Desktop

open Foundation

def ActionRequest.isDirect (action : ActionRequest) : Bool :=
  action.type ∈ ["signed_binary", "obs_command", "webhook"]

def ActionRequest.isScript (action : ActionRequest) : Bool :=
  action.type ∈ ["bash", "powershell", "python", "lua"]

inductive LoopPhase
  /-- At the `select` between two polls. -/
  | selecting
  /-- A tick was taken; the session is to be locked for the poll. -/
  | ticked
  | polling
  /-- The actions of a poll that are still to be executed. -/
  | batch (rest : List ActionRequest)
  /-- A direct action waits for the session. -/
  | queued (action : ActionRequest) (rest : List ActionRequest)
  /-- A script waits for the decision of the user. -/
  | prompting (action : ActionRequest) (rest : List ActionRequest)
  | running (action : ActionRequest) (rest : List ActionRequest)
  /-- The response to an action is to be posted. -/
  | responding (rest : List ActionRequest)
  | posting (rest : List ActionRequest)
  | ended

inductive LoopLabel
  | tick
  | seeCancelled
  | poll
  /-- The answer to a poll: its actions, or an error. -/
  | polled (actions : Option (List ActionRequest))
  | next
  | execute
  | decide (decision : ApprovalDecision)
  | finish
  | post
  | posted
  | panic

inductive LockUse
  | keeps
  | takes
  | gives
  deriving DecidableEq, Repr

structure Move where
  phase : LoopPhase
  lock : LockUse
  starts : Option ActionRequest

def Move.to (phase : LoopPhase) : Move := ⟨phase, .keeps, none⟩

def LoopPhase.holdsSession : LoopPhase → Bool
  | .polling | .posting _ => true
  | .running action _ => action.isDirect
  | .selecting | .ticked | .batch _ | .queued _ _ | .prompting _ _ | .responding _ | .ended => false

def LoopPhase.inBatch : List ActionRequest → LoopPhase
  | [] => .selecting
  | action :: rest =>
    if action.isDirect then .queued action rest
    else if action.isScript then .prompting action rest
    else .responding rest

def LoopPhase.step (cancelled : Bool) : LoopPhase → LoopLabel → Option Move
  | .selecting, .tick => some (.to .ticked)
  | .selecting, .seeCancelled => if cancelled then some (.to .ended) else none
  | .ticked, .poll => some ⟨.polling, .takes, none⟩
  | .polling, .polled (some actions) => some ⟨.batch actions, .gives, none⟩
  | .polling, .polled none => some ⟨.selecting, .gives, none⟩
  | .batch rest, .next => some (.to (.inBatch rest))
  | .queued action rest, .execute => some ⟨.running action rest, .takes, some action⟩
  | .prompting action rest, .decide .approved => some ⟨.running action rest, .keeps, some action⟩
  | .prompting _ rest, .decide .denied | .prompting _ rest, .decide .timeout =>
    some (.to (.responding rest))
  | .running action rest, .finish =>
    some ⟨.responding rest, if action.isDirect then .gives else .keeps, none⟩
  | .responding rest, .post => some ⟨.posting rest, .takes, none⟩
  | .posting rest, .posted => some ⟨.batch rest, .gives, none⟩
  | .ended, .panic => none
  | phase, .panic => some ⟨.ended, if phase.holdsSession then .gives else .keeps, none⟩
  | _, _ => none

def LoopPhase.isEnded : LoopPhase → Bool
  | .ended => true
  | .selecting | .ticked | .polling | .batch _ | .queued _ _ | .prompting _ _ | .running _ _
  | .responding _ | .posting _ => false

theorem LoopPhase.step_of_isEnded {phase : LoopPhase} (h : phase.isEnded) (cancelled : Bool)
    (lab : LoopLabel) : phase.step cancelled lab = none := by
  cases phase <;> cases h
  cases lab <;> rfl

abbrev LoopId := Nat

structure Loop where
  phase : LoopPhase
  cancelled : Bool

inductive SessionCommand
  | login
  | logout
  deriving DecidableEq, Repr

inductive Critical
  /-- It has cancelled a loop and waits for it. -/
  | waiting (command : SessionCommand) (l : LoopId)
  /-- There is nothing more to wait for. -/
  | cleared (command : SessionCommand)
  /-- A login registers the machine, with the session locked. -/
  | registering
  deriving DecidableEq, Repr

inductive Holder
  | loop (l : LoopId)
  | registering
  /-- A login before it starts its loop, or another command. -/
  | other
  deriving DecidableEq, Repr

/-- `retired` counts, for the statements, the loops that are to be over, and executions they start
are `late`. -/
structure Shell where
  loops : List Loop
  slot : Option LoopId
  critical : Option Critical
  session : Option Holder
  clearing : List Nat
  retired : Nat
  late : List (LoopId × String)

inductive ShellLabel
  /-- A command takes the lock and the handle. -/
  | enter (command : SessionCommand)
  /-- The loop that is waited for has ended. -/
  | joined
  /-- The wait has taken five seconds. -/
  | gaveUp
  /-- A logout gives back the lock. -/
  | leave
  | register
  /-- A login fails to create its executor or to register. -/
  | fail
  | spawn
  /-- A logout clears the session and returns. -/
  | clear (n : Nat)
  | lockSession
  | unlockSession
  | loop (l : LoopId) (lab : LoopLabel)

namespace Shell

def new : Shell := ⟨[], none, none, none, [], 0, []⟩

variable (s : Shell)

def cancel (l : LoopId) : Shell :=
  { s with loops := s.loops.modify l fun lp => { lp with cancelled := true } }

def enter (command : SessionCommand) : Shell :=
  match s.slot with
  | some l => { s.cancel l with slot := none, critical := some (.waiting command l) }
  | none => { s with critical := some (.cleared command) }

def spawn : Shell :=
  { s with
    loops := s.loops ++ [⟨.selecting, false⟩]
    slot := some s.loops.length
    critical := none
    session := none
    retired := s.loops.length }

def lockAfter (l : LoopId) : LockUse → Option (Option Holder)
  | .keeps => some s.session
  | .takes => if s.session = none then some (some (.loop l)) else none
  | .gives => some none

def noteStart (l : LoopId) : Option ActionRequest → List (LoopId × String)
  | some action => if l < s.retired then s.late ++ [(l, action.id)] else s.late
  | none => s.late

def stepLoop (l : LoopId) (lab : LoopLabel) : Option Shell :=
  match s.loops[l]? with
  | none => none
  | some lp =>
    match lp.phase.step lp.cancelled lab with
    | none => none
    | some m => (s.lockAfter l m.lock).map fun session =>
        { s with
          loops := s.loops.set l { lp with phase := m.phase }
          session := session
          late := s.noteStart l m.starts }

def hasEnded (l : LoopId) : Bool := (s.loops[l]?).all fun lp => lp.phase.isEnded

def step : ShellLabel → Option Shell
  | .enter command => if s.critical = none then some (s.enter command) else none
  | .joined =>
    match s.critical with
    | some (.waiting command l) =>
      if s.hasEnded l then some { s with critical := some (.cleared command) } else none
    | _ => none
  | .gaveUp =>
    match s.critical with
    | some (.waiting command _) => some { s with critical := some (.cleared command) }
    | _ => none
  | .leave =>
    match s.critical with
    | some (.cleared .logout) =>
      some { s with critical := none, clearing := s.loops.length :: s.clearing }
    | _ => none
  | .register =>
    match s.critical, s.session with
    | some (.cleared .login), none =>
      some { s with critical := some .registering, session := some .registering }
    | _, _ => none
  | .fail =>
    match s.critical with
    | some (.cleared .login) => some { s with critical := none }
    | some .registering => some { s with critical := none, session := none }
    | _ => none
  | .spawn => if s.critical = some .registering then some s.spawn else none
  | .clear n =>
    if n ∈ s.clearing ∧ s.session = none then
      some { s with clearing := s.clearing.erase n, retired := max s.retired n }
    else none
  | .lockSession => if s.session = none then some { s with session := some .other } else none
  | .unlockSession => if s.session = some .other then some { s with session := none } else none
  | .loop l lab => s.stepLoop l lab

end Shell

def WaitsForEnd (s : Shell) : ShellLabel → Prop
  | .gaveUp => ∀ command l, s.critical = some (.waiting command l) → s.hasEnded l
  | _ => True

section

variable {s t : Shell} {l l' : LoopId}

theorem stepLoop_eq_some {lab : LoopLabel} (h : s.stepLoop l lab = some t) :
    ∃ (lp : Loop) (m : Move) (session : Option Holder), s.loops[l]? = some lp ∧
      ¬ s.hasEnded l ∧ t = { s with
        loops := s.loops.set l { lp with phase := m.phase }
        session := session
        late := s.noteStart l m.starts } := by
  revert h
  fun_cases Shell.stepLoop s l lab with intro h
  | case1 | case2 => cases h
  | case3 lp hlp m hm =>
    obtain ⟨session, -, rfl⟩ := Option.map_eq_some_iff.mp h
    refine ⟨lp, m, session, hlp, fun hended => ?_, rfl⟩
    rw [Shell.hasEnded, hlp] at hended
    rw [LoopPhase.step_of_isEnded hended] at hm
    cases hm

@[simp] theorem hasEnded_cancel : (s.cancel l).hasEnded l' = s.hasEnded l' := by
  simp only [Shell.hasEnded, Shell.cancel, List.getElem?_modify]
  split <;> cases s.loops[l']? <;> rfl

theorem hasEnded_set {lp : Loop} {x : Shell} (hx : x.loops = s.loops.set l lp) (h : l' ≠ l) :
    x.hasEnded l' = s.hasEnded l' := by
  rw [Shell.hasEnded, hx, List.getElem?_set_ne h.symm, Shell.hasEnded]

theorem hasEnded_spawn (h : l < s.loops.length) : s.spawn.hasEnded l = s.hasEnded l := by
  simp only [Shell.hasEnded, Shell.spawn, List.getElem?_append_left h]

theorem hasEnded_of_length_le (h : s.loops.length ≤ l) : s.hasEnded l := by
  simp [Shell.hasEnded, h]

end

/-- Only the loop in the slot and the one that is waited for may be running. -/
structure LoopsInOrder (s : Shell) : Prop where
  live : ∀ l, ¬ s.hasEnded l →
    s.slot = some l ∨ ∃ command, s.critical = some (.waiting command l)
  slot : s.critical.isSome → s.slot = none
  clearing : ∀ n ∈ s.clearing, n ≤ s.loops.length ∧ ∀ l < n, s.hasEnded l
  retired : s.retired ≤ s.loops.length ∧ ∀ l < s.retired, s.hasEnded l
  late : s.late = []

variable {s t : Shell} {a : ShellLabel}

theorem LoopsInOrder.hasEnded (h : LoopsInOrder s) (hcrit : s.critical.isSome)
    (hwait : ∀ command l, s.critical ≠ some (.waiting command l)) (l : LoopId) : s.hasEnded l := by
  by_contra hl
  rcases h.live l hl with hslot | ⟨command, hc⟩
  · rw [h.slot hcrit] at hslot
    cases hslot
  · exact hwait command l hc

theorem loopsInOrder_new : LoopsInOrder Shell.new where
  live _ h := absurd rfl h
  slot h := by cases h
  clearing _ h := by cases h
  retired := ⟨Nat.le_refl _, fun _ h => absurd h (Nat.not_lt_zero _)⟩
  late := rfl

variable (h : LoopsInOrder s)
include h

theorem LoopsInOrder.enter (hcrit : s.critical = none) (command : SessionCommand) :
    LoopsInOrder (s.enter command) := by
  have hlive : ∀ l, ¬ s.hasEnded l → s.slot = some l := by
    intro l hl
    rcases h.live l hl with hl | ⟨command, hl⟩
    · exact hl
    · rw [hcrit] at hl
      cases hl
  unfold Shell.enter
  split
  next l₀ hslot =>
    have hended : ∀ l, Shell.hasEnded
        { s.cancel l₀ with slot := none, critical := some (.waiting command l₀) } l =
          s.hasEnded l := fun l => hasEnded_cancel
    have hlength : (s.cancel l₀).loops.length = s.loops.length := List.length_modify _ _ _
    refine ⟨fun l hl => ?_, fun _ => rfl, fun n hn => ?_, ?_, h.late⟩
    · rw [hended] at hl
      cases hslot.symm.trans (hlive l hl)
      exact .inr ⟨command, rfl⟩
    · simp only [hended, hlength]
      exact h.clearing n hn
    · simp only [hended, hlength]
      exact h.retired
  next hslot =>
    refine ⟨fun l hl => ?_, fun _ => hslot, h.clearing, h.retired, h.late⟩
    rw [hlive l hl] at hslot
    cases hslot

theorem LoopsInOrder.cleared {command : SessionCommand} {l₀ : LoopId}
    (hcrit : s.critical = some (.waiting command l₀)) (hended : s.hasEnded l₀) :
    LoopsInOrder { s with critical := some (.cleared command) } := by
  refine ⟨fun l hl => ?_, fun _ => h.slot (by simp [hcrit]), h.clearing, h.retired, h.late⟩
  rcases h.live l hl with hl' | ⟨command', hl'⟩
  · exact .inl hl'
  · cases hcrit.symm.trans hl'
    exact absurd hended hl

theorem LoopsInOrder.of_cleared (hcrit : s.critical.isSome)
    (hwait : ∀ command l, s.critical ≠ some (.waiting command l)) {critical : Option Critical}
    {session : Option Holder} {clearing : List Nat}
    (hclearing : ∀ n ∈ clearing, n ∈ s.clearing ∨ n = s.loops.length) :
    LoopsInOrder { s with critical := critical, session := session, clearing := clearing } where
  live l hl := absurd (h.hasEnded hcrit hwait l) hl
  slot _ := h.slot hcrit
  clearing n hn := by
    rcases hclearing n hn with hn | rfl
    · exact h.clearing n hn
    · exact ⟨Nat.le_refl _, fun l _ => h.hasEnded hcrit hwait l⟩
  retired := h.retired
  late := h.late

theorem LoopsInOrder.spawn (hcrit : s.critical = some .registering) : LoopsInOrder s.spawn := by
  have hended := h.hasEnded (by simp [hcrit]) (by simp [hcrit])
  have hall : ∀ l < s.loops.length, s.spawn.hasEnded l := fun l hl => by
    rw [hasEnded_spawn hl]
    exact hended l
  have hlength : s.spawn.loops.length = s.loops.length + 1 := by simp [Shell.spawn]
  refine ⟨fun l hl => .inl ?_, fun hcrit => absurd hcrit (by simp [Shell.spawn]), fun n hn => ?_,
    ?_, h.late⟩
  · -- only the new loop has not ended
    have hlt : ¬ l < s.loops.length := fun hlt => hl (hall l hlt)
    have hge : ¬ s.spawn.loops.length ≤ l := fun hge => hl (hasEnded_of_length_le hge)
    rw [hlength, Nat.not_le, Nat.lt_succ_iff] at hge
    exact congrArg some (Nat.le_antisymm (Nat.le_of_not_lt hlt) hge)
  · obtain ⟨hn, -⟩ := h.clearing n hn
    exact ⟨by omega, fun l hl => hall l (by omega)⟩
  · exact ⟨by show s.loops.length ≤ _; omega, fun l hl => hall l hl⟩

theorem LoopsInOrder.clear {n : Nat} (hn : n ∈ s.clearing) :
    LoopsInOrder { s with clearing := s.clearing.erase n, retired := max s.retired n } where
  live := h.live
  slot := h.slot
  clearing m hm := h.clearing m (List.mem_of_mem_erase hm)
  retired := by
    obtain ⟨hle, hended⟩ := h.clearing n hn
    refine ⟨Nat.max_le.mpr ⟨h.retired.1, hle⟩, fun l hl => ?_⟩
    rcases Nat.le_total s.retired n with hmax | hmax
    · rw [Nat.max_eq_right hmax] at hl
      exact hended l hl
    · rw [Nat.max_eq_left hmax] at hl
      exact h.retired.2 l hl
  late := h.late

theorem LoopsInOrder.stepLoop {l : LoopId} {lab : LoopLabel} (hstep : s.stepLoop l lab = some t) :
    LoopsInOrder t := by
  obtain ⟨lp, m, session, hlp, hrunning, rfl⟩ := stepLoop_eq_some hstep
  have hother : ∀ n, (∀ l' < n, s.hasEnded l') → ∀ l' < n, Shell.hasEnded
      { s with
        loops := s.loops.set l { lp with phase := m.phase }
        session := session
        late := s.noteStart l m.starts } l' := by
    intro n hn l' hl'
    have hne : l' ≠ l := by
      rintro rfl
      exact hrunning (hn l' hl')
    rw [hasEnded_set rfl hne]
    exact hn l' hl'
  refine ⟨fun l' hl' => ?_, h.slot, fun n hn => ?_, ?_, ?_⟩
  · by_cases hne : l' = l
    · exact hne ▸ h.live l hrunning
    · rw [hasEnded_set rfl hne] at hl'
      exact h.live l' hl'
  · rw [List.length_set]
    exact ⟨(h.clearing n hn).1, hother n (h.clearing n hn).2⟩
  · rw [List.length_set]
    exact ⟨h.retired.1, hother _ h.retired.2⟩
  · have hretired : ¬ l < s.retired := fun hl => hrunning (h.retired.2 l hl)
    cases hm : m.starts <;> simp [Shell.noteStart, hretired, h.late]

omit h

theorem loopsInOrder_step (h : LoopsInOrder s) (hc : WaitsForEnd s a) (hstep : s.step a = some t) :
    LoopsInOrder t := by
  revert hstep
  fun_cases Shell.step s a with first | rintro ⟨⟩ | intro hstep
  | case1 command hcrit => exact h.enter hcrit command
  | case3 command l hcrit hended => exact h.cleared hcrit hended
  | case6 command l hcrit => exact h.cleared hcrit (hc command l hcrit)
  | case8 hcrit =>
    refine h.of_cleared (by simp [hcrit]) (by simp [hcrit]) fun n hn => ?_
    exact (List.mem_cons.mp hn).symm
  | case10 _ hcrit | case12 hcrit | case13 hcrit =>
    exact h.of_cleared (by simp [hcrit]) (by simp [hcrit]) fun n hn => .inl hn
  | case15 hcrit => exact h.spawn hcrit
  | case17 n hn => exact h.clear hn.1
  | case19 | case21 => exact ⟨h.live, h.slot, h.clearing, h.retired, h.late⟩
  | case23 l lab => exact h.stepLoop hstep

/-- **Nothing is executed late** if no wait for a loop is given up. -/
theorem no_late_execution {as : List ShellLabel}
    (hC : Along Shell.step WaitsForEnd Shell.new as) (hr : run Shell.step Shell.new as = some t) :
    t.late = [] :=
  (run_invariant (fun _ _ _ => loopsInOrder_step) loopsInOrder_new hC hr).late

def exampleScript (id : String) : ActionRequest := ⟨id, "bash", .null, "user", "community", 60⟩

def signIn : List ShellLabel := [.register, .spawn]

def twoScripts : List ShellLabel :=
  [.loop 0 .tick, .loop 0 .poll,
    .loop 0 (.polled (some [exampleScript "first", exampleScript "second"])), .loop 0 .next]

def approveAndPost : List ShellLabel :=
  [.loop 0 (.decide .approved), .loop 0 .finish, .loop 0 .post, .loop 0 .posted, .loop 0 .next]

def patientLogout : List ShellLabel :=
  .enter .login :: signIn ++ twoScripts ++ .enter .logout :: approveAndPost ++ approveAndPost ++
    [.loop 0 .seeCancelled, .joined, .leave, .clear 1]

instance (s : Shell) : ∀ a, Decidable (WaitsForEnd s a)
  | .gaveUp =>
    match h : s.critical with
    | some (.waiting command l) =>
      decidable_of_iff (s.hasEnded l) ⟨fun hl command' l' h' => by cases h ▸ h'; exact hl,
        fun hl => hl command l h⟩
    | some (.cleared _) | some .registering | none => .isTrue fun _ _ h' => by cases h ▸ h'
  | .enter _ | .joined | .leave | .register | .fail | .spawn | .clear _ | .lockSession
  | .unlockSession | .loop _ _ => .isTrue trivial

theorem patientLogout_not_late : ∃ t, run Shell.step Shell.new patientLogout = some t ∧
    t.retired = 1 ∧ t.late = [] := by
  have hr := (Option.some_get (x := run Shell.step .new patientLogout) (by decide +kernel)).symm
  exact ⟨_, hr, by decide +kernel, no_late_execution (by decide +kernel) hr⟩

/-- **Loops that were left run on**, also beside the loop of a second login. -/
theorem late_executions :
    ((run Shell.step Shell.new (.enter .login :: signIn ++ twoScripts ++
        [.enter .logout, .gaveUp, .leave, .clear 1] ++ approveAndPost ++ approveAndPost)).map
          Shell.late = some [(0, "first"), (0, "second")]) ∧
      ((run Shell.step Shell.new (.enter .login :: signIn ++ twoScripts ++
        [.enter .login, .gaveUp] ++ signIn ++ approveAndPost ++ approveAndPost)).map
          Shell.late = some [(0, "first"), (0, "second")]) := by
  decide +kernel

end Penguind.Desktop
