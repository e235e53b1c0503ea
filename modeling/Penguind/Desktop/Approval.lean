import Penguind.Desktop.Action
import Penguind.Foundation.Oneshot
import Penguind.Foundation.Run

/-!
# Approval prompts

A prompt stores the sending end of a fresh channel under the id of its action, in a map that all
prompts share, and waits for a value. A response takes the entry of its id and sends the decision.
-/

namespace Penguind.Desktop

open Foundation

/-- In the order in which they are opened. -/
abbrev PromptId := Nat

/-- The number of the event is kept for the statements. -/
structure Response where
  event : PromptId
  approved : Bool
  deriving DecidableEq, Repr

inductive PromptPhase
  /-- The sender is stored; the event is still to be emitted. -/
  | stored
  | waiting
  /-- The result is known; the entry is still to be removed. -/
  | ending (decision : ApprovalDecision) (cause : Option Response)
  | returned (decision : ApprovalDecision) (cause : Option Response)
  deriving DecidableEq, Repr

structure Prompt where
  action : PendingAction
  phase : PromptPhase
  channel : Oneshot Response
  /-- Whether the event that shows the action has been emitted. -/
  displayed : Bool
  deriving DecidableEq, Repr

def Prompt.hasReturned (pr : Prompt) : Bool :=
  match pr.phase with
  | .stored | .waiting | .ending _ _ => false
  | .returned _ _ => true

structure Removal where
  remover : PromptId
  entry : PromptId
  deriving DecidableEq, Repr

/-- The removals are kept for the statements. -/
structure Approvals where
  pending : String → Option PromptId
  prompts : List Prompt
  removals : List Removal

inductive ApprovalLabel
  /-- Opens a prompt: creates its channel and stores the sender. -/
  | ask (action : PendingAction)
  /-- Emits the event of a prompt, which may fail. -/
  | emit (p : PromptId) (succeeds : Bool)
  /-- A waiting prompt finds a value in its channel, or the sender gone. -/
  | receive (p : PromptId)
  | expire (p : PromptId)
  /-- Removes the entry of the prompt's id and returns. -/
  | cleanUp (p : PromptId)
  /-- The user responds to the event of a prompt. -/
  | respond (event : PromptId) (approved : Bool)
  deriving DecidableEq, Repr

namespace Approvals

def new : Approvals := ⟨fun _ => none, [], []⟩

variable (s : Approvals)

def update (p : PromptId) (f : Prompt → Prompt) : Approvals :=
  { s with prompts := s.prompts.modify p f }

def setPhase (p : PromptId) (phase : PromptPhase) : Approvals :=
  s.update p fun pr => { pr with phase := phase }

def setChannel (p : PromptId) (f : Oneshot Response → Oneshot Response) : Approvals :=
  s.update p fun pr => { pr with channel := f pr.channel }

def insertEntry (id : String) (p : PromptId) : Approvals :=
  { s with pending := Function.update s.pending id (some p) }

def eraseEntry (id : String) : Approvals :=
  { s with pending := Function.update s.pending id none }

def add (action : PendingAction) : Approvals :=
  { s with prompts := s.prompts ++ [⟨action, .stored, .empty, false⟩] }

def dropEntry (id : String) : Approvals :=
  match s.pending id with
  | some q => s.setChannel q Oneshot.dropSender
  | none => s

def noteRemoval (p : PromptId) (id : String) : Approvals :=
  { s with removals := s.removals ++ ((s.pending id).map (Removal.mk p)).toList }

def ask (action : PendingAction) : Approvals :=
  ((s.dropEntry action.id).add action).insertEntry action.id s.prompts.length

def emit (p : PromptId) (succeeds : Bool) : Approvals :=
  if succeeds then s.update p fun pr => { pr with phase := .waiting, displayed := true }
  else s.setPhase p (.ending .timeout none)

def decision (approved : Bool) : ApprovalDecision := if approved then .approved else .denied

def cleanUp (p : PromptId) (pr : Prompt) (decision : ApprovalDecision)
    (cause : Option Response) : Approvals :=
  (((s.noteRemoval p pr.action.id).dropEntry pr.action.id).eraseEntry pr.action.id).setPhase p
    (.returned decision cause)

def respondToApproval (actionId : String) (response : Response) : Approvals :=
  match s.pending actionId with
  -- The sender found under the id is used, whichever prompt has stored it.
  | some q => (s.eraseEntry actionId).setChannel q (Oneshot.send response)
  | none => s

def step : ApprovalLabel → Option Approvals
  | .ask action => some (s.ask action)
  | .emit p succeeds =>
    match s.prompts[p]? with
    | some ⟨_, .stored, _, _⟩ => some (s.emit p succeeds)
    | _ => none
  | .receive p =>
    match s.prompts[p]? with
    | some ⟨_, .waiting, .sent response, _⟩ =>
      some (s.setPhase p (.ending (decision response.approved) (some response)))
    | some ⟨_, .waiting, .dropped, _⟩ => some (s.setPhase p (.ending .timeout none))
    | _ => none
  | .expire p =>
    match s.prompts[p]? with
    -- a value that has arrived by the deadline is taken first
    | some ⟨_, .waiting, .empty, _⟩ =>
      some ((s.setChannel p fun _ => .closed).setPhase p (.ending .timeout none))
    | _ => none
  | .cleanUp p =>
    match s.prompts[p]? with
    | some pr =>
      match pr.phase with
      | .ending decision cause => some (s.cleanUp p pr decision cause)
      | .stored | .waiting | .returned _ _ => none
    | none => none
  | .respond event approved =>
    match s.prompts[event]? with
    | some pr =>
      -- An event stays on the screen, so a response may come long after its prompt has returned.
      if pr.displayed then some (s.respondToApproval pr.action.id ⟨event, approved⟩) else none
    | none => none

end Approvals

def ApprovedByOwnEvent (s : Approvals) : Prop :=
  ∀ (p : PromptId) (pr : Prompt) (cause : Option Response), s.prompts[p]? = some pr →
    pr.phase = .returned .approved cause →
    ∃ response, cause = some response ∧ response.event = p ∧ response.approved = true

def RemovesOwnEntry (s : Approvals) : Prop :=
  ∀ x ∈ s.removals, x.entry = x.remover

/-- Prompts with one id do not overlap, and only the last one is approved. -/
def IdsApart (s : Approvals) : ApprovalLabel → Prop
  | .ask action => ∀ pr ∈ s.prompts, pr.action.id = action.id → pr.hasReturned = true
  | .respond event approved =>
    approved = true → ∀ pr ∈ s.prompts[event]?, ∀ later ∈ s.prompts.drop (event + 1),
      later.action.id ≠ pr.action.id
  | .emit _ _ | .receive _ | .expire _ | .cleanUp _ => True

instance (s : Approvals) : ∀ a, Decidable (IdsApart s a)
  | .ask _ => inferInstanceAs (Decidable (∀ pr ∈ s.prompts, _))
  | .respond _ _ => inferInstanceAs (Decidable (_ → ∀ pr ∈ s.prompts[_]?, _))
  | .emit _ _ | .receive _ | .expire _ | .cleanUp _ => .isTrue trivial

def Caused (p : PromptId) (decision : ApprovalDecision) (cause : Option Response) : Prop :=
  decision = .approved → ∃ response, cause = some response ∧ response.event = p ∧
    response.approved = true

/-- Positive responses were given to the prompt's own event. -/
structure Prompt.Owned (p : PromptId) (pr : Prompt) : Prop where
  channel : ∀ response, pr.channel = .sent response → response.approved = true →
    response.event = p
  ending : ∀ decision cause, pr.phase = .ending decision cause → Caused p decision cause
  returned : ∀ decision cause, pr.phase = .returned decision cause → Caused p decision cause

/-- Entries belong to prompts that have not returned, at most one of which has the id. -/
structure Orderly (s : Approvals) : Prop where
  entry : ∀ (id : String) (q : PromptId), s.pending id = some q →
    ∃ pr, s.prompts[q]? = some pr ∧ pr.action.id = id ∧ pr.hasReturned = false
  unique : ∀ (p q : PromptId) (pr qr : Prompt), p < q → s.prompts[p]? = some pr →
    s.prompts[q]? = some qr → pr.action.id = qr.action.id → pr.hasReturned = true
  owned : ∀ (p : PromptId) (pr : Prompt), s.prompts[p]? = some pr → pr.Owned p
  removals : RemovesOwnEntry s

namespace Approvals

variable {s : Approvals} {p k : PromptId} {f : Prompt → Prompt} {pr : Prompt}

theorem getElem?_update :
    (s.update p f).prompts[k]? = some pr ↔
      ∃ old, s.prompts[k]? = some old ∧ pr = if p = k then f old else old := by
  rw [update, List.getElem?_modify]
  cases h : s.prompts[k]? with
  | none => simp
  | some old =>
    by_cases hk : p = k <;> simp [hk, eq_comm]

theorem getElem?_add {action : PendingAction} (h : (s.add action).prompts[k]? = some pr) :
    s.prompts[k]? = some pr ∨
      k = s.prompts.length ∧ pr = ⟨action, .stored, .empty, false⟩ := by
  have h : (s.prompts ++ [⟨action, .stored, .empty, false⟩])[k]? = some pr := h
  rw [List.getElem?_append] at h
  split at h
  next => exact .inl h
  next hge =>
    rw [List.getElem?_singleton, Option.ite_none_right_eq_some] at h
    obtain ⟨hk, hpr⟩ := h
    cases hpr
    exact .inr ⟨Nat.le_antisymm (Nat.sub_eq_zero_iff_le.mp hk) (Nat.le_of_not_lt hge), rfl⟩

theorem pending_eraseEntry (id id' : String) :
    (s.eraseEntry id).pending id' = if id' = id then none else s.pending id' :=
  Function.update_apply s.pending id none id'

@[simp] theorem pending_dropEntry (id : String) : (s.dropEntry id).pending = s.pending := by
  unfold dropEntry
  split <;> rfl

end Approvals

namespace Orderly

variable {s : Approvals} {p : PromptId} {f : Prompt → Prompt} {pr : Prompt} {id : String}

variable (h : Orderly s)
include h

theorem eq_of_id_eq {q : PromptId} {qr : Prompt} (hp : s.prompts[p]? = some pr)
    (hq : s.prompts[q]? = some qr) (hid : pr.action.id = qr.action.id)
    (hpr : pr.hasReturned = false) (hqr : qr.hasReturned = false) : p = q := by
  rcases Nat.lt_trichotomy p q with hlt | heq | hgt
  · have := h.unique p q pr qr hlt hp hq hid
    rw [hpr] at this
    cases this
  · exact heq
  · have := h.unique q p qr pr hgt hq hp hid.symm
    rw [hqr] at this
    cases this

theorem entry_eq {q : PromptId} (hp : s.prompts[p]? = some pr) (hpr : pr.hasReturned = false)
    (hq : s.pending pr.action.id = some q) : q = p := by
  obtain ⟨qr, hqr, hid, hret⟩ := h.entry _ _ hq
  exact h.eq_of_id_eq hqr hp hid hret hpr

/-- A prompt may change if what it receives and returns is its own. -/
theorem update (hact : ∀ pr, (f pr).action = pr.action)
    (hstay : ∀ pr, s.prompts[p]? = some pr → pr.hasReturned = true → (f pr).hasReturned = true)
    (hret : ∀ pr, s.prompts[p]? = some pr → (f pr).hasReturned = true →
      pr.hasReturned = true ∨ ∀ id, s.pending id ≠ some p)
    (hown : ∀ pr, s.prompts[p]? = some pr → pr.Owned p → (f pr).Owned p) :
    Orderly (s.update p f) where
  entry id q hq := by
    obtain ⟨qr, hqr, hid, hnot⟩ := h.entry id q hq
    refine ⟨_, Approvals.getElem?_update.mpr ⟨qr, hqr, rfl⟩, ?_⟩
    by_cases hpq : p = q
    · subst hpq
      rw [if_pos rfl, hact]
      refine ⟨hid, ?_⟩
      by_contra hf
      rw [Bool.not_eq_false] at hf
      rcases hret qr hqr hf with hr | hno
      · rw [hnot] at hr
        cases hr
      · exact hno id hq
    · rw [if_neg hpq]
      exact ⟨hid, hnot⟩
  unique a b ar br hab ha hb hid := by
    obtain ⟨ar', har, rfl⟩ := Approvals.getElem?_update.mp ha
    obtain ⟨br', hbr, rfl⟩ := Approvals.getElem?_update.mp hb
    have hsame : ∀ (k : PromptId) (kr : Prompt),
        (if p = k then f kr else kr).action = kr.action := by
      intro k kr
      split_ifs <;> simp [hact]
    rw [hsame, hsame] at hid
    have hr := h.unique a b ar' br' hab har hbr hid
    split
    next hpa => subst hpa; exact hstay ar' har hr
    next => exact hr
  owned k kr hk := by
    obtain ⟨old, hold, rfl⟩ := Approvals.getElem?_update.mp hk
    split
    next hpk => subst hpk; exact hown old hold (h.owned _ old hold)
    next => exact h.owned k old hold
  removals := h.removals

theorem setPhase {phase : PromptPhase} {displayed : Prompt → Bool} (hp : s.prompts[p]? = some pr)
    (hpr : pr.hasReturned = false) (hphase : ∀ decision cause, phase ≠ .returned decision cause)
    (hcause : ∀ decision cause, phase = .ending decision cause → Caused p decision cause) :
    Orderly (s.update p fun pr => { pr with phase := phase, displayed := displayed pr }) := by
  have hnot : ∀ pr' : Prompt,
      ({ pr' with phase := phase, displayed := displayed pr' } : Prompt).hasReturned = false := by
    intro pr'
    cases phase with
    | stored | waiting | ending => rfl
    | returned decision cause => exact absurd rfl (hphase decision cause)
  -- It had not returned and does not return now, so only the cause of its result matters.
  refine h.update (fun _ => rfl) ?_ ?_ ?_
  · intro pr' hp' hr
    cases hp.symm.trans hp'
    rw [hpr] at hr
    cases hr
  · intro pr' _ hr
    rw [hnot] at hr
    cases hr
  · intro pr' _ ho
    exact ⟨ho.channel, hcause, fun decision cause hr => absurd hr (hphase decision cause)⟩

theorem setChannel {g : Oneshot Response → Oneshot Response}
    (hg : ∀ pr, s.prompts[p]? = some pr → pr.Owned p → ∀ response,
      g pr.channel = .sent response → response.approved = true → response.event = p) :
    Orderly (s.setChannel p g) := by
  refine h.update (fun _ => rfl) (fun _ _ hr => hr) (fun _ _ hr => .inl hr) ?_
  intro pr hp ho
  exact ⟨hg pr hp ho, ho.ending, ho.returned⟩

theorem dropEntry (id : String) : Orderly (s.dropEntry id) := by
  unfold Approvals.dropEntry
  cases s.pending id with
  | none => exact h
  | some q =>
    -- Dropping a sender puts no value into the channel.
    refine h.setChannel fun pr _ ho response hr => ?_
    exact ho.channel response (Oneshot.sent_of_dropSender hr)

theorem eraseEntry (id : String) : Orderly (s.eraseEntry id) where
  entry id' q hq := by
    rw [Approvals.pending_eraseEntry, Option.ite_none_left_eq_some] at hq
    exact h.entry id' q hq.2
  unique := h.unique
  owned := h.owned
  removals := h.removals

theorem noteRemoval (hq : ∀ q, s.pending id = some q → q = p) : Orderly (s.noteRemoval p id) where
  entry := h.entry
  unique := h.unique
  owned := h.owned
  removals x hx := by
    rcases List.mem_append.mp hx with hx | hx
    · exact h.removals x hx
    · rw [Option.mem_toList, Option.map_eq_some_iff] at hx
      obtain ⟨q, hpend, rfl⟩ := hx
      exact hq q hpend

theorem ask (action : PendingAction)
    (hfree : ∀ pr ∈ s.prompts, pr.action.id = action.id → pr.hasReturned = true) :
    Orderly (s.ask action) := by
  -- no entry is replaced, since an entry belongs to a prompt that has not returned
  have hnone : s.pending action.id = none := by
    by_contra hsome
    obtain ⟨q, hq⟩ := Option.ne_none_iff_exists'.mp hsome
    obtain ⟨qr, hqr, hid, hnot⟩ := h.entry _ _ hq
    rw [hfree qr (List.mem_of_getElem? hqr) hid] at hnot
    cases hnot
  have hask : s.ask action = (s.add action).insertEntry action.id s.prompts.length := by
    rw [Approvals.ask, Approvals.dropEntry, hnone]
  have hold : ∀ (k : PromptId) (pr : Prompt), s.prompts[k]? = some pr →
      (s.add action).prompts[k]? = some pr := by
    intro k pr hk
    obtain ⟨hlt, -⟩ := List.getElem?_eq_some_iff.mp hk
    exact (List.getElem?_append_left hlt).trans hk
  rw [hask]
  refine ⟨?_, ?_, ?_, h.removals⟩
  · intro id q hq
    simp only [Approvals.insertEntry, Function.update_apply] at hq
    split at hq
    next hid =>
      cases hq
      exact ⟨_, List.getElem?_concat_length, hid.symm, rfl⟩
    next =>
      obtain ⟨qr, hqr, hid, hnot⟩ := h.entry id q hq
      exact ⟨qr, hold q qr hqr, hid, hnot⟩
  · intro a b ar br hab ha hb hid
    rcases Approvals.getElem?_add ha with ha | ⟨rfl, rfl⟩
    · rcases Approvals.getElem?_add hb with hb | ⟨rfl, rfl⟩
      · exact h.unique a b ar br hab ha hb hid
      · exact hfree ar (List.mem_of_getElem? ha) hid
    · -- nothing comes after the new prompt
      rcases Approvals.getElem?_add hb with hb | ⟨rfl, -⟩
      · obtain ⟨hlt, -⟩ := List.getElem?_eq_some_iff.mp hb
        exact absurd hlt (Nat.lt_asymm hab)
      · exact absurd hab (Nat.lt_irrefl _)
  · intro k kr hk
    rcases Approvals.getElem?_add hk with hk | ⟨rfl, rfl⟩
    · exact h.owned k kr hk
    · exact ⟨nofun, nofun, nofun⟩

theorem cleanUp {decision : ApprovalDecision} {cause : Option Response}
    (hp : s.prompts[p]? = some pr) (hphase : pr.phase = .ending decision cause) :
    Orderly (s.cleanUp p pr decision cause) := by
  have hnot : pr.hasReturned = false := by
    unfold Prompt.hasReturned
    rw [hphase]
  have hcause : Caused p decision cause := (h.owned p pr hp).ending decision cause hphase
  have hown : ∀ q, s.pending pr.action.id = some q → q = p := fun q hq => h.entry_eq hp hnot hq
  have herased := ((h.noteRemoval hown).dropEntry pr.action.id).eraseEntry pr.action.id
  refine herased.update (fun _ => rfl) (fun _ _ _ => rfl) (fun pr' hp' _ => .inr ?_) ?_
  · -- its entry could only be under its id, and that one has been erased
    intro id hid
    rw [Approvals.pending_eraseEntry, Option.ite_none_left_eq_some] at hid
    obtain ⟨hne, hentry⟩ := hid
    rw [Approvals.pending_dropEntry] at hentry
    obtain ⟨pr'', hpr'', hid, -⟩ := h.entry id p hentry
    cases hp.symm.trans hpr''
    exact hne hid.symm
  · intro pr' _ ho
    refine ⟨ho.channel, nofun, ?_⟩
    rintro _ _ ⟨⟩
    exact hcause

theorem respondToApproval {approved : Bool} (hp : s.prompts[p]? = some pr)
    (hlate : approved = true → ∀ later ∈ s.prompts.drop (p + 1), later.action.id ≠ pr.action.id) :
    Orderly (s.respondToApproval pr.action.id ⟨p, approved⟩) := by
  unfold Approvals.respondToApproval
  cases hq : s.pending pr.action.id with
  | none => exact h
  | some q =>
    refine (h.eraseEntry pr.action.id).setChannel fun qr _ ho response hr happ => ?_
    rcases Oneshot.sent_of_send hr with rfl | hbefore
    · -- the prompt with the entry is not later than the event, and not earlier either
      obtain ⟨qr', hqr', hid, hnot⟩ := h.entry _ _ hq
      rcases Nat.lt_trichotomy q p with hlt | rfl | hgt
      · rw [h.unique q p qr' pr hlt hqr' hp hid] at hnot
        cases hnot
      · rfl
      · have hmem : qr' ∈ s.prompts.drop (p + 1) := by
          refine List.mem_of_getElem? (i := q - (p + 1)) ?_
          rw [List.getElem?_drop, Nat.add_sub_cancel' hgt]
          exact hqr'
        exact absurd hid (hlate happ qr' hmem)
    · exact ho.channel response hbefore happ

end Orderly

theorem orderly_step {s t : Approvals} {a : ApprovalLabel} (h : Orderly s) (hc : IdsApart s a)
    (ht : s.step a = some t) : Orderly t := by
  revert ht
  fun_cases Approvals.step s a with rintro ⟨⟩
  | case1 action => exact h.ask action hc
  | case2 p succeeds action channel displayed hp =>
    cases succeeds with
    -- shown: it waits now; not shown: it ends with a timeout, which is no approval
    | true => exact h.setPhase hp rfl nofun nofun
    | false =>
      refine h.setPhase hp rfl nofun ?_
      rintro _ _ ⟨⟩ ⟨⟩
  | case4 p action response displayed hp =>
    refine h.setPhase hp rfl nofun ?_
    rintro _ _ ⟨⟩ happ
    -- only a positive value is an approval, and a positive value is the prompt's own
    have hpos : response.approved = true := by
      by_contra hneg
      simp [Approvals.decision, hneg] at happ
    exact ⟨response, rfl, (h.owned p _ hp).channel response rfl hpos, hpos⟩
  | case5 p action displayed hp =>
    refine h.setPhase hp rfl nofun ?_
    rintro _ _ ⟨⟩ ⟨⟩
  | case7 p action displayed hp =>
    -- The receiver goes first, so nothing can be sent any more when the phase changes.
    have hclosed : Orderly (s.setChannel p fun _ => .closed) := h.setChannel fun _ _ _ _ => nofun
    have hp' : (s.setChannel p fun _ => .closed).prompts[p]? =
        some ⟨action, .waiting, .closed, displayed⟩ :=
      Approvals.getElem?_update.mpr ⟨_, hp, by rw [if_pos rfl]⟩
    refine hclosed.setPhase hp' rfl nofun ?_
    rintro _ _ ⟨⟩ ⟨⟩
  | case9 p pr hp decision cause hphase => exact h.cleanUp hp hphase
  | case14 event approved pr hp => exact h.respondToApproval hp fun happ => hc happ pr hp

theorem orderly_new : Orderly Approvals.new :=
  ⟨nofun, by rintro _ _ _ _ _ ⟨⟩, nofun, nofun⟩

/-- **Approvals are given, not found**, where prompts of one id do not overlap. -/
theorem approved_by_own_event {as : List ApprovalLabel} {s : Approvals}
    (hc : Along Approvals.step IdsApart Approvals.new as)
    (hr : run Approvals.step Approvals.new as = some s) :
    ApprovedByOwnEvent s ∧ RemovesOwnEntry s := by
  have h : Orderly s := run_invariant (fun _ _ _ => orderly_step) orderly_new hc hr
  refine ⟨?_, h.removals⟩
  intro p pr cause hp hphase
  exact (h.owned p pr hp).returned _ _ hphase rfl

def helloScript : PendingAction := ⟨"act_1", "bash", "echo hello", "u", "c", 60⟩

def wipeScript : PendingAction := ⟨"act_1", "bash", "rm -rf ~", "u", "c", 60⟩

def answeredInTime : List ApprovalLabel :=
  [.ask helloScript, .emit 0 true, .respond 0 true, .receive 0, .cleanUp 0, .ask wipeScript]

theorem answeredInTime_approved :
    ∃ s, run Approvals.step Approvals.new answeredInTime = some s ∧
      (∃ cause, s.prompts[0]? =
        some ⟨helloScript, .returned .approved cause, .sent ⟨0, true⟩, true⟩) ∧
      ApprovedByOwnEvent s ∧ RemovesOwnEntry s := by
  have hr :=
    (Option.some_get (x := run Approvals.step .new answeredInTime) (by decide +kernel)).symm
  refine ⟨_, hr, ⟨some ⟨0, true⟩, by decide +kernel⟩, approved_by_own_event ?_ hr⟩
  decide +kernel

/-- A prompt times out and is approved when another has its id. -/
def lateResponse : List ApprovalLabel :=
  [.ask helloScript, .emit 0 true, .expire 0, .cleanUp 0,
    .ask wipeScript, .respond 0 true, .emit 1 true, .receive 1, .cleanUp 1]

def replacedPrompt : List ApprovalLabel :=
  [.ask helloScript, .emit 0 true, .ask wipeScript, .emit 1 true, .receive 0, .cleanUp 0]

theorem late_response_approves_other :
    (∃ s, run Approvals.step Approvals.new lateResponse = some s ∧
      (∃ channel displayed, s.prompts[1]? =
        some ⟨wipeScript, .returned .approved (some ⟨0, true⟩), channel, displayed⟩) ∧
      s.prompts[0]?.map Prompt.action = some helloScript) ∧
    ∃ s, run Approvals.step Approvals.new replacedPrompt = some s ∧ ⟨0, 1⟩ ∈ s.removals ∧
      s.pending wipeScript.id = none := by
  refine ⟨⟨_, (Option.some_get (by decide +kernel)).symm, ⟨.sent ⟨0, true⟩, true, ?_⟩, ?_⟩,
    exists_run ?_⟩
  all_goals decide +kernel

end Penguind.Desktop
