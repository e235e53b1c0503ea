import Penguind.Tobogganing.Module

/-!
# What a successful stop leaves behind

A stop that succeeds says that the tunnel is down and no token is cached until the next start. A
connect attempt or a refresh tick that is under way can undo it.
-/

namespace Penguind.Tobogganing

open Foundation

structure Clean (w : World) : Prop where
  connected : w.vpn.connected = false
  accessToken : w.auth.accessToken = ""
  secret : w.secrets .accessToken = none

instance (w : World) : Decidable (Clean w) :=
  decidable_of_iff
    (w.vpn.connected = false ∧ w.auth.accessToken = "" ∧ w.secrets .accessToken = none)
    ⟨fun h => ⟨h.1, h.2.1, h.2.2⟩, fun h => ⟨h.connected, h.accessToken, h.secret⟩⟩

/-- **The property**: from a successful stop to the next start the tunnel is down and no token
cached. -/
def StoppedClean (w : World) : Prop := w.stopped = true → Clean w ∧ w.raised = false

/-! ## Modes -/

inductive StopPhase
  | begun
  | down
  | erased
  | gone
  | failed
  deriving DecidableEq, Repr

inductive Mode
  | quiet
  | working
  | stop (phase : StopPhase)
  deriving DecidableEq, Repr

def Effect.calm : Effect → Bool
  | .swapRunning _ | .stopReturns _ | .setSecret _ _ | .apply _ _ => false
  | .writeAuth s => s.accessToken = ""
  | .writeVpn s => !s.connected
  | _ => true

def Mode.quietNext : (e : Effect) → Answer e → Option Mode
  | .isRunning, (r : Bool) => some (if r then .working else .quiet)
  | .select .authRefresh _, r =>
    match r with
    | .tick => some .working
    | .cancelled => some .quiet
  | .swapRunning value, (r : Bool) =>
    -- a stop of a module that was not running has nothing to do, so it counts as done
    if value then some .quiet else some (.stop (if r then .begun else .gone))
  | e, _ => if e.calm then some .quiet else none

def Mode.workingNext : Effect → Option Mode
  | .report _ | .spawn _ => some .quiet
  | .swapRunning _ | .stopReturns _ => none
  | _ => some .working

def StopPhase.next (p : StopPhase) : (e : Effect) → Answer e → Option Mode
  | .readVpn, (s : VpnState) =>
    some (.stop (if p = .begun ∧ s.connected = false then .down else p))
  | .writeVpn s, _ => if s.connected then none else some (.stop (if p = .begun then .down else p))
  | .teardown _, r =>
    match r with
    | .ok _ => some (.stop p)
    | .error _ => some (.stop .failed)
  | .readAuth, (s : TokenState) =>
    some (.stop (if p = .down ∧ s.accessToken = "" then .gone else p))
  | .http _, r =>
    match AuthManager.readRevokeReply r with
    | .ok _ => some (.stop p)
    | .error _ => some (.stop .failed)
  | .writeAuth s, _ =>
    -- a phase is reached only from the one before; a stop that has failed stays so
    if s.accessToken = "" then some (.stop (if p = .down then .erased else p)) else none
  | .deleteSecret .accessToken, _ => some (.stop (if p = .erased then .gone else p))
  -- Only a stop that has seen everything gone may return success.
  | .stopReturns result, _ => if result.isOk ∧ p ≠ .gone then none else some .quiet
  | e, _ => if e.calm then some (.stop p) else none

def Mode.next : Mode → (e : Effect) → Answer e → Option Mode
  | .quiet, e, r => quietNext e r
  | .working, e, _ => workingNext e
  | .stop p, e, r => p.next e r

def vpnTasks (L : Lib) (cfg : ModuleConfig) :
    TaskMachine World Effect Answer TaskName (Except ModuleError Unit) Mode :=
  tasks L cfg .quiet Mode.next

def Mode.stopping : Mode → Bool
  | .stop _ => true
  | .quiet | .working => false

/-- **The condition.** Starts and stops do not overlap, a stop finds nothing working, ticks come
only while the module runs, and no token stays in the store. -/
def Undisturbed (w : World) (others : List Mode) (m : Mode) : (e : Effect) → Answer e → Prop
  | .swapRunning value, _ =>
    if value then ∀ o ∈ others, o.stopping = false
    else (∀ o ∈ others, o ≠ .working) ∧ (w.running = false → Clean w)
  | .select .authRefresh _, (r : Selected) => r = .tick → w.running = true
  | .readAuth, _ =>
    m.stopping = true → w.auth.accessToken = "" → w.secrets .accessToken = none
  | .deleteSecret .accessToken, (r : Except String Unit) => m.stopping = true → r.isOk = true
  | _, _ => True

instance (w : World) (others : List Mode) (m : Mode) :
    ∀ (e : Effect) (r : Answer e), Decidable (Undisturbed w others m e r)
  | .swapRunning true, _ => inferInstanceAs (Decidable (∀ o ∈ others, o.stopping = false))
  | .swapRunning false, _ =>
    inferInstanceAs (Decidable ((∀ o ∈ others, o ≠ .working) ∧ (w.running = false → Clean w)))
  | .select .authRefresh _, (r : Selected) =>
    inferInstanceAs (Decidable (r = .tick → w.running = true))
  | .readAuth, _ =>
    inferInstanceAs (Decidable
      (m.stopping = true → w.auth.accessToken = "" → w.secrets .accessToken = none))
  | .deleteSecret .accessToken, (r : Except String Unit) =>
    inferInstanceAs (Decidable (m.stopping = true → r.isOk = true))
  | .isRunning, _ | .newCancel, _ | .takeCancel, _ | .select .monitor _, _ | .spawn _, _
  | .report _, _ | .stopReturns _, _ | .inc _, _ | .now, _ | .lockAuth, _ | .unlockAuth, _
  | .writeAuth _, _ | .getSecret _, _ | .setSecret _ _, _ | .deleteSecret .refreshToken, _
  | .deleteSecret .apiKey, _ | .http _, _ | .lockVpn, _ | .unlockVpn, _ | .readVpn, _
  | .writeVpn _, _ | .generateKey, _ | .apply _ _, _ | .teardown _, _ | .peerStats _, _ =>
    .isTrue trivial

/-! ## What effects keep -/

structure Lower (w t : World) : Prop where
  connected : w.vpn.connected = false → t.vpn.connected = false
  accessToken : w.auth.accessToken = "" → t.auth.accessToken = ""
  secret : w.secrets .accessToken = none → t.secrets .accessToken = none

theorem Lower.clean {w t : World} (h : Lower w t) (hw : Clean w) : Clean t :=
  ⟨h.connected hw.connected, h.accessToken hw.accessToken, h.secret hw.secret⟩

structure Calmer (w t : World) : Prop extends Lower w t where
  running : t.running = w.running
  stopped : t.stopped = w.stopped
  raised : t.raised = w.raised

theorem Calmer.refl (w : World) : Calmer w w := ⟨⟨id, id, id⟩, rfl, rfl, rfl⟩

theorem act_calm {w t : World} {e : Effect} {r : Answer e} (he : e.calm = true)
    (h : act w e r = some t) : Calmer w t := by
  cases e with
  | swapRunning | stopReturns | setSecret | apply => cases he
  | isRunning | newCancel | lockAuth | lockVpn | readAuth | readVpn =>
    simp only [act] at h
    split at h <;> cases h
    all_goals exact ⟨⟨id, id, id⟩, rfl, rfl, rfl⟩
  | select _ _ | getSecret _ =>
    cases r <;> simp only [act] at h
    all_goals try (split at h)
    all_goals cases h
    all_goals exact .refl w
  | writeAuth s =>
    cases h
    exact ⟨⟨id, fun _ => by simpa [Effect.calm] using he, id⟩, rfl, rfl, rfl⟩
  | writeVpn s =>
    cases h
    exact ⟨⟨fun _ => by simpa [Effect.calm] using he, id, id⟩, rfl, rfl, rfl⟩
  | deleteSecret key =>
    cases r with
    | error _ =>
      cases h
      exact .refl w
    | ok _ =>
      cases h
      refine ⟨⟨id, id, fun hnone => ?_⟩, rfl, rfl, rfl⟩
      by_cases hk : SecretKey.accessToken = key
      · subst hk
        exact Function.update_self SecretKey.accessToken none w.secrets
      · exact (Function.update_of_ne hk _ _).trans hnone
  | _ =>
    cases h
    exact ⟨⟨id, id, id⟩, rfl, rfl, rfl⟩

theorem act_working {w t : World} {e : Effect} {r : Answer e} {m : Mode}
    (hm : Mode.workingNext e = some m) (h : act w e r = some t) :
    t.running = w.running ∧ t.stopped = w.stopped ∧ (w.stopped = false → t.raised = w.raised) := by
  by_cases he : e.calm
  · have hc := act_calm he h
    exact ⟨hc.running, hc.stopped, fun _ => hc.raised⟩
  · cases e with
    | swapRunning | stopReturns => cases hm
    | writeAuth | writeVpn =>
      cases h
      exact ⟨rfl, rfl, fun _ => rfl⟩
    | setSecret =>
      cases r <;> cases h <;> exact ⟨rfl, rfl, fun _ => rfl⟩
    | apply =>
      cases r <;> cases h
      · exact ⟨rfl, rfl, fun _ => rfl⟩
      -- an apply that succeeds counts as raising the tunnel only after a successful stop
      · exact ⟨rfl, rfl, fun hs => by simp [hs]⟩
    | _ => exact absurd rfl he

/-! ## Assertions -/

def StopPhase.Reached : StopPhase → World → Prop
  | .begun, _ | .failed, _ => True
  | .down, w => w.vpn.connected = false
  | .erased, w => w.vpn.connected = false ∧ w.auth.accessToken = ""
  | .gone, w => Clean w

def Mode.Asserted : Mode → World → Prop
  | .quiet, _ => True
  | .working, w => w.running = true
  | .stop p, w => w.running = false ∧ p.Reached w

structure Sound (w : World) : Prop where
  raised : w.raised = false
  stopped : w.stopped = true → w.running = false ∧ Clean w

def Establishes (others : List Mode) (m : Mode) (t : World) : Prop :=
  Sound t ∧ m.Asserted t ∧ ∀ o ∈ others, o.Asserted t

section

variable {w t : World} {e : Effect} {r : Answer e} {m : Mode} {others : List Mode}

theorem Lower.reached {p : StopPhase} (h : Lower w t) (hp : p.Reached w) : p.Reached t := by
  cases p with
  | begun | failed => trivial
  | down => exact h.connected hp
  | erased => exact ⟨h.connected hp.1, h.accessToken hp.2⟩
  | gone => exact h.clean hp

theorem Lower.asserted (h : Lower w t) (hrun : t.running = w.running) (hm : m.Asserted w) :
    m.Asserted t := by
  cases m with
  | quiet => trivial
  | working => exact hrun.trans hm
  | stop p => exact ⟨hrun.trans hm.1, h.reached hm.2⟩

theorem Calmer.sound (h : Calmer w t) (hw : Sound w) : Sound t := by
  refine ⟨h.raised.trans hw.raised, fun hs => ?_⟩
  obtain ⟨hrunning, hclean⟩ := hw.stopped (h.stopped.symm.trans hs)
  exact ⟨h.running.trans hrunning, h.clean hclean⟩

theorem Calmer.establishes (h : Calmer w t) (hw : Sound w) (ho : ∀ o ∈ others, o.Asserted w)
    (hm : m.Asserted t) : Establishes others m t :=
  ⟨h.sound hw, hm, fun o hmem => h.asserted h.running (ho o hmem)⟩

theorem establishes_start (hw : Sound w) (ho : ∀ o ∈ others, o.stopping = false)
    {r : Bool} (h : act w (.swapRunning true) r = some t) : Establishes others .quiet t := by
  obtain ⟨-, ht⟩ := Option.ite_none_right_eq_some.mp h
  cases ht
  refine ⟨⟨by simp [hw.raised], fun hs => by simp at hs⟩, trivial, fun o hmem => ?_⟩
  -- what the others rely on: work may go on, and there is no stop to disturb
  cases o with
  | quiet => trivial
  | working => rfl
  | stop p => exact absurd (ho _ hmem) Bool.noConfusion

theorem establishes_stop {r : Bool} (hw : Sound w) (hA : ∀ o ∈ others, o.Asserted w)
    (ho : ∀ o ∈ others, o ≠ .working) (hclean : w.running = false → Clean w)
    (h : act w (.swapRunning false) r = some t) :
    Establishes others (.stop (if r then .begun else .gone)) t := by
  obtain ⟨hr, ht⟩ := Option.ite_none_right_eq_some.mp h
  cases ht
  have hlower : ∀ b c, Lower w { w with running := false, stopped := b, raised := c } :=
    fun _ _ => ⟨id, id, id⟩
  refine ⟨⟨by simp [hw.raised], fun hs => ⟨rfl, ?_⟩⟩, ⟨rfl, ?_⟩, fun o hmem => ?_⟩
  · exact (hlower _ _).clean (hw.stopped (by simpa using hs)).2
  · cases hrun : r with
    | true => trivial
    | false => exact (hlower _ _).clean (hclean (hr.symm.trans hrun))
  · cases o with
    | quiet => trivial
    | working => exact absurd rfl (ho _ hmem)
    | stop p => exact ⟨rfl, (hlower _ _).reached (hA _ hmem).2⟩

theorem establishes_quiet (hw : Sound w) (hA : ∀ o ∈ others, o.Asserted w)
    (hC : Undisturbed w others .quiet e r) (hm : Mode.quietNext e r = some m)
    (h : act w e r = some t) : Establishes others m t := by
  cases e with
  | swapRunning value =>
    cases value with
    | true =>
      cases hm
      exact establishes_start hw hC h
    | false =>
      cases hm
      exact establishes_stop hw hA hC.1 hC.2 h
  | isRunning =>
    have hcalm := act_calm rfl h
    obtain ⟨hr, -⟩ := Option.ite_none_right_eq_some.mp h
    cases hm
    refine hcalm.establishes hw hA ?_
    split
    -- the answer is the flag itself, so the task starts to work only while the module runs
    · next hrun => exact hcalm.running.trans (hr.symm.trans hrun)
    · trivial
  | select loop _ =>
    have hcalm := act_calm rfl h
    refine hcalm.establishes hw hA ?_
    cases loop with
    | monitor =>
      cases hm
      trivial
    | authRefresh =>
      cases r <;> cases hm
      · trivial
      · exact hcalm.running.trans (hC rfl)
  | _ =>
    -- Everything else is calm, or not allowed to a quiet task.
    simp only [Mode.quietNext, Option.ite_none_right_eq_some, Option.some.injEq] at hm
    obtain ⟨hcalm, rfl⟩ := hm
    exact (act_calm hcalm h).establishes hw hA trivial

theorem establishes_working (hw : Sound w) (hrun : w.running = true)
    (hA : ∀ o ∈ others, o.Asserted w) (hm : Mode.workingNext e = some m)
    (h : act w e r = some t) : Establishes others m t := by
  obtain ⟨hrunning, hstopped, hraised⟩ := act_working hm h
  have hrun' : t.running = true := hrunning.trans hrun
  have hnot : w.stopped = false := by
    cases hs : w.stopped with
    | false => rfl
    | true => exact absurd (hw.stopped hs).1 (by simp [hrun])
  refine ⟨⟨(hraised hnot).trans hw.raised, fun hs => ?_⟩, ?_, fun o hmem => ?_⟩
  · rw [hstopped, hnot] at hs
    cases hs
  · cases e with
    | swapRunning | stopReturns => cases hm
    | report | spawn =>
      cases hm
      trivial
    | _ =>
      cases hm
      exact hrun'
  · cases o with
    | quiet => trivial
    | working => exact hrun'
    | stop p => exact absurd (hA _ hmem).1 (by simp [hrun])

variable {p : StopPhase}

theorem establishes_stopReturns {result : Except ModuleError Unit} {r : Unit} (hw : Sound w)
    (hp : (Mode.stop p).Asserted w) (hA : ∀ o ∈ others, o.Asserted w)
    (hm : p.next (.stopReturns result) r = some m)
    (h : act w (.stopReturns result) r = some t) : Establishes others m t := by
  cases h
  have hlower : Lower w { w with stopped := w.stopped || result.isOk } := ⟨id, id, id⟩
  simp only [StopPhase.next, Option.ite_none_left_eq_some, Option.some.injEq, not_and,
    Decidable.not_not] at hm
  obtain ⟨hgone, rfl⟩ := hm
  refine ⟨⟨hw.raised, fun hs => ?_⟩, trivial, fun o hmem => hlower.asserted rfl (hA o hmem)⟩
  rcases Bool.or_eq_true_iff.mp hs with hs | hok
  · exact ⟨(hw.stopped hs).1, hlower.clean (hw.stopped hs).2⟩
  · obtain rfl := hgone hok
    exact ⟨hp.1, hlower.clean hp.2⟩

theorem StopPhase.calm_of_next (hm : p.next e r = some m)
    (he : ∀ result, e ≠ .stopReturns result) : e.calm = true := by
  cases e with
  | stopReturns result => exact absurd rfl (he result)
  | writeVpn s =>
    obtain ⟨hs, -⟩ := Option.ite_none_left_eq_some.mp hm
    simpa [Effect.calm] using hs
  | writeAuth s =>
    obtain ⟨hs, -⟩ := Option.ite_none_right_eq_some.mp hm
    simpa [Effect.calm] using hs
  | readVpn | teardown | readAuth | http | deleteSecret => rfl
  | _ =>
    simp only [StopPhase.next, Option.ite_none_right_eq_some] at hm
    exact hm.1

theorem StopPhase.asserted_next (hcalm : Calmer w t) (hp : (Mode.stop p).Asserted w)
    (hC : Undisturbed w others (.stop p) e r) (hm : p.next e r = some m)
    (he : ∀ result, e ≠ .stopReturns result) (h : act w e r = some t) : m.Asserted t := by
  have hkept := hcalm.asserted hcalm.running hp
  cases e with
  | stopReturns result => exact absurd rfl (he result)
  | readVpn =>
    obtain ⟨hs, ht⟩ := Option.ite_none_right_eq_some.mp h
    cases ht
    cases hm
    split
    · next hdown =>
      have hoff : w.vpn.connected = false := hs ▸ hdown.2
      exact ⟨hp.1, hoff⟩
    · exact hp
  | writeVpn s =>
    simp only [StopPhase.next, Option.ite_none_left_eq_some, Option.some.injEq,
      Bool.not_eq_true] at hm
    obtain ⟨hs, rfl⟩ := hm
    split
    · cases h
      exact ⟨hp.1, hs⟩
    · exact hkept
  | teardown interface =>
    cases r <;> cases hm
    · exact ⟨hkept.1, trivial⟩
    · exact hkept
  | readAuth =>
    obtain ⟨hs, ht⟩ := Option.ite_none_right_eq_some.mp h
    cases ht
    cases hm
    split
    · next hgone =>
      obtain ⟨rfl, hempty⟩ := hgone
      rw [hs] at hempty
      -- the memory is empty, and by the condition so is the secret store
      exact ⟨hp.1, hp.2, hempty, hC rfl hempty⟩
    · exact hp
  | http request =>
    simp only [StopPhase.next] at hm
    split at hm <;> cases hm
    · exact hkept
    · exact ⟨hkept.1, trivial⟩
  | writeAuth s =>
    simp only [StopPhase.next, Option.ite_none_right_eq_some, Option.some.injEq] at hm
    obtain ⟨hs, rfl⟩ := hm
    split
    · next hdown =>
      subst hdown
      cases h
      exact ⟨hp.1, hp.2, hs⟩
    · exact hkept
  | deleteSecret key =>
    cases key with
    | accessToken =>
      cases hm
      split
      · next herased =>
        subst herased
        cases r with
        -- the source ignores this failure; the condition excludes it
        | error _ => exact absurd (hC rfl) Bool.noConfusion
        | ok _ =>
          cases h
          exact ⟨hp.1, hp.2.1, hp.2.2, rfl⟩
      · exact hkept
    | refreshToken | apiKey =>
      cases hm
      exact hkept
  | _ =>
    simp only [StopPhase.next, Option.ite_none_right_eq_some, Option.some.injEq] at hm
    obtain ⟨-, rfl⟩ := hm
    exact hkept

theorem establishes_stopping (hw : Sound w) (hp : (Mode.stop p).Asserted w)
    (hA : ∀ o ∈ others, o.Asserted w) (hC : Undisturbed w others (.stop p) e r)
    (hm : p.next e r = some m) (h : act w e r = some t) : Establishes others m t := by
  by_cases he : ∃ result, e = .stopReturns result
  · obtain ⟨result, rfl⟩ := he
    exact establishes_stopReturns hw hp hA hm h
  · have hcalm := act_calm (StopPhase.calm_of_next hm (not_exists.mp he)) h
    exact hcalm.establishes hw hA (StopPhase.asserted_next hcalm hp hC hm (not_exists.mp he) h)

theorem establishes_next (hw : Sound w) (hm : m.Asserted w) (hA : ∀ o ∈ others, o.Asserted w)
    (hC : Undisturbed w others m e r) {m' : Mode} (hnext : m.next e r = some m')
    (h : act w e r = some t) : Establishes others m' t := by
  cases m with
  | quiet => exact establishes_quiet hw hA hC hnext h
  | working => exact establishes_working hw hm hA hnext h
  | stop p => exact establishes_stopping hw hm hA hC hnext h

end

section

open TaskMachine

variable {ε A : Type} {L : Lib} {cfg : ModuleConfig} {m : Mode} {body : Op ε A}
  {Q : Except ε A → Mode → Prop}

theorem tracks_withAuth (h : Tracks Mode.next Q body m) : Tracks Mode.next Q (withAuth body) m :=
  .bracket (fun n _ => by cases n <;> rfl) (fun n _ => by cases n <;> rfl) h

theorem tracks_withVpn (h : Tracks Mode.next Q body m) : Tracks Mode.next Q (withVpn body) m :=
  .bracket (fun n _ => by cases n <;> rfl) (fun n _ => by cases n <;> rfl) h

theorem stays_withAuth (h : Stays Mode.next m body) : Stays Mode.next m (withAuth body) :=
  tracks_withAuth h

theorem stays_withVpn (h : Stays Mode.next m body) : Stays Mode.next m (withVpn body) :=
  tracks_withVpn h

def Effect.ofTokens : Effect → Bool
  | .lockAuth | .unlockAuth | .readAuth | .writeAuth _ | .getSecret _ | .setSecret _ _ | .http _
  | .now | .inc _ => true
  | _ => false

section Tokens

variable {M : Type} {next : M → (e : Effect) → Answer e → Option M} {m : M} {body : Op ε A}
  (h : ∀ e r, e.ofTokens = true → next m e r = some m)

include h

theorem stays_tokens (e : Effect) (he : e.ofTokens = true) :
    Stays next m (call e : Op ε (Answer e)) := .call fun r => h e r he

theorem stays_underAuth (hbody : Stays next m body) : Stays next m (withAuth body) :=
  .bind (stays_tokens h _ rfl) fun _ => .bind (.attempt hbody) fun _ =>
    .bind (stays_tokens h _ rfl) fun _ => .ofExcept _

theorem stays_token : Stays next m (AuthManager.token : Op ε String) :=
  stays_underAuth h (.bind (stays_tokens h _ rfl) fun state => .pure state.accessToken)

theorem stays_postToken (request : Request) : Stays next m (AuthManager.postToken L request) :=
  .bind (stays_tokens h _ rfl) fun reply => .ofExcept (AuthManager.readTokenReply L reply)

theorem stays_applyResponse (state : TokenState) (response : TokenResponse) (b : Bool) :
    Stays next m (AuthManager.applyResponse L state response b : Op ε Unit) := by
  refine .bind (stays_tokens h _ rfl) fun _ => .bind (stays_tokens h _ rfl) fun _ => ?_
  split
  · exact .pure ()
  · exact .bind (stays_tokens h _ rfl) fun _ => .pure ()

theorem stays_isValid (state : TokenState) :
    Stays next m (AuthManager.isValid state : Op ε Bool) := by
  unfold AuthManager.isValid
  split
  · exact .pure false
  · exact .bind (stays_tokens h _ rfl) fun _ => .pure _

theorem stays_tryRefresh (state : TokenState) :
    Stays next m (AuthManager.tryRefresh L cfg state) := by
  unfold AuthManager.tryRefresh
  split
  · exact .pure false
  · refine .bind (.attempt ?_) fun _ => .pure _
    exact .bind (stays_postToken h _) fun response => stays_applyResponse h state response false

theorem stays_ensureValidToken : Stays next m (AuthManager.ensureValidToken L cfg) := by
  refine stays_underAuth h (.bind (stays_tokens h _ rfl) fun state => ?_)
  refine .bind (stays_isValid h state) fun valid => ?_
  split
  · exact .pure ()
  · refine .bind (stays_tryRefresh h state) fun refreshed => ?_
    split
    · exact .pure ()
    · refine .bind (.bind (stays_tokens h _ rfl) fun _ => .ofExcept _) fun apiKey => ?_
      exact .bind (stays_postToken h _) fun response => stays_applyResponse h state response true

theorem stays_isTokenExpired (threshold : Duration) :
    Stays next m (AuthManager.isTokenExpired threshold : Op ε Bool) := by
  refine stays_underAuth h (.bind (stays_tokens h _ rfl) fun state => ?_)
  split
  · exact .pure true
  · exact .bind (stays_tokens h _ rfl) fun _ => .pure _

theorem stays_authRefreshTick : Stays next m (authRefreshTick L cfg) := by
  refine .bind (stays_isTokenExpired h authRefreshThreshold) fun expired => ?_
  split
  · refine .bind (.attempt (stays_ensureValidToken h)) fun result => ?_
    cases result <;> exact stays_tokens h _ rfl
  · exact .pure ()

end Tokens

abbrev Works (p : Op ε A) : Prop := Stays Mode.next .working p

theorem working_next_tokens (e : Effect) (r : Answer e) (he : e.ofTokens = true) :
    Mode.next .working e r = some .working := by
  cases e <;> first | rfl | cases he

theorem works_fetchTunnelConfig (publicKey : Key) :
    Works (VpnManager.fetchTunnelConfig L cfg publicKey) := by
  refine .bind (stays_token working_next_tokens) fun token => ?_
  split
  · exact .throw VpnError.noToken
  · exact .bind (.call fun _ => rfl) fun reply => .ofExcept (VpnManager.readConfigReply L reply)

theorem works_connect : Works (VpnManager.connect L cfg) := by
  refine stays_withVpn (.bind (.call fun _ => rfl) fun state => ?_)
  split
  · exact .throw VpnError.alreadyConnected
  · refine .bind (.call fun _ => rfl) fun privateKey => ?_
    refine .bind (works_fetchTunnelConfig _) fun tunnelConfig => ?_
    refine .bind (.ofExcept _) fun spec => .bind (.call fun _ => rfl) fun result => ?_
    exact .bind (.ofExcept _) fun _ => .call fun _ => rfl

/-! ### Quiet programs -/

abbrev KeepsQuiet (p : Op ε A) : Prop := Stays Mode.next .quiet p

theorem keepsQuiet_isConnected : KeepsQuiet (VpnManager.isConnected : Op ε Bool) :=
  stays_withVpn (.bind (.call fun _ => rfl) fun state => .pure state.connected)

theorem keepsQuiet_updateHealthProbe : KeepsQuiet (updateHealthProbe cfg : Op ε Unit) := by
  refine .bind keepsQuiet_isConnected fun connected => ?_
  split
  · exact .bind (.call fun _ => rfl) fun _ => .pure ()
  · exact .pure ()

theorem keepsQuiet_disconnect : KeepsQuiet (VpnManager.disconnect cfg) := by
  refine stays_withVpn (.bind (.call fun _ => rfl) fun (state : VpnState) => ?_)
  rcases state with ⟨_ | _, key⟩
  · exact .pure ()
  · refine .bind (.call fun _ => rfl) fun result => ?_
    exact .bind (.ofExcept _) fun _ => .call fun _ => rfl

theorem tracks_establishTunnel :
    Tracks Mode.next (fun _ n => n = .quiet ∨ n = .working) (establishTunnel L cfg) .quiet := by
  refine .call_bind fun (running : Bool) => ?_
  cases running with
  | false => exact ⟨.quiet, rfl, .inl rfl⟩
  | true =>
    refine ⟨.working, rfl, ?_⟩
    refine Tracks.mono (Q := fun _ n => n = .working) ?_ fun _ _ hn => .inr hn
    show Works _
    refine .bind (.mapError (stays_ensureValidToken working_next_tokens)) fun _ => ?_
    refine .bind (.attempt works_connect) fun result => ?_
    cases result with
    | ok _ => exact .pure ()
    | error err => exact .bind (.call fun _ => rfl) fun _ => .throw _

theorem keepsQuiet_reportedConnect : KeepsQuiet (reportedConnect L cfg) := by
  refine .attempt_bind (tracks_establishTunnel.mono fun result n hn => ?_)
  refine .call fun _ => ⟨.quiet, ?_, rfl⟩
  -- quiet if the module was found not to run, and at work otherwise; the report ends both
  rcases hn with rfl | rfl <;> rfl

theorem keepsQuiet_start : KeepsQuiet (start cfg) := by
  refine .bind (.call fun _ => rfl) fun wasRunning => ?_
  cases wasRunning with
  | true => exact .throw _
  | false =>
    refine .bind (.call fun _ => rfl) fun cancel => ?_
    refine .bind (.call fun _ => rfl) fun _ => .bind (.call fun _ => rfl) fun _ => ?_
    exact .bind keepsQuiet_updateHealthProbe fun _ => .call fun _ => rfl

theorem keepsQuiet_monitorLoop (cancel : CancelToken) :
    KeepsQuiet (monitorLoop L cfg cancel) := by
  refine .bind (.call fun _ => rfl) fun selected => ?_
  split
  · exact .pure ()
  · refine .bind ?_ fun _ => .call fun _ => rfl
    refine .bind keepsQuiet_updateHealthProbe fun _ => .bind keepsQuiet_isConnected fun _ => ?_
    split
    · exact .pure ()
    · exact keepsQuiet_reportedConnect

theorem tracks_authRefreshLoop (cancel : CancelToken) :
    Tracks Mode.next (fun _ _ => True) (authRefreshLoop L cfg cancel) .quiet := by
  refine .call_bind fun (selected : Selected) => ?_
  cases selected with
  | cancelled => exact ⟨.quiet, rfl, trivial⟩
  | tick =>
    have htick : Tracks Mode.next (fun _ n => n = .working) (authRefreshTick L cfg) .working :=
      stays_authRefreshTick working_next_tokens
    refine ⟨.working, rfl, htick.bind ?_ fun _ _ _ => trivial⟩
    rintro _ _ rfl
    exact .call fun _ => ⟨.quiet, rfl, trivial⟩

def Disconnected (result : Except VpnError Unit) (n : Mode) : Prop :=
  n = .stop (match result with
    | .ok _ => .down
    | .error _ => .failed)

theorem tracks_disconnect :
    Tracks Mode.next Disconnected (VpnManager.disconnect cfg) (.stop .begun) := by
  refine tracks_withVpn (.call_bind fun (state : VpnState) => ?_)
  cases hs : state.connected with
  | false => exact ⟨.stop .down, by simp [Mode.next, StopPhase.next, hs], rfl⟩
  | true =>
    refine ⟨.stop .begun, by simp [Mode.next, StopPhase.next, hs], ?_⟩
    refine .call_bind fun (result : Except String Unit) => ?_
    cases result with
    | error _ => exact ⟨.stop .failed, rfl, rfl⟩
    | ok _ => exact ⟨.stop .begun, rfl, .call fun _ => ⟨.stop .down, rfl, rfl⟩⟩

theorem stays_revokeToken : Stays Mode.next (.stop .failed) (AuthManager.revokeToken cfg) := by
  refine .bind (stays_withAuth (.bind (.call fun _ => rfl) fun state => .pure _)) fun token => ?_
  split
  · exact .pure ()
  · refine .bind (.call fun reply => ?_) fun reply => .bind (.ofExcept _) fun _ => ?_
    · simp only [Mode.next, StopPhase.next]
      split <;> rfl
    · refine .bind (stays_withAuth (.call fun _ => rfl)) fun _ => ?_
      exact .bind (.call fun _ => rfl) fun _ => .bind (.call fun _ => rfl) fun _ => .pure ()

def Revoked (result : Except AuthError Unit) (n : Mode) : Prop :=
  n = .stop (match result with
    | .ok _ => .gone
    | .error _ => .failed)

theorem tracks_token :
    Tracks Mode.next
      (fun result n => ∃ token,
        result = .ok token ∧ n = .stop (if token = "" then .gone else .down))
      (AuthManager.token : Op AuthError String) (.stop .down) := by
  refine tracks_withAuth (.call_bind fun (state : TokenState) => ?_)
  refine ⟨_, rfl, state.accessToken, rfl, ?_⟩
  simp

theorem tracks_revokeToken :
    Tracks Mode.next Revoked (AuthManager.revokeToken cfg) (.stop .down) := by
  refine tracks_token.bind ?_ ?_
  · rintro token n ⟨_, ⟨⟩, rfl⟩
    split
    · rfl
    · refine .call_bind fun (reply : Except String Reply) => ?_
      cases hreply : AuthManager.readRevokeReply reply with
      | error err => exact ⟨.stop .failed, by simp [Mode.next, StopPhase.next, hreply], rfl⟩
      | ok _ =>
        refine ⟨.stop .down, by simp [Mode.next, StopPhase.next, hreply], ?_⟩
        have herase : Tracks Mode.next (fun result n => result = .ok () ∧ n = .stop .erased)
            (withAuth (call (.writeAuth default)) : Op AuthError Unit) (.stop .down) :=
          tracks_withAuth (.call fun _ => ⟨.stop .erased, rfl, rfl, rfl⟩)
        refine herase.bind ?_ ?_
        · rintro _ n ⟨-, rfl⟩
          exact .call_bind fun _ => ⟨.stop .gone, rfl, .call_bind fun _ => ⟨.stop .gone, rfl, rfl⟩⟩
        · rintro _ _ ⟨⟨⟩, -⟩
  · rintro err n ⟨_, ⟨⟩, -⟩

theorem stopResult_eq_ok {disconnected : Except VpnError Unit} {revoked : Except AuthError Unit} :
    (stopResult disconnected revoked).isOk = true ↔
      disconnected = .ok () ∧ revoked = .ok () := by
  cases disconnected <;> cases revoked <;> simp [stopResult, Except.isOk, Except.toBool]

theorem tracks_stop : Tracks Mode.next (fun _ _ => True) (stop cfg) .quiet := by
  refine .call_bind fun (wasRunning : Bool) => ?_
  cases wasRunning with
  | false => exact ⟨.stop .gone, rfl, .call fun _ => ⟨.quiet, rfl, trivial⟩⟩
  | true =>
    refine ⟨.stop .begun, rfl, .call_bind fun _ => ⟨.stop .begun, rfl, ?_⟩⟩
    refine .attempt_bind (tracks_disconnect.mono fun disconnected n hn => ?_)
    obtain rfl : n = _ := hn
    -- A failed disconnect is never forgotten, so what the revocation does no longer matters.
    cases disconnected with
    | error err =>
      refine .attempt_bind (Tracks.mono stays_revokeToken fun revoked n hn => ?_)
      subst hn
      refine .call fun _ => ⟨.quiet, ?_, trivial⟩
      simp [Mode.next, StopPhase.next, stopResult_eq_ok]
    | ok _ =>
      refine .attempt_bind (tracks_revokeToken.mono fun revoked n hn => ?_)
      obtain rfl : n = _ := hn
      refine .call fun _ => ⟨.quiet, ?_, trivial⟩
      cases revoked <;> simp [Mode.next, StopPhase.next, stopResult_eq_ok]

theorem follows_code (n : TaskName) : (vpnTasks L cfg).Follows .quiet (taskCode L cfg n) := by
  have hquiet : ∀ {p : Op ModuleError Unit}, KeepsQuiet p → (vpnTasks L cfg).Follows .quiet p :=
    fun h => Tracks.mono h fun _ _ _ => trivial
  cases n with
  | start => exact hquiet keepsQuiet_start
  | stop => exact tracks_stop
  | cmdConnect => exact hquiet keepsQuiet_reportedConnect
  | cmdDisconnect =>
    exact hquiet (.bind (.attempt keepsQuiet_disconnect) fun result => .ofExcept _)
  | initialConnect => exact hquiet keepsQuiet_reportedConnect
  | monitorLoop cancel => exact hquiet (keepsQuiet_monitorLoop cancel)
  | authRefreshLoop cancel => exact tracks_authRefreshLoop cancel

end

/-- **After a stop the tunnel is down** and no token cached, in every interleaving along the
condition. -/
theorem stopped_clean {L : Lib} {cfg : ModuleConfig} {w : World} (h₀ : w.Initial)
    {as : List (TaskLabel Effect Answer TaskName)}
    {p : Pool World Effect Answer (Except ModuleError Unit) Mode}
    (hC : Along (vpnTasks L cfg).step (TaskMachine.Meets Undisturbed) ⟨w, []⟩ as)
    (hr : run (vpnTasks L cfg).step ⟨w, []⟩ as = some p) : StoppedClean p.world := by
  have hw : Sound w := ⟨h₀.raised, fun hs => by rw [h₀.stopped] at hs; cases hs⟩
  have hp : Sound p.world := by
    refine TaskMachine.task_invariant (K := vpnTasks L cfg) (C := Undisturbed)
      (I := Mode.Asserted) (fun n => follows_code n) (fun _ _ => trivial) ?_ hw hC hr
    intro w others m e r m' t hw hm hA hC hnext hact
    exact establishes_next hw hm hA hC hnext hact
  intro hs
  exact ⟨(hp.stopped hs).2, hp.raised⟩

def plainLib : Lib where
  publicKey := id
  parseKey _ := some 0
  parseIpAddrMask _ := some ⟨.v4 0, 32⟩
  parseIpAddr _ := some (.v4 0)
  parseSocketAddr _ := some ⟨.v4 0, 51820⟩
  decodeTokenResponse body := .ok ⟨body, "", some 9999999999⟩
  decodeTunnelConfig _ := .ok ⟨"10.0.0.2/32", "key", "203.0.113.5:51820", [], []⟩
  decodeExp _ := none
  debug := id

def plainConfig : ModuleConfig := ⟨"https://manager", "wg0", 1420, [], 25, []⟩

def freshWorld : World where
  running := false
  cancel := none
  cancelled := []
  nextCancel := 0
  auth := default
  authLocked := false
  vpn := default
  vpnLocked := false
  secrets := fun
    | .apiKey => some "key"
    | .accessToken | .refreshToken => none
  counters _ := 0
  stopped := false
  raised := false

def replies (running : Bool) (auth : TokenState) (vpn : VpnState) : (e : Effect) → Answer e
  | .swapRunning _ | .isRunning => running
  | .newCancel => (0 : Nat)
  | .select _ _ => Selected.tick
  | .now => (0 : Int)
  | .readAuth => auth
  | .getSecret _ => (.ok "key" : Except String String)
  | .setSecret _ _ | .deleteSecret _ => (.ok () : Except String Unit)
  | .http _ => (.ok ⟨200, "token"⟩ : Except String Reply)
  | .readVpn => vpn
  | .generateKey => (7 : Key)
  | .apply _ _ | .teardown _ | .peerStats _ => (.ok () : Except String Unit)
  | .takeCancel | .spawn _ | .report _ | .stopReturns _ | .inc _ | .lockAuth | .unlockAuth
  | .writeAuth _ | .lockVpn | .unlockVpn | .writeVpn _ => ()

def steps (i n : Nat) (f : (e : Effect) → Answer e) : List (TaskLabel Effect Answer TaskName) :=
  List.replicate n (.step i f)

def obtained : TokenState := ⟨"token", "", Duration.fromSecs 9999999999⟩

def starting : List (TaskLabel Effect Answer TaskName) :=
  .call .start :: steps 0 8 (replies false default default)

def connecting : List (TaskLabel Effect Answer TaskName) :=
  steps 3 10 (replies true default default) ++ steps 3 8 (replies true obtained default)

def connectThenStop : List (TaskLabel Effect Answer TaskName) :=
  starting ++ steps 3 1 (replies true default default) ++ connecting ++
    .call .stop :: steps 4 17 (replies true obtained ⟨true, some 7⟩)

/-- The initial connect has seen the running flag, and goes on after the stop. -/
def stopDuringConnect : List (TaskLabel Effect Answer TaskName) :=
  starting ++ steps 3 1 (replies true default default) ++
    .call .stop :: steps 4 9 (replies true default default) ++ connecting

theorem connectThenStop_clean :
    ∃ p : Pool World Effect Answer (Except ModuleError Unit) Mode,
      run (vpnTasks plainLib plainConfig).step ⟨freshWorld, []⟩ connectThenStop = some p ∧
        p.world.stopped = true ∧ StoppedClean p.world := by
  have hp := (Option.some_get (x := run (vpnTasks plainLib plainConfig).step ⟨freshWorld, []⟩
    connectThenStop) (by decide +kernel)).symm
  exact ⟨_, hp, by decide +kernel, stopped_clean ⟨rfl, rfl, rfl⟩ (by decide +kernel) hp⟩

/-- **A connect attempt outlives a stop** and brings the tunnel up. -/
theorem connect_outlives_stop :
    freshWorld.Initial ∧ ∃ p : Pool World Effect Answer (Except ModuleError Unit) Mode,
      run (vpnTasks plainLib plainConfig).step ⟨freshWorld, []⟩ stopDuringConnect = some p ∧
        ¬ StoppedClean p.world ∧ p.world.raised = true ∧ p.world.vpn.connected = true ∧
        p.world.auth.accessToken = "token" ∧
        p.world.secrets .accessToken = some "token" := by
  let p := (run (vpnTasks plainLib plainConfig).step ⟨freshWorld, []⟩ stopDuringConnect).get
    (by decide +kernel)
  have hup : p.world.vpn.connected = true := by decide +kernel
  refine ⟨⟨rfl, rfl, rfl⟩, p, (Option.some_get _).symm, fun h => ?_, by decide +kernel⟩
  have hs : p.world.stopped = true := by decide +kernel
  have hdown := (h hs).1.connected
  rw [hup] at hdown
  cases hdown

end Penguind.Tobogganing
