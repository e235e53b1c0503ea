import Mathlib.Data.List.Induction
import Penguind.Waddlebot.ObsBridge

/-!
# The results of commands to OBS

A result is to come from the response to the caller's own command, a response is to resolve one
command at most, and a command that was reported as failed before it was sent is not to be sent.
-/

namespace Penguind.Waddlebot

open Foundation

def Undelivered (c : Call) : Prop :=
  c.channel = .empty ∧ c.result = none ∨ c.channel = .closed ∧ c.result = some (.error .timeout)

def ObsBridge.numbers (s : ObsBridge) : List CommandId :=
  s.frames.map Frame.command ++ s.queue.map ObsCommand.respondTo

/-- Commands are sent once at most, and queued ones have no result yet. -/
structure Numbered (s : ObsBridge) : Prop where
  nodup : s.numbers.Nodup
  known : ∀ n ∈ s.numbers, n < s.calls.length
  awaited : ∀ requestId n, s.pending requestId = some n →
    ∃ f ∈ s.frames, f.command = n ∧ f.requestId = requestId
  queued : ∀ q ∈ s.queue, ∃ c, s.calls[q.respondTo]? = some c ∧ Undelivered c

theorem numbered_new : Numbered ObsBridge.new where
  nodup := List.nodup_nil
  known := by simp [ObsBridge.numbers, ObsBridge.new]
  awaited _ _ := nofun
  queued _ := nofun

section

variable {s t : ObsBridge} {a : ObsLabel} {n : CommandId} {c : Call}

theorem Numbered.not_sent (h : Numbered s) {q : ObsCommand} (hq : q ∈ s.queue) {f : Frame}
    (hf : f ∈ s.frames) : f.command ≠ q.respondTo := by
  obtain ⟨-, -, hne⟩ := List.nodup_append.mp h.nodup
  exact hne _ (List.mem_map.mpr ⟨f, hf, rfl⟩) _ (List.mem_map.mpr ⟨q, hq, rfl⟩)

theorem Numbered.not_awaited (h : Numbered s) {q : ObsCommand} (hq : q ∈ s.queue)
    (requestId : String) : s.pending requestId ≠ some q.respondTo := by
  intro hp
  obtain ⟨f, hf, hcommand, -⟩ := h.awaited requestId _ hp
  exact h.not_sent hq hf hcommand

theorem undelivered_of_moves (h : Numbered s) {q : ObsCommand} (hq : q ∈ s.queue)
    (ht : q ∈ t.queue) {c' : Call} (hm : Moves s a t q.respondTo c c') (hc : Undelivered c) :
    Undelivered c' := by
  cases hm with
  | stays => exact hc
  | answered _ _ hp | replaced hp => exact absurd hp (h.not_awaited hq _)
  | ended hnil =>
    rw [hnil] at ht
    cases ht
  | collected hch | lost hch => rcases hc with ⟨hc, -⟩ | ⟨hc, -⟩ <;> cases hch.symm.trans hc
  | expired => exact .inr ⟨rfl, rfl⟩

variable {x : BridgeActionExecutor} {parse : List UInt8 → Except String Value}

theorem length_calls_le (ht : ObsBridge.step x parse s a = some t) :
    s.calls.length ≤ t.calls.length := by
  by_contra hlt
  obtain ⟨c, hc⟩ : ∃ c, s.calls[t.calls.length]? = some c :=
    ⟨_, List.getElem?_eq_getElem (by omega)⟩
  obtain ⟨c', hc', -⟩ := moves_step ht hc
  obtain ⟨hlt', -⟩ := List.getElem?_eq_some_iff.mp hc'
  exact absurd hlt' (Nat.lt_irrefl _)

theorem Numbered.queued_step (h : Numbered s) (ht : ObsBridge.step x parse s a = some t)
    {q : ObsCommand} (hs : q ∈ s.queue) (hq : q ∈ t.queue) :
    ∃ c, t.calls[q.respondTo]? = some c ∧ Undelivered c := by
  obtain ⟨c, hc, hu⟩ := h.queued q hs
  obtain ⟨c', hc', hm⟩ := moves_step ht hc
  exact ⟨c', hc', undelivered_of_moves h hs hq hm hu⟩

theorem numbered_step (h : Numbered s) (ht : ObsBridge.step x parse s a = some t) :
    Numbered t := by
  have hle := length_calls_le ht
  cases flow_step ht with
  | kept ha hq hf hp =>
    have hsub : t.numbers.Sublist s.numbers := by
      unfold ObsBridge.numbers
      rw [hf]
      exact (List.Sublist.refl _).append (hq.map _)
    exact
      { nodup := h.nodup.sublist hsub
        known := fun n hn => Nat.lt_of_lt_of_le (h.known n (hsub.subset hn)) hle
        awaited := fun requestId n hn => hf ▸ h.awaited requestId n (hp requestId n hn)
        queued := fun q hmem => h.queued_step ht (hq.subset hmem) hmem }
  | issued q req ha htype hcheck hq hn hcalls hf hp =>
    have hnumbers : t.numbers = s.numbers ++ [q.respondTo] := by
      simp [ObsBridge.numbers, hf, hq]
    have hc : t.calls[q.respondTo]? = some ⟨req, .empty, none⟩ := by
      rw [hcalls, hn, List.getElem?_concat_length]
    have hlt : q.respondTo < t.calls.length := (List.getElem?_eq_some_iff.mp hc).1
    refine
      { nodup := ?_
        known := ?_
        awaited := fun requestId n hn => hf ▸ h.awaited requestId n (hp ▸ hn)
        queued := ?_ }
    · rw [hnumbers, List.nodup_append]
      refine ⟨h.nodup, by simp, fun m hm k hmem => ?_⟩
      have hm := h.known m hm
      rw [List.mem_singleton.mp hmem, hn]
      exact Nat.ne_of_lt hm
    · rw [hnumbers]
      exact List.forall_mem_append.mpr
        ⟨fun n hn => Nat.lt_of_lt_of_le (h.known n hn) hle, List.forall_mem_singleton.mpr hlt⟩
    · rw [hq]
      refine List.forall_mem_append.mpr ⟨fun q' hold => h.queued_step ht hold ?_,
        List.forall_mem_singleton.mpr ⟨_, hc, .inl ⟨rfl, rfl⟩⟩⟩
      exact hq ▸ List.mem_append_left _ hold
  | transmitted q rest requestId succeeds ha hs hq hf hp =>
    have hsub : t.numbers.Sublist s.numbers := by
      unfold ObsBridge.numbers
      rw [hf, hs, List.map_append, List.append_assoc, List.map_cons]
      exact (List.Sublist.refl _).append ((hq.map _).cons_cons _)
    refine
      { nodup := h.nodup.sublist hsub
        known := fun n hn => Nat.lt_of_lt_of_le (h.known n (hsub.subset hn)) hle
        awaited := ?_
        queued := fun q' hmem => ?_ }
    · intro requestId' n hn
      rw [hf]
      rcases hp requestId' n hn with ⟨rfl, rfl⟩ | hold
      · exact ⟨_, List.mem_append_right _ (List.mem_singleton_self _), rfl, rfl⟩
      · obtain ⟨f, hmem, hcf⟩ := h.awaited requestId' n hold
        exact ⟨f, List.mem_append_left _ hmem, hcf⟩
    · refine h.queued_step ht ?_ hmem
      rw [hs]
      exact List.mem_cons_of_mem _ (hq.subset hmem)

theorem numbered_run {as : List ObsLabel}
    (hr : run (ObsBridge.step x parse) ObsBridge.new as = some t) : Numbered t :=
  run_invariant_of_step (fun _ _ _ => numbered_step) numbered_new hr

end

/-! ## Where results come from -/

def Resolves (s t : ObsBridge) (n : CommandId) : Prop :=
  ∃ c c' r, s.calls[n]? = some c ∧ c.channel = .empty ∧ t.calls[n]? = some c' ∧
    c'.channel = .sent r

section

variable (x : BridgeActionExecutor) (parse : List UInt8 → Except String Value)

def FromResponse (as : List ObsLabel) (n : CommandId) (r : Except ObsCommandError Value) : Prop :=
  ∃ before message after s t f, as = before ++ .receive message :: after ∧
    run (ObsBridge.step x parse) ObsBridge.new before = some s ∧
    ObsBridge.step x parse s (.receive message) = some t ∧ Resolves s t n ∧
    f ∈ s.frames ∧ f.command = n ∧ message.Carries f.requestId r

variable {x parse}

theorem FromResponse.append {as : List ObsLabel} {n : CommandId}
    {r : Except ObsCommandError Value} (h : FromResponse x parse as n r) (bs : List ObsLabel) :
    FromResponse x parse (as ++ bs) n r := by
  obtain ⟨before, message, after, s, t, f, rfl, hrest⟩ := h
  refine ⟨before, message, after ++ bs, s, t, f, ?_, hrest⟩
  rw [List.append_assoc, List.cons_append]

/-- Results that callers get without having heard of OBS. -/
def Unheard (r : Except ObsCommandError Value) : Prop :=
  r = .error .timeout ∨ r = .error .notConnected

def Call.Heard (c : Call) (r : Except ObsCommandError Value) : Prop :=
  c.channel = .sent r ∨ c.result = some r ∧ ¬ Unheard r

variable {s t : ObsBridge} {a : ObsLabel} {n : CommandId} {c c' : Call}
  {r : Except ObsCommandError Value}

theorem JustMade.not_heard (h : JustMade c) : ¬ c.Heard r := by
  rcases h with ⟨hch, hr⟩ | ⟨hch, hr⟩
  · simp [Call.Heard, hch, hr]
  · rintro (hsent | ⟨hres, hu⟩)
    · cases hch.symm.trans hsent
    · cases hr.symm.trans hres
      exact hu (.inr rfl)

theorem Moves.heard (hm : Moves s a t n c c') (h : c'.Heard r) :
    c.Heard r ∨ c.channel = .empty ∧ c'.channel = .sent r ∧
      ∃ message requestId, a = .receive message ∧ message.Carries requestId r ∧
        s.pending requestId = some n := by
  cases hm with
  | stays => exact .inl h
  | answered ha hcarries hp hempty =>
    rcases h with hsent | hres
    · cases hsent
      exact .inr ⟨hempty, rfl, _, _, ha, hcarries, hp⟩
    · exact .inl (.inr hres)
  | replaced | ended => exact .inl (h.imp_left Oneshot.sent_of_dropSender)
  | collected hsent =>
    rcases h with hch | ⟨hres, -⟩
    · exact .inl (.inl hch)
    · cases hres
      exact .inl (.inl hsent)
  | lost hdropped hnone =>
    rcases h with hch | ⟨hres, hu⟩
    · exact .inl (.inl hch)
    · cases hres
      exact absurd (.inr rfl) hu
  | expired hempty hnone =>
    rcases h with hch | ⟨hres, hu⟩
    · cases hch
    · cases hres
      exact absurd (.inl rfl) hu

/-- By induction over the run, from its end. -/
theorem fromResponse_run {as : List ObsLabel}
    (hr : run (ObsBridge.step x parse) ObsBridge.new as = some t) (hc : t.calls[n]? = some c)
    (h : c.Heard r) : FromResponse x parse as n r := by
  induction as using List.reverseRecOn generalizing t c with
  | nil =>
    cases hr
    cases hc
  | append_singleton as a ih =>
    rw [run_append] at hr
    obtain ⟨s, hs, hlast⟩ := Option.bind_eq_some_iff.mp hr
    obtain ⟨u, hstep, hnil⟩ := run_cons_eq_some.mp hlast
    cases hnil
    cases hold : s.calls[n]? with
    | none => exact absurd h ((callsStep_step hstep).justMade hold hc).not_heard
    | some c₀ =>
      obtain ⟨c₁, hc₁, hmove⟩ := moves_step hstep hold
      cases hc.symm.trans hc₁
      rcases hmove.heard h with hheard | ⟨hempty, hsent, message, requestId, rfl, hm, hp⟩
      · exact (ih hs hold hheard).append [a]
      · obtain ⟨f, hf, hcommand, rfl⟩ := (numbered_run hs).awaited requestId n hp
        exact ⟨as, message, [], s, t, f, rfl, hs, hstep, ⟨c₀, c, r, hold, hempty, hc, hsent⟩, hf,
          hcommand, hm⟩

theorem WsMessage.Carries.requestId_eq {message : WsMessage} {requestId requestId' : String}
    {r r' : Except ObsCommandError Value} (h : message.Carries requestId r)
    (h' : message.Carries requestId' r') : requestId = requestId' := by
  obtain ⟨-, response, hd, hid, -⟩ := h
  obtain ⟨-, response', hd', hid', -⟩ := h'
  cases hd.symm.trans hd'
  exact Option.mem_unique hid hid'

theorem Resolves.awaited (ht : ObsBridge.step x parse s a = some t) (h : Resolves s t n) :
    ∃ message requestId r, a = .receive message ∧ message.Carries requestId r ∧
      s.pending requestId = some n := by
  obtain ⟨c, c', r, hc, hempty, hc', hsent⟩ := h
  obtain ⟨c₁, hc₁, hmove⟩ := moves_step ht hc
  cases hc'.symm.trans hc₁
  cases hmove with
  | answered ha hm hp => exact ⟨_, _, _, ha, hm, hp⟩
  | stays => cases hempty.symm.trans hsent
  | replaced | ended => cases hempty.symm.trans (Oneshot.sent_of_dropSender hsent)
  | collected hch | lost hch => cases hempty.symm.trans hch
  | expired => cases hsent

theorem resolves_unique (ht : ObsBridge.step x parse s a = some t) {m : CommandId}
    (hn : Resolves s t n) (hm : Resolves s t m) : n = m := by
  obtain ⟨message, requestId, r, rfl, hcarries, hp⟩ := hn.awaited ht
  obtain ⟨message', requestId', r', ha, hcarries', hp'⟩ := hm.awaited ht
  cases ha
  obtain rfl := hcarries.requestId_eq hcarries'
  exact Option.mem_unique hp hp'

/-! ## Commands that are sent late -/

def GivenUp (n : CommandId) (s : ObsBridge) : Prop :=
  (∃ c r, s.calls[n]? = some c ∧ c.result = some r ∧ Unheard r) ∧ ∀ f ∈ s.frames, f.command ≠ n

/-- A command that is taken from the queue has a caller that waits. -/
def TakenInTime (s : ObsBridge) (a : ObsLabel) : Prop :=
  ∀ requestId succeeds q rest c, a = .transmit requestId succeeds → s.queue = q :: rest →
    s.calls[q.respondTo]? = some c → c.result = none

theorem Moves.result_eq (hm : Moves s a t n c c') (h : c.result = some r) :
    c'.result = some r := by
  cases hm with
  | stays | answered | replaced | ended => exact h
  | collected _ hr | lost _ hr | expired _ hr => cases h.symm.trans hr

theorem taken_of_not_givenUp (ht : ObsBridge.step x parse s a = some t) (h : GivenUp n s)
    (hn : ¬ GivenUp n t) :
    ∃ requestId succeeds q rest, a = .transmit requestId succeeds ∧ s.queue = q :: rest ∧
      q.respondTo = n := by
  obtain ⟨⟨c, r, hc, hr, hu⟩, hframes⟩ := h
  obtain ⟨c', hc', hmove⟩ := moves_step ht hc
  have hsent : ¬ ∀ f ∈ t.frames, f.command ≠ n :=
    fun hall => hn ⟨⟨c', r, hc', hmove.result_eq hr, hu⟩, hall⟩
  cases flow_step ht with
  | kept _ _ hf | issued _ _ _ _ _ _ _ _ hf => exact absurd (hf ▸ hframes) hsent
  | transmitted q rest requestId succeeds ha hs hq hf =>
    refine ⟨requestId, succeeds, q, rest, ha, hs, ?_⟩
    by_contra hne
    rw [hf] at hsent
    exact hsent (List.forall_mem_append.mpr ⟨hframes, List.forall_mem_singleton.mpr hne⟩)

theorem takenInTime_iff (h : Numbered s) (ht : ObsBridge.step x parse s a = some t) :
    (∀ n, ∀ u ∈ ObsBridge.step x parse s a, GivenUp n s → ¬ GivenUp n u → False) ↔
      TakenInTime s a := by
  constructor
  · rintro hkeeps requestId succeeds q rest c rfl hq hc
    have hmem : q ∈ s.queue := by
      rw [hq]
      exact List.mem_cons_self
    obtain ⟨c', hc', hu⟩ := h.queued q hmem
    cases hc.symm.trans hc'
    rcases hu with ⟨-, hnone⟩ | ⟨-, htimeout⟩
    · exact hnone
    · -- the caller has given the command up, and now it is sent
      have hgiven : GivenUp q.respondTo s :=
        ⟨⟨c, _, hc, htimeout, .inl rfl⟩, fun f hf => h.not_sent hmem hf⟩
      refine (hkeeps q.respondTo t ht hgiven ?_).elim
      rintro ⟨-, hframes⟩
      cases flow_step ht with
      | kept ha => exact ha _ _ rfl
      | issued q req ha => cases ha
      | transmitted q' rest' _ _ ha hs _ hf =>
        cases ha
        cases hq.symm.trans hs
        refine hframes ⟨q.requestType, requestId, q.requestData, q.respondTo⟩ ?_ rfl
        rw [hf]
        exact List.mem_append_right _ (List.mem_singleton_self _)
  · intro hin n u hu hgiven hnot
    obtain ⟨requestId, succeeds, q, rest, ha, hq, rfl⟩ := taken_of_not_givenUp hu hgiven hnot
    obtain ⟨⟨c, r, hc, hr, -⟩, -⟩ := hgiven
    have hnone := hin requestId succeeds q rest c ha hq hc
    cases hr.symm.trans hnone

end

section

variable (x : BridgeActionExecutor) (parse : List UInt8 → Except String Value)

/-- Each command has one request id, results come under it, and given-up commands are not sent. -/
structure Orderly (as : List ObsLabel) (t : ObsBridge) : Prop where
  sentOnce : (t.frames.map Frame.command).Nodup
  source : ∀ n c r, t.calls[n]? = some c → c.result = some r → ¬ Unheard r →
    FromResponse x parse as n r
  resolvesOne : ∀ before message after u v, as = before ++ .receive message :: after →
    run (ObsBridge.step x parse) ObsBridge.new before = some u →
    ObsBridge.step x parse u (.receive message) = some v →
    ∀ n m, Resolves u v n → Resolves u v m → n = m
  notLate : ∀ n, LostOnlyBy (ObsBridge.step x parse) (GivenUp n) (fun _ => False) ObsBridge.new as

variable {x parse}

/-- **Which runs are orderly**: exactly those in which commands are taken while their callers wait.
-/
theorem orderly_iff {as : List ObsLabel} {t : ObsBridge}
    (hr : run (ObsBridge.step x parse) ObsBridge.new as = some t) :
    Orderly x parse as t ↔ Along (ObsBridge.step x parse) TakenInTime ObsBridge.new as := by
  have hlate : (∀ n, LostOnlyBy (ObsBridge.step x parse) (GivenUp n) (fun _ => False)
      ObsBridge.new as) ↔ Along (ObsBridge.step x parse) TakenInTime ObsBridge.new as := by
    simp only [lostOnlyBy_iff hr]
    rw [along_forall hr]
    exact along_congr (I := Numbered) (fun s a t hs ht => takenInTime_iff hs ht)
      (fun s a t hs _ ht => numbered_step hs ht) numbered_new hr
  constructor
  · intro h
    exact hlate.mp h.notLate
  · intro h
    have hnumbered := numbered_run hr
    exact
      { sentOnce := (List.nodup_append.mp hnumbered.nodup).1
        source := fun n c r hc hres hu => fromResponse_run hr hc (.inr ⟨hres, hu⟩)
        resolvesOne := fun _ _ _ _ _ _ _ hstep _ _ hn hm => resolves_unique hstep hn hm
        notLate := hlate.mpr h }

end

/-! ### A scene that is switched late -/

def openScenes : BridgeActionExecutor := ⟨true, [setCurrentProgramScene], []⟩

def readScene (_ : List UInt8) : Except String Value :=
  .ok (.object [("sceneName", .string "Live")])

def switchToLive : BridgeActionRequest := ⟨"obs_command", setCurrentProgramScene, []⟩

def doneResponse (requestId : String) : WsMessage :=
  ⟨7, some (.object [("requestId", .string requestId),
    ("requestStatus", .object [("result", .bool true)])])⟩

def promptSwitch : List ObsLabel :=
  [.identified, .execute switchToLive, .transmit "id-1" true, .receive (doneResponse "id-1"),
    .collect 0]

theorem orderly_promptSwitch : ∃ t,
    run (ObsBridge.step openScenes readScene) ObsBridge.new promptSwitch = some t ∧
      Orderly openScenes readScene promptSwitch t ∧
      t.calls.map Call.result = [some (.ok .null)] := by
  have hother : ∀ s a, (∀ requestId succeeds, a ≠ .transmit requestId succeeds) →
      TakenInTime s a := by
    intro s a ha requestId succeeds q rest c h
    exact absurd h (ha requestId succeeds)
  refine ⟨_, rfl, (orderly_iff rfl).mpr ⟨hother _ _ (by simp), hother _ _ (by simp), ?_,
    hother _ _ (by simp), hother _ _ (by simp), trivial⟩, rfl⟩
  intro requestId succeeds q rest c _ hq hc
  cases hq
  cases hc
  rfl

def lateSwitch : List ObsLabel :=
  [.execute switchToLive, .expire 0, .identified, .transmit "id-1" true]

theorem scene_switched_after_timeout : ∃ t,
    run (ObsBridge.step openScenes readScene) ObsBridge.new lateSwitch = some t ∧
      t.calls.map Call.result = [some (.error .timeout)] ∧
      t.frames.map Frame.requestType = [setCurrentProgramScene] ∧
      ¬ Orderly openScenes readScene lateSwitch t := by
  refine ⟨_, rfl, rfl, rfl, fun h => ?_⟩
  have hgiven := h.notLate 0 [.execute switchToLive, .expire 0] [.identified, .transmit "id-1" true]
    [] _ _ rfl rfl rfl ⟨⟨_, _, rfl, rfl, .inl rfl⟩, fun f hf => by cases hf⟩
  obtain ⟨a, -, hfalse⟩ := hgiven fun hstill => hstill.2 _ (List.mem_singleton_self _) rfl
  exact hfalse

end Penguind.Waddlebot
