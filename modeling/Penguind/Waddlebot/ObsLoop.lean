import Mathlib.Data.List.Nodup
import Penguind.Waddlebot.ObsResponses

/-!
# The loop of the OBS connection

Each iteration waits for a message from OBS or a command from the adapter. A channel that has
ended delivers its end whenever it is asked, which the loop passes over. An entry stays until the
response comes.
-/

namespace Penguind.Waddlebot

open Foundation

structure ObsLoop where
  bridge : ObsBridge
  adapter : Bool

inductive LoopLabel
  | bridge (a : ObsLabel)
  | dropAdapter
  /-- An iteration that finds the end of the command channel. -/
  | idle

namespace ObsLoop

variable (x : BridgeActionExecutor) (parse : List UInt8 → Except String Value)

def new : ObsLoop := ⟨.new, true⟩

def step (s : ObsLoop) : LoopLabel → Option ObsLoop
  | .bridge (.execute req) =>
    if s.adapter then (s.bridge.step x parse (.execute req)).map fun b => { s with bridge := b }
    else none
  | .bridge a => (s.bridge.step x parse a).map fun b => { s with bridge := b }
  | .dropAdapter =>
    if s.adapter ∧ ∀ c ∈ s.bridge.calls, c.result.isSome then some { s with adapter := false }
    else none
  | .idle =>
    match s.bridge.connection, s.bridge.queue, s.adapter with
    | .connected, [], false => some s
    | _, _, _ => none

def Idles (s : ObsLoop) : Prop :=
  s.bridge.connection = .connected ∧ s.bridge.queue = [] ∧ s.adapter = false

/-- Iterations consume something or end the loop, and no entry is kept for one who has given up. -/
structure Tidy (s : ObsLoop) : Prop where
  consumes : ¬ s.Idles
  awaited : ∀ requestId n c, s.bridge.pending requestId = some n → s.bridge.calls[n]? = some c →
    c.result = none

/-- Commands that are sent have callers that wait, and callers give up only what is not pending. -/
def Prompt (s : ObsLoop) : LoopLabel → Prop
  | .bridge .identified => s.adapter = true ∨ s.bridge.queue ≠ []
  | .bridge (.transmit _ succeeds) => succeeds = true →
    (s.adapter = true ∨ s.bridge.queue.tail ≠ []) ∧
      ∀ q ∈ s.bridge.queue.head?, ∀ c ∈ s.bridge.calls[q.respondTo]?, c.result = none
  | .bridge (.expire n) => ∀ requestId, s.bridge.pending requestId ≠ some n
  | .dropAdapter => s.bridge.connection ≠ .connected ∨ s.bridge.queue ≠ []
  | .bridge _ | .idle => True

end ObsLoop

section

variable {x : BridgeActionExecutor} {parse : List UInt8 → Except String Value} {s t : ObsBridge}
  {a : ObsLabel} {n : CommandId} {c : Call} {requestId : String}

def Call.Open (c : Call) : Prop := c.channel = .empty ∨ c.channel = .closed

theorem Numbered.requestId_unique (h : Numbered s) {requestId' : String}
    (hp : s.pending requestId = some n) (hp' : s.pending requestId' = some n) :
    requestId = requestId' := by
  obtain ⟨f, hf, hn, rfl⟩ := h.awaited requestId n hp
  obtain ⟨f', hf', hn', rfl⟩ := h.awaited requestId' n hp'
  have hnodup := (List.nodup_append.mp h.nodup).1
  rw [List.inj_on_of_nodup_map hnodup hf hf' (hn.trans hn'.symm)]

theorem Numbered.pending_lt (h : Numbered s) (hp : s.pending requestId = some n) :
    n < s.calls.length := by
  obtain ⟨f, hf, rfl, -⟩ := h.awaited requestId n hp
  exact h.known _ (List.mem_append_left _ (List.mem_map_of_mem hf))

theorem awaited_step (h : Numbered s) (ht : s.step x parse a = some t)
    (hp : t.pending requestId = some n) (hc : t.calls[n]? = some c) :
    s.pending requestId = some n ∧ (s.calls[n]? = some c ∨
      a = .expire n ∧ c.channel = .closed ∨ ∃ c₀, s.calls[n]? = some c₀ ∧ ¬ c₀.Open) ∨
    ∃ q rest, a = .transmit requestId true ∧ s.queue = q :: rest ∧ q.respondTo = n ∧
      s.calls[n]? = some c := by
  have hne {m : CommandId} {f : Call → Call} (hm : m ≠ n)
      (hc : (s.calls.modify m f)[n]? = some c) : s.calls[n]? = some c := by
    simpa [List.getElem?_modify, hm] using hc
  revert ht hp hc
  fun_cases ObsBridge.step x parse s a with rintro ⟨⟩ hp hc
  | case1 req =>
    revert hp hc
    fun_cases ObsBridge.execute s x parse req with intro hp hc
    | case1 requestType requestData =>
      have hold : s.pending requestId = some n := by
        revert hp
        fun_cases ObsBridge.sendRequest <;> exact id
      refine .inl ⟨hold, .inl ?_⟩
      revert hc
      fun_cases ObsBridge.sendRequest <;>
        exact (List.getElem?_append_left (h.pending_lt hold)).symm.trans
    | case2 | case3 | case4 => exact .inl ⟨hp, .inl hc⟩
  | case2 => exact .inl ⟨hp, .inl hc⟩
  | case5 requestId' succeeds q rest hq =>
    cases succeeds with
    | false => cases hp
    | true =>
      have hnot : s.pending requestId' ≠ some q.respondTo :=
        h.not_awaited (hq ▸ List.mem_cons_self) requestId'
      rw [if_pos rfl] at hp hc
      rw [pending_transmit, Function.update_apply] at hp
      split_ifs at hp with hid
      · subst hid
        cases hp
        exact .inr ⟨q, rest, rfl, hq, rfl, calls_transmit q rest hnot ▸ hc⟩
      · rw [calls_transmit q rest fun hp' => hid (h.requestId_unique hp hp')] at hc
        exact .inl ⟨hp, .inl hc⟩
  | case7 message =>
    revert hp hc
    fun_cases ObsBridge.receive s message with
    | case1 response =>
      fun_cases ObsBridge.resolve s response with intro hp hc
      | case1 | case2 => exact .inl ⟨hp, .inl hc⟩
      | case3 requestId' hid m hm =>
        change Function.update s.pending requestId' none requestId = some n at hp
        rw [Function.update_apply] at hp
        split_ifs at hp with heq
        refine .inl ⟨hp, .inl (hne (fun hmn => heq ?_) hc)⟩
        exact h.requestId_unique hp (hmn ▸ hm)
    | case2 =>
      intro hp hc
      exact .inl ⟨hp, .inl hc⟩
  | case10 | case11 => cases hp
  | case13 m _ _ hm | case14 m _ hm =>
    refine .inl ⟨hp, ?_⟩
    by_cases hmn : m = n
    · subst hmn
      exact .inr (.inr ⟨_, hm, by simp [Call.Open]⟩)
    · exact .inl (hne hmn hc)
  | case16 m _ hm =>
    refine .inl ⟨hp, ?_⟩
    have hmodify : ((s.calls.modify m _).modify m _)[n]? = some c := hc
    rw [List.modify_modify_eq] at hmodify
    by_cases hmn : m = n
    · subst hmn
      rw [List.getElem?_modify_eq, hm] at hmodify
      cases hmodify
      exact .inr (.inl ⟨rfl, rfl⟩)
    · exact .inl (hne hmn hmodify)

end

namespace ObsLoop

variable {x : BridgeActionExecutor} {parse : List UInt8 → Except String Value} {s t : ObsLoop}

structure Inv (s : ObsLoop) : Prop where
  numbered : Numbered s.bridge
  unanswered : ∀ requestId n c, s.bridge.pending requestId = some n →
    s.bridge.calls[n]? = some c → c.Open

theorem bridge_step {a : ObsLabel} (ht : s.step x parse (.bridge a) = some t) :
    ∃ b, s.bridge.step x parse a = some b ∧ t = { s with bridge := b } ∧
      ∀ req, a = .execute req → s.adapter = true := by
  cases a with
  | execute req =>
    obtain ⟨hadapter, ht⟩ := Option.ite_none_right_eq_some.mp ht
    obtain ⟨b, hb, rfl⟩ := Option.map_eq_some_iff.mp ht
    exact ⟨b, hb, rfl, fun _ _ => hadapter⟩
  | _ =>
    obtain ⟨b, hb, rfl⟩ := Option.map_eq_some_iff.mp ht
    exact ⟨b, hb, rfl, nofun⟩

theorem inv_bridge {a : ObsLabel} {b : ObsBridge} (h : s.Inv)
    (hb : s.bridge.step x parse a = some b) : Inv { s with bridge := b } := by
  refine ⟨numbered_step h.numbered hb, fun requestId n c hp hc => ?_⟩
  rcases awaited_step h.numbered hb hp hc with ⟨hold, hsame | ⟨-, hclosed⟩ | ⟨c₀, hc₀, hopen⟩⟩ |
    ⟨q, rest, -, hq, rfl, hsame⟩
  · exact h.unanswered requestId n c hold hsame
  · exact .inr hclosed
  · exact absurd (h.unanswered requestId n c₀ hold hc₀) hopen
  · obtain ⟨c', hc', hun⟩ := h.numbered.queued q (hq ▸ List.mem_cons_self)
    cases hsame.symm.trans hc'
    exact hun.imp And.left And.left

theorem tidy_of_prompt {a : ObsLabel} {b : ObsBridge} (h : s.Inv) (hs : s.Tidy)
    (hb : s.bridge.step x parse a = some b) (ha : ∀ req, a = .execute req → s.adapter = true)
    (hprompt : s.Prompt (.bridge a)) : Tidy { s with bridge := b } := by
  constructor
  · rintro ⟨hconnected, hqueue, hgone⟩
    have hnot : s.adapter ≠ true := Bool.eq_false_iff.mp hgone
    revert hb
    fun_cases ObsBridge.step x parse s.bridge a with rintro ⟨⟩
    | case1 req => exact hnot (ha req rfl)
    | case2 => exact hprompt.resolve_left hnot hqueue
    | case5 requestId succeeds q rest hq =>
      cases succeeds with
      | false => cases hconnected
      | true =>
        refine (hprompt rfl).1.resolve_left hnot ?_
        rw [hq]
        exact hqueue
    | case7 message hconn =>
      refine hs.consumes ⟨hconn, ?_, hgone⟩
      revert hqueue
      fun_cases ObsBridge.receive s.bridge message with
      | case1 response => fun_cases ObsBridge.resolve s.bridge response <;> exact id
      | case2 => exact id
    | case10 | case11 => cases hconnected
    | case13 | case14 | case16 => exact hs.consumes ⟨hconnected, hqueue, hgone⟩
  · intro requestId n c hp hc
    rcases awaited_step h.numbered hb hp hc with ⟨hold, hsame | ⟨rfl, -⟩ | ⟨c₀, hc₀, hopen⟩⟩ |
      ⟨q, rest, rfl, hq, rfl, hsame⟩
    · exact hs.awaited requestId n c hold hsame
    · exact absurd hold (hprompt requestId)
    · exact absurd (h.unanswered requestId n c₀ hold hc₀) hopen
    · exact (hprompt rfl).2 q (by simp [hq]) c hsame

theorem prompt_of_tidy {a : ObsLabel} {b : ObsBridge} (h : s.Inv)
    (hb : s.bridge.step x parse a = some b) (ht : Tidy { s with bridge := b }) :
    s.Prompt (.bridge a) := by
  revert hb ht
  fun_cases ObsBridge.step x parse s.bridge a with rintro ⟨⟩ ht
  | case2 =>
    by_contra hnot
    simp only [Prompt, not_or, not_not, Bool.not_eq_true] at hnot
    exact ht.consumes ⟨rfl, hnot.2, hnot.1⟩
  | case5 requestId succeeds q rest hq =>
    rintro rfl
    refine ⟨?_, fun q' hq' c hc => ?_⟩
    · by_contra hnot
      simp only [hq, List.tail_cons, not_or, not_not, Bool.not_eq_true] at hnot
      exact ht.consumes ⟨(connection_transmit q rest).trans ‹_›, hnot.2, hnot.1⟩
    obtain rfl : q = q' := by simpa [hq] using hq'
    have hnot : s.bridge.pending requestId ≠ some q.respondTo :=
      h.numbered.not_awaited (hq ▸ List.mem_cons_self) requestId
    refine ht.awaited requestId q.respondTo c ?_ ((calls_transmit q rest hnot).trans hc)
    exact (congrFun (pending_transmit q rest) requestId).trans (Function.update_self ..)
  | case16 n request hn =>
    intro requestId hp
    have hgiven : ((s.bridge.calls.modify n fun c => { c with channel := .closed }).modify n
        fun c => { c with result := some (.error .timeout) })[n]? =
          some ⟨request, .closed, some (.error .timeout)⟩ := by
      simp [hn]
    cases ht.awaited requestId n _ hp hgiven
  | _ => trivial

theorem inv_step {a : LoopLabel} (h : s.Inv) (ht : s.step x parse a = some t) : t.Inv := by
  cases a with
  | bridge a =>
    obtain ⟨b, hb, rfl, ha⟩ := bridge_step ht
    exact inv_bridge h hb
  | dropAdapter =>
    obtain ⟨-, ⟨⟩⟩ := Option.ite_none_right_eq_some.mp ht
    exact ⟨h.numbered, h.unanswered⟩
  | idle =>
    simp only [ObsLoop.step] at ht
    split at ht <;> cases ht
    exact h

theorem tidy_step {a : LoopLabel} (h : s.Inv) (hs : s.Tidy) (ht : s.step x parse a = some t) :
    t.Tidy ↔ s.Prompt a := by
  cases a with
  | bridge a =>
    obtain ⟨b, hb, rfl, ha⟩ := bridge_step ht
    exact ⟨prompt_of_tidy h hb, tidy_of_prompt h hs hb ha⟩
  | dropAdapter =>
    obtain ⟨-, ⟨⟩⟩ := Option.ite_none_right_eq_some.mp ht
    constructor
    · intro htidy
      by_contra hnot
      simp only [Prompt, not_or, not_not] at hnot
      exact htidy.consumes ⟨hnot.1, hnot.2, rfl⟩
    · intro hprompt
      refine ⟨?_, hs.awaited⟩
      rintro ⟨hconnected, hqueue, -⟩
      exact hprompt.elim (fun h => h hconnected) fun h => h hqueue
  | idle =>
    simp only [ObsLoop.step] at ht
    split at ht
    · next hconnected hqueue hgone => exact absurd ⟨hconnected, hqueue, hgone⟩ hs.consumes
    · cases ht

end ObsLoop

/-- **The loop is tidy** exactly if every step is prompt. -/
theorem always_tidy_iff (x : BridgeActionExecutor) (parse : List UInt8 → Except String Value)
    {t : ObsLoop} {as : List LoopLabel} (hr : run (ObsLoop.step x parse) ObsLoop.new as = some t) :
    Throughout (ObsLoop.step x parse) ObsLoop.Tidy ObsLoop.new as ↔
      Along (ObsLoop.step x parse) ObsLoop.Prompt ObsLoop.new as := by
  have hnew : ObsLoop.new.Tidy := by
    refine ⟨?_, nofun⟩
    rintro ⟨hconnected, -⟩
    cases hconnected
  exact throughout_iff_along (J := ObsLoop.Inv) (fun _ _ _ h _ ht => ObsLoop.inv_step h ht)
    (fun _ _ _ h hs ht => ObsLoop.tidy_step h hs ht) ⟨numbered_new, nofun⟩ hnew hr

def oneCommand : BridgeActionExecutor := ⟨true, ["StartStream"], []⟩

def readNothing : List UInt8 → Except String Value := fun _ => .ok .null

/-- A caller gives up, and the adapter is dropped. -/
def unanswered : List LoopLabel :=
  [.bridge (.execute ⟨"obs_command", "StartStream", []⟩), .bridge .identified,
    .bridge (.transmit "1" true), .bridge (.expire 0), .dropAdapter]

theorem tidy_sent : Throughout (ObsLoop.step oneCommand readNothing) ObsLoop.Tidy ObsLoop.new
    (unanswered.take 3) := by
  refine (always_tidy_iff oneCommand readNothing (Option.some_get (by decide +kernel)).symm).mpr ?_
  refine ⟨trivial, .inl rfl, ?_, trivial⟩
  refine fun _ => ⟨.inl rfl, ?_⟩
  rintro _ ⟨⟩ _ ⟨⟩
  rfl

/-- **The loop runs idle** after the adapter was dropped. -/
theorem dropped_adapter_idles :
    ∃ s, run (ObsLoop.step oneCommand readNothing) ObsLoop.new unanswered = some s ∧
      (∀ n, run (ObsLoop.step oneCommand readNothing) s (List.replicate n .idle) = some s) ∧
      s.bridge.pending "1" = some 0 ∧
      s.bridge.calls.map (·.result) = [some (.error .timeout)] := by
  refine ⟨_, (Option.some_get (by decide +kernel)).symm, fun n => ?_, by rfl, by rfl⟩
  induction n with
  | zero => rfl
  | succ n ih => exact ih

end Penguind.Waddlebot
