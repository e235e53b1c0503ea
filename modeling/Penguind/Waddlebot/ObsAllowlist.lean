import Penguind.Waddlebot.ObsBridge

/-!
# What is sent to OBS

A frame is sent only if its request type is allowed; with a list of scenes, a request that
switches the scene has to name an allowed one as a text and select it by nothing else. How OBS
selects a scene otherwise is a parameter.
-/

namespace Penguind.Waddlebot

open Foundation

/-- `selectsOtherwise` tells whether OBS selects the scene by another field. -/
structure FrameAllowed (x : BridgeActionExecutor) (selectsOtherwise : Value → Bool) (f : Frame) :
    Prop where
  command : f.requestType ∈ x.obsAllowedCommands
  scene : x.obsAllowedScenes ≠ [] → f.requestType = setCurrentProgramScene →
    (∃ name ∈ x.obsAllowedScenes, f.requestData.get "sceneName" = some (.string name)) ∧
      selectsOtherwise f.requestData = false

/-- A command that switches the scene names it as a text, and by nothing else. -/
def NamesItsScene (x : BridgeActionExecutor) (parse : List UInt8 → Except String Value)
    (selectsOtherwise : Value → Bool) (req : BridgeActionRequest) : Prop :=
  req.actionType = "obs_command" → x.hasAdapter = true →
    req.obsRequestType ∈ x.obsAllowedCommands → req.obsRequestType = setCurrentProgramScene →
    x.obsAllowedScenes ≠ [] → ∀ data, parse req.obsRequestData = .ok data →
      ∃ name, data.get "sceneName" = some (.string name) ∧
        (name ∈ x.obsAllowedScenes → selectsOtherwise data = false)

variable {x : BridgeActionExecutor} {parse : List UInt8 → Except String Value}
  {selectsOtherwise : Value → Bool}

variable {requestType : String} {data : Value}

theorem checkScene_eq_ok {u : Unit} : x.checkScene requestType data = .ok u ↔
      (requestType = setCurrentProgramScene → x.obsAllowedScenes ≠ [] →
        ∀ name, data.get "sceneName" = some (.string name) → name ∈ x.obsAllowedScenes) := by
  unfold BridgeActionExecutor.checkScene
  by_cases ht : requestType = setCurrentProgramScene
  · rw [if_pos ht]
    have hname : ∀ name, (data.get "sceneName").bind Value.asStr = some name ↔
        data.get "sceneName" = some (.string name) := by
      intro name
      simp [Option.bind_eq_some_iff]
    -- without a name that is a text the check passes, and there is nothing to be said of a name
    cases hn : (data.get "sceneName").bind Value.asStr with
    | none =>
      refine ⟨fun _ _ _ name h => ?_, fun _ => rfl⟩
      rw [(hname name).mpr h] at hn
      cases hn
    | some sceneName =>
      rw [hname] at hn
      by_cases hs : x.obsAllowedScenes ≠ [] ∧ sceneName ∉ x.obsAllowedScenes
      · simp only [if_pos hs]
        constructor
        · intro h
          cases h
        · intro h
          exact absurd (h ht hs.1 sceneName hn) hs.2
      · simp only [if_neg hs]
        refine ⟨fun _ _ hne name h => ?_, fun _ => rfl⟩
        cases hn.symm.trans h
        by_contra hmem
        exact hs ⟨hne, hmem⟩
  · rw [if_neg ht]
    exact ⟨fun _ h => absurd h ht, fun _ => rfl⟩

variable {req : BridgeActionRequest}

theorem checkObsCommand_eq_ok : x.checkObsCommand parse req = .ok (requestType, data) ↔
      x.hasAdapter = true ∧ parse req.obsRequestData = .ok data ∧
        req.obsRequestType ∈ x.obsAllowedCommands ∧ requestType = req.obsRequestType ∧
        x.checkScene req.obsRequestType data = .ok () := by
  unfold BridgeActionExecutor.checkObsCommand
  cases hx : x.hasAdapter with
  | false => simp [throw, throwThe, MonadExceptOf.throw]
  | true =>
    cases hd : parse req.obsRequestData with
    | error source => simp [throw, throwThe, MonadExceptOf.throw]
    | ok data' =>
      -- the check for an empty list and the one for membership come down to membership
      by_cases hm : req.obsRequestType ∈ x.obsAllowedCommands
      · have hne : x.obsAllowedCommands ≠ [] := List.ne_nil_of_mem hm
        simp only [hne, if_false, hm, not_true_eq_false, Bool.true_eq_false, true_and]
        cases hs : x.checkScene req.obsRequestType data' with
        | error e =>
          constructor
          · intro h
            cases h
          · rintro ⟨h, -, hc⟩
            cases h
            rw [hs] at hc
            cases hc
        | ok u =>
          constructor
          · intro h
            cases h
            exact ⟨rfl, rfl, hs⟩
          · rintro ⟨h, rfl, -⟩
            cases h
            rfl
      · constructor
        · intro h
          by_cases hne : x.obsAllowedCommands = []
          · simp [hne, throw, throwThe, MonadExceptOf.throw] at h
          · simp [hne, hm, throw, throwThe, MonadExceptOf.throw] at h
        · rintro ⟨-, -, hmem, -⟩
          exact absurd hmem hm

/-! ## Where frames come from -/

def ObsBridge.requestOf (s : ObsBridge) (n : CommandId) : Option BridgeActionRequest :=
  s.calls[n]?.map Call.request

def Passed (x : BridgeActionExecutor) (parse : List UInt8 → Except String Value) (s : ObsBridge)
    (n : CommandId) (requestType : String) (data : Value) : Prop :=
  ∃ req, s.requestOf n = some req ∧ req.actionType = "obs_command" ∧
    x.checkObsCommand parse req = .ok (requestType, data)

structure Traced (x : BridgeActionExecutor) (parse : List UInt8 → Except String Value)
    (s : ObsBridge) : Prop where
  queue : ∀ c ∈ s.queue, Passed x parse s c.respondTo c.requestType c.requestData
  frames : ∀ f ∈ s.frames, Passed x parse s f.command f.requestType f.requestData

theorem requestOf_step {s t : ObsBridge} {a : ObsLabel} {n : CommandId}
    (ht : ObsBridge.step x parse s a = some t) (h : s.requestOf n = some req) :
    t.requestOf n = some req := by
  obtain ⟨c, hc, rfl⟩ := Option.map_eq_some_iff.mp h
  obtain ⟨c', hc', hm⟩ := moves_step ht hc
  refine Option.map_eq_some_iff.mpr ⟨c', hc', ?_⟩
  cases hm <;> rfl

theorem traced_step {s t : ObsBridge} {a : ObsLabel} (h : Traced x parse s)
    (ht : ObsBridge.step x parse s a = some t) : Traced x parse t := by
  have hmono : ∀ n requestType data, Passed x parse s n requestType data →
      Passed x parse t n requestType data := by
    rintro n requestType data ⟨req, hreq, hpassed⟩
    exact ⟨req, requestOf_step ht hreq, hpassed⟩
  cases flow_step ht with
  | kept ha hq hf =>
    refine ⟨fun c hc => hmono _ _ _ (h.queue c (hq.subset hc)), fun f hmem => ?_⟩
    rw [hf] at hmem
    exact hmono _ _ _ (h.frames f hmem)
  | issued q req ha htype hcheck hq hn hcalls hf =>
    refine ⟨fun c hc => ?_, fun f hmem => ?_⟩
    · rw [hq] at hc
      rcases List.mem_append.mp hc with hc | hc
      · exact hmono _ _ _ (h.queue c hc)
      · rw [List.mem_singleton.mp hc]
        refine ⟨req, ?_, htype, hcheck⟩
        unfold ObsBridge.requestOf
        rw [hcalls, hn, List.getElem?_concat_length]
        rfl
    · rw [hf] at hmem
      exact hmono _ _ _ (h.frames f hmem)
  | transmitted q rest requestId succeeds ha hs hq hf =>
    -- the frame takes over what the head of the queue had: its number, its type and its data
    refine ⟨fun c hc => ?_, fun f hmem => ?_⟩
    · refine hmono _ _ _ (h.queue c ?_)
      rw [hs]
      exact List.mem_cons_of_mem _ (hq.subset hc)
    · rw [hf] at hmem
      rcases List.mem_append.mp hmem with hold | hnew
      · exact hmono _ _ _ (h.frames f hold)
      · rw [List.mem_singleton.mp hnew]
        refine hmono _ _ _ (h.queue q ?_)
        rw [hs]
        exact List.mem_cons_self

theorem frame_of_request {as : List ObsLabel} {s : ObsBridge} {f : Frame}
    (hr : run (ObsBridge.step x parse) ObsBridge.new as = some s) (hf : f ∈ s.frames) :
    Passed x parse s f.command f.requestType f.requestData := by
  have hnew : Traced x parse ObsBridge.new :=
    ⟨fun _ hc => absurd hc List.not_mem_nil, fun _ hf => absurd hf List.not_mem_nil⟩
  exact (run_invariant_of_step (fun _ _ _ => traced_step) hnew hr).frames f hf

def sendAlone (req : BridgeActionRequest) : List ObsLabel :=
  [.identified, .execute req, .transmit "id" true]

theorem run_sendAlone (htype : req.actionType = "obs_command")
    (hcheck : x.checkObsCommand parse req = .ok (requestType, data)) :
    ∃ s, run (ObsBridge.step x parse) ObsBridge.new (sendAlone req) = some s ∧
      ⟨requestType, "id", data, 0⟩ ∈ s.frames ∧ s.requestOf 0 = some req := by
  refine ⟨((({ ObsBridge.new with connection := .connected }).sendRequest req requestType
    data).transmit ⟨requestType, data, 0⟩ [] "id"), ?_, ?_, ?_⟩
  · simp only [run, sendAlone, ObsBridge.step, ObsBridge.new, ObsBridge.execute, htype, if_true,
      hcheck, ObsBridge.sendRequest, Option.bind_some, List.nil_append, List.length_nil]
  · exact List.mem_singleton.mpr rfl
  · rfl

/-- **What is sent to OBS is allowed** exactly if scene switches name their scene as a text and by
nothing else. -/
theorem frames_allowed_iff (x : BridgeActionExecutor) (parse : List UInt8 → Except String Value)
    (selectsOtherwise : Value → Bool) (req : BridgeActionRequest) :
    (∀ as s f, run (ObsBridge.step x parse) ObsBridge.new as = some s → f ∈ s.frames →
      s.requestOf f.command = some req → FrameAllowed x selectsOtherwise f) ↔
      NamesItsScene x parse selectsOtherwise req := by
  constructor
  · intro h htype hadapter hmem hscene hne data hdata
    by_cases hs : x.checkScene req.obsRequestType data = .ok ()
    · -- the request passes the checks, so its frame is sent, and it is allowed
      have hcheck : x.checkObsCommand parse req = .ok (req.obsRequestType, data) :=
        checkObsCommand_eq_ok.mpr ⟨hadapter, hdata, hmem, rfl, hs⟩
      obtain ⟨s, hr, hf, hreq⟩ := run_sendAlone htype hcheck
      obtain ⟨⟨name, -, hname⟩, hother⟩ := (h _ s _ hr hf hreq).scene hne hscene
      exact ⟨name, hname, fun _ => hother⟩
    · -- the request is refused, which only happens to one that names a scene
      rw [checkScene_eq_ok] at hs
      push Not at hs
      obtain ⟨-, -, name, hname, hnot⟩ := hs
      exact ⟨name, hname, fun hallowed => absurd hallowed hnot⟩
  · intro h as s f hr hf hreq
    obtain ⟨req', hreq', htype, hcheck⟩ := frame_of_request hr hf
    -- the command has one number, so the request it was issued for is the one in question
    cases hreq.symm.trans hreq'
    obtain ⟨hadapter, hdata, hmem, hrt, hs⟩ := checkObsCommand_eq_ok.mp hcheck
    refine ⟨hrt ▸ hmem, fun hne hscene => ?_⟩
    rw [hrt] at hscene
    obtain ⟨name, hname, hother⟩ := h htype hadapter hmem hscene hne _ hdata
    have hallowed : name ∈ x.obsAllowedScenes := checkScene_eq_ok.mp hs hscene hne name hname
    exact ⟨⟨name, hallowed, hname⟩, hother hallowed⟩

def oneScene : BridgeActionExecutor := ⟨true, [setCurrentProgramScene], ["Starting soon"]⟩

def readTwo : List UInt8 → Except String Value
  | [0] => .ok (.object [("sceneUuid", .string "b1")])
  | [1] => .ok (.object [("sceneName", .string "Starting soon"), ("sceneUuid", .string "b1")])
  | _ => .error "expected value"

def byUuid (data : Value) : Bool := (data.get "sceneUuid").isSome

def switchScene (text : UInt8) : BridgeActionRequest :=
  ⟨"obs_command", setCurrentProgramScene, [text]⟩

theorem scene_by_uuid_sent :
    ∃ s t f g, run (ObsBridge.step oneScene readTwo) ObsBridge.new (sendAlone (switchScene 0)) =
        some s ∧
      run (ObsBridge.step oneScene readTwo) ObsBridge.new (sendAlone (switchScene 1)) = some t ∧
      f ∈ s.frames ∧ g ∈ t.frames ∧ f.requestData.get "sceneName" = none ∧
      g.requestData.get "sceneName" = some (.string "Starting soon") ∧
      byUuid g.requestData = true ∧
      ¬ FrameAllowed oneScene byUuid f ∧ ¬ FrameAllowed oneScene byUuid g := by
  have hcheck₀ : oneScene.checkObsCommand readTwo (switchScene 0) =
      .ok (setCurrentProgramScene, .object [("sceneUuid", .string "b1")]) := rfl
  have hcheck₁ : oneScene.checkObsCommand readTwo (switchScene 1) =
      .ok (setCurrentProgramScene, .object [("sceneName", .string "Starting soon"),
        ("sceneUuid", .string "b1")]) := rfl
  obtain ⟨s, hs, hf, -⟩ := run_sendAlone rfl hcheck₀
  obtain ⟨t, ht, hg, -⟩ := run_sendAlone rfl hcheck₁
  refine ⟨s, t, _, _, hs, ht, hf, hg, rfl, rfl, rfl, fun h => ?_, fun h => ?_⟩
  · obtain ⟨⟨name, -, hname⟩, -⟩ := h.scene (by decide) rfl
    cases hname
  · obtain ⟨-, hother⟩ := h.scene (by decide) rfl
    cases hother

end Penguind.Waddlebot
