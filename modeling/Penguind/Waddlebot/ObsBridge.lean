import Penguind.Foundation.Json
import Penguind.Foundation.Oneshot
import Penguind.Foundation.Run

/-!
# Commands to OBS

The executor checks a request and hands it to the adapter's queue; the connection gives it an id
and sends it; a response resolves the command of its id. A caller waits for a limited time.
-/

namespace Penguind.Waddlebot

open Foundation

/-! ## Requests -/

structure BridgeActionRequest where
  actionType : String
  obsRequestType : String
  obsRequestData : List UInt8
  deriving DecidableEq, Repr

inductive BridgeActionError
  | unknownActionType (type : String)
  | obsNotEnabled
  | malformedRequestData (source : String)
  | obsCommandNotAllowed (requestType : String)
  | sceneNotAllowed (scene : String)
  | obsCommandFailed (source : String)
  deriving DecidableEq, Repr

def BridgeActionError.display : BridgeActionError → String
  | .unknownActionType type => "unknown action type: " ++ type
  | .obsNotEnabled => "obs adapter not enabled or not connected"
  | .malformedRequestData source => "malformed obs request data: " ++ source
  | .obsCommandNotAllowed requestType => "obs command not allowed: " ++ requestType
  | .sceneNotAllowed scene => "scene not allowed: " ++ scene
  | .obsCommandFailed source => "obs command failed: " ++ source

structure BridgeActionExecutor where
  hasAdapter : Bool
  obsAllowedCommands : List String
  obsAllowedScenes : List String

def setCurrentProgramScene : String := "SetCurrentProgramScene"

namespace BridgeActionExecutor

variable (x : BridgeActionExecutor)

def checkScene (requestType : String) (requestData : Value) : Except BridgeActionError Unit :=
  if requestType = setCurrentProgramScene then
    match (requestData.get "sceneName").bind Value.asStr with
    | some sceneName =>
      -- unlike for commands, an empty list allows every scene
      if x.obsAllowedScenes ≠ [] ∧ sceneName ∉ x.obsAllowedScenes then
        throw (.sceneNotAllowed sceneName)
      else pure ()
    | none => pure ()
  else pure ()

def checkObsCommand (parse : List UInt8 → Except String Value) (req : BridgeActionRequest) :
    Except BridgeActionError (String × Value) := do
  if x.hasAdapter = false then throw .obsNotEnabled
  else
    match parse req.obsRequestData with
    | .error source => throw (.malformedRequestData source)
    | .ok requestData =>
      -- an empty list allows nothing
      if x.obsAllowedCommands = [] then throw (.obsCommandNotAllowed req.obsRequestType)
      else if req.obsRequestType ∉ x.obsAllowedCommands then
        throw (.obsCommandNotAllowed req.obsRequestType)
      else
        x.checkScene req.obsRequestType requestData
        return (req.obsRequestType, requestData)

end BridgeActionExecutor

/-! ## The adapter and the connection -/

inductive ObsCommandError
  | notConnected
  | timeout
  | rejected (code : Int32) (comment : String)
  | other (message : String)
  deriving DecidableEq, Repr

def ObsCommandError.display : ObsCommandError → String
  | .notConnected => "obs adapter is not connected"
  | .timeout => "obs did not respond within the timeout"
  | .rejected code comment =>
    "obs rejected the request (code " ++ toString code.toInt ++ "): " ++ comment
  | .other message => message

abbrev CommandId := Nat

structure ObsCommand where
  requestType : String
  requestData : Value
  respondTo : CommandId

structure Frame where
  requestType : String
  requestId : String
  requestData : Value
  command : CommandId

def Frame.message (f : Frame) : Value :=
  .object [("op", .int 6), ("d", .object [("requestType", .string f.requestType),
    ("requestId", .string f.requestId), ("requestData", f.requestData)])]

structure Call where
  request : BridgeActionRequest
  channel : Oneshot (Except ObsCommandError Value)
  result : Option (Except ObsCommandError Value)

def Call.response (c : Call) : Option (Except BridgeActionError Value) :=
  c.result.map fun
    | .ok responseData => .ok responseData
    | .error e => .error (.obsCommandFailed e.display)

inductive Connection
  /-- Not yet identified to OBS; commands wait in the queue. -/
  | connecting
  | connected
  /-- Ended, with the queue gone. -/
  | ended
  deriving DecidableEq, Repr

structure WsMessage where
  op : Nat
  d : Option Value

structure ObsBridge where
  connection : Connection
  queue : List ObsCommand
  pending : String → Option CommandId
  calls : List Call
  refused : List (BridgeActionRequest × BridgeActionError)
  frames : List Frame

inductive ObsLabel
  /-- A remote caller has an action executed. -/
  | execute (req : BridgeActionRequest)
  /-- The connection is identified to OBS. -/
  | identified
  /-- The connection takes a command from the queue and sends it under a new request id. -/
  | transmit (requestId : String) (succeeds : Bool)
  | receive (message : WsMessage)
  /-- The connection ends, by a close or an error. -/
  | disconnect
  /-- A caller finds a result in its channel, or the sender gone. -/
  | collect (call : CommandId)
  | expire (call : CommandId)

namespace ObsBridge

def new : ObsBridge := ⟨.connecting, [], fun _ => none, [], [], []⟩

variable (s : ObsBridge)

def updateCall (n : CommandId) (f : Call → Call) : ObsBridge :=
  { s with calls := s.calls.modify n f }

def setChannel (n : CommandId)
    (f : Oneshot (Except ObsCommandError Value) → Oneshot (Except ObsCommandError Value)) :
    ObsBridge :=
  s.updateCall n fun c => { c with channel := f c.channel }

def setResult (n : CommandId) (result : Except ObsCommandError Value) : ObsBridge :=
  s.updateCall n fun c => { c with result := some result }

/-- With the connection ended the call fails at once. -/
def sendRequest (req : BridgeActionRequest) (requestType : String) (requestData : Value) :
    ObsBridge :=
  match s.connection with
  | .ended => { s with calls := s.calls ++ [⟨req, .dropped, some (.error .notConnected)⟩] }
  | .connecting | .connected =>
    { s with
      queue := s.queue ++ [⟨requestType, requestData, s.calls.length⟩]
      calls := s.calls ++ [⟨req, .empty, none⟩] }

def endConnection : ObsBridge :=
  { s with
    connection := .ended
    queue := []
    pending := fun _ => none
    calls := s.calls.map fun c => { c with channel := c.channel.dropSender } }

def transmit (command : ObsCommand) (rest : List ObsCommand) (requestId : String) : ObsBridge :=
  let s :=
    match s.pending requestId with
    | some earlier => s.setChannel earlier Oneshot.dropSender
    | none => s
  { s with
    queue := rest
    -- the source registers the command before it writes to the socket
    pending := Function.update s.pending requestId (some command.respondTo)
    frames := s.frames ++
      [⟨command.requestType, requestId, command.requestData, command.respondTo⟩] }

def responseResult (response : Value) : Except ObsCommandError Value :=
  match response.get "requestStatus" with
  | none => .error (.other "malformed response")
  | some status =>
    if ((status.get "result").bind Value.asBool).getD false then
      .ok ((response.get "responseData").getD .null)
    else
      .error (.rejected (((status.get "code").bind Value.asI64).getD 0).toInt32
        (((status.get "comment").bind Value.asStr).getD "unknown error"))

def resolve (response : Value) : ObsBridge :=
  match (response.get "requestId").bind Value.asStr with
  | none => s
  | some requestId =>
    match s.pending requestId with
    | none => s
    | some n =>
      { s with pending := Function.update s.pending requestId none }.setChannel n
        (Oneshot.send (responseResult response))

def receive (message : WsMessage) : ObsBridge :=
  match message.op, message.d with
  | 7, some response => s.resolve response
  | _, _ => s

def refuse (req : BridgeActionRequest) (e : BridgeActionError) : ObsBridge :=
  { s with refused := s.refused ++ [(req, e)] }

def execute (x : BridgeActionExecutor) (parse : List UInt8 → Except String Value)
    (req : BridgeActionRequest) : ObsBridge :=
  if req.actionType = "obs_command" then
    match x.checkObsCommand parse req with
    | .ok (requestType, requestData) => s.sendRequest req requestType requestData
    | .error e => s.refuse req e
  else if req.actionType = "webhook" then s
  else s.refuse req (.unknownActionType req.actionType)

def step (x : BridgeActionExecutor) (parse : List UInt8 → Except String Value) (s : ObsBridge) :
    ObsLabel → Option ObsBridge
  | .execute req => some (s.execute x parse req)
  | .identified =>
    match s.connection with
    | .connecting => some { s with connection := .connected }
    | .connected | .ended => none
  | .transmit requestId succeeds =>
    match s.connection, s.queue with
    | .connected, command :: rest =>
      let t := s.transmit command rest requestId
      -- a frame whose write failed is counted as handed to the socket
      some (if succeeds then t else t.endConnection)
    | _, _ => none
  | .receive message =>
    match s.connection with
    | .connected => some (s.receive message)
    | .connecting | .ended => none
  | .disconnect =>
    match s.connection with
    | .connecting | .connected => some s.endConnection
    | .ended => none
  | .collect n =>
    match s.calls[n]? with
    | some ⟨_, .sent result, none⟩ => some (s.setResult n result)
    -- the connection is gone, or its request id was given to a later command
    | some ⟨_, .dropped, none⟩ => some (s.setResult n (.error .notConnected))
    | _ => none
  | .expire n =>
    match s.calls[n]? with
    | some ⟨_, .empty, none⟩ =>
      -- the command stays in the queue or pending, and its frame may still be sent
      some ((s.setChannel n fun _ => .closed).setResult n (.error .timeout))
    | _ => none

end ObsBridge

/-! ## What a step does -/

def WsMessage.Carries (m : WsMessage) (requestId : String) (result : Except ObsCommandError Value) :
    Prop :=
  m.op = 7 ∧ ∃ response, m.d = some response ∧
    (response.get "requestId").bind Value.asStr = some requestId ∧
    ObsBridge.responseResult response = result

inductive Moves (s : ObsBridge) (a : ObsLabel) (t : ObsBridge) (n : CommandId) :
    Call → Call → Prop
  | stays (c : Call) : Moves s a t n c c
  | answered (c : Call) {message : WsMessage} {requestId : String}
      {result : Except ObsCommandError Value} (ha : a = .receive message)
      (hm : message.Carries requestId result) (hp : s.pending requestId = some n)
      (hc : c.channel = .empty) : Moves s a t n c { c with channel := .sent result }
  /-- The request id of the command was given to another. -/
  | replaced (c : Call) {requestId : String} (hp : s.pending requestId = some n) :
      Moves s a t n c { c with channel := c.channel.dropSender }
  | ended (c : Call) (hq : t.queue = []) :
      Moves s a t n c { c with channel := c.channel.dropSender }
  | collected (c : Call) {result : Except ObsCommandError Value} (hc : c.channel = .sent result)
      (hr : c.result = none) : Moves s a t n c { c with result := some result }
  | lost (c : Call) (hc : c.channel = .dropped) (hr : c.result = none) :
      Moves s a t n c { c with result := some (.error .notConnected) }
  | expired (c : Call) (hc : c.channel = .empty) (hr : c.result = none) :
      Moves s a t n c { c with channel := .closed, result := some (.error .timeout) }

def JustMade (c : Call) : Prop :=
  c.channel = .empty ∧ c.result = none ∨
    c.channel = .dropped ∧ c.result = some (.error .notConnected)

/-- It makes a call, changes one, or drops the senders of all. -/
inductive CallsStep (s : ObsBridge) (a : ObsLabel) (t : ObsBridge) : Prop
  | same (h : t.calls = s.calls)
  | made (c : Call) (hc : JustMade c) (h : t.calls = s.calls ++ [c])
  | changed (m : CommandId) (f : Call → Call) (h : t.calls = s.calls.modify m f)
      (hf : ∀ c, s.calls[m]? = some c → Moves s a t m c (f c))
  | ended (hq : t.queue = [])
      (h : t.calls = s.calls.map fun c => { c with channel := c.channel.dropSender })

section

variable (x : BridgeActionExecutor) (parse : List UInt8 → Except String Value)

inductive Flow (s : ObsBridge) (a : ObsLabel) (t : ObsBridge) : Prop
  | kept (ha : ∀ requestId succeeds, a ≠ .transmit requestId succeeds)
      (hq : t.queue.Sublist s.queue) (hf : t.frames = s.frames)
      (hp : ∀ requestId n, t.pending requestId = some n → s.pending requestId = some n)
  /-- A request that has passed the checks is queued. -/
  | issued (q : ObsCommand) (req : BridgeActionRequest) (ha : a = .execute req)
      (htype : req.actionType = "obs_command")
      (hcheck : x.checkObsCommand parse req = .ok (q.requestType, q.requestData))
      (hq : t.queue = s.queue ++ [q]) (hn : q.respondTo = s.calls.length)
      (hc : t.calls = s.calls ++ [⟨req, .empty, none⟩])
      (hf : t.frames = s.frames) (hp : t.pending = s.pending)
  /-- The head of the queue is sent as it is. -/
  | transmitted (q : ObsCommand) (rest : List ObsCommand) (requestId : String) (succeeds : Bool)
      (ha : a = .transmit requestId succeeds) (hs : s.queue = q :: rest)
      (hq : t.queue.Sublist rest)
      (hf : t.frames = s.frames ++ [⟨q.requestType, requestId, q.requestData, q.respondTo⟩])
      (hp : ∀ requestId' n, t.pending requestId' = some n →
        requestId' = requestId ∧ n = q.respondTo ∨ s.pending requestId' = some n)

end

section

variable {s t : ObsBridge} {a : ObsLabel} {n : CommandId} {c : Call}
  {x : BridgeActionExecutor} {parse : List UInt8 → Except String Value}

theorem callsStep_receive (message : WsMessage) :
    CallsStep s (.receive message) (s.receive message) := by
  fun_cases ObsBridge.receive s message with
  | case1 response hd hop =>
    fun_cases ObsBridge.resolve s response with
    | case1 | case2 => exact .same rfl
    | case3 requestId hid m hp =>
      refine .changed m _ rfl fun c _ => ?_
      -- a channel that is not empty does not take the result
      obtain ⟨request, channel, result⟩ := c
      cases channel with
      | empty => exact .answered _ rfl ⟨hop, response, hd, hid, rfl⟩ hp rfl
      | sent | dropped | closed => exact .stays _
  | case2 => exact .same rfl

theorem callsStep_transmit (q : ObsCommand) (rest : List ObsCommand) (requestId : String)
    (succeeds : Bool) :
    CallsStep s (.transmit requestId succeeds)
      (if succeeds then s.transmit q rest requestId
        else (s.transmit q rest requestId).endConnection) := by
  cases succeeds with
  | true =>
    rw [if_pos rfl]
    unfold ObsBridge.transmit
    cases hp : s.pending requestId with
    | none => exact .same rfl
    | some earlier => exact .changed earlier _ rfl fun c _ => .replaced c hp
  | false =>
    rw [if_neg Bool.false_ne_true]
    refine .ended rfl ?_
    unfold ObsBridge.endConnection ObsBridge.transmit
    cases s.pending requestId with
    | none => rfl
    | some earlier =>
      have hdrop : ∀ ch : Oneshot (Except ObsCommandError Value),
          ch.dropSender.dropSender = ch.dropSender := by
        intro ch
        cases ch <;> rfl
      refine List.ext_getElem? fun i => ?_
      simp only [ObsBridge.setChannel, ObsBridge.updateCall, List.getElem?_map,
        List.getElem?_modify]
      cases s.calls[i]? with
      | none => rfl
      | some c => by_cases hi : earlier = i <;> simp [hi, hdrop]

theorem callsStep_step (ht : ObsBridge.step x parse s a = some t) : CallsStep s a t := by
  revert ht
  fun_cases ObsBridge.step x parse s a with rintro ⟨⟩
  | case1 req =>
    fun_cases ObsBridge.execute s x parse req with
    | case1 =>
      fun_cases ObsBridge.sendRequest with
      | case1 => exact .made _ (.inr ⟨rfl, rfl⟩) rfl
      | case2 | case3 => exact .made _ (.inl ⟨rfl, rfl⟩) rfl
    | case2 | case3 | case4 => exact .same rfl
  | case2 => exact .same rfl
  | case5 => exact callsStep_transmit ..
  | case7 message => exact callsStep_receive message
  | case10 | case11 => exact .ended rfl rfl
  | case13 m _ _ hm =>
    refine .changed m _ rfl fun c hc => ?_
    cases hm.symm.trans hc
    exact .collected _ rfl rfl
  | case14 m _ hm =>
    refine .changed m _ rfl fun c hc => ?_
    cases hm.symm.trans hc
    exact .lost _ rfl rfl
  | case16 m _ hm =>
    refine .changed m _ (List.modify_modify_eq ..) fun c hc => ?_
    cases hm.symm.trans hc
    exact .expired _ rfl rfl

theorem CallsStep.moves (h : CallsStep s a t) (hc : s.calls[n]? = some c) :
    ∃ c', t.calls[n]? = some c' ∧ Moves s a t n c c' := by
  cases h with
  | same h => exact ⟨c, by rw [h, hc], .stays c⟩
  | made d hd h =>
    obtain ⟨hlt, -⟩ := List.getElem?_eq_some_iff.mp hc
    exact ⟨c, by rw [h, List.getElem?_append_left hlt, hc], .stays c⟩
  | changed m f h hf =>
    rw [h, List.getElem?_modify, hc]
    refine ⟨_, rfl, ?_⟩
    split
    next hm =>
      subst hm
      exact hf c hc
    next => exact .stays c
  | ended hq h => exact ⟨_, by rw [h, List.getElem?_map, hc]; rfl, .ended c hq⟩

theorem CallsStep.justMade (h : CallsStep s a t) (hs : s.calls[n]? = none)
    (hc : t.calls[n]? = some c) : JustMade c := by
  cases h with
  | same h =>
    rw [h, hs] at hc
    cases hc
  | made d hd h =>
    rw [h, List.getElem?_append_right (List.getElem?_eq_none_iff.mp hs)] at hc
    obtain rfl := List.mem_singleton.mp (List.mem_of_getElem? hc)
    exact hd
  | changed m f h hf =>
    rw [h, List.getElem?_modify, hs] at hc
    cases hc
  | ended hq h =>
    rw [h, List.getElem?_map, hs] at hc
    cases hc

theorem moves_step (ht : ObsBridge.step x parse s a = some t) (hc : s.calls[n]? = some c) :
    ∃ c', t.calls[n]? = some c' ∧ Moves s a t n c c' :=
  (callsStep_step ht).moves hc

theorem flow_receive (message : WsMessage) :
    Flow x parse s (.receive message) (s.receive message) := by
  have hsame : Flow x parse s (.receive message) s :=
    .kept (by simp) (List.Sublist.refl _) rfl (fun _ _ => id)
  fun_cases ObsBridge.receive s message with
  | case1 response =>
    fun_cases ObsBridge.resolve s response with
    | case1 | case2 => exact hsame
    | case3 requestId =>
      refine .kept (by simp) (List.Sublist.refl _) rfl fun requestId' n hn => ?_
      change Function.update s.pending requestId none requestId' = some n at hn
      rw [Function.update_apply] at hn
      split_ifs at hn
      exact hn
  | case2 => exact hsame

theorem flow_execute (req : BridgeActionRequest) :
    Flow x parse s (.execute req) (s.execute x parse req) := by
  have hkept : ∀ u : ObsBridge, u.queue = s.queue → u.frames = s.frames →
      u.pending = s.pending → Flow x parse s (.execute req) u := by
    intro u hq hf hp
    exact .kept (by simp) (by rw [hq]) hf (by simp [hp])
  fun_cases ObsBridge.execute s x parse req with
  | case1 htype requestType requestData hcheck =>
    have hissued : Flow x parse s (.execute req) { s with
        queue := s.queue ++ [⟨requestType, requestData, s.calls.length⟩]
        calls := s.calls ++ [⟨req, .empty, none⟩] } :=
      .issued ⟨requestType, requestData, s.calls.length⟩ req rfl htype hcheck rfl rfl rfl rfl rfl
    fun_cases ObsBridge.sendRequest with
    | case1 => exact hkept _ rfl rfl rfl
    | case2 | case3 => exact hissued
  | case2 | case3 | case4 => exact hkept _ rfl rfl rfl

section

variable (q : ObsCommand) (rest : List ObsCommand) {requestId : String}

theorem frames_transmit : (s.transmit q rest requestId).frames =
    s.frames ++ [⟨q.requestType, requestId, q.requestData, q.respondTo⟩] := by
  unfold ObsBridge.transmit
  cases s.pending requestId <;> rfl

theorem pending_transmit : (s.transmit q rest requestId).pending =
    Function.update s.pending requestId (some q.respondTo) := by
  unfold ObsBridge.transmit
  cases s.pending requestId <;> rfl

theorem connection_transmit : (s.transmit q rest requestId).connection = s.connection := by
  unfold ObsBridge.transmit
  cases s.pending requestId <;> rfl

theorem calls_transmit (h : s.pending requestId ≠ some n) :
    (s.transmit q rest requestId).calls[n]? = s.calls[n]? := by
  unfold ObsBridge.transmit
  cases hp : s.pending requestId with
  | none => rfl
  | some earlier =>
    have hne : earlier ≠ n := fun he => h (hp.trans (congrArg some he))
    exact List.getElem?_modify_ne _ _ hne

end

theorem flow_transmit {q : ObsCommand} {rest : List ObsCommand} (hq : s.queue = q :: rest)
    (requestId : String) (succeeds : Bool) :
    Flow x parse s (.transmit requestId succeeds)
      (if succeeds then s.transmit q rest requestId
        else (s.transmit q rest requestId).endConnection) := by
  cases succeeds with
  | true =>
    refine .transmitted q rest requestId true rfl hq (List.Sublist.refl _)
      (frames_transmit q rest) ?_
    intro requestId' n hn
    rw [if_pos rfl, pending_transmit, Function.update_apply] at hn
    split_ifs at hn with hid
    · exact .inl ⟨hid, (Option.some.inj hn).symm⟩
    · exact .inr hn
  | false =>
    refine .transmitted q rest requestId false rfl hq (List.nil_sublist _)
      (frames_transmit q rest) ?_
    intro requestId' n hn
    cases hn

theorem flow_step (ht : ObsBridge.step x parse s a = some t) : Flow x parse s a t := by
  revert ht
  fun_cases ObsBridge.step x parse s a with rintro ⟨⟩
  | case1 req => exact flow_execute req
  | case5 requestId succeeds q rest hq => exact flow_transmit hq requestId succeeds
  | case7 message => exact flow_receive message
  | case10 | case11 => exact .kept (by simp) (List.nil_sublist _) rfl nofun
  | case2 | case13 | case14 | case16 =>
    exact .kept (by simp) (List.Sublist.refl _) rfl fun _ _ => id

end

end Penguind.Waddlebot
