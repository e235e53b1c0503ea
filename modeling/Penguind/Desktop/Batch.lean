import Mathlib.Data.Option.Basic
import Penguind.Desktop.SignedBinary

/-!
# The actions of a poll

The actions of a poll are executed one after the other, each answered before the next is looked
at. What a script shows to the user and what is run come from the same fields.
-/

namespace Penguind.Desktop

open Foundation Extplugin

/-! ## Actions and responses -/

structure HubAction extends ActionRequest where
  moduleName : Option String

structure TimedResponse extends ActionResponse where
  durationMs : Int64
  timestamp : String
  deriving DecidableEq, Repr

inductive LuaError
  | core (e : DesktopError)
  | lua (message : String)
  deriving DecidableEq, Repr

def LuaError.display : LuaError → String
  | .core e => e.display
  | .lua message => "Lua error: " ++ message

structure BridgeActionRequest where
  moduleName : String
  actionType : String
  obsRequestType : String
  obsRequestData : Bytes
  webhookName : String
  webhookPayload : Bytes
  deriving DecidableEq, Repr

structure BridgeActionResponse where
  success : Bool
  error : String
  deriving DecidableEq, Repr

structure LuaWorld where
  setup : Except String Unit
  eval : String → Option (Except String Unit)

structure Posting where
  reachesHub : Bool
  returns : Bool
  deriving DecidableEq, Repr

/-- A call that never returns has no answer. -/
structure Circumstances where
  decision : PendingAction → Option ApprovalDecision
  parent : Env
  script : ScriptExecutor.World
  lua : LuaWorld
  signed : SignedExecutor.World
  bridge : BridgeActionRequest → Option (Except DesktopError BridgeActionResponse)
  durationMs : Int64
  timestamp : String
  toVec : TimedResponse → Except String Bytes
  post : Bytes → Posting

inductive BatchEvent
  | asked (pending : PendingAction) (decision : ApprovalDecision)
  /-- The text of a script is given to an interpreter. -/
  | ran (id type text : String)
  /-- The hub gets a response. -/
  | posted (response : TimedResponse)
  deriving DecidableEq, Repr

structure LuaExecution where
  evaluated : Option String
  returned : Option (Except LuaError Unit)

def ScriptExecutor.executeLua (w : LuaWorld) (action : ActionRequest) : LuaExecution :=
  match scriptSource action.parameters with
  | none => ⟨none, some (.error (.core (.internal "script source not found")))⟩
  | some script =>
    match w.setup with
    | .error message => ⟨none, some (.error (.lua message))⟩
    -- The time limit of the action is not looked at.
    | .ok () => ⟨some script, (w.eval script).map fun r => r.mapError .lua⟩

namespace ActionExecutor

section

variable (c : Circumstances) (action : HubAction)

def failure (error : String) : ActionResponse := ⟨action.id, false, none, some error⟩

def success (exitCode : Int32) (stdout stderr : Bytes) : ActionResponse :=
  ⟨action.id, true, some ⟨some exitCode, stdout, stderr, false⟩, none⟩

/-- Asks the user, and goes on if they approve. -/
def gated (run : Option String × Option ActionResponse) :
    List BatchEvent × Option ActionResponse :=
  let pending := PendingAction.fromRequest action.toActionRequest
  match c.decision pending with
  | none => ([], none)
  | some .approved =>
    (.asked pending .approved :: run.1.toList.map (.ran action.id action.type), run.2)
  | some .denied => ([.asked pending .denied], some (failure action "denied by user"))
  | some .timeout => ([.asked pending .timeout], some (failure action "approval timed out"))

def scriptResponse : Except DesktopError ExecResult → ActionResponse
  | .ok r => success action r.exitCode r.stdout r.stderr
  | .error e => failure action ("script execution error: " ++ e.display)

def executeScript : List BatchEvent × Option ActionResponse :=
  let x := ScriptExecutor.execute c.parent c.script action.toActionRequest
  gated c action (x.started.bind Started.input, x.returned.map fun r => scriptResponse action r.2)

def luaResponse : Except LuaError Unit → ActionResponse
  | .ok () => success action 0 [] []
  | .error e => failure action ("Lua execution error: " ++ e.display)

def executeLua : List BatchEvent × Option ActionResponse :=
  let x := ScriptExecutor.executeLua c.lua action.toActionRequest
  gated c action (x.evaluated, x.returned.map (luaResponse action))

def parameter (key : String) : String :=
  ((action.parameters.get key).bind Value.asStr).getD ""

def parameterBytes (asBytes : String → Bytes) (key : String) : Bytes :=
  (((action.parameters.get key).bind Value.asStr).map asBytes).getD []

def obsRequest (asBytes : String → Bytes) : BridgeActionRequest where
  moduleName := action.moduleName.getD ""
  actionType := "obs_command"
  obsRequestType := parameter action "obs_request_type"
  obsRequestData := parameterBytes action asBytes "obs_request_data"
  webhookName := ""
  webhookPayload := []

def webhookRequest (asBytes : String → Bytes) : BridgeActionRequest where
  moduleName := action.moduleName.getD ""
  actionType := "webhook"
  obsRequestType := ""
  obsRequestData := []
  webhookName := parameter action "webhook_name"
  webhookPayload := parameterBytes action asBytes "webhook_payload"

def bridgeResponse (text : String) : Except DesktopError BridgeActionResponse → ActionResponse
  | .ok r => ⟨action.id, r.success, none, if r.error = "" then none else some r.error⟩
  | .error e => failure action (text ++ e.display)

def executeObsCommand (asBytes : String → Bytes) : List BatchEvent × Option ActionResponse :=
  ([], (c.bridge (obsRequest action asBytes)).map (bridgeResponse action "OBS command error: "))

def executeWebhook (asBytes : String → Bytes) : List BatchEvent × Option ActionResponse :=
  ([], (c.bridge (webhookRequest action asBytes)).map (bridgeResponse action "webhook error: "))

variable {K S : Type} (L : SignedExecutor.Lib K S) (asBytes : String → Bytes)

def execute : List BatchEvent × Option ActionResponse :=
  if action.type = "signed_binary" then
    ([], SignedExecutor.executeSignedBinary L c.signed action.toActionRequest)
  else if action.type ∈ ["bash", "powershell", "python"] then executeScript c action
  else if action.type = "lua" then executeLua c action
  else if action.type = "obs_command" then executeObsCommand c action asBytes
  else if action.type = "webhook" then executeWebhook c action asBytes
  else ([], some (failure action ("unknown action type: " ++ action.type)))

def postResponse (response : TimedResponse) : Posting :=
  match c.toVec response with
  | .ok body => c.post body
  | .error _ => ⟨false, true⟩

end

end ActionExecutor

open ActionExecutor

section

variable {K S : Type} (L : SignedExecutor.Lib K S) (asBytes : String → Bytes)

abbrev Batch := List (HubAction × Circumstances)

def timed (c : Circumstances) (response : ActionResponse) : TimedResponse :=
  ⟨response, c.durationMs, c.timestamp⟩

def Posting.events (p : Posting) (response : TimedResponse) : List BatchEvent :=
  if p.reachesHub then [.posted response] else []

def runBatch : Batch → Nat → List BatchEvent × Option Nat
  | [], count => ([], some count)
  | (action, c) :: rest, count =>
    let x := execute c action L asBytes
    match x.2 with
    | none => (x.1, none)
    | some r =>
      let p := postResponse c (timed c r)
      if p.returns then
        let after := runBatch rest (count + 1)
        (x.1 ++ p.events (timed c r) ++ after.1, after.2)
      else (x.1 ++ p.events (timed c r), none)

end

def responses (events : List BatchEvent) : List TimedResponse :=
  events.filterMap fun
    | .posted response => some response
    | .asked _ _ | .ran _ _ _ => none

/-- Each script that is run has just been approved, with the text that is run. -/
def ScriptsApproved (events : List BatchEvent) : Prop :=
  ∀ before id type text after, events = before ++ .ran id type text :: after →
    ∃ pending, before.getLast? = some (.asked pending .approved) ∧ pending.id = id ∧
      pending.actionType = type ∧ pending.content = text

/-- The hub gets one response for each action, in order, and scripts are approved first. -/
structure BatchHandled (batch : Batch) (events : List BatchEvent) : Prop where
  answered : (responses events).map (·.id) = batch.map (·.1.id)
  approved : ScriptsApproved events

/-! ## Scripts -/

section

variable {c : Circumstances} {action : HubAction}

theorem responses_append (xs ys : List BatchEvent) :
    responses (xs ++ ys) = responses xs ++ responses ys :=
  List.filterMap_append

theorem scriptsApproved_nil : ScriptsApproved [] := by
  intro before id type text after h
  cases before <;> cases h

theorem ScriptsApproved.append {xs ys : List BatchEvent} (hx : ScriptsApproved xs)
    (hy : ScriptsApproved ys) : ScriptsApproved (xs ++ ys) := by
  intro before id type text after h
  rcases List.append_eq_append_iff.mp h with ⟨more, rfl, hys⟩ | ⟨more, hxs, htail⟩
  · -- the script is run in the second part
    obtain ⟨pending, hlast, hp⟩ := hy more id type text after hys
    exact ⟨pending, by rw [List.getLast?_append, hlast]; rfl, hp⟩
  · cases more with
    | nil =>
      obtain ⟨pending, hlast, -⟩ := hy [] id type text after htail.symm
      cases hlast
    | cons e more =>
      cases htail
      exact hx before id type text more hxs

theorem scriptsApproved_of_forall {xs : List BatchEvent}
    (h : ∀ id type text, .ran id type text ∉ xs) : ScriptsApproved xs := by
  rintro before id type text after rfl
  exact absurd (by simp) (h id type text)

structure Proper (action : HubAction) (x : List BatchEvent × Option ActionResponse) : Prop where
  approved : ScriptsApproved x.1
  silent : responses x.1 = []
  id_eq : ∀ r ∈ x.2, r.id = action.id

theorem proper_of_no_events {response : Option ActionResponse}
    (h : ∀ r ∈ response, r.id = action.id) : Proper action ([], response) :=
  ⟨scriptsApproved_nil, rfl, h⟩

theorem proper_gated {run : Option String × Option ActionResponse}
    (htext : ∀ text ∈ run.1, scriptSource action.parameters = some text)
    (hrun : ∀ r ∈ run.2, r.id = action.id) : Proper action (gated c action run) := by
  fun_cases gated c action run with
  | case1 => exact proper_of_no_events (by simp)
  | case2 pending =>
    refine ⟨?_, by cases run.1 <;> rfl, hrun⟩
    cases hsome : run.1 with
    | none => exact scriptsApproved_of_forall (by simp)
    | some text =>
      -- the only script is the second event, and the first is the approval
      intro before id type text' after heq
      rcases before with - | ⟨e, - | ⟨e', before⟩⟩
      · cases heq
      · cases heq
        exact ⟨_, rfl, rfl, rfl, by simp [pending, PendingAction.fromRequest, htext text hsome]⟩
      · simp at heq
  | case3 | case4 =>
    exact ⟨scriptsApproved_of_forall (by simp), rfl, by simp [ActionExecutor.failure]⟩

theorem input_script {text : String}
    (h : (ScriptExecutor.execute c.parent c.script action.toActionRequest).started.bind
      Started.input = some text) : scriptSource action.parameters = some text := by
  unfold ScriptExecutor.execute at h
  cases hp : ScriptExecutor.prepare c.parent c.script action.toActionRequest with
  | error e => rw [hp] at h; cases h
  | ok prepared =>
    obtain ⟨command, script⟩ := prepared
    rw [hp] at h
    dsimp only at h
    split at h
    · cases h
    · cases h
      obtain ⟨program, -, hp⟩ := bind_eq_ok hp
      obtain ⟨source, hs, hp⟩ := bind_eq_ok hp
      obtain ⟨dir, -, hp⟩ := bind_eq_ok hp
      cases hp
      cases hsource : scriptSource action.parameters with
      | none => rw [hsource] at hs; cases hs
      | some s => rw [hsource] at hs; cases hs; rfl

theorem evaluated_lua {text : String}
    (h : (ScriptExecutor.executeLua c.lua action.toActionRequest).evaluated = some text) :
    scriptSource action.parameters = some text := by
  revert h
  fun_cases ScriptExecutor.executeLua c.lua action.toActionRequest with rintro ⟨⟩
  | case3 script hsource => exact hsource

end

section

variable {K S : Type} (L : SignedExecutor.Lib K S) (asBytes : String → Bytes)
  (c : Circumstances) (action : HubAction)

/-- The action is executed to its end. -/
def Returns : Prop :=
  let pending := PendingAction.fromRequest action.toActionRequest
  if action.type ∈ ["bash", "powershell", "python"] then
    c.decision pending ≠ none ∧ (c.decision pending = some .approved →
      ∀ command script child,
        ScriptExecutor.prepare c.parent c.script action.toActionRequest = .ok (command, script) →
          c.script.spawn command = .ok child → child.written ≠ none)
  else if action.type = "lua" then
    c.decision pending ≠ none ∧ (c.decision pending = some .approved →
      ∀ script, scriptSource action.parameters = some script → c.lua.setup = .ok () →
        c.lua.eval script ≠ none)
  else if action.type = "obs_command" then c.bridge (obsRequest action asBytes) ≠ none
  else if action.type = "webhook" then c.bridge (webhookRequest action asBytes) ≠ none
  else True

def Reports : Prop :=
  ∀ r ∈ (execute c action L asBytes).2, (postResponse c (timed c r)).reachesHub

def PostReturns : Prop :=
  ∀ r ∈ (execute c action L asBytes).2, (postResponse c (timed c r)).returns

variable {c action}

theorem gated_ne_none_iff {run : Option String × Option ActionResponse} :
    (gated c action run).2 ≠ none ↔
      c.decision (PendingAction.fromRequest action.toActionRequest) ≠ none ∧
        (c.decision (PendingAction.fromRequest action.toActionRequest) = some .approved →
          run.2 ≠ none) := by
  unfold gated
  dsimp only
  split <;> simp_all

theorem returned_script_ne_none_iff :
    (ScriptExecutor.execute c.parent c.script action.toActionRequest).returned ≠ none ↔
      ∀ command script child,
        ScriptExecutor.prepare c.parent c.script action.toActionRequest = .ok (command, script) →
          c.script.spawn command = .ok child → child.written ≠ none := by
  unfold ScriptExecutor.execute
  cases hp : ScriptExecutor.prepare c.parent c.script action.toActionRequest with
  | error e => simp [Execution.refused]
  | ok prepared =>
    obtain ⟨command, script⟩ := prepared
    cases hs : c.script.spawn command with
    | error source =>
      refine ⟨fun _ command' script' child' hprep hspawn => ?_, fun _ => by
        simp [Execution.refused, hs]⟩
      cases hprep
      rw [hs] at hspawn
      cases hspawn
    | ok child =>
      have hfinish : ScriptExecutor.finish c.script.runtime action.timeout child ≠ none ↔
          child.written ≠ none := by
        fun_cases ScriptExecutor.finish <;> simp_all
      simp only [hs, hfinish]
      constructor
      · intro h command' script' child' hprep hspawn
        cases hprep
        rw [hs] at hspawn
        cases hspawn
        exact h
      · intro h
        exact h command script child rfl hs

theorem returned_lua_ne_none_iff :
    (ScriptExecutor.executeLua c.lua action.toActionRequest).returned ≠ none ↔
      ∀ script, scriptSource action.parameters = some script → c.lua.setup = .ok () →
        c.lua.eval script ≠ none := by
  unfold ScriptExecutor.executeLua
  cases scriptSource action.parameters with
  | none => simp
  | some script => cases c.lua.setup <;> simp

theorem executeSignedBinary_ne_none (w : SignedExecutor.World) (a : ActionRequest) :
    SignedExecutor.executeSignedBinary L w a ≠ none := by
  unfold SignedExecutor.executeSignedBinary
  fun_cases SignedExecutor.execute <;> simp [Execution.refused]

theorem execute_ne_none_iff :
    (execute c action L asBytes).2 ≠ none ↔ Returns asBytes c action := by
  by_cases hsigned : action.type = "signed_binary"
  · simp [execute, Returns, hsigned, executeSignedBinary_ne_none]
  unfold execute Returns
  rw [if_neg hsigned]
  dsimp only
  split
  · unfold executeScript
    rw [gated_ne_none_iff, ← returned_script_ne_none_iff]
    simp
  split
  · unfold executeLua
    rw [gated_ne_none_iff, ← returned_lua_ne_none_iff]
    simp
  split
  · simp [executeObsCommand]
  split
  · simp [executeWebhook]
  · simp

theorem proper_execute : Proper action (execute c action L asBytes) := by
  fun_cases execute c action L asBytes with
  | case1 =>
    exact proper_of_no_events (Option.forall_mem_map.mpr fun ⟨_, r⟩ _ => by cases r <;> rfl)
  | case2 =>
    exact proper_gated (fun text h => input_script h)
      (Option.forall_mem_map.mpr fun ⟨_, r⟩ _ => by cases r <;> rfl)
  | case3 =>
    exact proper_gated (fun text h => evaluated_lua h)
      (Option.forall_mem_map.mpr fun r _ => by cases r <;> rfl)
  | case4 | case5 =>
    exact proper_of_no_events (Option.forall_mem_map.mpr fun r _ => by cases r <;> rfl)
  | case6 => exact proper_of_no_events (by simp [ActionExecutor.failure])

end

section

variable {K S : Type} (L : SignedExecutor.Lib K S) (asBytes : String → Bytes)

theorem scriptsApproved_events (p : Posting) (r : TimedResponse) :
    ScriptsApproved (p.events r) := by
  unfold Posting.events
  split
  · exact scriptsApproved_of_forall (by simp)
  · exact scriptsApproved_nil

theorem scriptsApproved_runBatch (batch : Batch) (count : Nat) :
    ScriptsApproved (runBatch L asBytes batch count).1 := by
  fun_induction runBatch L asBytes batch count with
  | case1 => exact scriptsApproved_nil
  | case2 => exact (proper_execute L asBytes).approved
  | case3 count action c rest x r hr p hp after ih =>
    exact ((proper_execute L asBytes).approved.append (scriptsApproved_events _ _)).append ih
  | case4 => exact (proper_execute L asBytes).approved.append (scriptsApproved_events _ _)

def answeredIds (batch : Batch) (count : Nat) : List String :=
  (responses (runBatch L asBytes batch count).1).map (·.id)

theorem answeredIds_nil (count : Nat) : answeredIds L asBytes [] count = [] := rfl

theorem map_id_responses_events (p : Posting) (r : TimedResponse) :
    (responses (p.events r)).map (·.id) = if p.reachesHub then [r.id] else [] := by
  unfold Posting.events
  split <;> rfl

variable {L asBytes} {c : Circumstances} {action : HubAction} {rest : Batch} {count : Nat}

theorem answeredIds_cons_of_none (h : (execute c action L asBytes).2 = none) :
    answeredIds L asBytes ((action, c) :: rest) count = [] := by
  unfold answeredIds runBatch
  simp [h, (proper_execute L asBytes).silent]

theorem answeredIds_cons_of_some {r : ActionResponse}
    (h : (execute c action L asBytes).2 = some r) :
    answeredIds L asBytes ((action, c) :: rest) count =
      (if (postResponse c (timed c r)).reachesHub then [action.id] else []) ++
        if (postResponse c (timed c r)).returns then answeredIds L asBytes rest (count + 1)
        else [] := by
  have hx : Proper action (execute c action L asBytes) := proper_execute L asBytes
  have hid : (timed c r).id = action.id := hx.id_eq r (by rw [h]; rfl)
  unfold answeredIds
  rw [runBatch]
  simp only [h]
  split <;> simp [responses_append, hx.silent, map_id_responses_events, hid]

theorem length_answeredIds_le (batch : Batch) (count : Nat) :
    (answeredIds L asBytes batch count).length ≤ batch.length := by
  induction batch generalizing count with
  | nil => simp [answeredIds_nil]
  | cons x rest ih =>
    obtain ⟨action, c⟩ := x
    cases h : (execute c action L asBytes).2 with
    | none => simp [answeredIds_cons_of_none h]
    | some r =>
      have hrest := ih (count + 1)
      rw [answeredIds_cons_of_some h, List.length_append, List.length_cons]
      split <;> split <;> simp only [List.length_cons, List.length_nil] <;> omega

theorem answeredIds_eq_iff (batch : Batch) (count : Nat) :
    answeredIds L asBytes batch count = batch.map (·.1.id) ↔
      (∀ x ∈ batch, Returns asBytes x.2 x.1 ∧ Reports L asBytes x.2 x.1) ∧
        ∀ x ∈ batch.dropLast, PostReturns L asBytes x.2 x.1 := by
  induction batch generalizing count with
  | nil => simp [answeredIds_nil]
  | cons x rest ih =>
    obtain ⟨action, c⟩ := x
    cases h : (execute c action L asBytes).2 with
    | none =>
      have hreturns : ¬ Returns asBytes c action := by
        rw [← execute_ne_none_iff L, h]
        simp
      simp [answeredIds_cons_of_none h, hreturns]
    | some r =>
      have hreturns : Returns asBytes c action := by
        rw [← execute_ne_none_iff L, h]
        simp
      have hreports : Reports L asBytes c action ↔ (postResponse c (timed c r)).reachesHub := by
        simp [Reports, h]
      have hposts : PostReturns L asBytes c action ↔ (postResponse c (timed c r)).returns := by
        simp [PostReturns, h]
      rw [answeredIds_cons_of_some h, List.forall_mem_cons, hreports]
      cases hhub : (postResponse c (timed c r)).reachesHub with
      | false =>
        have hlen : (answeredIds L asBytes rest (count + 1)).length ≤ rest.length :=
          length_answeredIds_le rest (count + 1)
        constructor
        · intro heq
          have heqlen := congrArg List.length heq
          cases hret : (postResponse c (timed c r)).returns with
          | true =>
            simp [hret] at heqlen
            omega
          | false => simp [hret] at heqlen
        · rintro ⟨⟨⟨-, hfalse⟩, -⟩, -⟩
          cases hfalse
      | true =>
        cases hret : (postResponse c (timed c r)).returns with
        | true =>
          have hlast : (∀ x ∈ ((action, c) :: rest).dropLast, PostReturns L asBytes x.2 x.1) ↔
              ∀ x ∈ rest.dropLast, PostReturns L asBytes x.2 x.1 := by
            cases rest with
            | nil => simp
            | cons y ys => simp [hposts, hret]
          rw [hlast]
          simp [ih, hreturns]
        | false =>
          cases rest with
          | nil => simp [hreturns]
          | cons y ys => simp [hposts, hret]

end

/-- **When a poll is handled**: exactly if each action ends and its response reaches the hub. -/
theorem batchHandled_iff {K S : Type} (L : SignedExecutor.Lib K S) (asBytes : String → Bytes)
    (batch : Batch) (count : Nat) :
    BatchHandled batch (runBatch L asBytes batch count).1 ↔
      (∀ x ∈ batch, Returns asBytes x.2 x.1 ∧ Reports L asBytes x.2 x.1) ∧
        ∀ x ∈ batch.dropLast, PostReturns L asBytes x.2 x.1 := by
  rw [← answeredIds_eq_iff batch count]
  constructor
  · intro h
    exact h.answered
  · intro h
    exact ⟨h, scriptsApproved_runBatch L asBytes batch count⟩

def unending : Circumstances where
  decision _ := some .approved
  parent _ := none
  script := sleepWorld
  lua := ⟨.ok (), fun _ => none⟩
  signed := SignedExecutor.quickWorld
  bridge _ := some (.ok ⟨true, ""⟩)
  durationMs := 1
  timestamp := "2026-01-01T00:00:00+00:00"
  toVec _ := .ok []
  post _ := ⟨true, true⟩

def loopAction : HubAction where
  id := "act_1"
  type := "lua"
  parameters := .object [("source", .string "while true do end")]
  userId := "u"
  communityId := "c"
  timeout := 1
  moduleName := none

def sceneAction : HubAction where
  id := "act_2"
  type := "obs_command"
  parameters := .object [("obs_request_type", .string "SetCurrentProgramScene")]
  userId := "u"
  communityId := "c"
  timeout := 1
  moduleName := some "waddlebot"

theorem unending_script_blocks_batch :
    runBatch (SignedExecutor.lenientLib (SignedExecutor.toolManifest "tool")) (fun _ => [])
        [(loopAction, unending), (sceneAction, unending)] 0 =
      ([.asked (PendingAction.fromRequest loopAction.toActionRequest) .approved,
        .ran "act_1" "lua" "while true do end"], none) ∧
      ¬ BatchHandled [(loopAction, unending), (sceneAction, unending)]
        (runBatch (SignedExecutor.lenientLib (SignedExecutor.toolManifest "tool")) (fun _ => [])
          [(loopAction, unending), (sceneAction, unending)] 0).1 := by
  refine ⟨rfl, fun h => ?_⟩
  cases h.answered

/-! ## The output of an action -/

def Wrote (spawned : Except String Child) (stdout stderr : Bytes) : Prop :=
  ∃ child t code, spawned = .ok child ∧ child.waited = some (t, .ok ⟨code, stdout, stderr⟩)

def Outputs {K S : Type} (L : SignedExecutor.Lib K S) (c : Circumstances) (action : HubAction)
    (stdout stderr : Bytes) : Prop :=
  if action.type = "signed_binary" then
    ∃ command, SignedExecutor.prepare L c.signed action.toActionRequest = .ok command ∧
      Wrote (c.signed.spawn command) stdout stderr
  else if action.type = "lua" then True
  else
    ∃ x, ScriptExecutor.prepare c.parent c.script action.toActionRequest = .ok x ∧
      Wrote (c.script.spawn x.1) stdout stderr

/-- Outputs are cut at the limit, and a result says so. -/
def Reported (r : ActionResult) (stdout stderr : Bytes) : Prop :=
  (r.stdout <+: stdout ∧ r.stdout.length ≤ maxOutputBytes) ∧
    (r.stderr <+: stderr ∧ r.stderr.length ≤ maxOutputBytes) ∧
    (r.truncated ↔ r.stdout ≠ stdout ∨ r.stderr ≠ stderr)

def keptOutput (type : String) (data : Bytes) : Bytes :=
  if type = "signed_binary" then data else if type = "lua" then [] else capOutput data

section

variable {K S : Type} {L : SignedExecutor.Lib K S} {asBytes : String → Bytes} {c : Circumstances}
  {action : HubAction} {response : ActionResponse} {r : ActionResult} {stdout stderr : Bytes}

theorem collect_eq_ok {rt : Runtime} {timeout : Int32} {child : Child} {start t : Time}
    {failed timedOut : String} {code : Option Int32} {f : Output → ExecResult} {x : ExecResult}
    (hw : child.waited = some (t, .ok ⟨code, stdout, stderr⟩))
    (h : ((waitWithTimeout rt timeout child start).collect failed timedOut).map f = .ok x) :
    f ⟨code, stdout, stderr⟩ = x := by
  simp only [waitWithTimeout, hw] at h
  split_ifs at h
  · exact Except.ok.inj h
  · cases h

theorem result_gated {run : Option String × Option ActionResponse}
    (h : (ActionExecutor.gated c action run).2 = some response) (hr : response.result = some r) :
    run.2 = some response := by
  revert h
  fun_cases gated c action run with intro h
  | case1 => cases h
  | case2 => exact h
  | case3 | case4 =>
    cases h
    cases hr

theorem result_signed (ho : ∃ command,
      SignedExecutor.prepare L c.signed action.toActionRequest = .ok command ∧
        Wrote (c.signed.spawn command) stdout stderr)
    (h : SignedExecutor.executeSignedBinary L c.signed action.toActionRequest = some response)
    (hr : response.result = some r) : ∃ code, r = ⟨code, stdout, stderr, false⟩ := by
  obtain ⟨command, hprepare, child, t, code, hspawn, hw⟩ := ho
  simp only [SignedExecutor.executeSignedBinary, SignedExecutor.execute, hprepare, hspawn,
    Option.map_some, Option.some.injEq] at h
  split at h
  · rename_i x hx
    obtain rfl := collect_eq_ok hw hx
    cases h
    cases hr
    exact ⟨_, rfl⟩
  · cases h
    cases hr

theorem result_script (ho : ∃ x,
      ScriptExecutor.prepare c.parent c.script action.toActionRequest = .ok x ∧
        Wrote (c.script.spawn x.1) stdout stderr)
    (h : (ActionExecutor.executeScript c action).2 = some response)
    (hr : response.result = some r) :
    ∃ code, r = ⟨code, capOutput stdout, capOutput stderr, false⟩ := by
  obtain ⟨⟨command, script⟩, hprepare, child, t, code, hspawn, hw⟩ := ho
  have hrun := result_gated h hr
  simp only [ScriptExecutor.execute, hprepare, hspawn, ScriptExecutor.finish] at hrun
  split at hrun
  · cases hrun
  · cases hrun
    cases hr
  · simp only [Option.map_some, Option.some.injEq, ActionExecutor.scriptResponse] at hrun
    split at hrun
    · rename_i x hx
      obtain rfl := collect_eq_ok hw hx
      cases hrun
      cases hr
      exact ⟨_, rfl⟩
    · cases hrun
      cases hr

theorem result_lua (h : (ActionExecutor.executeLua c action).2 = some response)
    (hr : response.result = some r) : ∃ code, r = ⟨code, [], [], false⟩ := by
  obtain ⟨x, -, hx⟩ := Option.map_eq_some_iff.mp (result_gated h hr)
  subst hx
  cases x <;> cases hr
  exact ⟨_, rfl⟩

theorem result_eq (ho : Outputs L c action stdout stderr)
    (h : (ActionExecutor.execute c action L asBytes).2 = some response)
    (hr : response.result = some r) :
    ∃ code, r = ⟨code, keptOutput action.type stdout, keptOutput action.type stderr, false⟩ := by
  revert h
  fun_cases execute c action L asBytes with intro h
  | case1 hsigned =>
    rw [Outputs, if_pos hsigned] at ho
    simp only [keptOutput, if_pos hsigned]
    exact result_signed ho h hr
  | case2 hsigned hscript =>
    have hlua : action.type ≠ "lua" := fun hlua => by simp [hlua] at hscript
    rw [Outputs, if_neg hsigned, if_neg hlua] at ho
    simp only [keptOutput, if_neg hsigned, if_neg hlua]
    exact result_script ho h hr
  | case3 hsigned _ hlua =>
    simp only [keptOutput, if_neg hsigned, if_pos hlua]
    exact result_lua h hr
  | case4 | case5 =>
    obtain ⟨x, -, rfl⟩ := Option.map_eq_some_iff.mp h
    cases x <;> cases hr
  | case6 =>
    cases h
    cases hr

theorem capOutput_eq_take (data : Bytes) : capOutput data = data.take maxOutputBytes := by
  unfold capOutput
  split_ifs with h
  · rfl
  · exact (List.take_of_length_le (Nat.le_of_not_lt h)).symm

/-- **Outputs are reported right** exactly if neither is longer than 64 KiB and no Lua script
prints. -/
theorem reported_iff (asBytes : String → Bytes) (ho : Outputs L c action stdout stderr)
    (h : (ActionExecutor.execute c action L asBytes).2 = some response)
    (hr : response.result = some r) :
    Reported r stdout stderr ↔ (stdout.length ≤ maxOutputBytes ∧ stderr.length ≤ maxOutputBytes) ∧
      (action.type = "lua" → stdout = [] ∧ stderr = []) := by
  obtain ⟨code, rfl⟩ := result_eq ho h hr
  unfold Reported keptOutput
  by_cases hsigned : action.type = "signed_binary"
  · simp [hsigned]
  · by_cases hlua : action.type = "lua"
    · simp only [hlua, String.reduceEq, if_false, if_true, List.nil_prefix, List.length_nil,
        Nat.zero_le, and_self, true_and, Bool.false_eq_true, false_iff, ← not_and_or, not_not,
        forall_const, eq_comm (a := ([] : Bytes))]
      refine ⟨fun h => ⟨?_, h⟩, fun h => h.2⟩
      rw [h.1, h.2]
      exact ⟨Nat.zero_le _, Nat.zero_le _⟩
    · simp only [hsigned, hlua, if_false, capOutput_eq_take, List.take_prefix,
        List.length_take_le, ← not_and_or, List.take_eq_self_iff]
      simp

end

def writer (data : Bytes) : Child where
  ends := some 10
  written := some (5, .ok ())
  waited := some (10, .ok ⟨some 0, data, []⟩)
  ended_of_waited := by
    rintro t out ⟨⟩
    exact ⟨_, rfl, Nat.le_refl _⟩

def writing (data : Bytes) : Circumstances :=
  { unending with script := { sleepWorld with spawn := fun _ => .ok (writer data) } }

def writeAction : HubAction := { sleepAction with moduleName := none }

theorem outputs_writing (data : Bytes) : Outputs
    (SignedExecutor.lenientLib (SignedExecutor.toolManifest "tool")) (writing data) writeAction
      data [] :=
  ⟨_, rfl, writer data, 10, some 0, rfl, rfl⟩

theorem execute_writing (data : Bytes) :
    (ActionExecutor.execute (writing data) writeAction
      (SignedExecutor.lenientLib (SignedExecutor.toolManifest "tool")) fun _ => []).2 =
      some (ActionExecutor.success writeAction 0 (capOutput data) []) := by
  rfl

theorem short_output_reported : Reported ⟨some 0, [104, 105], [], false⟩ [104, 105] [] :=
  (reported_iff (fun _ => []) (outputs_writing [104, 105]) (execute_writing [104, 105]) rfl).mpr
    (by decide)

theorem not_reported_of_long {data : Bytes} (h : maxOutputBytes < data.length) :
    (capOutput data).length = maxOutputBytes ∧
      ¬ Reported ⟨some 0, capOutput data, [], false⟩ data [] := by
  refine ⟨?_, fun hreported => ?_⟩
  · rw [capOutput_eq_take, List.length_take, Nat.min_eq_left h.le]
  · have hcut : capOutput data ≠ data := by
      rw [capOutput_eq_take, Ne, List.take_eq_self_iff]
      exact h.not_ge
    cases hreported.2.2.mpr (.inl hcut)

/-- **The flag is lost**: of 65537 bytes the response has 65536, and does not say so. -/
theorem long_output_not_flagged :
    (ActionExecutor.execute (writing (List.replicate 65537 0)) writeAction
      (SignedExecutor.lenientLib (SignedExecutor.toolManifest "tool")) fun _ => []).2 =
        some (ActionExecutor.success writeAction 0 (capOutput (List.replicate 65537 0)) []) ∧
      (capOutput (List.replicate 65537 0)).length = maxOutputBytes ∧
      ¬ Reported ⟨some 0, capOutput (List.replicate 65537 0), [], false⟩
        (List.replicate 65537 0) [] := by
  refine ⟨execute_writing _, not_reported_of_long ?_⟩
  rw [List.length_replicate, maxOutputBytes]
  omega

end Penguind.Desktop
