import Penguind.Foundation.Json

/-!
# The hook command

An agent runs the command around its tool calls, and a code other than zero blocks the call. The
server decides; without a decision the cached denylist can still deny.
-/

namespace Penguind.Waddleai

open Foundation

abbrev Bytes := List UInt8

/-! ## The API -/

/-- A `document` has repeated fields as they stand in the text. -/
structure JsonLib where
  fromStr : String → Except String Value
  fromSlice : Bytes → Except String Value
  document : Bytes → Except String Value
  /-- Why a document is not of the shape that is asked for. -/
  shapeError : Bytes → String
  toText : Value → String
  toVec : Value → Bytes
  toVecPretty : Value → Bytes
  fromUtf8Lossy : Bytes → String

inductive ErrorBody
  | structured (code message : String)
  | plain (message : String)
  | unparsed (raw : String)
  deriving DecidableEq, Repr

inductive WaddleAiError
  | setup (message : String)
  | transport (message : String)
  | auth (status : UInt16) (body : ErrorBody)
  | status (status : UInt16) (body : ErrorBody)
  | decode (message : String)
  deriving DecidableEq, Repr

def textOr (v : Value) (key : String) : String := ((v.get key).bind Value.asStr).getD ""

def parseErrorBody (J : JsonLib) (bytes : Bytes) : ErrorBody :=
  match J.fromSlice bytes with
  | .error _ => .unparsed (J.fromUtf8Lossy bytes)
  | .ok value =>
    match value.get "error" with
    | some (.string message) => .plain message
    | some (.object fields) =>
      .structured (textOr (.object fields) "code") (textOr (.object fields) "message")
    | _ => .unparsed (J.fromUtf8Lossy bytes)

inductive Exchange
  | failed (message : String)
  | replied (status : UInt16) (body : Except String Bytes)

def isSuccess (status : UInt16) : Bool := 200 ≤ status && status < 300

def execute {T : Type} (J : JsonLib) (decode : Value → Option T) :
    Exchange → Except WaddleAiError T
  | .failed message => .error (.transport message)
  | .replied _ (.error message) => .error (.transport message)
  | .replied status (.ok bytes) =>
    if isSuccess status then
      match J.document bytes with
      | .error message => .error (.decode message)
      | .ok document =>
        match decode document with
        | some response => .ok response
        | none => .error (.decode (J.shapeError bytes))
    else if status = 401 ∨ status = 403 then .error (.auth status (parseErrorBody J bytes))
    else .error (.status status (parseErrorBody J bytes))

structure EvaluateResponse where
  decision : String
  reason : String
  deriving DecidableEq, Repr

namespace EvaluateResponse

/-- A known field must be a string and not be repeated; others are passed over. -/
def decodeFields : List (String × Value) → Option String → Option String →
    Option EvaluateResponse
  | [], some decision, reason => some ⟨decision, reason.getD ""⟩
  | [], none, _ => none
  | (key, v) :: fields, decision, reason =>
    if key = "decision" then
      if decision.isSome then none
      else v.asStr.bind fun text => decodeFields fields (some text) reason
    else if key = "reason" then
      if reason.isSome then none
      else v.asStr.bind fun text => decodeFields fields decision (some text)
    else decodeFields fields decision reason

def decode : Value → Option EvaluateResponse
  | .object fields => decodeFields fields none none
  | .array [decision] => decision.asStr.map fun text => ⟨text, ""⟩
  | .array [decision, reason] => do pure ⟨← decision.asStr, ← reason.asStr⟩
  | .array _ | .null | .bool _ | .int _ | .float _ | .string _ => none

end EvaluateResponse

inductive Ecosystem
  | claude
  | gemini
  | vsCode
  deriving DecidableEq, Repr

namespace Ecosystem

def asStr : Ecosystem → String
  | .claude => "claude"
  | .gemini => "gemini"
  | .vsCode => "vscode"

def parse (value : String) : Option Ecosystem :=
  if value = "claude" then some .claude
  else if value = "gemini" then some .gemini
  else if value = "vscode" then some .vsCode
  else none

end Ecosystem

def hookEvents : List String := ["pre-tool-use", "post-tool-use"]

structure WaddleAiClient where
  baseUrl : String
  virtualKey : String
  deriving DecidableEq, Repr

structure ApiRequest where
  method : String
  url : String
  bearer : String
  body : Value

def WaddleAiClient.eventRequest (client : WaddleAiClient) (ecosystem event : String)
    (payload : Value) : ApiRequest where
  method := "POST"
  url := client.baseUrl ++ "/agent-hooks/events"
  bearer := client.virtualKey
  body := .object [("ecosystem", .string ecosystem), ("event", .string event), ("payload", payload)]

structure DenylistCache where
  version : String
  entries : List String
  syncedAtUnix : Option UInt64
  deriving DecidableEq, Repr

def DenylistCache.contains (cache : DenylistCache) (subject : String) : Bool :=
  cache.entries.any (· = subject)

structure HookMetrics where
  invocations : List (String × String)
  decisions : List String
  apiRequests : Nat
  apiErrors : Nat
  latencies : Nat
  deriving DecidableEq, Repr

structure WaddleAiModule where
  client : WaddleAiClient
  denylist : DenylistCache
  metrics : HookMetrics
  exchanges : List (ApiRequest × Exchange)

inductive DecisionSource
  | live
  | cachedDenylist
  deriving DecidableEq, Repr

def DecisionSource.asStr : DecisionSource → String
  | .live => "live"
  | .cachedDenylist => "cached_denylist"

inductive HookOutcome
  | allow (reason : String)
  | deny (reason : String) (source : DecisionSource)
  | unavailable (reason : String)
  deriving DecidableEq, Repr

namespace WaddleAiModule

variable (J : JsonLib) (server : ApiRequest → Exchange) (m : WaddleAiModule)

def call {T : Type} (decode : Value → Option T) (request : ApiRequest) :
    Except WaddleAiError T × WaddleAiModule :=
  let exchange := server request
  let result := execute J decode exchange
  (result, { m with
    metrics.apiRequests := m.metrics.apiRequests + 1
    metrics.apiErrors := if result.isOk then m.metrics.apiErrors else m.metrics.apiErrors + 1
    exchanges := m.exchanges ++ [(request, exchange)] })

def recordDecision (outcome : String) : WaddleAiModule :=
  { m with metrics.decisions := m.metrics.decisions ++ [outcome] }

def liveOutcome (response : EvaluateResponse) : HookOutcome :=
  if response.decision = "allow" then .allow response.reason
  else
    .deny (if response.reason = "" then "denied by WaddleAI" else response.reason) .live

def offlineOutcome (payload : Value) : HookOutcome :=
  match (payload.get "subject").bind Value.asStr with
  | some subject =>
    if m.denylist.contains subject then
      .deny "subject matches the cached Tier-1 denylist" .cachedDenylist
    else
      .unavailable "WaddleAI is unreachable and the subject is not on the cached denylist"
  | none => .unavailable "WaddleAI is unreachable and the subject is not on the cached denylist"

def label : HookOutcome → String
  | .allow _ => "allow"
  | .deny _ _ => "deny"
  | .unavailable _ => "unavailable"

def evaluateHookEvent (ecosystem : Ecosystem) (event : String) (payload : Value) :
    HookOutcome × WaddleAiModule :=
  let m := { m with
    metrics.invocations := m.metrics.invocations ++ [(ecosystem.asStr, event)] }
  let (result, m) := m.call J server EvaluateResponse.decode
    (m.client.eventRequest ecosystem.asStr event payload)
  let outcome :=
    match result with
    | .ok response => liveOutcome response
    | .error _ => m.offlineOutcome payload
  (outcome, m.recordDecision (label outcome))

end WaddleAiModule

/-! ## The command -/

structure CommandResult where
  output : String
  json : Bytes
  exitCode : Int32
  deriving DecidableEq, Repr

def usageResult (message : String) : CommandResult := ⟨message, [], 1⟩

def unknownSubcommand (name : String) : CommandResult :=
  usageResult ("Unknown subcommand: " ++ name)

def outcomeResult (J : JsonLib) : HookOutcome → CommandResult
  | .allow reason =>
    let value := .object [("decision", .string "allow"), ("reason", .string reason)]
    ⟨J.toText value, J.toVec value, 0⟩
  | .deny reason source =>
    let value := .object [("decision", .string "deny"), ("reason", .string reason),
      ("source", .string source.asStr)]
    ⟨J.toText value, J.toVec value, 1⟩
  | .unavailable reason =>
    let value := .object [("decision", .string "unavailable"), ("reason", .string reason)]
    ⟨J.toText value, J.toVec value, 2⟩

def payloadEcosystem (payload : Value) : Ecosystem :=
  (((payload.get "ecosystem").bind Value.asStr).bind Ecosystem.parse).getD .claude

def hookCommand (J : JsonLib) (server : ApiRequest → Exchange) (m : WaddleAiModule)
    (path args : List String) : CommandResult × WaddleAiModule :=
  match path[1]? with
  | none =>
    (usageResult
      "Usage: waddleai hook \x7bpre-tool-use|post-tool-use\x7d (payload piped on stdin)", m)
  | some event =>
    if event ∈ hookEvents then
      match args.head? with
      | none =>
        (usageResult ("no payload provided on stdin for `waddleai hook " ++ event ++ "`"), m)
      | some rawPayload =>
        match J.fromStr rawPayload with
        | .error err => (usageResult ("invalid JSON payload: " ++ err), m)
        | .ok payload =>
          let (outcome, m) :=
            m.evaluateHookEvent J server (payloadEcosystem payload) event payload
          (outcomeResult J outcome, { m with metrics.latencies := m.metrics.latencies + 1 })
    else (unknownSubcommand event, m)

/-! ## Which answers are decisions -/

def named (key : String) (fields : List (String × Value)) : List Value :=
  (fields.filter (·.1 = key)).map Prod.snd

@[simp] theorem named_nil (key : String) : named key [] = [] := rfl

theorem named_cons (key : String) (field : String × Value) (fields : List (String × Value)) :
    named key (field :: fields) =
      if field.1 = key then field.2 :: named key fields else named key fields := by
  unfold named
  rw [List.filter_cons]
  by_cases h : field.1 = key <;> simp [h]

/-- The field is missing, and `text` is empty, or it is there once. -/
def TextOnce (values : List Value) (text : String) : Prop :=
  values = [] ∧ text = "" ∨ values = [.string text]

theorem decodeFields_eq_some {fields : List (String × Value)} {decision reason : Option String}
    {response : EvaluateResponse} :
    EvaluateResponse.decodeFields fields decision reason = some response ↔
      decision.toList.map .string ++ named "decision" fields = [.string response.decision] ∧
        TextOnce (reason.toList.map .string ++ named "reason" fields) response.reason := by
  induction fields generalizing decision reason with
  | nil =>
    cases decision with
    | none => simp [EvaluateResponse.decodeFields]
    | some d =>
      obtain ⟨d', r'⟩ := response
      cases reason with
      | none => simp [EvaluateResponse.decodeFields, TextOnce, eq_comm]
      | some r => simp [EvaluateResponse.decodeFields, TextOnce]
  | cons field fields ih =>
    obtain ⟨key, v⟩ := field
    rw [EvaluateResponse.decodeFields]
    by_cases hdecision : key = "decision"
    · subst hdecision
      cases decision with
      | some d => simp [named_cons]
      | none =>
        cases v with
        | string text => simp [Value.asStr, ih, named_cons]
        | _ => simp [Value.asStr, named_cons]
    · by_cases hreason : key = "reason"
      · subst hreason
        cases reason with
        | some r => simp [named_cons, TextOnce]
        | none =>
          cases v with
          | string text => simp [Value.asStr, ih, named_cons]
          | _ => simp [Value.asStr, named_cons, TextOnce]
      · rw [if_neg hdecision, if_neg hreason, ih]
        simp [named_cons, hdecision, hreason]

theorem decode_eq_some {document : Value} {response : EvaluateResponse} :
    EvaluateResponse.decode document = some response ↔
      (∃ fields, document = .object fields ∧
        named "decision" fields = [.string response.decision] ∧
          TextOnce (named "reason" fields) response.reason) ∨
      ∃ rest, document = .array (.string response.decision :: rest) ∧
        TextOnce rest response.reason := by
  obtain ⟨decision, reason⟩ := response
  cases document with
  | object fields => simp [EvaluateResponse.decode, decodeFields_eq_some]
  | array items =>
    rcases items with _ | ⟨first, _ | ⟨second, _ | ⟨third, rest⟩⟩⟩
    · simp [EvaluateResponse.decode]
    · cases first <;> simp [EvaluateResponse.decode, TextOnce, Value.asStr, @eq_comm _ ""]
    · cases first <;> cases second <;> simp [EvaluateResponse.decode, TextOnce, Value.asStr]
    · simp [EvaluateResponse.decode, TextOnce]
  | _ => simp [EvaluateResponse.decode]

theorem execute_eq_ok {T : Type} {J : JsonLib} {decode : Value → Option T} {exchange : Exchange}
    {response : T} :
    execute J decode exchange = .ok response ↔
      ∃ status bytes document, exchange = .replied status (.ok bytes) ∧ isSuccess status = true ∧
        J.document bytes = .ok document ∧ decode document = some response := by
  constructor
  · fun_cases execute J decode exchange with rintro ⟨⟩
    | case4 status bytes hstatus document hdocument _ hdecode =>
      exact ⟨status, bytes, document, rfl, hstatus, hdocument, hdecode⟩
  · rintro ⟨status, bytes, document, rfl, hstatus, hdocument, hdecode⟩
    simp [execute, hstatus, hdocument, hdecode]

/-- An object whose one decision is `allow`, or an array that begins with it. -/
def Allows (document : Value) : Prop :=
  (∃ fields, document = .object fields ∧ named "decision" fields = [.string "allow"] ∧
    ∃ reason, TextOnce (named "reason" fields) reason) ∨
  ∃ rest, document = .array (.string "allow" :: rest) ∧ ∃ reason, TextOnce rest reason

theorem allows_iff {document : Value} :
    Allows document ↔ ∃ reason, EvaluateResponse.decode document = some ⟨"allow", reason⟩ := by
  simp only [decode_eq_some, Allows]
  constructor
  · rintro (⟨fields, hdoc, hdecision, reason, hreason⟩ | ⟨rest, hdoc, reason, hreason⟩)
    · exact ⟨reason, .inl ⟨fields, hdoc, hdecision, hreason⟩⟩
    · exact ⟨reason, .inr ⟨rest, hdoc, hreason⟩⟩
  · rintro ⟨reason, ⟨fields, hdoc, hdecision, hreason⟩ | ⟨rest, hdoc, hreason⟩⟩
    · exact .inl ⟨fields, hdoc, hdecision, reason, hreason⟩
    · exact .inr ⟨rest, hdoc, reason, hreason⟩

section

variable {J : JsonLib} {server : ApiRequest → Exchange} {m : WaddleAiModule}

theorem exitCode_outcomeResult {outcome : HookOutcome} :
    (outcomeResult J outcome).exitCode = 0 ↔ ∃ reason, outcome = .allow reason := by
  cases outcome <;> simp [outcomeResult]

theorem liveOutcome_eq_allow {response : EvaluateResponse} {reason : String} :
    WaddleAiModule.liveOutcome response = .allow reason ↔ response = ⟨"allow", reason⟩ := by
  obtain ⟨decision, reason'⟩ := response
  by_cases h : decision = "allow" <;> simp [WaddleAiModule.liveOutcome, h]

theorem offlineOutcome_ne_allow {payload : Value} {reason : String} :
    m.offlineOutcome payload ≠ .allow reason := by
  fun_cases WaddleAiModule.offlineOutcome m payload <;> simp

def hookRequest (m : WaddleAiModule) (ecosystem : Ecosystem) (event : String) (payload : Value) :
    ApiRequest :=
  m.client.eventRequest ecosystem.asStr event payload

theorem evaluateHookEvent_eq_allow {ecosystem : Ecosystem} {event : String} {payload : Value}
    {reason : String} :
    (m.evaluateHookEvent J server ecosystem event payload).1 = .allow reason ↔
      execute J EvaluateResponse.decode (server (hookRequest m ecosystem event payload)) =
        .ok ⟨"allow", reason⟩ := by
  unfold WaddleAiModule.evaluateHookEvent WaddleAiModule.call
  show (match execute J EvaluateResponse.decode
    (server (hookRequest m ecosystem event payload)) with
    | .ok response => WaddleAiModule.liveOutcome response
    | .error _ => _) = _ ↔ _
  cases execute J EvaluateResponse.decode (server (hookRequest m ecosystem event payload)) with
  | ok response => simp [liveOutcome_eq_allow]
  | error e => simp [offlineOutcome_ne_allow]

theorem hookCommand_cases (J : JsonLib) (server : ApiRequest → Exchange) (m : WaddleAiModule)
    (path args : List String) :
    (∃ message, hookCommand J server m path args = (usageResult message, m)) ∨
      ∃ ecosystem event payload,
        (hookCommand J server m path args).1 =
          outcomeResult J (m.evaluateHookEvent J server ecosystem event payload).1 ∧
        (hookCommand J server m path args).2.exchanges =
          m.exchanges ++ [(hookRequest m ecosystem event payload,
            server (hookRequest m ecosystem event payload))] := by
  fun_cases hookCommand J server m path args with
  | case4 event _ _ _ _ payload _ _ _ heval =>
    refine .inr ⟨payloadEcosystem payload, event, payload, ?_⟩
    rw [heval]
    exact ⟨rfl, congrArg (·.2.exchanges) heval.symm⟩
  | _ => exact .inl ⟨_, rfl⟩

end

end Penguind.Waddleai
