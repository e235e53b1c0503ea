import Mathlib.Data.Finset.Insert
import Penguind.Waddlebot.Relay

/-!
# Tokens and transports of the bridge

Over TCP a script shows a token that was minted for its name; over the unix socket it gives the
name alone. An operation is passed on only if the scopes the name was registered with contain the
one it needs.
-/

namespace Penguind.Waddlebot

open Foundation

inductive Scope
  | status
  | musicRead
  | musicWrite
  | announcementRead
  | announcementWrite
  | browserSourceRead
  deriving DecidableEq, Repr

def Scope.all : Finset Scope :=
  {.status, .musicRead, .musicWrite, .announcementRead, .announcementWrite, .browserSourceRead}

def Operation.parse (name : String) : Option Operation :=
  if name = "status" then some .getStatus
  else if name = "music.get" then some .getMusicSettings
  else if name = "music.update" then some .updateMusicSettings
  else if name = "announcements.list" then some .listAnnouncements
  else if name = "announcements.create" then some .createAnnouncement
  else if name = "browser_sources.list" then some .listBrowserSources
  else none

def Operation.requiredScope : Operation → Scope
  | .getStatus => .status
  | .getMusicSettings => .musicRead
  | .updateMusicSettings => .musicWrite
  | .listAnnouncements => .announcementRead
  | .createAnnouncement => .announcementWrite
  | .listBrowserSources => .browserSourceRead

/-! ## The registry -/

structure ScriptIdentity where
  name : String
  scopes : Finset Scope
  deriving DecidableEq

structure TokenRegistry where
  scopesByName : String → Option (Finset Scope)
  tokenToName : String → Option String

def randomHex (bytes : List UInt8) : String :=
  String.ofList (bytes.flatMap fun b =>
    [Nat.digitChar (b.toNat / 16), Nat.digitChar (b.toNat % 16)])

namespace TokenRegistry

def new : TokenRegistry := ⟨fun _ => none, fun _ => none⟩

variable (r : TokenRegistry)

def register (name : String) (scopes : Finset Scope) : TokenRegistry :=
  { r with scopesByName := Function.update r.scopesByName name (some scopes) }

def revoke (name : String) : TokenRegistry :=
  { r with tokenToName := fun token =>
      if r.tokenToName token = some name then none else r.tokenToName token }

def freshToken (random : List UInt8) : String := "wdlbridge_" ++ randomHex random

def mint (name : String) (random : List UInt8) : Option String × TokenRegistry :=
  match r.scopesByName name with
  | none => (none, r)
  | some _ =>
    let token := freshToken random
    let kept := r.revoke name
    (some token, { kept with tokenToName := Function.update kept.tokenToName token (some name) })

def authorizeToken (token : String) : Option ScriptIdentity :=
  if token = "" then none
  else (r.tokenToName token).bind fun name =>
    (r.scopesByName name).map fun scopes => ⟨name, scopes⟩

def identityForName (name : String) : Option ScriptIdentity :=
  (r.scopesByName name).map fun scopes => ⟨name, scopes⟩

end TokenRegistry

inductive RegistryOp
  | register (name : String) (scopes : Finset Scope)
  | mint (name : String) (random : List UInt8)
  | revoke (name : String)
  | authorize (token : String)
  deriving DecidableEq

namespace TokenRegistry

def step (r : TokenRegistry) : RegistryOp → TokenRegistry
  | .register name scopes => r.register name scopes
  | .mint name random => (r.mint name random).2
  | .revoke name => r.revoke name
  | .authorize _ => r

def handsOut (r : TokenRegistry) : RegistryOp → Option String
  | .mint name random => (r.mint name random).1
  | .register _ _ | .revoke _ | .authorize _ => none

def after (ops : List RegistryOp) : TokenRegistry := ops.foldl step new

def handedOut : TokenRegistry → List RegistryOp → List String
  | _, [] => []
  | r, op :: ops => (r.handsOut op).toList ++ handedOut (r.step op) ops

end TokenRegistry

def RegistryOp.Concerns (name : String) : RegistryOp → Prop
  | .mint name' _ => name' = name
  | .revoke name' => name' = name
  | .register _ _ | .authorize _ => False

def MostRecent (ops : List RegistryOp) (token name : String) : Prop :=
  ∃ before random later, ops = before ++ .mint name random :: later ∧
    (TokenRegistry.after before).handsOut (.mint name random) = some token ∧
    ∀ op ∈ later, ¬ op.Concerns name

/-! ### The registry after each operation -/

section

variable {r : TokenRegistry} {name token owner : String} {random : List UInt8}

open TokenRegistry

theorem tokenToName_revoke :
    (r.revoke name).tokenToName token = some owner ↔
      r.tokenToName token = some owner ∧ owner ≠ name := by
  unfold TokenRegistry.revoke
  by_cases h : r.tokenToName token = some name
  · simp only [h, Option.some.injEq]
    constructor
    · intro hnone
      cases hnone
    · rintro ⟨rfl, hne⟩
      exact absurd rfl hne
  · simp only [if_neg h]
    refine ⟨fun ho => ⟨ho, ?_⟩, And.left⟩
    rintro rfl
    exact h ho

theorem mint_of_unregistered (h : r.scopesByName name = none) :
    r.mint name random = (none, r) := by
  unfold TokenRegistry.mint
  rw [h]

theorem handsOut_of_registered (h : r.scopesByName name ≠ none) :
    r.handsOut (.mint name random) = some (freshToken random) := by
  obtain ⟨scopes, h⟩ := Option.ne_none_iff_exists'.mp h
  simp [handsOut, TokenRegistry.mint, h]

theorem tokenToName_mint (h : r.scopesByName name ≠ none) :
    (r.mint name random).2.tokenToName token = some owner ↔
      token = freshToken random ∧ owner = name ∨
        token ≠ freshToken random ∧ r.tokenToName token = some owner ∧ owner ≠ name := by
  obtain ⟨scopes, h⟩ := Option.ne_none_iff_exists'.mp h
  have hmint : (r.mint name random).2.tokenToName =
      Function.update (r.revoke name).tokenToName (freshToken random) (some name) := by
    simp [TokenRegistry.mint, h]
  rw [hmint]
  by_cases ht : token = freshToken random
  · subst ht
    simp [eq_comm]
  · rw [Function.update_of_ne ht, tokenToName_revoke]
    simp [ht]

theorem scopesByName_mint (name' : String) :
    (r.mint name random).2.scopesByName name' = r.scopesByName name' := by
  unfold TokenRegistry.mint
  split <;> rfl

theorem scopesByName_step (op : RegistryOp) (h : r.scopesByName name ≠ none) :
    (r.step op).scopesByName name ≠ none := by
  cases op with
  | register name' scopes =>
    show Function.update r.scopesByName name' (some scopes) name ≠ none
    by_cases hn : name = name'
    · subst hn
      simp
    · rwa [Function.update_of_ne hn]
  | mint name' random =>
    show (r.mint name' random).2.scopesByName name ≠ none
    rwa [scopesByName_mint]
  | revoke name' => exact h
  | authorize token => exact h

theorem freshToken_ne_empty : freshToken random ≠ "" := by
  intro h
  have := congrArg String.length h
  simp [freshToken] at this

structure WellOwned (r : TokenRegistry) : Prop where
  registered : ∀ token owner, r.tokenToName token = some owner → r.scopesByName owner ≠ none
  nonempty : ∀ token owner, r.tokenToName token = some owner → token ≠ ""
  single : ∀ token token' owner, r.tokenToName token = some owner →
    r.tokenToName token' = some owner → token = token'

theorem wellOwned_new : WellOwned TokenRegistry.new where
  registered token owner h := by cases h
  nonempty token owner h := by cases h
  single token token' owner h := by cases h

theorem WellOwned.revoke (h : WellOwned r) (name : String) : WellOwned (r.revoke name) where
  registered token owner ho := h.registered token owner (tokenToName_revoke.mp ho).1
  nonempty token owner ho := h.nonempty token owner (tokenToName_revoke.mp ho).1
  single token token' owner ho ho' :=
    h.single token token' owner (tokenToName_revoke.mp ho).1 (tokenToName_revoke.mp ho').1

theorem WellOwned.mint (h : WellOwned r) (name : String) (random : List UInt8) :
    WellOwned (r.mint name random).2 := by
  by_cases hreg : r.scopesByName name = none
  · rw [mint_of_unregistered hreg]
    exact h
  · refine ⟨fun token owner ho => ?_, fun token owner ho => ?_, fun token token' owner ho ho' => ?_⟩
    · rw [scopesByName_mint]
      rcases (tokenToName_mint hreg).mp ho with ⟨-, rfl⟩ | ⟨-, hold, -⟩
      · exact hreg
      · exact h.registered token owner hold
    · rcases (tokenToName_mint hreg).mp ho with ⟨rfl, -⟩ | ⟨-, hold, -⟩
      · exact freshToken_ne_empty
      · exact h.nonempty token owner hold
    · -- the new token is the only one of its name, since the others are dropped first
      rcases (tokenToName_mint hreg).mp ho with ⟨rfl, rfl⟩ | ⟨-, hold, hne⟩
      · rcases (tokenToName_mint hreg).mp ho' with ⟨rfl, -⟩ | ⟨-, -, hne⟩
        · rfl
        · exact absurd rfl hne
      · rcases (tokenToName_mint hreg).mp ho' with ⟨-, rfl⟩ | ⟨-, hold', -⟩
        · exact absurd rfl hne
        · exact h.single token token' owner hold hold'

theorem WellOwned.step (h : WellOwned r) (op : RegistryOp) : WellOwned (r.step op) := by
  cases op with
  | register name scopes =>
    exact
      { registered := fun token owner ho =>
          scopesByName_step (.register name scopes) (h.registered token owner ho)
        nonempty := h.nonempty
        single := h.single }
  | mint name random => exact h.mint name random
  | revoke name => exact h.revoke name
  | authorize token => exact h

theorem after_concat (ops : List RegistryOp) (op : RegistryOp) :
    after (ops ++ [op]) = (after ops).step op := by
  simp [TokenRegistry.after]

theorem wellOwned_after (ops : List RegistryOp) : WellOwned (after ops) := by
  induction ops using List.reverseRecOn with
  | nil => exact wellOwned_new
  | append_singleton ops op ih =>
    rw [after_concat]
    exact ih.step op

theorem authorizeToken_name_iff (h : WellOwned r) :
    (∃ identity, r.authorizeToken token = some identity ∧ identity.name = owner) ↔
      r.tokenToName token = some owner := by
  unfold TokenRegistry.authorizeToken
  constructor
  · rintro ⟨identity, hid, rfl⟩
    split at hid
    · cases hid
    · obtain ⟨name, hname, hscopes⟩ := Option.bind_eq_some_iff.mp hid
      obtain ⟨scopes, -, rfl⟩ := Option.map_eq_some_iff.mp hscopes
      exact hname
  · intro ho
    obtain ⟨scopes, hscopes⟩ := Option.ne_none_iff_exists'.mp (h.registered token owner ho)
    refine ⟨⟨owner, scopes⟩, ?_, rfl⟩
    rw [if_neg (h.nonempty token owner ho), ho]
    simp [hscopes]

end

/-! ### Whose a token is -/

section

open TokenRegistry

variable {ops : List RegistryOp} {op : RegistryOp} {token owner : String}

theorem handedOut_append (r : TokenRegistry) (as bs : List RegistryOp) :
    handedOut r (as ++ bs) = handedOut r as ++ handedOut (as.foldl TokenRegistry.step r) bs := by
  induction as generalizing r with
  | nil => rfl
  | cons op as ih =>
    rw [List.cons_append, handedOut, handedOut, ih, List.append_assoc]
    rfl

theorem handedOut_concat :
    handedOut new (ops ++ [op]) = handedOut new ops ++ ((after ops).handsOut op).toList := by
  rw [handedOut_append]
  simp [handedOut, TokenRegistry.after]

theorem MostRecent.mem_handedOut (h : MostRecent ops token owner) :
    token ∈ handedOut new ops := by
  obtain ⟨before, random, later, rfl, hout, -⟩ := h
  rw [handedOut_append, handedOut]
  have hmem : token ∈ ((after before).handsOut (.mint owner random)).toList := by
    rw [hout]
    exact Option.mem_toList.mpr rfl
  exact List.mem_append_right _ (List.mem_append_left _ hmem)

theorem mostRecent_concat :
    MostRecent (ops ++ [op]) token owner ↔
      (∃ random, op = .mint owner random) ∧ (after ops).handsOut op = some token ∨
        MostRecent ops token owner ∧ ¬ op.Concerns owner := by
  constructor
  · rintro ⟨before, random, later, heq, hout, hlater⟩
    rcases List.eq_nil_or_concat later with rfl | ⟨later, last, rfl⟩
    · obtain ⟨rfl, hop⟩ := List.append_inj' heq rfl
      cases hop
      exact .inl ⟨⟨random, rfl⟩, hout⟩
    · rw [List.concat_eq_append, ← List.cons_append, ← List.append_assoc] at heq
      obtain ⟨rfl, hop⟩ := List.append_inj' heq rfl
      cases hop
      refine .inr ⟨⟨before, random, later, rfl, hout, fun op' hmem => ?_⟩, ?_⟩
      · exact hlater op' (by simp [hmem])
      · exact hlater op (by simp)
  · rintro (⟨⟨random, rfl⟩, hout⟩ | ⟨⟨before, random, later, rfl, hout, hlater⟩, hop⟩)
    · exact ⟨ops, random, [], rfl, hout, nofun⟩
    · exact ⟨before, random, later ++ [op], by simp, hout,
        List.forall_mem_append.mpr ⟨hlater, List.forall_mem_singleton.mpr hop⟩⟩

theorem MostRecent.registered (h : MostRecent ops token owner) :
    (after ops).scopesByName owner ≠ none := by
  induction ops using List.reverseRecOn with
  | nil =>
    obtain ⟨before, random, later, heq, -⟩ := h
    simp at heq
  | append_singleton ops op ih =>
    rw [after_concat]
    refine scopesByName_step op ?_
    rcases mostRecent_concat.mp h with ⟨⟨random, rfl⟩, hout⟩ | ⟨hold, -⟩
    · intro hnone
      simp [handsOut, mint_of_unregistered hnone] at hout
    · exact ih hold

/-- By induction from the end of the operations. -/
theorem owner_iff_mostRecent (hfresh : (handedOut new ops).Nodup) :
    (after ops).tokenToName token = some owner ↔ MostRecent ops token owner := by
  induction ops using List.reverseRecOn generalizing token owner with
  | nil =>
    refine ⟨nofun, ?_⟩
    rintro ⟨before, random, later, heq, -⟩
    simp at heq
  | append_singleton ops op ih =>
    rw [handedOut_concat, List.nodup_append] at hfresh
    obtain ⟨hold, -, hnew⟩ := hfresh
    have ih : ∀ token owner, (after ops).tokenToName token = some owner ↔
        MostRecent ops token owner := fun _ _ => ih hold
    rw [after_concat, mostRecent_concat]
    cases op with
    | register | authorize =>
      simp only [reduceCtorEq, exists_false, false_and, false_or, RegistryOp.Concerns,
        not_false_eq_true, and_true, ← ih]
      rfl
    | revoke name =>
      simp only [reduceCtorEq, exists_false, false_and, false_or, RegistryOp.Concerns, ← ih]
      rw [← ne_eq, ne_comm]
      exact tokenToName_revoke
    | mint name random =>
      show ((after ops).mint name random).2.tokenToName token = some owner ↔ _
      by_cases hreg : (after ops).scopesByName name = none
      · -- nothing is minted, and there was no token for the name
        rw [mint_of_unregistered hreg, ih]
        constructor
        · intro h
          refine .inr ⟨h, ?_⟩
          rintro rfl
          exact h.registered hreg
        · rintro (⟨-, hout⟩ | ⟨h, -⟩)
          · simp [handsOut, mint_of_unregistered hreg] at hout
          · exact h
      · have hout : (after ops).handsOut (.mint name random) = some (freshToken random) :=
          handsOut_of_registered hreg
        rw [tokenToName_mint hreg, hout, ih]
        have hne : MostRecent ops token owner → token ≠ freshToken random := by
          intro h
          exact hnew token h.mem_handedOut _ (by simp [hout])
        constructor
        · rintro (⟨rfl, rfl⟩ | ⟨-, h, hname⟩)
          · exact .inl ⟨⟨random, rfl⟩, rfl⟩
          · exact .inr ⟨h, fun heq => hname heq.symm⟩
        · rintro (⟨⟨random', hop⟩, htoken⟩ | ⟨h, hname⟩)
          · cases hop
            exact .inl ⟨(Option.some.inj htoken).symm, rfl⟩
          · exact .inr ⟨hne h, h, fun heq => hname heq.symm⟩

end

/-! ## The transports -/

structure RpcRequest where
  integration : String
  token : String
  op : String
  params : Value

structure RpcResponse where
  ok : Bool
  result : Option Value
  error : Option String

namespace RpcResponse

def success (result : Value) : RpcResponse := ⟨true, some result, none⟩

def err (message : String) : RpcResponse := ⟨false, none, some message⟩

end RpcResponse

def RelayError.display : RelayError → String
  | .invalidParams message => "invalid params: " ++ message
  | .hub message => "hub error: " ++ message

inductive ScopedRelayError
  | outOfScope
  | relay (e : RelayError)

inductive StatusCode
  | ok
  | unauthorized
  | forbidden
  | badGateway
  deriving DecidableEq, Repr

structure BridgeState where
  tokens : TokenRegistry
  hub : Hub
  cat : String

def BridgeState.relay (state : BridgeState) (identity : ScriptIdentity) (op : Operation)
    (params : Value) : List Operation × Except ScopedRelayError Value :=
  if op.requiredScope ∈ identity.scopes then
    ([op], (Waddlebot.relay state.hub state.cat op params).mapError .relay)
  else ([], .error .outOfScope)

def rpcHandler (state : BridgeState) (request : RpcRequest) :
    List Operation × StatusCode × RpcResponse :=
  match state.tokens.authorizeToken request.token with
  | none => ([], .unauthorized, .err "invalid or missing token")
  | some identity =>
    if identity.name ≠ request.integration then
      ([], .unauthorized, .err "token does not match integration")
    else
      match Operation.parse request.op with
      | none => ([], .forbidden, .err ("unknown operation: " ++ request.op))
      | some op =>
        match state.relay identity op request.params with
        | (calls, .ok result) => (calls, .ok, .success result)
        | (calls, .error .outOfScope) =>
          (calls, .forbidden, .err "integration is not permitted to invoke this operation")
        | (calls, .error (.relay e)) => (calls, .badGateway, .err e.display)

def handleRequest (fromStr : String → Except String RpcRequest) (state : BridgeState)
    (raw : String) : List Operation × RpcResponse :=
  match fromStr raw with
  | .error e => ([], .err ("invalid request: " ++ e))
  | .ok request =>
    match state.tokens.identityForName request.integration with
    | none => ([], .err "unknown integration")
    | some identity =>
      match Operation.parse request.op with
      | none => ([], .err ("unknown operation: " ++ request.op))
      | some op =>
        match state.relay identity op request.params with
        | (calls, .ok result) => (calls, .success result)
        | (calls, .error .outOfScope) =>
          (calls, .err "integration is not permitted to invoke this operation")
        | (calls, .error (.relay e)) => (calls, .err e.display)

section

variable {state : BridgeState} {identity : ScriptIdentity} {request : RpcRequest}
  {fromStr : String → Except String RpcRequest} {raw : String}

theorem identityForName_of_authorizeToken {r : TokenRegistry} {token : String}
    (h : r.authorizeToken token = some identity) :
    r.identityForName identity.name = some identity := by
  unfold TokenRegistry.authorizeToken at h
  split at h
  · cases h
  · obtain ⟨name, -, hidentity⟩ := Option.bind_eq_some_iff.mp h
    obtain ⟨scopes, -, rfl⟩ := Option.map_eq_some_iff.mp hidentity
    exact hidentity

theorem response_eq (hraw : fromStr raw = .ok request)
    (htoken : state.tokens.authorizeToken request.token = some identity)
    (hname : identity.name = request.integration) :
    handleRequest fromStr state raw =
      ((rpcHandler state request).1, (rpcHandler state request).2.2) := by
  have hidentity : state.tokens.identityForName request.integration = some identity :=
    hname ▸ identityForName_of_authorizeToken htoken
  unfold handleRequest rpcHandler
  simp only [hraw, hidentity, htoken, hname, ne_eq, not_true_eq_false, if_false]
  cases Operation.parse request.op with
  | none => rfl
  | some op =>
    dsimp only
    obtain ⟨calls, result⟩ := state.relay identity op request.params
    cases result with
    | ok value => rfl
    | error e => cases e <;> rfl

theorem mem_relay {op op' : Operation} {params : Value}
    (h : op' ∈ (state.relay identity op params).1) :
    op' = op ∧ op.requiredScope ∈ identity.scopes := by
  unfold BridgeState.relay at h
  split at h
  next hscope => exact ⟨List.mem_singleton.mp h, hscope⟩
  next => cases h

theorem scope_of_mem_rpcHandler {op : Operation} (h : op ∈ (rpcHandler state request).1) :
    ∃ identity, state.tokens.authorizeToken request.token = some identity ∧
      identity.name = request.integration ∧ Operation.parse request.op = some op ∧
      op.requiredScope ∈ identity.scopes := by
  revert h
  fun_cases rpcHandler state request with intro h
  | case1 | case2 | case3 => cases h
  | case4 identity hid hname op' hop calls _ hrelay | case5 identity hid hname op' hop calls hrelay
  | case6 identity hid hname op' hop calls _ hrelay =>
    obtain ⟨rfl, hscope⟩ := mem_relay (congrArg Prod.fst hrelay ▸ h)
    exact ⟨identity, hid, not_not.mp hname, hop, hscope⟩

theorem scope_of_mem_handleRequest {op : Operation}
    (h : op ∈ (handleRequest fromStr state raw).1) :
    ∃ request identity, fromStr raw = .ok request ∧
      state.tokens.identityForName request.integration = some identity ∧
      Operation.parse request.op = some op ∧ op.requiredScope ∈ identity.scopes := by
  revert h
  fun_cases handleRequest fromStr state raw with intro h
  | case1 | case2 | case3 => cases h
  | case4 request hraw identity hid op' hop calls _ hrelay
  | case5 request hraw identity hid op' hop calls hrelay
  | case6 request hraw identity hid op' hop calls _ hrelay =>
    obtain ⟨rfl, hscope⟩ := mem_relay (congrArg Prod.fst hrelay ▸ h)
    exact ⟨request, identity, hraw, hid, hop, hscope⟩

end

/-! ## Tokens and transports -/

/-- A token authorises as a name exactly if it is the most recent one. -/
structure TokensRight (ops : List RegistryOp) : Prop where
  authorizes : ∀ token name,
    (∃ identity, (TokenRegistry.after ops).authorizeToken token = some identity ∧
      identity.name = name) ↔ MostRecent ops token name
  single : ∀ token token' identity identity',
    (TokenRegistry.after ops).authorizeToken token = some identity →
    (TokenRegistry.after ops).authorizeToken token' = some identity' →
    identity.name = identity'.name → token = token'

/-- The transports answer alike, and call the hub only within the scope. -/
structure TransportsAgree (fromStr : String → Except String RpcRequest) (state : BridgeState) :
    Prop where
  same : ∀ raw request identity, fromStr raw = .ok request →
    state.tokens.authorizeToken request.token = some identity →
    identity.name = request.integration →
    handleRequest fromStr state raw =
      ((rpcHandler state request).1, (rpcHandler state request).2.2)
  scopedTcp : ∀ request, ∀ op ∈ (rpcHandler state request).1,
    ∃ identity, state.tokens.authorizeToken request.token = some identity ∧
      identity.name = request.integration ∧ Operation.parse request.op = some op ∧
      op.requiredScope ∈ identity.scopes
  scopedUnix : ∀ raw, ∀ op ∈ (handleRequest fromStr state raw).1,
    ∃ request identity, fromStr raw = .ok request ∧
      state.tokens.identityForName request.integration = some identity ∧
      Operation.parse request.op = some op ∧ op.requiredScope ∈ identity.scopes

/-- **Tokens and transports**: the most recent tokens authorise, and the transports agree. -/
theorem tokens_and_transports (ops : List RegistryOp)
    (hfresh : (TokenRegistry.handedOut .new ops).Nodup) :
    TokensRight ops ∧ ∀ fromStr state, TransportsAgree fromStr state := by
  have howned := wellOwned_after ops
  refine ⟨⟨fun token name => ?_, fun token token' identity identity' h h' hname => ?_⟩,
    fun fromStr state => ⟨fun raw request identity => response_eq,
      fun request op => scope_of_mem_rpcHandler, fun raw op => scope_of_mem_handleRequest⟩⟩
  · rw [authorizeToken_name_iff howned, owner_iff_mostRecent hfresh]
  · have ho := (authorizeToken_name_iff howned).mp ⟨identity, h, rfl⟩
    have ho' := (authorizeToken_name_iff howned).mp ⟨identity', h', hname.symm⟩
    exact howned.single token token' identity.name ho ho'

def rotateOverlay : List RegistryOp :=
  [.register "overlay" {.status}, .mint "overlay" [0], .mint "overlay" [1]]

theorem tokensRight_rotateOverlay :
    (TokenRegistry.handedOut .new rotateOverlay = ["wdlbridge_00", "wdlbridge_01"]) ∧
      TokensRight rotateOverlay ∧
      (TokenRegistry.after rotateOverlay).authorizeToken "wdlbridge_00" = none ∧
      (TokenRegistry.after rotateOverlay).authorizeToken "wdlbridge_01" =
        some ⟨"overlay", {.status}⟩ := by
  have hout : TokenRegistry.handedOut .new rotateOverlay = ["wdlbridge_00", "wdlbridge_01"] := by
    decide
  refine ⟨hout, (tokens_and_transports rotateOverlay ?_).1, by decide, by decide⟩
  rw [hout]
  decide

end Penguind.Waddlebot
