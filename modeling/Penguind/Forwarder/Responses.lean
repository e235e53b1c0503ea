import Penguind.Forwarder.Conversion

/-!
# What is sent in response to a query

A response is built from one outcome per question, and each answer becomes a record or is left
out. What the encoder refuses is not sent at all: one text of more than 255 bytes costs the client
the response.
-/

namespace Penguind.Forwarder

open Foundation

section

variable {α β : Type*} {R : α → β → Prop} {as : List α} {bs : List β}

theorem forall₂_modify (h : List.Forall₂ R as bs) {i : Nat} {b b' : β} {f : α → α}
    (hb : bs[i]? = some b) (hf : ∀ a, R a b → R (f a) b') :
    List.Forall₂ R (as.modify i f) (bs.set i b') := by
  induction h generalizing i with
  | nil => cases hb
  | cons hab hrest ih =>
    cases i with
    | zero =>
      obtain rfl := Option.some.inj hb
      exact .cons (hf _ hab) hrest
    | succ i => exact .cons hab (ih hb)

theorem forall₂_eraseIdx (h : List.Forall₂ R as bs) (i : Nat) :
    List.Forall₂ R (as.eraseIdx i) (bs.eraseIdx i) := by
  induction h generalizing i with
  | nil => exact .nil
  | cons hab hrest ih =>
    cases i with
    | zero => exact hrest
    | succ i => exact .cons hab (ih i)

theorem exists_of_forall₂ (h : List.Forall₂ R as bs) {i : Nat} {b : β} (hb : bs[i]? = some b) :
    ∃ a, as[i]? = some a ∧ R a b := by
  induction h generalizing i with
  | nil => cases hb
  | cons hab _ ih =>
    cases i with
    | zero =>
      obtain rfl := Option.some.inj hb
      exact ⟨_, rfl, hab⟩
    | succ i => exact ih hb

end

inductive Outcome
  | unsupported
  | failed
  | answered (status : Int32) (answers : List DnsRecord)

namespace Outcome

def records : Outcome → List DnsRecord
  | .answered status answers => if status = 0 then answers else []
  | _ => []

def code (code : ResponseCode) : Outcome → ResponseCode
  | .unsupported => .notImp
  | .failed => .servFail
  | .answered status _ =>
    if status = 3 then .nxDomain else if status = 0 then code else .servFail

def ofUpstream : Upstream → Outcome
  | .answered doh => .answered doh.status doh.answer
  | _ => .failed

end Outcome

structure Exchange (L : DnsLib) where
  request : Message L
  outcomes : List Outcome

section

variable {L : DnsLib}

def Exchange.add (x : Exchange L) (outcomes : List Outcome) : Exchange L :=
  { x with outcomes := x.outcomes ++ outcomes }

def Exchange.response (x : Exchange L) : Message L :=
  { Forwarding.responseTo x.request with
    responseCode := x.outcomes.foldl Outcome.code .noError
    answers := (x.outcomes.flatMap Outcome.records).filterMap (convertAnswerToRecord L) }

def outcomeFromCache (cache : Cache) (query : Query L) (now : Instant) : Option Outcome :=
  match supportedTypeName query.queryType with
  | none => some .unsupported
  | some recordType =>
    (cache.get (L.toAscii query.name) recordType now).1.map fun cached =>
      .answered cached.status cached.answers

def noteExchange (codec : Codec L) (s : Forwarding L) (e : QueryEvent) (t : Forwarding L)
    (exchanges : List (Exchange L)) : List (Exchange L) :=
  match e with
  | .receive raw => exchanges ++ (codec.fromVec raw).toList.map fun request => ⟨request, []⟩
  | .lookup i now =>
    let query := s.tasks[i]?.bind fun task => task.queries.head?
    exchanges.modify i (·.add (query.bind (outcomeFromCache s.cache · now)).toList)
  | .upstream i outcome _ =>
    if t.tasks.length = s.tasks.length then exchanges.modify i (·.add [.ofUpstream outcome])
    else exchanges.eraseIdx i
  | .respond i => exchanges.eraseIdx i
  | .flush => exchanges

inductive Sourced (past : List CacheOp) : Query L → Outcome → Prop
  | unsupported {query : Query L} (h : supportedTypeName query.queryType = none) :
      Sourced past query .unsupported
  | failed {query : Query L} {recordType : String}
      (h : supportedTypeName query.queryType = some recordType) : Sourced past query .failed
  | answered {query : Query L} {recordType name recordType' : String} {status : Int32}
      {answers : List DnsRecord} {now : Instant}
      (h : supportedTypeName query.queryType = some recordType)
      (hkey : CacheKey.new name recordType' = .new (L.toAscii query.name) recordType)
      (hmem : .insert name recordType' status answers now ∈ past) :
      Sourced past query (.answered status answers)

/-- Id, opcode and questions of the request, with the records fetched for them in order. -/
structure Responds (codec : Codec L) (past : List CacheOp) (x : Exchange L) (m : Message L) :
    Prop where
  id : m.id = x.request.id
  opCode : m.opCode = x.request.opCode
  queries : m.queries = x.request.queries
  sourced : List.Forall₂ (Sourced past) x.request.queries x.outcomes
  answers : Conversions L (fun record => (codec.toVec { m with answers := [record] }).isSome)
    (x.outcomes.flatMap Outcome.records) m.answers

structure Follows (past : List CacheOp) (x : Exchange L) (task : QueryTask L) : Prop where
  response : task.response = x.response
  left : ∃ through, x.request.queries = through ++ task.queries ∧
    List.Forall₂ (Sourced past) through x.outcomes
  asking : ∀ nameAscii recordType, task.asking = some (nameAscii, recordType) →
    ∃ query queries, task.queries = query :: queries ∧ L.toAscii query.name = nameAscii ∧
      supportedTypeName query.queryType = some recordType

/-! ## The steps of a task -/

variable {past past' : List CacheOp} {x : Exchange L} {task : QueryTask L} {query : Query L}
  {queries : List (Query L)} {outcome : Outcome}

def Outcome.apply (outcome : Outcome) (response : Message L) : Message L :=
  match outcome with
  | .unsupported => response.setCode .notImp
  | .failed => response.setCode .servFail
  | .answered status answers => applyDohAnswer status answers response

theorem Exchange.response_add (x : Exchange L) (outcome : Outcome) :
    (x.add [outcome]).response = outcome.apply x.response := by
  unfold Exchange.response Exchange.add
  simp only [List.foldl_append, List.foldl_cons, List.foldl_nil, List.flatMap_append,
    List.flatMap_cons, List.flatMap_nil, List.append_nil, List.filterMap_append]
  cases outcome with
  | unsupported => simp [Outcome.apply, Message.setCode, Outcome.code, Outcome.records]
  | failed => simp [Outcome.apply, Message.setCode, Outcome.code, Outcome.records]
  | answered status answers =>
    simp only [Outcome.apply, applyDohAnswer, Outcome.code, Outcome.records]
    by_cases hnx : status = 3
    · simp [hnx, Message.setCode]
    by_cases hok : status = 0
    · simp [hok, Message.addAnswers]
    · simp [hnx, hok, Message.setCode]

theorem Sourced.mono (hsub : past ⊆ past') (h : Sourced past query outcome) :
    Sourced past' query outcome := by
  cases h with
  | unsupported h => exact .unsupported h
  | failed h => exact .failed h
  | answered h hkey hmem => exact .answered h hkey (hsub hmem)

theorem Follows.mono (hsub : past ⊆ past') (h : Follows past x task) : Follows past' x task := by
  obtain ⟨through, hqueries, hsourced⟩ := h.left
  exact ⟨h.response, ⟨through, hqueries, hsourced.imp fun _ _ => Sourced.mono hsub⟩, h.asking⟩

theorem follows_receive (past : List CacheOp) (request : Message L) :
    Follows past ⟨request, []⟩ ⟨Forwarding.responseTo request, request.queries, none⟩ :=
  ⟨rfl, ⟨[], rfl, .nil⟩, nofun⟩

theorem Follows.resolve (h : Follows past x task) (hqueries : task.queries = query :: queries)
    (hsourced : Sourced past query outcome) :
    Follows past (x.add [outcome]) ⟨outcome.apply task.response, queries, none⟩ := by
  obtain ⟨through, hrequest, hthrough⟩ := h.left
  refine ⟨?_, ⟨through ++ [query], ?_, List.rel_append hthrough (.cons hsourced .nil)⟩,
    nofun⟩
  · rw [Exchange.response_add, ← h.response]
  · simpa [Exchange.add, hqueries] using hrequest

theorem Follows.ask (h : Follows past x task) (hqueries : task.queries = query :: queries)
    {recordType : String} (htype : supportedTypeName query.queryType = some recordType) :
    Follows past x { task with asking := some (L.toAscii query.name, recordType) } := by
  refine ⟨h.response, h.left, fun nameAscii recordType' hasking => ?_⟩
  obtain ⟨rfl, rfl⟩ := Prod.mk.inj (Option.some.inj hasking)
  exact ⟨query, queries, hqueries, rfl, htype⟩

end

section

variable {L : DnsLib} {cache : Cache} {query : Query L} {now : Instant}

theorem sourced_of_cached {latest : Instant} {enabled : Bool} {past : List CacheOp}
    (hs : FromLatest latest enabled cache past) {outcome : Outcome}
    (h : outcomeFromCache cache query now = some outcome) : Sourced past query outcome := by
  unfold outcomeFromCache at h
  cases htype : supportedTypeName query.queryType with
  | none =>
    rw [htype] at h
    obtain rfl := Option.some.inj h
    exact .unsupported htype
  | some recordType =>
    rw [htype] at h
    obtain ⟨cached, hcached, rfl⟩ := Option.map_eq_some_iff.mp h
    obtain ⟨entry, hentry, -, rfl⟩ := get_eq_some hcached
    obtain ⟨newer, op, older, rfl, -, hop, -⟩ := hs.2 _ entry hentry
    cases op with
    | insert name recordType' status answers since =>
      obtain ⟨hkey, rfl⟩ := Prod.mk.inj (Option.some.inj hop)
      exact .answered htype hkey (List.mem_append_right _ List.mem_cons_self)
    | get => cases hop
    | flush => cases hop

end

/-- An answer expires at an instant the clock can represent. -/
def InTime (latest : Instant) (cache : Cache) (now : Instant) : Upstream → Prop
  | .answered doh =>
    cache.enabled = true → doh.status = 0 → doh.answer ≠ [] → now + lifetime doh.answer ≤ latest
  | _ => True

instance (latest : Instant) (cache : Cache) (now : Instant) (outcome : Upstream) :
    Decidable (InTime latest cache now outcome) :=
  match outcome with
  | .answered _ => inferInstanceAs (Decidable (_ → _))
  | .timedOut => .isTrue trivial
  | .failed => .isTrue trivial

theorem insert_eq_error {latest : Instant} {cache : Cache} {now : Instant} {doh : DnsResponse}
    (name recordType : String) (h : ¬ InTime latest cache now (.answered doh)) :
    cache.insert latest name recordType doh.status doh.answer now = .error .instantOverflow := by
  simp only [InTime, Classical.not_imp] at h
  obtain ⟨hon, hstatus, hne, hlate⟩ := h
  rw [Cache.insert_eq, if_pos ⟨hon, hstatus, hne⟩, Instant.add, if_neg hlate]
  rfl

theorem exists_insert_eq_ok {latest : Instant} {cache : Cache} {now : Instant} {doh : DnsResponse}
    (name recordType : String) (h : InTime latest cache now (.answered doh)) :
    ∃ cache', cache.insert latest name recordType doh.status doh.answer now = .ok cache' := by
  rw [Cache.insert_eq]
  split_ifs with hon
  · rw [Instant.add, if_pos (h hon.1 hon.2.1 hon.2.2)]
    exact ⟨_, rfl⟩
  · exact ⟨_, rfl⟩

namespace Forwarding

section

variable {L : DnsLib} {latest : Instant} {s : Forwarding L} {i : Nat} {task : QueryTask L}
  {query : Query L} {queries : List (Query L)} {now : Instant} {outcome : Upstream}

theorem tasks_lookup_cases (s : Forwarding L) (i : Nat) (task : QueryTask L) (query : Query L)
    (queries : List (Query L)) (now : Instant) :
    (∃ outcome, outcomeFromCache s.cache query now = some outcome ∧
      (s.lookup i task query queries now).tasks =
        s.tasks.set i ⟨outcome.apply task.response, queries, none⟩) ∨
    (outcomeFromCache s.cache query now = none ∧
      ∃ recordType, supportedTypeName query.queryType = some recordType ∧
        (s.lookup i task query queries now).tasks =
          s.tasks.set i { task with asking := some (L.toAscii query.name, recordType) }) := by
  unfold lookup resolveFromCache outcomeFromCache
  cases supportedTypeName query.queryType with
  | none => exact .inl ⟨.unsupported, rfl, rfl⟩
  | some recordType =>
    rcases hget : s.cache.get (L.toAscii query.name) recordType now with ⟨_ | cached, cache⟩
    · exact .inr ⟨by simp [hget], recordType, rfl, by simp [hget]⟩
    · exact .inl ⟨.answered cached.status cached.answers, by simp [hget],
        by simp [hget, Outcome.apply]⟩

variable (nameAscii recordType : String)

theorem tasks_upstream_of_inTime (h : InTime latest s.cache now outcome) :
    (s.upstream latest i task nameAscii recordType outcome now).tasks =
      s.tasks.set i
        ⟨(Outcome.ofUpstream outcome).apply task.response, task.queries.tail, none⟩ := by
  cases outcome with
  | timedOut => rfl
  | failed => rfl
  | answered doh =>
    obtain ⟨cache, hinsert⟩ := exists_insert_eq_ok nameAscii recordType h
    simp only [upstream, resolveFromUpstream, hinsert]
    rfl

theorem tasks_upstream_of_not (h : ¬ InTime latest s.cache now outcome) :
    (s.upstream latest i task nameAscii recordType outcome now).tasks = s.tasks.eraseIdx i := by
  cases outcome with
  | timedOut => exact absurd trivial h
  | failed => exact absurd trivial h
  | answered doh =>
    simp only [upstream, resolveFromUpstream, insert_eq_error nameAscii recordType h]
    rfl

theorem storeOp_subset_upstream :
    storeOp nameAscii recordType outcome now ⊆
      (s.upstream latest i task nameAscii recordType outcome now).past := by
  have hpast : (s.upstream latest i task nameAscii recordType outcome now).past =
      storeOp nameAscii recordType outcome now ++ s.past := by
    unfold upstream
    split <;> rfl
  rw [hpast]
  exact List.subset_append_left _ _

theorem length_tasks_upstream_iff (hi : s.tasks[i]? = some task) :
    (s.upstream latest i task nameAscii recordType outcome now).tasks.length = s.tasks.length ↔
      InTime latest s.cache now outcome := by
  by_cases h : InTime latest s.cache now outcome
  · refine iff_of_true ?_ h
    rw [tasks_upstream_of_inTime nameAscii recordType h, List.length_set]
  · refine iff_of_false ?_ h
    obtain ⟨hlt, -⟩ := List.getElem?_eq_some_iff.mp hi
    rw [tasks_upstream_of_not nameAscii recordType h, List.length_eraseIdx_of_lt hlt]
    omega

end

/-! ## Exchanges along a run -/

/-- The cache holds what was fetched, and tasks are in their exchanges. -/
def Tracked {L : DnsLib} (latest : Instant) (enabled : Bool) (s : Forwarding L)
    (exchanges : List (Exchange L)) : Prop :=
  FromLatest latest enabled s.cache s.past ∧ List.Forall₂ (Follows s.past) exchanges s.tasks

section

variable {L : DnsLib} {codec : Codec L} {latest : Instant} {enabled : Bool} {s t : Forwarding L}
  {exchanges : List (Exchange L)} {i : Nat} {past : List CacheOp} {query : Query L}
  {queries : List (Query L)} {outcome : Upstream} {now : Instant}

theorem past_subset_step {e : QueryEvent} (h : step codec latest s e = some t) :
    s.past ⊆ t.past := by
  obtain ⟨ops, -, hpast⟩ := exists_ops_of_step h
  rw [hpast]
  exact List.subset_append_right ops s.past

theorem follows_receive_step {raw : Bytes} (t : Forwarding L)
    (hf : List.Forall₂ (Follows past) exchanges s.tasks) :
    List.Forall₂ (Follows past) (noteExchange codec s (.receive raw) t exchanges)
      (s.receive codec raw).tasks := by
  unfold noteExchange receive
  cases hraw : codec.fromVec raw with
  | none => simpa [hraw] using hf
  | some request =>
    simpa [hraw] using List.rel_append hf (.cons (follows_receive past request) .nil)

theorem follows_lookup_step (t : Forwarding L) {response : Message L}
    (hcache : ∀ outcome, outcomeFromCache s.cache query now = some outcome →
      Sourced past query outcome)
    (hf : List.Forall₂ (Follows past) exchanges s.tasks)
    (hi : s.tasks[i]? = some ⟨response, query :: queries, none⟩) :
    List.Forall₂ (Follows past) (noteExchange codec s (.lookup i now) t exchanges)
      (s.lookup i ⟨response, query :: queries, none⟩ query queries now).tasks := by
  have hnote : noteExchange codec s (.lookup i now) t exchanges =
      exchanges.modify i (·.add (outcomeFromCache s.cache query now).toList) := by
    simp only [noteExchange, hi, Option.bind_some, List.head?_cons]
  rw [hnote]
  obtain ⟨outcome, ho, htasks⟩ | ⟨ho, recordType, htype, htasks⟩ :=
    tasks_lookup_cases s i ⟨response, query :: queries, none⟩ query queries now
  · rw [ho, htasks]
    exact forall₂_modify hf hi fun x hx => hx.resolve rfl (hcache outcome ho)
  · rw [ho, htasks]
    refine forall₂_modify hf hi fun x hx => ?_
    rw [Option.toList_none, Exchange.add, List.append_nil]
    exact hx.ask rfl htype

theorem sourced_ofUpstream {recordType : String}
    (htype : supportedTypeName query.queryType = some recordType)
    (hpast : storeOp (L.toAscii query.name) recordType outcome now ⊆ past) :
    Sourced past query (.ofUpstream outcome) := by
  cases outcome with
  | timedOut => exact .failed htype
  | failed => exact .failed htype
  | answered doh => exact .answered htype rfl (hpast List.mem_cons_self)

theorem follows_upstream_step {task : QueryTask L} {nameAscii recordType : String}
    (hpast : storeOp nameAscii recordType outcome now ⊆ past)
    (hf : List.Forall₂ (Follows past) exchanges s.tasks) (hi : s.tasks[i]? = some task)
    (hasking : task.asking = some (nameAscii, recordType)) :
    List.Forall₂ (Follows past)
      (noteExchange codec s (.upstream i outcome now)
        (s.upstream latest i task nameAscii recordType outcome now) exchanges)
      (s.upstream latest i task nameAscii recordType outcome now).tasks := by
  unfold noteExchange
  simp only [length_tasks_upstream_iff nameAscii recordType hi]
  split_ifs with htime
  · rw [tasks_upstream_of_inTime nameAscii recordType htime]
    refine forall₂_modify hf hi fun x hx => ?_
    obtain ⟨query, queries, hqueries, rfl, htype⟩ := hx.asking nameAscii recordType hasking
    rw [hqueries]
    exact hx.resolve hqueries (sourced_ofUpstream htype hpast)
  · rw [tasks_upstream_of_not nameAscii recordType htime]
    exact forall₂_eraseIdx hf i

theorem tracked_step {e : QueryEvent} (hs : s.Tracked latest enabled exchanges)
    (ht : step codec latest s e = some t) :
    t.Tracked latest enabled (noteExchange codec s e t exchanges) := by
  refine ⟨fromLatest_step hs.1 ht, ?_⟩
  have hf : List.Forall₂ (Follows t.past) exchanges s.tasks :=
    hs.2.imp fun _ _ => Follows.mono (past_subset_step ht)
  have hsub := past_subset_step ht
  revert ht hsub hf
  fun_cases step codec latest s e with rintro ⟨⟩ hf hsub
  | case1 raw => exact follows_receive_step (s.receive codec raw) hf
  | case2 i now response query queries hi =>
    exact follows_lookup_step _ (fun _ ho => (sourced_of_cached hs.1 ho).mono hsub) hf hi
  | case4 i outcome now response queries nameAscii recordType hi =>
    exact follows_upstream_step (storeOp_subset_upstream ..) hf hi rfl
  | case6 i => exact forall₂_eraseIdx hf i
  | case8 => exact hf

end

end Forwarding

section

variable {L : DnsLib}

theorem Follows.responds {past : List CacheOp} {x : Exchange L} {response : Message L}
    (codec : Codec L) (h : Follows past x ⟨response, [], none⟩) :
    Responds codec past x response := by
  obtain ⟨through, hqueries, hsourced⟩ := h.left
  obtain rfl : response = x.response := h.response
  rw [List.append_nil] at hqueries
  exact ⟨rfl, rfl, rfl, hqueries ▸ hsourced, conversions_filterMap ..⟩

/-- An upstream answer loses no task, and a task that is through responds. -/
def Produces (codec : Codec L) (latest : Instant) (s : Forwarding L × List (Exchange L))
    (e : QueryEvent) : Prop :=
  ∀ t ∈ s.1.step codec latest e,
    (∀ i outcome now, e = .upstream i outcome now → t.tasks.length = s.1.tasks.length) ∧
    ∀ i, e = .respond i → ∃ x ∈ s.2[i]?, ∃ m bytes, Responds codec s.1.past x m ∧
      codec.toVec m = some bytes ∧ t.sent = s.1.sent ++ [bytes]

def Encodes (codec : Codec L) (latest : Instant) (s : Forwarding L × List (Exchange L)) :
    QueryEvent → Prop
  | .upstream _ outcome now => InTime latest s.1.cache now outcome
  | .respond i => ∀ task ∈ s.1.tasks[i]?, (codec.toVec task.response).isSome
  | _ => True

instance (codec : Codec L) (latest : Instant) (s : Forwarding L × List (Exchange L))
    (e : QueryEvent) : Decidable (Encodes codec latest s e) :=
  match e with
  | .upstream _ outcome now => inferInstanceAs (Decidable (InTime latest s.1.cache now outcome))
  | .respond _ => inferInstanceAs (Decidable (∀ task ∈ s.1.tasks[_]?, _))
  | .receive _ => .isTrue trivial
  | .lookup _ _ => .isTrue trivial
  | .flush => .isTrue trivial

variable {codec : Codec L} {latest : Instant} {enabled : Bool} {s t : Forwarding L}
  {exchanges : List (Exchange L)} {i : Nat}

theorem produces_respond_iff
    (hs : s.Tracked latest enabled exchanges) (h : s.step codec latest (.respond i) = some t) :
    (∃ x ∈ exchanges[i]?, ∃ m bytes, Responds codec s.past x m ∧ codec.toVec m = some bytes ∧
        t.sent = s.sent ++ [bytes]) ↔
      ∀ task ∈ s.tasks[i]?, (codec.toVec task.response).isSome := by
  rw [Forwarding.step] at h
  split at h <;> cases h
  next response hi =>
    rw [hi]
    simp only [Option.mem_some_iff, forall_eq', Forwarding.respond, List.append_cancel_left_eq]
    obtain ⟨x, hx, hfollows⟩ := exists_of_forall₂ hs.2 hi
    constructor
    · rintro ⟨-, -, -, bytes, -, -, hsent⟩
      rw [Option.toList_eq_singleton_iff.mp hsent]
      rfl
    · intro hsome
      obtain ⟨bytes, hbytes⟩ := Option.isSome_iff_exists.mp hsome
      exact ⟨x, hx, response, bytes, hfollows.responds codec, hbytes, by rw [hbytes]; rfl⟩

theorem produces_iff_encodes {e : QueryEvent}
    (hs : s.Tracked latest enabled exchanges) (h : s.step codec latest e = some t) :
    Produces codec latest (s, exchanges) e ↔ Encodes codec latest (s, exchanges) e := by
  simp only [Produces, h, Option.mem_some_iff, forall_eq']
  cases e with
  | upstream i outcome now =>
    have hlength : t.tasks.length = s.tasks.length ↔ InTime latest s.cache now outcome := by
      revert h
      rw [Forwarding.step]
      split <;> rintro ⟨⟩
      next hi => exact Forwarding.length_tasks_upstream_iff _ _ hi
    refine Iff.trans ⟨fun hp => hp.1 i outcome now rfl, fun hp => ⟨fun _ _ _ _ => hp, ?_⟩⟩ hlength
    rintro _ ⟨⟩
  | respond i =>
    refine Iff.trans ⟨fun hp => hp.2 i rfl, fun hp => ⟨?_, ?_⟩⟩ (produces_respond_iff hs h)
    · rintro _ _ _ ⟨⟩
    · rintro _ ⟨⟩
      exact hp
  | receive | lookup | flush => simp [Encodes]

theorem tracked_start (config : CacheConfig) :
    (Forwarding.start (L := L) config).Tracked latest config.enabled [] := by
  refine ⟨⟨rfl, fun key entry h => ?_⟩, .nil⟩
  cases h

theorem along_produces_iff {config : CacheConfig} {events : List QueryEvent}
    {t : Forwarding L × List (Exchange L)}
    (hr : run (ghost (Forwarding.step codec latest) (noteExchange codec)) (.start config, [])
      events = some t) :
    Along (ghost (Forwarding.step codec latest) (noteExchange codec)) (Produces codec latest)
        (.start config, []) events ↔
      Along (ghost (Forwarding.step codec latest) (noteExchange codec)) (Encodes codec latest)
        (.start config, []) events := by
  refine along_congr (I := fun s => s.1.Tracked latest config.enabled s.2) ?_ ?_
    (tracked_start config) hr
  · intro s e u hs h
    obtain ⟨t, ht, -⟩ := ghost_eq_some.mp h
    exact produces_iff_encodes hs ht
  · intro s e u hs _ h
    obtain ⟨t, ht, rfl⟩ := ghost_eq_some.mp h
    exact Forwarding.tracked_step hs ht

/-! ## Every task can respond -/

/-- The task can be brought to its response. -/
def CanRespond (codec : Codec L) (latest : Instant) (i : Nat)
    (s : Forwarding L × List (Exchange L)) : Prop :=
  ∃ more u, run (ghost (Forwarding.step codec latest) (noteExchange codec)) s more = some u ∧
    u.2[i]?.map Exchange.request = s.2[i]?.map Exchange.request ∧
    (u.1.step codec latest (.respond i)).isSome

theorem request_modify (exchanges : List (Exchange L)) (i j : Nat) (outcomes : List Outcome) :
    (exchanges.modify j (·.add outcomes))[i]?.map Exchange.request =
      exchanges[i]?.map Exchange.request := by
  rw [List.getElem?_modify]
  cases exchanges[i]? with
  | none => rfl
  | some x => by_cases hij : j = i <;> simp [hij, Exchange.add]

theorem CanRespond.of_step {e : QueryEvent} (h : s.step codec latest e = some t)
    (hrequest : (noteExchange codec s e t exchanges)[i]?.map Exchange.request =
      exchanges[i]?.map Exchange.request)
    (hcan : CanRespond codec latest i (t, noteExchange codec s e t exchanges)) :
    CanRespond codec latest i (s, exchanges) := by
  obtain ⟨more, u, hrun, hkept, hrespond⟩ := hcan
  refine ⟨e :: more, u, run_cons_eq_some.mpr ⟨_, ghost_eq_some.mpr ⟨t, h, rfl⟩, hrun⟩, ?_, hrespond⟩
  exact hkept.trans hrequest

theorem canRespond_of_asking {response : Message L} {queries : List (Query L)}
    {nameAscii recordType : String}
    (hi : s.tasks[i]? = some ⟨response, queries, some (nameAscii, recordType)⟩)
    (hrest : ∀ (t : Forwarding L) exchanges response,
      t.tasks[i]? = some ⟨response, queries.tail, none⟩ →
        CanRespond codec latest i (t, exchanges)) :
    CanRespond codec latest i (s, exchanges) := by
  obtain ⟨hlt, -⟩ := List.getElem?_eq_some_iff.mp hi
  have hstep : s.step codec latest (.upstream i .timedOut 0) =
      some (s.upstream latest i ⟨response, queries, some (nameAscii, recordType)⟩ nameAscii
        recordType .timedOut 0) := by
    simp only [Forwarding.step, hi]
  have htime : InTime latest s.cache 0 .timedOut := trivial
  refine .of_step hstep ?_ (hrest _ _ (response.setCode .servFail) ?_)
  · simp only [noteExchange, (Forwarding.length_tasks_upstream_iff _ _ hi).mpr htime, if_true]
    exact request_modify ..
  · rw [Forwarding.tasks_upstream_of_inTime _ _ htime]
    exact List.getElem?_set_self hlt

theorem canRespond_of_left {response : Message L} {queries : List (Query L)}
    (hi : s.tasks[i]? = some ⟨response, queries, none⟩) :
    CanRespond codec latest i (s, exchanges) := by
  -- on the questions that are left: each is resolved at once, or by a lookup that times out
  induction queries generalizing s exchanges response with
  | nil =>
    refine ⟨[], _, rfl, rfl, ?_⟩
    simp only [Forwarding.step, hi, Option.isSome_some]
  | cons query queries ih =>
    obtain ⟨hlt, -⟩ := List.getElem?_eq_some_iff.mp hi
    have hstep : s.step codec latest (.lookup i 0) =
        some (s.lookup i ⟨response, query :: queries, none⟩ query queries 0) := by
      simp only [Forwarding.step, hi]
    refine .of_step hstep (request_modify ..) ?_
    obtain ⟨outcome, -, htasks⟩ | ⟨-, recordType, -, htasks⟩ :=
      Forwarding.tasks_lookup_cases s i ⟨response, query :: queries, none⟩ query queries 0
    · exact ih (by rw [htasks]; exact List.getElem?_set_self hlt)
    · have ht := List.getElem?_set_self (a := ⟨response, query :: queries,
        some (L.toAscii query.name, recordType)⟩) hlt
      rw [← htasks] at ht
      exact canRespond_of_asking ht fun _ _ _ ht => ih ht

theorem canRespond (hi : i < s.tasks.length) : CanRespond codec latest i (s, exchanges) := by
  have htask := List.getElem?_eq_getElem hi
  cases hq : s.tasks[i] with
  | mk response queries asking =>
    rw [hq] at htask
    cases asking with
    | none => exact canRespond_of_left htask
    | some asked => exact canRespond_of_asking htask fun _ _ _ ht => canRespond_of_left ht

end

def Record.hasLongText {L : DnsLib} (record : Record L) : Bool :=
  match record.data with
  | .txt texts => texts.any fun text => 255 < text.utf8ByteSize
  | _ => false

/-- **A long text costs the whole response.** -/
theorem long_text_suppresses {L : DnsLib} {codec : Codec L} {latest : Instant} {enabled : Bool}
    (hlong : ∀ m : Message L, m.answers.any Record.hasLongText = true → codec.toVec m = none)
    {s t : Forwarding L} {exchanges : List (Exchange L)} (hs : s.Tracked latest enabled exchanges)
    {i : Nat} (h : s.step codec latest (.respond i) = some t) {x : Exchange L}
    (hx : exchanges[i]? = some x) {answers : List DnsRecord}
    (hanswers : .answered 0 answers ∈ x.outcomes) {answer : DnsRecord} (hmem : answer ∈ answers)
    {owner : L.Name} (howner : L.fromAscii answer.name = some owner)
    (htype : answer.kind.asTypeStr.map Char.toUpper = "TXT")
    (hdata : 255 < answer.data.utf8ByteSize) : t.sent = s.sent := by
  have hconvert : convertAnswerToRecord L answer =
      some ⟨owner, clampTtl answer.ttl, .txt [answer.data]⟩ := by
    rw [convertAnswerToRecord, howner, htype]
    rfl
  have hrecord : ⟨owner, clampTtl answer.ttl, .txt [answer.data]⟩ ∈ x.response.answers := by
    refine List.mem_filterMap.mpr ⟨answer, List.mem_flatMap.mpr ⟨_, hanswers, ?_⟩, hconvert⟩
    simpa [Outcome.records] using hmem
  rw [Forwarding.step] at h
  split at h <;> cases h
  next response hi =>
    obtain ⟨y, hy, hfollows⟩ := exists_of_forall₂ hs.2 hi
    obtain rfl := Option.some.inj (hx.symm.trans hy)
    obtain rfl : response = x.response := hfollows.response
    have hnone : codec.toVec x.response = none := by
      refine hlong _ (List.any_eq_true.mpr ⟨_, hrecord, ?_⟩)
      simpa [Record.hasLongText] using hdata
    simp only [Forwarding.respond, hnone, Option.toList_none, List.append_nil]

def shortTexts : Codec texts where
  fromVec _ := some ⟨7, 0, true, false, .noError, [⟨"example.com.", .txt⟩], []⟩
  toVec m :=
    if m.answers.any Record.hasLongText then none else some [UInt8.ofNat m.answers.length]

def askedForTexts (first second : String) : List QueryEvent :=
  [.receive [], .lookup 0 0,
    .upstream 0 (.answered ⟨0, [⟨"example.com.", .int 16, 60, first⟩,
      ⟨"example.com.", .int 16, 60, second⟩]⟩) 0, .respond 0]

def noted : Forwarding texts × List (Exchange texts) → QueryEvent →
    Option (Forwarding texts × List (Exchange texts)) :=
  ghost (Forwarding.step shortTexts (fromSecs 1000)) (noteExchange shortTexts)

def longText : String := .ofList (List.replicate 256 'a')

end Penguind.Forwarder
