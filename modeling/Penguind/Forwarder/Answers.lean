import Penguind.Forwarder.Cache

/-!
# Answering queries

A query task decodes a message, resolves its questions from the cache or the upstream, and sends
the response. The tasks run concurrently over one cache, whose operations are kept for the
statements.
-/

namespace Penguind.Forwarder

open Foundation

abbrev Bytes := List UInt8

structure DnsLib where
  Name : Type
  Ipv4Addr : Type
  Ipv6Addr : Type
  fromAscii : String → Option Name
  toAscii : Name → String
  parseIpv4 : String → Option Ipv4Addr
  parseIpv6 : String → Option Ipv6Addr
  isWhitespace : Char → Bool

inductive RData (L : DnsLib)
  | a (ip : L.Ipv4Addr)
  | aaaa (ip : L.Ipv6Addr)
  | cname (target : L.Name)
  | ns (target : L.Name)
  | mx (preference : UInt16) (exchange : L.Name)
  | txt (texts : List String)

structure Record (L : DnsLib) where
  owner : L.Name
  ttl : UInt32
  data : RData L

inductive RecordType
  | a
  | aaaa
  | cname
  | mx
  | txt
  | ns
  | other (code : UInt16)
  deriving DecidableEq

inductive ResponseCode
  | noError
  | servFail
  | nxDomain
  | notImp
  deriving DecidableEq

structure Query (L : DnsLib) where
  name : L.Name
  queryType : RecordType

structure Message (L : DnsLib) where
  id : UInt16
  opCode : UInt8
  recursionDesired : Bool
  recursionAvailable : Bool
  responseCode : ResponseCode
  queries : List (Query L)
  answers : List (Record L)

structure Codec (L : DnsLib) where
  fromVec : Bytes → Option (Message L)
  toVec : Message L → Option Bytes

/-! ## The conversion of answers -/

def typeIntToStr (typeInt : Int64) : String :=
  match typeInt.toInt with
  | 1 => "A"
  | 2 => "NS"
  | 5 => "CNAME"
  | 6 => "SOA"
  | 12 => "PTR"
  | 15 => "MX"
  | 16 => "TXT"
  | 28 => "AAAA"
  | 33 => "SRV"
  | n => "TYPE" ++ toString n

def RecordKind.asTypeStr : RecordKind → String
  | .text value => value
  | .int value => typeIntToStr value

def clampTtl (ttl : Int64) : UInt32 :=
  if ttl.toInt < 0 then 0
  else if 4294967295 < ttl.toInt then 4294967295
  else UInt32.ofNat ttl.toInt.toNat

def parseU16 (s : List Char) : Option UInt16 :=
  let digits := if s.head? = some '+' then s.tail else s
  let value := digits.foldl (fun n c => 10 * n + (c.toNat - '0'.toNat)) 0
  if digits ≠ [] ∧ digits.all Char.isDigit ∧ value < 65536 then some (UInt16.ofNat value) else none

section

variable (L : DnsLib)

def trim (s : List Char) : List Char :=
  ((s.dropWhile L.isWhitespace).reverse.dropWhile L.isWhitespace).reverse

def splitOnce (s : List Char) : Option (List Char × List Char) :=
  match s.dropWhile fun c => !L.isWhitespace c with
  | [] => none
  | _ :: rest => some (s.takeWhile fun c => !L.isWhitespace c, rest)

def parseMxData (data : String) : Option (UInt16 × L.Name) :=
  let trimmed := trim L data.toList
  match splitOnce L trimmed with
  | none => (L.fromAscii (.ofList trimmed)).map fun exchange => (0, exchange)
  | some (preference, exchange) =>
    (L.fromAscii (.ofList (trim L exchange))).map fun exchange =>
      ((parseU16 preference).getD 0, exchange)

def convertData (typeStr data : String) : Option (RData L) :=
  if typeStr = "A" then (L.parseIpv4 data).map .a
  else if typeStr = "AAAA" then (L.parseIpv6 data).map .aaaa
  else if typeStr = "CNAME" then (L.fromAscii data).map .cname
  else if typeStr = "NS" then (L.fromAscii data).map .ns
  else if typeStr = "MX" then (parseMxData L data).map fun mx => .mx mx.1 mx.2
  else if typeStr = "TXT" then some (.txt [data])
  else none

def convertAnswerToRecord (answer : DnsRecord) : Option (Record L) := do
  let owner ← L.fromAscii answer.name
  let data ← convertData L (answer.kind.asTypeStr.map Char.toUpper) answer.data
  some ⟨owner, clampTtl answer.ttl, data⟩

variable {L}

def Message.addAnswers (response : Message L) (records : List (Record L)) : Message L :=
  { response with answers := response.answers ++ records }

def Message.setCode (response : Message L) (code : ResponseCode) : Message L :=
  { response with responseCode := code }

def applyDohAnswer (status : Int32) (answers : List DnsRecord) (response : Message L) :
    Message L :=
  if status = 3 then response.setCode .nxDomain
  else if status ≠ 0 then response.setCode .servFail
  else response.addAnswers (answers.filterMap (convertAnswerToRecord L))

/-! ## One question -/

def supportedTypeName : RecordType → Option String
  | .a => some "A"
  | .aaaa => some "AAAA"
  | .cname => some "CNAME"
  | .mx => some "MX"
  | .txt => some "TXT"
  | .ns => some "NS"
  | .other _ => none

structure DnsResponse where
  status : Int32
  answer : List DnsRecord

inductive Upstream
  | timedOut
  | failed
  | answered (response : DnsResponse)

inductive Resolving (L : DnsLib)
  | resolved (response : Message L)
  | asking (nameAscii recordType : String)

def resolveFromCache (cache : Cache) (query : Query L) (response : Message L) (now : Instant) :
    Resolving L × Cache :=
  match supportedTypeName query.queryType with
  | none => (.resolved (response.setCode .notImp), cache)
  | some recordType =>
    match cache.get (L.toAscii query.name) recordType now with
    | (some cached, cache) =>
      (.resolved (applyDohAnswer cached.status cached.answers response), cache)
    | (none, cache) => (.asking (L.toAscii query.name) recordType, cache)

def resolveFromUpstream (latest : Instant) (cache : Cache) (nameAscii recordType : String)
    (outcome : Upstream) (response : Message L) (now : Instant) :
    Except Panic (Message L × Cache) :=
  match outcome with
  | .timedOut => .ok (response.setCode .servFail, cache)
  | .failed => .ok (response.setCode .servFail, cache)
  | .answered doh => do
    let cache ← cache.insert latest nameAscii recordType doh.status doh.answer now
    .ok (applyDohAnswer doh.status doh.answer response, cache)

end

theorem toNat_clampTtl (ttl : Int64) :
    ((clampTtl ttl).toNat : Int) = max 0 (min ttl.toInt 4294967295) := by
  unfold clampTtl
  by_cases hneg : ttl.toInt < 0
  · rw [if_pos hneg]
    change (0 : Int) = _
    omega
  by_cases hlarge : 4294967295 < ttl.toInt
  · rw [if_neg hneg, if_pos hlarge]
    change (4294967295 : Int) = _
    omega
  · have hlt : ttl.toInt.toNat < UInt32.size := by
      change ttl.toInt.toNat < 4294967296
      omega
    rw [if_neg hneg, if_neg hlarge, UInt32.toNat_ofNat_of_lt' hlt]
    omega

theorem ttl_convertAnswerToRecord {L : DnsLib} {answer : DnsRecord} {record : Record L}
    (h : convertAnswerToRecord L answer = some record) : record.ttl = clampTtl answer.ttl := by
  obtain ⟨_, -, h⟩ := Option.bind_eq_some_iff.mp h
  obtain ⟨_, -, h⟩ := Option.bind_eq_some_iff.mp h
  rw [← Option.some.inj h]

theorem positiveTtl_lt (answer : DnsRecord) : positiveTtl answer < 2 ^ 64 := by
  have := Int64.toInt_lt answer.ttl
  unfold positiveTtl
  omega

/-- **An upstream answer** is handled without a panic exactly if its expiry can be represented. -/
theorem resolveFromUpstream_ok_iff {L : DnsLib} (latest : Instant) (cache : Cache)
    (nameAscii recordType : String) (doh : DnsResponse) (response : Message L) (now : Instant) :
    ((∃ r, resolveFromUpstream latest cache nameAscii recordType (.answered doh) response now =
        .ok r) ↔
      (cache.enabled = true → doh.status = 0 → doh.answer ≠ [] →
        now + lifetime doh.answer ≤ latest)) ∧
      ∀ answer ∈ doh.answer, positiveTtl answer < 2 ^ 64 ∧
        ((clampTtl answer.ttl).toNat : Int) = max 0 (min answer.ttl.toInt 4294967295) := by
  refine ⟨?_, fun answer _ => ⟨positiveTtl_lt answer, toNat_clampTtl answer.ttl⟩⟩
  simp only [resolveFromUpstream, Cache.insert_eq, Instant.add]
  by_cases hon : cache.enabled = true ∧ doh.status = 0 ∧ doh.answer ≠ []
  · rw [if_pos hon]
    by_cases hle : now + lifetime doh.answer ≤ latest
    · rw [if_pos hle]
      exact iff_of_true ⟨_, rfl⟩ fun _ _ _ => hle
    · rw [if_neg hle]
      refine iff_of_false ?_ fun h => hle (h hon.1 hon.2.1 hon.2.2)
      rintro ⟨_, ⟨⟩⟩
  · rw [if_neg hon]
    exact iff_of_true ⟨_, rfl⟩ fun h₁ h₂ h₃ => absurd ⟨h₁, h₂, h₃⟩ hon

/-! ## Query tasks -/

/-- It may wait for the upstream lookup of the first question left. -/
structure QueryTask (L : DnsLib) where
  response : Message L
  queries : List (Query L)
  asking : Option (String × String)

inductive QueryEvent
  | receive (raw : Bytes)
  | lookup (task : Nat) (now : Instant)
  | upstream (task : Nat) (outcome : Upstream) (now : Instant)
  | respond (task : Nat)
  | flush

structure Forwarding (L : DnsLib) where
  cache : Cache
  tasks : List (QueryTask L)
  sent : List Bytes
  past : List CacheOp

namespace Forwarding

variable {L : DnsLib}

def start (config : CacheConfig) : Forwarding L := ⟨.new config, [], [], []⟩

def responseTo (request : Message L) : Message L where
  id := request.id
  opCode := request.opCode
  recursionDesired := request.recursionDesired
  recursionAvailable := true
  responseCode := .noError
  queries := request.queries
  answers := []

/-- A message that does not decode is dropped. -/
def receive (codec : Codec L) (raw : Bytes) (s : Forwarding L) : Forwarding L :=
  match codec.fromVec raw with
  | none => s
  | some request =>
    { s with tasks := s.tasks ++ [⟨responseTo request, request.queries, none⟩] }

def lookupOp (query : Query L) (now : Instant) : List CacheOp :=
  match supportedTypeName query.queryType with
  | none => []
  | some recordType => [.get (L.toAscii query.name) recordType now]

def lookup (i : Nat) (task : QueryTask L) (query : Query L) (queries : List (Query L))
    (now : Instant) (s : Forwarding L) : Forwarding L :=
  match resolveFromCache s.cache query task.response now with
  | (.resolved response, cache) =>
    { s with
      cache := cache
      tasks := s.tasks.set i ⟨response, queries, none⟩
      past := lookupOp query now ++ s.past }
  | (.asking nameAscii recordType, cache) =>
    { s with
      cache := cache
      tasks := s.tasks.set i { task with asking := some (nameAscii, recordType) }
      past := lookupOp query now ++ s.past }

def storeOp (nameAscii recordType : String) (outcome : Upstream) (now : Instant) : List CacheOp :=
  match outcome with
  | .answered doh => [.insert nameAscii recordType doh.status doh.answer now]
  | _ => []

def upstream (latest : Instant) (i : Nat) (task : QueryTask L) (nameAscii recordType : String)
    (outcome : Upstream) (now : Instant) (s : Forwarding L) : Forwarding L :=
  match resolveFromUpstream latest s.cache nameAscii recordType outcome task.response now with
  | .ok (response, cache) =>
    { s with
      cache := cache
      tasks := s.tasks.set i ⟨response, task.queries.tail, none⟩
      past := storeOp nameAscii recordType outcome now ++ s.past }
  | .error _ =>
    { s with
      tasks := s.tasks.eraseIdx i
      past := storeOp nameAscii recordType outcome now ++ s.past }

def respond (codec : Codec L) (i : Nat) (task : QueryTask L) (s : Forwarding L) : Forwarding L :=
  { s with tasks := s.tasks.eraseIdx i, sent := s.sent ++ (codec.toVec task.response).toList }

def flush (s : Forwarding L) : Forwarding L :=
  { s with cache := s.cache.flush, past := .flush :: s.past }

/-- A task looks its next question up unless it waits, and responds when none is left. -/
def step (codec : Codec L) (latest : Instant) (s : Forwarding L) :
    QueryEvent → Option (Forwarding L)
  | .receive raw => some (s.receive codec raw)
  | .lookup i now =>
    match s.tasks[i]? with
    | some ⟨response, query :: queries, none⟩ =>
      some (s.lookup i ⟨response, query :: queries, none⟩ query queries now)
    | _ => none
  | .upstream i outcome now =>
    match s.tasks[i]? with
    | some ⟨response, queries, some (nameAscii, recordType)⟩ =>
      some (s.upstream latest i ⟨response, queries, some (nameAscii, recordType)⟩ nameAscii
        recordType outcome now)
    | _ => none
  | .respond i =>
    match s.tasks[i]? with
    | some ⟨response, [], none⟩ => some (s.respond codec i ⟨response, [], none⟩)
    | _ => none
  | .flush => some s.flush

section

variable {codec : Codec L} {latest : Instant} {s t : Forwarding L} {e : QueryEvent}

theorem cache_resolveFromCache (latest : Instant) (cache : Cache) (query : Query L)
    (response : Message L) (now : Instant) :
    (resolveFromCache cache query response now).2 =
      (lookupOp query now).foldr (fun op c => c.perform latest op) cache := by
  unfold resolveFromCache lookupOp
  cases supportedTypeName query.queryType with
  | none => rfl
  | some recordType =>
    simp only [List.foldr_cons, List.foldr_nil, Cache.perform]
    cases cache.get (L.toAscii query.name) recordType now with
    | mk found cache' => cases found <;> rfl

theorem exists_ops_of_step (h : step codec latest s e = some t) :
    ∃ ops : List CacheOp, t.cache = ops.foldr (fun op c => c.perform latest op) s.cache ∧
      t.past = ops ++ s.past := by
  revert h
  fun_cases step codec latest s e with rintro ⟨⟩
  | case1 raw => refine ⟨[], ?_, ?_⟩ <;> unfold receive <;> split <;> rfl
  | case2 i now response query queries =>
    refine ⟨lookupOp query now, ?_, ?_⟩
    · rw [← cache_resolveFromCache latest s.cache query response now]
      unfold lookup
      split <;> rename_i heq <;> rw [heq]
    · unfold lookup
      split <;> rfl
  | case4 i outcome now response queries nameAscii recordType =>
    refine ⟨storeOp nameAscii recordType outcome now, ?_, ?_⟩
    · unfold upstream storeOp resolveFromUpstream
      cases outcome with
      | timedOut | failed => rfl
      | answered doh =>
        simp only [List.foldr_cons, List.foldr_nil, Cache.perform]
        cases s.cache.insert latest nameAscii recordType doh.status doh.answer now <;> rfl
    · unfold upstream
      split <;> rfl
  | case6 => exact ⟨[], rfl, rfl⟩
  | case8 => exact ⟨[.flush], rfl, rfl⟩

theorem fromLatest_step {enabled : Bool} (hs : FromLatest latest enabled s.cache s.past)
    (h : step codec latest s e = some t) : FromLatest latest enabled t.cache t.past := by
  obtain ⟨ops, hcache, hpast⟩ := exists_ops_of_step h
  rw [hcache, hpast]
  clear hcache hpast h
  induction ops with
  | nil => exact hs
  | cons op ops ih => exact fromLatest_perform op ih

end

end Forwarding

/-! ## The lifetimes of what is served -/

def CacheOp.fetch : CacheOp → Option (List DnsRecord × Instant)
  | .insert _ _ _ answers now => some (answers, now)
  | _ => none

def fetched (latest : Instant) (enabled : Bool) (key : CacheKey) (past : List CacheOp) :
    Option (List DnsRecord × Instant) :=
  (past.find? fun op => Stores latest enabled key op).bind CacheOp.fetch

theorem exists_fetched {latest : Instant} {enabled : Bool} {c : Cache} {past : List CacheOp}
    (h : FromLatest latest enabled c past) {key : CacheKey} {entry : CacheEntry}
    (hentry : c.entries.lookup key = some entry) :
    ∃ since, fetched latest enabled key past = some (entry.answer.answers, since) := by
  obtain ⟨newer, op, older, rfl, ha, hop, hnewer⟩ := h.2 key entry hentry
  have hstores : Stores latest enabled key op := ⟨ha, by rw [hop]; rfl⟩
  have hfind : (newer ++ op :: older).find? (fun op => Stores latest enabled key op) = some op := by
    rw [List.find?_append, List.find?_eq_none.mpr, Option.none_or,
      List.find?_cons_of_pos (by simpa using hstores)]
    intro later hlater
    simpa using (hnewer later hlater).2
  rw [fetched, hfind]
  cases op with
  | insert _ _ _ answers since =>
    obtain ⟨-, rfl⟩ := Prod.mk.inj (Option.some.inj hop)
    exact ⟨since, rfl⟩
  | get | flush => cases hop

structure Served where
  key : CacheKey
  answers : List DnsRecord
  now : Instant

def Forwarding.served {L : DnsLib} (s : Forwarding L) : QueryEvent → Option Served
  | .lookup i now =>
    match s.tasks[i]? with
    | some ⟨_, query :: _, none⟩ => do
      let recordType ← supportedTypeName query.queryType
      let cached ← (s.cache.get (L.toAscii query.name) recordType now).1
      some ⟨.new (L.toAscii query.name) recordType, cached.answers, now⟩
    | _ => none
  | _ => none

section

variable {L : DnsLib} (latest : Instant) (enabled : Bool) (s : Forwarding L) (e : QueryEvent)

/-- What is served was fetched last, and has no TTL beyond the lifetime left to it. -/
def ServesLifetimes : Prop :=
  ∀ served ∈ s.served e, ∃ since ∈ (fetched latest enabled served.key s.past).map Prod.snd,
    (fetched latest enabled served.key s.past).map Prod.fst = some served.answers ∧
    ((∀ answer ∈ served.answers, 1 ≤ answer.ttl.toInt) →
      ∀ answer ∈ served.answers, ∀ record ∈ convertAnswerToRecord L answer,
        1000000000 * (record.ttl.toNat : Int) ≤
          1000000000 * answer.ttl.toInt - ((served.now : Int) - since))

/-- What is served is served without delay, or its TTL is beyond 32 bits. -/
def ServesAtOnce : Prop :=
  ∀ served ∈ s.served e, ∀ since ∈ (fetched latest enabled served.key s.past).map Prod.snd,
    (∀ answer ∈ served.answers, 1 ≤ answer.ttl.toInt) →
      ∀ answer ∈ served.answers, (convertAnswerToRecord L answer).isSome →
        (served.now : Int) - since ≤ max 0 (1000000000 * (answer.ttl.toInt - 4294967295))

instance : Decidable (ServesLifetimes latest enabled s e) :=
  inferInstanceAs (Decidable (∀ served ∈ s.served e, ∃ since ∈ (fetched ..).map Prod.snd, _ ∧ _))

instance : Decidable (ServesAtOnce latest enabled s e) :=
  inferInstanceAs (Decidable (∀ served ∈ s.served e, ∀ since ∈ (fetched ..).map Prod.snd, _))

end

theorem fetched_of_served {L : DnsLib} {latest : Instant} {enabled : Bool} {s : Forwarding L}
    (hs : FromLatest latest enabled s.cache s.past) {e : QueryEvent} {served : Served}
    (h : s.served e = some served) :
    ∃ since, fetched latest enabled served.key s.past = some (served.answers, since) := by
  revert h
  fun_cases Forwarding.served s e with intro h
  | case1 =>
    obtain ⟨recordType, -, h⟩ := Option.bind_eq_some_iff.mp h
    obtain ⟨cached, hget, h⟩ := Option.bind_eq_some_iff.mp h
    obtain rfl := Option.some.inj h
    obtain ⟨entry, hentry, -, rfl⟩ := get_eq_some hget
    exact exists_fetched hs hentry
  | _ => cases h

theorem clampTtl_le_iff {ttl : Int64} (hpos : 1 ≤ ttl.toInt) (age : Int) :
    1000000000 * ((clampTtl ttl).toNat : Int) ≤ 1000000000 * ttl.toInt - age ↔
      age ≤ max 0 (1000000000 * (ttl.toInt - 4294967295)) := by
  rw [toNat_clampTtl]
  omega

theorem servesLifetimes_iff {L : DnsLib} {latest : Instant} {enabled : Bool} {s : Forwarding L}
    (hs : FromLatest latest enabled s.cache s.past) (e : QueryEvent) :
    ServesLifetimes latest enabled s e ↔ ServesAtOnce latest enabled s e := by
  refine forall₂_congr fun served hserved => ?_
  obtain ⟨since, hsince⟩ := fetched_of_served hs hserved
  rw [hsince]
  simp only [Option.map_some, Option.mem_some_iff, exists_eq_left', true_and, forall_eq']
  refine forall_congr' fun hpos => forall₂_congr fun answer hanswer => ?_
  constructor
  · intro h hsome
    obtain ⟨record, hrecord⟩ := Option.isSome_iff_exists.mp hsome
    have := h record hrecord
    rwa [ttl_convertAnswerToRecord hrecord, clampTtl_le_iff (hpos answer hanswer)] at this
  · intro h record hrecord
    rw [ttl_convertAnswerToRecord hrecord, clampTtl_le_iff (hpos answer hanswer)]
    exact h (Option.isSome_of_eq_some hrecord)

/-- **The cache serves within the lifetimes** exactly if it serves at once or beyond 32 bits. -/
theorem served_lifetimes_iff {L : DnsLib} (codec : Codec L) (latest : Instant)
    (config : CacheConfig) (events : List QueryEvent) (t : Forwarding L)
    (hr : run (Forwarding.step codec latest) (.start config) events = some t) :
    Along (Forwarding.step codec latest) (ServesLifetimes latest config.enabled) (.start config)
        events ↔
      Along (Forwarding.step codec latest) (ServesAtOnce latest config.enabled) (.start config)
        events := by
  refine along_congr (I := fun s => FromLatest latest config.enabled s.cache s.past) ?_ ?_
    ⟨rfl, nofun⟩ hr
  · exact fun s e _ hs _ => servesLifetimes_iff hs e
  · exact fun s e t hs _ h => Forwarding.fromLatest_step hs h

def texts : DnsLib where
  Name := String
  Ipv4Addr := String
  Ipv6Addr := String
  fromAscii := some
  toAscii := id
  parseIpv4 := some
  parseIpv6 := some
  isWhitespace := Char.isWhitespace

def oneQuestion : Codec texts where
  fromVec _ := some ⟨0, 0, true, false, .noError, [⟨"example.com.", .a⟩], []⟩
  toVec _ := some []

def askedTwice (later : Instant) : List QueryEvent :=
  [.receive [], .lookup 0 0,
    .upstream 0 (.answered ⟨0, [⟨"example.com.", .int 1, 60, "192.0.2.1"⟩]⟩) 0, .respond 0,
    .receive [], .lookup 0 later]

theorem askedTwice_at_once :
    (run (Forwarding.step oneQuestion (fromSecs 1000)) (.start ⟨true, 1⟩) (askedTwice 0)).map
        (fun t => t.tasks.map fun task => task.response.answers.map Record.ttl) = some [[60]] ∧
      Along (Forwarding.step oneQuestion (fromSecs 1000)) (ServesLifetimes (fromSecs 1000) true)
        (.start ⟨true, 1⟩) (askedTwice 0) := by
  refine ⟨by decide +kernel, (served_lifetimes_iff oneQuestion (fromSecs 1000) ⟨true, 1⟩
    (askedTwice 0) _ (Option.some_get (by decide +kernel)).symm).mpr ?_⟩
  decide +kernel

theorem askedTwice_too_long :
    (run (Forwarding.step oneQuestion (fromSecs 1000)) (.start ⟨true, 1⟩)
        (askedTwice (fromSecs 30))).map
      (fun t => t.tasks.map fun task => task.response.answers.map Record.ttl) = some [[60]] ∧
      ¬ Along (Forwarding.step oneQuestion (fromSecs 1000)) (ServesLifetimes (fromSecs 1000) true)
        (.start ⟨true, 1⟩) (askedTwice (fromSecs 30)) := by
  decide +kernel

theorem largest_ttl_panics :
    resolveFromUpstream (L := texts) (fromSecs (2 ^ 63) - 1) (.new {}) "example.com." "A"
      (.answered ⟨0, [⟨"example.com.", .int 1, 9223372036854775807, "192.0.2.1"⟩]⟩)
      ⟨0, 0, true, true, .noError, [], []⟩ (fromSecs 1) = .error .instantOverflow := by
  rfl

end Penguind.Forwarder
