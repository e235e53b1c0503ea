import Mathlib.Algebra.Group.Nat.Defs
import Mathlib.Data.List.AList
import Penguind.Foundation.Run

/-!
# The answer cache of the DNS forwarder

A bounded map from a name and a record type to answers, with a queue of its keys for the eviction.
A lookup that finds an expired entry removes it from the map, but not from the queue.
-/

namespace Penguind.Forwarder

open Foundation

inductive RecordKind
  | int (value : Int64)
  | text (text : String)
  deriving DecidableEq

structure DnsRecord where
  name : String
  kind : RecordKind
  ttl : Int64
  data : String
  deriving DecidableEq

abbrev Instant := Nat

def fromSecs (secs : Nat) : Nat := 1000000000 * secs

inductive Panic
  | instantOverflow
  deriving DecidableEq

def Panic.message : Panic → String
  | .instantOverflow => "overflow when adding duration to instant"

def Instant.add (latest now : Instant) (duration : Nat) : Except Panic Instant :=
  if now + duration ≤ latest then .ok (now + duration) else .error .instantOverflow

/-! ## The cache -/

structure CacheConfig where
  enabled : Bool := true
  maxEntries : Nat := 10000

structure CachedAnswer where
  status : Int32
  answers : List DnsRecord
  deriving DecidableEq

structure CacheKey where
  name : String
  recordType : String
  deriving DecidableEq

def CacheKey.new (name recordType : String) : CacheKey where
  name := name.map Char.toLower
  recordType := recordType.map Char.toUpper

structure CacheEntry where
  answer : CachedAnswer
  expiresAt : Instant

structure Cache where
  enabled : Bool
  maxEntries : Nat
  entries : AList fun _ : CacheKey => CacheEntry
  order : List CacheKey
  hits : UInt64
  misses : UInt64

namespace Cache

def new (config : CacheConfig) : Cache where
  enabled := config.enabled
  maxEntries := max config.maxEntries 1
  entries := ∅
  order := []
  hits := 0
  misses := 0

variable (c : Cache)

def len : Nat := c.entries.keys.length

def hit : Cache := { c with hits := c.hits + 1 }

def miss : Cache := { c with misses := c.misses + 1 }

/-- Its key stays in the queue. -/
def expire (key : CacheKey) : Cache := { c with entries := c.entries.erase key }

def get (name recordType : String) (now : Instant) : Option CachedAnswer × Cache :=
  if c.enabled then
    match c.entries.lookup (.new name recordType) with
    | none => (none, c.miss)
    | some entry =>
      if entry.expiresAt ≤ now then (none, (c.expire (.new name recordType)).miss)
      else (some entry.answer, c.hit)
  else (none, c.miss)

end Cache

def positiveTtl (answer : DnsRecord) : Nat := max (max answer.ttl.toInt 0).toNat 1

def lessTtl (minTtl : Option Nat) (answer : DnsRecord) : Option Nat :=
  match minTtl with
  | none => some (positiveTtl answer)
  | some current => some (if positiveTtl answer < current then positiveTtl answer else current)

def minPositiveTtl (answers : List DnsRecord) : Option Nat := answers.foldl lessTtl none

namespace Cache

variable (c : Cache)

def evict : Cache :=
  match c.order with
  | [] => c
  | oldest :: order => { c with entries := c.entries.erase oldest, order := order }

def makeRoom (key : CacheKey) : Cache :=
  if key ∉ c.entries ∧ c.maxEntries ≤ c.len then c.evict else c

def put (key : CacheKey) (entry : CacheEntry) : Cache :=
  { c with
    entries := c.entries.insert key entry
    order := if key ∈ c.entries then c.order else c.order ++ [key] }

def store (key : CacheKey) (entry : CacheEntry) : Cache := (c.makeRoom key).put key entry

def insert (latest : Instant) (name recordType : String) (status : Int32)
    (answers : List DnsRecord) (now : Instant) : Except Panic Cache :=
  if c.enabled = false ∨ status ≠ 0 then .ok c
  else
    match minPositiveTtl answers with
    | none => .ok c
    | some ttlSecs => do
      let expiresAt ← Instant.add latest now (fromSecs ttlSecs)
      .ok (c.store (.new name recordType) ⟨⟨status, answers⟩, expiresAt⟩)

def flush : Cache := { c with entries := ∅, order := [] }

end Cache

inductive CacheOp
  | insert (name recordType : String) (status : Int32) (answers : List DnsRecord) (now : Instant)
  | get (name recordType : String) (now : Instant)
  | flush
  deriving DecidableEq

def Cache.perform (latest : Instant) (c : Cache) : CacheOp → Cache
  | .insert name recordType status answers now =>
    match c.insert latest name recordType status answers now with
    | .ok c => c
    | .error _ => c
  | .get name recordType now => (c.get name recordType now).2
  | .flush => c.flush

/-! ## Names and lifetimes -/

def EqIgnoreAsciiCase (a b : String) : Prop := a.map Char.toLower = b.map Char.toLower

theorem toNat_toLower (c : Char) :
    c.toLower.toNat = if 65 ≤ c.toNat ∧ c.toNat ≤ 90 then c.toNat + 32 else c.toNat := by
  unfold Char.toLower
  simp only [Char.toNat, ge_iff_le, UInt32.le_iff_toNat_le]
  split_ifs with h h' h'
  · change (c.val + 32).toNat = c.val.toNat + 32
    rw [UInt32.toNat_add]
    exact Nat.mod_eq_of_lt (show c.val.toNat + 32 < 2 ^ 32 by omega)
  · exact absurd h h'
  · exact absurd h' h
  · rfl

theorem toNat_toUpper (c : Char) :
    c.toUpper.toNat = if 97 ≤ c.toNat ∧ c.toNat ≤ 122 then c.toNat - 32 else c.toNat := by
  unfold Char.toUpper
  simp only [Char.toNat, UInt32.le_iff_toNat_le]
  split_ifs with h h' h'
  · change (c.val + 4294967264).toNat = c.val.toNat - 32
    rw [UInt32.toNat_add]
    change (c.val.toNat + 4294967264) % 4294967296 = c.val.toNat - 32
    omega
  · exact absurd h h'
  · exact absurd h' h
  · rfl

theorem toLower_toUpper (c : Char) : c.toUpper.toLower = c.toLower := by
  apply Char.toNat_inj.mp
  rw [toNat_toLower, toNat_toLower, toNat_toUpper]
  split_ifs <;> omega

theorem toUpper_toLower (c : Char) : c.toLower.toUpper = c.toUpper := by
  apply Char.toNat_inj.mp
  rw [toNat_toUpper, toNat_toUpper, toNat_toLower]
  split_ifs <;> omega

def smallestTtl (answers : List DnsRecord) : Option Int :=
  (answers.map fun answer => answer.ttl.toInt).min?

def lifetime (answers : List DnsRecord) : Nat :=
  fromSecs (max 1 ((smallestTtl answers).getD 0)).toNat

theorem positiveTtl_eq (answer : DnsRecord) :
    positiveTtl answer = (max 1 answer.ttl.toInt).toNat := by
  unfold positiveTtl
  omega

theorem lessTtl_some (ttl : Int) (answer : DnsRecord) :
    lessTtl (some (max 1 ttl).toNat) answer =
      some (max 1 (min ttl answer.ttl.toInt)).toNat := by
  simp only [lessTtl, positiveTtl_eq, Option.some.injEq]
  split_ifs <;> omega

theorem foldl_lessTtl (answers : List DnsRecord) (ttl : Int) :
    answers.foldl lessTtl (some (max 1 ttl).toNat) =
      some (max 1 ((answers.map fun answer => answer.ttl.toInt).foldl min ttl)).toNat := by
  induction answers generalizing ttl with
  | nil => rfl
  | cons answer answers ih =>
    rw [List.foldl_cons, lessTtl_some, ih]
    rfl

theorem minPositiveTtl_eq (answers : List DnsRecord) :
    minPositiveTtl answers = (smallestTtl answers).map fun ttl => (max 1 ttl).toNat := by
  cases answers with
  | nil => rfl
  | cons answer answers =>
    have hfirst : lessTtl none answer = some (max 1 answer.ttl.toInt).toNat :=
      congrArg some (positiveTtl_eq answer)
    rw [minPositiveTtl, List.foldl_cons, hfirst, foldl_lessTtl]
    rfl

theorem cacheKey_eq_iff {name recordType name' recordType' : String} :
    CacheKey.new name recordType = CacheKey.new name' recordType' ↔
      EqIgnoreAsciiCase name name' ∧ EqIgnoreAsciiCase recordType recordType' := by
  have hupper : recordType.map Char.toUpper = recordType'.map Char.toUpper ↔
      EqIgnoreAsciiCase recordType recordType' := by
    simp only [EqIgnoreAsciiCase, ← String.toList_inj, String.toList_map]
    constructor
    · intro h
      simpa [Function.comp_def, toLower_toUpper] using congrArg (List.map Char.toLower) h
    · intro h
      simpa [Function.comp_def, toUpper_toLower] using congrArg (List.map Char.toUpper) h
  simp only [CacheKey.new, CacheKey.mk.injEq, hupper]
  rfl

/-! ## What the operations do -/

theorem minPositiveTtl_of_ne_nil {answers : List DnsRecord} (h : answers ≠ []) :
    ∃ ttlSecs, minPositiveTtl answers = some ttlSecs ∧ fromSecs ttlSecs = lifetime answers := by
  cases httl : smallestTtl answers with
  | none => exact absurd (List.map_eq_nil_iff.mp (List.min?_eq_none_iff.mp httl)) h
  | some ttl =>
    refine ⟨(max 1 ttl).toNat, ?_, ?_⟩
    · rw [minPositiveTtl_eq, httl, Option.map_some]
    · rw [lifetime, httl, Option.getD_some]

namespace Cache

variable {c : Cache} {latest : Instant} {name recordType : String} {status : Int32}
  {answers : List DnsRecord} {now : Instant}

theorem insert_eq : c.insert latest name recordType status answers now =
    if c.enabled = true ∧ status = 0 ∧ answers ≠ [] then
      (Instant.add latest now (lifetime answers)).map fun expiresAt =>
        c.store (.new name recordType) ⟨⟨status, answers⟩, expiresAt⟩
    else .ok c := by
  unfold insert
  by_cases hoff : c.enabled = false ∨ status ≠ 0
  · have hno : ¬ (c.enabled = true ∧ status = 0 ∧ answers ≠ []) := by
      rintro ⟨henabled, hstatus, -⟩
      simp [henabled, hstatus] at hoff
    rw [if_pos hoff, if_neg hno]
  · rw [if_neg hoff]
    simp only [not_or, Bool.not_eq_false, ne_eq, not_not] at hoff
    by_cases hnil : answers = []
    · subst hnil
      simp [minPositiveTtl]
    · obtain ⟨ttlSecs, hmin, hlife⟩ := minPositiveTtl_of_ne_nil hnil
      rw [hmin, if_pos ⟨hoff.1, hoff.2, hnil⟩, ← hlife]
      rfl

end Cache

section

variable (latest : Instant) (enabled : Bool)

def Accepted : CacheOp → Prop
  | .insert _ _ status answers now =>
    (enabled = true ∧ status = 0 ∧ answers ≠ []) ∧ now + lifetime answers ≤ latest
  | _ => False

instance : DecidablePred (Accepted latest enabled)
  | .insert _ _ _ _ _ => inferInstanceAs (Decidable (_ ∧ _))
  | .get _ _ _ => .isFalse id
  | .flush => .isFalse id

def CacheOp.stored : CacheOp → Option (CacheKey × CacheEntry)
  | .insert name recordType status answers now =>
    some (.new name recordType, ⟨⟨status, answers⟩, now + lifetime answers⟩)
  | _ => none

def Stores (key : CacheKey) (op : CacheOp) : Prop :=
  Accepted latest enabled op ∧ op.stored.map Prod.fst = some key

instance (key : CacheKey) : DecidablePred (Stores latest enabled key) :=
  fun _ => inferInstanceAs (Decidable (_ ∧ _))

end

section

variable {latest : Instant} {c : Cache} {op : CacheOp}

variable {key : CacheKey} {entry : CacheEntry}

theorem perform_of_accepted (h : Accepted latest c.enabled op)
    (hop : op.stored = some (key, entry)) : c.perform latest op = c.store key entry := by
  cases op with
  | insert name recordType status answers now =>
    obtain ⟨rfl, rfl⟩ : _ = key ∧ _ = entry := by simpa [CacheOp.stored] using hop
    simp only [Cache.perform, Cache.insert_eq, if_pos h.1, Instant.add, if_pos h.2, Except.map]
  | get | flush => cases hop

theorem perform_insert_of_not_accepted {name recordType : String} {status : Int32}
    {answers : List DnsRecord} {now : Instant}
    (h : ¬ Accepted latest c.enabled (.insert name recordType status answers now)) :
    c.perform latest (.insert name recordType status answers now) = c := by
  simp only [Cache.perform, Cache.insert_eq]
  by_cases hon : c.enabled = true ∧ status = 0 ∧ answers ≠ []
  · have hlate : ¬ now + lifetime answers ≤ latest := fun hle => h ⟨hon, hle⟩
    simp only [if_pos hon, Instant.add, if_neg hlate, Except.map]
  · rw [if_neg hon]

theorem perform_cases (latest : Instant) (c : Cache) (op : CacheOp) :
    (∃ key entry, Accepted latest c.enabled op ∧ op.stored = some (key, entry) ∧
        c.perform latest op = c.store key entry) ∨
      (∃ name recordType status answers now, op = .insert name recordType status answers now ∧
        ¬ Accepted latest c.enabled op ∧ c.perform latest op = c) ∨
      (∃ name recordType now, op = .get name recordType now ∧
        ((c.perform latest op = c.miss ∧
            (c.enabled = false ∨ c.entries.lookup (.new name recordType) = none)) ∨
          ∃ entry, c.enabled = true ∧ c.entries.lookup (.new name recordType) = some entry ∧
            ((entry.expiresAt ≤ now ∧
                c.perform latest op = (c.expire (.new name recordType)).miss) ∨
              now < entry.expiresAt ∧ c.perform latest op = c.hit))) ∨
      op = .flush ∧ c.perform latest op = c.flush := by
  cases op with
  | insert name recordType status answers now =>
    by_cases h : Accepted latest c.enabled (.insert name recordType status answers now)
    · exact .inl ⟨_, _, h, rfl, perform_of_accepted h rfl⟩
    · exact .inr (.inl ⟨_, _, _, _, _, rfl, h, perform_insert_of_not_accepted h⟩)
  | get name recordType now =>
    refine .inr (.inr (.inl ⟨name, recordType, now, rfl, ?_⟩))
    simp only [Cache.perform]
    fun_cases Cache.get c name recordType now with
    | case1 hon hl => exact .inl ⟨rfl, .inr hl⟩
    | case2 hon entry hl hle => exact .inr ⟨entry, hon, hl, .inl ⟨hle, rfl⟩⟩
    | case3 hon entry hl hle => exact .inr ⟨entry, hon, hl, .inr ⟨Nat.lt_of_not_le hle, rfl⟩⟩
    | case4 hoff => exact .inl ⟨rfl, .inl (by simpa using hoff)⟩
  | flush => exact .inr (.inr (.inr ⟨rfl, rfl⟩))

theorem lookup_evict (h : c.evict.entries.lookup key = some entry) :
    c.entries.lookup key = some entry := by
  revert h
  fun_cases Cache.evict c with intro h
  | case1 => exact h
  | case2 oldest =>
    by_cases hkey : key = oldest
    · rw [hkey, AList.lookup_erase] at h
      cases h
    · rwa [AList.lookup_erase_ne hkey] at h

theorem lookup_store_ne {key key' : CacheKey} {entry entry' : CacheEntry} (hne : key ≠ key')
    (h : (c.store key' entry').entries.lookup key = some entry) :
    c.entries.lookup key = some entry := by
  rw [Cache.store, Cache.put, AList.lookup_insert_ne hne] at h
  unfold Cache.makeRoom at h
  split_ifs at h
  · exact lookup_evict h
  · exact h

theorem lookup_perform (h : (c.perform latest op).entries.lookup key = some entry) :
    (Accepted latest c.enabled op ∧ op.stored = some (key, entry)) ∨
      c.entries.lookup key = some entry ∧ op ≠ .flush ∧ ¬ Stores latest c.enabled key op := by
  rcases perform_cases latest c op with ⟨key', entry', ha, hop, hc⟩ | hold
  · rw [hc] at h
    by_cases hkey : key = key'
    · subst hkey
      rw [Cache.store, Cache.put, AList.lookup_insert, Option.some.injEq] at h
      exact .inl ⟨ha, h ▸ hop⟩
    · refine .inr ⟨lookup_store_ne hkey h, ?_, ?_⟩
      · rintro rfl
        cases hop
      · rintro ⟨-, hstores⟩
        rw [hop] at hstores
        exact hkey (Option.some.inj hstores).symm
  · right
    rcases hold with ⟨_, _, _, _, _, rfl, hno, hc⟩ | ⟨name, recordType, now, rfl, hget⟩ | ⟨rfl, hc⟩
    · rw [hc] at h
      exact ⟨h, nofun, fun hstores => hno hstores.1⟩
    · refine ⟨?_, nofun, fun hstores => hstores.1⟩
      rcases hget with ⟨hc, -⟩ | ⟨_, -, -, ⟨-, hc⟩ | ⟨-, hc⟩⟩
      · rwa [hc] at h
      · rw [hc] at h
        change (c.entries.erase (.new name recordType)).lookup key = some entry at h
        by_cases hkey : key = .new name recordType
        · rw [hkey, AList.lookup_erase] at h
          cases h
        · rwa [AList.lookup_erase_ne hkey] at h
      · rwa [hc] at h
    · rw [hc] at h
      cases h

theorem exists_store_eq (c : Cache) (key : CacheKey) (entry : CacheEntry) :
    ∃ entries order, c.store key entry = { c with entries := entries, order := order } := by
  have hroom : ∃ entries order, c.makeRoom key = { c with entries := entries, order := order } := by
    unfold Cache.makeRoom
    split_ifs
    · fun_cases Cache.evict c <;> exact ⟨_, _, rfl⟩
    · exact ⟨_, _, rfl⟩
  obtain ⟨entries, order, h⟩ := hroom
  rw [Cache.store, h]
  exact ⟨_, _, rfl⟩

theorem settings_perform : (c.perform latest op).enabled = c.enabled ∧
    (c.perform latest op).maxEntries = c.maxEntries := by
  rcases perform_cases latest c op with ⟨key, entry, -, -, h⟩ | ⟨_, _, _, _, _, -, -, h⟩ |
    ⟨_, _, _, -, ⟨h, -⟩ | ⟨_, -, -, ⟨-, h⟩ | ⟨-, h⟩⟩⟩ | ⟨-, h⟩ <;> rw [h]
  · obtain ⟨_, _, hstore⟩ := exists_store_eq c key entry
    rw [hstore]
    exact ⟨rfl, rfl⟩
  all_goals exact ⟨rfl, rfl⟩

end

/-! ## What a lookup returns -/

def cacheStep (latest : Instant) (c : Cache) (op : CacheOp) : Option Cache :=
  some (c.perform latest op)

def Cache.after (latest : Instant) (config : CacheConfig) (ops : List CacheOp) : Cache :=
  ops.foldl (Cache.perform latest) (.new config)

theorem run_recorded_after (latest : Instant) (config : CacheConfig) (ops : List CacheOp) :
    run (recorded (cacheStep latest)) (.new config, []) ops =
      some (Cache.after latest config ops, ops.reverse) := by
  have hr : run (cacheStep latest) (.new config) ops = some (Cache.after latest config ops) :=
    run_some _ _ _
  rw [run_recorded, hr, List.append_nil]
  rfl

variable {latest : Instant}

theorem after_invariant {I : Cache → List CacheOp → Prop}
    (hstep : ∀ c past op, I c past → I (c.perform latest op) (op :: past)) {config : CacheConfig}
    (hnew : I (.new config) []) (ops : List CacheOp) :
    I (Cache.after latest config ops) ops.reverse := by
  refine run_invariant_of_step (I := fun s => I s.1 s.2) ?_ hnew
    (run_recorded_after latest config ops)
  rintro ⟨c, past⟩ op _ hI ⟨⟩
  exact hstep c past op hI

def FromLatest (latest : Instant) (enabled : Bool) (c : Cache) (past : List CacheOp) : Prop :=
  c.enabled = enabled ∧ ∀ key entry, c.entries.lookup key = some entry →
    ∃ newer op older, past = newer ++ op :: older ∧ Accepted latest enabled op ∧
      op.stored = some (key, entry) ∧
      ∀ later ∈ newer, later ≠ .flush ∧ ¬ Stores latest enabled key later

theorem fromLatest_perform {enabled : Bool} {c : Cache} {past : List CacheOp} (op : CacheOp)
    (h : FromLatest latest enabled c past) :
    FromLatest latest enabled (c.perform latest op) (op :: past) := by
  obtain ⟨rfl, h⟩ := h
  refine ⟨settings_perform.1, fun key entry hl => ?_⟩
  rcases lookup_perform hl with ⟨ha, hop⟩ | ⟨hl, hflush, hstores⟩
  · exact ⟨[], op, past, rfl, ha, hop, nofun⟩
  · obtain ⟨newer, op', older, rfl, ha, hop, hnewer⟩ := h key entry hl
    refine ⟨op :: newer, op', older, rfl, ha, hop, ?_⟩
    rintro later (- | hlater)
    · exact ⟨hflush, hstores⟩
    · exact hnewer later ‹_›

def CacheOp.isLookup : CacheOp → Bool
  | .get _ _ _ => true
  | _ => false

/-- The counters have counted every lookup once. -/
def Counted (c : Cache) (past : List CacheOp) : Prop :=
  ∃ hits misses, c.hits = UInt64.ofNat hits ∧ c.misses = UInt64.ofNat misses ∧
    hits + misses = past.countP CacheOp.isLookup

theorem counted_perform {c : Cache} {past : List CacheOp} (op : CacheOp) (h : Counted c past) :
    Counted (c.perform latest op) (op :: past) := by
  obtain ⟨hits, misses, hhits, hmisses, hsum⟩ := h
  have hmiss : c.misses + 1 = UInt64.ofNat (misses + 1) := by rw [hmisses, UInt64.ofNat_add]; rfl
  have hhit : c.hits + 1 = UInt64.ofNat (hits + 1) := by rw [hhits, UInt64.ofNat_add]; rfl
  rcases perform_cases latest c op with ⟨key, entry, -, hop, hc⟩ | ⟨_, _, _, _, _, rfl, -, hc⟩ |
    ⟨name, recordType, now, rfl, hget⟩ | ⟨rfl, hc⟩
  · obtain ⟨_, _, hstore⟩ := exists_store_eq c key entry
    have hno : op.isLookup = false := by cases op <;> first | rfl | cases hop
    rw [hc, hstore]
    exact ⟨hits, misses, hhits, hmisses, by rw [List.countP_cons, hno, hsum]; rfl⟩
  · rw [hc]
    exact ⟨hits, misses, hhits, hmisses, hsum⟩
  · have hcount : (CacheOp.get name recordType now :: past).countP CacheOp.isLookup =
        hits + misses + 1 := by rw [List.countP_cons, hsum]; rfl
    rcases hget with ⟨hc, -⟩ | ⟨_, -, -, ⟨-, hc⟩ | ⟨-, hc⟩⟩ <;> rw [hc]
    · exact ⟨hits, misses + 1, hhits, hmiss, by omega⟩
    · exact ⟨hits, misses + 1, hhits, hmiss, by omega⟩
    · exact ⟨hits + 1, misses, hhit, hmisses, by omega⟩
  · rw [hc]
    exact ⟨hits, misses, hhits, hmisses, hsum⟩

theorem get_eq_some {c : Cache} {name recordType : String} {now : Instant} {answer : CachedAnswer}
    (h : (c.get name recordType now).1 = some answer) :
    ∃ entry, c.entries.lookup (.new name recordType) = some entry ∧ now < entry.expiresAt ∧
      entry.answer = answer := by
  revert h
  fun_cases Cache.get c name recordType now with rintro ⟨⟩
  | case3 _ entry hentry hle => exact ⟨entry, hentry, Nat.lt_of_not_le hle, rfl⟩

def CacheOp.InsertsFor (name recordType : String) : CacheOp → Prop
  | .insert name' recordType' _ _ _ =>
    EqIgnoreAsciiCase name' name ∧ EqIgnoreAsciiCase recordType' recordType
  | _ => False

theorem stores_iff {enabled : Bool} {name recordType : String} {op : CacheOp} :
    Stores latest enabled (.new name recordType) op ↔
      Accepted latest enabled op ∧ op.InsertsFor name recordType := by
  cases op with
  | insert => simp only [Stores, CacheOp.stored, Option.map_some, Option.some.injEq,
      cacheKey_eq_iff, CacheOp.InsertsFor]
  | get | flush => exact ⟨fun h => h.1.elim, fun h => h.1.elim⟩

/-- **A lookup returns the latest answers** that were not flushed and have not expired. -/
theorem cache_lookups (latest : Instant) (config : CacheConfig) (ops : List CacheOp) :
    (∀ name recordType now answer,
      ((Cache.after latest config ops).get name recordType now).1 = some answer →
        ∃ before name' recordType' status since later,
          ops = before ++ .insert name' recordType' status answer.answers since :: later ∧
          (CacheOp.insert name' recordType' status answer.answers since).InsertsFor
            name recordType ∧
          Accepted latest config.enabled
            (.insert name' recordType' status answer.answers since) ∧
          (∀ op ∈ later, op ≠ .flush ∧
            ¬ (Accepted latest config.enabled op ∧ op.InsertsFor name recordType)) ∧
          now < since + lifetime answer.answers) ∧
      (Cache.after latest config ops).hits + (Cache.after latest config ops).misses =
        UInt64.ofNat (ops.countP CacheOp.isLookup) ∧
      (ops.countP CacheOp.isLookup < 2 ^ 64 →
        (Cache.after latest config ops).hits.toNat + (Cache.after latest config ops).misses.toNat =
          ops.countP CacheOp.isLookup) := by
  refine ⟨fun name recordType now answer hget => ?_, ?_⟩
  · obtain ⟨entry, hentry, hnow, rfl⟩ := get_eq_some hget
    obtain ⟨-, hlatest⟩ : FromLatest latest config.enabled (Cache.after latest config ops)
        ops.reverse := after_invariant (fun c past op => fromLatest_perform op) ⟨rfl, nofun⟩ ops
    obtain ⟨newer, op, older, hops, ha, hop, hnewer⟩ := hlatest _ _ hentry
    cases op with
    | insert name' recordType' status answers since =>
      obtain ⟨hkey, rfl⟩ := Prod.mk.inj (Option.some.inj hop)
      refine ⟨older.reverse, name', recordType', status, since, newer.reverse, ?_,
        cacheKey_eq_iff.mp hkey, ha, ?_, hnow⟩
      · have := congrArg List.reverse hops
        simpa using this
      · intro op hmem
        rw [← stores_iff]
        exact hnewer op (List.mem_reverse.mp hmem)
    | get | flush => cases hop
  · obtain ⟨hits, misses, hhits, hmisses, hsum⟩ : Counted (Cache.after latest config ops)
        ops.reverse :=
      after_invariant (fun c past op h => counted_perform op h) ⟨0, 0, rfl, rfl, rfl⟩ ops
    rw [List.countP_reverse] at hsum
    rw [hhits, hmisses, ← hsum]
    refine ⟨(UInt64.ofNat_add hits misses).symm, fun hlt => ?_⟩
    rw [UInt64.toNat_ofNat_of_lt', UInt64.toNat_ofNat_of_lt']
    · exact Nat.lt_of_le_of_lt (Nat.le_add_left ..) hlt
    · exact Nat.lt_of_le_of_lt (Nat.le_add_right ..) hlt

end Penguind.Forwarder
