import Mathlib.Data.List.Perm.Basic
import Penguind.Forwarder.Cache

/-!
# The size and the eviction queue of the cache

An insert that finds the cache full evicts the key at the front of the queue. The keys of expired
entries stay there, and an insert under a key that is there keeps its place.
-/

namespace Penguind.Forwarder

open Foundation

/-- At most `capacity` entries, each with its key in the queue once. -/
structure Tidy (c : Cache) : Prop where
  size : c.len ≤ c.maxEntries
  nodup : c.order.Nodup
  mem : ∀ key, key ∈ c.order ↔ key ∈ c.entries

def insertedAt (latest : Instant) (enabled : Bool) (key : CacheKey) : List CacheOp → Nat
  | [] => 0
  | op :: past =>
    if Stores latest enabled key op then past.length + 1 else insertedAt latest enabled key past

section

variable (latest : Instant) (c : Cache) (past : List CacheOp)

def Oldest (key : CacheKey) : Prop :=
  ∀ other ∈ c.entries.keys,
    insertedAt latest c.enabled key past ≤ insertedAt latest c.enabled other past

def Overflows (op : CacheOp) : Prop :=
  Accepted latest c.enabled op ∧ (∀ key ∈ op.stored.map Prod.fst, key ∉ c.entries) ∧
    c.maxEntries ≤ c.len

def EvictsOldest (op : CacheOp) : Prop :=
  Overflows latest c op → ∃ oldest ∈ c.entries, Oldest latest c past oldest ∧
    ∀ key, op.stored.map Prod.fst ≠ some key →
      (c.perform latest op).entries.lookup key =
        if key = oldest then none else c.entries.lookup key

def FindsFresh : CacheOp → Prop
  | .get name recordType now =>
    c.enabled = true → ∀ entry ∈ c.entries.lookup (.new name recordType), now < entry.expiresAt
  | _ => True

def FrontOldest (op : CacheOp) : Prop :=
  Overflows latest c op → ∀ front ∈ c.order.head?, Oldest latest c past front

end

/-! ## What keeps the cache tidy -/

section

variable {latest : Instant} {c : Cache} {past : List CacheOp} {key : CacheKey} {entry : CacheEntry}

theorem tidy_new (config : CacheConfig) : Tidy (.new config) :=
  ⟨Nat.zero_le _, List.nodup_nil, fun _ => Iff.rfl⟩

theorem tidy_miss : Tidy c.miss ↔ Tidy c :=
  ⟨fun h => ⟨h.size, h.nodup, h.mem⟩, fun h => ⟨h.size, h.nodup, h.mem⟩⟩

theorem tidy_flush (c : Cache) : Tidy c.flush :=
  ⟨Nat.zero_le _, List.nodup_nil, fun _ => Iff.rfl⟩

theorem not_tidy_expire (h : Tidy c) (hkey : key ∈ c.entries) : ¬ Tidy (c.expire key) := by
  intro h'
  have hmem : key ∈ c.order := (h.mem key).mpr hkey
  exact (AList.mem_erase.mp ((h'.mem key).mp hmem)).1 rfl

theorem tidy_put_of_mem (h : Tidy c) (hkey : key ∈ c.entries) : Tidy (c.put key entry) := by
  refine ⟨?_, ?_, fun other => ?_⟩
  · have hlen : (c.put key entry).len = c.len := by
      have := List.length_erase_add_one (a := key) (l := c.entries.keys) hkey
      simp only [Cache.len, Cache.put, AList.keys_insert, List.length_cons]
      omega
    exact hlen ▸ h.size
  · simpa [Cache.put, hkey] using h.nodup
  · simp only [Cache.put, if_pos hkey, AList.mem_insert, h.mem]
    exact ⟨.inr, fun hor => hor.elim (· ▸ hkey) id⟩

theorem tidy_put_of_not_mem (h : Tidy c) (hkey : key ∉ c.entries) (hroom : c.len < c.maxEntries) :
    Tidy (c.put key entry) := by
  refine ⟨?_, ?_, fun other => ?_⟩
  · have herase : c.entries.keys.erase key = c.entries.keys := List.erase_of_not_mem hkey
    change (c.entries.insert key entry).keys.length ≤ c.maxEntries
    rw [AList.keys_insert, herase]
    exact hroom
  · have horder : key ∉ c.order := fun hmem => hkey ((h.mem key).mp hmem)
    simpa [Cache.put, hkey, List.nodup_append] using
      ⟨h.nodup, fun other hother heq => horder (heq ▸ hother)⟩
  · simp only [Cache.put, if_neg hkey, AList.mem_insert, List.mem_append, List.mem_singleton, h.mem]
    exact or_comm

theorem tidy_evict {front : CacheKey} {order : List CacheKey} (h : Tidy c)
    (horder : c.order = front :: order) : Tidy c.evict ∧ c.evict.len + 1 = c.len := by
  have hfront : front ∈ c.entries := (h.mem front).mp (by rw [horder]; exact List.mem_cons_self)
  have hlen : (c.entries.keys.erase front).length + 1 = c.len :=
    List.length_erase_add_one hfront
  have hnodup : (front :: order).Nodup := horder ▸ h.nodup
  have hevict : c.evict = { c with entries := c.entries.erase front, order := order } := by
    unfold Cache.evict
    rw [horder]
  rw [hevict]
  refine ⟨⟨?_, (List.nodup_cons.mp hnodup).2, fun key => ?_⟩, ?_⟩
  · have := h.size
    change (c.entries.erase front).keys.length ≤ c.maxEntries
    rw [AList.keys_erase]
    omega
  · change key ∈ order ↔ key ∈ c.entries.erase front
    rw [AList.mem_erase, ← h.mem, horder, List.mem_cons]
    constructor
    · intro hmem
      exact ⟨fun heq => (List.nodup_cons.mp hnodup).1 (heq ▸ hmem), .inr hmem⟩
    · rintro ⟨hne, heq | hmem⟩
      · exact absurd heq hne
      · exact hmem
  · change (c.entries.erase front).keys.length + 1 = c.len
    rw [AList.keys_erase, hlen]

theorem store_of_full (hkey : key ∉ c.entries) (hfull : c.maxEntries ≤ c.len) :
    c.store key entry = c.evict.put key entry := by
  rw [Cache.store, Cache.makeRoom, if_pos ⟨hkey, hfull⟩]

theorem store_of_room (hroom : key ∈ c.entries ∨ c.len < c.maxEntries) :
    c.store key entry = c.put key entry := by
  rw [Cache.store, Cache.makeRoom, if_neg]
  rintro ⟨hkey, hfull⟩
  exact hroom.elim hkey (Nat.not_lt_of_le hfull)

theorem exists_front (h : Tidy c) (hmax : 1 ≤ c.maxEntries) (hfull : c.maxEntries ≤ c.len) :
    ∃ front order, c.order = front :: order := by
  obtain ⟨other, hother⟩ := List.exists_mem_of_length_pos (Nat.lt_of_lt_of_le hmax hfull)
  exact List.exists_cons_of_ne_nil (List.ne_nil_of_mem ((h.mem other).mpr hother))

theorem tidy_store (h : Tidy c) (hmax : 1 ≤ c.maxEntries) : Tidy (c.store key entry) := by
  by_cases hkey : key ∈ c.entries
  · rw [store_of_room (.inl hkey)]
    exact tidy_put_of_mem h hkey
  by_cases hfull : c.maxEntries ≤ c.len
  · rw [store_of_full hkey hfull]
    obtain ⟨front, order, horder⟩ := exists_front h hmax hfull
    obtain ⟨htidy, hlen⟩ := tidy_evict h horder
    have hmax' : c.evict.maxEntries = c.maxEntries := by
      unfold Cache.evict
      rw [horder]
    refine tidy_put_of_not_mem htidy (fun hmem => ?_) ?_
    · obtain ⟨_, hlookup⟩ := Option.isSome_iff_exists.mp (AList.lookup_isSome.mpr hmem)
      exact hkey (AList.lookup_isSome.mp (Option.isSome_of_eq_some (lookup_evict hlookup)))
    · have := h.size
      omega
  · have hroom : c.len < c.maxEntries := Nat.lt_of_not_le hfull
    rw [store_of_room (.inr hroom)]
    exact tidy_put_of_not_mem h hkey hroom

theorem lookup_store_of_full {front other : CacheKey} {order : List CacheKey}
    (horder : c.order = front :: order) (hkey : key ∉ c.entries) (hfull : c.maxEntries ≤ c.len)
    (hother : other ≠ key) : (c.store key entry).entries.lookup other =
      if other = front then none else c.entries.lookup other := by
  have hevict : c.evict.entries = c.entries.erase front := by
    unfold Cache.evict
    rw [horder]
  rw [store_of_full hkey hfull, Cache.put, AList.lookup_insert_ne hother, hevict]
  split_ifs with h
  · rw [h, AList.lookup_erase]
  · rw [AList.lookup_erase_ne h]

theorem evictsOldest_iff {op : CacheOp} (h : Tidy c) (hmax : 1 ≤ c.maxEntries) :
    EvictsOldest latest c past op ↔ FrontOldest latest c past op := by
  refine forall_congr' fun hover => ?_
  obtain ⟨ha, hnew, hfull⟩ := hover
  obtain ⟨key, entry, hop⟩ : ∃ key entry, op.stored = some (key, entry) := by
    cases op with
    | insert => exact ⟨_, _, rfl⟩
    | get => exact ha.elim
    | flush => exact ha.elim
  have hkey : key ∉ c.entries := hnew key (by rw [hop]; rfl)
  obtain ⟨front, order, horder⟩ := exists_front h hmax hfull
  have hfront : front ∈ c.entries := (h.mem front).mp (by rw [horder]; exact List.mem_cons_self)
  have hne (other : CacheKey) (hother : op.stored.map Prod.fst ≠ some other) : other ≠ key := by
    rintro rfl
    exact hother (by rw [hop]; rfl)
  have hhead : c.order.head? = some front := by rw [horder, List.head?_cons]
  rw [perform_of_accepted ha hop, hhead]
  constructor
  · rintro ⟨oldest, hmem, hold, hlost⟩ _ ⟨⟩
    have hsome : op.stored.map Prod.fst ≠ some front := by
      rw [hop]
      rintro ⟨⟩
      exact hkey hfront
    have hlookup := hlost front hsome
    rw [lookup_store_of_full horder hkey hfull (hne front hsome), if_pos rfl] at hlookup
    by_cases heq : front = oldest
    · exact heq ▸ hold
    · rw [if_neg heq] at hlookup
      have := AList.lookup_isSome.mpr hfront
      rw [← hlookup] at this
      cases this
  · intro hold
    exact ⟨front, hfront, hold front rfl, fun other hother =>
      lookup_store_of_full horder hkey hfull (hne other hother)⟩

theorem tidy_perform_iff {op : CacheOp} (h : Tidy c) (hmax : 1 ≤ c.maxEntries) :
    Tidy (c.perform latest op) ↔ FindsFresh c op := by
  rcases perform_cases latest c op with ⟨key, entry, -, hop, hc⟩ | ⟨_, _, _, _, _, rfl, -, hc⟩ |
    ⟨name, recordType, now, rfl, hget⟩ | ⟨rfl, hc⟩
  · rw [hc]
    refine iff_of_true (tidy_store h hmax) ?_
    cases op with
    | get => cases hop
    | _ => trivial
  · rw [hc]
    exact iff_of_true h trivial
  · rcases hget with ⟨hc, hnone⟩ | ⟨entry, henabled, hentry, ⟨hle, hc⟩ | ⟨hlt, hc⟩⟩ <;> rw [hc]
    · refine iff_of_true (tidy_miss.mpr h) fun henabled entry hentry => ?_
      rcases hnone with hoff | hnone
      · cases henabled.symm.trans hoff
      · cases hnone.symm.trans hentry
    · have hmem : CacheKey.new name recordType ∈ c.entries :=
        AList.lookup_isSome.mp (Option.isSome_of_eq_some hentry)
      refine iff_of_false (fun h' => not_tidy_expire h hmem (tidy_miss.mp h')) fun hfresh => ?_
      exact Nat.not_lt_of_le hle (hfresh henabled entry hentry)
    · refine iff_of_true ⟨h.size, h.nodup, h.mem⟩ fun _ entry' hentry' => ?_
      obtain rfl : entry = entry' := Option.mem_unique hentry hentry'
      exact hlt
  · rw [hc]
    exact iff_of_true (tidy_flush c) trivial

end

/-- **The cache is bounded, first in, first out** exactly if lookups find nothing expired and the
oldest is at the front. -/
theorem tidy_iff (latest : Instant) (config : CacheConfig) (ops : List CacheOp) :
    (Tidy (.new config) ∧ Along (recorded (cacheStep latest))
        (fun s op => Tidy (s.1.perform latest op) ∧ EvictsOldest latest s.1 s.2 op)
        (.new config, []) ops) ↔
      Along (recorded (cacheStep latest))
        (fun s op => FindsFresh s.1 op ∧ FrontOldest latest s.1 s.2 op) (.new config, []) ops := by
  rw [and_iff_right (tidy_new config)]
  refine along_congr (I := fun s => Tidy s.1 ∧ 1 ≤ s.1.maxEntries) ?_ ?_
    ⟨tidy_new config, Nat.le_max_right ..⟩ (t := (Cache.after latest config ops, ops.reverse)) ?_
  · rintro ⟨c, past⟩ op _ ⟨h, hmax⟩ -
    exact and_congr (tidy_perform_iff h hmax) (evictsOldest_iff h hmax)
  · rintro ⟨c, past⟩ op _ ⟨-, hmax⟩ ⟨h, -⟩ ⟨⟩
    exact ⟨h, settings_perform.2.symm ▸ hmax⟩
  · exact run_recorded_after latest config ops

def address (ttl : Int64) : DnsRecord := ⟨"example.com.", .int 1, ttl, "192.0.2.1"⟩

def expiredLookup : List CacheOp :=
  [.insert "a." "A" 0 [address 1] 0, .get "a." "A" (fromSecs 1),
    .insert "b." "A" 0 [address 1] (fromSecs 1), .insert "c." "A" 0 [address 1] (fromSecs 1)]

/-- The first entry is renewed and evicted although the second is older. -/
def renewedInsert : List CacheOp :=
  [.insert "a." "A" 0 [address 60] 0, .insert "b." "A" 0 [address 60] 0,
    .insert "a." "A" 0 [address 60] 0, .insert "c." "A" 0 [address 60] 0]

theorem cache_overfull :
    (Cache.after (fromSecs 1000) ⟨true, 1⟩ (expiredLookup.take 2)).entries.keys = [] ∧
      (Cache.after (fromSecs 1000) ⟨true, 1⟩ (expiredLookup.take 2)).order = [.new "a." "A"] ∧
      (Cache.after (fromSecs 1000) ⟨true, 1⟩ expiredLookup).maxEntries = 1 ∧
      (Cache.after (fromSecs 1000) ⟨true, 1⟩ expiredLookup).len = 2 ∧
      insertedAt (fromSecs 1000) true (.new "b." "A") (renewedInsert.take 3).reverse <
        insertedAt (fromSecs 1000) true (.new "a." "A") (renewedInsert.take 3).reverse ∧
      (Cache.after (fromSecs 1000) ⟨true, 2⟩ (renewedInsert.take 3)).entries.keys =
        [.new "a." "A", .new "b." "A"] ∧
      (Cache.after (fromSecs 1000) ⟨true, 2⟩ renewedInsert).entries.keys =
        [.new "c." "A", .new "b." "A"] := by
  decide +kernel

end Penguind.Forwarder
