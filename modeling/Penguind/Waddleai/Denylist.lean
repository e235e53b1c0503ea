import Penguind.Waddleai.HookCommand

/-!
# The cached denylist

The module keeps the denylist last given by the server with the time of the sync. Adding the
stored seconds to the epoch panics if the clock cannot represent the result.
-/

namespace Penguind.Waddleai

open Foundation

/-- Nanoseconds since the epoch. -/
abbrev SystemTime := Int

/-- Nanoseconds. -/
abbrev Duration := Nat

def Duration.fromSecs (secs : UInt64) : Duration := secs.toNat * 1000000000

def unixEpoch : SystemTime := 0

def unixLatest : SystemTime := 2 ^ 63 * 1000000000 - 1

inductive Panic
  | timeOverflow
  deriving DecidableEq, Repr

def Panic.message : Panic → String
  | .timeOverflow => "overflow when adding duration to instant"

/-- Panics if the clock cannot represent the result. -/
def SystemTime.add (latest t : SystemTime) (d : Duration) : Except Panic SystemTime :=
  if t + d ≤ latest then .ok (t + d) else .error .timeOverflow

def SystemTime.durationSince (t earlier : SystemTime) : Option Duration :=
  if earlier ≤ t then some (t - earlier).toNat else none

/-! ## The cache -/

namespace DenylistCache

def empty : DenylistCache := ⟨"", [], none⟩

section

variable (latest : SystemTime) (cache : DenylistCache)

def syncedAt : Except Panic (Option SystemTime) :=
  match cache.syncedAtUnix with
  | none => .ok none
  | some secs => (SystemTime.add latest unixEpoch (.fromSecs secs)).map some

def age (now : SystemTime) : Except Panic (Option Duration) :=
  (cache.syncedAt latest).map fun synced => synced.bind now.durationSince

/-- Never synced, synced in the future, or too long ago. -/
def isStale (now : SystemTime) (maxAge : Duration) : Except Panic Bool :=
  (cache.age latest now).map fun
    | some age => maxAge < age
    | none => true

end

def recordSync (_cache : DenylistCache) (version : String) (entries : List String)
    (now : SystemTime) : DenylistCache where
  version := version
  entries := entries
  syncedAtUnix :=
    (now.durationSince unixEpoch).map fun d => UInt64.ofNat (d / 1000000000)

def optionalU64 : Value → Option (Option UInt64)
  | .null => some none
  | .int n => if 0 ≤ n ∧ n < 2 ^ 64 then some (some (UInt64.ofNat n.toNat)) else none
  | .bool _ | .float _ | .string _ | .array _ | .object _ => none

def texts (v : Value) : Option (List String) := v.asArray.bind (List.mapM Value.asStr)

/-- No field has to be there, and none may be repeated. -/
def decodeFields : List (String × Value) → Option String → Option (List String) →
    Option (Option UInt64) → Option DenylistCache
  | [], version, entries, syncedAt =>
    some ⟨version.getD "", entries.getD [], syncedAt.getD none⟩
  | (key, v) :: fields, version, entries, syncedAt =>
    if key = "version" then
      if version.isSome then none
      else v.asStr.bind fun text => decodeFields fields (some text) entries syncedAt
    else if key = "entries" then
      if entries.isSome then none
      else (texts v).bind fun entries => decodeFields fields version (some entries) syncedAt
    else if key = "synced_at_unix" then
      if syncedAt.isSome then none
      else (optionalU64 v).bind fun secs => decodeFields fields version entries (some secs)
    else decodeFields fields version entries syncedAt

/-- An array is taken for the fields in their order. -/
def decode : Value → Option DenylistCache
  | .object fields => decodeFields fields none none none
  | .array [] => some empty
  | .array [version] => do pure ⟨← version.asStr, [], none⟩
  | .array [version, entries] => do pure ⟨← version.asStr, ← texts entries, none⟩
  | .array [version, entries, secs] => do
    pure ⟨← version.asStr, ← texts entries, ← optionalU64 secs⟩
  | .array _ | .null | .bool _ | .int _ | .float _ | .string _ => none

inductive ReadOutcome
  | read (bytes : Bytes)
  | notFound
  | failed (message : String)

inductive LoadError
  | io (message : String)
  | invalidData (message : String)
  deriving DecidableEq, Repr

def load (J : JsonLib) : ReadOutcome → Except LoadError DenylistCache
  | .read [] => .ok empty
  | .read bytes =>
    match J.document bytes with
    | .error message => .error (.invalidData message)
    | .ok document =>
      match decode document with
      | some cache => .ok cache
      | none => .error (.invalidData (J.shapeError bytes))
  | .notFound => .ok empty
  | .failed message => .error (.io message)

end DenylistCache

def success (J : JsonLib) (asJson : Bool) (text : String) (value : Value) : CommandResult where
  output := if asJson then J.fromUtf8Lossy (J.toVecPretty value) else text
  json := J.toVec value
  exitCode := 0

def denylistStatus (J : JsonLib) (latest : SystemTime) (cache : DenylistCache)
    (maxAgeSecs : UInt64) (now : SystemTime) (asJson : Bool) : Except Panic CommandResult :=
  (cache.isStale latest now (.fromSecs maxAgeSecs)).map fun stale =>
    let syncedAt := (cache.syncedAtUnix.map fun secs => toString secs.toNat).getD "never"
    success J asJson
      ("entries: " ++ toString cache.entries.length ++ "\nlast_synced: " ++ syncedAt ++
        "\nstale: " ++ toString stale)
      (.object [("entries", .int cache.entries.length), ("version", .string cache.version),
        ("last_synced", .string syncedAt), ("stale", .bool stale)])

/-! ## The age of a file -/

section

variable {J : JsonLib} {latest : SystemTime} {cache : DenylistCache}

theorem isOk_map {ε A B : Type} (f : A → B) (x : Except ε A) : (x.map f).isOk = x.isOk := by
  cases x <;> rfl

theorem isOk_syncedAt : (cache.syncedAt latest).isOk = true ↔
    ∀ secs ∈ cache.syncedAtUnix, unixEpoch + Duration.fromSecs secs ≤ latest := by
  unfold DenylistCache.syncedAt
  cases cache.syncedAtUnix with
  | none => simp [Except.isOk, Except.toBool]
  | some secs =>
    rw [isOk_map, SystemTime.add]
    split_ifs with h <;> simp [Except.isOk, Except.toBool, h]

/-- **Age and status never panic** exactly if the clock can represent the time of the sync. -/
theorem reports_age_iff {file : DenylistCache.ReadOutcome}
    (_hload : DenylistCache.load J file = .ok cache) :
    (∀ now maxAgeSecs asJson, (cache.age latest now).isOk = true ∧
      (cache.isStale latest now (.fromSecs maxAgeSecs)).isOk = true ∧
      (denylistStatus J latest cache maxAgeSecs now asJson).isOk = true) ↔
      ∀ secs ∈ cache.syncedAtUnix, unixEpoch + Duration.fromSecs secs ≤ latest := by
  rw [← isOk_syncedAt]
  simp only [denylistStatus, DenylistCache.isStale, DenylistCache.age, isOk_map, and_self]
  exact ⟨fun h => h 0 0 true, fun h _ _ _ => h⟩

def syncedLib (secs : Int) : JsonLib where
  fromStr _ := .error "expected value"
  fromSlice _ := .error "expected value"
  document _ := .ok (.object [("entries", .array [.string "rm -rf /"]),
    ("synced_at_unix", .int secs)])
  shapeError _ := "invalid type"
  toText _ := ""
  toVec _ := []
  toVecPretty _ := []
  fromUtf8Lossy _ := ""

theorem recent_sync_reports_age :
    let cache : DenylistCache := ⟨"", ["rm -rf /"], some 1700000000⟩
    ∀ now maxAgeSecs asJson, (cache.age unixLatest now).isOk = true ∧
      (cache.isStale unixLatest now (.fromSecs maxAgeSecs)).isOk = true ∧
      (denylistStatus (syncedLib 1700000000) unixLatest cache maxAgeSecs now asJson).isOk =
        true := by
  intro cache
  have hload : DenylistCache.load (syncedLib 1700000000) (.read [123]) = .ok cache := by rfl
  refine (reports_age_iff hload).mpr ?_
  rintro secs ⟨⟩
  decide

/-- **One number stops every report**: a sync in the second `2 ^ 63`. -/
theorem far_sync_panics :
    let cache : DenylistCache := ⟨"", ["rm -rf /"], some 9223372036854775808⟩
    DenylistCache.load (syncedLib (2 ^ 63)) (.read [123]) = .ok cache ∧
      ∀ now maxAgeSecs asJson,
        denylistStatus (syncedLib (2 ^ 63)) unixLatest cache maxAgeSecs now asJson =
          .error .timeOverflow := by
  refine ⟨by rfl, fun now maxAgeSecs asJson => ?_⟩
  have hadd : SystemTime.add unixLatest unixEpoch (.fromSecs 9223372036854775808) =
      .error .timeOverflow := if_neg (by decide)
  simp only [denylistStatus, DenylistCache.isStale, DenylistCache.age, DenylistCache.syncedAt, hadd,
    Except.map]

end

/-! ## The denylist in place of a decision -/

def Listed (cache : DenylistCache) (payload : Value) : Prop :=
  ∃ subject ∈ (payload.get "subject").bind Value.asStr, subject ∈ cache.entries

theorem not_listed_empty {payload : Value} : ¬ Listed .empty payload := by
  rintro ⟨subject, -, h⟩
  cases h

section

variable {J : JsonLib} {server : ApiRequest → Exchange} {m : WaddleAiModule} {payload : Value}

theorem offlineOutcome_eq [Decidable (Listed m.denylist payload)] :
    m.offlineOutcome payload =
      if Listed m.denylist payload then
        .deny "subject matches the cached Tier-1 denylist" .cachedDenylist
      else
        .unavailable "WaddleAI is unreachable and the subject is not on the cached denylist" := by
  unfold WaddleAiModule.offlineOutcome
  cases hsubject : (payload.get "subject").bind Value.asStr with
  | none => simp [Listed, hsubject]
  | some subject =>
    have hcontains : m.denylist.contains subject = true ↔ Listed m.denylist payload := by
      simp [DenylistCache.contains, Listed, hsubject]
    simp only [hcontains]

theorem outcome_of_error {ecosystem : Ecosystem} {event : String} {error : WaddleAiError}
    (h : execute J EvaluateResponse.decode (server (hookRequest m ecosystem event payload)) =
      .error error) :
    (m.evaluateHookEvent J server ecosystem event payload).1 = m.offlineOutcome payload := by
  unfold hookRequest at h
  unfold WaddleAiModule.evaluateHookEvent WaddleAiModule.call
  simp only [h]
  rfl

/-- **A stale denylist counts as empty** exactly if it is not stale or does not list the subject. -/
theorem offline_iff {ecosystem : Ecosystem} {event : String} {error : WaddleAiError}
    {latest now : SystemTime} {maxAge : Duration}
    (h : execute J EvaluateResponse.decode (server (hookRequest m ecosystem event payload)) =
      .error error) :
    ((m.denylist.isStale latest now maxAge = .ok true →
        (m.evaluateHookEvent J server ecosystem event payload).1 =
          (WaddleAiModule.evaluateHookEvent J server { m with denylist := .empty } ecosystem event
            payload).1) ∧
      (m.denylist.isStale latest now maxAge = .ok false →
        ((∃ reason source,
            (m.evaluateHookEvent J server ecosystem event payload).1 = .deny reason source) ↔
          Listed m.denylist payload))) ↔
      (m.denylist.isStale latest now maxAge = .ok true → ¬ Listed m.denylist payload) := by
  classical
  have hempty := outcome_of_error (m := { m with denylist := .empty }) h
  rw [outcome_of_error h, hempty, offlineOutcome_eq, offlineOutcome_eq,
    if_neg not_listed_empty]
  by_cases hlisted : Listed m.denylist payload <;> simp [hlisted]

end

def neverSynced : WaddleAiModule where
  client := ⟨"https://waddleai", "key"⟩
  denylist := ⟨"", ["rm -rf /"], none⟩
  metrics := ⟨[], [], 0, 0, 0⟩
  exchanges := []

theorem unlisted_offline :
    neverSynced.denylist.isStale unixLatest 0 0 = .ok true ∧
      ¬ Listed neverSynced.denylist (.object []) :=
  ⟨rfl, (@offline_iff (syncedLib 0) (fun _ => .failed "refused") neverSynced (.object []) .claude
    "pre-tool-use" _ unixLatest 0 0 rfl).mp ⟨fun _ => rfl, fun h => nomatch h⟩ rfl⟩

/-- **A stale denylist denies** a subject. -/
theorem stale_denylist_denies :
    neverSynced.denylist.isStale unixLatest 0 0 = .ok true ∧
      (neverSynced.evaluateHookEvent (syncedLib 0) (fun _ => .failed "refused") .claude
          "pre-tool-use" (.object [("subject", .string "rm -rf /")])).1 =
        .deny "subject matches the cached Tier-1 denylist" .cachedDenylist ∧
      (WaddleAiModule.evaluateHookEvent (syncedLib 0) (fun _ => .failed "refused")
          { neverSynced with denylist := .empty } .claude "pre-tool-use"
          (.object [("subject", .string "rm -rf /")])).1 =
        .unavailable "WaddleAI is unreachable and the subject is not on the cached denylist" :=
  ⟨rfl, rfl, rfl⟩

end Penguind.Waddleai
