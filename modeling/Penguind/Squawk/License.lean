import Penguind.Cli.Timestamp
import Penguind.Foundation.Run

/-!
# The license validator

An earlier answer of the license server stands in for a new one on the same day, while it is
younger than the cache time, or while the server cannot be reached and it is not too old. Times
are nanoseconds since 1970.
-/

namespace Penguind.Squawk.License

open Foundation Cli

structure ValidationResponse where
  valid : Bool
  message : String
  deriving DecidableEq

inductive LicenseError
  | noCredentials
  | unreachable (err : String)
  | decode (err : String)
  deriving DecidableEq

structure LicenseConfig where
  serverUrl : String
  licenseKey : String
  userToken : String
  validateOnline : Bool
  cacheTime : Int

structure CacheEntry where
  valid : Bool
  message : String
  validatedAt : Int
  expiresAt : Int
  deriving DecidableEq

/-- With the number of readings of the clock. -/
structure State where
  cache : Option CacheEntry := none
  validatedToday : Option Date := none
  reads : Nat := 0
  deriving DecidableEq

structure Request where
  url : String
  authorization : Option String
  licenseKey : Option String
  deriving DecidableEq

/-- Without a result it panics; a request comes with the last time read. -/
structure Outcome (α : Type) where
  result : Option (Except LicenseError α)
  state : State
  sent : Option (Request × Int) := none
  decoded : Option ValidationResponse := none

structure Validator extends LicenseConfig where
  read : Nat → Int
  mono {i j : Nat} : i ≤ j → read i ≤ read j

abbrev Reply := Except LicenseError ValidationResponse

def fallbackFreshness : Nat := 24 * 3600 * 1000000000

def durationMax : Nat := 2 ^ 64 * 1000000000 - 1

def systemTimeMax : Int := 2 ^ 63 * 1000000000 - 1

def cacheTimeDuration (cacheTimeMinutes : Int) : Nat :=
  cacheTimeMinutes.toNat * 60 % 2 ^ 64 * 1000000000

/-- The date stands for its text. -/
def todayString (now : Int) : Date :=
  License.civilFromDays (now.toNat / 1000000000 / 86400 : Nat)

def CacheEntry.response (entry : CacheEntry) : ValidationResponse :=
  ⟨entry.valid, entry.message⟩

def State.tick (s : State) : State := { s with reads := s.reads + 1 }

variable (v : Validator)

def cacheValidation (s : State) (parsed : ValidationResponse) : Option State :=
  let now := v.read s.reads
  let expiresAt := now + cacheTimeDuration v.cacheTime
  -- the sum is made before anything is stored
  if systemTimeMax < expiresAt then none
  else
    some {
      cache := some ⟨parsed.valid, parsed.message, now, expiresAt⟩
      validatedToday := some (todayString (v.read (s.reads + 1)))
      reads := s.reads + 2 }

def todayCachedResult (s : State) (today : Date) : Option ValidationResponse :=
  if s.validatedToday ≠ some today then none else s.cache.map CacheEntry.response

def durationSince (later earlier : Int) : Option Nat :=
  if earlier ≤ later then some (later - earlier).toNat else none

def freshOfflineResult (s : State) : Option ValidationResponse × State :=
  match s.cache with
  | none => (none, s)
  | some entry =>
    let age := (durationSince (v.read s.reads) entry.validatedAt).getD durationMax
    (if cacheTimeDuration v.cacheTime ≤ age then none else some entry.response, s.tick)

def hasRecentValidCache (s : State) : Bool × State :=
  match s.cache with
  | none => (false, s)
  | some entry =>
    if ¬ entry.valid then (false, s)
    else
      let now := v.read s.reads
      let recent := (durationSince now entry.validatedAt).all (· < fallbackFreshness)
      (recent || now < entry.expiresAt, s.tick)

/-- `validate_license_key` and `validate_user_token` differ in the request. -/
def validateWith (s : State) (request : Request)
    (reply : Reply) : Outcome ValidationResponse :=
  let sent := some (request, v.read (s.reads - 1))
  match reply with
  | .error err => { result := some (.error err), state := s, sent }
  | .ok parsed =>
    match cacheValidation v s parsed with
    | none => { result := none, state := s.tick, sent, decoded := some parsed }
    | some t => { result := some (.ok parsed), state := t, sent, decoded := some parsed }

def validateLicense (s : State) (reply : Reply) :
    Outcome ValidationResponse :=
  let today := todayString (v.read s.reads)
  let s := s.tick
  match todayCachedResult s today with
  | some cached => { result := some (.ok cached), state := s }
  | none =>
    match if v.validateOnline then (none, s) else freshOfflineResult v s with
    | (some cached, s) => { result := some (.ok cached), state := s }
    | (none, s) =>
      if v.userToken ≠ "" then
        validateWith v s ⟨v.serverUrl ++ "/api/validate_token",
          some ("Bearer " ++ v.userToken), none⟩ reply
      else if v.licenseKey ≠ "" then
        validateWith v s ⟨v.serverUrl ++ "/api/validate", none,
          some v.licenseKey⟩ reply
      else { result := some (.error .noCredentials), state := s }

def isValid (s : State) (reply : Reply) : Outcome Bool :=
  let today := todayString (v.read s.reads)
  if (todayCachedResult s.tick today).any (·.valid) then
    { result := some (.ok true), state := s.tick }
  else
    let o := validateLicense v s.tick reply
    match o.result with
    | none => { o with result := none }
    | some (.ok response) => { o with result := some (.ok response.valid) }
    | some (.error err) =>
      let (recent, state) := hasRecentValidCache v o.state
      { o with result := some (if recent then .ok true else .error err), state }

def clearCache (s : State) : State := { s with cache := none, validatedToday := none }

inductive Action
  | isValid (reply : Reply)
  | validateLicense (reply : Reply)
  | clearCache

/-! ## What is right -/

structure Answer where
  valid : Bool
  recorded : Int

def utcDay (t : Int) : Int := t / 86400000000000

def window : Int := max fallbackFreshness (v.cacheTime * 60000000000)

section Outcome

variable {α : Type} (o : Outcome α) (last : Option Answer)

def Outcome.now : Int := v.read (o.state.reads - 1)

def Outcome.answer : Option Answer :=
  (o.decoded.map fun r => ⟨r.valid, o.now v⟩).or last

structure Outcome.Right (valid : α → Bool) : Prop where
  justified (x : α) : o.result = some (.ok x) → valid x → ∃ a, o.answer v last = some a ∧
    a.valid ∧ (o.decoded.isSome ∨ utcDay a.recorded = utcDay (o.now v) ∨
      o.now v - a.recorded < window v)
  silent (r : Request) (t : Int) : o.sent = some (r, t) →
    ∀ a, last = some a → utcDay a.recorded ≠ utcDay t

end Outcome

def step (s : State × Option Answer) : Action → State × Option Answer
  | .isValid reply =>
    let o := isValid v s.1 reply
    (o.state, o.answer v s.2)
  | .validateLicense reply =>
    let o := validateLicense v s.1 reply
    (o.state, o.answer v s.2)
  | .clearCache => (clearCache s.1, none)

def Right (s : State × Option Answer) : Action → Prop
  | .isValid reply => (isValid v s.1 reply).Right v s.2 id
  | .validateLicense reply =>
    (validateLicense v s.1 reply).Right v s.2 (·.valid)
  | .clearCache => True

/-- No time is before 1970 or so late that an answer's expiry is out of range. -/
def Fits : Prop := ∀ n, 0 ≤ v.read n ∧
  v.read n + cacheTimeDuration v.cacheTime ≤ systemTimeMax

/-- The cache holds the last decoded answer. -/
inductive Agrees (s : State) : Option Answer → Prop
  | nothing : s.cache = none → Agrees s none
  | answer {a : Answer} {entry : CacheEntry} (i : Nat) : s.cache = some entry →
      entry.valid = a.valid → entry.validatedAt ≤ a.recorded →
      entry.expiresAt = entry.validatedAt + cacheTimeDuration v.cacheTime →
      s.validatedToday = some (todayString a.recorded) → i < s.reads → v.read i = a.recorded →
      Agrees s (some a)

/-- The cache holds the last decoded answer after the call. -/
structure Outcome.Sound {α : Type} (o : Outcome α) (last : Option Answer) (valid : α → Bool) : Prop
    extends o.Right v last valid where
  agrees : Agrees v o.state (o.answer v last)
  undecoded (err : LicenseError) : o.result = some (.error err) → o.decoded = none

variable {v : Validator} {s : State} {last : Option Answer} {a : Answer}

theorem todayString_eq_iff {t u : Int} (ht : 0 ≤ t) (hu : 0 ≤ u) :
    todayString t = todayString u ↔ utcDay t = utcDay u := by
  simp only [todayString, utcDay]
  constructor
  · intro h
    have hdays := congrArg Date.dayNumber h
    simp only [license_civilFromDays_eq, civilFromDays_right] at hdays
    omega
  · intro h
    congr 2
    omega

theorem utcDay_mono {t u : Int} (h : t ≤ u) : utcDay t ≤ utcDay u :=
  Int.ediv_le_ediv (by decide) h

theorem duration_le (v : Validator) : (cacheTimeDuration v.cacheTime : Int) ≤ window v := by
  have hmod := Nat.mod_le (v.cacheTime.toNat * 60) (2 ^ 64)
  rw [cacheTimeDuration, window, fallbackFreshness]
  omega

namespace Agrees

variable (h : Agrees v s last)
include h

theorem later {t : State} (hcache : t.cache = s.cache)
    (htoday : t.validatedToday = s.validatedToday) (hreads : s.reads ≤ t.reads) :
    Agrees v t last := by
  cases h with
  | nothing hnone => exact .nothing (hcache.trans hnone)
  | answer i hentry hvalid hat hexpires hday hi hread =>
    exact .answer i (hcache.trans hentry) hvalid hat hexpires (htoday.trans hday)
      (hi.trans_le hreads) hread

theorem tick : Agrees v s.tick last := h.later rfl rfl (Nat.le_succ _)

theorem today (hfits : Fits v) :
    (todayCachedResult s.tick (todayString (v.read s.reads)) = none ∧
      ∀ a, last = some a → utcDay a.recorded < utcDay (v.read s.reads)) ∨
    ∃ a r, last = some a ∧ todayCachedResult s.tick (todayString (v.read s.reads)) = some r ∧
      r.valid = a.valid ∧ utcDay a.recorded = utcDay (v.read s.reads) := by
  cases h with
  | nothing hnone => simp [todayCachedResult, State.tick, hnone]
  | @answer a entry i hentry hvalid hat hexpires hday hi hread =>
    have hdate := todayString_eq_iff (hread ▸ (hfits i).1) (hfits s.reads).1
    have hdays : utcDay a.recorded ≤ utcDay (v.read s.reads) := utcDay_mono (hread ▸ v.mono hi.le)
    rw [todayCachedResult, State.tick, hday, hentry]
    by_cases hsame : utcDay a.recorded = utcDay (v.read s.reads)
    · exact .inr ⟨a, entry.response, rfl, by simp [hdate.mpr hsame], hvalid, hsame⟩
    · refine .inl ⟨by simp [hdate, hsame], ?_⟩
      rintro _ ⟨⟩
      exact lt_of_le_of_ne hdays hsame

theorem offline : Agrees v (freshOfflineResult v s).2 last ∧
    s.reads ≤ (freshOfflineResult v s).2.reads ∧
    ∀ r, (freshOfflineResult v s).1 = some r → ∃ a, last = some a ∧ r.valid = a.valid ∧
      v.read ((freshOfflineResult v s).2.reads - 1) - a.recorded < window v := by
  have htick := h.tick
  cases h with
  | nothing hnone => simpa [freshOfflineResult, hnone] using .nothing hnone
  | @answer a entry i hentry hvalid hat hexpires hday hi hread =>
    have hnow : a.recorded ≤ v.read s.reads := hread ▸ v.mono hi.le
    have hwindow := duration_le v
    simp only [freshOfflineResult, hentry, durationSince, if_pos (hat.trans hnow), Option.getD_some]
    refine ⟨htick, Nat.le_succ _, fun r hr => ?_⟩
    split_ifs at hr with hage
    obtain rfl := Option.some.inj hr
    refine ⟨a, rfl, hvalid, ?_⟩
    simp only [State.tick, Nat.add_sub_cancel]
    omega

theorem recent : Agrees v (hasRecentValidCache v s).2 last ∧
    ((hasRecentValidCache v s).1 = true → ∃ a, last = some a ∧ a.valid ∧
      v.read ((hasRecentValidCache v s).2.reads - 1) - a.recorded < window v) := by
  have htick := h.tick
  have hself := h
  cases h with
  | nothing hnone => simpa [hasRecentValidCache, hnone] using .nothing hnone
  | @answer a entry i hentry hvalid hat hexpires hday hi hread =>
    have hnow : a.recorded ≤ v.read s.reads := hread ▸ v.mono hi.le
    have hwindow := duration_le v
    have hfallback : (fallbackFreshness : Int) ≤ window v := le_max_left ..
    by_cases hbad : entry.valid = true
    · simp only [hasRecentValidCache, hentry, hbad, durationSince, if_pos (hat.trans hnow)]
      refine ⟨htick, fun hrecent => ⟨a, rfl, hvalid ▸ hbad, ?_⟩⟩
      simp only [not_true, if_false, Option.all_some, Bool.or_eq_true, decide_eq_true_eq] at hrecent
      simp only [not_true, if_false, State.tick, Nat.add_sub_cancel]
      omega
    · simpa [hasRecentValidCache, hentry, hbad] using hself

theorem validateWith (hfits : Fits v) (request : Request)
    (hday : ∀ a, last = some a → utcDay a.recorded < utcDay (v.read (s.reads - 1)))
    (reply : Reply) : (validateWith v s request reply).Sound v last (·.valid) := by
  have hsilent (r : Request) (t : Int) (hsent : some (request, v.read (s.reads - 1)) = some (r, t))
      (a : Answer) (ha : last = some a) : utcDay a.recorded ≠ utcDay t := by
    cases hsent
    exact (hday a ha).ne
  cases reply with
  | error err => exact ⟨⟨fun x hx => (by cases hx), hsilent⟩, h, fun _ _ => rfl⟩
  | ok parsed =>
    have hroom := (hfits s.reads).2
    simp only [License.validateWith, cacheValidation, if_neg hroom.not_gt]
    refine ⟨⟨fun x hx hvalid => ⟨_, rfl, ?_, .inl rfl⟩, hsilent⟩, .answer (s.reads + 1) rfl rfl
      (v.mono (Nat.le_succ _)) rfl rfl (Nat.lt_succ_self _) rfl, fun err herr => (by cases herr)⟩
    cases hx
    exact hvalid

theorem cached {α : Type} {valid : α → Bool} {x : α} (ha : last = some a)
    (hvalid : valid x → a.valid) (htime : utcDay a.recorded = utcDay (v.read (s.reads - 1)) ∨
      v.read (s.reads - 1) - a.recorded < window v) :
    Outcome.Sound v { result := some (.ok x), state := s } last valid := by
  refine ⟨⟨fun y hy hy' => ⟨a, ha, ?_, .inr htime⟩, fun _ _ hsent => (by cases hsent)⟩, h,
    fun _ _ => rfl⟩
  cases hy
  exact hvalid hy'

theorem validateLicense (hfits : Fits v) (reply : Reply) :
    (validateLicense v s reply).Sound v last (·.valid) := by
  have htick := h.tick
  rw [License.validateLicense]
  obtain ⟨htoday, hday⟩ | ⟨a, r, ha, htoday, hvalid, hday⟩ := h.today hfits
  · have hlookup : ∃ lookup, (if v.validateOnline then (none, s.tick)
        else freshOfflineResult v s.tick) = lookup ∧
        Agrees v lookup.2 last ∧ s.tick.reads ≤ lookup.2.reads ∧
        ∀ r, lookup.1 = some r → ∃ a, last = some a ∧ r.valid = a.valid ∧
          v.read (lookup.2.reads - 1) - a.recorded < window v := by
      refine ⟨_, rfl, ?_⟩
      split_ifs
      · exact ⟨htick, le_rfl, fun r hr => (by cases hr)⟩
      · exact htick.offline
    obtain ⟨⟨found, t⟩, hlookup, hagrees, hreads, hfound⟩ := hlookup
    simp only [htoday, hlookup]
    cases found with
    | some r =>
      obtain ⟨a, ha, hvalid, hage⟩ := hfound r rfl
      exact hagrees.cached ha (hvalid ▸ id) (.inr hage)
    | none =>
      have hlater (a : Answer) (ha : last = some a) :
          utcDay a.recorded < utcDay (v.read (t.reads - 1)) :=
        (hday a ha).trans_le (utcDay_mono (v.mono (Nat.le_sub_one_of_lt hreads)))
      dsimp only
      split_ifs
      · exact hagrees.validateWith hfits _ hlater reply
      · exact hagrees.validateWith hfits _ hlater reply
      · exact ⟨⟨fun x hx => (by cases hx), fun _ _ hsent => (by cases hsent)⟩, hagrees,
          fun _ _ => rfl⟩
  · simp only [htoday]
    exact htick.cached ha (hvalid ▸ id) (.inl hday)

theorem isValid (hfits : Fits v) (reply : Reply) : (isValid v s reply).Sound v last id := by
  have htick := h.tick
  have hvalidate := htick.validateLicense hfits reply
  rw [License.isValid]
  split_ifs with hcached
  · obtain ⟨htoday, -⟩ | ⟨a, r, ha, htoday, hvalid, hday⟩ := h.today hfits
    · simp [htoday] at hcached
    · rw [htoday] at hcached
      exact htick.cached ha (fun _ => hvalid ▸ hcached) (.inl hday)
  · generalize License.validateLicense v s.tick reply = o at hvalidate ⊢
    obtain ⟨_ | err | response, state, sent, decoded⟩ := o
    · exact ⟨⟨fun x hx => (by cases hx), hvalidate.silent⟩, hvalidate.agrees,
        fun _ herr => (by cases herr)⟩
    · obtain rfl : decoded = none := hvalidate.undecoded _ rfl
      obtain ⟨hagrees, hwindow⟩ := hvalidate.agrees.recent
      refine ⟨⟨fun x hx hvalid => ?_, hvalidate.silent⟩, hagrees, fun _ _ => rfl⟩
      by_cases hrecent : (hasRecentValidCache v state).1 = true
      · obtain ⟨a, ha, hvalid, hage⟩ := hwindow hrecent
        exact ⟨a, ha, hvalid, .inr (.inr hage)⟩
      · simp [hrecent] at hx
    · refine ⟨⟨fun x hx hvalid => hvalidate.justified response rfl ?_, hvalidate.silent⟩,
        hvalidate.agrees, fun _ herr => (by cases herr)⟩
      cases hx
      exact hvalid

end Agrees

/-- **Every call is right.** -/
theorem calls_right (hfits : Fits v) (actions : List Action) :
    Along (fun s a => some (step v s a)) (Right v) ({}, none) actions := by
  refine along_of_invariant (I := fun s => Agrees v s.1 s.2) ?_ ?_ (.nothing rfl)
    (along_true _ _)
  · rintro s a _ hs - ⟨⟩
    cases a with
    | isValid reply => exact (hs.isValid hfits reply).agrees
    | validateLicense reply => exact (hs.validateLicense hfits reply).agrees
    | clearCache => exact .nothing rfl
  · rintro s a hs -
    cases a with
    | isValid reply => exact (hs.isValid hfits reply).toRight
    | validateLicense reply => exact (hs.validateLicense hfits reply).toRight
    | clearCache => trivial

def sample (read : Nat → Int) (mono : ∀ {i j : Nat}, i ≤ j → read i ≤ read j) : Validator :=
  ⟨⟨"https://license.squawkdns.com", "", "token", true, 1440⟩, read, mono⟩

def atEpoch : Validator := sample (fun _ => 0) fun _ => le_rfl

theorem calls_right_at_epoch :
    Along (fun s a => some (step atEpoch s a)) (Right atEpoch) ({}, none)
      [.validateLicense (.ok ⟨true, ""⟩), .isValid (.error (.unreachable "timeout"))] :=
  calls_right (fun _ => ⟨le_rfl, by change (0 : Int) + cacheTimeDuration 1440 ≤ _; decide⟩) _

def early : Validator :=
  sample (fun n => if n < 3 then -1728000000000000 else -86400000000000) <| by
    intro m n h
    split_ifs <;> omega

/-- **All days before 1970 are one.** -/
theorem stale_answer_before_epoch :
    ¬ Along (fun s a => some (step early s a)) (Right early) ({}, none)
      [.validateLicense (.ok ⟨true, ""⟩), .isValid (.error (.unreachable "timeout"))] := by
  rintro ⟨-, hright, -⟩
  obtain ⟨a, ha, -, htime⟩ := hright.justified true rfl rfl
  cases ha
  revert htime
  decide

end Penguind.Squawk.License
