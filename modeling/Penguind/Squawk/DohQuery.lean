import Mathlib.Algebra.Group.Nat.Defs
import Penguind.Foundation.Run
import Penguind.Squawk.DohClient

/-!
# Queries over several DoH servers

A query is tried on one server after the other, by a counter that all queries share: an attempt
reads it, and a failed attempt advances it. So two queries that fail in step can each come back to
one server.
-/

namespace Penguind.Squawk

open Foundation

def validRecordTypes : List String :=
  ["A", "AAAA", "CNAME", "MX", "TXT", "NS", "SOA", "PTR", "SRV", "CAA", "DNSKEY", "DS", "NAPTR",
    "SSHFP", "TLSA", "ANY"]

def asciiUpper (s : String) : String := String.ofList (s.toList.map Char.toUpper)

def debugList (texts : List String) : String :=
  "[" ++ ", ".intercalate (texts.map fun t => "\"" ++ t ++ "\"") ++ "]"

def validateRecordType (recordType : String) : Except String Unit :=
  if recordType ∈ validRecordTypes then .ok ()
  else
    .error ("invalid DNS record type '" ++ recordType ++ "': must be one of " ++
      debugList validRecordTypes)

def normalizeRecordType (recordType : String) : Except DohError String :=
  let upper := asciiUpper (if recordType = "" then "A" else recordType)
  match validateRecordType upper with
  | .error message => .error (.invalidRecordType message)
  | .ok () => .ok upper

def invalidNameChars : List Char := " !@#$%^&*()+=\x7b\x7d[]|\\:;\"'<>,?/`~".toList

def isValidLabel (label : List Char) : Bool :=
  match label.head?, label.getLast? with
  | some first, some last =>
    first.isAlphanum && last.isAlphanum && label.all fun c => c.isAlphanum || c == '-'
  | _, _ => false

def validateLabel (lastIndex index : Nat) (label : List Char) : Except String Unit :=
  let text := String.ofList label
  if label = [] then .error ("DNS name contains empty label at position " ++ toString index)
  else if 63 < text.utf8ByteSize then
    .error ("DNS label '" ++ text ++ "' too long: " ++ toString text.utf8ByteSize ++
      " characters (max 63)")
  -- names under `arpa` and internationalised labels are not looked at further
  else if index = lastIndex ∧ text = "arpa" then .ok ()
  else if "xn--".toList <+: label then .ok ()
  else if ¬ isValidLabel label then
    .error ("invalid DNS label '" ++ text ++ "': must start/end with alphanumeric and contain " ++
      "only letters, digits, and hyphens")
  else if "--".toList <:+: label then
    .error ("invalid DNS label '" ++ text ++ "': contains consecutive hyphens")
  else .ok ()

def validateLabels (lastIndex : Nat) : Nat → List (List Char) → Except String Unit
  | _, [] => .ok ()
  | index, label :: rest => do
    validateLabel lastIndex index label
    validateLabels lastIndex (index + 1) rest

def validateDnsName (domain : String) : Except String Unit :=
  if domain = "" then .error "DNS name cannot be empty"
  else if 253 < domain.utf8ByteSize then
    .error ("DNS name too long: " ++ toString domain.utf8ByteSize ++ " characters (max 253)")
  else
    let trimmed :=
      if domain.toList.getLast? = some '.' then domain.toList.dropLast else domain.toList
    if trimmed.any (· ∈ invalidNameChars) then .error "DNS name contains invalid characters"
    else
      let labels := trimmed.splitOn '.'
      validateLabels (labels.length - 1) 0 labels

def DohClient.serverAt (client : DohClient) (index : UInt64) : Option String :=
  client.serverUrls[index.toNat % client.serverUrls.length]?

/-- A failed attempt is noted before it advances the counter. -/
inductive QueryPhase (Response : Type)
  | ready
  | trying (serverUrl : String)
  | failed
  | waiting
  | finished (result : Except DohError Response)

structure Query (Response : Type) where
  attempt : Nat
  errors : List (String × String)
  phase : QueryPhase Response
  /-- The position of the counter at the first attempt. -/
  first : UInt64
  /-- How often other queries have advanced the counter since the first attempt. -/
  foreign : Nat
  /-- The same at each attempt. -/
  passed : List Nat

structure Resolving (Response : Type) where
  currentIndex : UInt64
  queries : List (Query Response)

inductive QueryLabel (Response : Type)
  | start (domain recordType : String)
  | load (i : Nat)
  | answer (i : Nat) (outcome : Except String Response)
  | advance (i : Nat)
  | retry (i : Nat)
  | cancel (i : Nat)

section Machine

variable {Response : Type} (client : DohClient)

def renderErrors (errors : List (String × String)) : List String :=
  errors.map fun e => e.1 ++ ": " ++ e.2

namespace Query

def exhausted (errors : List (String × String)) : QueryPhase Response :=
  .finished (.error (.allServersFailed client.maxRetries (renderErrors errors)))

def start (domain recordType : String) : Query Response where
  attempt := 0
  errors := []
  phase :=
    match normalizeRecordType recordType with
    | .error err => .finished (.error err)
    | .ok _ =>
      match validateDnsName domain with
      | .error message => .finished (.error (.invalidName message))
      | .ok () => if 0 < client.maxRetries then .ready else exhausted client []
  first := 0
  foreign := 0
  passed := []

def load (currentIndex : UInt64) (q : Query Response) : Option (Query Response) :=
  match q.phase with
  | .ready =>
    -- the shared counter decides, not a position of the query itself
    (client.serverAt currentIndex).map fun serverUrl =>
      if q.passed = [] then
        { q with phase := .trying serverUrl, first := currentIndex, foreign := 0, passed := [0] }
      else { q with phase := .trying serverUrl, passed := q.passed ++ [q.foreign] }
  | .trying _ | .failed | .waiting | .finished _ => none

def answer (outcome : Except String Response) (q : Query Response) : Option (Query Response) :=
  match q.phase with
  | .trying serverUrl =>
    match outcome with
    | .ok response => some { q with phase := .finished (.ok response) }
    | .error message =>
      some { q with phase := .failed, errors := q.errors ++ [(serverUrl, message)] }
  | .ready | .failed | .waiting | .finished _ => none

def advance (q : Query Response) : Option (Query Response) :=
  match q.phase with
  | .failed =>
    if q.attempt + 1 < client.maxRetries then some { q with phase := .waiting }
    else some { q with phase := exhausted client q.errors }
  | .ready | .trying _ | .waiting | .finished _ => none

def retry (q : Query Response) : Option (Query Response) :=
  match q.phase with
  | .waiting => some { q with attempt := q.attempt + 1, phase := .ready }
  | .ready | .trying _ | .failed | .finished _ => none

def cancel (q : Query Response) : Option (Query Response) :=
  match q.phase with
  | .waiting => some { q with phase := .finished (.error .cancelled) }
  | .ready | .trying _ | .failed | .finished _ => none

def overtaken (q : Query Response) : Query Response := { q with foreign := q.foreign + 1 }

def tried (q : Query Response) : List String :=
  q.errors.map Prod.fst ++
    match q.phase with
    | .trying serverUrl => [serverUrl]
    | .ready | .failed | .waiting | .finished _ => []

def ReportsFailure (q : Query Response) : Prop :=
  ∃ attempts errors, q.phase = .finished (.error (.allServersFailed attempts errors))

instance (q : Query Response) : Decidable q.ReportsFailure :=
  match h : q.phase with
  | .finished (.error (.allServersFailed attempts errors)) => .isTrue ⟨attempts, errors, h⟩
  | .finished (.error .noServerUrls) | .finished (.error (.invalidServerUrl _ _))
  | .finished (.error (.invalidName _)) | .finished (.error (.invalidRecordType _))
  | .finished (.error (.httpSetup _)) | .finished (.error .cancelled) | .finished (.ok _)
  | .ready | .trying _ | .failed | .waiting => .isFalse (by simp [ReportsFailure, h])

/-- An attempt meets the server: its position, its failures and those of others lead there. -/
def Meets (q : Query Response) (serverUrl : String) : Prop :=
  ∃ j k, q.passed[j]? = some k ∧ client.serverAt (q.first + UInt64.ofNat (j + k)) = some serverUrl

end Query

namespace Resolving

def update (s : Resolving Response) (i : Nat) (f : Query Response → Option (Query Response)) :
    Option (Resolving Response) := do
  let q ← s.queries[i]?
  let q' ← f q
  return { s with queries := s.queries.set i q' }

def step (s : Resolving Response) : QueryLabel Response → Option (Resolving Response)
  | .start domain recordType =>
    some { s with queries := s.queries ++ [Query.start client domain recordType] }
  | .load i => s.update i (Query.load client s.currentIndex)
  | .answer i outcome => s.update i (Query.answer outcome)
  | .advance i => do
    let q ← s.queries[i]?
    let q' ← q.advance client
    -- one counter for all queries: for every other one its next server moves
    return { currentIndex := s.currentIndex + 1
             queries := (s.queries.map Query.overtaken).set i q' }
  | .retry i => s.update i Query.retry
  | .cancel i => s.update i Query.cancel

end Resolving

end Machine

/-! ## Where the counter stands -/

section Tracks

variable {Response : Type} {client : DohClient} {currentIndex : UInt64} {q q' : Query Response}

def MatchesNotes (client : DohClient) (q : Query Response) : Prop :=
  q.tried.map some =
    q.passed.mapIdx fun j k => client.serverAt (q.first + UInt64.ofNat (j + k))

/-- The counter stands where all failures have brought it. -/
def Stands (currentIndex : UInt64) (q : Query Response) (own : Nat) : Prop :=
  currentIndex = q.first + UInt64.ofNat (own + q.foreign)

def Tracks (client : DohClient) (currentIndex : UInt64) (q : Query Response) : Prop :=
  match q.phase with
  | .ready => q.errors.length = q.attempt ∧ q.attempt < client.maxRetries ∧
      MatchesNotes client q ∧ (q.passed ≠ [] → Stands currentIndex q q.errors.length)
  | .trying _ => q.errors.length = q.attempt ∧ q.attempt < client.maxRetries ∧
      MatchesNotes client q ∧ Stands currentIndex q q.errors.length
  | .failed => q.errors.length = q.attempt + 1 ∧ q.attempt < client.maxRetries ∧
      MatchesNotes client q ∧ Stands (currentIndex + 1) q q.errors.length
  | .waiting => q.errors.length = q.attempt + 1 ∧ q.attempt + 1 < client.maxRetries ∧
      MatchesNotes client q ∧ Stands currentIndex q q.errors.length
  | .finished result => ∀ attempts errors, result = .error (.allServersFailed attempts errors) →
      q.errors.length = client.maxRetries ∧ MatchesNotes client q

theorem Stands.overtaken {own : Nat}
    (h : Stands currentIndex q own) : Stands (currentIndex + 1) q.overtaken own := by
  rw [Stands] at h ⊢
  rw [h, Query.overtaken, ← Nat.add_assoc, UInt64.ofNat_add (own + q.foreign), UInt64.add_assoc]
  rfl

theorem Stands.succ {own : Nat}
    (h : Stands currentIndex q own) : Stands (currentIndex + 1) q (own + 1) := by
  rw [Stands] at h ⊢
  rw [h, Nat.add_right_comm, UInt64.ofNat_add (own + q.foreign), UInt64.add_assoc]
  rfl

theorem Tracks.overtaken
    (h : Tracks client currentIndex q) : Tracks client (currentIndex + 1) q.overtaken := by
  obtain ⟨attempt, errors, phase, first, foreign, passed⟩ := q
  cases phase with
  | ready =>
    obtain ⟨hcount, hmore, hloaded, hstands⟩ := h
    exact ⟨hcount, hmore, hloaded, fun hne => (hstands hne).overtaken⟩
  | trying | failed | waiting =>
    obtain ⟨hcount, hmore, hloaded, hstands⟩ := h
    exact ⟨hcount, hmore, hloaded, hstands.overtaken⟩
  | finished result => exact h

theorem normalizeRecordType_ne_allServersFailed {recordType : String} {attempts : Nat}
    {errors : List String} :
    normalizeRecordType recordType ≠ .error (.allServersFailed attempts errors) := by
  rw [normalizeRecordType]
  split <;> simp

theorem tracks_start (currentIndex : UInt64) (domain recordType : String) :
    Tracks client currentIndex (Query.start client domain recordType : Query Response) := by
  rw [Query.start]
  cases htype : normalizeRecordType recordType with
  | error err =>
    rintro attempts errors ⟨⟩
    exact absurd htype normalizeRecordType_ne_allServersFailed
  | ok upper =>
    cases validateDnsName domain with
    | error message => rintro attempts errors ⟨⟩
    | ok _ =>
      by_cases hmore : 0 < client.maxRetries
      · simp only [hmore, ↓reduceIte]
        exact ⟨rfl, hmore, rfl, fun hne => absurd rfl hne⟩
      · simp only [hmore, ↓reduceIte]
        rintro attempts errors -
        exact ⟨(Nat.eq_zero_of_not_pos hmore).symm, rfl⟩

theorem Tracks.load
    (h : Tracks client currentIndex q) (hq : q.load client currentIndex = some q') :
    Tracks client currentIndex q' := by
  obtain ⟨attempt, errors, phase, first, foreign, passed⟩ := q
  cases phase with
  | ready =>
    obtain ⟨hcount, hmore, hloaded, hstands⟩ := h
    obtain ⟨serverUrl, hserver, rfl⟩ := Option.map_eq_some_iff.mp hq
    have hlen : errors.length = passed.length := by
      simpa [Query.tried] using congrArg List.length hloaded
    by_cases hfirst : passed = []
    · subst hfirst
      have herrors : errors = [] := List.eq_nil_of_length_eq_zero hlen
      subst herrors
      simp only [↓reduceIte]
      refine ⟨hcount, hmore, ?_, ?_⟩
      · simp [MatchesNotes, Query.tried, hserver]
      · simp [Stands]
    · have hstands : currentIndex = first + UInt64.ofNat (errors.length + foreign) :=
        hstands hfirst
      simp only [hfirst, ↓reduceIte]
      refine ⟨hcount, hmore, ?_, hstands⟩
      have hloaded : (errors.map Prod.fst ++ []).map some =
          passed.mapIdx fun j k => client.serverAt (first + UInt64.ofNat (j + k)) := hloaded
      rw [MatchesNotes, List.mapIdx_concat, ← hloaded, ← hlen, ← hstands, hserver]
      simp [Query.tried]
  | trying | failed | waiting | finished => cases hq

theorem Tracks.answer
    {outcome : Except String Response} (h : Tracks client currentIndex q)
    (hq : q.answer outcome = some q') : Tracks client currentIndex q' := by
  obtain ⟨attempt, errors, phase, first, foreign, passed⟩ := q
  cases phase with
  | trying serverUrl =>
    obtain ⟨hcount, hmore, hloaded, hstands⟩ := h
    cases outcome with
    | ok response =>
      cases hq
      rintro attempts errors ⟨⟩
    | error message =>
      cases hq
      refine ⟨?_, hmore, ?_, ?_⟩
      · rw [List.length_append, hcount]
        rfl
      · simpa [MatchesNotes, Query.tried] using hloaded
      · rw [List.length_append]
        exact hstands.succ
  | ready | failed | waiting | finished => cases hq

theorem Tracks.advance
    (h : Tracks client currentIndex q) (hq : q.advance client = some q') :
    Tracks client (currentIndex + 1) q' := by
  obtain ⟨attempt, errors, phase, first, foreign, passed⟩ := q
  cases phase with
  | failed =>
    obtain ⟨hcount, hmore, hloaded, hstands⟩ := h
    simp only [Query.advance] at hq
    split_ifs at hq with hlast
    · cases hq
      exact ⟨hcount, hlast, hloaded, hstands⟩
    · cases hq
      rintro attempts errors' -
      refine ⟨?_, hloaded⟩
      have hcount : errors.length = attempt + 1 := hcount
      have hmore : attempt < client.maxRetries := hmore
      show errors.length = client.maxRetries
      omega
  | ready | trying | waiting | finished => cases hq

theorem Tracks.retry
    (h : Tracks client currentIndex q) (hq : q.retry = some q') :
    Tracks client currentIndex q' := by
  obtain ⟨attempt, errors, phase, first, foreign, passed⟩ := q
  cases phase with
  | waiting =>
    obtain ⟨hcount, hmore, hloaded, hstands⟩ := h
    cases hq
    exact ⟨hcount, hmore, hloaded, fun _ => hstands⟩
  | ready | trying | failed | finished => cases hq

theorem Tracks.cancel
    (hq : q.cancel = some q') : Tracks client currentIndex q' := by
  revert hq
  fun_cases Query.cancel q with rintro ⟨⟩
  | case1 => rintro attempts errors ⟨⟩

def Resolving.Tracked (client : DohClient) (s : Resolving Response) : Prop :=
  ∀ q ∈ s.queries, Tracks client s.currentIndex q

theorem Resolving.Tracked.update {s t : Resolving Response} {i : Nat}
    {f : Query Response → Option (Query Response)} (h : s.Tracked client)
    (hf : ∀ q q', Tracks client s.currentIndex q → f q = some q' →
      Tracks client s.currentIndex q') (ht : s.update i f = some t) : t.Tracked client := by
  simp only [Resolving.update, Option.bind_eq_bind, Option.bind_eq_some_iff, Option.pure_def,
    Option.some.injEq] at ht
  obtain ⟨q, hq, q', hq', rfl⟩ := ht
  intro x hx
  obtain hx | rfl := List.mem_or_eq_of_mem_set hx
  · exact h x hx
  · exact hf q x (h q (List.mem_of_getElem? hq)) hq'

theorem tracked_of_step {s t : Resolving Response} {a : QueryLabel Response}
    (h : s.Tracked client) (ht : s.step client a = some t) : t.Tracked client := by
  cases a with
  | start domain recordType =>
    cases ht
    intro q hq
    obtain hq | hq := List.mem_append.mp hq
    · exact h q hq
    · cases List.mem_singleton.mp hq
      exact tracks_start s.currentIndex domain recordType
  | load i => exact h.update (fun _ _ => .load) ht
  | answer i outcome => exact h.update (fun _ _ => .answer) ht
  | advance i =>
    simp only [Resolving.step, Option.bind_eq_bind, Option.bind_eq_some_iff, Option.pure_def,
      Option.some.injEq] at ht
    obtain ⟨q, hq, q', hq', rfl⟩ := ht
    intro x hx
    obtain hx | rfl := List.mem_or_eq_of_mem_set hx
    · obtain ⟨y, hy, rfl⟩ := List.mem_map.mp hx
      exact (h y hy).overtaken
    · exact (h q (List.mem_of_getElem? hq)).advance hq'
  | retry i => exact h.update (fun _ _ => .retry) ht
  | cancel i => exact h.update (fun _ _ _ => .cancel) ht

def Resolving.fresh (currentIndex : UInt64) : Resolving Response := ⟨currentIndex, []⟩

theorem tracked_of_run {currentIndex : UInt64} {s : Resolving Response}
    {as : List (QueryLabel Response)}
    (h : run (Resolving.step client) (.fresh currentIndex) as = some s) : s.Tracked client := by
  refine run_invariant_of_step (I := Resolving.Tracked client) ?_ ?_ h
  · intro u a v hu hv
    exact tracked_of_step hu hv
  · intro q hq
    cases hq

theorem Tracks.loaded
    (h : Tracks client currentIndex q) (hq : q.ReportsFailure) :
    q.errors.length = client.maxRetries ∧ MatchesNotes client q := by
  obtain ⟨attempt, errors, phase, first, foreign, passed⟩ := q
  obtain ⟨attempts, errors', rfl⟩ := hq
  exact h attempts errors' rfl

theorem Tracks.failed_iff_meets
    (h : Tracks client currentIndex q) (hq : q.ReportsFailure) (serverUrl : String) :
    (∃ message, (serverUrl, message) ∈ q.errors) ↔ q.Meets client serverUrl := by
  obtain ⟨-, hloaded⟩ := h.loaded hq
  have htried : q.tried = q.errors.map Prod.fst := by
    obtain ⟨attempts, errors, hphase⟩ := hq
    rw [Query.tried, hphase, List.append_nil]
  rw [MatchesNotes, htried] at hloaded
  have hmem : some serverUrl ∈ (q.errors.map Prod.fst).map some ↔
      ∃ message, (serverUrl, message) ∈ q.errors := by simp
  rw [← hmem, hloaded, List.mem_mapIdx, Query.Meets]
  constructor
  · rintro ⟨j, hj, hserver⟩
    exact ⟨j, q.passed[j], List.getElem?_eq_getElem hj, hserver⟩
  · rintro ⟨j, k, hk, hserver⟩
    obtain ⟨hj, rfl⟩ := List.getElem?_eq_some_iff.mp hk
    exact ⟨j, hj, hserver⟩

theorem exists_position (start : UInt64) {n r : Nat} (hn : n ≤ 2 ^ 64) (hr : r < n) :
    ∃ j < n * 2, (start + UInt64.ofNat j).toNat % n = r := by
  have htoNat : ∀ j, (start + UInt64.ofNat j).toNat = (start.toNat + j) % 2 ^ 64 := by
    intro j
    rw [UInt64.toNat_add, UInt64.toNat_ofNat', Nat.add_mod_mod]
  have hlt : start.toNat < 2 ^ 64 := start.toNat_lt
  by_cases hwrap : start.toNat + n ≤ 2 ^ 64
  · -- the first `n` positions do not wrap
    have hj : (r + (n - start.toNat % n)) % n < n := Nat.mod_lt _ (by omega)
    refine ⟨(r + (n - start.toNat % n)) % n, by omega, ?_⟩
    have hsum : start.toNat + (r + (n - start.toNat % n)) = r + n * (start.toNat / n + 1) := by
      have hdiv := Nat.div_add_mod start.toNat n
      have hmod := Nat.mod_lt start.toNat (Nat.zero_lt_of_lt hr)
      rw [Nat.mul_add, Nat.mul_one]
      omega
    rw [htoNat, Nat.mod_eq_of_lt (a := start.toNat + _) (by omega), Nat.add_mod_mod, hsum,
      Nat.add_mul_mod_self_left, Nat.mod_eq_of_lt hr]
  · -- the counter wraps among the first `n`, and then goes through all of them
    refine ⟨2 ^ 64 - start.toNat + r, by omega, ?_⟩
    have hsum : start.toNat + (2 ^ 64 - start.toNat + r) = 2 ^ 64 + r := by omega
    rw [htoNat, hsum, Nat.add_mod_left, Nat.mod_eq_of_lt (a := r) (b := 2 ^ 64) (by omega),
      Nat.mod_eq_of_lt hr]

theorem Tracks.meets_of_undisturbed
    (h : Tracks client currentIndex q) (hq : q.ReportsFailure)
    (hdefault : client.maxRetries = client.serverUrls.length * 2)
    (hservers : client.serverUrls.length ≤ 2 ^ 64) (hpassed : ∀ k ∈ q.passed, k = 0)
    {serverUrl : String} (hmem : serverUrl ∈ client.serverUrls) : q.Meets client serverUrl := by
  obtain ⟨hcount, hloaded⟩ := h.loaded hq
  obtain ⟨r, hr, rfl⟩ := List.mem_iff_getElem.mp hmem
  obtain ⟨j, hj, hposition⟩ := exists_position q.first hservers hr
  have hlen : q.passed.length = q.errors.length := by
    obtain ⟨attempts, errors, hphase⟩ := hq
    have htried := congrArg List.length hloaded
    simpa [Query.tried, hphase] using htried.symm
  have hlt : j < q.passed.length := by omega
  refine ⟨j, 0, ?_, ?_⟩
  · rw [List.getElem?_eq_getElem hlt, hpassed _ (List.getElem_mem hlt)]
  · rw [Nat.add_zero, DohClient.serverAt, hposition, List.getElem?_eq_getElem hr]

end Tracks

/-- **A query that fails has an error from every server** exactly if the failures lead it there. -/
theorem every_server_tried_iff {Response : Type} (client : DohClient) {currentIndex : UInt64}
    {s : Resolving Response} {as : List (QueryLabel Response)}
    (h : run (Resolving.step client) (.fresh currentIndex) as = some s) :
    (∀ q ∈ s.queries, q.ReportsFailure → ∀ serverUrl ∈ client.serverUrls,
        ∃ message, (serverUrl, message) ∈ q.errors) ↔
      ∀ q ∈ s.queries, q.ReportsFailure → ∀ serverUrl ∈ client.serverUrls,
        q.Meets client serverUrl := by
  refine forall₂_congr fun q hq => forall_congr' fun hfail => forall₂_congr fun serverUrl _ => ?_
  exact (tracked_of_run h q hq).failed_iff_meets hfail serverUrl

/-! ### Two queries in step -/

section Sample

def twoServers : DohClient where
  serverUrls := ["https://192.0.2.1/dns-query", "https://192.0.2.2/dns-query"]
  authToken := ""
  maxRetries := 4
  retryDelay := 2

def failTogether (queries : List Nat) : List (QueryLabel Unit) :=
  queries.map .load ++ queries.map (.answer · (.error "HTTP request failed")) ++
    queries.map .advance

def inStep (queries : List Nat) : List (QueryLabel Unit) :=
  queries.map (fun _ => .start "example.com" "A") ++ failTogether queries ++
    queries.map .retry ++ failTogether queries ++ queries.map .retry ++ failTogether queries ++
    queries.map .retry ++ failTogether queries

instance (q : Query Unit) (serverUrl : String) :
    Decidable (∃ message, (serverUrl, message) ∈ q.errors) :=
  decidable_of_iff (serverUrl ∈ q.errors.map Prod.fst) (by simp)

theorem every_server_tried_alone :
    ∃ s, run (Resolving.step twoServers) (.fresh 0) (inStep [0]) = some s ∧
      (∃ q ∈ s.queries, q.ReportsFailure) ∧ ∀ q ∈ s.queries, q.ReportsFailure →
        ∀ serverUrl ∈ twoServers.serverUrls, ∃ message, (serverUrl, message) ∈ q.errors := by
  have hrun : run (Resolving.step twoServers) (.fresh 0) (inStep [0]) = some _ :=
    (Option.some_get (by decide +kernel)).symm
  refine ⟨_, hrun, by decide +kernel, ?_⟩
  refine (every_server_tried_iff twoServers hrun).mpr fun q hq hfail serverUrl hurl => ?_
  refine (tracked_of_run hrun q hq).meets_of_undisturbed hfail rfl (by decide) ?_ hurl
  revert q
  decide +kernel

theorem inStep_misses_server :
    ∃ s, run (Resolving.step twoServers) (.fresh 0) (inStep [0, 1]) = some s ∧
      s.queries.length = 2 ∧ ∀ q ∈ s.queries, q.ReportsFailure ∧
        ¬ ∃ message, ("https://192.0.2.2/dns-query", message) ∈ q.errors :=
  exists_run (by decide +kernel)

end Sample

end Penguind.Squawk
