import Mathlib.Data.Finmap
import Penguind.Foundation.Run

/-!
# Entitlements and the key they were granted to

A license client keeps the tier and the features last granted, in memory and in a cache file that
does not say which key they were granted to. The exchange a grant came from is noted beside it.
-/

namespace Penguind.Licensing

open Penguind.Foundation

abbrev Features := Finmap fun _ : String => Bool

structure ValidateFeature where
  name : String
  entitled : Bool
  deriving DecidableEq

structure ValidateResponse where
  tier : String
  features : List ValidateFeature
  deriving DecidableEq

structure ValidateRequest where
  url : String
  authorization : String
  product : String
  deriving DecidableEq

structure CacheFile where
  tier : String
  features : Features
  fetchedAt : Int
  deriving DecidableEq

def ValidateResponse.flags (info : ValidateResponse) : Features :=
  info.features.foldl (fun flags feature => flags.insert feature.name feature.entitled) ∅

/-- The last entry of that name says so. -/
def ValidateResponse.Entitles (info : ValidateResponse) (name : String) : Prop :=
  (info.features.reverse.find? (·.name = name)).any (·.entitled) = true

def unixSeconds (at_ : Int) : Int := if at_ < 0 then 0 else at_

def systemTime (unixSecs : Int) : Int := if unixSecs < 0 then 0 else unixSecs

structure Serde (Byte : Type) where
  responseOf : List Byte → Option ValidateResponse
  toVecPretty : CacheFile → Option (List Byte)
  cacheFileOf : List Byte → Option CacheFile
  lossy : List Byte → String
  cacheFileOf_toVecPretty : ∀ file raw, toVecPretty file = some raw → cacheFileOf raw = some file

structure LicenseClientOptions where
  licenseKey : String
  product : String
  baseUrl : String
  cacheDir : Option String

structure State where
  tier : String
  features : Features
  fetchedAt : Int

def State.empty : State := ⟨"", ∅, 0⟩

structure LicenseClient where
  licenseKey : String
  product : String
  baseUrl : String
  cacheDir : Option String
  state : State

inductive HttpOutcome (Byte : Type)
  | unreachable
  | bodyUnreadable (status : Nat)
  | response (status : Nat) (body : List Byte)

inductive FetchError
  | request
  | body
  | status (code : Nat) (snippet : String)
  | decode

namespace LicenseClient

variable {Byte : Type} (lib : Serde Byte)

def new (options : LicenseClientOptions) (cached : Option (List Byte)) : LicenseClient where
  licenseKey := options.licenseKey
  product := if options.product = "" then "penguin" else options.product
  baseUrl := if options.baseUrl = "" then "https://license.penguintech.io" else options.baseUrl
  cacheDir := options.cacheDir
  state :=
    -- a file that does not parse counts as none; nothing in one says which key it is for
    match cached.bind lib.cacheFileOf with
    | none => .empty
    | some file => ⟨file.tier, file.features, systemTime file.fetchedAt⟩

def request (client : LicenseClient) : ValidateRequest where
  url := client.baseUrl ++ "/api/v2/validate"
  authorization := "Bearer " ++ client.licenseKey
  product := client.product

def fetch : HttpOutcome Byte → Except FetchError ValidateResponse
  | .unreachable => .error .request
  | .bodyUnreadable _ => .error .body
  | .response status body =>
    if status ≠ 200 then .error (.status status (lib.lossy body))
    else
      match lib.responseOf body with
      | none => .error .decode
      | some info => .ok info

def clear (client : LicenseClient) : LicenseClient :=
  { client with state := { client.state with tier := "", features := ∅ } }

def update (client : LicenseClient) (info : ValidateResponse) (now : Int) : LicenseClient :=
  { client with state := ⟨info.tier, info.flags, now⟩ }

def cacheFile (info : ValidateResponse) (now : Int) : CacheFile :=
  ⟨info.tier, info.flags, unixSeconds now⟩

def featureEnabled (client : LicenseClient) (key : String) : Bool :=
  if client.licenseKey = "" then false else (client.state.features.lookup key).getD false

def tier (client : LicenseClient) : String := client.state.tier

end LicenseClient

/-! ## Writing the cache file -/

inductive FileName
  | cache
  | temp (pid sequence : Nat)
  deriving DecidableEq

abbrev Files (Byte : Type) := String → FileName → Option (List Byte)

def Files.set {Byte : Type} (files : Files Byte) (dir : String) (name : FileName)
    (content : Option (List Byte)) : Files Byte := fun d n =>
  if d = dir ∧ n = name then content else files d n

inductive PersistStep
  | create
  | lockDown
  | write
  | sync
  | rename
  | remove
  deriving DecidableEq

inductive IoOutcome (Byte : Type)
  | done
  | failed (left : Option (List Byte))

structure Persisting (Byte : Type) where
  dir : String
  info : ValidateResponse
  raw : List Byte
  sequence : Nat
  next : PersistStep

def Persisting.step {Byte : Type} (pid : Nat) (files : Files Byte) (p : Persisting Byte)
    (outcome : IoOutcome Byte) : Option (Files Byte × Option (Persisting Byte)) :=
  let temp := FileName.temp pid p.sequence
  match outcome with
  | .done =>
    match p.next with
    | .create => some (files.set p.dir temp (some []), some { p with next := .lockDown })
    | .lockDown => some (files, some { p with next := .write })
    | .write => some (files.set p.dir temp (some p.raw), some { p with next := .sync })
    | .sync => some (files, some { p with next := .rename })
    | .rename =>
      (files p.dir temp).map fun content =>
        ((files.set p.dir .cache (some content)).set p.dir temp none, none)
    | .remove => some (files.set p.dir temp none, none)
  | .failed left =>
    match p.next with
    | .lockDown | .write | .sync =>
      some (files.set p.dir temp left, some { p with next := .remove })
    -- after these the temporary file is not removed
    | .create | .rename | .remove => some (files.set p.dir temp left, none)

def Persisting.renames {Byte : Type} (p : Persisting Byte) : IoOutcome Byte → Bool
  | .done => p.next = .rename
  | .failed _ => false

/-! ## Histories -/

inductive Refresh (Byte : Type)
  | fetching
  | fetched (info : ValidateResponse)
  | creatingDir (dir : String) (info : ValidateResponse) (file : CacheFile)
  | persisting (p : Persisting Byte)
  | finished

def Refresh.ofPersisting {Byte : Type} : Option (Persisting Byte) → Refresh Byte
  | none => .finished
  | some p => .persisting p

structure Exchange where
  request : ValidateRequest
  response : ValidateResponse
  deriving DecidableEq

def Exchange.MadeWith (e : Exchange) (licenseKey : String) : Prop :=
  e.request.authorization = "Bearer " ++ licenseKey

instance (e : Exchange) (licenseKey : String) : Decidable (e.MadeWith licenseKey) :=
  inferInstanceAs (Decidable (_ = _))

/-- The last field is the note. -/
structure Process (Byte : Type) where
  client : LicenseClient
  pid : Nat
  counter : Nat
  refreshes : List (Refresh Byte)
  source : Option Exchange

structure World (Byte : Type) where
  files : Files Byte
  process : Option (Process Byte)
  sources : String → Option Exchange

/-- `readable` says whether the cache file can be read. -/
inductive Label (Byte : Type)
  | start (options : LicenseClientOptions) (pid : Nat) (readable : Bool)
  | refresh
  | respond (i : Nat) (outcome : HttpOutcome Byte)
  | update (i : Nat) (now : Int)
  | createDir (i : Nat) (ok : Bool)
  | persist (i : Nat) (outcome : IoOutcome Byte)
  | exit

namespace World

variable {Byte : Type} (lib : Serde Byte)

def fresh : World Byte := ⟨fun _ _ => none, none, fun _ => none⟩

def cached (s : World Byte) (options : LicenseClientOptions) (readable : Bool) :
    Option (List Byte) :=
  if readable then options.cacheDir.bind fun dir => s.files dir .cache else none

def start (s : World Byte) (options : LicenseClientOptions) (pid : Nat) (readable : Bool) :
    Process Byte where
  client := .new lib options (s.cached options readable)
  pid := pid
  counter := 0
  refreshes := []
  source := if readable then options.cacheDir.bind s.sources else none

end World

namespace Process

variable {Byte : Type} (lib : Serde Byte)

def refresh (d : Process Byte) : Process Byte :=
  -- without a key the memory is cleared, and the cache file stays
  if d.client.licenseKey = "" then { d with client := d.client.clear, source := none }
  else { d with refreshes := d.refreshes ++ [.fetching] }

def respond (d : Process Byte) (i : Nat) (outcome : HttpOutcome Byte) : Option (Process Byte) :=
  match d.refreshes[i]? with
  | some .fetching =>
    match LicenseClient.fetch lib outcome with
    | .error _ => some { d with refreshes := d.refreshes.set i .finished }
    | .ok info => some { d with refreshes := d.refreshes.set i (.fetched info) }
  | some (.fetched _) | some (.creatingDir _ _ _) | some (.persisting _) | some .finished
  | none => none

def update (d : Process Byte) (i : Nat) (now : Int) : Option (Process Byte) :=
  match d.refreshes[i]? with
  | some (.fetched info) =>
    let next :=
      match d.client.cacheDir with
      | none => .finished
      | some dir => .creatingDir dir info (LicenseClient.cacheFile info now)
    some { d with
      client := d.client.update info now
      refreshes := d.refreshes.set i next
      source := some ⟨d.client.request, info⟩ }
  | some .fetching | some (.creatingDir _ _ _) | some (.persisting _) | some .finished
  | none => none

def createDir (d : Process Byte) (i : Nat) (ok : Bool) : Option (Process Byte) :=
  match d.refreshes[i]? with
  | some (.creatingDir dir info file) =>
    match ok, lib.toVecPretty file with
    | true, some raw =>
      let p : Persisting Byte := ⟨dir, info, raw, d.counter, .create⟩
      some { d with refreshes := d.refreshes.set i (.persisting p), counter := d.counter + 1 }
    | _, _ => some { d with refreshes := d.refreshes.set i .finished }
  | some .fetching | some (.fetched _) | some (.persisting _) | some .finished | none => none

end Process

namespace World

variable {Byte : Type} (lib : Serde Byte)

/-- A rename moves the note with the file. -/
def persist (s : World Byte) (d : Process Byte) (i : Nat) (outcome : IoOutcome Byte) :
    Option (World Byte) :=
  match d.refreshes[i]? with
  | some (.persisting p) =>
    (p.step d.pid s.files outcome).map fun r =>
      { files := r.1
        process := some { d with refreshes := d.refreshes.set i (.ofPersisting r.2) }
        sources :=
          if p.renames outcome then
            Function.update s.sources p.dir (some ⟨d.client.request, p.info⟩)
          else s.sources }
  | some .fetching | some (.fetched _) | some (.creatingDir _ _ _) | some .finished
  | none => none

def step (s : World Byte) : Label Byte → Option (World Byte)
  | .start options pid readable =>
    match s.process with
    | none => some { s with process := some (s.start lib options pid readable) }
    | some _ => none
  | .refresh => s.process.map fun d => { s with process := some d.refresh }
  | .respond i outcome =>
    (s.process.bind fun d => d.respond lib i outcome).map fun d => { s with process := some d }
  | .update i now =>
    (s.process.bind fun d => d.update i now).map fun d => { s with process := some d }
  | .createDir i ok =>
    (s.process.bind fun d => d.createDir lib i ok).map fun d => { s with process := some d }
  | .persist i outcome => s.process.bind fun d => s.persist d i outcome
  | .exit => s.process.map fun _ => { s with process := none }

end World

/-! ## What is reported -/

def LicenseClient.Silent (client : LicenseClient) : Prop :=
  client.tier = "" ∧ ∀ name, client.featureEnabled name = false

/-- Reports were granted to the configured key by one response. -/
structure Process.ReportsOwn {Byte : Type} (d : Process Byte) : Prop where
  granted : d.client.Silent ∨
    ∃ e, d.source = some e ∧ e.MadeWith d.client.licenseKey ∧ d.client.tier = e.response.tier ∧
      ∀ name, d.client.featureEnabled name = true ↔ e.response.Entitles name
  unlicensed : d.client.licenseKey = "" → d.client.Silent

def World.ReportsOwn {Byte : Type} (s : World Byte) : Prop :=
  ∀ d, s.process = some d → d.ReportsOwn

/-- A client with this key that loads the file has nothing to report. -/
def CacheFile.SilentFor (file : CacheFile) (licenseKey : String) : Prop :=
  file.tier = "" ∧ (licenseKey = "" ∨ ∀ flag ∈ file.features.entries, flag.2 = false)

/-- New clients find no cache, a silent one, or one of their own key. -/
def World.FindsOwn {Byte : Type} (lib : Serde Byte) (s : World Byte) : Label Byte → Prop
  | .start options _ readable =>
    ∀ file ∈ (s.cached options readable).bind lib.cacheFileOf,
      file.SilentFor options.licenseKey ∨
        ∃ e ∈ options.cacheDir.bind s.sources, e.MadeWith options.licenseKey
  | .refresh | .respond _ _ | .update _ _ | .createDir _ _ | .persist _ _ | .exit => True

instance (file : CacheFile) (licenseKey : String) : Decidable (file.SilentFor licenseKey) :=
  inferInstanceAs (Decidable (_ ∧ (_ ∨ _)))

instance {Byte : Type} (lib : Serde Byte) (s : World Byte) : ∀ a, Decidable (s.FindsOwn lib a)
  | .start options _ readable =>
    inferInstanceAs (Decidable (∀ file ∈ (s.cached options readable).bind lib.cacheFileOf,
      file.SilentFor options.licenseKey ∨
        ∃ e ∈ options.cacheDir.bind s.sources, e.MadeWith options.licenseKey))
  | .refresh | .respond _ _ | .update _ _ | .createDir _ _ | .persist _ _ | .exit =>
    .isTrue trivial

section Reports

variable {Byte : Type} {lib : Serde Byte} {client : LicenseClient} {d : Process Byte}

theorem ValidateResponse.lookup_flags (info : ValidateResponse) (name : String) :
    (info.flags.lookup name).getD false = true ↔ info.Entitles name := by
  obtain ⟨tier, features⟩ := info
  rw [Entitles, flags]
  induction features using List.reverseRecOn with
  | nil => simp
  | append_singleton features feature ih =>
    simp only [List.foldl_append, List.foldl_cons, List.foldl_nil, List.reverse_append,
      List.reverse_cons, List.reverse_nil, List.nil_append, List.cons_append, List.find?_cons]
    by_cases h : feature.name = name
    · subst h
      simp [Finmap.lookup_insert]
    · rw [Finmap.lookup_insert_of_ne _ (Ne.symm h)]
      simpa [h] using ih

structure Exchange.Grants (e : Exchange) (tier : String) (features : Features) : Prop where
  keyed : ¬ e.MadeWith ""
  tier : tier = e.response.tier
  features : features = e.response.flags

/-- The memory is empty or what the noted exchange granted. -/
def Process.Remembers (d : Process Byte) : Prop :=
  d.client.Silent ∨ ∃ e, d.source = some e ∧ e.Grants d.client.state.tier d.client.state.features

theorem Process.Remembers.own_iff (h : d.Remembers) :
    d.ReportsOwn ↔
      d.client.Silent ∨ ∃ e, d.source = some e ∧ e.MadeWith d.client.licenseKey := by
  constructor
  · rintro ⟨hsilent | ⟨e, he, hkey, -⟩, -⟩
    · exact .inl hsilent
    · exact .inr ⟨e, he, hkey⟩
  · rintro (hsilent | ⟨e, he, hkey⟩)
    · exact ⟨.inl hsilent, fun _ => hsilent⟩
    · obtain hsilent | ⟨e', he', hgrants⟩ := h
      · exact ⟨.inl hsilent, fun _ => hsilent⟩
      · obtain rfl : e = e' := Option.mem_unique he he'
        have hne : d.client.licenseKey ≠ "" := fun hempty => hgrants.keyed (hempty ▸ hkey)
        refine ⟨.inr ⟨e, he, hkey, hgrants.tier, fun name => ?_⟩, fun hempty => absurd hempty hne⟩
        rw [LicenseClient.featureEnabled, if_neg hne, hgrants.features]
        exact e.response.lookup_flags name

theorem forall_lookup_iff (features : Features) :
    (∀ name, (features.lookup name).getD false = false) ↔
      ∀ flag ∈ features.entries, flag.2 = false := by
  constructor
  · rintro h ⟨name, value⟩ hmem
    have hname := h name
    rw [Finmap.lookup_eq_some_iff.mpr hmem] at hname
    exact hname
  · intro h name
    cases hname : features.lookup name with
    | none => rfl
    | some value => exact h ⟨name, value⟩ (Finmap.lookup_eq_some_iff.mp hname)

theorem LicenseClient.silent_empty (h : client.state.tier = "")
    (h' : client.state.features = ∅) : client.Silent := by
  refine ⟨h, fun name => ?_⟩
  rw [featureEnabled, h']
  simp

theorem LicenseClient.silent_new_iff {options : LicenseClientOptions}
    {cached : Option (List Byte)} :
    (LicenseClient.new lib options cached).Silent ↔
      ∀ file ∈ cached.bind lib.cacheFileOf, file.SilentFor options.licenseKey := by
  cases hfile : cached.bind lib.cacheFileOf with
  | none =>
    refine iff_of_true (silent_empty ?_ ?_) (by simp) <;> simp [new, hfile, State.empty]
  | some file =>
    simp only [Silent, tier, featureEnabled, new, hfile, Option.mem_some_iff, forall_eq',
      CacheFile.SilentFor, ← forall_lookup_iff]
    by_cases hkey : options.licenseKey = "" <;> simp [hkey]

end Reports

/-! ## Whose the cache files are -/

def Renders {Byte : Type} (lib : Serde Byte) (raw : List Byte) (info : ValidateResponse) : Prop :=
  ∃ file, lib.cacheFileOf raw = some file ∧ file.tier = info.tier ∧ file.features = info.flags

def Refresh.sequence? {Byte : Type} : Refresh Byte → Option Nat
  | .persisting p => some p.sequence
  | .fetching | .fetched _ | .creatingDir _ _ _ | .finished => none

/-- The file is about the response, and nobody else has touched it once written. -/
def Refresh.Inv {Byte : Type} (lib : Serde Byte) (files : Files Byte) (pid counter : Nat) :
    Refresh Byte → Prop
  | .creatingDir _ info file => file.tier = info.tier ∧ file.features = info.flags
  | .persisting p => p.sequence < counter ∧ Renders lib p.raw p.info ∧
      (p.next = .sync ∨ p.next = .rename → files p.dir (.temp pid p.sequence) = some p.raw)
  | .fetching | .fetched _ | .finished => True

structure Process.Inv {Byte : Type} (lib : Serde Byte) (files : Files Byte) (d : Process Byte) :
    Prop where
  keyed : d.refreshes ≠ [] → d.client.licenseKey ≠ ""
  remembers : d.Remembers
  refreshes : ∀ (i : Nat) (r : Refresh Byte), d.refreshes[i]? = some r →
    r.Inv lib files d.pid d.counter
  apart : ∀ i j n : Nat, d.refreshes[i]?.bind Refresh.sequence? = some n →
    d.refreshes[j]?.bind Refresh.sequence? = some n → i = j

structure World.Inv {Byte : Type} (lib : Serde Byte) (s : World Byte) : Prop where
  cache : ∀ dir raw, s.files dir .cache = some raw →
    ∃ e, s.sources dir = some e ∧ ¬ e.MadeWith "" ∧ Renders lib raw e.response
  process : ∀ d, s.process = some d → d.Inv lib s.files

section Invariant

variable {Byte : Type} {lib : Serde Byte} {s t : World Byte} {d : Process Byte}
  {files files' : Files Byte} {i : Nat}

@[simp] theorem Files.set_same (dir : String) (name : FileName) (content : Option (List Byte)) :
    files.set dir name content dir name = content := if_pos ⟨rfl, rfl⟩

theorem Files.set_of_ne {dir dir' : String} {name name' : FileName} (h : name' ≠ name)
    (content : Option (List Byte)) : files.set dir name content dir' name' = files dir' name' :=
  if_neg fun heq => h heq.2

theorem Persisting.step_cases {p : Persisting Byte} {pid : Nat} {outcome : IoOutcome Byte}
    {next : Option (Persisting Byte)} (h : p.step pid files outcome = some (files', next)) :
    (∃ content, p.renames outcome = true ∧ p.next = .rename ∧ next = none ∧
      files p.dir (.temp pid p.sequence) = some content ∧
      files' = (files.set p.dir .cache (some content)).set p.dir (.temp pid p.sequence) none) ∨
    (p.renames outcome = false ∧
      (∀ dir name, name ≠ .temp pid p.sequence → files' dir name = files dir name) ∧
      ∀ p' ∈ next, p' = { p with next := p'.next } ∧
        (p'.next = .sync ∨ p'.next = .rename →
          files' p.dir (.temp pid p.sequence) = some p.raw ∨ p.next = .sync ∧ files' = files)) := by
  obtain ⟨dir, info, raw, sequence, now⟩ := p
  cases outcome with
  | done =>
    cases now with
    | create | write | remove =>
      cases h
      exact .inr ⟨rfl, fun _ _ hne => Files.set_of_ne hne _, by simp⟩
    | lockDown | sync =>
      cases h
      exact .inr ⟨rfl, fun _ _ _ => rfl, by simp⟩
    | rename =>
      obtain ⟨content, hcontent, heq⟩ := Option.map_eq_some_iff.mp h
      cases heq
      exact .inl ⟨content, rfl, rfl, rfl, hcontent, rfl⟩
  | failed left =>
    cases now with
    | create | lockDown | write | sync | rename | remove =>
      cases h
      exact .inr ⟨rfl, fun _ _ hne => Files.set_of_ne hne _, by simp⟩

theorem Refresh.Inv.mono {r : Refresh Byte} {pid counter counter' : Nat}
    (h : r.Inv lib files pid counter) (hle : counter ≤ counter')
    (hfiles : ∀ n ∈ r.sequence?, ∀ dir, files' dir (.temp pid n) = files dir (.temp pid n)) :
    r.Inv lib files' pid counter' := by
  cases r with
  | fetching | fetched info | finished => trivial
  | creatingDir dir info file => exact h
  | persisting p =>
    obtain ⟨hlt, hrenders, hwritten⟩ := h
    refine ⟨hlt.trans_le hle, hrenders, fun hnext => ?_⟩
    rw [hfiles p.sequence rfl]
    exact hwritten hnext

theorem Process.Inv.set (h : d.Inv lib files) {r r' : Refresh Byte} {counter : Nat}
    (hi : d.refreshes[i]? = some r) (hle : d.counter ≤ counter)
    (hr' : r'.Inv lib files' d.pid counter)
    (hsequence : ∀ n ∈ r'.sequence?, n ∈ r.sequence? ∨ d.counter ≤ n)
    (hfiles : ∀ n, n ∉ r.sequence? → ∀ dir,
      files' dir (.temp d.pid n) = files dir (.temp d.pid n)) :
    Process.Inv lib files' { d with refreshes := d.refreshes.set i r', counter := counter } := by
  have hsome : ∀ (j : Nat) (r'' : Refresh Byte), (d.refreshes.set i r')[j]? = some r'' →
      (i = j ∧ r'' = r') ∨ (i ≠ j ∧ d.refreshes[j]? = some r'') := by
    intro j r'' hj
    rw [List.getElem?_set] at hj
    grind
  have hlt : ∀ j n : Nat, d.refreshes[j]?.bind Refresh.sequence? = some n → n < d.counter := by
    intro j n hj
    obtain ⟨r'', hr'', hn⟩ := Option.bind_eq_some_iff.mp hj
    have hinv := h.refreshes j r'' hr''
    cases r'' <;> cases hn
    exact hinv.1
  have hnum : ∀ j n : Nat, (d.refreshes.set i r')[j]?.bind Refresh.sequence? = some n →
      d.refreshes[j]?.bind Refresh.sequence? = some n ∨ i = j ∧ d.counter ≤ n := by
    intro j n hj
    obtain ⟨r'', hr'', hn⟩ := Option.bind_eq_some_iff.mp hj
    obtain ⟨rfl, rfl⟩ | ⟨-, hold⟩ := hsome j r'' hr''
    · obtain hold | hnew := hsequence n hn
      · exact .inl (Option.bind_eq_some_iff.mpr ⟨r, hi, hold⟩)
      · exact .inr ⟨rfl, hnew⟩
    · exact .inl (Option.bind_eq_some_iff.mpr ⟨r'', hold, hn⟩)
  refine ⟨fun _ => h.keyed ?_, h.remembers, fun j r'' hj => ?_, fun j k n hj hk => ?_⟩
  · intro hnil
    simp [hnil] at hi
  · obtain ⟨rfl, rfl⟩ | ⟨hne, hold⟩ := hsome j r'' hj
    · exact hr'
    · refine (h.refreshes j r'' hold).mono hle fun n hn dir => hfiles n (fun hmem => hne ?_) dir
      exact h.apart i j n (Option.bind_eq_some_iff.mpr ⟨r, hi, hmem⟩)
        (Option.bind_eq_some_iff.mpr ⟨r'', hold, hn⟩)
  · obtain hj | ⟨rfl, hj⟩ := hnum j n hj
    · obtain hk | ⟨rfl, hk⟩ := hnum k n hk
      · exact h.apart j k n hj hk
      · exact absurd (hlt j n hj) (by omega)
    · obtain hk | ⟨rfl, -⟩ := hnum k n hk
      · exact absurd (hlt k n hk) (by omega)
      · rfl

theorem Process.Inv.licenseKey_ne (h : d.Inv lib files) {r : Refresh Byte}
    (hi : d.refreshes[i]? = some r) : d.client.licenseKey ≠ "" := by
  refine h.keyed fun hnil => ?_
  simp [hnil] at hi

theorem Exchange.not_madeWith_empty {client : LicenseClient} (h : client.licenseKey ≠ "")
    (info : ValidateResponse) : ¬ Exchange.MadeWith ⟨client.request, info⟩ "" := by
  intro hempty
  exact h (String.append_right_inj _ |>.mp hempty)

namespace Process

theorem Inv.refresh (h : d.Inv lib files) : d.refresh.Inv lib files := by
  rw [Process.refresh]
  by_cases hkey : d.client.licenseKey = ""
  · rw [if_pos hkey]
    exact ⟨h.keyed, .inl (LicenseClient.silent_empty rfl rfl), h.refreshes, h.apart⟩
  · rw [if_neg hkey]
    have hsome : ∀ (j : Nat) (r : Refresh Byte), (d.refreshes ++ [.fetching])[j]? = some r →
        r = .fetching ∨ d.refreshes[j]? = some r := by
      intro j r hj
      rw [List.getElem?_append] at hj
      grind
    have hnum : ∀ j n : Nat, (d.refreshes ++ [.fetching])[j]?.bind Refresh.sequence? = some n →
        d.refreshes[j]?.bind Refresh.sequence? = some n := by
      intro j n hj
      obtain ⟨r, hr, hn⟩ := Option.bind_eq_some_iff.mp hj
      obtain rfl | hr := hsome j r hr
      · cases hn
      · exact Option.bind_eq_some_iff.mpr ⟨r, hr, hn⟩
    refine ⟨fun _ => hkey, h.remembers, fun j r hj => ?_, fun j k n hj hk => ?_⟩
    · obtain rfl | hj := hsome j r hj
      · trivial
      · exact h.refreshes j r hj
    · exact h.apart j k n (hnum j n hj) (hnum k n hk)

theorem Inv.respond {d' : Process Byte} {outcome : HttpOutcome Byte} (h : d.Inv lib files)
    (hd : d.respond lib i outcome = some d') :
    d'.Inv lib files ∧ d'.client = d.client ∧ d'.source = d.source := by
  revert hd
  fun_cases Process.respond lib d i outcome with rintro ⟨⟩
  | case1 hi | case2 hi =>
    exact ⟨h.set hi le_rfl trivial (by simp [Refresh.sequence?]) fun _ _ _ => rfl, rfl, rfl⟩

theorem Inv.update {d' : Process Byte} {now : Int} (h : d.Inv lib files)
    (hd : d.update i now = some d') :
    d'.Inv lib files ∧ ∃ e, d'.source = some e ∧ e.MadeWith d'.client.licenseKey := by
  revert hd
  fun_cases Process.update d i now with rintro ⟨⟩
  | case1 info hi next =>
    have hnext : next.Inv lib files d.pid d.counter ∧ next.sequence? = none := by
      simp only [next]
      split
      · exact ⟨trivial, rfl⟩
      · exact ⟨⟨rfl, rfl⟩, rfl⟩
    have h' := h.set hi le_rfl hnext.1 (by simp [hnext.2]) fun _ _ _ => rfl
    refine ⟨⟨h'.keyed, .inr ⟨_, rfl, ?_, rfl, rfl⟩, h'.refreshes, h'.apart⟩, ⟨_, rfl, rfl⟩⟩
    exact Exchange.not_madeWith_empty (h.licenseKey_ne hi) info

theorem Inv.createDir {d' : Process Byte} {ok : Bool} (h : d.Inv lib files)
    (hd : d.createDir lib i ok = some d') :
    d'.Inv lib files ∧ d'.client = d.client ∧ d'.source = d.source := by
  revert hd
  fun_cases Process.createDir lib d i ok with rintro ⟨⟩
  | case1 dir info file hi raw hraw =>
    have hfile : file.tier = info.tier ∧ file.features = info.flags := h.refreshes i _ hi
    have hrenders : Renders lib raw info :=
      ⟨file, lib.cacheFileOf_toVecPretty file raw hraw, hfile⟩
    refine ⟨h.set hi (Nat.le_succ _) ⟨Nat.lt_succ_self _, hrenders, ?_⟩ ?_ fun _ _ _ => rfl,
      rfl, rfl⟩
    · rintro (hnext | hnext) <;> cases hnext
    · rintro n ⟨⟩
      exact .inr le_rfl
  | case2 _ dir info file hi =>
    exact ⟨h.set hi le_rfl trivial (by simp [Refresh.sequence?]) fun _ _ _ => rfl, rfl, rfl⟩

end Process

namespace World

theorem Inv.renamed (h : s.Inv lib) (hd : s.process = some d) {p : Persisting Byte}
    (hi : d.refreshes[i]? = some (.persisting p)) (hrename : p.next = .rename)
    {content : List Byte} (hcontent : s.files p.dir (.temp d.pid p.sequence) = some content) :
    Inv lib ⟨(s.files.set p.dir .cache (some content)).set p.dir (.temp d.pid p.sequence) none,
      some { d with refreshes := d.refreshes.set i .finished },
      Function.update s.sources p.dir (some ⟨d.client.request, p.info⟩)⟩ := by
  have hinv := h.process d hd
  obtain ⟨-, hrenders, hwritten⟩ : Refresh.Inv lib s.files d.pid d.counter (.persisting p) :=
    hinv.refreshes i _ hi
  rw [hwritten (.inr hrename)] at hcontent
  cases hcontent
  refine ⟨fun dir raw hraw => ?_, ?_⟩
  · have hcache : s.files.set p.dir .cache (some p.raw) dir .cache = some raw :=
      (Files.set_of_ne (by simp) none).symm.trans hraw
    by_cases hdir : dir = p.dir
    · subst hdir
      rw [Files.set_same, Option.some.injEq] at hcache
      subst hcache
      refine ⟨⟨d.client.request, p.info⟩, Function.update_self .., ?_, hrenders⟩
      exact Exchange.not_madeWith_empty (hinv.licenseKey_ne hi) p.info
    · rw [Files.set, if_neg fun heq => hdir heq.1] at hcache
      obtain ⟨e, he, hgrants⟩ := h.cache dir raw hcache
      exact ⟨e, (Function.update_of_ne hdir ..).trans he, hgrants⟩
  · have htemp : ∀ n, n ∉ (Refresh.persisting p).sequence? → ∀ dir,
        (s.files.set p.dir .cache (some p.raw)).set p.dir (.temp d.pid p.sequence) none dir
          (.temp d.pid n) = s.files dir (.temp d.pid n) := by
      intro n hn dir
      have hne : n ≠ p.sequence := fun heq => hn (congrArg some heq.symm)
      rw [Files.set_of_ne (by simpa using hne), Files.set_of_ne (by simp)]
    rintro _ ⟨⟩
    exact hinv.set hi le_rfl trivial (by simp [Refresh.sequence?]) htemp

theorem Inv.persisted (h : s.Inv lib) (hd : s.process = some d) {p : Persisting Byte}
    (hi : d.refreshes[i]? = some (.persisting p)) {next : Option (Persisting Byte)}
    (hframe : ∀ dir name, name ≠ .temp d.pid p.sequence → files' dir name = s.files dir name)
    (hnext : ∀ p' ∈ next, p' = { p with next := p'.next } ∧
      (p'.next = .sync ∨ p'.next = .rename →
        files' p.dir (.temp d.pid p.sequence) = some p.raw ∨
          p.next = .sync ∧ files' = s.files)) :
    Inv lib ⟨files', some { d with refreshes := d.refreshes.set i (.ofPersisting next) },
      s.sources⟩ := by
  have hinv := h.process d hd
  obtain ⟨hlt, hrenders, hwritten⟩ : Refresh.Inv lib s.files d.pid d.counter (.persisting p) :=
    hinv.refreshes i _ hi
  have htemp : ∀ n, n ∉ (Refresh.persisting p).sequence? → ∀ dir,
      files' dir (.temp d.pid n) = s.files dir (.temp d.pid n) := by
    intro n hn dir
    have hne : n ≠ p.sequence := fun heq => hn (congrArg some heq.symm)
    exact hframe dir _ (by simpa using hne)
  refine ⟨fun dir raw hraw => h.cache dir raw (hframe dir .cache (by simp) ▸ hraw), ?_⟩
  rintro _ ⟨⟩
  cases next with
  | none =>
    exact hinv.set hi le_rfl trivial (by simp [Refresh.ofPersisting, Refresh.sequence?]) htemp
  | some p' =>
    obtain ⟨hp', hfile⟩ := hnext p' rfl
    have hsequence : p'.sequence = p.sequence := by rw [hp']
    have hrenders' : Renders lib p'.raw p'.info := by
      rw [hp']
      exact hrenders
    refine hinv.set hi le_rfl ⟨hsequence ▸ hlt, hrenders', fun hwhen => ?_⟩ ?_ htemp
    · have hsame : files' p.dir (.temp d.pid p.sequence) = some p.raw := by
        obtain hnew | ⟨hsync, rfl⟩ := hfile hwhen
        · exact hnew
        · exact hwritten (.inl hsync)
      rw [hp']
      exact hsame
    · rintro n ⟨⟩
      exact .inl (congrArg some hsequence.symm)

theorem Inv.persist (h : s.Inv lib) (hd : s.process = some d) {outcome : IoOutcome Byte}
    (ht : s.persist d i outcome = some t) :
    t.Inv lib ∧ ∃ d', t.process = some d' ∧ d'.client = d.client ∧ d'.source = d.source := by
  revert ht
  fun_cases World.persist s d i outcome with intro ht
  | case1 p hi =>
    obtain ⟨⟨files', next⟩, hstep, rfl⟩ := Option.map_eq_some_iff.mp ht
    refine ⟨?_, _, rfl, rfl, rfl⟩
    obtain ⟨content, hrenames, hrename, rfl, hcontent, rfl⟩ | ⟨hno, hframe, hnext⟩ :=
      Persisting.step_cases hstep
    · rw [if_pos hrenames]
      exact h.renamed hd hi hrename hcontent
    · rw [if_neg (by simp [hno])]
      exact h.persisted hd hi hframe hnext
  | _ => cases ht

theorem Inv.start (h : s.Inv lib) (options : LicenseClientOptions) (pid : Nat) (readable : Bool) :
    (s.start lib options pid readable).Remembers := by
  cases hcached : s.cached options readable with
  | none =>
    refine .inl (LicenseClient.silent_new_iff.mpr ?_)
    simp [hcached]
  | some raw =>
    rw [cached, Option.ite_none_right_eq_some] at hcached
    obtain ⟨rfl, hraw⟩ := hcached
    obtain ⟨dir, hdir, hraw⟩ := Option.bind_eq_some_iff.mp hraw
    obtain ⟨e, he, hkeyed, file, hfile, htier, hfeatures⟩ := h.cache dir raw hraw
    refine .inr ⟨e, by simp [World.start, hdir, he], hkeyed, ?_, ?_⟩
    · simp [World.start, LicenseClient.new, cached, hdir, hraw, hfile, htier]
    · simp [World.start, LicenseClient.new, cached, hdir, hraw, hfile, hfeatures]

theorem Inv.reportsOwn_start_iff (h : s.Inv lib) (options : LicenseClientOptions) (pid : Nat)
    (readable : Bool) :
    (s.start lib options pid readable).ReportsOwn ↔
      s.FindsOwn lib (.start options pid readable) := by
  rw [(h.start options pid readable).own_iff]
  simp only [World.start, LicenseClient.silent_new_iff, FindsOwn]
  cases hfile : (s.cached options readable).bind lib.cacheFileOf with
  | none => simp
  | some file =>
    have hreadable : readable = true := by
      by_contra hnot
      simp [cached, hnot] at hfile
    simp [hreadable, LicenseClient.new]

theorem ReportsOwn.congr {d' : Process Byte} (h : s.ReportsOwn) (hd : s.process = some d)
    (hd' : t.process = some d') (hclient : d'.client = d.client) (hsource : d'.source = d.source) :
    t.ReportsOwn := by
  intro _ heq
  obtain rfl := Option.some.inj (hd'.symm.trans heq)
  obtain ⟨hgranted, hunlicensed⟩ := h d hd
  constructor
  · rw [hclient, hsource]
    exact hgranted
  · rw [hclient]
    exact hunlicensed

theorem Inv.withProcess (h : s.Inv lib) {d' : Process Byte} (hd' : d'.Inv lib s.files) :
    Inv lib { s with process := some d' } :=
  ⟨h.cache, by rintro _ ⟨⟩; exact hd'⟩

theorem Inv.step (h : s.Inv lib) {a : Label Byte} (ht : s.step lib a = some t) :
    t.Inv lib ∧ (s.ReportsOwn → (t.ReportsOwn ↔ s.FindsOwn lib a)) := by
  cases a with
  | start options pid readable =>
    cases hnone : s.process with
    | some d => simp [World.step, hnone] at ht
    | none =>
      simp only [World.step, hnone, Option.some.injEq] at ht
      subst ht
      refine ⟨h.withProcess ⟨fun hne => absurd rfl hne, h.start options pid readable, ?_, ?_⟩,
        fun _ => ?_⟩
      · simp [World.start]
      · simp [World.start]
      · rw [← h.reportsOwn_start_iff options pid readable]
        exact ⟨fun hall => hall _ rfl, by rintro hone _ ⟨⟩; exact hone⟩
  | refresh =>
    obtain ⟨d, hd, rfl⟩ := Option.map_eq_some_iff.mp ht
    have hinv := (h.process d hd).refresh
    refine ⟨h.withProcess hinv, fun hown => iff_of_true ?_ trivial⟩
    by_cases hkey : d.client.licenseKey = ""
    · rintro _ ⟨⟩
      rw [hinv.remembers.own_iff, Process.refresh, if_pos hkey]
      exact .inl (LicenseClient.silent_empty rfl rfl)
    · refine hown.congr hd rfl ?_ ?_ <;> rw [Process.refresh, if_neg hkey]
  | respond i outcome =>
    obtain ⟨d', hd', rfl⟩ := Option.map_eq_some_iff.mp ht
    obtain ⟨d, hd, hd'⟩ := Option.bind_eq_some_iff.mp hd'
    obtain ⟨hinv, hclient, hsource⟩ := (h.process d hd).respond hd'
    exact ⟨h.withProcess hinv, fun hown => iff_of_true (hown.congr hd rfl hclient hsource) trivial⟩
  | update i now =>
    obtain ⟨d', hd', rfl⟩ := Option.map_eq_some_iff.mp ht
    obtain ⟨d, hd, hd'⟩ := Option.bind_eq_some_iff.mp hd'
    obtain ⟨hinv, hgranted⟩ := (h.process d hd).update hd'
    refine ⟨h.withProcess hinv, fun _ => iff_of_true ?_ trivial⟩
    rintro _ ⟨⟩
    exact hinv.remembers.own_iff.mpr (.inr hgranted)
  | createDir i ok =>
    obtain ⟨d', hd', rfl⟩ := Option.map_eq_some_iff.mp ht
    obtain ⟨d, hd, hd'⟩ := Option.bind_eq_some_iff.mp hd'
    obtain ⟨hinv, hclient, hsource⟩ := (h.process d hd).createDir hd'
    exact ⟨h.withProcess hinv, fun hown => iff_of_true (hown.congr hd rfl hclient hsource) trivial⟩
  | persist i outcome =>
    obtain ⟨d, hd, ht⟩ := Option.bind_eq_some_iff.mp ht
    obtain ⟨hinv, d', hd', hclient, hsource⟩ := h.persist hd ht
    exact ⟨hinv, fun hown => iff_of_true (hown.congr hd hd' hclient hsource) trivial⟩
  | exit =>
    obtain ⟨d, hd, rfl⟩ := Option.map_eq_some_iff.mp ht
    exact ⟨⟨h.cache, nofun⟩, fun _ => iff_of_true nofun trivial⟩

end World

end Invariant

/-- **Entitlements are those of the configured key** exactly if clients find no loud cache of
another key. -/
theorem reportsOwn_iff {Byte : Type} (lib : Serde Byte) {labels : List (Label Byte)}
    {t : World Byte} (hr : run (World.step lib) World.fresh labels = some t) :
    Throughout (World.step lib) World.ReportsOwn World.fresh labels ↔
      Along (World.step lib) (World.FindsOwn lib) World.fresh labels := by
  refine throughout_iff_along (J := World.Inv lib) (fun s a t h _ ht => (h.step ht).1)
    (fun s a t h hown ht => (h.step ht).2 hown) ⟨nofun, nofun⟩ nofun hr

def plainSerde : Serde (CacheFile ⊕ ValidateResponse) where
  responseOf
    | [.inr info] => some info
    | _ => none
  toVecPretty file := some [.inl file]
  cacheFileOf
    | [.inl file] => some file
    | _ => none
  lossy _ := ""
  cacheFileOf_toVecPretty := by
    rintro file _ ⟨⟩
    rfl

def restartRun (licenseKey licenseKey' : String) :
    List (Label (CacheFile ⊕ ValidateResponse)) :=
  [.start ⟨licenseKey, "", "", some "license"⟩ 7 true, .refresh,
    .respond 0 (.response 200 [.inr ⟨"enterprise", [⟨"penguin.squawk", true⟩]⟩]),
    .update 0 1700000000, .createDir 0 true, .persist 0 .done, .persist 0 .done, .persist 0 .done,
    .persist 0 .done, .persist 0 .done, .exit,
    .start ⟨licenseKey', "", "", some "license"⟩ 8 true]

theorem reportsOwn_restartRun :
    Throughout (World.step plainSerde) World.ReportsOwn World.fresh
      (restartRun "PENG-1" "PENG-1") :=
  (reportsOwn_iff plainSerde (Option.some_get (by decide +kernel)).symm).mpr (by decide +kernel)

theorem unlicensed_tier_reported :
    ∃ t d, run (World.step plainSerde) World.fresh (restartRun "PENG-1" "") = some t ∧
      t.process = some d ∧ d.client.licenseKey = "" ∧ d.client.tier = "enterprise" ∧
      ¬ Throughout (World.step plainSerde) World.ReportsOwn World.fresh
        (restartRun "PENG-1" "") := by
  have hd := (Option.some_get (x := (run (World.step plainSerde) World.fresh
    (restartRun "PENG-1" "")).bind (·.process)) (by decide +kernel)).symm
  obtain ⟨t, ht, hd⟩ := Option.bind_eq_some_iff.mp hd
  refine ⟨t, _, ht, hd, by decide +kernel, by decide +kernel, fun hall => ?_⟩
  have hsilent := (hall _ t List.prefix_rfl ht _ hd).unlicensed (by decide +kernel)
  exact absurd hsilent.1 (by decide +kernel)

end Penguind.Licensing
