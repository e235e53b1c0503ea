import Penguind.Foundation.Tasks
import Penguind.Waddleai.Denylist

/-!
# Changing the key, probing it and syncing the denylist

The calls of the module run at once, and each part of what they share has its own lock. A probe
with the old client writes its outcome whenever the server has answered.
-/

namespace Penguind.Waddleai

open Foundation

inductive AuthState
  | ok
  | unauthorized
  | unreachable
  deriving DecidableEq, Repr

structure ClientNote where
  number : Nat
  key : String
  deriving DecidableEq, Repr

structure AuthProbe where
  state : AuthState
  checkedAt : SystemTime
  madeWith : ClientNote
  deriving DecidableEq, Repr

structure DenylistResponse where
  version : String
  entries : List String
  deriving DecidableEq, Repr

/-- The last two fields are notes: the number of the client, and the changes that are through. -/
structure Shared where
  secret : Option String
  client : WaddleAiClient
  virtualKey : String
  lastProbe : Option AuthProbe
  file : Option DenylistCache
  denylist : DenylistCache
  number : Nat
  changes : List ClientNote
  deriving DecidableEq, Repr

def authCacheTtl : Duration := .fromSecs 5

def Shared.served (s : Shared) (now : SystemTime) : Option AuthProbe :=
  s.lastProbe.filter fun probe => (now.durationSince probe.checkedAt).any (· < authCacheTtl)

inductive Effect
  | secretsSet (value : String)
  | newClient (client : WaddleAiClient)
  | putClient (client : WaddleAiClient)
  | putVirtualKey (value : String)
  | clearProbe (change : ClientNote)
  | served
  | client
  | health (client : WaddleAiClient)
  | now
  | putProbe (probe : AuthProbe)
  | fetchDenylist (client : WaddleAiClient)
  | denylistSnapshot
  | save (cache : DenylistCache)
  | putDenylist (cache : DenylistCache)

abbrev Answer : Effect → Type
  | .secretsSet _ | .newClient _ | .save _ => Except String Unit
  | .putClient _ => Nat
  | .putVirtualKey _ | .clearProbe _ | .putProbe _ | .putDenylist _ => Unit
  | .served => Option AuthProbe × SystemTime
  | .client => WaddleAiClient × Nat
  | .health _ => AuthState
  | .now => SystemTime
  | .fetchDenylist _ => Except WaddleAiError DenylistResponse
  | .denylistSnapshot => DenylistCache

def act (s : Shared) : (e : Effect) → Answer e → Option Shared
  | .secretsSet value, .ok _ => some { s with secret := some value }
  | .secretsSet _, .error _ | .newClient _, _ | .health _, _ | .now, _ | .fetchDenylist _, _
  | .save _, .error _ => some s
  | .putClient client, n =>
    if n = s.number + 1 then some { s with client := client, number := n } else none
  | .putVirtualKey value, _ => some { s with virtualKey := value }
  | .clearProbe change, _ => some { s with lastProbe := none, changes := change :: s.changes }
  | .served, r => if r.1 = s.served r.2 then some s else none
  | .client, r => if r = (s.client, s.number) then some s else none
  | .putProbe probe, _ => some { s with lastProbe := some probe }
  | .denylistSnapshot, r => if r = s.denylist then some s else none
  | .save cache, .ok _ => some { s with file := some cache }
  | .putDenylist cache, _ => some { s with denylist := cache }

abbrev Op (A : Type) := Prog Effect Answer A

def call (e : Effect) : Op (Answer e) := .effect e .done

def setVirtualKey (baseUrl value : String) : Op (Except String Unit) := do
  match ← call (.secretsSet value) with
  | .error err => pure (.error ("store virtual key: " ++ err))
  | .ok _ =>
    let client : WaddleAiClient := ⟨baseUrl, value⟩
    match ← call (.newClient client) with
    | .error err => pure (.error ("rebuild WaddleAI client: " ++ err))
    | .ok _ =>
      let number ← call (.putClient client)
      call (.putVirtualKey value)
      call (.clearProbe ⟨number, value⟩)
      pure (.ok ())

def probeAuth : Op AuthProbe := do
  let (cached, _) ← call .served
  match cached with
  | some probe => pure probe
  | none =>
    let (client, number) ← call .client
    -- an answer that does not come in time counts as unreachable
    let state ← call (.health client)
    let checkedAt ← call .now
    let probe : AuthProbe := ⟨state, checkedAt, number, client.virtualKey⟩
    call (.putProbe probe)
    pure probe

def syncDenylist : Op (Except WaddleAiError DenylistCache) := do
  let (client, _) ← call .client
  match ← call (.fetchDenylist client) with
  | .error err => pure (.error err)
  | .ok response =>
    let cache ← call .denylistSnapshot
    let now ← call .now
    let cache := cache.recordSync response.version response.entries now
    let _ ← call (.save cache)
    call (.putDenylist cache)
    pure (.ok cache)

inductive CallName
  | setVirtualKey (value : String)
  | probeAuth
  | syncDenylist

def calls (baseUrl : String) : TaskMachine Shared Effect Answer CallName Unit Unit where
  act := act
  code
    | .setVirtualKey value => do let _ ← setVirtualKey baseUrl value
    | .probeAuth => do let _ ← probeAuth
    | .syncDenylist => do let _ ← syncDenylist
  forks _ := []
  callable _ := true
  entry := ()
  next _ _ _ := some ()

/-! ## The copies of the key and of the denylist -/

def Shared.KeysAgree (s : Shared) : Prop :=
  s.secret.getD "" = s.virtualKey ∧ s.client.virtualKey = s.virtualKey

instance (s : Shared) : Decidable s.KeysAgree := inferInstanceAs (Decidable (_ ∧ _))

def storedKey : (e : Effect) → Answer e → Option String
  | .secretsSet value, .ok _ => some value
  | _, _ => none

def installedKey : (e : Effect) → Answer e → Option String
  | .putClient client, _ => some client.virtualKey
  | _, _ => none

def keptKey : (e : Effect) → Answer e → Option String
  | .putVirtualKey value, _ => some value
  | _, _ => none

def savedDenylist : (e : Effect) → Answer e → Option DenylistCache
  | .save cache, .ok _ => some cache
  | _, _ => none

def keptDenylist : (e : Effect) → Answer e → Option DenylistCache
  | .putDenylist cache, _ => some cache
  | _, _ => none

section

variable {baseUrl : String} {s : Shared} {p : Pool Shared Effect Answer Unit Unit}
  {as : List (TaskLabel Effect Answer CallName)}

theorem act_places {t : Shared} {e : Effect} {r : Answer e} (h : act s e r = some t) :
    t.secret.getD "" = (storedKey e r).getD (s.secret.getD "") ∧
      t.client.virtualKey = (installedKey e r).getD s.client.virtualKey ∧
      t.virtualKey = (keptKey e r).getD s.virtualKey ∧
      t.file.getD .empty = (savedDenylist e r).getD (s.file.getD .empty) ∧
      t.denylist = (keptDenylist e r).getD s.denylist := by
  revert h
  fun_cases act s e r with rintro ⟨⟩ <;> exact ⟨rfl, rfl, rfl, rfl, rfl⟩

/-- **The copies of the key** agree exactly if the last writes do. -/
theorem keysAgree_iff (hr : run (calls baseUrl).step ⟨s, []⟩ as = some p) (hs : s.KeysAgree) :
    let last := fun g => ((calls baseUrl).lastWritten g s as).getD s.virtualKey
    p.world.KeysAgree ↔ last storedKey = last keptKey ∧ last installedKey = last keptKey := by
  intro last
  have hstored := TaskMachine.place_eq_lastWritten (fun s => s.secret.getD "")
    (fun s e r t h => (act_places h).1) hr
  have hinstalled := TaskMachine.place_eq_lastWritten (fun s => s.client.virtualKey)
    (fun s e r t h => (act_places h).2.1) hr
  have hkept := TaskMachine.place_eq_lastWritten Shared.virtualKey
    (fun s e r t h => (act_places h).2.2.1) hr
  rw [hs.1] at hstored
  rw [hs.2] at hinstalled
  rw [Shared.KeysAgree, hstored, hinstalled, hkept]

theorem denylistsAgree_iff (hr : run (calls baseUrl).step ⟨s, []⟩ as = some p)
    (hs : s.file.getD .empty = s.denylist) :
    p.world.file.getD .empty = p.world.denylist ↔
      ((calls baseUrl).lastWritten savedDenylist s as).getD s.denylist =
        ((calls baseUrl).lastWritten keptDenylist s as).getD s.denylist := by
  have hsaved := TaskMachine.place_eq_lastWritten (fun s => s.file.getD .empty)
    (fun s e r t h => (act_places h).2.2.2.1) hr
  have hkept := TaskMachine.place_eq_lastWritten Shared.denylist
    (fun s e r t h => (act_places h).2.2.2.2) hr
  rw [hs] at hsaved
  rw [hsaved, hkept]

/-! ## The cached probe -/

/-- A probe that is served was not made before a change of the key. -/
def Shared.ServesCurrent (s : Shared) : Prop :=
  ∀ now, ∀ probe ∈ s.served now, ∀ change ∈ s.changes,
    probe.madeWith.number < change.number → probe.madeWith.key = change.key

/-- A probe is kept while no change of the key came after its client was taken. -/
def InTime (s : Shared) (_ : List Unit) (_ : Unit) : (e : Effect) → Answer e → Prop
  | .putProbe probe, _ =>
    ∀ change ∈ s.changes, probe.madeWith.number < change.number → probe.madeWith.key = change.key
  | _, _ => True

theorem exists_served {probe : AuthProbe} :
    s.lastProbe = some probe → ∃ now, probe ∈ s.served now := by
  intro h
  refine ⟨probe.checkedAt, ?_⟩
  simp [Shared.served, h, SystemTime.durationSince, authCacheTtl, Duration.fromSecs]

theorem servesCurrent_iff_forall : s.ServesCurrent ↔
    ∀ probe ∈ s.lastProbe, ∀ change ∈ s.changes,
      probe.madeWith.number < change.number → probe.madeWith.key = change.key := by
  constructor
  · intro h probe hprobe
    obtain ⟨now, hnow⟩ := exists_served hprobe
    exact h now probe hnow
  · intro h now probe hnow
    exact h probe (Option.mem_filter_iff.mp hnow).1

theorem act_servesCurrent {t : Shared} {e : Effect} {r : Answer e} (hs : s.ServesCurrent)
    (h : act s e r = some t) : t.ServesCurrent ↔ InTime s [] () e r := by
  rw [servesCurrent_iff_forall] at hs ⊢
  revert h
  fun_cases act s e r with rintro ⟨⟩
  | case11 | case16 => simp [InTime]
  | _ => exact iff_of_true hs trivial

/-- **No outdated probe is served** exactly if every probe is kept in time. -/
theorem servesCurrent_iff (hr : run (calls baseUrl).step ⟨s, []⟩ as = some p)
    (hs : s.ServesCurrent) :
    Throughout (calls baseUrl).step (fun p => p.world.ServesCurrent) ⟨s, []⟩ as ↔
      Along (calls baseUrl).step (TaskMachine.Meets InTime) ⟨s, []⟩ as := by
  refine throughout_iff_along (J := fun _ => True) (fun _ _ _ _ _ _ => trivial)
    (fun p a q _ hp hq => ?_) trivial hs hr
  rcases TaskMachine.world_of_step hq with ⟨n, rfl, hworld⟩ | ⟨i, f, m, e, k, rfl, hi, hu⟩
  · rw [hworld]
    exact iff_of_true hp trivial
  · simp only [TaskMachine.Meets, hi]
    exact act_servesCurrent hp hu

end

def unset : Shared := ⟨none, ⟨"https://waddleai", ""⟩, "", none, none, .empty, 0, []⟩

def replies (key : String) (number : Nat) : (e : Effect) → Answer e
  | .secretsSet _ | .newClient _ | .save _ => .ok ()
  | .putClient _ => number
  | .putVirtualKey _ | .clearProbe _ | .putProbe _ | .putDenylist _ => ()
  | .served => (none, 0)
  | .client => (⟨"https://waddleai", key⟩, number)
  | .health _ => .unauthorized
  | .now => 0
  | .fetchDenylist _ => .ok ⟨key, [key]⟩
  | .denylistSnapshot => .empty

def steps (i n : Nat) (f : (e : Effect) → Answer e) : List (TaskLabel Effect Answer CallName) :=
  List.replicate n (.step i f)

end Penguind.Waddleai
