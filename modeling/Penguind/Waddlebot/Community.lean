import Penguind.Waddleai.Keys

/-!
# Changes of the configuration that run at once

The module switches its community by putting a new client in place and then storing the id that it
reports. What comes of concurrent changes is put together for both modules.
-/

namespace Penguind.Waddlebot.Community

open Foundation Waddleai

structure HubConfig where
  baseUrl : String
  communityId : Int64
  cat : String
  deriving DecidableEq, Repr

structure Hub where
  cat : String
  client : HubConfig
  communityId : Int64
  deriving DecidableEq, Repr

inductive HubEffect
  | cat
  | newClient (config : HubConfig)
  | putClient (config : HubConfig)
  | storeCommunityId (communityId : Int64)

abbrev HubAnswer : HubEffect → Type
  | .cat => String
  | .newClient _ => Except String Unit
  | .putClient _ | .storeCommunityId _ => Unit

def hubAct (s : Hub) : (e : HubEffect) → HubAnswer e → Option Hub
  | .cat, cat => if cat = s.cat then some s else none
  | .newClient _, _ => some s
  | .putClient config, _ => some { s with client := config }
  | .storeCommunityId communityId, _ => some { s with communityId := communityId }

def hubCall (e : HubEffect) : Prog HubEffect HubAnswer (HubAnswer e) := .effect e .done

def setCommunity (baseUrl : String) (communityId : Int64) :
    Prog HubEffect HubAnswer (Except String Unit) := do
  let cat ← hubCall .cat
  let hubConfig : HubConfig := ⟨baseUrl, communityId, cat⟩
  match ← hubCall (.newClient hubConfig) with
  | .error err => pure (.error ("rebuild hub client: " ++ err))
  | .ok _ =>
    hubCall (.putClient hubConfig)
    hubCall (.storeCommunityId communityId)
    pure (.ok ())

def switches (baseUrl : String) :
    TaskMachine Hub HubEffect HubAnswer Int64 (Except String Unit) Unit where
  act := hubAct
  code := setCommunity baseUrl
  forks _ := []
  callable _ := true
  entry := ()
  next _ _ _ := some ()

def installedCommunity : (e : HubEffect) → HubAnswer e → Option Int64
  | .putClient config, _ => some config.communityId
  | _, _ => none

def storedCommunity : (e : HubEffect) → HubAnswer e → Option Int64
  | .storeCommunityId communityId, _ => some communityId
  | _, _ => none

theorem hubAct_places {s t : Hub} {e : HubEffect} {r : HubAnswer e} (h : hubAct s e r = some t) :
    t.client.communityId = (installedCommunity e r).getD s.client.communityId ∧
      t.communityId = (storedCommunity e r).getD s.communityId := by
  revert h
  fun_cases hubAct s e r with rintro ⟨⟩ <;> exact ⟨rfl, rfl⟩

theorem communityAgrees_iff {baseUrl : String} {s : Hub}
    {p : Pool Hub HubEffect HubAnswer (Except String Unit) Unit}
    {as : List (TaskLabel HubEffect HubAnswer Int64)}
    (hr : run (switches baseUrl).step ⟨s, []⟩ as = some p)
    (hs : s.client.communityId = s.communityId) :
    p.world.client.communityId = p.world.communityId ↔
      ((switches baseUrl).lastWritten installedCommunity s as).getD s.communityId =
        ((switches baseUrl).lastWritten storedCommunity s as).getD s.communityId := by
  have hinstalled := TaskMachine.place_eq_lastWritten (fun s => s.client.communityId)
    (fun s e r t h => (hubAct_places h).1) hr
  have hstored := TaskMachine.place_eq_lastWritten Hub.communityId
    (fun s e r t h => (hubAct_places h).2) hr
  rw [hs] at hinstalled
  rw [hinstalled, hstored]

def changing (i number : Nat) : List (TaskLabel Effect Answer CallName) :=
  steps i 5 (replies "" number)

def switching (i n : Nat) : List (TaskLabel HubEffect HubAnswer Int64) :=
  List.replicate n (.step i fun
    | .cat => "cat"
    | .newClient _ => .ok ()
    | .putClient _ | .storeCommunityId _ => ())

end Penguind.Waddlebot.Community
