import Penguind.Daemon.Ledger
import Penguind.Daemon.RestartBudget

/-!
# The module listing and the names in it

Entries are kept under the name a module was loaded by, and the listing shows the name the module
reports. Status and command requests look the names of the listing up among the entries.
-/

namespace Penguind.Daemon

open Supervisor

structure ModuleInfo where
  name : String
  version : String
  description : String
  licenseFeature : String
  deriving DecidableEq, Repr

structure Status where
  state : ModuleState
  detail : List (String × String)
  deriving DecidableEq, Repr

/-- What the modules report about themselves. -/
structure Reports (γ : Type) where
  builtinInfo : String → ModuleInfo
  info : InstanceId → ModuleInfo
  status : InstanceId → Except String Status
  health : InstanceId → HealthReport
  commands : InstanceId → List γ

abbrev Row := ModuleInfo × ModuleState × Bool

structure ModuleStatus where
  name : String
  state : String
  detail : List (String × String)
  health : String
  healthMessage : String
  deriving DecidableEq, Repr

def HealthLevel.asStr : HealthLevel → String
  | .healthy => "healthy"
  | .degraded => "degraded"
  | .unhealthy => "unhealthy"

namespace Supervisor

variable {γ : Type} (M : Reports γ) (cfg : SupervisorConfig) (s : Supervisor)

def listedState (n : String) : ModuleState :=
  match s.loaded.lookup n with
  | some m => m.state
  | none => .disabled

/-- The registered names, and then the other entries. -/
def listRows : List (String × Row) :=
  (cfg.registry.dedup.map fun n => (n, M.builtinInfo n, s.listedState n, false)) ++
    (s.loaded.entries.filter fun e => e.1 ∉ cfg.registry).map fun e =>
      (e.1, M.info e.2.inst, e.2.state, true)

def list : List Row := (listRows M cfg s).map Prod.snd

def loadedModuleOrErr (name : String) : Except SupervisorError InstanceId :=
  match s.loaded.lookup name with
  | some m => .ok m.inst
  | none => if name ∈ cfg.registry then .error (.notLoaded name) else .error (.unknownModule name)

def status (name : String) : Except SupervisorError Status :=
  (loadedModuleOrErr cfg s name).bind fun i => (M.status i).mapError .module

def health (name : String) : Except SupervisorError HealthReport :=
  (loadedModuleOrErr cfg s name).map M.health

def commands (name : String) : Except SupervisorError (List γ) :=
  (loadedModuleOrErr cfg s name).map M.commands

def moduleStatusProto (name : String) : Except SupervisorError ModuleStatus :=
  (status M cfg s name).bind fun st => (health M cfg s name).map fun h =>
    ⟨name, st.state.asStr, st.detail, h.level.asStr, h.message⟩

def getStatus : List ModuleStatus :=
  (list M cfg s).filterMap fun row => (moduleStatusProto M cfg s row.1.name).toOption

def listCommands : List (String × List γ) :=
  (list M cfg s).filterMap fun row =>
    ((commands M cfg s row.1.name).map fun c => (row.1.name, c)).toOption

end Supervisor

section Faithful

variable {γ : Type} (M : Reports γ) (cfg : SupervisorConfig) (s : Supervisor)

structure LeadsTo (n : String) (m : LoadedModule) (given : String) : Prop where
  asked : loadedModuleOrErr cfg s given = .ok m.inst
  unloaded : ∀ saved, (s.unload given saved).loaded = s.loaded.erase n

def ownStatus (e : Sigma fun _ : String => LoadedModule) : Option ModuleStatus :=
  ((M.status e.2.inst).toOption).map fun st =>
    ⟨e.1, st.state.asStr, st.detail, (M.health e.2.inst).level.asStr, (M.health e.2.inst).message⟩

/-- Rows and entries correspond, and the two requests have one answer for every entry. -/
structure ListingFaithful : Prop where
  rows : (((listRows M cfg s).filter fun r => (s.loaded.lookup r.1).isSome).map Prod.fst).Perm
    s.loaded.keys
  leads : ∀ r ∈ listRows M cfg s, ∀ m, s.loaded.lookup r.1 = some m →
    LeadsTo cfg s r.1 m r.2.1.name
  statuses : (getStatus M cfg s).Perm (s.loaded.entries.filterMap (ownStatus M))
  commands : (listCommands M cfg s).Perm
    (s.loaded.entries.map fun e => (e.1, M.commands e.2.inst))

def reportedName (n : String) (m : LoadedModule) : String :=
  if n ∈ cfg.registry then (M.builtinInfo n).name else (M.info m.inst).name

/-- Modules report the names they were loaded by, and no other module reports one of these. -/
def NameThemselves : Prop :=
  (∀ n m, s.loaded.lookup n = some m → reportedName M cfg n m = n) ∧
    ∀ n ∈ cfg.registry, s.loaded.lookup n = none → s.loaded.lookup (M.builtinInfo n).name = none

end Faithful

section Rows

variable {γ : Type} {M : Reports γ} {cfg : SupervisorConfig} {s : Supervisor}

theorem mem_listRows {r : String × Row} (h : r ∈ listRows M cfg s) :
    (∀ m, s.loaded.lookup r.1 = some m → r.2.1.name = reportedName M cfg r.1 m) ∧
      (s.loaded.lookup r.1 = none → r.1 ∈ cfg.registry ∧ r.2.1 = M.builtinInfo r.1) := by
  rcases List.mem_append.mp h with h | h
  · obtain ⟨n, hn, rfl⟩ := List.mem_map.mp h
    have hn' := List.mem_dedup.mp hn
    refine ⟨fun m _ => ?_, fun _ => ⟨hn', rfl⟩⟩
    rw [reportedName, if_pos hn']
  · obtain ⟨e, he, rfl⟩ := List.mem_map.mp h
    obtain ⟨he, hn⟩ := List.mem_filter.mp he
    have hl : s.loaded.lookup e.1 = some e.2 := AList.mem_lookup_iff.mpr he
    refine ⟨fun m hm => ?_, fun hnone => nomatch hl.symm.trans hnone⟩
    obtain rfl : e.2 = m := Option.mem_unique hl hm
    rw [reportedName, if_neg (of_decide_eq_true hn)]

theorem nodup_listRows : ((listRows M cfg s).map Prod.fst).Nodup := by
  simp only [listRows, List.map_append, List.map_map]
  refine List.Nodup.append ?_ ?_ ?_
  · exact (List.map_id _).symm ▸ List.nodup_dedup _
  · exact (s.loaded.nodupKeys.sublist List.filter_sublist)
  · intro n h₁ h₂
    obtain ⟨n₁, hn₁, rfl⟩ := List.mem_map.mp h₁
    obtain ⟨e, he, hn₂⟩ := List.mem_map.mp h₂
    have hnot : e.1 ∉ cfg.registry := of_decide_eq_true (List.mem_filter.mp he).2
    have heq : e.1 = n₁ := hn₂
    exact hnot (heq ▸ List.mem_dedup.mp hn₁)

theorem mem_listRows_of_lookup (M : Reports γ) (cfg : SupervisorConfig) {n : String}
    {m : LoadedModule} (h : s.loaded.lookup n = some m) : n ∈ (listRows M cfg s).map Prod.fst := by
  simp only [listRows, List.map_append, List.map_map, List.mem_append]
  by_cases hn : n ∈ cfg.registry
  · exact .inl (List.mem_map.mpr ⟨n, List.mem_dedup.mpr hn, rfl⟩)
  · refine .inr (List.mem_map.mpr ⟨⟨n, m⟩, List.mem_filter.mpr ⟨?_, decide_eq_true hn⟩, rfl⟩)
    exact AList.mem_lookup_iff.mp h

theorem rows_perm_keys :
    (((listRows M cfg s).filter fun r => (s.loaded.lookup r.1).isSome).map Prod.fst).Perm
      s.loaded.keys := by
  have hnodup : (((listRows M cfg s).filter fun r =>
      (s.loaded.lookup r.1).isSome).map Prod.fst).Nodup :=
    nodup_listRows.sublist (List.filter_sublist.map _)
  refine (List.perm_ext_iff_of_nodup hnodup s.loaded.nodupKeys).mpr fun n => ?_
  have hkey : n ∈ s.loaded.entries.keys ↔ (s.loaded.lookup n).isSome := AList.lookup_isSome.symm
  rw [hkey, List.mem_map]
  constructor
  · rintro ⟨r, hr, rfl⟩
    exact (List.mem_filter.mp hr).2
  · intro hn
    obtain ⟨m, hm⟩ := Option.isSome_iff_exists.mp hn
    obtain ⟨r, hr, rfl⟩ := List.mem_map.mp (mem_listRows_of_lookup M cfg hm)
    exact ⟨r, List.mem_filter.mpr ⟨hr, hn⟩, rfl⟩

theorem leadsTo_iff {n given : String} {m : LoadedModule} (hl : s.loaded.lookup n = some m) :
    LeadsTo cfg s n m given ↔ given = n := by
  have hun : ∀ saved, (s.unload given saved).loaded = s.loaded.erase given := fun saved =>
    congrArg View.loaded (view_unload s given saved)
  constructor
  · intro h
    by_contra hne
    -- The entry would be gone although another name was unloaded.
    have he : (s.loaded.erase given).lookup n = (s.loaded.erase n).lookup n := by
      rw [← hun true, h.unloaded true]
    rw [AList.lookup_erase_ne (Ne.symm hne), AList.lookup_erase, hl] at he
    cases he
  · rintro rfl
    exact ⟨by simp only [loadedModuleOrErr, hl], hun⟩

theorem filterMap_rows_perm (M : Reports γ) (cfg : SupervisorConfig) (s : Supervisor) {β : Type}
    (f : (Sigma fun _ : String => LoadedModule) → Option β) :
    ((listRows M cfg s).filterMap fun r =>
      (s.loaded.lookup r.1).bind fun m => f ⟨r.1, m⟩).Perm (s.loaded.entries.filterMap f) := by
  have hkeys : ((listRows M cfg s).filterMap fun r =>
      (s.loaded.lookup r.1).bind fun m => f ⟨r.1, m⟩) =
        (((listRows M cfg s).filter fun r => (s.loaded.lookup r.1).isSome).map
          Prod.fst).filterMap fun n => (s.loaded.lookup n).bind fun m => f ⟨n, m⟩ := by
    rw [List.filterMap_map, List.filterMap_filter]
    refine List.filterMap_congr fun r _ => ?_
    cases hl : s.loaded.lookup r.1 with
    | none => rfl
    | some m => simp only [Option.isSome_some, if_true, Function.comp, hl]
  have hentries : s.loaded.keys.filterMap (fun n =>
      (s.loaded.lookup n).bind fun m => f ⟨n, m⟩) = s.loaded.entries.filterMap f := by
    rw [AList.keys, List.keys, List.filterMap_map]
    refine List.filterMap_congr fun e he => ?_
    have hl : s.loaded.lookup e.1 = some e.2 := AList.mem_lookup_iff.mpr he
    simp only [Function.comp, hl]
    rfl
  rw [hkeys, ← hentries]
  exact rows_perm_keys.filterMap _

theorem toOption_moduleStatusProto (name : String) :
    (moduleStatusProto M cfg s name).toOption =
      (s.loaded.lookup name).bind fun m => ownStatus M ⟨name, m⟩ := by
  cases hl : s.loaded.lookup name with
  | none =>
    simp only [moduleStatusProto, status, loadedModuleOrErr, hl]
    split <;> rfl
  | some m =>
    simp only [moduleStatusProto, status, health, loadedModuleOrErr, hl, Option.bind_some,
      ownStatus]
    cases hs : M.status m.inst with
    | error e => simp [Except.bind, Except.mapError, Except.toOption, hs]
    | ok st => simp [Except.bind, Except.map, Except.mapError, Except.toOption, hs]

theorem toOption_commands (name : String) :
    ((commands M cfg s name).map fun c => (name, c)).toOption =
      (s.loaded.lookup name).map fun m => (name, M.commands m.inst) := by
  cases hl : s.loaded.lookup name with
  | none =>
    simp only [Supervisor.commands, loadedModuleOrErr, hl]
    split <;> rfl
  | some m =>
    simp only [Supervisor.commands, loadedModuleOrErr, hl]
    rfl

theorem eq_none_of_length_filterMap {α β : Type} {f g : α → Option β} {l : List α}
    (hfg : ∀ x ∈ l, g x = none ∨ f x = g x)
    (hlen : (l.filterMap f).length = (l.filterMap g).length) :
    ∀ x ∈ l, g x = none → f x = none := by
  intro x hx hg
  have hsub : (l.filter fun x => (f x).isSome).filter (fun x => (g x).isSome) =
      l.filter fun x => (g x).isSome := by
    rw [List.filter_filter]
    refine List.filter_congr fun y hy => ?_
    rcases hfg y hy with h | h <;> simp [h]
  rw [List.length_filterMap_eq_countP, List.length_filterMap_eq_countP,
    List.countP_eq_length_filter, List.countP_eq_length_filter, ← hsub] at hlen
  by_contra hf
  have hsome := List.length_filter_eq_length_iff.mp hlen.symm x
    (List.mem_filter.mpr ⟨hx, Option.isSome_iff_ne_none.mpr hf⟩)
  rw [hg] at hsome
  cases hsome

end Rows

/-- **The listing is faithful** exactly if modules report the names they were loaded by. -/
theorem listingFaithful_iff {γ : Type} (M : Reports γ) (cfg : SupervisorConfig)
    (s : Supervisor) : ListingFaithful M cfg s ↔ NameThemselves M cfg s := by
  constructor
  · intro h
    have hown : ∀ n m, s.loaded.lookup n = some m → reportedName M cfg n m = n := by
      intro n m hm
      obtain ⟨r, hr, rfl⟩ := List.mem_map.mp (mem_listRows_of_lookup M cfg hm)
      rw [← (mem_listRows hr).1 m hm]
      exact (leadsTo_iff hm).mp (h.leads r hr m hm)
    refine ⟨hown, fun n hn hnone => ?_⟩
    -- One answer per entry: the rows of modules that are not loaded add none.
    let f : String × Row → Option (String × List γ) := fun r =>
      (s.loaded.lookup r.2.1.name).map fun m => (r.2.1.name, M.commands m.inst)
    let g : String × Row → Option (String × List γ) := fun r =>
      (s.loaded.lookup r.1).bind fun m => some (r.1, M.commands m.inst)
    have hfg : ∀ r ∈ listRows M cfg s, g r = none ∨ f r = g r := by
      intro r hr
      cases hl : s.loaded.lookup r.1 with
      | none => exact .inl (by simp only [g, hl, Option.bind_none])
      | some m =>
        refine .inr ?_
        have hname := ((mem_listRows hr).1 m hl).trans (hown r.1 m hl)
        simp only [f, g]
        rw [hname, hl]
        rfl
    have hlen : ((listRows M cfg s).filterMap f).length =
        ((listRows M cfg s).filterMap g).length := by
      have hf : (listRows M cfg s).filterMap f = listCommands M cfg s := by
        simp only [listCommands, Supervisor.list, List.filterMap_map, toOption_commands]
        rfl
      have hg := (filterMap_rows_perm M cfg s
        fun e => some (e.1, M.commands e.2.inst)).length_eq
      rw [List.filterMap_eq_map'] at hg
      rw [hf, h.commands.length_eq]
      exact hg.symm
    have hrow : (n, M.builtinInfo n, s.listedState n, false) ∈ listRows M cfg s :=
      List.mem_append_left _ (List.mem_map.mpr ⟨n, List.mem_dedup.mpr hn, rfl⟩)
    have hnone' := eq_none_of_length_filterMap hfg hlen _ hrow
      (by simp only [g, hnone, Option.bind_none])
    exact Option.map_eq_none_iff.mp hnone'
  · intro h
    have hsame : ∀ r ∈ listRows M cfg s, ∀ {β : Type}
        (f : (Sigma fun _ : String => LoadedModule) → Option β),
        ((s.loaded.lookup r.2.1.name).bind fun m => f ⟨r.2.1.name, m⟩) =
          (s.loaded.lookup r.1).bind fun m => f ⟨r.1, m⟩ := by
      intro r hr β f
      cases hl : s.loaded.lookup r.1 with
      | some m =>
        have hname := ((mem_listRows hr).1 m hl).trans (h.1 r.1 m hl)
        rw [hname, hl]
      | none =>
        obtain ⟨hreg, hinfo⟩ := (mem_listRows hr).2 hl
        rw [hinfo, h.2 r.1 hreg hl]
        rfl
    refine ⟨rows_perm_keys, fun r hr m hm => ?_, ?_, ?_⟩
    · exact (leadsTo_iff hm).mpr (((mem_listRows hr).1 m hm).trans (h.1 r.1 m hm))
    · have he : getStatus M cfg s = (listRows M cfg s).filterMap fun r =>
          (s.loaded.lookup r.1).bind fun m => ownStatus M ⟨r.1, m⟩ := by
        simp only [getStatus, Supervisor.list, List.filterMap_map, toOption_moduleStatusProto]
        exact List.filterMap_congr fun r hr => hsame r hr (ownStatus M)
      rw [he]
      exact filterMap_rows_perm M cfg s (ownStatus M)
    · have he : listCommands M cfg s = (listRows M cfg s).filterMap fun r =>
          (s.loaded.lookup r.1).bind fun m => some (r.1, M.commands m.inst) := by
        simp only [listCommands, Supervisor.list, List.filterMap_map, toOption_commands]
        refine List.filterMap_congr fun r hr => ?_
        rw [← hsame r hr fun e => some (e.1, M.commands e.2.inst)]
        exact Option.map_eq_bind
      rw [he, ← List.filterMap_eq_map']
      exact filterMap_rows_perm M cfg s fun e => some (e.1, M.commands e.2.inst)

def pluginCalled (name : String) : Reports String where
  builtinInfo n := ⟨n, "1.0.0", "", ""⟩
  info _ := ⟨name, "1.0.0", "", ""⟩
  status _ := .ok ⟨.running, []⟩
  health _ := ⟨.healthy, ""⟩
  commands _ := ["ping"]

def pluginLoaded : Supervisor := ((Supervisor.new .absent).load oneModule "hello" succeeding true).2

example : NameThemselves (pluginCalled "hello") oneModule pluginLoaded := by
  have hnone : ∀ n, n ≠ "hello" → pluginLoaded.loaded.lookup n = none :=
    fun n hn => AList.lookup_insert_ne hn
  refine ⟨fun n m hm => ?_, fun n _ hn => hn⟩
  by_cases hn : n = "hello"
  · subst hn
    rfl
  · cases (hnone n hn).symm.trans hm

/-- **A plugin that calls itself something else** is listed under a name that leads nowhere. -/
theorem misnamed_plugin_unreachable :
    list (pluginCalled "greeter") oneModule pluginLoaded =
        [(⟨"alpha", "1.0.0", "", ""⟩, .disabled, false),
          (⟨"greeter", "1.0.0", "", ""⟩, .running, true)] ∧
      getStatus (pluginCalled "greeter") oneModule pluginLoaded = [] ∧
      listCommands (pluginCalled "greeter") oneModule pluginLoaded = [] ∧
      ((pluginLoaded.unload "greeter" true).loaded.lookup "hello").isSome = true ∧
      ¬ ListingFaithful (pluginCalled "greeter") oneModule pluginLoaded := by
  refine ⟨by decide +kernel, by decide +kernel, by decide +kernel, by decide +kernel, fun h => ?_⟩
  have hlen := h.commands.length_eq
  revert hlen
  decide +kernel

end Penguind.Daemon
